-- The settings that every target language has.
import TypeSketch.Options.Setting

namespace TypeSketch

/-- Options of any language: the name of the root type, and whether every property may be
missing. -/
structure SharedOptions where
  rootName : String := "Root"
  optionalProperties : Bool := false
  deriving DecidableEq, Repr

/-- The settings that a record has in common with all others, where `get` and `set` reach them. -/
def SharedOptions.settings {R : Type} (get : R → SharedOptions) (set : SharedOptions → R → R) :
    List (Setting R) :=
  [.text "root_name" (fun r => (get r).rootName) fun s r => set { get r with rootName := s } r,
    .flag "optional_properties" (fun r => (get r).optionalProperties) fun b r =>
      set { get r with optionalProperties := b } r]

end TypeSketch
