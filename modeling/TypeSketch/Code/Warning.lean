-- What deserves a warning in the shape of a document, and what an option record
-- deserves on its own.
import TypeSketch.Options.Record
import TypeSketch.Shape.Collision

namespace TypeSketch

/-- Something that the code for a document does not tell. -/
inductive Warning where
  | noFields (type : String)
  | emptyArray (type key : String)
  | collision (type : String) (count : Nat)
  | ofOptions (text : String)
  deriving DecidableEq, Repr

namespace Warning

/-- The warning in words. -/
def text : Warning → String
  | noFields type => s!"Type '{type}' has no fields"
  | emptyArray type key => s!"Array field {type}.{key} is empty; element type unknown"
  | collision type count =>
    s!"Type name '{type}' is used by {count} different shapes; only the first is emitted"
  | ofOptions text => text

end Warning

/-- Whether a shape is an array without items. -/
def Shape.isEmptyArray : Shape → Bool
  | array _ (scalar .any) => true
  | _ => false

/-- The warnings for one type. -/
def ObjectType.warnings (t : ObjectType) : List Warning :=
  (if t.fields.isEmpty then [.noFields t.name] else []) ++
    (t.fields.filter fun f => f.2.isEmptyArray).map fun f => .emptyArray t.name f.1

/-- The warnings for a root. -/
def Shape.warnings (root : Shape) : List Warning :=
  root.types.flatMap ObjectType.warnings ++
    root.collisions.map fun c => .collision c.1 c.2.length

namespace LanguageOptions

/-- The warnings that a record deserves on its own. -/
def ownWarnings : LanguageOptions → List Warning
  | go o => (Go.warnings o).map .ofOptions
  | python o => (Python.warnings o).map .ofOptions
  | _ => []

/-- The warnings for a root under some options. -/
def warnings (o : LanguageOptions) (root : Shape) : List Warning := root.warnings ++ o.ownWarnings

end LanguageOptions

end TypeSketch
