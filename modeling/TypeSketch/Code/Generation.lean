-- Generation: the code for a document together with the warnings and the facts
-- about it, and the notes that the work leaves in the journal.
import TypeSketch.Code.Emit
import TypeSketch.Code.Warning
import TypeSketch.Journal
import TypeSketch.Json.Shown

namespace TypeSketch

/-- Facts about generated code. -/
structure Metadata where
  language : Language
  typeCount : Nat
  rootName : String
  optionalProperties : Bool
  hasCollisions : Bool
  deriving DecidableEq, Repr

/-- The outcome of a generation. -/
structure Generation where
  code : String
  warnings : List String
  metadata : Metadata
  deriving DecidableEq, Repr

/-- Why there is no code. -/
inductive GenerationError where
  | wrongRecord (language : Language) (given : Emitter)
  | missingSetting (record : Emitter) (setting : String)
  deriving DecidableEq, Repr

namespace GenerationError

/-- The error in words. -/
def message : GenerationError → String
  | wrongRecord language given =>
    s!"{language.tag} generator expects {(Emitter.of language).recordTitle}, " ++
      s!"got {given.recordTitle}"
  | missingSetting record setting =>
    s!"'{record.recordTitle}' object has no attribute '{setting}'"

/-- The error as the outcome of a generation tells it. -/
def report (e : GenerationError) : String := "Code generation failed: " ++ e.message

end GenerationError

namespace OptionRecord

/-- The options of a language, if the record is one of that language. -/
def forLanguage (l : Language) : OptionRecord → Except GenerationError LanguageOptions
  | of o => if o.language = l then .ok o else .error (.wrongRecord l (.of o.language))
  | plain _ => .error (.wrongRecord l .plain)

/-- Whether a record has a setting of a given name. -/
def hasSetting (r : OptionRecord) (name : String) : Bool := r.values.any fun v => v.1 == name

/-- The setting that the warnings of a language read from a record of any kind. -/
def settingForWarnings : Language → Option String
  | .go => some "package_name"
  | .python => some "style"
  | _ => none

/-- Why a record that is not one of the language gives no code: the warnings come first, and
some read a setting that the record may lack. -/
def refusal (l : Language) (r : OptionRecord) : GenerationError :=
  match settingForWarnings l with
  | some s => if r.hasSetting s then .wrongRecord l r.emitter else .missingSetting r.emitter s
  | none => .wrongRecord l r.emitter

end OptionRecord

/-! ## Notes -/

namespace Shape

/-- The note on the types of a root. -/
def flattenNote (root : Shape) : Note :=
  let names := root.distinct.map name
  ⟨.debug, .shape, s!"Flattened {root.name} into {names.length} type(s): " ++
    (Json.arr (names.map Json.str)).shown⟩

/-- The notes on names that differently built objects share. -/
def collisionNotes (root : Shape) : Journal :=
  root.collisions.map fun c =>
    ⟨.warning, .shape,
      s!"Type name {c.1} is shared by {c.2.length} different shapes; only the first is emitted"⟩

/-- The notes on a look for warnings. -/
def warningNotes (root : Shape) : Journal := root.flattenNote :: root.collisionNotes

end Shape

namespace LanguageOptions

/-- The notes on generating code for a root. -/
def codeNotes (o : LanguageOptions) (root : Shape) : Journal :=
  root.flattenNote ::
    if (o.definitions root.types).isEmpty then
      [⟨.debug, .generation,
        s!"No object types reachable from {o.shared.rootName}; nothing to emit"⟩]
    else []

/-! ## Generation -/

/-- Code, warnings and facts for a document. -/
def generation (o : LanguageOptions) (v : Json) : Generation :=
  let root := o.rootShape v
  let warnings := (o.warnings root).map Warning.text
  { code := o.generate v
    warnings
    metadata :=
      { language := o.language
        typeCount := root.types.length
        rootName := o.shared.rootName
        optionalProperties := o.shared.optionalProperties
        hasCollisions := warnings.any fun w => Text.holds w "different shapes" } }

/-- The notes on such a generation. -/
def generationNotes (o : LanguageOptions) (v : Json) : Journal :=
  let root := o.rootShape v
  root.warningNotes ++ o.codeNotes root ++ [root.flattenNote]

end LanguageOptions

/-- Code, warnings and facts for a document, from the emitter of a language and a record that has
to be one of that language. -/
def generateWith (l : Language) (r : OptionRecord) (v : Json) : Noted GenerationError Generation :=
  let root := Shape.infer r.shared.rootName v
  match r.forLanguage l with
  | .ok o => do
    Noted.notes (o.generationNotes v)
    return o.generation v
  | .error _ => do
    let e := r.refusal l
    Noted.notes root.warningNotes
    Noted.note .error .generation <|
      match e with
      | .wrongRecord .. => e.report
      | .missingSetting .. => "Unexpected code generation failure"
    throw e

end TypeSketch
