-- Python: data classes, typed dictionaries or models, under the imports that
-- their members use.
import TypeSketch.Naming.Identifier
import TypeSketch.Options.Shared
import TypeSketch.Shape.Basic
import TypeSketch.Text.Quoted

namespace TypeSketch.Python

open Text

/-- The kind of class that is written. -/
inductive Style where
  | dataclass
  | typedDict
  | pydantic
  deriving DecidableEq, Repr

instance : Choice Style where
  all := [.dataclass, .typedDict, .pydantic]
  name
    | .dataclass => "dataclass"
    | .typedDict => "typeddict"
    | .pydantic => "pydantic"

/-- The choices for Python. -/
structure Options extends SharedOptions where
  style : Style := .dataclass
  useFrozen : Bool := false
  useSlots : Bool := false
  useKwOnly : Bool := false
  useTotal : Bool := true
  deriving DecidableEq, Repr

/-- The settings of an option record. -/
def Options.settings : List (Setting Options) :=
  SharedOptions.settings Options.toSharedOptions (fun c o => { o with toSharedOptions := c }) ++
    [.choice "style" style fun s o => { o with style := s },
      .flag "use_frozen" useFrozen fun b o => { o with useFrozen := b },
      .flag "use_slots" useSlots fun b o => { o with useSlots := b },
      .flag "use_kw_only" useKwOnly fun b o => { o with useKwOnly := b },
      .flag "use_total" useTotal fun b o => { o with useTotal := b }]

/-! ## Names and types -/

/-- The words that cannot be names. -/
def keywords : List String :=
  ["False", "None", "True", "and", "as", "assert", "async", "await", "break", "class", "continue",
    "def", "del", "elif", "else", "except", "finally", "for", "from", "global", "if", "import",
    "in", "is", "lambda", "nonlocal", "not", "or", "pass", "raise", "return", "try", "while",
    "with", "yield"]

/-- Whether a key can be written as the name of an attribute. -/
def isAttributeName (key : String) : Bool := Naming.isIdentifier key && key ∉ keywords

/-- The attribute for a key; a keyword gets an underscore behind it. -/
def memberName (key : String) : String :=
  let name := Naming.convertKey .snake "field_" "field" key
  if name ∈ keywords then name ++ "_" else name

/-- The type of a scalar. -/
def scalarType : Scalar → String
  | .string => "str"
  | .number => "float"
  | .boolean => "bool"
  | .null => "None"
  | .any => "Any"

/-- The type expression of a shape. -/
def typeOf : Shape → String
  | .scalar k => scalarType k
  | .array _ e => "list[" ++ typeOf e ++ "]"
  | .object n _ => n

/-! ## Members -/

/-- A name that a definition takes from a module. -/
inductive Import where
  | dataclass
  | field
  | any
  | notRequired
  | typedDict
  | baseModel
  | modelField
  deriving DecidableEq, Repr

/-- A member of a class. -/
structure Member where
  /-- What stands before the colon: an attribute, or the key itself. -/
  name : String
  type : String
  /-- What stands behind the equality sign. -/
  value : Option String
  /-- The key as a literal, where the attribute's name differs from it. -/
  renamed : Option String
  imports : List Import

/-- The placeholder's import, where the shape ends in it. -/
def anyImport (s : Shape) : List Import :=
  match s.innermost with
  | .scalar .any => [.any]
  | _ => []

/-- The member of a typed dictionary. -/
def dictMember (o : Options) (f : Field) : Member :=
  if o.optionalProperties then
    { name := f.1, type := "NotRequired[" ++ typeOf f.2 ++ "]", value := none, renamed := none,
      imports := anyImport f.2 ++ [.notRequired] }
  else
    { name := f.1, type := typeOf f.2, value := none, renamed := none, imports := anyImport f.2 }

/-- The member of a data class or a model. -/
def classMember (o : Options) (f : Field) : Member :=
  let name := memberName f.1
  let type :=
    if o.optionalProperties && typeOf f.2 != "None" then typeOf f.2 ++ " | None" else typeOf f.2
  let absent := if o.optionalProperties then ["default=None"] else []
  if name = f.1 then
    { name, type, renamed := none, imports := anyImport f.2,
      value := if o.optionalProperties then some "None" else none }
  else
    let literal := quote f.1
    match o.style with
    | .pydantic =>
      { name, type, renamed := some literal, imports := anyImport f.2 ++ [.modelField],
        value := some ("Field(" ++ listed (absent ++ ["alias=" ++ literal]) ++ ")") }
    | _ =>
      { name, type, renamed := some literal, imports := anyImport f.2 ++ [.field],
        value := some ("field(" ++
          listed (absent ++ ["metadata=\x7b\"json_key\": " ++ literal ++ "\x7d"]) ++ ")") }

/-- The member for a field. -/
def member (o : Options) (f : Field) : Member :=
  match o.style with
  | .typedDict => dictMember o f
  | _ => classMember o f

/-- The line of a member of a class. -/
def Member.line (m : Member) : String :=
  "    " ++ m.name ++ ": " ++ m.type ++
    match m.value with
    | some v => " = " ++ v
    | none => ""

/-! ## Definitions -/

/-- The members of a class, where a class without any has an empty body. -/
def body (ms : List Member) : List String :=
  if ms.isEmpty then ["    pass"] else ms.map Member.line

/-- The decorator of a data class. -/
def decorator (o : Options) : String :=
  let arguments :=
    (if o.useFrozen then ["frozen=True"] else []) ++ (if o.useSlots then ["slots=True"] else []) ++
      if o.useKwOnly then ["kw_only=True"] else []
  if arguments.isEmpty then "@dataclass" else "@dataclass(" ++ listed arguments ++ ")"

/-- Whether a typed dictionary has to be written as a call, because a key is not a name. -/
def needsCall (ms : List Member) : Bool := ms.any fun m => !isAttributeName m.name

/-- The lines of a typed dictionary. -/
def dictLines (o : Options) (name : String) (ms : List Member) : List String :=
  let total := if o.useTotal then "" else ", total=False"
  if needsCall ms then
    (name ++ " = TypedDict(" ++ quote name ++ ", \x7b") ::
      ms.map (fun m => "    " ++ quote m.name ++ ": " ++ m.type ++ ",") ++ ["\x7d" ++ total ++ ")"]
  else ("class " ++ name ++ "(TypedDict" ++ total ++ "):") :: body ms

/-- The lines of a class with some members. -/
def layout (o : Options) (name : String) (ms : List Member) : List String :=
  match o.style with
  | .typedDict => dictLines o name ms
  | .pydantic => ("class " ++ name ++ "(BaseModel):") :: body ms
  | .dataclass => [decorator o, "class " ++ name ++ ":"] ++ body ms

/-- The lines that define a type. -/
def definition (o : Options) (t : ObjectType) : List String :=
  layout o t.name (t.fields.map (member o))

/-! ## Imports -/

/-- The import that a style cannot do without. -/
def Style.base : Style → Import
  | dataclass => .dataclass
  | typedDict => .typedDict
  | pydantic => .baseModel

/-- The imports that definitions use. -/
def usedImports (o : Options) (types : List ObjectType) : List Import :=
  o.style.base :: types.flatMap fun t => t.fields.flatMap fun f => (member o f).imports

/-- The modules in the order of their import lines, in two groups: what comes with the language,
and what does not. The names of a module stand in the order of the alphabet. -/
def importGroups : List (List (String × List (Import × String))) :=
  [[("dataclasses", [(.dataclass, "dataclass"), (.field, "field")]),
      ("typing", [(.any, "Any"), (.notRequired, "NotRequired"), (.typedDict, "TypedDict")])],
    [("pydantic", [(.baseModel, "BaseModel"), (.modelField, "Field")])]]

/-- The import line of a module, if any of its names is used. -/
def importLine? (used : List Import) (source : String × List (Import × String)) : Option String :=
  match (source.2.filter fun n => n.1 ∈ used).map (·.2) with
  | [] => none
  | names => some ("from " ++ source.1 ++ " import " ++ listed names)

/-- The import lines of each group that has any. -/
def importBlocks (used : List Import) : List (List String) :=
  (importGroups.map fun g => g.filterMap (importLine? used)).filter (!·.isEmpty)

/-- The imports of the types to be defined, an empty line between the groups. -/
def header (o : Options) (types : List ObjectType) : String :=
  paragraphs ((importBlocks (usedImports o types)).map unlines) ++ "\n"

/-- The warnings that a record gives for itself. -/
def warnings (o : Options) : List String :=
  if o.style = .typedDict then ["TypedDict classes are type hints only - no runtime validation"]
  else []

end TypeSketch.Python
