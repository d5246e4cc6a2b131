-- TypeScript: interfaces or type aliases whose properties keep the keys of the
-- document, quoted where a key is not an identifier.
import TypeSketch.Naming.Identifier
import TypeSketch.Options.Shared
import TypeSketch.Shape.Basic
import TypeSketch.Text.Quoted

namespace TypeSketch.TypeScript

open Text

/-- The choices for TypeScript. -/
structure Options extends SharedOptions where
  useInterface : Bool := true
  useExport : Bool := true
  useReadonly : Bool := false
  strictNullChecks : Bool := true
  deriving DecidableEq, Repr

/-- The settings of an option record. -/
def Options.settings : List (Setting Options) :=
  SharedOptions.settings Options.toSharedOptions (fun c o => { o with toSharedOptions := c }) ++
    [.flag "use_interface" useInterface fun b o => { o with useInterface := b },
      .flag "use_export" useExport fun b o => { o with useExport := b },
      .flag "use_readonly" useReadonly fun b o => { o with useReadonly := b },
      .flag "strict_null_checks" strictNullChecks fun b o => { o with strictNullChecks := b }]

/-! ## Type expressions -/

/-- The type of a scalar. Without strict checks nothing is told of a null. -/
def scalarType (o : Options) : Scalar → String
  | .string => "string"
  | .number => "number"
  | .boolean => "boolean"
  | .null => if o.strictNullChecks then "null" else "any"
  | .any => "unknown"

/-- The type expression of a shape. -/
def typeOf (o : Options) : Shape → String
  | .scalar k => scalarType o k
  | .array _ e => typeOf o e ++ "[]"
  | .object n _ => n

/-! ## Property keys -/

/-- Whether a character may begin a property key without quotes. -/
def isKeyStart (c : Char) : Bool := Naming.isStartChar c || c == '$'

/-- Whether a character may stand in a property key without quotes. -/
def isKeyChar (c : Char) : Bool := isWordChar c || c == '$'

/-- Whether a key needs no quotes. -/
def isBareKey (key : String) : Bool := Naming.matchesName isKeyStart isKeyChar key.toList

/-- The inside of a single-quoted key: a double quote loses its backslash and a single one gets
one. -/
def keyBody (key : List Char) : List Char :=
  replaceOne '\'' ['\\', '\''] (replacePair '\\' '"' ['"'] (literalBody key))

/-- A key as the name of a property. -/
def propertyKey (key : String) : String :=
  if isBareKey key then key else String.ofList ('\'' :: keyBody key.toList ++ ['\''])

/-! ## Definitions -/

/-- A property of an interface. -/
structure Member where
  key : String
  type : String
  optional : Bool
  readonly : Bool

/-- The property for a field. -/
def member (o : Options) (f : Field) : Member where
  key := propertyKey f.1
  type :=
    typeOf o f.2 ++ if o.optionalProperties && o.strictNullChecks then " | undefined" else ""
  optional := o.optionalProperties
  readonly := o.useReadonly

/-- The line of a property. -/
def Member.line (m : Member) : String :=
  "  " ++ (if m.readonly then "readonly " else "") ++ m.key ++ (if m.optional then "?" else "") ++
    ": " ++ m.type ++ ";"

/-- The lines of a type with some properties. -/
def layout (o : Options) (name : String) (ms : List Member) : List String :=
  ((if o.useExport then "export " else "") ++
      (if o.useInterface then "interface " ++ name else "type " ++ name ++ " =") ++ " \x7b") ::
    ms.map Member.line ++ ["\x7d"]

/-- The lines that define a type. -/
def definition (o : Options) (t : ObjectType) : List String :=
  layout o t.name (t.fields.map (member o))

end TypeSketch.TypeScript
