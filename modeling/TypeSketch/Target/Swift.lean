-- Swift: coded structs or classes, with an enumeration of the keys where a
-- property does not have the name of its key.
import TypeSketch.Naming.Identifier
import TypeSketch.Options.Shared
import TypeSketch.Shape.Basic
import TypeSketch.Text.Quoted

namespace TypeSketch.Swift

open Text

/-- The choices for Swift. -/
structure Options extends SharedOptions where
  useStruct : Bool := true
  useCodingKeys : Bool := true
  useOptionalProperties : Bool := false
  deriving DecidableEq, Repr

/-- The settings of an option record. -/
def Options.settings : List (Setting Options) :=
  SharedOptions.settings Options.toSharedOptions (fun c o => { o with toSharedOptions := c }) ++
    [.flag "use_struct" useStruct fun b o => { o with useStruct := b },
      .flag "use_coding_keys" useCodingKeys fun b o => { o with useCodingKeys := b },
      .flag "use_optional_properties" useOptionalProperties fun b o =>
        { o with useOptionalProperties := b }]

/-- The type of a scalar. -/
def scalarType : Scalar → String
  | .string => "String"
  | .number => "Double"
  | .boolean => "Bool"
  | .null => "Any"
  | .any => "Any"

/-- The type expression of a shape. -/
def typeOf : Shape → String
  | .scalar k => scalarType k
  | .array _ e => "[" ++ typeOf e ++ "]"
  | .object n _ => n

/-- A property. -/
structure Member where
  name : String
  type : String
  /-- The key as a literal, where the name differs from it. -/
  renamed : Option String

/-- The property for a field. -/
def member (o : Options) (f : Field) : Member :=
  let name := Naming.convertKey .camel "_" "field" f.1
  { name
    type :=
      if o.optionalProperties || o.useOptionalProperties then typeOf f.2 ++ "?" else typeOf f.2
    renamed := if name = f.1 then none else some (quote f.1) }

/-- The line of a property. -/
def Member.line (m : Member) : String := "    let " ++ m.name ++ ": " ++ m.type

/-- The line of a property in the enumeration of the keys. -/
def Member.keyLine (m : Member) : String :=
  "        case " ++ m.name ++
    match m.renamed with
    | some literal => " = " ++ literal
    | none => ""

/-- The enumeration of the keys, where some property does not have the name of its key. -/
def codingKeys (o : Options) (ms : List Member) : List String :=
  if o.useCodingKeys && ms.any (·.renamed.isSome) then
    ["", "    enum CodingKeys: String, CodingKey \x7b"] ++ ms.map Member.keyLine ++ ["    \x7d"]
  else []

/-- The lines of a type with some properties. -/
def layout (o : Options) (name : String) (ms : List Member) : List String :=
  (if o.useStruct then "struct " ++ name ++ ": Codable \x7b"
    else "class " ++ name ++ ": Codable, Equatable \x7b") ::
    ms.map Member.line ++ codingKeys o ms ++ ["\x7d"]

/-- The lines that define a type. -/
def definition (o : Options) (t : ObjectType) : List String :=
  layout o t.name (t.fields.map (member o))

end TypeSketch.Swift
