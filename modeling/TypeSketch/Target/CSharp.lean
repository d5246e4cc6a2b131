-- C#: positional records, or classes with properties, and the attributes that
-- keep the keys.
import TypeSketch.Naming.Identifier
import TypeSketch.Options.Shared
import TypeSketch.Shape.Basic
import TypeSketch.Text.Lines
import TypeSketch.Text.Quoted

namespace TypeSketch.CSharp

open Text

/-- The choices for C#. Without a namespace there is no namespace clause. -/
structure Options extends SharedOptions where
  useRecords : Bool := true
  useNullable : Bool := true
  useSystemTextJson : Bool := true
  useNewtonsoft : Bool := false
  generateDataContract : Bool := false
  nameSpace : String := ""
  deriving DecidableEq, Repr

/-- The settings of an option record. -/
def Options.settings : List (Setting Options) :=
  SharedOptions.settings Options.toSharedOptions (fun c o => { o with toSharedOptions := c }) ++
    [.flag "use_records" useRecords fun b o => { o with useRecords := b },
      .flag "use_nullable_reference_types" useNullable fun b o => { o with useNullable := b },
      .flag "use_system_text_json" useSystemTextJson fun b o => { o with useSystemTextJson := b },
      .flag "use_newtonsoft" useNewtonsoft fun b o => { o with useNewtonsoft := b },
      .flag "generate_data_contract" generateDataContract fun b o =>
        { o with generateDataContract := b },
      .text "namespace" nameSpace fun s o => { o with nameSpace := s }]

/-- The namespaces to import, in order. -/
def Options.usings (o : Options) : List String :=
  ["System.Collections.Generic"] ++
    (if o.useSystemTextJson then ["System.Text.Json.Serialization"] else []) ++
    (if o.useNewtonsoft then ["Newtonsoft.Json"] else []) ++
    if o.generateDataContract then ["System.Runtime.Serialization"] else []

/-- The imports, the directive on nullable types and the namespace clause. -/
def header (o : Options) : String :=
  unlines ((o.usings.map fun name => "using " ++ name ++ ";") ++
    (if o.useNullable then ["", "#nullable enable"] else []) ++
    if o.nameSpace = "" then [] else ["", "namespace " ++ o.nameSpace ++ ";"]) ++ "\n"

/-- The type of a scalar. -/
def scalarType : Scalar → String
  | .string => "string"
  | .number => "double"
  | .boolean => "bool"
  | .null => "object"
  | .any => "object"

/-- The type expression of a shape. -/
def typeOf : Shape → String
  | .scalar k => scalarType k
  | .array _ e => "List<" ++ typeOf e ++ ">"
  | .object n _ => n

/-- A property of a class or a parameter of a record. -/
structure Member where
  name : String
  type : String
  /-- The key as a literal, where the name differs from it. -/
  renamed : Option String
  attributes : List String

/-- The attributes that keep a key, given as a literal. -/
def renameAttributes (o : Options) (literal : String) : List String :=
  (if o.useSystemTextJson then ["JsonPropertyName(" ++ literal ++ ")"] else []) ++
    if o.useNewtonsoft then ["JsonProperty(" ++ literal ++ ")"] else []

/-- The member for a field. -/
def member (o : Options) (f : Field) : Member :=
  let name := Naming.convertKey .pascal "_" "field" f.1
  let renamed := if name = f.1 then none else some (quote f.1)
  { name, renamed
    type := if o.optionalProperties && o.useNullable then typeOf f.2 ++ "?" else typeOf f.2
    attributes :=
      (match renamed with
        | some literal => renameAttributes o literal
        | none => []) ++
        if o.generateDataContract then ["DataMember(Name = " ++ quote f.1 ++ ")"] else [] }

/-- The parameter of a record; its attributes are meant for the property. -/
def Member.parameter (m : Member) : String :=
  "    " ++ String.join (m.attributes.map fun a => "[property: " ++ a ++ "] ") ++ m.type ++ " " ++
    m.name

/-- The lines of a property. -/
def Member.propertyLines (m : Member) : List String :=
  (m.attributes.map fun a => "    [" ++ a ++ "]") ++
    ["    public " ++ m.type ++ " " ++ m.name ++ " \x7b get; set; \x7d"]

/-- The mark of a type that takes part in a data contract. -/
def contractLines (o : Options) : List String :=
  if o.generateDataContract then ["[DataContract]"] else []

/-- Lines with a comma behind each but the last. -/
def commaSeparated : List String → List String
  | [] => []
  | [last] => [last]
  | l :: r => (l ++ ",") :: commaSeparated r

/-- The lines of a type with some members. -/
def layout (o : Options) (name : String) (ms : List Member) : List String :=
  contractLines o ++
    if o.useRecords then
      ("public record " ++ name ++ "(") :: commaSeparated (ms.map Member.parameter) ++ [");"]
    else
      ["public class " ++ name, "\x7b"] ++ [""].intercalate (ms.map Member.propertyLines) ++
        ["\x7d"]

/-- The lines that define a type. -/
def definition (o : Options) (t : ObjectType) : List String :=
  layout o t.name (t.fields.map (member o))

end TypeSketch.CSharp
