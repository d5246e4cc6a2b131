-- Kotlin: data classes whose parameters may be nullable and have defaults, with
-- the annotations of a library that keep the keys.
import TypeSketch.Naming.Identifier
import TypeSketch.Options.Shared
import TypeSketch.Shape.Basic
import TypeSketch.Text.Lines
import TypeSketch.Text.Quoted

namespace TypeSketch.Kotlin

open Text

/-- The library whose annotations are written. -/
inductive Serialization where
  | none
  | kotlinx
  | gson
  | moshi
  | jackson
  deriving DecidableEq, Repr

instance : Choice Serialization where
  all := [.none, .kotlinx, .gson, .moshi, .jackson]
  name
    | .none => "none"
    | .kotlinx => "kotlinx"
    | .gson => "gson"
    | .moshi => "moshi"
    | .jackson => "jackson"

/-- The choices for Kotlin. -/
structure Options extends SharedOptions where
  useDataClass : Bool := true
  serialization : Serialization := .none
  useDefaultValues : Bool := false
  deriving DecidableEq, Repr

/-- The settings of an option record. -/
def Options.settings : List (Setting Options) :=
  SharedOptions.settings Options.toSharedOptions (fun c o => { o with toSharedOptions := c }) ++
    [.flag "use_data_class" useDataClass fun b o => { o with useDataClass := b },
      .choice "serialization_library" serialization fun s o => { o with serialization := s },
      .flag "use_default_values" useDefaultValues fun b o => { o with useDefaultValues := b }]

/-- The imports of a library. -/
def Serialization.imports : Serialization → List String
  | none => []
  | kotlinx => ["kotlinx.serialization.Serializable", "kotlinx.serialization.SerialName"]
  | gson => ["com.google.gson.annotations.SerializedName"]
  | moshi => ["com.squareup.moshi.Json"]
  | jackson => ["com.fasterxml.jackson.annotation.JsonProperty"]

/-- The imports. -/
def header (o : Options) : String :=
  unlines (o.serialization.imports.map ("import " ++ ·))

/-- The type of a scalar. -/
def scalarType : Scalar → String
  | .string => "String"
  | .number => "Double"
  | .boolean => "Boolean"
  | .null => "Any"
  | .any => "Any"

/-- The type expression of a shape. -/
def typeOf : Shape → String
  | .scalar k => scalarType k
  | .array _ e => "List<" ++ typeOf e ++ ">"
  | .object n _ => n

/-- The default value of a shape. -/
def defaultValue : Shape → String
  | .scalar .string => "\"\""
  | .scalar .number => "0.0"
  | .scalar .boolean => "false"
  | .scalar _ => "null"
  | .array .. => "emptyList()"
  | .object .. => "null"

/-- A parameter of a class. -/
structure Member where
  name : String
  type : String
  value : Option String
  /-- The annotation that keeps the key. -/
  rename : Option String

/-- The annotation that keeps a key, given as a literal. -/
def Serialization.rename? (literal : String) : Serialization → Option String
  | none => .none
  | kotlinx => some ("@SerialName(" ++ literal ++ ")")
  | gson => some ("@SerializedName(" ++ literal ++ ")")
  | moshi => some ("@Json(name = " ++ literal ++ ")")
  | jackson => some ("@JsonProperty(" ++ literal ++ ")")

/-- The parameter for a field. A default of null makes the type nullable. -/
def member (o : Options) (f : Field) : Member :=
  let name := Naming.convertKey .camel "_" "field" f.1
  let nullable := o.optionalProperties || (o.useDefaultValues && defaultValue f.2 == "null")
  { name
    type := if nullable then typeOf f.2 ++ "?" else typeOf f.2
    value := if o.useDefaultValues then some (defaultValue f.2) else none
    rename := if name = f.1 then none else o.serialization.rename? (quote f.1) }

/-- The line of a parameter, without the comma behind it. -/
def Member.line (m : Member) : String :=
  "    val " ++ m.name ++ ": " ++ m.type ++
    match m.value with
    | some v => " = " ++ v
    | none => ""

/-- The line of a parameter's annotation. -/
def Member.annotations (m : Member) : List String := m.rename.toList.map ("    " ++ ·)

/-- The lines of the parameters, a comma behind each but the last. -/
def parameterLines : List Member → List String
  | [] => []
  | [m] => m.annotations ++ [m.line]
  | m :: r => m.annotations ++ (m.line ++ ",") :: parameterLines r

/-- The lines of a class with some parameters. -/
def layout (o : Options) (name : String) (ms : List Member) : List String :=
  (if o.serialization = .kotlinx then ["@Serializable"] else []) ++
    ((if o.useDataClass then "data class " else "class ") ++ name ++ "(") ::
    parameterLines ms ++ [")"]

/-- The lines that define a type. -/
def definition (o : Options) (t : ObjectType) : List String :=
  layout o t.name (t.fields.map (member o))

end TypeSketch.Kotlin
