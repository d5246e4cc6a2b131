-- Java: records, classes with accessors, annotated classes or interfaces, under
-- a package clause and the imports that the options call for.
import TypeSketch.Naming.Identifier
import TypeSketch.Options.Shared
import TypeSketch.Shape.Basic
import TypeSketch.Text.Lines
import TypeSketch.Text.Quoted

namespace TypeSketch.Java

open Text

/-- The kind of type that is written. -/
inductive ClassStyle where
  | record
  | pojo
  | lombok
  | immutables
  deriving DecidableEq, Repr

instance : Choice ClassStyle where
  all := [.record, .pojo, .lombok, .immutables]
  name
    | .record => "record"
    | .pojo => "pojo"
    | .lombok => "lombok"
    | .immutables => "immutables"

/-- The library whose annotation keeps the key of a renamed field. -/
inductive Serialization where
  | none
  | jackson
  | gson
  | moshi
  deriving DecidableEq, Repr

instance : Choice Serialization where
  all := [.none, .jackson, .gson, .moshi]
  name
    | .none => "none"
    | .jackson => "jackson"
    | .gson => "gson"
    | .moshi => "moshi"

/-- The choices for Java. -/
structure Options extends SharedOptions where
  packageName : String := "com.example"
  classStyle : ClassStyle := .record
  serialization : Serialization := .none
  useValidation : Bool := false
  generateBuilder : Bool := false
  generateEquals : Bool := true
  useOptional : Bool := false
  deriving DecidableEq, Repr

/-- The settings of an option record. -/
def Options.settings : List (Setting Options) :=
  SharedOptions.settings Options.toSharedOptions (fun c o => { o with toSharedOptions := c }) ++
    [.text "package_name" packageName fun s o => { o with packageName := s },
      .choice "class_style" classStyle fun s o => { o with classStyle := s },
      .choice "serialization_library" serialization fun s o => { o with serialization := s },
      .flag "use_validation" useValidation fun b o => { o with useValidation := b },
      .flag "generate_builder" generateBuilder fun b o => { o with generateBuilder := b },
      .flag "generate_equals" generateEquals fun b o => { o with generateEquals := b },
      .flag "use_optional" useOptional fun b o => { o with useOptional := b }]

/-! ## Imports -/

/-- The imports of a library. -/
def Serialization.imports : Serialization → List String
  | none => []
  | jackson => ["com.fasterxml.jackson.annotation.JsonProperty"]
  | gson => ["com.google.gson.annotations.SerializedName"]
  | moshi => ["com.squareup.moshi.Json"]

/-- The imports of a class style. -/
def ClassStyle.imports (builder : Bool) : ClassStyle → List String
  | lombok =>
    ["lombok.Data", "lombok.NoArgsConstructor", "lombok.AllArgsConstructor"] ++
      if builder then ["lombok.Builder"] else []
  | immutables => ["org.immutables.value.Value"]
  | _ => []

/-- The full names to import, in order. -/
def Options.imports (o : Options) : List String :=
  ["java.util.List"] ++
    (if o.useOptional && o.optionalProperties then ["java.util.Optional"] else []) ++
    (if o.generateEquals && o.classStyle == .pojo then ["java.util.Objects"] else []) ++
    o.serialization.imports ++ o.classStyle.imports o.generateBuilder ++
    if o.useValidation then
      ["javax.validation.constraints.NotNull", "javax.validation.constraints.NotBlank"]
    else []

/-- The package clause, if there is a package name, and the imports. -/
def header (o : Options) : String :=
  unlines ((if o.packageName = "" then [] else ["package " ++ o.packageName ++ ";", ""]) ++
    o.imports.map fun name => "import " ++ name ++ ";") ++ "\n"

/-! ## Type expressions -/

/-- The type of a scalar. -/
def scalarType : Scalar → String
  | .string => "String"
  | .number => "double"
  | .boolean => "boolean"
  | .null => "Object"
  | .any => "Object"

/-- The primitive types with the classes that stand for them inside generic types. -/
def boxes : List (String × String) :=
  [("int", "Integer"), ("long", "Long"), ("double", "Double"), ("float", "Float"),
    ("boolean", "Boolean"), ("byte", "Byte"), ("short", "Short"), ("char", "Character")]

/-- A type that may be the argument of a generic type. -/
def boxed (type : String) : String := (boxes.lookup type).getD type

/-- The type expression of a shape. -/
def typeOf : Shape → String
  | .scalar k => scalarType k
  | .array _ e => "List<" ++ boxed (typeOf e) ++ ">"
  | .object n _ => n

/-- The type expression of a shape inside a generic type. -/
def boxedTypeOf (s : Shape) : String := boxed (typeOf s)

/-! ## Members -/

/-- A field of a class or a component of a record. -/
structure Member where
  name : String
  type : String
  /-- The annotation that keeps the key. -/
  rename : Option String
  /-- The annotation that restricts the value. -/
  validation : Option String

/-- The annotation that keeps a key, given as a literal. -/
def Serialization.rename? (literal : String) : Serialization → Option String
  | none => .none
  | jackson => some ("@JsonProperty(" ++ literal ++ ")")
  | gson => some ("@SerializedName(" ++ literal ++ ")")
  | moshi => some ("@Json(name = " ++ literal ++ ")")

/-- The annotation that restricts the values of a shape. -/
def validation? : Shape → Option String
  | .scalar .string => some "@NotBlank"
  | .scalar _ => none
  | _ => some "@NotNull"

/-- Whether the members of a style carry annotations that restrict their values. -/
def ClassStyle.validates : ClassStyle → Bool
  | pojo => true
  | lombok => true
  | _ => false

/-- The member for a field. -/
def member (o : Options) (f : Field) : Member :=
  let name := Naming.convertKey .camel "_" "field" f.1
  { name
    type :=
      if o.useOptional && o.optionalProperties then "Optional<" ++ boxedTypeOf f.2 ++ ">"
      else typeOf f.2
    rename := if name = f.1 then none else o.serialization.rename? (quote f.1)
    validation := if o.useValidation && o.classStyle.validates then validation? f.2 else none }

/-- The stem of the names of a member's accessors. -/
def Member.accessor (m : Member) : String := Naming.NameCase.pascal.convert m.name

/-- The lines of a member's annotations. -/
def Member.annotations (m : Member) : List String :=
  (m.rename.toList ++ m.validation.toList).map ("    " ++ ·)

/-! ## Definitions -/

/-- Groups of lines with an empty line between neighbours. -/
def spacedOut (groups : List (List String)) : List String := [""].intercalate groups

/-- Items with a comma behind each but the last. -/
def commaEnded : List (List String × String) → List String
  | [] => []
  | [(before, last)] => before ++ [last]
  | (before, last) :: r => before ++ (last ++ ",") :: commaEnded r

/-- The lines of a record. -/
def recordLines (name : String) (ms : List Member) : List String :=
  ("public record " ++ name ++ "(") ::
    commaEnded (ms.map fun m => (m.annotations, "    " ++ m.type ++ " " ++ m.name)) ++
    [") \x7b\x7d"]

/-- The lines of a private field. -/
def Member.fieldLines (m : Member) : List String :=
  m.annotations ++ ["    private " ++ m.type ++ " " ++ m.name ++ ";"]

/-- The lines of a member's accessors, an empty line before each. -/
def Member.accessorLines (m : Member) : List String :=
  ["", "    public " ++ m.type ++ " get" ++ m.accessor ++ "() \x7b",
    "        return " ++ m.name ++ ";", "    \x7d", "",
    "    public void set" ++ m.accessor ++ "(" ++ m.type ++ " " ++ m.name ++ ") \x7b",
    "        this." ++ m.name ++ " = " ++ m.name ++ ";", "    \x7d"]

/-- The comparison of all members; further lines are indented under the first. -/
def equalsExpression (ms : List Member) : String :=
  if ms.isEmpty then "true"
  else " &&\n               ".intercalate
    (ms.map fun m => "Objects.equals(" ++ m.name ++ ", that." ++ m.name ++ ")")

/-- The lines of the methods that compare and hash. -/
def equalsLines (name : String) (ms : List Member) : List String :=
  ["", "    @Override", "    public boolean equals(Object o) \x7b",
    "        if (this == o) return true;",
    "        if (o == null || getClass() != o.getClass()) return false;",
    "        " ++ name ++ " that = (" ++ name ++ ") o;",
    "        return " ++ equalsExpression ms ++ ";", "    \x7d", "", "    @Override",
    "    public int hashCode() \x7b",
    "        return Objects.hash(" ++ listed (ms.map Member.name) ++ ");", "    \x7d"]

/-- The lines of a class with accessors. -/
def pojoLines (o : Options) (name : String) (ms : List Member) : List String :=
  ("public class " ++ name ++ " \x7b") :: ms.flatMap Member.fieldLines ++
    ms.flatMap Member.accessorLines ++ (if o.generateEquals then equalsLines name ms else []) ++
    ["\x7d"]

/-- The lines of a class whose methods come from annotations. -/
def lombokLines (o : Options) (name : String) (ms : List Member) : List String :=
  ["@Data"] ++ (if o.generateBuilder then ["@Builder"] else []) ++
    ["@NoArgsConstructor", "@AllArgsConstructor", "public class " ++ name ++ " \x7b"] ++
    spacedOut (ms.map Member.fieldLines) ++ ["\x7d"]

/-- The lines of an interface whose class is generated. -/
def immutablesLines (name : String) (ms : List Member) : List String :=
  ["@Value.Immutable", "public interface " ++ name ++ " \x7b"] ++
    spacedOut
      (ms.map fun m => m.annotations ++ ["    " ++ m.type ++ " " ++ m.name ++ "();"]) ++ ["\x7d"]

/-- The lines of a type with some members. -/
def layout (o : Options) (name : String) (ms : List Member) : List String :=
  match o.classStyle with
  | .record => recordLines name ms
  | .pojo => pojoLines o name ms
  | .lombok => lombokLines o name ms
  | .immutables => immutablesLines name ms

/-- The lines that define a type. -/
def definition (o : Options) (t : ObjectType) : List String :=
  layout o t.name (t.fields.map (member o))

end TypeSketch.Java
