-- Go: structs with exported fields, each with a tag that holds the key.
import TypeSketch.Naming.Identifier
import TypeSketch.Options.Shared
import TypeSketch.Shape.Basic
import TypeSketch.Text.NameChar
import TypeSketch.Text.Quoted

namespace TypeSketch.Go

open Text

/-- The choices for Go. Without a package name there is no package clause. -/
structure Options extends SharedOptions where
  usePointers : Bool := false
  omitEmpty : Bool := true
  useJsonTag : Bool := true
  packageName : String := ""
  deriving DecidableEq, Repr

/-- The settings of an option record. -/
def Options.settings : List (Setting Options) :=
  SharedOptions.settings Options.toSharedOptions (fun c o => { o with toSharedOptions := c }) ++
    [.flag "use_pointers" usePointers fun b o => { o with usePointers := b },
      .flag "omit_empty" omitEmpty fun b o => { o with omitEmpty := b },
      .flag "use_json_tag" useJsonTag fun b o => { o with useJsonTag := b },
      .text "package_name" packageName fun s o => { o with packageName := s }]

/-- The type of a scalar. -/
def scalarType : Scalar → String
  | .string => "string"
  | .number => "float64"
  | .boolean => "bool"
  | .null => "interface\x7b\x7d"
  | .any => "interface\x7b\x7d"

/-- The type expression of a shape. -/
def typeOf (o : Options) : Shape → String
  | .scalar k => scalarType k
  | .array _ e => "[]" ++ typeOf o e
  | .object n _ => if o.usePointers then "*" ++ n else n

/-- A field of a struct. -/
structure Member where
  name : String
  type : String
  /-- The key and the marks behind it, as they stand in the tag. -/
  tag : Option String

/-- The name of a field for a key: exported, so it begins with a capital letter. -/
def memberName (key : String) : String := Naming.convertKey .pascal "X" "Field" key

/-- The value of a tag: the key, and the mark that leaves out an empty field. -/
def tagValue (o : Options) (key : String) : String :=
  if o.omitEmpty || o.optionalProperties then key ++ ",omitempty" else key

/-- The field of a struct for a field of an object. -/
def member (o : Options) (f : Field) : Member where
  name := memberName f.1
  type := typeOf o f.2
  tag := if o.useJsonTag then some (quote (tagValue o f.1)) else none

/-- The line of a field. -/
def Member.line (m : Member) : String :=
  "\t" ++ m.name ++ " " ++ m.type ++
    match m.tag with
    | some literal => " `json:" ++ literal ++ "`"
    | none => ""

/-- The lines of a struct with some fields. -/
def layout (name : String) (ms : List Member) : List String :=
  ("type " ++ name ++ " struct \x7b") :: ms.map Member.line ++ ["\x7d"]

/-- The lines that define a type. -/
def definition (o : Options) (t : ObjectType) : List String :=
  layout t.name (t.fields.map (member o))

/-- The package clause, if there is a package name. -/
def header (o : Options) : String :=
  if o.packageName = "" then "" else "package " ++ o.packageName

/-- The warnings that a record gives for itself: a package name has to be a name. -/
def warnings (o : Options) : List String :=
  if o.packageName = "" || isName o.packageName then []
  else ["Invalid Go package name: " ++ o.packageName]

end TypeSketch.Go
