-- JavaScript: classes, constructor functions or object templates with
-- documentation blocks, and on demand a factory and a validator beside a class.
import TypeSketch.Naming.Identifier
import TypeSketch.Options.Shared
import TypeSketch.Shape.Basic
import TypeSketch.Text.CaseMap
import TypeSketch.Text.Quoted

namespace TypeSketch.JavaScript

open Text

/-- The choices for JavaScript. -/
structure Options extends SharedOptions where
  useClass : Bool := true
  useJsDoc : Bool := true
  useEs6 : Bool := true
  generateFactory : Bool := false
  generateValidator : Bool := false
  deriving DecidableEq, Repr

/-- The settings of an option record. -/
def Options.settings : List (Setting Options) :=
  SharedOptions.settings Options.toSharedOptions (fun c o => { o with toSharedOptions := c }) ++
    [.flag "use_class" useClass fun b o => { o with useClass := b },
      .flag "use_js_doc" useJsDoc fun b o => { o with useJsDoc := b },
      .flag "use_es6" useEs6 fun b o => { o with useEs6 := b },
      .flag "generate_factory" generateFactory fun b o => { o with generateFactory := b },
      .flag "generate_validator" generateValidator fun b o => { o with generateValidator := b }]

/-! ## Type expressions -/

/-- The documented type of a scalar. -/
def scalarType : Scalar → String
  | .string => "string"
  | .number => "number"
  | .boolean => "boolean"
  | .null => "null"
  | .any => "*"

/-- The documented type of a shape. -/
def typeOf : Shape → String
  | .scalar k => scalarType k
  | .array _ e => "Array<" ++ typeOf e ++ ">"
  | .object n _ => n

/-- The value that an object template gives to a property. -/
def templateValue : Shape → String
  | .scalar .string => "''"
  | .scalar .number => "0"
  | .scalar .boolean => "false"
  | .scalar _ => "null"
  | .array .. => "[]"
  | .object .. => "null"

/-! ## Properties -/

/-- A property of a class or a template. -/
structure Member where
  name : String
  type : String
  /-- The key as a literal, where the name differs from it. -/
  renamed : Option String
  shape : Shape

/-- The literal of a key inside a documentation block: the end of the block cannot occur. -/
def commentLiteral (key : String) : String :=
  String.ofList (replacePair '*' '/' ['*', '\\', '/'] (quote key).toList)

/-- The property for a field. -/
def member (f : Field) : Member :=
  let name := Naming.convertKey .camel "_" "field" f.1
  { name, type := typeOf f.2, shape := f.2,
    renamed := if name = f.1 then none else some (commentLiteral f.1) }

/-- The line of a documentation block that describes a property. -/
def Member.docLine (m : Member) : String :=
  " * @property \x7b" ++ m.type ++ "\x7d " ++ m.name ++
    match m.renamed with
    | some literal => " - JSON key " ++ literal
    | none => ""

/-- The check of a property in a validator; a property that may be null has none. -/
def Member.check? (m : Member) : Option String :=
  let place := "obj." ++ m.name
  let typeCheck (type : String) := "if (typeof " ++ place ++ " !== '" ++ type ++ "') return false;"
  match m.shape with
  | .array .. => some ("if (!Array.isArray(" ++ place ++ ")) return false;")
  | .object .. =>
    some ("if (typeof " ++ place ++ " !== 'object' || " ++ place ++ " === null) return false;")
  | .scalar .string => some (typeCheck "string")
  | .scalar .number => some (typeCheck "number")
  | .scalar .boolean => some (typeCheck "boolean")
  | .scalar _ => none

/-! ## Definitions -/

/-- A documentation block, where it is wanted. -/
def docBlock (o : Options) (body : List String) : List String :=
  if o.useJsDoc then "/**" :: body ++ [" */"] else []

/-- The parameters of a constructor. -/
def parameters (ms : List Member) : String := listed (ms.map Member.name)

/-- The lines of a class, or of the constructor function that does its work. -/
def classLines (o : Options) (name : String) (ms : List Member) : List String :=
  let assign (indent : String) (m : Member) := indent ++ "this." ++ m.name ++ " = " ++ m.name ++ ";"
  docBlock o ((" * @class " ++ name) :: ms.map Member.docLine) ++
    if o.useEs6 then
      ["class " ++ name ++ " \x7b", "  constructor(" ++ parameters ms ++ ") \x7b"] ++
        ms.map (assign "    ") ++ ["  \x7d", "\x7d"]
    else
      ("function " ++ name ++ "(" ++ parameters ms ++ ") \x7b") :: ms.map (assign "  ") ++ ["\x7d"]

/-- The lines of a function that makes an instance. -/
def factoryLines (o : Options) (name : String) (ms : List Member) : List String :=
  docBlock o [" * Create a new " ++ name ++ " instance", " * @returns \x7b" ++ name ++ "\x7d"] ++
    ["function create" ++ name ++ "(" ++ parameters ms ++ ") \x7b",
      "  return new " ++ name ++ "(" ++ parameters ms ++ ");", "\x7d"]

/-- The lines of a function that checks an object. -/
def validatorLines (o : Options) (name : String) (ms : List Member) : List String :=
  docBlock o
      [" * Validate a " ++ name ++ " object", " * @param \x7bObject\x7d obj",
        " * @returns \x7bboolean\x7d"] ++
    ["function is" ++ name ++ "(obj) \x7b",
      "  if (typeof obj !== 'object' || obj === null) return false;"] ++
    (ms.filterMap Member.check?).map ("  " ++ ·) ++ ["  return true;", "\x7d"]

/-- The name of the constant that holds a type's template. -/
def templateName (name : String) : String := toSmall name ++ "Template"

/-- The lines of an object template. -/
def templateLines (o : Options) (name : String) (ms : List Member) : List String :=
  docBlock o ((" * @typedef \x7bObject\x7d " ++ name) :: ms.map Member.docLine) ++
    ((if o.useEs6 then "const " else "var ") ++ templateName name ++ " = \x7b") ::
    ms.map (fun m => "  " ++ m.name ++ ": " ++ templateValue m.shape ++ ",") ++ ["\x7d;"]

/-- The lines that define a type. -/
def definition (o : Options) (t : ObjectType) : List String :=
  let ms := t.fields.map member
  if o.useClass then
    classLines o t.name ms ++
      (if o.generateFactory then "" :: factoryLines o t.name ms else []) ++
      (if o.generateValidator then "" :: validatorLines o t.name ms else [])
  else templateLines o t.name ms

end TypeSketch.JavaScript
