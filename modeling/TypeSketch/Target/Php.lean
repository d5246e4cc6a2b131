-- PHP: classes with typed properties, set by a constructor whose parameters are
-- the properties themselves or are copied to them.
import TypeSketch.Naming.Identifier
import TypeSketch.Options.Shared
import TypeSketch.Shape.Basic
import TypeSketch.Text.Lines
import TypeSketch.Text.Quoted

namespace TypeSketch.Php

open Text

/-- The choices for PHP. Without a namespace there is no namespace clause. -/
structure Options extends SharedOptions where
  useStrictTypes : Bool := true
  useReadonlyProperties : Bool := false
  useConstructorPromotion : Bool := true
  nameSpace : String := ""
  deriving DecidableEq, Repr

/-- The settings of an option record. -/
def Options.settings : List (Setting Options) :=
  SharedOptions.settings Options.toSharedOptions (fun c o => { o with toSharedOptions := c }) ++
    [.flag "use_strict_types" useStrictTypes fun b o => { o with useStrictTypes := b },
      .flag "use_readonly_properties" useReadonlyProperties fun b o =>
        { o with useReadonlyProperties := b },
      .flag "use_constructor_promotion" useConstructorPromotion fun b o =>
        { o with useConstructorPromotion := b },
      .text "namespace" nameSpace fun s o => { o with nameSpace := s }]

/-- The open tag, the declaration of strict types and the namespace clause. -/
def header (o : Options) : String :=
  unlines (["<?php"] ++ (if o.useStrictTypes then ["", "declare(strict_types=1);"] else []) ++
    if o.nameSpace = "" then [] else ["", "namespace " ++ o.nameSpace ++ ";"]) ++ "\n"

/-- The type of a scalar. -/
def scalarType : Scalar → String
  | .string => "string"
  | .number => "float"
  | .boolean => "bool"
  | .null => "mixed"
  | .any => "mixed"

/-- The type expression of a shape. -/
def typeOf : Shape → String
  | .scalar k => scalarType k
  | .array .. => "array"
  | .object n _ => n

/-- A property. -/
structure Member where
  name : String
  type : String
  /-- The key as a literal inside a comment, where the name differs from it. -/
  renamed : Option String

/-- The literal of a key inside a comment: the closing tag cannot occur. -/
def commentLiteral (key : String) : String :=
  String.ofList (replacePair '?' '>' ['?', '\\', '>'] (quote key).toList)

/-- The property for a field. A mixed type holds null already. -/
def member (o : Options) (f : Field) : Member :=
  let name := Naming.convertKey .camel "_" "field" f.1
  { name
    type :=
      if o.optionalProperties && typeOf f.2 != "mixed" then "?" ++ typeOf f.2 else typeOf f.2
    renamed := if name = f.1 then none else some (commentLiteral f.1) }

/-- A property's type and variable. -/
def Member.declaration (m : Member) : String := m.type ++ " $" ++ m.name

/-- The comment that keeps the key. -/
def Member.comment (m : Member) : String :=
  match m.renamed with
  | some literal => " // " ++ literal
  | none => ""

/-- The lines of parameters, where `after` stands behind the comma of each. -/
def parameterLines (before : String) (after : Member → String) : List Member → List String
  | [] => []
  | [m] => [before ++ m.declaration ++ after m]
  | m :: r => (before ++ m.declaration ++ "," ++ after m) :: parameterLines before after r

/-- The lines of a class with some properties. -/
def layout (o : Options) (name : String) (ms : List Member) : List String :=
  let readonly := if o.useReadonlyProperties then "readonly " else ""
  ["class " ++ name, "\x7b"] ++
    (if o.useConstructorPromotion then
      "    public function __construct(" ::
        parameterLines ("        public " ++ readonly) Member.comment ms ++ ["    ) \x7b\x7d"]
    else
      ms.map (fun m => "    public " ++ readonly ++ m.declaration ++ ";" ++ m.comment) ++
        ["", "    public function __construct("] ++ parameterLines "        " (fun _ => "") ms ++
        ["    ) \x7b"] ++
        ms.map (fun m => "        $this->" ++ m.name ++ " = $" ++ m.name ++ ";") ++
        ["    \x7d"]) ++
    ["\x7d"]

/-- The lines that define a type. -/
def definition (o : Options) (t : ObjectType) : List String :=
  layout o t.name (t.fields.map (member o))

end TypeSketch.Php
