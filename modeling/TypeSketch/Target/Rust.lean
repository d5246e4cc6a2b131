-- Rust: public structs with derived traits, and attributes that keep the keys.
import TypeSketch.Naming.Identifier
import TypeSketch.Options.Shared
import TypeSketch.Shape.Basic
import TypeSketch.Text.Lines
import TypeSketch.Text.Quoted

namespace TypeSketch.Rust

open Text

/-- The choices for Rust. -/
structure Options extends SharedOptions where
  deriveSerde : Bool := true
  deriveDebug : Bool := true
  deriveClone : Bool := true
  deriveDefault : Bool := false
  useBox : Bool := false
  deriving DecidableEq, Repr

/-- The settings of an option record. -/
def Options.settings : List (Setting Options) :=
  SharedOptions.settings Options.toSharedOptions (fun c o => { o with toSharedOptions := c }) ++
    [.flag "derive_serde" deriveSerde fun b o => { o with deriveSerde := b },
      .flag "derive_debug" deriveDebug fun b o => { o with deriveDebug := b },
      .flag "derive_clone" deriveClone fun b o => { o with deriveClone := b },
      .flag "derive_default" deriveDefault fun b o => { o with deriveDefault := b },
      .flag "use_box" useBox fun b o => { o with useBox := b }]

/-- The traits that a struct derives, in order. -/
def Options.derives (o : Options) : List String :=
  (if o.deriveSerde then ["Serialize", "Deserialize"] else []) ++
    (if o.deriveDebug then ["Debug"] else []) ++ (if o.deriveClone then ["Clone"] else []) ++
    if o.deriveDefault then ["Default"] else []

/-- The words that become names with a mark before them. -/
def keywords : List String :=
  ["as", "break", "const", "continue", "else", "enum", "extern", "false", "fn", "for", "if",
    "impl", "in", "let", "loop", "match", "mod", "move", "mut", "pub", "ref", "return", "static",
    "struct", "trait", "true", "type", "unsafe", "use", "where", "while", "async", "await", "dyn",
    "abstract", "become", "box", "do", "final", "macro", "override", "priv", "typeof", "unsized",
    "virtual", "yield", "try"]

/-- The type of a scalar. -/
def scalarType : Scalar → String
  | .string => "String"
  | .number => "f64"
  | .boolean => "bool"
  | .null => "Option<()>"
  | .any => "serde_json::Value"

/-- The type expression of a shape. -/
def typeOf (o : Options) : Shape → String
  | .scalar k => scalarType k
  | .array _ e => "Vec<" ++ typeOf o e ++ ">"
  | .object n _ => if o.useBox then "Box<" ++ n ++ ">" else n

/-- A field of a struct. -/
structure Member where
  /-- The name without the mark of a keyword. -/
  plainName : String
  type : String
  /-- The key as a literal, where the plain name differs from it. -/
  renamed : Option String
  skipped : Bool

/-- The field of a struct for a field of an object. -/
def member (o : Options) (f : Field) : Member :=
  let name := Naming.convertKey .snake "_" "field" f.1
  { plainName := name
    type := if o.optionalProperties then "Option<" ++ typeOf o f.2 ++ ">" else typeOf o f.2
    renamed := if o.deriveSerde && name != f.1 then some (quote f.1) else none
    skipped := o.deriveSerde && o.optionalProperties }

/-- The name of a field as it is written: a keyword carries a mark. -/
def Member.name (m : Member) : String :=
  if m.plainName ∈ keywords then "r#" ++ m.plainName else m.plainName

/-- The lines of a field. -/
def Member.lines (m : Member) : List String :=
  (match m.renamed with
    | some literal => ["    #[serde(rename = " ++ literal ++ ")]"]
    | none => []) ++
    (if m.skipped then ["    #[serde(skip_serializing_if = \"Option::is_none\")]"] else []) ++
    ["    pub " ++ m.name ++ ": " ++ m.type ++ ","]

/-- The lines of a struct with some fields. -/
def layout (o : Options) (name : String) (ms : List Member) : List String :=
  (if o.derives.isEmpty then [] else ["#[derive(" ++ listed o.derives ++ ")]"]) ++
    ("pub struct " ++ name ++ " \x7b") :: ms.flatMap Member.lines ++ ["\x7d"]

/-- The lines that define a type. -/
def definition (o : Options) (t : ObjectType) : List String :=
  layout o t.name (t.fields.map (member o))

/-- The import of the derived traits, where they are used. -/
def header (o : Options) : String :=
  if o.deriveSerde then "use serde::\x7bDeserialize, Serialize\x7d;" else ""

end TypeSketch.Rust
