-- Code for a document: the header of the language and one definition for each
-- type, an empty line between all of them.
import TypeSketch.Code.Tidy
import TypeSketch.Options.Record
import TypeSketch.Shape.Flatten
import TypeSketch.Shape.Infer

namespace TypeSketch

namespace LanguageOptions

open Text

/-- The lines that define a type. -/
def definitionLines : LanguageOptions → ObjectType → List String
  | typescript o => TypeScript.definition o
  | javascript o => JavaScript.definition o
  | go o => Go.definition o
  | python o => Python.definition o
  | rust o => Rust.definition o
  | java o => Java.definition o
  | csharp o => CSharp.definition o
  | kotlin o => Kotlin.definition o
  | swift o => Swift.definition o
  | php o => Php.definition o

/-- The definition of a type. -/
def definition (o : LanguageOptions) (t : ObjectType) : String :=
  trimBreaks (unlines (o.definitionLines t))

/-- The header of the code for some types, with the line breaks around it. -/
def header : LanguageOptions → List ObjectType → String
  | go o, _ => Go.header o
  | python o, types => Python.header o types
  | rust o, _ => Rust.header o
  | java o, _ => Java.header o
  | csharp o, _ => CSharp.header o
  | kotlin o, _ => Kotlin.header o
  | php o, _ => Php.header o
  | typescript _, _ => ""
  | javascript _, _ => ""
  | swift _, _ => ""

/-- The type expression of a shape. -/
def typeOf : LanguageOptions → Shape → String
  | typescript o => TypeScript.typeOf o
  | javascript _ => JavaScript.typeOf
  | go o => Go.typeOf o
  | python _ => Python.typeOf
  | rust o => Rust.typeOf o
  | java _ => Java.typeOf
  | csharp _ => CSharp.typeOf
  | kotlin _ => Kotlin.typeOf
  | swift _ => Swift.typeOf
  | php _ => Php.typeOf

/-- The definitions of some types; one that is empty is left out. -/
def definitions (o : LanguageOptions) (types : List ObjectType) : List String :=
  (types.map o.definition).filter (· ≠ "")

/-- The header, if there is one, and the definitions of some types. -/
def parts (o : LanguageOptions) (types : List ObjectType) : List String :=
  let head := trimBreaks (o.header types)
  (if head = "" then [] else [head]) ++ o.definitions types

/-- The code for some types; without definitions there is none. -/
def code (o : LanguageOptions) (types : List ObjectType) : String :=
  if (o.definitions types).isEmpty then "" else Code.tidy (paragraphs (o.parts types))

/-- The shape of a document under the root name of the options. -/
def rootShape (o : LanguageOptions) (v : Json) : Shape := Shape.infer o.shared.rootName v

/-- The code for a document. -/
def generate (o : LanguageOptions) (v : Json) : String := o.code (o.rootShape v).types

end LanguageOptions

end TypeSketch
