-- The target languages, and what a listing tells about each.

namespace TypeSketch

/-- A target language. -/
inductive Language where
  | typescript
  | javascript
  | go
  | python
  | rust
  | java
  | csharp
  | kotlin
  | swift
  | php
  deriving DecidableEq, Repr

namespace Language

/-- The languages in the order of their registration. -/
def all : List Language :=
  [typescript, javascript, go, python, rust, java, csharp, kotlin, swift, php]

/-- The name by which a language is asked for. -/
def tag : Language → String
  | typescript => "typescript"
  | javascript => "javascript"
  | go => "go"
  | python => "python"
  | rust => "rust"
  | java => "java"
  | csharp => "csharp"
  | kotlin => "kotlin"
  | swift => "swift"
  | php => "php"

/-- The language of a given name. -/
def ofTag? (s : String) : Option Language := all.find? (·.tag == s)

theorem ofTag?_tag (l : Language) : ofTag? l.tag = some l := by
  cases l <;> decide

/-- The name of a language as people write it. -/
def label : Language → String
  | typescript => "TypeScript"
  | javascript => "JavaScript"
  | go => "Go"
  | python => "Python"
  | rust => "Rust"
  | java => "Java"
  | csharp => "C#"
  | kotlin => "Kotlin"
  | swift => "Swift"
  | php => "PHP"

/-- The name of a language with letters only. -/
def stem : Language → String
  | csharp => "CSharp"
  | php => "Php"
  | l => l.label

/-- The ending of a source file's name, without the dot. -/
def extension : Language → String
  | typescript => "ts"
  | javascript => "js"
  | go => "go"
  | python => "py"
  | rust => "rs"
  | java => "java"
  | csharp => "cs"
  | kotlin => "kt"
  | swift => "swift"
  | php => "php"

/-- The name under which highlighters know a language. -/
def lexer (l : Language) : String := l.tag

/-- The other names by which a language is asked for. -/
def aliases : Language → List String
  | typescript => ["ts"]
  | javascript => ["js"]
  | go => ["golang"]
  | python => ["py"]
  | rust => ["rs"]
  | csharp => ["cs", "c#"]
  | kotlin => ["kt"]
  | _ => []

end Language

end TypeSketch
