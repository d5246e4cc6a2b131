-- Option records: for each target language a record of its own, and a plain one
-- that holds the shared settings alone.
import TypeSketch.Target.CSharp
import TypeSketch.Target.Go
import TypeSketch.Target.Java
import TypeSketch.Target.JavaScript
import TypeSketch.Target.Kotlin
import TypeSketch.Target.Language
import TypeSketch.Target.Php
import TypeSketch.Target.Python
import TypeSketch.Target.Rust
import TypeSketch.Target.Swift
import TypeSketch.Target.TypeScript

namespace TypeSketch

/-- What writes code: the emitter of a language, or the plain one, which has the shared settings
and writes nothing. -/
inductive Emitter where
  | plain
  | of (language : Language)
  deriving DecidableEq, Repr

/-- The name of an emitter in messages. -/
def Emitter.title : Emitter → String
  | plain => "CodeGenerator"
  | of l => l.stem ++ "Generator"

/-- The name of an emitter's option record in messages. -/
def Emitter.recordTitle : Emitter → String
  | plain => "BaseOptions"
  | of l => l.stem ++ "Options"

/-- The options of one target language. -/
inductive LanguageOptions where
  | typescript (o : TypeScript.Options)
  | javascript (o : JavaScript.Options)
  | go (o : Go.Options)
  | python (o : Python.Options)
  | rust (o : Rust.Options)
  | java (o : Java.Options)
  | csharp (o : CSharp.Options)
  | kotlin (o : Kotlin.Options)
  | swift (o : Swift.Options)
  | php (o : Php.Options)
  deriving DecidableEq, Repr

/-- An option record. -/
inductive OptionRecord where
  | plain (o : SharedOptions)
  | of (o : LanguageOptions)
  deriving DecidableEq, Repr

namespace LanguageOptions

/-- The language whose options these are. -/
def language : LanguageOptions → Language
  | typescript _ => .typescript
  | javascript _ => .javascript
  | go _ => .go
  | python _ => .python
  | rust _ => .rust
  | java _ => .java
  | csharp _ => .csharp
  | kotlin _ => .kotlin
  | swift _ => .swift
  | php _ => .php

/-- The shared part. -/
def shared : LanguageOptions → SharedOptions
  | typescript o => o.toSharedOptions
  | javascript o => o.toSharedOptions
  | go o => o.toSharedOptions
  | python o => o.toSharedOptions
  | rust o => o.toSharedOptions
  | java o => o.toSharedOptions
  | csharp o => o.toSharedOptions
  | kotlin o => o.toSharedOptions
  | swift o => o.toSharedOptions
  | php o => o.toSharedOptions

/-- The default options of a language. -/
def default : Language → LanguageOptions
  | .typescript => typescript {}
  | .javascript => javascript {}
  | .go => go {}
  | .python => python {}
  | .rust => rust {}
  | .java => java {}
  | .csharp => csharp {}
  | .kotlin => kotlin {}
  | .swift => swift {}
  | .php => php {}

/-- The values of the settings, in the order of their declaration. -/
def values : LanguageOptions → List (String × SettingValue)
  | typescript o => Setting.values TypeScript.Options.settings o
  | javascript o => Setting.values JavaScript.Options.settings o
  | go o => Setting.values Go.Options.settings o
  | python o => Setting.values Python.Options.settings o
  | rust o => Setting.values Rust.Options.settings o
  | java o => Setting.values Java.Options.settings o
  | csharp o => Setting.values CSharp.Options.settings o
  | kotlin o => Setting.values Kotlin.Options.settings o
  | swift o => Setting.values Swift.Options.settings o
  | php o => Setting.values Php.Options.settings o

theorem language_default (l : Language) : (default l).language = l := by
  cases l <;> rfl

end LanguageOptions

/-- The settings of the plain record. -/
def SharedOptions.plainSettings : List (Setting SharedOptions) :=
  SharedOptions.settings id fun c _ => c

namespace OptionRecord

/-- The emitter that a record is for. -/
def emitter : OptionRecord → Emitter
  | plain _ => .plain
  | of o => .of o.language

/-- The shared part. -/
def shared : OptionRecord → SharedOptions
  | plain o => o
  | of o => o.shared

/-- The default record of an emitter. -/
def default : Emitter → OptionRecord
  | .plain => plain {}
  | .of l => of (.default l)

/-- The values of the settings, in the order of their declaration. -/
def values : OptionRecord → List (String × SettingValue)
  | plain o => Setting.values SharedOptions.plainSettings o
  | of o => o.values

end OptionRecord

end TypeSketch
