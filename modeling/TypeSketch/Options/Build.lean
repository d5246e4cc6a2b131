-- Building an option record from named values. A name may be written in any of
-- the cases; of two values for one setting the later counts, and the first
-- entry that does not fit stops the building.
import TypeSketch.Json.Shown
import TypeSketch.Machine
import TypeSketch.Naming.Case
import TypeSketch.Options.Record

namespace TypeSketch

/-- Why named values do not make up a record. Where a value that does not fit cannot be shown
either, this is what comes out. -/
inductive OptionError where
  | unknown (key title : String) (known : List String)
  | badValue (setting : String) (value : Json) (kind : SettingKind)
  | unshown (fault : Json.ShownFault)

namespace OptionError

/-- The error in words. -/
def message : OptionError → String
  | unknown key title known =>
    s!"Unknown option '{key}' for {title}. Valid options: {Text.listed known}"
  | badValue setting value kind =>
    s!"Invalid value for {setting}: {value.shown} (expected {kind.wanted})"
  | unshown fault => fault.message

/-- The refusal of a value for a setting, which shows the value. -/
def ofMisfit [Machine] (setting : String) (kind : SettingKind) (value : Json) : OptionError :=
  match value.shownFault? Machine.digits Machine.shownDepth with
  | none => badValue setting value kind
  | some fault => unshown fault

end OptionError

/-- Names in the order of their code points. -/
def sortedNames (names : List String) : List String := names.mergeSort fun a b => !(b < a)

namespace Setting

variable {R : Type}

/-- The name of a setting that a key stands for. -/
def keyName (key : String) : String := Naming.NameCase.snake.convert key

/-- The setting of a given name. -/
def named? (settings : List (Setting R)) (name : String) : Option (Setting R) :=
  settings.find? fun s => s.name == name

/-- A record with one more entry written to it. -/
def assign [Machine] (title : String) (settings : List (Setting R)) (r : R)
    (entry : String × Json) : Except OptionError R :=
  match named? settings (keyName entry.1) with
  | none => .error (.unknown entry.1 title (sortedNames (settings.map name)))
  | some s =>
    match s.kind.accept? entry.2 with
    | none => .error (.ofMisfit s.name s.kind entry.2)
    | some v => .ok (s.set v r)

/-- A record with all entries written to it, one after the other. -/
def assignAll [Machine] (title : String) (settings : List (Setting R)) (r : R)
    (entries : List (String × Json)) : Except OptionError R :=
  entries.foldlM (assign title settings) r

/-- The values of a record whose settings take any value but that a choice has to be one of its
names: entries are written over the defaults as they are, and checked setting by setting. An
entry that names no setting has no place. -/
def looseValues [Machine] (settings : List (Setting R)) (r : R) (entries : List (String × Json)) :
    Except (Option OptionError) (List (String × Json)) :=
  if entries.all fun e => settings.any fun s => s.name == e.1 then
    settings.mapM fun s =>
      match Entries.get? s.name entries, s.kind with
      | none, _ => .ok (s.name, (s.get r).toJson)
      | some v, .choice names =>
        if (SettingKind.accept? (.choice names) v).isSome then .ok (s.name, v)
        else .error (some (.ofMisfit s.name s.kind v))
      | some v, _ => .ok (s.name, v)
  else .error none

end Setting

namespace LanguageOptions

/-- The default options of a language with entries written over them. -/
def build [Machine] (l : Language) (entries : List (String × Json)) :
    Except OptionError LanguageOptions :=
  let title := (Emitter.of l).recordTitle
  match l with
  | .typescript => typescript <$> Setting.assignAll title TypeScript.Options.settings {} entries
  | .javascript => javascript <$> Setting.assignAll title JavaScript.Options.settings {} entries
  | .go => go <$> Setting.assignAll title Go.Options.settings {} entries
  | .python => python <$> Setting.assignAll title Python.Options.settings {} entries
  | .rust => rust <$> Setting.assignAll title Rust.Options.settings {} entries
  | .java => java <$> Setting.assignAll title Java.Options.settings {} entries
  | .csharp => csharp <$> Setting.assignAll title CSharp.Options.settings {} entries
  | .kotlin => kotlin <$> Setting.assignAll title Kotlin.Options.settings {} entries
  | .swift => swift <$> Setting.assignAll title Swift.Options.settings {} entries
  | .php => php <$> Setting.assignAll title Php.Options.settings {} entries

/-- The loose values of a language's record. -/
def looseValues [Machine] (l : Language) (entries : List (String × Json)) :
    Except (Option OptionError) (List (String × Json)) :=
  match l with
  | .typescript => Setting.looseValues TypeScript.Options.settings {} entries
  | .javascript => Setting.looseValues JavaScript.Options.settings {} entries
  | .go => Setting.looseValues Go.Options.settings {} entries
  | .python => Setting.looseValues Python.Options.settings {} entries
  | .rust => Setting.looseValues Rust.Options.settings {} entries
  | .java => Setting.looseValues Java.Options.settings {} entries
  | .csharp => Setting.looseValues CSharp.Options.settings {} entries
  | .kotlin => Setting.looseValues Kotlin.Options.settings {} entries
  | .swift => Setting.looseValues Swift.Options.settings {} entries
  | .php => Setting.looseValues Php.Options.settings {} entries

end LanguageOptions

namespace OptionRecord

/-- The default record of an emitter with entries written over it. -/
def build [Machine] : Emitter → List (String × Json) → Except OptionError OptionRecord
  | .plain, entries =>
    plain <$> Setting.assignAll Emitter.plain.recordTitle SharedOptions.plainSettings {} entries
  | .of l, entries => of <$> LanguageOptions.build l entries

/-- The entries of a file with further ones written over them: a key that the file has keeps its
place. -/
def merged (file given : List (String × Json)) : List (String × Json) :=
  Entries.putAll file given

end OptionRecord

end TypeSketch
