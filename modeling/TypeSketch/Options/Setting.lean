-- Settings: the named parts of an option record. A setting knows what values it
-- takes, reads its part of a record and writes it, so that a record can be built
-- from named values and shown as such.
import TypeSketch.Json.Basic
import TypeSketch.Text.Lines

namespace TypeSketch

/-- A type with a fixed list of members that are asked for by name. -/
class Choice (α : Type) where
  all : List α
  name : α → String

/-- The member of a given name. -/
def Choice.ofName? {α : Type} [Choice α] (s : String) : Option α :=
  (Choice.all (α := α)).find? fun a => Choice.name a == s

/-- What values a setting takes. -/
inductive SettingKind where
  | flag
  | text
  | choice (names : List String)
  deriving DecidableEq, Repr

/-- The value of a setting. A choice is given by its name. -/
inductive SettingValue where
  | flag (b : Bool)
  | text (s : String)
  deriving DecidableEq, Repr

namespace SettingKind

/-- The setting value that a document's value stands for, if it is of this kind. -/
def accept? : SettingKind → Json → Option SettingValue
  | flag, .bool b => some (.flag b)
  | text, .str s => some (.text s)
  | choice names, .str s => if s ∈ names then some (.text s) else none
  | _, _ => none

/-- What a setting of this kind wants, in words. -/
def wanted : SettingKind → String
  | flag => "a boolean"
  | text => "a string"
  | choice names => "one of: " ++ Text.listed names

end SettingKind

namespace SettingValue

/-- A setting's value as a value of a document. -/
def toJson : SettingValue → Json
  | flag b => .bool b
  | text s => .str s

end SettingValue

/-- A named part of a record. -/
structure Setting (R : Type) where
  name : String
  kind : SettingKind
  get : R → SettingValue
  set : SettingValue → R → R

namespace Setting

variable {R : Type}

/-- A setting that is on or off. -/
def flag (name : String) (get : R → Bool) (set : Bool → R → R) : Setting R where
  name := name
  kind := .flag
  get r := .flag (get r)
  set
    | .flag b, r => set b r
    | .text _, r => r

/-- A setting that holds any text. -/
def text (name : String) (get : R → String) (set : String → R → R) : Setting R where
  name := name
  kind := .text
  get r := .text (get r)
  set
    | .text s, r => set s r
    | .flag _, r => r

/-- A setting that holds a member of a fixed list. -/
def choice {α : Type} [Choice α] (name : String) (get : R → α) (set : α → R → R) : Setting R where
  name := name
  kind := .choice ((Choice.all (α := α)).map Choice.name)
  get r := .text (Choice.name (get r))
  set
    | .text s, r => match Choice.ofName? s with
      | some a => set a r
      | none => r
    | .flag _, r => r

/-- The values of a record, setting by setting. -/
def values (settings : List (Setting R)) (r : R) : List (String × SettingValue) :=
  settings.map fun s => (s.name, s.get r)

end Setting

end TypeSketch
