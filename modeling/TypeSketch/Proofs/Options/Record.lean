-- The records of the emitters. A record is no more than the values of its settings: each shows
-- one that it takes itself, and records that show the same values are the same. So every emitter
-- has settings that tell its records apart, and from which they are built.
import TypeSketch.Proofs.Options.Setting

namespace TypeSketch

/-! ## Choices -/

/-- A choice whose list misses no member, with a name of its own for each. -/
class LawfulChoice (α : Type) [Choice α] : Prop where
  mem_all : ∀ a : α, a ∈ Choice.all
  name_inj : ∀ {a b : α}, Choice.name a = Choice.name b → a = b

@[simp]
theorem Choice.name_eq_iff {α : Type} [Choice α] [LawfulChoice α] {a b : α} :
    Choice.name a = Choice.name b ↔ a = b :=
  ⟨LawfulChoice.name_inj, congrArg Choice.name⟩

instance : LawfulChoice Java.ClassStyle where
  mem_all a := by cases a <;> decide
  name_inj {a b} := by cases a <;> cases b <;> decide

instance : LawfulChoice Java.Serialization where
  mem_all a := by cases a <;> decide
  name_inj {a b} := by cases a <;> cases b <;> decide

instance : LawfulChoice Kotlin.Serialization where
  mem_all a := by cases a <;> decide
  name_inj {a b} := by cases a <;> cases b <;> decide

instance : LawfulChoice Python.Style where
  mem_all a := by cases a <;> decide
  name_inj {a b} := by cases a <;> cases b <;> decide

namespace Setting

variable {R : Type}

/-! ## What a record shows -/

/-- What a setting shows is a value that it takes. -/
def Shows (s : Setting R) : Prop := ∀ r, s.kind.accept? (s.get r).toJson = some (s.get r)

@[simp]
theorem shows_flag {name : String} {get : R → Bool} {set : Bool → R → R} :
    (flag name get set).Shows := fun _ => rfl

@[simp]
theorem shows_text {name : String} {get : R → String} {set : String → R → R} :
    (text name get set).Shows := fun _ => rfl

@[simp]
theorem shows_choice {α : Type} [Choice α] [LawfulChoice α] {name : String} {get : R → α}
    {set : α → R → R} : (choice name get set).Shows :=
  fun r => if_pos (List.mem_map_of_mem (LawfulChoice.mem_all (get r)))

/-- Settings that tell all records apart. -/
def Complete (settings : List (Setting R)) : Prop :=
  ∀ r r', (∀ s ∈ settings, s.get r = s.get r') → r = r'

/-- Settings that show of a record all that it is, and as they take it. -/
structure Faithful (settings : List (Setting R)) : Prop where
  shows : ∀ s ∈ settings, s.Shows
  complete : Complete settings

/-- The names of settings, each with the kind of its values. -/
def kinds (settings : List (Setting R)) : List (String × SettingKind) :=
  settings.map fun s => (s.name, s.kind)

/-- The kind under a name is that of the setting with this name. -/
theorem get?_kinds (settings : List (Setting R)) (n : String) :
    Entries.get? n (kinds settings) = (named? settings n).map kind := get?_map kind settings n

end Setting

/-! ## The records of the languages -/

open Setting SharedOptions

theorem SharedOptions.faithful_plain : Faithful plainSettings :=
  ⟨by simp [plainSettings, settings], by
    rintro ⟨_, _⟩ ⟨_, _⟩ h
    simpa [plainSettings, settings] using h⟩

theorem TypeScript.faithful : Faithful TypeScript.Options.settings :=
  ⟨by simp [TypeScript.Options.settings, settings], by
    rintro ⟨⟨_, _⟩, _⟩ ⟨⟨_, _⟩, _⟩ h
    simpa [TypeScript.Options.settings, settings, and_assoc] using h⟩

theorem JavaScript.faithful : Faithful JavaScript.Options.settings :=
  ⟨by simp [JavaScript.Options.settings, settings], by
    rintro ⟨⟨_, _⟩, _⟩ ⟨⟨_, _⟩, _⟩ h
    simpa [JavaScript.Options.settings, settings, and_assoc] using h⟩

theorem Go.faithful : Faithful Go.Options.settings :=
  ⟨by simp [Go.Options.settings, settings], by
    rintro ⟨⟨_, _⟩, _⟩ ⟨⟨_, _⟩, _⟩ h
    simpa [Go.Options.settings, settings, and_assoc] using h⟩

theorem Python.faithful : Faithful Python.Options.settings :=
  ⟨by simp [Python.Options.settings, settings], by
    rintro ⟨⟨_, _⟩, _⟩ ⟨⟨_, _⟩, _⟩ h
    simpa [Python.Options.settings, settings, and_assoc] using h⟩

theorem Rust.faithful : Faithful Rust.Options.settings :=
  ⟨by simp [Rust.Options.settings, settings], by
    rintro ⟨⟨_, _⟩, _⟩ ⟨⟨_, _⟩, _⟩ h
    simpa [Rust.Options.settings, settings, and_assoc] using h⟩

theorem Java.faithful : Faithful Java.Options.settings :=
  ⟨by simp [Java.Options.settings, settings], by
    rintro ⟨⟨_, _⟩, _⟩ ⟨⟨_, _⟩, _⟩ h
    simpa [Java.Options.settings, settings, and_assoc] using h⟩

theorem CSharp.faithful : Faithful CSharp.Options.settings :=
  ⟨by simp [CSharp.Options.settings, settings], by
    rintro ⟨⟨_, _⟩, _⟩ ⟨⟨_, _⟩, _⟩ h
    simpa [CSharp.Options.settings, settings, and_assoc] using h⟩

theorem Kotlin.faithful : Faithful Kotlin.Options.settings :=
  ⟨by simp [Kotlin.Options.settings, settings], by
    rintro ⟨⟨_, _⟩, _⟩ ⟨⟨_, _⟩, _⟩ h
    simpa [Kotlin.Options.settings, settings, and_assoc] using h⟩

theorem Swift.faithful : Faithful Swift.Options.settings :=
  ⟨by simp [Swift.Options.settings, settings], by
    rintro ⟨⟨_, _⟩, _⟩ ⟨⟨_, _⟩, _⟩ h
    simpa [Swift.Options.settings, settings, and_assoc] using h⟩

theorem Php.faithful : Faithful Php.Options.settings :=
  ⟨by simp [Php.Options.settings, settings], by
    rintro ⟨⟨_, _⟩, _⟩ ⟨⟨_, _⟩, _⟩ h
    simpa [Php.Options.settings, settings, and_assoc] using h⟩

/-- The names of the settings of an emitter, each with the kind of its values. -/
def Emitter.kinds : Emitter → List (String × SettingKind)
  | .plain => Setting.kinds plainSettings
  | .of .typescript => Setting.kinds TypeScript.Options.settings
  | .of .javascript => Setting.kinds JavaScript.Options.settings
  | .of .go => Setting.kinds Go.Options.settings
  | .of .python => Setting.kinds Python.Options.settings
  | .of .rust => Setting.kinds Rust.Options.settings
  | .of .java => Setting.kinds Java.Options.settings
  | .of .csharp => Setting.kinds CSharp.Options.settings
  | .of .kotlin => Setting.kinds Kotlin.Options.settings
  | .of .swift => Setting.kinds Swift.Options.settings
  | .of .php => Setting.kinds Php.Options.settings

/-- The records of an emitter are those that some settings tell apart; from a first one they are
built by writing entries to it, one after the other. -/
structure Emitter.MadeOf (e : Emitter) {R : Type} (settings : List (Setting R)) (start : R)
    (wrap : R → OptionRecord) : Prop where
  independent : Independent settings
  faithful : Faithful settings
  kinds : e.kinds = Setting.kinds settings
  default : wrap start = .default e
  emitter : ∀ r, (wrap r).emitter = e
  wraps : ∀ given : OptionRecord, given.emitter = e → ∃ r, wrap r = given
  values : ∀ r, (wrap r).values = Setting.values settings r
  build : ∀ [Machine] es,
    OptionRecord.build e es = wrap <$> assignAll e.recordTitle settings start es

/-- The settings of a language's options make its records. -/
theorem Emitter.madeOf_language {R : Type} {l : Language} {settings : List (Setting R)} {start : R}
    {wrap : R → LanguageOptions} (independent : Independent settings)
    (faithful : Faithful settings) (kinds : (Emitter.of l).kinds = Setting.kinds settings)
    (default : wrap start = .default l) (language : ∀ r, (wrap r).language = l)
    (wraps : ∀ o : LanguageOptions, o.language = l → ∃ r, wrap r = o)
    (values : ∀ r, (wrap r).values = Setting.values settings r)
    (build : ∀ [Machine] es, LanguageOptions.build l es =
      wrap <$> assignAll (Emitter.of l).recordTitle settings start es) :
    (Emitter.of l).MadeOf settings start fun r => .of (wrap r) where
  independent := independent
  faithful := faithful
  kinds := kinds
  default := congrArg OptionRecord.of default
  emitter r := congrArg Emitter.of (language r)
  wraps
    | .plain o, h => by cases h
    | .of o, h => (wraps o (Emitter.of.inj h)).imp fun _ hr => congrArg OptionRecord.of hr
  values := values
  build es := by
    rw [OptionRecord.build, build]
    cases assignAll (Emitter.of l).recordTitle settings start es <;> rfl

theorem Emitter.exists_madeOf (e : Emitter) :
    ∃ (R : Type) (settings : List (Setting R)) (start : R) (wrap : R → OptionRecord),
      e.MadeOf settings start wrap := by
  cases e with
  | plain =>
    refine ⟨_, _, _, .plain, independent_plain, faithful_plain, rfl, rfl, fun _ => rfl,
      fun r h => ?_, fun _ => rfl, fun _ => rfl⟩
    cases r with
    | plain o => exact ⟨o, rfl⟩
    | of o => cases h
  | of l =>
    cases l with
    | typescript =>
      refine ⟨_, _, _, _, madeOf_language TypeScript.independent TypeScript.faithful rfl rfl
        (fun _ => rfl) (fun o h => ?_) (fun _ => rfl) fun _ => rfl⟩
      cases o <;> cases h
      exact ⟨_, rfl⟩
    | javascript =>
      refine ⟨_, _, _, _, madeOf_language JavaScript.independent JavaScript.faithful rfl rfl
        (fun _ => rfl) (fun o h => ?_) (fun _ => rfl) fun _ => rfl⟩
      cases o <;> cases h
      exact ⟨_, rfl⟩
    | go =>
      refine ⟨_, _, _, _, madeOf_language Go.independent Go.faithful rfl rfl
        (fun _ => rfl) (fun o h => ?_) (fun _ => rfl) fun _ => rfl⟩
      cases o <;> cases h
      exact ⟨_, rfl⟩
    | python =>
      refine ⟨_, _, _, _, madeOf_language Python.independent Python.faithful rfl rfl
        (fun _ => rfl) (fun o h => ?_) (fun _ => rfl) fun _ => rfl⟩
      cases o <;> cases h
      exact ⟨_, rfl⟩
    | rust =>
      refine ⟨_, _, _, _, madeOf_language Rust.independent Rust.faithful rfl rfl
        (fun _ => rfl) (fun o h => ?_) (fun _ => rfl) fun _ => rfl⟩
      cases o <;> cases h
      exact ⟨_, rfl⟩
    | java =>
      refine ⟨_, _, _, _, madeOf_language Java.independent Java.faithful rfl rfl
        (fun _ => rfl) (fun o h => ?_) (fun _ => rfl) fun _ => rfl⟩
      cases o <;> cases h
      exact ⟨_, rfl⟩
    | csharp =>
      refine ⟨_, _, _, _, madeOf_language CSharp.independent CSharp.faithful rfl rfl
        (fun _ => rfl) (fun o h => ?_) (fun _ => rfl) fun _ => rfl⟩
      cases o <;> cases h
      exact ⟨_, rfl⟩
    | kotlin =>
      refine ⟨_, _, _, _, madeOf_language Kotlin.independent Kotlin.faithful rfl rfl
        (fun _ => rfl) (fun o h => ?_) (fun _ => rfl) fun _ => rfl⟩
      cases o <;> cases h
      exact ⟨_, rfl⟩
    | swift =>
      refine ⟨_, _, _, _, madeOf_language Swift.independent Swift.faithful rfl rfl
        (fun _ => rfl) (fun o h => ?_) (fun _ => rfl) fun _ => rfl⟩
      cases o <;> cases h
      exact ⟨_, rfl⟩
    | php =>
      refine ⟨_, _, _, _, madeOf_language Php.independent Php.faithful rfl rfl
        (fun _ => rfl) (fun o h => ?_) (fun _ => rfl) fun _ => rfl⟩
      cases o <;> cases h
      exact ⟨_, rfl⟩

end TypeSketch
