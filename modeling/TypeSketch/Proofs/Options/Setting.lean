-- The settings of a record stand side by side: each gives back what it took, and
-- leaves the others as they are. So a record that was built shows, under every
-- name, the last value that was given for it.
import TypeSketch.Options.Build
import TypeSketch.Proofs.Table

namespace TypeSketch

/-- What is accepted is a value of the document as it stands. -/
theorem SettingKind.toJson_of_accept? {k : SettingKind} {j : Json} {v : SettingValue}
    (h : k.accept? j = some v) : v.toJson = j := by
  cases k with
  | flag =>
    cases j with
    | bool b => exact (Option.some.inj h) ▸ rfl
    | _ => cases h
  | text =>
    cases j with
    | str s => exact (Option.some.inj h) ▸ rfl
    | _ => cases h
  | choice names =>
    cases j with
    | str s =>
      rw [accept?] at h
      split at h
      · exact (Option.some.inj h) ▸ rfl
      · cases h
    | _ => cases h

namespace Setting

variable {R : Type}

/-! ## One setting -/

/-- A setting gives back every value that it accepts. -/
def Keeps (s : Setting R) : Prop :=
  ∀ j v, s.kind.accept? j = some v → ∀ r, s.get (s.set v r) = v

/-- Writing to a setting does not change what is read at another place. -/
def Leaves (s : Setting R) (read : R → SettingValue) : Prop := ∀ v r, read (s.set v r) = read r

section Flag

variable {name : String} {get : R → Bool} {set : Bool → R → R}

@[simp]
theorem name_flag : (flag name get set).name = name := rfl

@[simp]
theorem get_flag : (flag name get set).get = fun r => .flag (get r) := rfl

@[simp]
theorem keeps_flag (h : ∀ b r, get (set b r) = b) : (flag name get set).Keeps := by
  intro j v hv r
  cases j with
  | bool b =>
    obtain rfl := Option.some.inj hv
    exact congrArg SettingValue.flag (h b r)
  | _ => cases hv

@[simp]
theorem leaves_flag {read : R → SettingValue} (h : ∀ b r, read (set b r) = read r) :
    (flag name get set).Leaves read := by
  intro v r
  cases v with
  | flag b => exact h b r
  | text s => rfl

end Flag

section Text

variable {name : String} {get : R → String} {set : String → R → R}

@[simp]
theorem name_text : (text name get set).name = name := rfl

@[simp]
theorem get_text : (text name get set).get = fun r => .text (get r) := rfl

@[simp]
theorem keeps_text (h : ∀ s r, get (set s r) = s) : (text name get set).Keeps := by
  intro j v hv r
  cases j with
  | str s =>
    obtain rfl := Option.some.inj hv
    exact congrArg SettingValue.text (h s r)
  | _ => cases hv

@[simp]
theorem leaves_text {read : R → SettingValue} (h : ∀ s r, read (set s r) = read r) :
    (text name get set).Leaves read := by
  intro v r
  cases v with
  | flag b => rfl
  | text s => exact h s r

end Text

section Choice

variable {α : Type} [Choice α] {name : String} {get : R → α} {set : α → R → R}

@[simp]
theorem name_choice : (choice name get set).name = name := rfl

@[simp]
theorem get_choice : (choice name get set).get = fun r => .text (Choice.name (get r)) := rfl

/-- A name of the list is the name of the member that is found for it. -/
theorem ofName?_of_mem {s : String} (h : s ∈ (Choice.all (α := α)).map Choice.name) :
    ∃ a : α, Choice.ofName? s = some a ∧ Choice.name a = s := by
  obtain ⟨b, hb, rfl⟩ := List.mem_map.mp h
  have hfound : (Choice.ofName? (Choice.name b) : Option α).isSome := by
    rw [Choice.ofName?, List.find?_isSome]
    exact ⟨b, hb, beq_self_eq_true _⟩
  obtain ⟨a, ha⟩ := Option.isSome_iff_exists.mp hfound
  exact ⟨a, ha, by simpa using List.find?_some ha⟩

@[simp]
theorem keeps_choice (h : ∀ a r, get (set a r) = a) : (choice name get set).Keeps := by
  intro j v hv r
  cases j with
  | str s =>
    simp only [choice, SettingKind.accept?] at hv
    split at hv
    · rename_i hs
      obtain rfl := Option.some.inj hv
      obtain ⟨a, ha, rfl⟩ := ofName?_of_mem hs
      simp only [choice, ha, h]
    · cases hv
  | _ => cases hv

@[simp]
theorem leaves_choice {read : R → SettingValue} (h : ∀ a r, read (set a r) = read r) :
    (choice name get set).Leaves read := by
  intro v r
  cases v with
  | flag b => rfl
  | text s =>
    simp only [choice]
    split
    · exact h _ r
    · rfl

end Choice

/-! ## Settings side by side -/

/-- Settings of different names, each of which keeps what it accepts and leaves all others. -/
structure Independent (settings : List (Setting R)) : Prop where
  nodup : (settings.map name).Nodup
  keeps : ∀ s ∈ settings, s.Keeps
  leaves : ∀ s ∈ settings, ∀ t ∈ settings, s.name ≠ t.name → s.Leaves t.get

theorem named?_eq_some {settings : List (Setting R)} {n : String} {s : Setting R}
    (h : named? settings n = some s) : s ∈ settings ∧ s.name = n :=
  ⟨List.mem_of_find?_eq_some h, by simpa using List.find?_some h⟩

/-- What stands under a name is of the setting with this name. -/
theorem get?_map {α : Type} (f : Setting R → α) (settings : List (Setting R)) (n : String) :
    Entries.get? n (settings.map fun s => (s.name, f s)) = (named? settings n).map f := by
  induction settings with
  | nil => rfl
  | cons s settings ih =>
    rw [named?] at ih
    rw [List.map_cons, Entries.get?, named?]
    by_cases hs : s.name = n
    · rw [if_pos hs, List.find?_cons_of_pos (by simpa using hs), Option.map_some]
    · rw [if_neg hs, List.find?_cons_of_neg (by simpa using hs), ih]

theorem get?_values (settings : List (Setting R)) (r : R) (n : String) :
    Entries.get? n (values settings r) = (named? settings n).map fun s => s.get r :=
  get?_map (fun s => s.get r) settings n

/-- Where a value is written it is read, and everywhere else what was read before. -/
theorem Independent.get?_values_set {settings : List (Setting R)} (h : Independent settings)
    {s : Setting R} {k : String} (hs : named? settings k = some s) {j : Json} {v : SettingValue}
    (hv : s.kind.accept? j = some v) (r : R) (n : String) :
    Entries.get? n (values settings (s.set v r)) =
      if k = n then some v else Entries.get? n (values settings r) := by
  obtain ⟨hmem, rfl⟩ := named?_eq_some hs
  rw [get?_values, get?_values]
  split
  · rename_i hn
    rw [← hn, hs, Option.map_some, h.keeps s hmem j v hv]
  · rename_i hn
    cases ht : named? settings n with
    | none => rfl
    | some t =>
      obtain ⟨htmem, rfl⟩ := named?_eq_some ht
      rw [Option.map_some, Option.map_some, h.leaves s hmem t htmem hn]

/-! ## Entries one after the other -/

/-- The last value that entries give for the setting of a name, in whatever spelling. -/
def lastFor (n : String) (es : List (String × Json)) : Option Json :=
  (es.findRev? fun e => keyName e.1 == n).map Prod.snd

theorem lastFor_cons (n : String) (e : String × Json) (es : List (String × Json)) :
    lastFor n (e :: es) = (lastFor n es).or (if keyName e.1 = n then some e.2 else none) := by
  rw [lastFor, lastFor, List.findRev?]
  cases es.findRev? fun e => keyName e.1 == n with
  | some f => rfl
  | none => by_cases he : keyName e.1 = n <;> simp [he]

theorem lastFor_append (n : String) (es fs : List (String × Json)) :
    lastFor n (es ++ fs) = (lastFor n fs).or (lastFor n es) := by
  induction es with
  | nil => rw [List.nil_append, lastFor, lastFor, List.findRev?, Option.map_none, Option.or_none]
  | cons e es ih => rw [List.cons_append, lastFor_cons, ih, lastFor_cons, Option.or_assoc]

/-- An entry that is written names a setting which accepts its value. -/
theorem assign_eq_ok [Machine] {title : String} {settings : List (Setting R)} {r r' : R}
    {e : String × Json} (h : assign title settings r e = .ok r') :
    ∃ s v, named? settings (keyName e.1) = some s ∧ s.kind.accept? e.2 = some v ∧
      r' = s.set v r := by
  rw [assign] at h
  split at h
  · cases h
  · rename_i s hs
    split at h
    · cases h
    · rename_i v hv
      exact ⟨s, v, hs, hv, (Except.ok.inj h).symm⟩

/-- After all entries have been written, each name has the last value that was given for it, or
else the one that it had. -/
theorem Independent.get?_values_assignAll [Machine] {settings : List (Setting R)}
    (h : Independent settings) {title : String} {r r' : R} {es : List (String × Json)}
    (hr : assignAll title settings r es = .ok r') (n : String) :
    (Entries.get? n (values settings r')).map SettingValue.toJson =
      (lastFor n es).or ((Entries.get? n (values settings r)).map SettingValue.toJson) := by
  induction es generalizing r with
  | nil =>
    obtain rfl := Except.ok.inj hr
    rfl
  | cons e es ih =>
    rw [assignAll, List.foldlM_cons] at hr
    cases hfirst : assign title settings r e with
    | error err =>
      rw [hfirst] at hr
      cases hr
    | ok r₁ =>
      rw [hfirst] at hr
      obtain ⟨s, v, hs, hv, rfl⟩ := assign_eq_ok hfirst
      rw [ih hr, h.get?_values_set hs hv, lastFor_cons]
      split
      · rw [Option.map_some, SettingKind.toJson_of_accept? hv, Option.or_assoc]
        rfl
      · rw [Option.or_none]

end Setting

/-! ## The records of the languages -/

open Setting SharedOptions

theorem SharedOptions.independent_plain : Independent plainSettings :=
  ⟨by decide, by simp [plainSettings, settings], by simp [plainSettings, settings]⟩

theorem TypeScript.independent : Independent TypeScript.Options.settings :=
  ⟨by decide, by simp [TypeScript.Options.settings, settings],
    by simp [TypeScript.Options.settings, settings]⟩

theorem JavaScript.independent : Independent JavaScript.Options.settings :=
  ⟨by decide, by simp [JavaScript.Options.settings, settings],
    by simp [JavaScript.Options.settings, settings]⟩

theorem Go.independent : Independent Go.Options.settings :=
  ⟨by decide, by simp [Go.Options.settings, settings], by simp [Go.Options.settings, settings]⟩

theorem Python.independent : Independent Python.Options.settings :=
  ⟨by decide, by simp [Python.Options.settings, settings],
    by simp [Python.Options.settings, settings]⟩

theorem Rust.independent : Independent Rust.Options.settings :=
  ⟨by decide, by simp [Rust.Options.settings, settings],
    by simp [Rust.Options.settings, settings]⟩

theorem Java.independent : Independent Java.Options.settings :=
  ⟨by decide, by simp [Java.Options.settings, settings],
    by simp [Java.Options.settings, settings]⟩

theorem CSharp.independent : Independent CSharp.Options.settings :=
  ⟨by decide, by simp [CSharp.Options.settings, settings],
    by simp [CSharp.Options.settings, settings]⟩

theorem Kotlin.independent : Independent Kotlin.Options.settings :=
  ⟨by decide, by simp [Kotlin.Options.settings, settings],
    by simp [Kotlin.Options.settings, settings]⟩

theorem Swift.independent : Independent Swift.Options.settings :=
  ⟨by decide, by simp [Swift.Options.settings, settings],
    by simp [Swift.Options.settings, settings]⟩

theorem Php.independent : Independent Php.Options.settings :=
  ⟨by decide, by simp [Php.Options.settings, settings],
    by simp [Php.Options.settings, settings]⟩

end TypeSketch
