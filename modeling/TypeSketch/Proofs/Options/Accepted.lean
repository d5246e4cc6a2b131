-- Which entries make up a record. The key of each has to be a spelling of an option, and the value
-- one that the option takes; then the record has the last value for each option. As no two options
-- share a spelling, the order counts only among entries for one option, and what a record shows
-- makes up that record, whatever the order and the spelling. Other entries are told by the first
-- that does not fit, unless it has a value that no message can show.
import TypeSketch.Proofs.Naming.Capitals
import TypeSketch.Proofs.Options.Precedence
import TypeSketch.Proofs.Options.Shown

namespace TypeSketch

open Naming Setting Text

/-! ## Entries that fit -/

/-- A value of a kind: a truth value, a text, or the name of a choice. -/
def SettingKind.Takes : SettingKind → Json → Prop
  | flag, v => ∃ b, v = .bool b
  | text, v => ∃ s, v = .str s
  | choice names, v => ∃ s ∈ names, v = .str s

theorem SettingKind.isSome_accept? {k : SettingKind} {v : Json} :
    (k.accept? v).isSome = true ↔ k.Takes v := by
  cases k with
  | flag => cases v <;> simp [accept?, Takes]
  | text => cases v <;> simp [accept?, Takes]
  | choice names => cases v <;> simp [accept?, Takes]

namespace Emitter

/-- An entry whose key is a spelling of an option, with a value of the option's kind. -/
def Fits (e : Emitter) (x : String × Json) : Prop :=
  ∃ k, (keyName x.1, k) ∈ e.kinds ∧ k.Takes x.2

/-- What is wrong with an entry, if anything is. -/
def fault? [Machine] (e : Emitter) (x : String × Json) : Option OptionError :=
  match Entries.get? (keyName x.1) e.kinds with
  | none => some (.unknown x.1 e.recordTitle (sortedNames (e.kinds.map Prod.fst)))
  | some k => if (k.accept? x.2).isSome then none else some (.ofMisfit (keyName x.1) k x.2)

theorem MadeOf.names {e : Emitter} {R : Type} {settings : List (Setting R)} {start : R}
    {wrap : R → OptionRecord} (h : e.MadeOf settings start wrap) :
    e.kinds.map Prod.fst = settings.map Setting.name := by
  rw [h.kinds, Setting.kinds, List.map_map]
  rfl

theorem nodup_kinds (e : Emitter) : (e.kinds.map Prod.fst).Nodup := by
  obtain ⟨R, settings, start, wrap, hmade⟩ := e.exists_madeOf
  rw [hmade.names]
  exact hmade.independent.nodup

theorem fault?_eq_none [Machine] {e : Emitter} {x : String × Json} :
    e.fault? x = none ↔ e.Fits x := by
  rw [fault?, Fits]
  cases h : Entries.get? (keyName x.1) e.kinds with
  | none =>
    refine iff_of_false (by simp) ?_
    rintro ⟨k, hk, -⟩
    rw [Entries.mem_iff_get? e.nodup_kinds, h] at hk
    cases hk
  | some k =>
    simp only [Entries.mem_iff_get? e.nodup_kinds, h, Option.some.injEq, exists_eq_left',
      ← SettingKind.isSome_accept?]
    split <;> simp_all

section

variable {e : Emitter} {R : Type} {settings : List (Setting R)} {start : R}
  {wrap : R → OptionRecord} (h : e.MadeOf settings start wrap)
include h

/-- An entry is written exactly if nothing is wrong with it. -/
theorem MadeOf.assign [Machine] (r : R) (x : String × Json) :
    match e.fault? x with
    | none => ∃ r', assign e.recordTitle settings r x = .ok r'
    | some err => assign e.recordTitle settings r x = .error err := by
  rw [fault?, h.names, h.kinds, get?_kinds, Setting.assign]
  cases hs : named? settings (keyName x.1) with
  | none => rfl
  | some s =>
    obtain ⟨-, hname⟩ := named?_eq_some hs
    cases hv : s.kind.accept? x.2 with
    | none => simp [hv, hname]
    | some v => simp [hv]

/-- Entries are written one after the other until something is wrong with one. -/
theorem MadeOf.assignAll [Machine] (r : R) (es : List (String × Json)) :
    match es.findSome? e.fault? with
    | none => ∃ r', assignAll e.recordTitle settings r es = .ok r'
    | some err => assignAll e.recordTitle settings r es = .error err := by
  -- whether an entry fits does not depend on the record it is written to
  induction es generalizing r with
  | nil => exact ⟨r, rfl⟩
  | cons x es ih =>
    have hfirst := h.assign r x
    rw [List.findSome?_cons, Setting.assignAll, List.foldlM_cons]
    cases hx : e.fault? x with
    | some err =>
      rw [hx] at hfirst
      simp only [hfirst]
      rfl
    | none =>
      rw [hx] at hfirst
      obtain ⟨r', hr'⟩ := hfirst
      rw [hr']
      exact ih r'

end

/-- A record is built exactly if nothing is wrong with any entry; else the first fault is told. -/
theorem build_cases [Machine] (e : Emitter) (es : List (String × Json)) :
    match es.findSome? e.fault? with
    | none => ∃ r, OptionRecord.build e es = .ok r
    | some err => OptionRecord.build e es = .error err := by
  obtain ⟨R, settings, start, wrap, hmade⟩ := e.exists_madeOf
  have hall := hmade.assignAll start es
  rw [hmade.build]
  cases hes : es.findSome? e.fault? with
  | some err =>
    rw [hes] at hall
    simp only [hall]
    rfl
  | none =>
    rw [hes] at hall
    obtain ⟨r, hr⟩ := hall
    exact ⟨wrap r, by rw [hr]; rfl⟩

theorem build_eq_error_iff [Machine] {e : Emitter} {es : List (String × Json)}
    {err : OptionError} :
    OptionRecord.build e es = .error err ↔ es.findSome? e.fault? = some err := by
  have hcases := e.build_cases es
  cases hes : es.findSome? e.fault? with
  | none =>
    rw [hes] at hcases
    obtain ⟨r, hr⟩ := hcases
    simp [hr]
  | some fault =>
    rw [hes] at hcases
    simp [hcases]

theorem exists_build_iff [Machine] {e : Emitter} {es : List (String × Json)} :
    (∃ r, OptionRecord.build e es = .ok r) ↔ ∀ x ∈ es, e.Fits x := by
  have hnone : (∀ x ∈ es, e.Fits x) ↔ ∀ err, OptionRecord.build e es ≠ .error err := by
    simp only [← fault?_eq_none, ← List.findSome?_eq_none_iff, Ne, build_eq_error_iff]
    exact Option.eq_none_iff_forall_ne_some
  rw [hnone]
  cases OptionRecord.build e es with
  | ok r => simp
  | error err => simp

/-- What stops the showing of a value that does not fit is what is wrong with its entry. -/
theorem fault?_of_unshown [Machine] {e : Emitter} {x : String × Json} {k : SettingKind}
    {f : Json.ShownFault} (hkind : Entries.get? (keyName x.1) e.kinds = some k)
    (hvalue : k.accept? x.2 = none)
    (hshown : x.2.shownFault? Machine.digits Machine.shownDepth = some f) :
    e.fault? x = some (.unshown f) := by
  simp [fault?, hkind, hvalue, OptionError.ofMisfit, hshown]

/-- An entry for an option, whose value does not fit and cannot be shown either. -/
def Conceals [Machine] (e : Emitter) (x : String × Json) : Prop :=
  keyName x.1 ∈ e.kinds.map Prod.fst ∧ ¬ e.Fits x ∧ ¬ x.2.Showable

/-- Entries of which the first one that does not fit has a value that cannot be shown. -/
def StopsUnshown [Machine] (e : Emitter) (es : List (String × Json)) : Prop :=
  ∃ before x after, es = before ++ x :: after ∧ (∀ y ∈ before, e.Fits y) ∧ e.Conceals x

theorem conceals_iff [Machine] {e : Emitter} {x : String × Json} :
    e.Conceals x ↔ ∃ fault, e.fault? x = some fault ∧ fault.isOwn = false := by
  rw [Conceals, ← fault?_eq_none, ← Entries.has_iff, Entries.has, fault?]
  cases Entries.get? (keyName x.1) e.kinds with
  | none => simp [OptionError.isOwn]
  | some k =>
    have hown : (OptionError.ofMisfit (keyName x.1) k x.2).isOwn = true ↔ x.2.Showable :=
      OptionError.isOwn_ofMisfit
    rw [← hown]
    by_cases hv : (k.accept? x.2).isSome <;> simp [hv]

/-- The first fault is of the promised kind unless its value cannot be shown. -/
theorem stopsUnshown_iff [Machine] {e : Emitter} {es : List (String × Json)} :
    e.StopsUnshown es ↔ ∃ fault, es.findSome? e.fault? = some fault ∧ fault.isOwn = false := by
  simp only [StopsUnshown, conceals_iff, List.findSome?_eq_some_iff, fault?_eq_none]
  constructor
  · rintro ⟨before, x, after, hes, hbefore, fault, hx, hown⟩
    exact ⟨fault, ⟨before, x, after, hes, hx, hbefore⟩, hown⟩
  · rintro ⟨fault, ⟨before, x, after, hes, hx, hbefore⟩, hown⟩
    exact ⟨before, x, after, hes, hbefore, fault, hx, hown⟩

theorem isOwn_of_first_fault [Machine] {e : Emitter} {es : List (String × Json)} :
    (∃ fault, es.findSome? e.fault? = some fault ∧ fault.isOwn = true) ↔
      (∃ x ∈ es, ¬ e.Fits x) ∧ ¬ e.StopsUnshown es := by
  have hmisfit : (∃ x ∈ es, ¬ e.Fits x) ↔ es.findSome? e.fault? ≠ none := by
    simp only [Ne, List.findSome?_eq_none_iff, fault?_eq_none, not_forall, exists_prop]
  rw [stopsUnshown_iff, hmisfit]
  cases es.findSome? e.fault? <;> simp

theorem emitter_of_build [Machine] {e : Emitter} {es : List (String × Json)} {r : OptionRecord}
    (h : OptionRecord.build e es = .ok r) : r.emitter = e := by
  obtain ⟨R, settings, start, wrap, hmade⟩ := e.exists_madeOf
  rw [hmade.build] at h
  obtain ⟨a, -, rfl⟩ := Except.map_eq_ok.mp h
  exact hmade.emitter a

end Emitter

/-! ## The order of entries -/

/-- Where no two entries are for one option, the last one for an option is the only one. -/
theorem Setting.lastFor_eq_some_iff {n : String} {v : Json} {es : List (String × Json)}
    (h : (es.map fun x => keyName x.1).Nodup) :
    lastFor n es = some v ↔ ∃ key, (key, v) ∈ es ∧ keyName key = n := by
  induction es generalizing v with
  | nil => simp [lastFor]
  | cons x es ih =>
    rw [List.map_cons, List.nodup_cons] at h
    rw [lastFor_cons, Option.or_eq_some_iff, ih h.2]
    obtain ⟨key, w⟩ := x
    have hnone : keyName key = n → lastFor n es = none := by
      rintro rfl
      rw [Option.eq_none_iff_forall_ne_some]
      intro w hw
      obtain ⟨key', hmem, hkey⟩ := (ih h.2).mp hw
      exact h.1 (List.mem_map.mpr ⟨_, hmem, hkey⟩)
    constructor
    · rintro (⟨key', hmem, hkey⟩ | ⟨-, hw⟩)
      · exact ⟨key', List.mem_cons_of_mem _ hmem, hkey⟩
      · split at hw
        · cases hw
          exact ⟨key, List.mem_cons_self, ‹_›⟩
        · cases hw
    · rintro ⟨key', hmem, hkey⟩
      rcases List.mem_cons.mp hmem with heq | hmem
      · cases heq
        exact .inr ⟨hnone hkey, if_pos hkey⟩
      · exact .inl ⟨key', hmem, hkey⟩

theorem Setting.lastFor_perm {es es' : List (String × Json)} (h : es'.Perm es)
    (hes : (es.map fun x => keyName x.1).Nodup) (n : String) : lastFor n es' = lastFor n es := by
  have hes' : (es'.map fun x => keyName x.1).Nodup := (h.map _).nodup_iff.mpr hes
  ext v
  rw [lastFor_eq_some_iff hes', lastFor_eq_some_iff hes]
  simp only [h.mem_iff]

namespace OptionRecord

/-! ## What a record shows -/

theorem toJson_inj {v w : SettingValue} : v.toJson = w.toJson ↔ v = w := by
  cases v <;> cases w <;> simp [SettingValue.toJson]

/-- Records of one emitter that show the same values are the same. -/
theorem eq_of_value? {r r' : OptionRecord} (hemitter : r.emitter = r'.emitter)
    (h : ∀ name, r.value? name = r'.value? name) : r = r' := by
  obtain ⟨R, settings, start, wrap, hmade⟩ := r.emitter.exists_madeOf
  obtain ⟨a, rfl⟩ := hmade.wraps r rfl
  obtain ⟨b, rfl⟩ := hmade.wraps r' hemitter.symm
  refine congrArg wrap (hmade.faithful.complete a b fun s hs => ?_)
  have hnames : ((settings.map fun s => (s.name, s)).map Prod.fst).Nodup := by
    rw [List.map_map]
    exact hmade.independent.nodup
  have hsame := h s.name
  have hfound : named? settings s.name = some s := by
    have hget := (Entries.mem_iff_get? hnames).mp (List.mem_map_of_mem hs)
    rw [get?_map, Option.map_id'] at hget
    exact hget
  rw [value?, value?, hmade.values, hmade.values, get?_values, get?_values, hfound] at hsame
  exact toJson_inj.mp (Option.some.inj hsame)

/-- The values of a record as entries. -/
def entries (r : OptionRecord) : List (String × Json) := r.values.map fun x => (x.1, x.2.toJson)

theorem entries_wrap {e : Emitter} {R : Type} {settings : List (Setting R)} {start : R}
    {wrap : R → OptionRecord} (h : e.MadeOf settings start wrap) (a : R) :
    (wrap a).entries = settings.map fun s => (s.name, (s.get a).toJson) := by
  rw [entries, h.values, Setting.values, List.map_map]
  rfl

theorem value?_eq_get? (r : OptionRecord) (name : String) :
    r.value? name = Entries.get? name r.entries := by
  obtain ⟨R, settings, start, wrap, hmade⟩ := r.emitter.exists_madeOf
  obtain ⟨a, rfl⟩ := hmade.wraps r rfl
  rw [value?, hmade.values, get?_values, entries_wrap hmade, get?_map, Option.map_map]
  rfl

theorem keys_entries (r : OptionRecord) :
    r.entries.map Prod.fst = r.emitter.kinds.map Prod.fst := by
  obtain ⟨R, settings, start, wrap, hmade⟩ := r.emitter.exists_madeOf
  obtain ⟨a, rfl⟩ := hmade.wraps r rfl
  rw [hmade.names, entries_wrap hmade, List.map_map]
  rfl

/-- A record shows values of the right kinds. -/
theorem takes_of_mem_entries {r : OptionRecord} {x : String × Json} (h : x ∈ r.entries) :
    ∃ k, (x.1, k) ∈ r.emitter.kinds ∧ k.Takes x.2 := by
  obtain ⟨R, settings, start, wrap, hmade⟩ := r.emitter.exists_madeOf
  obtain ⟨a, rfl⟩ := hmade.wraps r rfl
  rw [entries_wrap hmade] at h
  obtain ⟨s, hs, rfl⟩ := List.mem_map.mp h
  refine ⟨s.kind, ?_, ?_⟩
  · rw [hmade.kinds]
    exact List.mem_map_of_mem hs
  · rw [← SettingKind.isSome_accept?, hmade.faithful.shows s hs a]
    rfl

theorem emitter_default (e : Emitter) : (default e).emitter = e := by
  obtain ⟨R, settings, start, wrap, hmade⟩ := e.exists_madeOf
  rw [← hmade.default, hmade.emitter]

/-- Records of one emitter show the same options. -/
theorem value?_eq_none_of_emitter {r r' : OptionRecord} (h : r.emitter = r'.emitter)
    {name : String} (hnone : r.value? name = none) : r'.value? name = none := by
  have hkeys : r.entries.map Prod.fst = r'.entries.map Prod.fst := by
    rw [keys_entries, keys_entries, h]
  have hiff (r : OptionRecord) : r.value? name = none ↔ name ∉ r.entries.map Prod.fst := by
    rw [value?_eq_get?, ← Entries.has_iff, Entries.has]
    simp
  rw [hiff] at hnone ⊢
  rwa [← hkeys]

end OptionRecord

/-! ## Spellings -/

/-- The names of options are written in snake case, and their words show in every case. -/
theorem Emitter.names_of_options (e : Emitter) : ∀ name ∈ e.kinds.map Prod.fst,
    NameCase.snake.convert name = name ∧ (∀ w ∈ wordChars name.toList, SteadyWord w) ∧
      ∀ w ∈ (wordChars name.toList).dropLast, w.getLast?.any isLower = true := by
  cases e with
  | plain => decide +kernel
  | of l => cases l <;> decide +kernel

/-- The name of an option is told in every case. -/
theorem Setting.keyName_convert {e : Emitter} {name : String} (h : name ∈ e.kinds.map Prod.fst)
    (k : NameCase) : keyName (k.convert name) = name := by
  obtain ⟨hsnake, hsteady, hends⟩ := e.names_of_options name h
  have hsame : NameCase.snake.convert (k.convert name) = NameCase.snake.convert name := by
    by_cases hk : k ∈ NameCase.capitalized
    · rw [NameCase.convert_capitalized_iff hk (by decide)]
      exact isChain_written hk hsteady hends
    · refine NameCase.convert_convert ?_ .snake name
      revert hk
      cases k <;> decide
  rw [keyName, hsame, hsnake]

namespace OptionRecord

/-- The entries of a record, each key spelled in the case that is chosen for it. -/
def spelled (r : OptionRecord) (spell : String → NameCase) : List (String × Json) :=
  r.entries.map fun x => ((spell x.1).convert x.1, x.2)

theorem keyName_spelled {r : OptionRecord} (spell : String → NameCase) {x : String × Json}
    (h : x ∈ r.entries) : keyName ((spell x.1).convert x.1) = x.1 := by
  apply keyName_convert (e := r.emitter)
  rw [← keys_entries]
  exact List.mem_map_of_mem h

theorem nodup_spelled (r : OptionRecord) (spell : String → NameCase) :
    ((r.spelled spell).map fun x => keyName x.1).Nodup := by
  have hkeys : (r.spelled spell).map (fun x => keyName x.1) = r.entries.map Prod.fst := by
    rw [spelled, List.map_map]
    exact List.map_congr_left fun x hx => keyName_spelled spell hx
  rw [hkeys, keys_entries]
  exact r.emitter.nodup_kinds

theorem fits_spelled (r : OptionRecord) (spell : String → NameCase) :
    ∀ x ∈ r.spelled spell, r.emitter.Fits x := by
  intro x hx
  obtain ⟨y, hy, rfl⟩ := List.mem_map.mp hx
  rw [Emitter.Fits, keyName_spelled spell hy]
  exact takes_of_mem_entries hy

theorem lastFor_spelled (r : OptionRecord) (spell : String → NameCase) (name : String) :
    lastFor name (r.spelled spell) = r.value? name := by
  have hnodup : (r.entries.map Prod.fst).Nodup := by
    rw [keys_entries]
    exact r.emitter.nodup_kinds
  ext v
  rw [lastFor_eq_some_iff (r.nodup_spelled spell), value?_eq_get?, ← Entries.mem_iff_get? hnodup]
  constructor
  · rintro ⟨key, hkey, rfl⟩
    obtain ⟨y, hy, heq⟩ := List.mem_map.mp hkey
    cases heq
    rwa [keyName_spelled spell hy]
  · intro hmem
    exact ⟨_, List.mem_map_of_mem hmem, keyName_spelled spell hmem⟩

/-! ## Records built again -/

/-- Entries of which no two are for one option build the same record in any order. -/
theorem build_perm [Machine] {e : Emitter} {es es' : List (String × Json)} {r : OptionRecord}
    (h : build e es = .ok r) (hperm : es'.Perm es)
    (hes : (es.map fun x => keyName x.1).Nodup) : build e es' = .ok r := by
  have hfits := Emitter.exists_build_iff.mp ⟨r, h⟩
  obtain ⟨r', hr'⟩ := Emitter.exists_build_iff.mpr fun x hx => hfits x (hperm.subset hx)
  have hsame : r' = r := by
    refine eq_of_value? ((Emitter.emitter_of_build hr').trans (Emitter.emitter_of_build h).symm) ?_
    intro name
    rw [value?_build hr', value?_build h, lastFor_perm hperm hes]
  rw [hr', hsame]

/-- What a record shows builds this record, however the keys are spelled. -/
theorem build_spelled [Machine] (r : OptionRecord) (spell : String → NameCase) :
    build r.emitter (r.spelled spell) = .ok r := by
  obtain ⟨r', hr'⟩ := Emitter.exists_build_iff.mpr (r.fits_spelled spell)
  have hemitter := Emitter.emitter_of_build hr'
  have hsame : r' = r := by
    refine eq_of_value? hemitter fun name => ?_
    rw [value?_build hr', lastFor_spelled]
    -- an option that the record does not show has no standard value either
    cases hname : r.value? name with
    | some v => rfl
    | none => exact value?_eq_none_of_emitter (emitter_default r.emitter).symm hname
  rw [hr', hsame]

/-- Without a file, a record is built from the entries of a dictionary as they stand. -/
theorem outcome_buildFrom_none [Machine] (d : Disk) (e : Emitter) {es : List (String × Json)}
    (h : (es.map Prod.fst).Nodup) :
    (buildFrom d e none es).outcome.1 = (build e es).mapError .option := by
  have hmerged : merged [] es = es := Entries.ofList_of_nodup h
  rw [buildFrom_none, hmerged]
  cases build e es <;> rfl

/-- The entries of a dictionary have keys of their own, if no two are for one option. -/
theorem nodup_keys_of_keyName {es : List (String × Json)}
    (h : (es.map fun x => keyName x.1).Nodup) : (es.map Prod.fst).Nodup := by
  have hkeys : es.map (fun x => keyName x.1) = (es.map Prod.fst).map keyName := by
    rw [List.map_map]
    rfl
  rw [hkeys] at h
  exact List.Pairwise.of_map keyName (fun _ _ hne heq => hne (congrArg keyName heq)) h

end OptionRecord

/-! ## The law -/

/-- For every emitter and every dictionary of entries, without a file: a record is built if and only
if each key is a spelling of an option and each value is of the kind of that option; else the first
entry that is not so is told, and by an error of the promised kind exactly if that entry has a key
that is no option's or a value that can be shown. The record is one of the emitter and has for each
option the value of the last entry for it, or else the standard one. So entries of which no two are
for one option may be given in any order. What any record of the emitter shows builds this record
again, in any order and with each key in any of the five cases. -/
theorem options_are_built_from_entries_that_fit [Machine] (d : Disk) (e : Emitter)
    (es : List (String × Json)) (h : (es.map Prod.fst).Nodup) :
    let built (es : List (String × Json)) := (OptionRecord.buildFrom d e none es).outcome.1
    ((∃ r, built es = .ok r) ↔ ∀ x ∈ es, e.Fits x) ∧
      (∀ err, built es = .error err ↔
        ∃ fault, es.findSome? e.fault? = some fault ∧ err = .option fault) ∧
      ((∃ fault, built es = .error (.option fault) ∧ fault.isOwn = true) ↔
        (∃ x ∈ es, ¬ e.Fits x) ∧ ¬ e.StopsUnshown es) ∧
      (∀ r, built es = .ok r → r.emitter = e ∧
        (∀ name, r.value? name = (lastFor name es).or ((OptionRecord.default e).value? name)) ∧
        ((es.map fun x => keyName x.1).Nodup → ∀ es', es'.Perm es → built es' = .ok r)) ∧
      ∀ r : OptionRecord, r.emitter = e →
        ∀ (spell : String → NameCase) (es' : List (String × Json)),
          es'.Perm (r.spelled spell) → built es' = .ok r := by
  intro built
  have hbuilt {es : List (String × Json)} (h : (es.map Prod.fst).Nodup) :
      built es = (OptionRecord.build e es).mapError .option :=
    OptionRecord.outcome_buildFrom_none d e h
  have hok {es : List (String × Json)} (h : (es.map Prod.fst).Nodup) (r : OptionRecord) :
      built es = .ok r ↔ OptionRecord.build e es = .ok r := by
    rw [hbuilt h]
    exact Except.mapError_eq_ok
  have herror (err : SetupError) : built es = .error err ↔
      ∃ fault, es.findSome? e.fault? = some fault ∧ err = .option fault := by
    simp only [hbuilt h, Except.mapError_eq_error, Emitter.build_eq_error_iff, @eq_comm _ err]
  refine ⟨?_, herror, ?_, fun r hr => ?_, ?_⟩
  · simp only [hok h, Emitter.exists_build_iff]
  · simp only [herror, SetupError.option.injEq, exists_eq_right', Emitter.isOwn_of_first_fault]
  · rw [hok h] at hr
    refine ⟨Emitter.emitter_of_build hr, OptionRecord.value?_build hr, fun hes es' hperm => ?_⟩
    rw [hok ((hperm.map _).nodup_iff.mpr h)]
    exact OptionRecord.build_perm hr hperm hes
  · rintro r rfl spell es' hperm
    have hkeys := r.nodup_spelled spell
    rw [hok ((hperm.map _).nodup_iff.mpr (OptionRecord.nodup_keys_of_keyName hkeys))]
    exact OptionRecord.build_perm (r.build_spelled spell) hperm hkeys

/-- Of two spellings of one option the last entry counts, and the record is built again from its
values in the opposite order with keys in kebab case. -/
theorem the_class_style_is_given_twice :
    let es : List (String × Json) :=
      [("class-style", .str "lombok"), ("RootName", .str "A"), ("classStyle", .str "pojo")]
    let r : OptionRecord := .of (.java { rootName := "A", classStyle := .pojo })
    (es.map Prod.fst).Nodup ∧ (∀ x ∈ es, (Emitter.of .java).Fits x) ∧
      (∀ d, (OptionRecord.buildFrom d (.of .java) none es).outcome.1 = .ok r) ∧
      ∀ d, (OptionRecord.buildFrom d (.of .java) none
        (r.spelled fun _ => .kebab).reverse).outcome.1 = .ok r := by
  intro es r
  have hkeys : (es.map Prod.fst).Nodup := by decide
  have hbuilt (d : Disk) : (OptionRecord.buildFrom d (.of .java) none es).outcome.1 = .ok r := by
    rw [OptionRecord.outcome_buildFrom_none d _ hkeys]
    exact Except.eq_ok_of_toOption (by decide +kernel)
  refine ⟨hkeys, ?_, hbuilt, fun d => ?_⟩
  · obtain ⟨hfits, -⟩ := options_are_built_from_entries_that_fit {} (.of .java) es hkeys
    exact hfits.mp ⟨r, hbuilt {}⟩
  · obtain ⟨-, -, -, -, hagain⟩ := options_are_built_from_entries_that_fit d (.of .java) es hkeys
    exact hagain r rfl _ _ (List.reverse_perm _)

/-- A whole number fits no option that is a truth value. If it has one digit more than can be shown,
what comes out is that it cannot be shown, and this by an error of another kind. -/
theorem a_number_too_long_to_show_is_not_told :
    let long : Int := .ofNat (.pow 10 Json.digitLimit)
    let x : String × Json := ("optional_properties", .num (.whole long))
    let fault : OptionError := .unshown (.digits Json.digitLimit)
    ¬ (Emitter.of .go).Fits x ∧ fault.isOwn = false ∧
      ∀ d, (OptionRecord.buildFrom d (.of .go) none [x]).outcome.1 = .error (.option fault) := by
  intro long x fault
  have hkind : Entries.get? (keyName x.1) (Emitter.of .go).kinds = some .flag := by decide +kernel
  have hshown : x.2.shownFault? Json.digitLimit 980 = some (.digits Json.digitLimit) :=
    Json.shownFault?_pow (by decide)
  have hfault : (Emitter.of .go).fault? x = some fault := Emitter.fault?_of_unshown hkind rfl hshown
  have hfirst : [x].findSome? (Emitter.of .go).fault? = some fault := by
    rw [List.findSome?_cons, hfault]
  refine ⟨fun hfits => ?_, rfl, fun d => ?_⟩
  · rw [Emitter.fault?_eq_none.mpr hfits] at hfault
    cases hfault
  · have hkeys : ([x].map Prod.fst).Nodup := List.pairwise_singleton _ _
    rw [OptionRecord.outcome_buildFrom_none d _ hkeys, Emitter.build_eq_error_iff.mpr hfirst]
    rfl

end TypeSketch
