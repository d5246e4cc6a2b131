-- Registries that come about by registering and removing languages. Every alias
-- leads to a registered language. A registration takes over no name but its
-- own, and one that is refused leaves behind what it wrote before the conflict.
import TypeSketch.Proofs.Table
import TypeSketch.Registry
import Mathlib.Data.List.TakeWhile

namespace TypeSketch.Registry

open Text

variable {α : Type}

/-- The registries that come about from the one without any name: by registrations, those that
were refused among them, and by removals. -/
inductive Reachable : Registry α → Prop
  | empty : Reachable empty
  | register {r : Registry α} (h : Reachable r) (language : String) (emitter : Option α)
      (aliases : List String) (replace : Bool) :
      Reachable (r.register language emitter aliases replace).1
  | unregister {r : Registry α} (h : Reachable r) (language : String) :
      Reachable (r.unregister language)

/-- The registry of the target languages is one of them. -/
theorem reachable_builtin : builtin.Reachable :=
  List.foldlRecOn Language.all _ .empty fun _ h l _ =>
    h.register l.tag (some (.of l)) l.aliases false

/-- The tables of that registry: no name of a language stands in the way of another one. -/
theorem builtin_eq :
    builtin = ⟨Language.all.map fun l => (l.tag, .of l),
      Language.all.flatMap fun l => l.aliases.map (·, l.tag)⟩ := by
  have hemitters : builtin.emitters = Language.all.map fun l => (l.tag, .of l) := by
    decide
  have haliases : builtin.aliases = Language.all.flatMap fun l => l.aliases.map (·, l.tag) := by
    decide
  rw [← hemitters, ← haliases]

/-! ## What a registration writes -/

/-- Why a further name is not given to a language, if it is not: no name is refused where names may
be taken over, and the language's own name is passed over. -/
def refusal (r : Registry α) (language : String) (replace : Bool) (nickname : String) :
    Option RegistryError :=
  if replace = true ∨ toSmall nickname = language then none else r.aliasConflict language nickname

/-- The entries for the further names of a language; its own name is none of them. -/
def aliasEntries (language : String) (nicknames : List String) : List (String × String) :=
  ((nicknames.map toSmall).filter (· ≠ language)).map (·, language)

theorem of_mem_aliasEntries {language : String} {nicknames : List String} {x : String × String}
    (h : x ∈ aliasEntries language nicknames) :
    x.2 = language ∧ x.1 ≠ language ∧ ∃ a ∈ nicknames, toSmall a = x.1 := by
  obtain ⟨n, hn, rfl⟩ := List.mem_map.mp h
  obtain ⟨hn, hne⟩ := List.mem_filter.mp hn
  exact ⟨rfl, by simpa using hne, List.mem_map.mp hn⟩

theorem aliasConflict_eq_none_iff {r : Registry α} {language a : String} :
    r.aliasConflict language a = none ↔ Entries.get? (toSmall a) r.emitters = none ∧
      ∀ target, Entries.get? (toSmall a) r.aliases = some target → target = language := by
  rw [aliasConflict, Entries.has]
  cases Entries.get? (toSmall a) r.emitters with
  | some e => simp
  | none => cases Entries.get? (toSmall a) r.aliases <;> simp

/-- A name that is given to a language makes no other name free or taken for it. -/
theorem aliasConflict_put {r : Registry α} {language a : String}
    (ha : r.aliasConflict language a = none) (b : String) :
    aliasConflict { r with aliases := Entries.put (toSmall a) language r.aliases } language b =
      r.aliasConflict language b := by
  by_cases hab : toSmall a = toSmall b
  · have hb : r.aliasConflict language b = none := by
      rw [aliasConflict_eq_none_iff] at ha ⊢
      rwa [hab] at ha
    rw [hb, aliasConflict_eq_none_iff, Entries.get?_put, if_pos hab]
    exact ⟨(aliasConflict_eq_none_iff.mp hb).1, fun target h => (Option.some.inj h).symm⟩
  · simp only [aliasConflict, Entries.get?_put, if_neg hab]

theorem refusal_put {r : Registry α} {language a : String} {replace : Bool}
    (hown : toSmall a ≠ language) (ha : r.refusal language replace a = none) :
    refusal { r with aliases := Entries.put (toSmall a) language r.aliases } language replace =
      r.refusal language replace := by
  funext b
  cases replace with
  | true => simp [refusal]
  | false =>
    have hfree : r.aliasConflict language a = none := by simpa [refusal, hown] using ha
    simp only [refusal, aliasConflict_put hfree]

/-- Further names are written up to the first that is refused. All are judged by the tables as they
stood at the beginning. -/
theorem addAliases_eq (language : String) (replace : Bool) (as : List String) (r : Registry α) :
    addAliases language replace as r =
      ({ r with
          aliases := Entries.putAll r.aliases
            (aliasEntries language (as.takeWhile fun a => (r.refusal language replace a).isNone)) },
        as.findSome? (r.refusal language replace)) := by
  induction as generalizing r with
  | nil => rfl
  | cons a as ih =>
    rw [addAliases]
    by_cases hown : toSmall a = language
    · have hfree : r.refusal language replace a = none := by simp [refusal, hown]
      rw [if_pos hown, ih, List.takeWhile_cons_of_pos (by simp [hfree]),
        List.findSome?_cons_of_isNone (by simp [hfree])]
      simp [aliasEntries, hown]
    · have hjudged : (if replace = true then none else r.aliasConflict language a) =
          r.refusal language replace a := by
        simp [refusal, hown]
      rw [if_neg hown, hjudged]
      cases hfree : r.refusal language replace a with
      | none =>
        rw [ih, refusal_put hown hfree, List.takeWhile_cons_of_pos (by simp [hfree]),
          List.findSome?_cons_of_isNone (by simp [hfree])]
        simp [aliasEntries, hown, Entries.putAll_cons]
      | some e =>
        rw [List.takeWhile_cons_of_neg (by simp [hfree]), List.findSome?_cons, hfree]
        rfl

theorem emitters_addAliases (language : String) (replace : Bool) (as : List String)
    (r : Registry α) : (addAliases language replace as r).1.emitters = r.emitters := by
  rw [addAliases_eq]

/-- A name that was given to some language stays with it, unless names may be taken over. -/
theorem get?_addAliases {r : Registry α} {name target : String}
    (h : Entries.get? name r.aliases = some target) (language : String) (as : List String) :
    Entries.get? name (addAliases language false as r).1.aliases = some target := by
  rw [addAliases_eq]
  refine Entries.get?_putAll_of_agree h ?_
  rintro x hx rfl
  obtain ⟨hlang, hown, a, ha, hax⟩ := of_mem_aliasEntries hx
  have hfree : r.aliasConflict language a = none := by
    have := List.mem_takeWhile_imp ha
    simpa [refusal, hax, hown] using this
  rw [hlang]
  exact ((aliasConflict_eq_none_iff.mp hfree).2 target (hax ▸ h)).symm

/-- Where a further name is refused, those before it have been written. -/
theorem addAliases_refused {r : Registry α} {language : String} {replace : Bool} {as : List String}
    {err : RegistryError} (h : (addAliases language replace as r).2 = some err) :
    replace = false ∧ ∃ before a after, as = before ++ a :: after ∧
      (addAliases language replace as r).1.aliases =
        Entries.putAll r.aliases (aliasEntries language before) ∧
      r.aliasConflict language a = some err := by
  rw [addAliases_eq] at h ⊢
  obtain ⟨before, a, after, rfl, ha, hbefore⟩ := List.findSome?_eq_some_iff.mp h
  have hwritten :
      (before ++ a :: after).takeWhile (fun b => (r.refusal language replace b).isNone) =
        before := by
    rw [List.takeWhile_append_of_pos (by simpa using hbefore),
      List.takeWhile_cons_of_neg (by simp [ha]), List.append_nil]
  rw [hwritten]
  rw [refusal] at ha
  split at ha
  · cases ha
  · rename_i hnot
    exact ⟨by simpa using fun h => hnot (.inl h), before, a, after, rfl, rfl, ha⟩

/-- What a registration does: it is refused at once, it finds the language registered, or it writes
the language and then its further names. -/
theorem register_cases (r : Registry α) (language : String) (emitter : Option α)
    (aliases : List String) (replace : Bool) :
    (emitter = none ∧
      r.register language emitter aliases replace = (r, some .notAnEmitter)) ∨
    (∃ e, emitter = some e ∧ replace = false ∧ Entries.has (toSmall language) r.emitters = true ∧
      r.register language emitter aliases replace = (r, none)) ∨
    ∃ e, emitter = some e ∧ (replace = true ∨ Entries.get? (toSmall language) r.emitters = none) ∧
      r.register language emitter aliases replace =
        addAliases (toSmall language) replace aliases
          { r with emitters := Entries.put (toSmall language) e r.emitters } := by
  cases emitter with
  | none => exact .inl ⟨rfl, rfl⟩
  | some e =>
    rw [register]
    by_cases hknown : (Entries.has (toSmall language) r.emitters && !replace) = true
    · obtain ⟨hhas, hreplace⟩ := Bool.and_eq_true_iff.mp hknown
      exact .inr (.inl ⟨e, rfl, by simpa using hreplace, hhas, if_pos hknown⟩)
    · refine .inr (.inr ⟨e, rfl, ?_, if_neg hknown⟩)
      cases replace with
      | true => exact .inl rfl
      | false => exact .inr (by simpa [Entries.has] using hknown)

/-! ## What holds of every registry -/

/-- Every alias leads to a registered language, and none to itself. -/
structure Sound (r : Registry α) : Prop where
  registered : ∀ x ∈ r.aliases, ∃ e, Entries.get? x.2 r.emitters = some e
  proper : ∀ x ∈ r.aliases, x.1 ≠ x.2

theorem Sound.register {r : Registry α} (h : r.Sound) (language : String) (emitter : Option α)
    (aliases : List String) (replace : Bool) :
    (r.register language emitter aliases replace).1.Sound := by
  rcases r.register_cases language emitter aliases replace with
    ⟨_, heq⟩ | ⟨_, _, _, _, heq⟩ | ⟨e, _, _, heq⟩
  · rw [heq]
    exact h
  · rw [heq]
    exact h
  · -- no language is removed, so the old aliases lead where they led
    rw [heq, addAliases_eq]
    constructor
    · intro x hx
      rw [Entries.get?_put]
      split
      · exact ⟨e, rfl⟩
      · rename_i hne
        rcases Entries.mem_putAll hx with hx | hx
        · exact h.registered x hx
        · exact absurd (of_mem_aliasEntries hx).1.symm hne
    · intro x hx
      rcases Entries.mem_putAll hx with hx | hx
      · exact h.proper x hx
      · obtain ⟨hlang, hown, _⟩ := of_mem_aliasEntries hx
        rwa [hlang]

theorem Sound.unregister {r : Registry α} (h : r.Sound) (language : String) :
    (r.unregister language).Sound := by
  constructor
  · intro x hx
    obtain ⟨hx, hne⟩ := List.mem_filter.mp hx
    have hkey : toSmall language ≠ x.2 := fun heq => by simp [heq] at hne
    obtain ⟨e, he⟩ := h.registered x hx
    exact ⟨e, by rw [Registry.unregister, Entries.get?_erase, if_neg hkey, he]⟩
  · intro x hx
    exact h.proper x (List.mem_filter.mp hx).1

theorem Reachable.sound {r : Registry α} (h : r.Reachable) : r.Sound := by
  induction h with
  | empty =>
    exact ⟨fun _ hx => absurd hx List.not_mem_nil, fun _ hx => absurd hx List.not_mem_nil⟩
  | register _ language emitter aliases replace ih =>
    exact ih.register language emitter aliases replace
  | unregister _ language ih => exact ih.unregister language

theorem Sound.emitter_of_primary? {r : Registry α} (h : r.Sound) {key p : String}
    (hp : r.primary? key = some p) : ∃ e, Entries.get? p r.emitters = some e := by
  rw [primary?] at hp
  split at hp
  · rename_i hhas
    obtain rfl := Option.some.inj hp
    exact Option.isSome_iff_exists.mp hhas
  · exact h.registered _ (Entries.mem_of_get? hp)

theorem resolve_eq_ok_iff {r : Registry α} {name p : String} :
    r.resolve name = .ok p ↔ r.primary? (toSmall (trim name)) = some p := by
  rw [resolve]
  cases r.primary? (toSmall (trim name)) <;> simp

theorem emitter_eq_ok {r : Registry α} {name p : String} {e : α} (hname : r.resolve name = .ok p)
    (he : Entries.get? p r.emitters = some e) : r.emitter name = .ok e := by
  rw [emitter, hname]
  simp only [bind, Except.bind, he]
  rfl

/-- A new language is found under its own name, and every other name leads where it led before. -/
theorem primary?_addAliases {r : Registry α} {name p : String} (hp : r.primary? name = some p)
    (language : String) (e : α) (as : List String) :
    (addAliases language false as
      { r with emitters := Entries.put language e r.emitters }).1.primary? name =
        some (if name = language then language else p) := by
  rw [primary?, emitters_addAliases, Entries.has, Entries.get?_put]
  by_cases hown : name = language
  · simp [hown]
  · rw [if_neg (Ne.symm hown), if_neg hown]
    rw [primary?, Entries.has] at hp
    split
    · rwa [if_pos ‹_›] at hp
    · rw [if_neg ‹_›] at hp
      refine get?_addAliases ?_ language as
      exact hp

/-! ## The laws -/

/-- In every registry that comes about, each alias leads to a registered language and none to
itself. So a name either is unknown, to both questions about it, or it leads to a primary name, and
then the table of emitters has an entry under this one. -/
theorem every_name_leads_to_a_registered_language {r : Registry α} (h : r.Reachable) :
    (∀ x ∈ r.aliases, (∃ e, Entries.get? x.2 r.emitters = some e) ∧ x.1 ≠ x.2) ∧
      ∀ name,
        (r.resolve name = .error (.unknown name r.languages) ∧
          r.emitter name = .error (.unknown name r.languages)) ∨
        ∃ p e, r.resolve name = .ok p ∧ Entries.get? p r.emitters = some e ∧
          r.emitter name = .ok e := by
  refine ⟨fun x hx => ⟨h.sound.registered x hx, h.sound.proper x hx⟩, fun name => ?_⟩
  cases hp : r.primary? (toSmall (trim name)) with
  | none =>
    have hname : r.resolve name = .error (.unknown name r.languages) := by rw [resolve, hp]
    refine .inl ⟨hname, ?_⟩
    rw [emitter, hname]
    rfl
  | some p =>
    have hname := resolve_eq_ok_iff.mpr hp
    obtain ⟨e, he⟩ := h.sound.emitter_of_primary? hp
    exact .inr ⟨p, e, hname, he, emitter_eq_ok hname he⟩

/-- A language takes over an alias of another one, which is removed afterwards: the alias leads to
the language that it has been given to. -/
theorem a_stolen_alias_outlives_its_language :
    let r := (builtin.register "Elm" (some (.of .go)) ["JS"] true).1.unregister "JavaScript"
    r.Reachable ∧ r.resolve "js" = .ok "elm" ∧
      (∀ x ∈ r.aliases, (∃ e, Entries.get? x.2 r.emitters = some e) ∧ x.1 ≠ x.2) ∧
      ∀ name,
        (r.resolve name = .error (.unknown name r.languages) ∧
          r.emitter name = .error (.unknown name r.languages)) ∨
        ∃ p e, r.resolve name = .ok p ∧ Entries.get? p r.emitters = some e ∧
          r.emitter name = .ok e := by
  intro r
  have hr : r.Reachable :=
    (reachable_builtin.register "Elm" (some (.of .go)) ["JS"] true).unregister "JavaScript"
  have hname : r.resolve "js" = .ok "elm" := by
    refine resolve_eq_ok_iff.mpr ?_
    simp only [r, builtin_eq]
    decide +kernel
  exact ⟨hr, hname, every_name_leads_to_a_registered_language hr⟩

/-- A registration that may not replace anything leaves every known name where it was, whether it
is refused or not, but for one case: the name of the new language itself, if it was an alias of
another language. The check of names that are in use is not made for it, and it goes over to the new
language. -/
theorem a_registration_takes_over_no_name_but_its_own {r : Registry α} (h : r.Reachable)
    {name p : String} (hname : r.resolve name = .ok p) (language : String) (emitter : Option α)
    (aliases : List String) :
    let r' := (r.register language emitter aliases false).1
    ∃ e, r.emitter name = .ok e ∧
      (emitter = none ∨ toSmall (trim name) ≠ toSmall language ∨ p = toSmall language →
        r'.resolve name = .ok p ∧ r'.emitter name = .ok e) ∧
      ∀ e', emitter = some e' → toSmall (trim name) = toSmall language → p ≠ toSmall language →
        r'.resolve name = .ok (toSmall language) ∧ r'.emitter name = .ok e' := by
  intro r'
  have hp := resolve_eq_ok_iff.mp hname
  obtain ⟨e, he⟩ := h.sound.emitter_of_primary? hp
  refine ⟨e, emitter_eq_ok hname he, ?_⟩
  rcases r.register_cases language emitter aliases false with
    ⟨hnone, heq⟩ | ⟨_, _, _, hhas, heq⟩ | ⟨e', hsome, hnew, heq⟩
  · have hr' : r' = r := congrArg Prod.fst heq
    refine ⟨fun _ => ?_, fun e' hsome => absurd (hnone.symm.trans hsome) (by simp)⟩
    rw [hr']
    exact ⟨hname, emitter_eq_ok hname he⟩
  · have hr' : r' = r := congrArg Prod.fst heq
    refine ⟨fun _ => ?_, fun e' _ hkey hne => ?_⟩
    · rw [hr']
      exact ⟨hname, emitter_eq_ok hname he⟩
    · rw [hkey, primary?, if_pos hhas] at hp
      exact absurd (Option.some.inj hp).symm hne
  · -- the language is new, so no name has led to it until now
    have hfresh : Entries.get? (toSmall language) r.emitters = none := by simpa using hnew
    have hne : p ≠ toSmall language := by
      rintro rfl
      rw [hfresh] at he
      cases he
    have htables : r' = (addAliases (toSmall language) false aliases
        { r with emitters := Entries.put (toSmall language) e' r.emitters }).1 :=
      congrArg Prod.fst heq
    have hprimary := primary?_addAliases hp (toSmall language) e' aliases
    rw [← htables] at hprimary
    have hemitter (q : String) : Entries.get? q r'.emitters =
        if toSmall language = q then some e' else Entries.get? q r.emitters := by
      rw [htables, emitters_addAliases, Entries.get?_put]
    constructor
    · rintro (hnone | hkey | hp)
      · rw [hsome] at hnone
        cases hnone
      · rw [if_neg hkey] at hprimary
        have hname' := resolve_eq_ok_iff.mpr hprimary
        exact ⟨hname', emitter_eq_ok hname' (by rw [hemitter, if_neg (Ne.symm hne), he])⟩
      · exact absurd hp hne
    · intro e'' hsome' hkey _
      rw [if_pos hkey] at hprimary
      have hname' := resolve_eq_ok_iff.mpr hprimary
      refine ⟨hname', emitter_eq_ok hname' ?_⟩
      rw [hemitter, if_pos rfl, ← hsome, hsome']

/-- A language that asks for an alias in use is refused, and the alias leads where it led, whatever
letters it is written in. -/
theorem an_alias_outlives_a_refused_language :
    let registered := builtin.register "Elm" (some (.of .go)) ["ml", "JS", "e"] false
    builtin.Reachable ∧ builtin.resolve " Js\n" = .ok "javascript" ∧
      registered.2 = some (.aliasTaken "JS" "javascript") ∧
      registered.1.resolve " Js\n" = .ok "javascript" ∧
      registered.1.emitter " Js\n" = builtin.emitter " Js\n" := by
  intro registered
  have hname : builtin.resolve " Js\n" = .ok "javascript" :=
    resolve_eq_ok_iff.mpr (by rw [builtin_eq]; decide +kernel)
  have hrefused : registered.2 = some (.aliasTaken "JS" "javascript") := by
    simp only [registered, builtin_eq]
    decide +kernel
  obtain ⟨e, he, hkept, _⟩ := a_registration_takes_over_no_name_but_its_own reachable_builtin hname
    "Elm" (some (.of .go)) ["ml", "JS", "e"]
  obtain ⟨hafter, heafter⟩ := hkept (.inr (.inl (by decide +kernel)))
  exact ⟨reachable_builtin, hname, hrefused, hafter, heafter.trans he.symm⟩

/-- An alias of one language becomes the primary name of another one, without a word: `ts` stands
for TypeScript, and then for a language of its own. -/
theorem an_alias_is_lost_to_a_new_language :
    let registered := builtin.register "ts" (some (.of .go)) [] false
    builtin.Reachable ∧ builtin.resolve "ts" = .ok "typescript" ∧
      builtin.emitter "ts" = .ok (.of .typescript) ∧ registered.2 = none ∧
      registered.1.resolve "ts" = .ok "ts" ∧ registered.1.emitter "ts" = .ok (.of .go) := by
  intro registered
  obtain ⟨hprimary, hemitter, hsilent, hprimary', hemitter'⟩ :
      builtin.primary? (toSmall (trim "ts")) = some "typescript" ∧
        Entries.get? "typescript" builtin.emitters = some (.of .typescript) ∧
        registered.2 = none ∧ registered.1.primary? (toSmall (trim "ts")) = some "ts" ∧
        Entries.get? "ts" registered.1.emitters = some (.of .go) := by
    simp only [registered, builtin_eq]
    decide +kernel
  have hbefore := resolve_eq_ok_iff.mpr hprimary
  have hafter := resolve_eq_ok_iff.mpr hprimary'
  exact ⟨reachable_builtin, hbefore, emitter_eq_ok hbefore hemitter, hsilent, hafter,
    emitter_eq_ok hafter hemitter'⟩

/-- A registration that is refused leaves the tables as they were if and only if what came as an
emitter is none. Else the language is new and stands in the table by then, and so do those of its
further names that came before the one in use. -/
theorem a_refused_registration_leaves_what_it_wrote (r : Registry α) (language : String)
    (emitter : Option α) (aliases : List String) (replace : Bool) (err : RegistryError)
    (h : (r.register language emitter aliases replace).2 = some err) :
    let key := toSmall language
    let r' := (r.register language emitter aliases replace).1
    (r' = r ↔ emitter = none) ∧
      ∀ e, emitter = some e →
        replace = false ∧ r'.emitters = r.emitters ++ [(key, e)] ∧
          ∃ before a after, aliases = before ++ a :: after ∧
            r'.aliases = Entries.putAll r.aliases (aliasEntries key before) ∧
            aliasConflict { r with emitters := r'.emitters } key a = some err := by
  intro key r'
  rcases r.register_cases language emitter aliases replace with
    ⟨hnone, heq⟩ | ⟨_, _, _, _, heq⟩ | ⟨e, hsome, hnew, heq⟩
  · subst hnone
    exact ⟨iff_of_true (congrArg Prod.fst heq) rfl, fun e he => absurd he (by simp)⟩
  · rw [heq] at h
    cases h
  · -- a refusal that comes so late is that of a further name
    rw [heq] at h
    obtain ⟨hreplace, before, a, after, haliases, hwritten, hconflict⟩ := addAliases_refused h
    have hfresh : Entries.get? key r.emitters = none := by simpa [hreplace] using hnew
    have htables : r' = (addAliases key replace aliases
        { r with emitters := Entries.put key e r.emitters }).1 := congrArg Prod.fst heq
    have hemitters : r'.emitters = r.emitters ++ [(key, e)] := by
      rw [htables, emitters_addAliases, Entries.put_of_get?_eq_none hfresh]
    constructor
    · refine iff_of_false (fun hsame => ?_) (by simp [hsome])
      rw [hsame] at hemitters
      simpa using congrArg List.length hemitters
    · intro e' he'
      obtain rfl : e = e' := Option.some.inj (hsome.symm.trans he')
      refine ⟨hreplace, hemitters, before, a, after, haliases, htables ▸ hwritten, ?_⟩
      rw [hemitters, ← Entries.put_of_get?_eq_none hfresh]
      exact hconflict

/-- A language with three further names is refused for the second of them, which is one of
TypeScript's. The language stays, with the first of its names. -/
theorem a_language_stays_with_the_first_of_its_names :
    let registered := builtin.register "Elm" (some (.of .go)) ["ML", "TS", "e"] false
    registered.2 = some (.aliasTaken "TS" "typescript") ∧ registered.1 ≠ builtin ∧
      registered.1.emitters = builtin.emitters ++ [(toSmall "Elm", .of .go)] ∧
      ∃ before a after, ["ML", "TS", "e"] = before ++ a :: after ∧
        registered.1.aliases =
          Entries.putAll builtin.aliases (aliasEntries (toSmall "Elm") before) ∧
        aliasConflict { builtin with emitters := registered.1.emitters } (toSmall "Elm") a =
          some (.aliasTaken "TS" "typescript") := by
  intro registered
  have hrefused : registered.2 = some (.aliasTaken "TS" "typescript") := by
    simp only [registered, builtin_eq]
    decide +kernel
  obtain ⟨hsame, hwritten⟩ := a_refused_registration_leaves_what_it_wrote builtin "Elm"
    (some (.of .go)) ["ML", "TS", "e"] false _ hrefused
  obtain ⟨_, hemitters, haliases⟩ := hwritten _ rfl
  exact ⟨hrefused, fun h => absurd (hsame.mp h) (by simp), hemitters, haliases⟩

/-- A registration is refused, and neither table is what it was. -/
theorem a_refusal_changes_the_tables :
    let registered := builtin.register "elm" (some (.of .go)) ["ml", "ts"] false
    builtin.Reachable ∧ registered.2 = some (.aliasTaken "ts" "typescript") ∧
      registered.1.emitters ≠ builtin.emitters ∧ registered.1.aliases ≠ builtin.aliases := by
  intro registered
  refine ⟨reachable_builtin, ?_⟩
  simp only [registered, builtin_eq]
  decide +kernel

end TypeSketch.Registry
