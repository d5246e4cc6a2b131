-- A registration that is taken back. No name points to a language that is not
-- registered, so the removal of a new one takes away what its registration wrote, up
-- to the first conflict or to the end of its names, and nothing else.
import TypeSketch.Proofs.Registry.History

namespace TypeSketch.Registry

open Text

variable {α : Type}

/-- No alias leads to a language that is not registered. -/
theorem Sound.ne_of_new {r : Registry α} (h : r.Sound) {key : String}
    (hnew : Entries.has key r.emitters = false) : ∀ x ∈ r.aliases, x.2 ≠ key := by
  rintro x hx rfl
  obtain ⟨e, he⟩ := h.registered x hx
  rw [Entries.has, he] at hnew
  cases hnew

/-- The removal of a language that is not registered changes nothing. -/
theorem unregister_of_new {r : Registry α} (h : r.Sound) {language : String}
    (hnew : Entries.has (toSmall language) r.emitters = false) : r.unregister language = r := by
  have hemitters : Entries.erase (toSmall language) r.emitters = r.emitters := by
    refine List.filter_eq_self.mpr fun e he => ?_
    have hne : e.1 ≠ toSmall language := by
      intro hkey
      rw [← hkey, Entries.has_iff.mpr (List.mem_map_of_mem he)] at hnew
      cases hnew
    simpa using hne
  have haliases : (r.aliases.filter fun a => a.2 ≠ toSmall language) = r.aliases :=
    List.filter_eq_self.mpr fun x hx => by simpa using h.ne_of_new hnew x hx
  rw [unregister, hemitters, haliases]

/-- The further names of a new language are taken away with it, wherever a conflict has stopped
them. An alias in use is none of them, so no other one is lost. -/
theorem unregister_addAliases {r : Registry α} (h : r.Sound) {language : String}
    (hnew : Entries.has (toSmall language) r.emitters = false) (e : α) (as : List String) :
    (addAliases (toSmall language) false as
      { r with emitters := Entries.put (toSmall language) e r.emitters }).1.unregister language =
        r := by
  rw [addAliases_eq, unregister, Entries.erase_put e hnew]
  congr 1
  rw [Entries.filter_putAll (q := fun target => decide (target ≠ toSmall language))]
  · exact List.filter_eq_self.mpr fun x hx => by simpa using h.ne_of_new hnew x hx
  · intro x hx
    simpa using (of_mem_aliasEntries hx).1
  · -- what a further name is written over has been judged to be free
    intro x hx target htarget
    obtain ⟨_, hown, a, ha, hax⟩ := of_mem_aliasEntries hx
    have hfree : aliasConflict { r with emitters := Entries.put (toSmall language) e r.emitters }
        (toSmall language) a = none := by
      have := List.mem_takeWhile_imp ha
      simpa [refusal, hax, hown] using this
    simpa using (aliasConflict_eq_none_iff.mp hfree).2 target (hax ▸ htarget)

/-- A language that is not registered is registered without replacing anything, which may be
refused, and removed again: both tables are what they were, entry by entry and in their order. -/
theorem a_removal_takes_a_registration_back {r : Registry α} (h : r.Reachable) {language : String}
    (hnew : Entries.has (toSmall language) r.emitters = false) (emitter : Option α)
    (aliases : List String) :
    (r.register language emitter aliases false).1.unregister language = r := by
  rcases r.register_cases language emitter aliases false with
    ⟨_, heq⟩ | ⟨_, _, _, hhas, _⟩ | ⟨e, _, _, heq⟩
  · rw [heq]
    exact unregister_of_new h.sound hnew
  · rw [hnew] at hhas
    cases hhas
  · rw [heq]
    exact unregister_addAliases h.sound hnew e aliases

/-- A new language is named like an alias of TypeScript, is given two names, and is refused the
third. After its removal TypeScript has its alias again, and the tables are those of the beginning,
of which the registration had changed both. -/
theorem a_refused_language_is_taken_back :
    let registered := builtin.register "TS" (some (.of .go)) ["tsx", "mts", "KT", "d"] false
    builtin.Reachable ∧ Entries.has (toSmall "TS") builtin.emitters = false ∧
      registered.2 = some (.aliasTaken "KT" "kotlin") ∧
      registered.1.emitters = builtin.emitters ++ [("ts", .of .go)] ∧
      registered.1.aliases = builtin.aliases ++ [("tsx", "ts"), ("mts", "ts")] ∧
      registered.1.unregister "TS" = builtin := by
  intro registered
  have hnew : Entries.has (toSmall "TS") builtin.emitters = false := by
    rw [builtin_eq]
    decide +kernel
  have hwritten : registered.2 = some (.aliasTaken "KT" "kotlin") ∧
      registered.1.emitters = builtin.emitters ++ [("ts", .of .go)] ∧
      registered.1.aliases = builtin.aliases ++ [("tsx", "ts"), ("mts", "ts")] := by
    simp only [registered, builtin_eq]
    decide +kernel
  obtain ⟨hrefused, hemitters, haliases⟩ := hwritten
  exact ⟨reachable_builtin, hnew, hrefused, hemitters, haliases,
    a_removal_takes_a_registration_back reachable_builtin hnew _ _⟩

end TypeSketch.Registry
