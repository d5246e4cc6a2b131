-- The names that a registry lists, and whether it knows them when it is asked. The
-- two questions about a name differ in the blanks around it: one passes over them,
-- the other looks for the name with its blanks.
import TypeSketch.Proofs.Registry.History
import TypeSketch.Proofs.Text.Blank
import TypeSketch.Proofs.Text.Small

namespace TypeSketch.Registry

open Text

variable {α : Type}

/-! ## Names in the tables -/

/-- The names in the tables: those of languages, then the aliases. -/
def names (r : Registry α) : List String :=
  r.emitters.map Prod.fst ++ r.aliases.map Prod.fst

theorem isSome_primary?_iff {r : Registry α} {key : String} :
    (r.primary? key).isSome = true ↔ key ∈ r.names := by
  rw [primary?, names, List.mem_append, ← Entries.has_iff, ← Entries.has_iff]
  split
  · rename_i h
    exact iff_of_true rfl (.inl h)
  · rename_i h
    exact (or_iff_right h).symm

/-- A registration adds no name but those that it is given, in small letters. -/
theorem mem_names_register {r : Registry α} {language : String} {emitter : Option α}
    {aliases : List String} {replace : Bool} {n : String}
    (h : n ∈ (r.register language emitter aliases replace).1.names) :
    n ∈ r.names ∨ ∃ s ∈ language :: aliases, n = toSmall s := by
  rcases r.register_cases language emitter aliases replace with
    ⟨_, heq⟩ | ⟨_, _, _, _, heq⟩ | ⟨e, _, _, heq⟩
  · rw [heq] at h
    exact .inl h
  · rw [heq] at h
    exact .inl h
  · rw [heq, addAliases_eq, names, List.mem_append] at h
    rw [names, List.mem_append]
    rcases h with h | h
    · rcases Entries.mem_keys_put.mp h with rfl | h
      · exact .inr ⟨language, List.mem_cons_self, rfl⟩
      · exact .inl (.inl h)
    · obtain ⟨x, hx, rfl⟩ := List.mem_map.mp h
      rcases Entries.mem_putAll hx with hx | hx
      · exact .inl (.inr (List.mem_map_of_mem hx))
      · obtain ⟨_, _, a, ha, hax⟩ := of_mem_aliasEntries hx
        exact .inr ⟨a, List.mem_cons_of_mem _ ((List.takeWhile_sublist _).mem ha), hax.symm⟩

theorem mem_names_unregister {r : Registry α} {language n : String}
    (h : n ∈ (r.unregister language).names) : n ∈ r.names := by
  rw [names, List.mem_append] at h ⊢
  refine h.imp (fun h => ?_) fun h => ?_
  · exact ((List.filter_sublist).map Prod.fst).mem h
  · exact ((List.filter_sublist).map Prod.fst).mem h

/-- Names are kept in small letters. -/
theorem Reachable.small {r : Registry α} (h : r.Reachable) {n : String} (hn : n ∈ r.names) :
    ∃ s, n = toSmall s := by
  induction h with
  | empty => cases hn
  | register _ _ _ _ _ ih =>
    rcases mem_names_register hn with hn | ⟨s, _, hs⟩
    · exact ih hn
    · exact ⟨s, hs⟩
  | unregister _ _ ih => exact ih (mem_names_unregister hn)

/-! ## Listed names -/

/-- A registry lists a name among its languages or among the aliases of one. -/
def Lists (r : Registry α) (n : String) : Prop :=
  n ∈ r.languages ∨ ∃ language, n ∈ r.aliasesOf language

theorem mem_sortedNames {n : String} {ns : List String} : n ∈ sortedNames ns ↔ n ∈ ns :=
  List.mem_mergeSort

/-- What is listed is what stands in the tables: each alias is listed for its language. -/
theorem lists_iff {r : Registry α} (h : r.Reachable) {n : String} : r.Lists n ↔ n ∈ r.names := by
  rw [Lists, languages, mem_sortedNames, names, List.mem_append]
  refine or_congr_right ⟨?_, fun hn => ?_⟩
  · rintro ⟨language, hn⟩
    rw [aliasesOf, mem_sortedNames] at hn
    exact ((List.filter_sublist).map Prod.fst).mem hn
  · obtain ⟨x, hx, rfl⟩ := List.mem_map.mp hn
    obtain ⟨e, he⟩ := h.sound.registered x hx
    have htarget : x.2 ∈ r.names := by
      rw [← isSome_primary?_iff, primary?, Entries.has, he]
      rfl
    obtain ⟨s, hs⟩ := h.small htarget
    refine ⟨s, mem_sortedNames.mpr (List.mem_map_of_mem (List.mem_filter.mpr ⟨hx, ?_⟩))⟩
    simpa using hs

theorem supports_iff {r : Registry α} (h : r.Reachable) {name : String} :
    r.supports name = true ↔ r.Lists (toSmall name) := by
  rw [supports, isSome_primary?_iff, lists_iff h]

theorem resolves_iff {r : Registry α} (h : r.Reachable) {name : String} :
    (∃ p, r.resolve name = .ok p) ↔ r.Lists (toSmall (trim name)) := by
  simp only [resolve_eq_ok_iff, ← Option.isSome_iff_exists, isSome_primary?_iff, lists_iff h]

/-- In a registry that comes about, the two questions about a name, whether it is supported and
whether it leads to a language, have one answer but for a name with blanks around it of which
either the form with its blanks is listed or the one without them, and not both. A listed name is
supported, and it leads to a language if and only if it is listed without its blanks too; so all
do that have none. Where no name with blanks around it is listed, the supported names are those
that lead to a language and have no blanks around them. -/
theorem a_name_is_supported_as_it_resolves_but_for_its_blanks {r : Registry α} (h : r.Reachable)
    (name : String) :
    ((r.supports name = true ↔ ∃ p, r.resolve name = .ok p) ↔
      trim name = name ∨ (r.Lists (toSmall name) ↔ r.Lists (toSmall (trim name)))) ∧
    (r.Lists name →
      r.supports name = true ∧ ((∃ p, r.resolve name = .ok p) ↔ r.Lists (trim name))) ∧
    ((∀ n, r.Lists n → trim n = n) →
      (r.supports name = true ↔ trim name = name ∧ ∃ p, r.resolve name = .ok p)) := by
  rw [supports_iff h, resolves_iff h]
  refine ⟨⟨.inr, ?_⟩, fun hlisted => ?_, fun hplain => ⟨fun hlisted => ?_, ?_⟩⟩
  · rintro (htrim | hagree)
    · rw [htrim]
    · exact hagree
  · -- a listed name and what is left of it are in small letters
    obtain ⟨s, rfl⟩ := h.small ((lists_iff h).mp hlisted)
    rw [toSmall_toSmall, toSmall_eq_self fun c hc => mem_of_mem_trim hc]
    exact ⟨hlisted, Iff.rfl⟩
  · have htrim := trim_eq_self_of_toSmall (hplain _ hlisted)
    rw [htrim]
    exact ⟨rfl, hlisted⟩
  · rintro ⟨htrim, hlisted⟩
    rwa [htrim] at hlisted

/-- Of the ten languages no name has blanks around it. So `Py` with blanks leads to Python and is
not supported, as `py` is. -/
theorem a_name_with_blanks_resolves_unsupported :
    builtin.Reachable ∧ (∀ n, builtin.Lists n → trim n = n) ∧ builtin.Lists "py" ∧
      builtin.supports "py" = true ∧ (∃ p, builtin.resolve "py" = .ok p) ∧
      builtin.resolve " Py\n" = .ok "python" ∧ builtin.supports " Py\n" = false := by
  have hnames : (∀ n ∈ builtin.names, trim n = n) ∧ "py" ∈ builtin.names ∧
      builtin.primary? (toSmall (trim " Py\n")) = some "python" := by
    rw [builtin_eq]
    decide +kernel
  have hplain : ∀ n, builtin.Lists n → trim n = n := fun n hn =>
    hnames.1 n ((lists_iff reachable_builtin).mp hn)
  have hlisted : builtin.Lists "py" := (lists_iff reachable_builtin).mpr hnames.2.1
  have hname : builtin.resolve " Py\n" = .ok "python" := resolve_eq_ok_iff.mpr hnames.2.2
  obtain ⟨_, hpy, hpy'⟩ :=
    a_name_is_supported_as_it_resolves_but_for_its_blanks reachable_builtin "py"
  obtain ⟨_, _, hblank⟩ :=
    a_name_is_supported_as_it_resolves_but_for_its_blanks reachable_builtin " Py\n"
  obtain ⟨hsupported, _⟩ := hpy hlisted
  refine ⟨reachable_builtin, hplain, hlisted, hsupported, ((hpy' hplain).mp hsupported).2, hname,
    Bool.eq_false_iff.mpr fun hsupports => ?_⟩
  exact absurd ((hblank hplain).mp hsupports).1 (by decide +kernel)

/-- A name with blanks leads to Go, and is not supported. A language whose name is registered with
a blank is listed and supported, and its name leads nowhere. -/
theorem blanks_part_the_two_questions :
    let registered := builtin.register "Elm " (some (.of .go)) [] false
    builtin.Reachable ∧ builtin.supports " go " = false ∧ builtin.resolve " go " = .ok "go" ∧
      registered.1.Reachable ∧ registered.2 = none ∧ "elm " ∈ registered.1.languages ∧
      registered.1.supports "elm " = true ∧
      registered.1.resolve "elm " = .error (.unknown "elm " registered.1.languages) := by
  intro registered
  have hreachable : registered.1.Reachable :=
    reachable_builtin.register "Elm " (some (.of .go)) [] false
  obtain ⟨hsupported, hname, hsilent, hlisted, hsupported', hnone⟩ :
      builtin.supports " go " = false ∧
        builtin.primary? (toSmall (trim " go ")) = some "go" ∧ registered.2 = none ∧
        "elm " ∈ registered.1.emitters.map Prod.fst ∧ registered.1.supports "elm " = true ∧
        registered.1.primary? (toSmall (trim "elm ")) = none := by
    simp only [registered, builtin_eq]
    decide +kernel
  exact ⟨reachable_builtin, hsupported, resolve_eq_ok_iff.mpr hname, hreachable, hsilent,
    mem_sortedNames.mpr hlisted, hsupported', by rw [resolve, hnone]⟩

end TypeSketch.Registry
