-- The names of the target languages in the registry that holds them all: a name
-- of a language leads to it in letters of any case and with blanks around it.
import TypeSketch.Proofs.Registry.History
import TypeSketch.Proofs.Text.Blank

namespace TypeSketch

open Text

/-- The names under which a language is registered. -/
def Language.names (l : Language) : List String := l.tag :: l.aliases

/-- One asks for a language by one of its names, in letters of any case and with any blanks
around it. -/
def Language.AskedBy (l : Language) (name : String) : Prop :=
  ∃ before word after : String, name = before ++ word ++ after ∧
    (∀ c ∈ before.toList, isBlank c = true) ∧ (∀ c ∈ after.toList, isBlank c = true) ∧
    toSmall word ∈ l.names

namespace Registry

theorem framed_of_mem_names {l : Language} {n : String} (h : n ∈ l.names) : Framed n := by
  have hends : ∀ n ∈ l.names, (n.toList.head?.any fun c => !isBlank c) = true ∧
      (n.toList.getLast?.any fun c => !isBlank c) = true := by
    cases l <;> decide
  simpa [Framed, Option.any_eq_true] using hends n h

theorem toSmall_trim_mem_names {l : Language} {name : String} (h : l.AskedBy name) :
    toSmall (trim name) ∈ l.names := by
  obtain ⟨before, word, after, rfl, hbefore, hafter, hword⟩ := h
  rwa [trim_around (framed_of_toSmall (framed_of_mem_names hword)) hbefore hafter]

theorem primary?_builtin {l : Language} {n : String} (h : n ∈ l.names) :
    builtin.primary? n = some l.tag := by
  have hall : ∀ n ∈ l.names, builtin.primary? n = some l.tag := by
    rw [builtin_eq]
    cases l <;> decide
  exact hall n h

theorem get?_builtin (l : Language) : Entries.get? l.tag builtin.emitters = some (.of l) := by
  rw [builtin_eq]
  cases l <;> decide

theorem resolve_builtin {l : Language} {name : String} (h : l.AskedBy name) :
    builtin.resolve name = .ok l.tag :=
  resolve_eq_ok_iff.mpr (primary?_builtin (toSmall_trim_mem_names h))

theorem emitter_builtin {l : Language} {name : String} (h : l.AskedBy name) :
    builtin.emitter name = .ok (.of l) :=
  emitter_eq_ok (resolve_builtin h) (get?_builtin l)

theorem language_builtin {l : Language} {name : String} (h : l.AskedBy name) :
    builtin.language name = .ok l := by
  rw [language, resolve_builtin h]
  simp only [bind, Except.bind, Language.ofTag?_tag]
  rfl

/-- A name that leads to a language leads to its emitter too. -/
theorem emitter_of_language {l : Language} {name : String}
    (h : (builtin : Registry).language name = .ok l) : builtin.emitter name = .ok (.of l) := by
  rw [language] at h
  cases hname : builtin.resolve name with
  | error e =>
    rw [hname] at h
    cases h
  | ok tag =>
    rw [hname] at h
    simp only [bind, Except.bind] at h
    split at h
    · rename_i found hfound
      obtain rfl := Except.ok.inj h
      obtain rfl : found.tag = tag := by simpa using List.find?_some hfound
      exact emitter_eq_ok hname (get?_builtin found)
    · cases h

/-- A language answers to its tag as it is. -/
theorem askedBy_tag (l : Language) : l.AskedBy l.tag := by
  refine ⟨"", l.tag, "", by simp, by simp, by simp, ?_⟩
  have hsmall : toSmall l.tag = l.tag := by cases l <;> decide
  rw [hsmall]
  exact List.mem_cons_self

end Registry

end TypeSketch
