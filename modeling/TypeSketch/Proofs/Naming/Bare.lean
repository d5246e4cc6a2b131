-- Bare names: a letter or an underscore of ASCII, and behind it letters, digits and
-- underscores. A text is taken for one also with one line break behind it.
import Mathlib.Data.List.TakeWhile
import TypeSketch.Proofs.Naming.Joined

namespace TypeSketch.Naming

open Text

/-! ## Names of two classes of characters -/

/-- A text of one character of a first class and others of a second one. -/
def Headed (first others : Char → Bool) (s : List Char) : Prop :=
  ∃ c r, s = c :: r ∧ first c = true ∧ ∀ d ∈ r, others d = true

theorem headed_cons {first others : Char → Bool} {c : Char} {r : List Char} :
    Headed first others (c :: r) ↔ first c = true ∧ ∀ d ∈ r, others d = true := by
  constructor
  · rintro ⟨_, _, h, hc, hr⟩
    cases h
    exact ⟨hc, hr⟩
  · rintro ⟨hc, hr⟩
    exact ⟨c, r, rfl, hc, hr⟩

instance (first others : Char → Bool) (s : List Char) : Decidable (Headed first others s) :=
  match s with
  | [] => isFalse (by simp [Headed])
  | _ :: _ => decidable_of_iff _ headed_cons.symm

/-- A text that is taken for such a name is one, or is one with a line break behind it. -/
theorem matchesName_iff {first others : Char → Bool} {s : List Char} :
    matchesName first others s = true ↔
      Headed first others s ∨ ∃ t, Headed first others t ∧ s = t ++ ['\n'] := by
  cases s with
  | nil => simp [matchesName, Headed]
  | cons c r =>
    rw [matchesName, Bool.and_eq_true, Bool.or_eq_true, beq_iff_eq, beq_iff_eq, headed_cons]
    constructor
    · rintro ⟨hc, hend | hend⟩
      · exact .inl ⟨hc, List.dropWhile_eq_nil_iff.mp hend⟩
      · refine .inr ⟨c :: r.takeWhile others, ⟨c, _, rfl, hc, ?_⟩, ?_⟩
        · exact List.all_eq_true.mp List.all_takeWhile
        · rw [List.cons_append, ← hend, List.takeWhile_append_dropWhile]
    · rintro (⟨hc, hr⟩ | ⟨_, ⟨d, t, rfl, hd, ht⟩, hs⟩)
      · exact ⟨hc, .inl (List.dropWhile_eq_nil_iff.mpr hr)⟩
      · rw [List.cons_append] at hs
        cases hs
        refine ⟨hd, ?_⟩
        rw [List.dropWhile_append_of_pos ht, List.dropWhile_cons]
        split
        · exact .inl rfl
        · exact .inr rfl

/-- A text that is such a name with one line break behind it. -/
def BrokenName (first others : Char → Bool) (s : String) : Prop :=
  ∃ t : String, Headed first others t.toList ∧ s = t ++ "\n"

theorem matchesName_toList_iff {first others : Char → Bool} {s : String} :
    matchesName first others s.toList = true ↔
      Headed first others s.toList ∨ BrokenName first others s := by
  rw [matchesName_iff]
  refine or_congr_right ⟨?_, ?_⟩
  · rintro ⟨t, ht, hs⟩
    refine ⟨String.ofList t, by rwa [String.toList_ofList], ?_⟩
    rw [← String.toList_inj, String.toList_append, String.toList_ofList, hs]
    rfl
  · rintro ⟨t, ht, rfl⟩
    exact ⟨t.toList, ht, String.toList_append⟩

/-- Where no name holds a line break, a text that is taken for one is a line unless it has the
break behind it. -/
theorem oneLine_iff_of_matchesName {first others : Char → Bool} (hfirst : first '\n' = false)
    (hothers : others '\n' = false) {s : String} (h : matchesName first others s.toList = true) :
    OneLine s ↔ ¬ BrokenName first others s := by
  have hbroken : BrokenName first others s → ¬ OneLine s := by
    rintro ⟨t, -, rfl⟩ hline
    exact absurd (oneLine_append.mp hline).2 (by decide)
  refine ⟨fun hline hbreak => hbroken hbreak hline, fun hbreak => ?_⟩
  obtain ⟨c, r, hcr, hc, hr⟩ := (matchesName_toList_iff.mp h).resolve_right hbreak
  rw [OneLine, hcr, List.mem_cons, not_or]
  constructor
  · rintro rfl
    rw [hfirst] at hc
    cases hc
  · intro hmem
    have := hr '\n' hmem
    rw [hothers] at this
    cases this

/-- A bare name. -/
def BareName (s : String) : Prop := Headed isStartChar isWordChar s.toList

instance (s : String) : Decidable (BareName s) := inferInstanceAs (Decidable (Headed _ _ _))

/-- A bare name is a word that does not begin with a digit. -/
theorem isStartChar_iff (c : Char) :
    isStartChar c = true ↔ isWordChar c = true ∧ isDigit c = false := by
  constructor
  · intro h
    have hword : isWordChar c = true := by
      simp only [isStartChar, isWordChar, Bool.or_eq_true] at h ⊢
      exact h.imp_left .inl
    exact ⟨hword, of_isWordChar (P := fun c => isStartChar c = true → isDigit c = false)
      (by decide) hword h⟩
  · rintro ⟨hword, hdigit⟩
    simpa [isStartChar, isWordChar, hdigit] using hword

theorem BareName.append {s t : String} (hs : BareName s)
    (ht : ∀ c ∈ t.toList, isWordChar c = true) : BareName (s ++ t) := by
  obtain ⟨c, r, hcr, hc, hr⟩ := hs
  refine ⟨c, r ++ t.toList, ?_, hc, ?_⟩
  · rw [String.toList_append, hcr, List.cons_append]
  · exact List.forall_mem_append.mpr ⟨hr, ht⟩

end TypeSketch.Naming
