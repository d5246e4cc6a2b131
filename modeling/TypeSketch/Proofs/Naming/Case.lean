-- The small and the capital form of a name. Neither puts a line break where there
-- was none.
import TypeSketch.Proofs.Naming.Identifier
import TypeSketch.Proofs.Text.Small

namespace TypeSketch.Naming

open Text

/-- A change of the characters of a range makes no line break if it makes one of none of them. -/
theorem changed_ne_break {first last c : Char} (f : Nat → Nat)
    (hall : ∀ n ∈ List.range' first.toNat (last.toNat + 1 - first.toNat), Char.ofNat (f n) ≠ '\n')
    (hfirst : first ≤ c) (hlast : c ≤ last) : Char.ofNat (f c.toNat) ≠ '\n' := by
  rw [Char.le_def, UInt32.le_iff_toNat_le] at hfirst hlast
  refine hall c.toNat (List.mem_range'_1.mpr ?_)
  simp only [Char.toNat]
  omega

theorem lowerChar_ne_break {c : Char} (h : c ≠ '\n') : lowerChar c ≠ '\n' := by
  unfold lowerChar
  split
  · rename_i hc
    simp only [isUpper, Bool.and_eq_true, decide_eq_true_eq] at hc
    exact changed_ne_break (· + 32) (by decide) hc.1 hc.2
  · exact h

theorem upperChar_ne_break {c : Char} (h : c ≠ '\n') : upperChar c ≠ '\n' := by
  unfold upperChar
  split
  · rename_i hc
    simp only [isLower, Bool.and_eq_true, decide_eq_true_eq] at hc
    exact changed_ne_break (· - 32) (by decide) hc.1 hc.2
  · exact h

/-- A break only separates words, so their capitalised forms hold none. -/
theorem oneLine_pascal (s : String) : OneLine (NameCase.pascal.convert s) := by
  rw [OneLine, NameCase.convert, String.toList_ofList]
  intro hm
  obtain ⟨capital, hcapital, hm⟩ := List.mem_flatten.mp hm
  obtain ⟨w, hw, rfl⟩ := List.mem_map.mp hcapital
  have hword : ∀ c ∈ w, c ≠ '\n' := by
    rintro c hc rfl
    have hgap := eq_false_of_mem_piecesBy (List.mem_filter.mp hw).1 hc
    revert hgap
    decide
  cases w with
  | nil => cases hm
  | cons c r =>
    rw [List.forall_mem_cons] at hword
    rcases List.mem_cons.mp hm with hm | hm
    · exact upperChar_ne_break hword.1 hm.symm
    · obtain ⟨d, hd, hm⟩ := List.mem_map.mp hm
      exact lowerChar_ne_break (hword.2 d hd) hm

/-- The characters of a word are characters of ASCII. -/
theorem toNat_lt_of_isWordChar {c : Char} (h : isWordChar c = true) : c.toNat < 0x80 := by
  have hz : 'z'.val.toNat = 122 := rfl
  have hZ : 'Z'.val.toNat = 90 := rfl
  have h9 : '9'.val.toNat = 57 := rfl
  simp only [isWordChar, isLetter, isLower, isUpper, isDigit, Bool.or_eq_true,
    Bool.and_eq_true, decide_eq_true_eq, beq_iff_eq, Char.le_def,
    UInt32.le_iff_toNat_le] at h
  have hle : c.val.toNat ≤ 122 := by
    rcases h with ((h | h) | h) | rfl
    all_goals first | omega | decide
  exact Nat.lt_of_le_of_lt hle (by decide)

/-- The small form of a word is a line. -/
theorem oneLine_toSmall {s : String} (h : IsWord s) : OneLine (toSmall s) :=
  fun hm => h.oneLine (mem_of_mem_toSmall (by decide) hm)

end TypeSketch.Naming
