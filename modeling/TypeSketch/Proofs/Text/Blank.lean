-- Blanks around a text. Small letters leave them as they are, so a text has none
-- at its ends if its small form has none, and trimming gives it back from among
-- any blanks.
import TypeSketch.Proofs.Text.Lines
import TypeSketch.Text.CaseMap

namespace TypeSketch.Text

/-- The code points of the blanks. -/
def blankCodes : List Nat :=
  List.range' 0x09 5 ++ List.range' 0x1C 5 ++ List.range' 0x2000 11 ++
    [0x85, 0xA0, 0x1680, 0x2028, 0x2029, 0x202F, 0x205F, 0x3000]

theorem toNat_mem_blankCodes {c : Char} (h : isBlank c = true) : c.toNat ∈ blankCodes := by
  simp only [isBlank, Bool.or_eq_true, Bool.and_eq_true, decide_eq_true_eq, beq_iff_eq] at h
  simp only [blankCodes, List.mem_append, List.mem_range'_1, List.mem_cons, List.not_mem_nil,
    or_false]
  omega

/-- A blank has no small form but itself. -/
theorem smallChar_of_isBlank {c : Char} (h : isBlank c = true) : smallChar c = [c] := by
  have hall : ∀ n ∈ blankCodes, smallChar (Char.ofNat n) = [Char.ofNat n] := by decide
  simpa using hall c.toNat (toNat_mem_blankCodes h)

theorem smallChars_blank_cons {c : Char} (h : isBlank c = true) (before r : List Char) :
    smallChars before (c :: r) = c :: smallChars (c :: before) r := by
  have hsigma : c ≠ 'Σ' := by
    rintro rfl
    exact absurd h (by decide)
  rw [smallChars, if_neg hsigma, smallChar_of_isBlank h, List.singleton_append]

theorem getLast?_smallChars {c : Char} (h : isBlank c = true) (before r : List Char) :
    (smallChars before (r ++ [c])).getLast? = some c := by
  induction r generalizing before with
  | nil => rw [List.nil_append, smallChars_blank_cons h, smallChars, List.getLast?_singleton]
  | cons d r ih => rw [List.cons_append, smallChars, List.getLast?_append, ih, Option.some_or]

/-- A text whose ends are no blanks. -/
def Framed (s : String) : Prop :=
  (∃ c, s.toList.head? = some c ∧ isBlank c = false) ∧
    ∃ c, s.toList.getLast? = some c ∧ isBlank c = false

/-- What is framed in small letters is framed. -/
theorem framed_of_toSmall {s : String} (h : Framed (toSmall s)) : Framed s := by
  obtain ⟨⟨c, hc, hcblank⟩, d, hd, hdblank⟩ := h
  rw [toSmall, String.toList_ofList] at hc hd
  constructor
  · cases hs : s.toList with
    | nil => simp [hs, smallChars] at hc
    | cons x r =>
      refine ⟨x, rfl, Bool.eq_false_iff.mpr fun hx => ?_⟩
      rw [hs, smallChars_blank_cons hx, List.head?_cons] at hc
      obtain rfl := Option.some.inj hc
      rw [hx] at hcblank
      cases hcblank
  · rcases List.eq_nil_or_concat s.toList with hs | ⟨r, x, hs⟩
    · simp [hs, smallChars] at hd
    · refine ⟨x, by simp [hs], Bool.eq_false_iff.mpr fun hx => ?_⟩
      rw [hs, List.concat_eq_append, getLast?_smallChars hx] at hd
      obtain rfl := Option.some.inj hd
      rw [hx] at hdblank
      cases hdblank

/-- Blanks around a framed text are trimmed, and nothing else. -/
theorem trim_around {before word after : String} (h : Framed word)
    (hbefore : ∀ c ∈ before.toList, isBlank c = true)
    (hafter : ∀ c ∈ after.toList, isBlank c = true) : trim (before ++ word ++ after) = word := by
  obtain ⟨⟨c, hc, hcblank⟩, d, hd, hdblank⟩ := h
  apply String.toList_inj.mp
  rw [trim, String.toList_ofList, String.toList_append, String.toList_append]
  exact dropAround_append hbefore hafter hc hcblank hd hdblank

/-! ## Trimmed texts -/

theorem trim_of_framed {s : String} (h : Framed s) : trim s = s := by
  have haround : trim ("" ++ s ++ "") = s := trim_around h (by simp) (by simp)
  rwa [String.empty_append, String.append_empty] at haround

theorem head?_dropWhile {α : Type} {p : α → Bool} {s : List α} {c : α}
    (h : (s.dropWhile p).head? = some c) : p c = false := by
  have hhead := List.head?_dropWhile_not p s
  rw [h] at hhead
  exact hhead

/-- Nothing is left of a text that is trimmed, or it is framed. -/
theorem framed_trim (s : String) : trim s = "" ∨ Framed (trim s) := by
  by_cases hne : trim s = ""
  · exact .inl hne
  refine .inr ?_
  have hchars : (trim s).toList = dropTrailing isBlank (s.toList.dropWhile isBlank) :=
    String.toList_ofList
  rw [← String.toList_eq_nil_iff] at hne
  constructor
  · refine ⟨_, List.head?_eq_some_head hne, head?_dropWhile (s := s.toList) ?_⟩
    have hfront : (trim s).toList <+: s.toList.dropWhile isBlank := by
      rw [hchars, dropTrailing, ← List.reverse_suffix, List.reverse_reverse]
      exact List.dropWhile_suffix _
    obtain ⟨after, hafter⟩ := hfront
    rw [← hafter, List.head?_append, List.head?_eq_some_head hne, Option.some_or]
  · refine ⟨_, List.getLast?_eq_some_getLast hne, ?_⟩
    apply head?_dropWhile (s := (s.toList.dropWhile isBlank).reverse)
    rw [← List.getLast?_reverse, ← dropTrailing, ← hchars]
    exact List.getLast?_eq_some_getLast hne

theorem mem_of_mem_trim {s : String} {c : Char} (h : c ∈ (trim s).toList) : c ∈ s.toList := by
  rw [trim, String.toList_ofList, dropAround, dropTrailing, List.mem_reverse] at h
  have h := List.mem_reverse.mp ((List.dropWhile_suffix _).mem h)
  exact (List.dropWhile_suffix _).mem h

theorem smallChars_ne_nil (before : List Char) {s : List Char} (h : s ≠ []) :
    smallChars before s ≠ [] := by
  obtain ⟨c, r, rfl⟩ := List.exists_cons_of_ne_nil h
  refine List.append_ne_nil_of_left_ne_nil ?_ _
  split
  · exact List.cons_ne_nil _ _
  · rw [smallChar]
    split
    · exact List.cons_ne_nil _ _
    · split <;> exact List.cons_ne_nil _ _

/-- A text has no blanks around it if its small form has none. -/
theorem trim_eq_self_of_toSmall {s : String} (h : trim (toSmall s) = toSmall s) : trim s = s := by
  rcases framed_trim (toSmall s) with hnil | hframed
  · have hs : s.toList = [] := by
      rw [h, ← String.toList_eq_nil_iff, toSmall, String.toList_ofList] at hnil
      exact Decidable.byContradiction fun hne => smallChars_ne_nil [] hne hnil
    rw [String.toList_eq_nil_iff.mp hs]
    decide
  · rw [h] at hframed
    exact trim_of_framed (framed_of_toSmall hframed)

end TypeSketch.Text
