-- The letters and digits of a key. Whatever the case, an identifier has those of its key
-- in their order, and besides them only underscores and what stands before a first digit.
import TypeSketch.Proofs.Naming.Bare
import TypeSketch.Proofs.Naming.Capitals

namespace TypeSketch.Naming

open Text

/-- Whether a character is a letter or a digit of ASCII. -/
def isLetterOrDigit (c : Char) : Bool := isLetter c || isDigit c

/-- The letters and digits of a key, in order. -/
def lettersAndDigits (key : String) : List Char := key.toList.filter isLetterOrDigit

/-! ## Characters -/

theorem isWordChar_of_isLetterOrDigit {c : Char} (h : isLetterOrDigit c = true) :
    isWordChar c = true := by
  unfold isLetterOrDigit at h
  simp [isWordChar, h]

/-- Of the word characters, the letters and digits are those that are no gap. -/
theorem isLetterOrDigit_eq {c : Char} (h : isWordChar c = true) :
    isLetterOrDigit c = !isGap c ∧ isLetterOrDigit c = (c != '_') :=
  of_isWordChar
    (P := fun c => isLetterOrDigit c = !isGap c ∧ isLetterOrDigit c = (c != '_')) (by decide) h

theorem isLetterOrDigit_of_isGap {c : Char} (h : isGap c = true) : isLetterOrDigit c = false := by
  cases hc : isLetterOrDigit c with
  | false => rfl
  | true =>
    have hgap := (isLetterOrDigit_eq (isWordChar_of_isLetterOrDigit hc)).1
    rw [hc, h] at hgap
    cases hgap

theorem isLetterOrDigit_lowerChar (c : Char) :
    isLetterOrDigit (lowerChar c) = isLetterOrDigit c := by
  by_cases h : isUpper c = true
  · exact of_isUpper (P := fun c => isLetterOrDigit (lowerChar c) = isLetterOrDigit c)
      (by decide) h
  · rw [lowerChar, if_neg h]

theorem isDigit_lowerChar (c : Char) : isDigit (lowerChar c) = isDigit c := by
  by_cases h : isUpper c = true
  · exact of_isUpper (P := fun c => isDigit (lowerChar c) = isDigit c) (by decide) h
  · rw [lowerChar, if_neg h]

/-! ## The letters of a name -/

theorem filter_lowerWord (w : List Char) :
    (lowerWord w).filter isLetterOrDigit = lowerWord (w.filter isLetterOrDigit) := by
  unfold lowerWord
  rw [List.filter_map]
  congr 2
  funext c
  exact isLetterOrDigit_lowerChar c

theorem filter_intercalate {c : Char} (hc : isLetterOrDigit c = false) (ws : List (List Char)) :
    ([c].intercalate ws).filter isLetterOrDigit = ws.flatten.filter isLetterOrDigit := by
  induction ws with
  | nil => rfl
  | cons w r ih =>
    cases r with
    | nil => simp
    | cons v r =>
      rw [List.intercalate_cons_cons, List.filter_append, List.filter_append, ih,
        List.flatten_cons, List.filter_append]
      simp [hc]

/-- A name is made of forms of its words, with a gap or nothing between neighbours. -/
theorem exists_forms (k : NameCase) (ws : List (List Char)) :
    ∃ forms : List (List Char), forms.map lowerWord = ws.map lowerWord ∧
      (k.joinChars ws = forms.flatten ∨
        ∃ c, isGap c = true ∧ k.joinChars ws = [c].intercalate forms) := by
  by_cases hk : k ∈ NameCase.capitalized
  · exact ⟨k.written ws, NameCase.map_lowerWord_written k ws,
      .inl (NameCase.joinChars_capitalized hk ws)⟩
  · have hdelimited : k ∈ NameCase.delimited := by
      revert hk
      cases k <;> decide
    obtain ⟨change, c, hchange, hc, hjoin⟩ := NameCase.exists_joinChars_delimited hdelimited
    exact ⟨ws.map change, by simp [hchange.lower], .inr ⟨c, hc, hjoin ws⟩⟩

theorem letters_joinChars (k : NameCase) (ws : List (List Char)) :
    lowerWord ((k.joinChars ws).filter isLetterOrDigit) =
      lowerWord (ws.flatten.filter isLetterOrDigit) := by
  obtain ⟨forms, hforms, hjoin⟩ := exists_forms k ws
  have hflatten : lowerWord forms.flatten = lowerWord ws.flatten := by
    have h := congrArg List.flatten hforms
    unfold lowerWord at h ⊢
    rwa [← List.map_flatten, ← List.map_flatten] at h
  have hletters :
      (k.joinChars ws).filter isLetterOrDigit = forms.flatten.filter isLetterOrDigit := by
    rcases hjoin with hjoin | ⟨c, hc, hjoin⟩
    · rw [hjoin]
    · rw [hjoin, filter_intercalate (isLetterOrDigit_of_isGap hc)]
  rw [hletters, ← filter_lowerWord, hflatten, filter_lowerWord]

/-- The words of a key together are its letters and digits in small letters. -/
theorem flatten_smallWords (key : String) :
    (smallWords key).flatten = lowerWord (lettersAndDigits key) := by
  have hblank (s : List Char) :
      (blankOut s).filter (!isGap ·) = s.filter isLetterOrDigit := by
    induction s with
    | nil => rfl
    | cons c s ih =>
      unfold blankOut at ih ⊢
      rw [List.map_cons, List.filter_cons, List.filter_cons, ih]
      by_cases hc : isWordChar c = true
      · rw [if_pos hc, (isLetterOrDigit_eq hc).1]
      · have hletter : isLetterOrDigit c = false :=
          Bool.eq_false_iff.mpr fun h => hc (isWordChar_of_isLetterOrDigit h)
        rw [if_neg hc, hletter]
        rfl
  have hwords := congrArg lowerWord (flatten_wordChars (blankOut key.toList))
  rw [hblank] at hwords
  unfold lowerWord at hwords
  rw [List.map_flatten] at hwords
  exact hwords

/-! ## Identifiers of keys -/

/-- A key without letters and digits has no words. -/
theorem convertKey_of_none (k : NameCase) (lead fallback : String) {key : String}
    (h : lettersAndDigits key = []) : convertKey k lead fallback key = fallback := by
  have hwords : smallWords key = [] := by
    cases hws : smallWords key with
    | nil => rfl
    | cons w r =>
      have hflatten := flatten_smallWords key
      rw [h, hws] at hflatten
      have hw := smallWord_of_mem (hws ▸ List.mem_cons_self)
      exact absurd (List.append_eq_nil_iff.mp hflatten).1 hw.ne_nil
  rw [convertKey, convertChars_blankOut, hwords, ← String.toList_inj, String.toList_ofList]
  cases k <;> rfl

/-- The words of a key, joined in any case, begin with its first letter or digit in some form. -/
theorem exists_joinChars_head (k : NameCase) {key : String} {c : Char} {r : List Char}
    (h : lettersAndDigits key = c :: r) :
    ∃ d x, k.joinChars (smallWords key) = d :: x ∧ lowerChar d = lowerChar c := by
  have hflatten := flatten_smallWords key
  rw [h] at hflatten
  cases hws : smallWords key with
  | nil =>
    rw [hws] at hflatten
    cases hflatten
  | cons w s =>
    have hw := smallWord_of_mem (hws ▸ List.mem_cons_self)
    obtain ⟨a, w, rfl⟩ := List.exists_cons_of_ne_nil hw.ne_nil
    rw [hws] at hflatten
    obtain ⟨forms, hforms, hjoin⟩ := exists_forms k ((a :: w) :: s)
    rcases forms with _ | ⟨_ | ⟨d, x⟩, forms⟩
    · cases hforms
    · cases (List.cons.inj hforms).1
    · have ha : a = lowerChar c := (List.cons.inj hflatten).1
      have hd : lowerChar d = lowerChar c := by
        rw [(List.cons.inj (List.cons.inj hforms).1).1, ha, (lowerChar_lowerChar c).1]
      rcases hjoin with hjoin | ⟨e, -, hjoin⟩
      · exact ⟨d, _, hjoin, hd⟩
      · cases forms with
        | nil => exact ⟨d, x, by simpa using hjoin, hd⟩
        | cons y ys => exact ⟨d, _, by rw [hjoin, List.intercalate_cons_cons]; rfl, hd⟩

/-- An identifier is what stands before a first digit, and behind it word characters which are the
letters and digits of the key in some form, with underscores in between. -/
theorem convertKey_of_cons (k : NameCase) (lead fallback : String) {key : String} {c : Char}
    {r : List Char} (h : lettersAndDigits key = c :: r) :
    ∃ d b, convertKey k lead fallback key =
        (if isDigit c then lead else "") ++ String.ofList (d :: b) ∧
      isDigit d = isDigit c ∧ (∀ e ∈ d :: b, isWordChar e = true) ∧
      lowerWord ((d :: b).filter (· != '_')) = lowerWord (c :: r) := by
  obtain ⟨d, x, hjoin, hd⟩ := exists_joinChars_head k h
  have hc : isLetterOrDigit c = true :=
    (List.mem_filter.mp (h ▸ List.mem_cons_self : c ∈ lettersAndDigits key)).2
  have hdc : isDigit d = isDigit c := by rw [← isDigit_lowerChar d, hd, isDigit_lowerChar]
  have hdword : isWordChar d = true := by
    apply isWordChar_of_isLetterOrDigit
    rw [← isLetterOrDigit_lowerChar, hd, isLetterOrDigit_lowerChar, hc]
  have hkept : (d :: x).filter isWordChar = d :: x.filter isWordChar :=
    List.filter_cons_of_pos hdword
  have hword : ∀ e ∈ d :: x.filter isWordChar, isWordChar e = true := by
    intro e he
    rw [← hkept] at he
    exact (List.mem_filter.mp he).2
  refine ⟨d, x.filter isWordChar, ?_, hdc, hword, ?_⟩
  · rw [convertKey, convertChars_blankOut, hjoin, identifierChars, hkept, ← String.toList_inj,
      String.toList_ofList, String.toList_append, String.toList_ofList]
    simp only [hdc]
    split <;> rfl
  · -- what is no underscore among the word characters is a letter or a digit
    have hletters : (d :: x.filter isWordChar).filter (· != '_') =
        (k.joinChars (smallWords key)).filter isLetterOrDigit := by
      rw [hjoin, ← hkept, List.filter_filter]
      refine List.filter_congr fun e _ => ?_
      by_cases he : isWordChar e = true
      · rw [(isLetterOrDigit_eq he).2, he, Bool.and_true]
      · have hnone : isLetterOrDigit e = false :=
          Bool.eq_false_iff.mpr fun h => he (isWordChar_of_isLetterOrDigit h)
        rw [hnone, Bool.eq_false_iff.mpr he, Bool.and_false]
    have hall : (lettersAndDigits key).filter isLetterOrDigit = lettersAndDigits key := by
      rw [lettersAndDigits, List.filter_filter]
      simp
    rw [hletters, letters_joinChars, flatten_smallWords, filter_lowerWord, hall, h,
      keepsForms_lowerWord.lower]

/-- What is made of a key with a bare name before a first digit, and with a bare name in place of
what has no words, is a bare name. -/
theorem bareName_convertKey (k : NameCase) {lead fallback : String} (hlead : BareName lead)
    (hfallback : BareName fallback) (key : String) : BareName (convertKey k lead fallback key) := by
  cases h : lettersAndDigits key with
  | nil =>
    rw [convertKey_of_none k lead fallback h]
    exact hfallback
  | cons c r =>
    obtain ⟨d, b, heq, hd, hword, -⟩ := convertKey_of_cons k lead fallback h
    rw [heq]
    by_cases hc : isDigit c = true
    · rw [if_pos hc]
      apply hlead.append
      rwa [String.toList_ofList]
    · rw [List.forall_mem_cons] at hword
      rw [if_neg hc, String.empty_append, BareName, String.toList_ofList, headed_cons,
        isStartChar_iff, hd, Bool.eq_false_iff.mpr hc]
      exact ⟨⟨hword.1, rfl⟩, hword.2⟩

end TypeSketch.Naming
