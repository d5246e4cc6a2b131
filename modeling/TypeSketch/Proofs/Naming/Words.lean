-- The words of a name. They are what stands between the gaps of the name, none of
-- them can be parted again, and they are found again when they are written one after
-- the other with any gap in between.
import TypeSketch.Proofs.Naming.Joined
import TypeSketch.Proofs.Naming.Passes

namespace TypeSketch.Naming

open Text

/-! ## Gaps -/

theorem isGap_of_isLetter {c : Char} (h : isLetter c = true) : isGap c = false := by
  have hword : isWordChar c = true := by simp [isWordChar, h]
  exact of_isWordChar (P := fun c => isLetter c = true → isGap c = false) (by decide) hword h

/-- A gap is no letter. -/
theorem not_letter_of_isGap {c : Char} (h : isGap c = true) :
    isLower c = false ∧ isUpper c = false := by
  have hletter : isLetter c = false := by
    rw [← Bool.not_eq_true]
    intro hc
    rw [isGap_of_isLetter hc] at h
    cases h
  exact Bool.or_eq_false_iff.mp hletter

theorem filter_spaced (s : List Char) :
    (spaced s).filter (!isGap ·) = s.filter (!isGap ·) := by
  have hcons {a : Char} {s t : List Char}
      (h : s.filter (!isGap ·) = t.filter (!isGap ·)) :
      (a :: s).filter (!isGap ·) = (a :: t).filter (!isGap ·) := by
    rw [List.filter_cons, List.filter_cons, h]
  fun_induction spaced s with
  | case1 a b r _ ih =>
    refine hcons ?_
    rw [List.filter_cons_of_neg (by decide), ih]
  | case2 a b r _ ih => exact hcons ih
  | case3 s _ => rfl

/-- Nothing but the gaps is lost. -/
theorem flatten_wordChars (s : List Char) : (wordChars s).flatten = s.filter (!isGap ·) := by
  rw [wordChars, List.flatten_filter_not_isEmpty, flatten_piecesBy, filter_spaced]

/-! ## Single words -/

/-- No word ends inside a list. -/
def Unbroken : List Char → Prop
  | a :: b :: r => isBoundary a b r = false ∧ Unbroken (b :: r)
  | _ => True

theorem spaced_of_unbroken : ∀ {w : List Char}, Unbroken w → spaced w = w
  | [], _ => rfl
  | [_], _ => rfl
  | a :: b :: r, h => by rw [spaced, h.1, if_neg Bool.false_ne_true, spaced_of_unbroken h.2]

/-- A list of characters that is one word: not empty, without a gap and without an end of a word
inside it. -/
structure OneWord (w : List Char) : Prop where
  ne_nil : w ≠ []
  gapless : ∀ c ∈ w, isGap c = false
  unbroken : Unbroken w

theorem OneWord.wordChars_eq {w : List Char} (h : OneWord w) : wordChars w = [w] := by
  rw [wordChars, spaced_of_unbroken h.unbroken, piecesBy_eq_singleton h.gapless,
    List.filter_cons_of_pos (by simpa using h.ne_nil)]
  rfl

/-- An end of a word is seen in more than a part of what follows it, if in the part. -/
theorem isBoundary_of_part {a b : Char} {w r : List Char} (h : w <+: r)
    (hb : isBoundary a b w = true) : isBoundary a b r = true := by
  cases w with
  | nil =>
    have hrise : (isLower a && isUpper b) = true := by simpa [isBoundary] using hb
    rw [isBoundary, hrise, Bool.true_or]
  | cons c w =>
    obtain ⟨t, rfl⟩ := h
    exact hb

/-- The spaces that are put into a name end its first word. -/
theorem takeWhile_spaced (s : List Char) :
    (spaced s).takeWhile (!isGap ·) <+: s := by
  fun_induction spaced s with
  | case1 a b r _ _ =>
    by_cases ha : isGap a = true
    · rw [List.takeWhile_cons_of_neg (by simp [ha])]
      exact List.nil_prefix
    · rw [List.takeWhile_cons_of_pos (by simpa using ha),
        List.takeWhile_cons_of_neg (by decide)]
      exact ⟨b :: r, rfl⟩
  | case2 a b r _ ih =>
    by_cases ha : isGap a = true
    · rw [List.takeWhile_cons_of_neg (by simp [ha])]
      exact List.nil_prefix
    · rw [List.takeWhile_cons_of_pos (by simpa using ha)]
      exact (List.prefix_cons_inj a).mpr ih
  | case3 s _ => exact List.takeWhile_prefix _

theorem unbroken_of_mem_piecesBy {s w : List Char} (h : w ∈ piecesBy isGap (spaced s)) :
    Unbroken w := by
  have hshort {a : Char} {w : List Char} (h : w ∈ piecesBy isGap [a]) : Unbroken w := by
    have hw : w = [] ∨ w = [a] := by
      rw [piecesBy] at h
      split at h
      · exact .inl (by simpa [piecesBy] using h)
      · exact .inr (by simpa [piecesBy] using h)
    rcases hw with rfl | rfl <;> trivial
  fun_induction spaced s generalizing w with
  | case1 a b r _ ih =>
    have hcut := piecesBy_append (p := isGap) (c := ' ') rfl [a] (spaced (b :: r))
    rw [List.singleton_append] at hcut
    rw [hcut] at h
    rcases List.mem_append.mp h with h | h
    · exact hshort h
    · exact ih h
  | case2 a b r hinside ih =>
    obtain ⟨v, vs, hv⟩ := List.exists_cons_of_ne_nil (piecesBy_ne_nil isGap (spaced (b :: r)))
    have hfirst : v <+: b :: r := by
      have hhead := head?_piecesBy isGap (spaced (b :: r))
      rw [hv, List.head?_cons] at hhead
      exact Option.some.inj hhead ▸ takeWhile_spaced (b :: r)
    rw [piecesBy, hv] at h
    split at h
    · rcases List.mem_cons.mp h with rfl | h
      · trivial
      · exact ih (hv ▸ h)
    · rcases List.mem_cons.mp h with rfl | h
      · -- the first piece goes on with what follows in the name, as far as it goes
        have hrest := ih (hv ▸ List.mem_cons_self)
        cases v with
        | nil => trivial
        | cons c v =>
          obtain ⟨rfl, hafter⟩ := List.cons_prefix_cons.mp hfirst
          exact ⟨Bool.eq_false_iff.mpr fun hb => hinside (isBoundary_of_part hafter hb), hrest⟩
      · exact ih (hv ▸ List.mem_cons_of_mem v h)
  | case3 s hs =>
    rcases s with _ | ⟨a, _ | ⟨b, r⟩⟩
    · obtain rfl := List.mem_singleton.mp h
      trivial
    · exact hshort h
    · exact absurd rfl (hs a b r)

theorem oneWord_of_mem {s w : List Char} (h : w ∈ wordChars s) : OneWord w := by
  obtain ⟨hpiece, hne⟩ := List.mem_filter.mp h
  exact ⟨by simpa using hne, fun _ hc => eq_false_of_mem_piecesBy hpiece hc,
    unbroken_of_mem_piecesBy hpiece⟩

/-! ## Joined words -/

/-- A gap is no end of a word and no beginning of one. -/
theorem spaced_append {c : Char} (hc : isGap c = true) (t : List Char) :
    ∀ s : List Char, spaced (s ++ c :: t) = spaced s ++ c :: spaced t
  | [] => by
    obtain ⟨hlower, hupper⟩ := not_letter_of_isGap hc
    cases t with
    | nil => rfl
    | cons b r => simp [spaced, isBoundary, hlower, hupper]
  | [a] => by
    have ht := spaced_append hc t []
    obtain ⟨hlower, hupper⟩ := not_letter_of_isGap hc
    rw [List.nil_append] at ht
    rw [List.singleton_append, spaced, ht, isBoundary, hupper]
    simp [spaced]
  | a :: b :: r => by
    have hbr := spaced_append hc t (b :: r)
    obtain ⟨hlower, _⟩ := not_letter_of_isGap hc
    have htest : isBoundary a b (r ++ c :: t) = isBoundary a b r := by
      cases r with
      | nil => simp [isBoundary, hlower]
      | cons d r => rfl
    rw [List.cons_append] at hbr
    rw [List.cons_append, List.cons_append, spaced, htest, hbr, spaced]
    split <;> rfl

theorem wordChars_append {c : Char} (hc : isGap c = true) (s t : List Char) :
    wordChars (s ++ c :: t) = wordChars s ++ wordChars t := by
  rw [wordChars, spaced_append hc, piecesBy_append hc, List.filter_append, wordChars, wordChars]

/-- The words of texts with a gap between neighbours are the words of each. -/
theorem wordChars_intercalate {c : Char} (hc : isGap c = true) (ss : List (List Char)) :
    wordChars ([c].intercalate ss) = ss.flatMap wordChars := by
  induction ss with
  | nil => rfl
  | cons s r ih =>
    cases r with
    | nil => simp
    | cons t r =>
      rw [List.intercalate_cons_cons, List.append_assoc, List.singleton_append,
        wordChars_append hc, ih, List.flatMap_cons (x := s)]

theorem wordChars_joined {c : Char} (hc : isGap c = true) {ws : List (List Char)}
    (hws : ∀ w ∈ ws, OneWord w) : wordChars ([c].intercalate ws) = ws := by
  rw [wordChars_intercalate hc, List.flatMap_def,
    List.map_congr_left fun w hw => (hws w hw).wordChars_eq, ← List.flatMap_def,
    List.flatMap_singleton']

/-! ## The law -/

/-- The words of a name are those that the four passes leave. Together they are the name without
its gaps. None is empty, each has itself for its only word, and written with any gap between
neighbours they are the words again. -/
theorem words_are_found_whole_and_found_again (name : String) :
    words name = (passedWords name.toList).map String.ofList ∧
      String.join (words name) = String.ofList (name.toList.filter (!isGap ·)) ∧
      (∀ w ∈ words name, w ≠ "" ∧ words w = [w]) ∧
      ∀ c, isGap c = true → words ((String.singleton c).intercalate (words name)) = words name := by
  refine ⟨by rw [words, wordChars_eq_passedWords], ?_, fun w hw => ?_, fun c hc => ?_⟩
  · apply String.toList_inj.mp
    rw [String.toList_join, String.toList_ofList, ← flatten_wordChars, words, List.flatMap_map]
    simp [List.flatMap]
  · obtain ⟨v, hv, rfl⟩ := List.mem_map.mp hw
    have hone := oneWord_of_mem hv
    refine ⟨fun hnil => hone.ne_nil (String.ofList_eq_empty_iff.mp hnil), ?_⟩
    rw [words, String.toList_ofList, hone.wordChars_eq]
    rfl
  · have hjoined : ((String.singleton c).intercalate (words name)).toList =
        [c].intercalate (wordChars name.toList) := by
      rw [String.toList_intercalate, words, List.map_map]
      simp
    rw [words, hjoined, wordChars_joined hc fun w => oneWord_of_mem, ← words]

/-- An acronym, a digit before a capital, and gaps of four kinds. -/
example : words "XMLParser_v2Beta/userID .x" = ["XML", "Parser", "v2Beta", "user", "ID", "x"] := by
  decide +kernel

end TypeSketch.Naming
