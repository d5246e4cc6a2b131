-- Names that are written anew in another case. A case that parts its words by an
-- underscore or a hyphen keeps them all, so nothing is lost for the next one. Where
-- capitals alone part the words, some are one in the end.
import TypeSketch.Proofs.Naming.Words

namespace TypeSketch.Naming

open Text

/-! ## Words in one kind of letters -/

/-- A change of letters makes no gap. -/
theorem isGap_lowerChar (c : Char) : isGap (lowerChar c) = isGap c := by
  by_cases h : isUpper c = true
  · have hletter : isLetter (lowerChar c) = true :=
      of_isUpper (P := fun c => isLetter (lowerChar c) = true) (by decide) h
    rw [isGap_of_isLetter hletter, isGap_of_isLetter (by simp [isLetter, h])]
  · rw [lowerChar, if_neg h]

theorem isGap_upperChar (c : Char) : isGap (upperChar c) = isGap c := by
  by_cases h : isLower c = true
  · have hletter : isLetter (upperChar c) = true :=
      of_isLower (P := fun c => isLetter (upperChar c) = true) (by decide) h
    rw [isGap_of_isLetter hletter, isGap_of_isLetter (by simp [isLetter, h])]
  · rw [upperChar, if_neg h]

theorem unbroken_of_no_capital : ∀ {w : List Char}, (∀ c ∈ w, isUpper c = false) → Unbroken w
  | [], _ => trivial
  | [_], _ => trivial
  | a :: b :: r, h => by
    have hb : isUpper b = false := h b (by simp)
    refine ⟨by simp [isBoundary, hb], unbroken_of_no_capital fun c hc => ?_⟩
    exact h c (List.mem_cons_of_mem a hc)

theorem unbroken_of_no_small : ∀ {w : List Char}, (∀ c ∈ w, isLower c = false) → Unbroken w
  | [], _ => trivial
  | [_], _ => trivial
  | a :: b :: r, h => by
    have ha : isLower a = false := h a (by simp)
    have hnext : r.head?.any isLower = false := by
      cases r with
      | nil => rfl
      | cons c r => exact h c (by simp)
    refine ⟨by simp [isBoundary, ha, hnext], unbroken_of_no_small fun c hc => ?_⟩
    exact h c (List.mem_cons_of_mem a hc)

/-- A change of the letters of words after which each still is one word. -/
structure KeepsWords (g : List Char → List Char) : Prop extends KeepsForms g where
  oneWord : ∀ w, OneWord w → OneWord (g w)

theorem keepsWords_lowerWord : KeepsWords lowerWord where
  toKeepsForms := keepsForms_lowerWord
  oneWord w h := by
    refine ⟨by simpa [lowerWord] using h.ne_nil, fun c hc => ?_, unbroken_of_no_capital ?_⟩
    · obtain ⟨d, hd, rfl⟩ := List.mem_map.mp hc
      rw [isGap_lowerChar, h.gapless d hd]
    · intro c hc
      obtain ⟨d, _, rfl⟩ := List.mem_map.mp hc
      exact isUpper_lowerChar d

theorem keepsWords_upperWord : KeepsWords upperWord where
  toKeepsForms := keepsForms_upperWord
  oneWord w h := by
    refine ⟨by simpa [upperWord] using h.ne_nil, fun c hc => ?_, unbroken_of_no_small ?_⟩
    · obtain ⟨d, hd, rfl⟩ := List.mem_map.mp hc
      rw [isGap_upperChar, h.gapless d hd]
    · intro c hc
      obtain ⟨d, _, rfl⟩ := List.mem_map.mp hc
      exact isLower_upperChar d

/-! ## Delimited cases -/

namespace NameCase

/-- The cases that part words by a character of their own. -/
def delimited : List NameCase := [.snake, .kebab, .screamingSnake]

/-- A name in a delimited case is its words, each in one kind of letters, with one gap between
neighbours. -/
theorem exists_joinChars_delimited {g : NameCase} (h : g ∈ delimited) :
    ∃ change c, KeepsWords change ∧ isGap c = true ∧
      ∀ ws, g.joinChars ws = [c].intercalate (ws.map change) := by
  simp only [delimited, List.mem_cons, List.not_mem_nil, or_false] at h
  rcases h with rfl | rfl | rfl
  · exact ⟨lowerWord, '_', keepsWords_lowerWord, rfl, fun _ => rfl⟩
  · exact ⟨lowerWord, '-', keepsWords_lowerWord, rfl, fun _ => rfl⟩
  · exact ⟨upperWord, '_', keepsWords_upperWord, rfl, fun _ => rfl⟩

theorem convert_convert {g : NameCase} (h : g ∈ delimited) (f : NameCase) (name : String) :
    f.convert (g.convert name) = f.convert name := by
  obtain ⟨change, c, hchange, hc, hjoin⟩ := exists_joinChars_delimited h
  have hwords : wordChars (g.convertChars name.toList) =
      (wordChars name.toList).map change := by
    rw [convertChars, hjoin, wordChars_joined hc]
    intro v hv
    obtain ⟨w, hw, rfl⟩ := List.mem_map.mp hv
    exact hchange.oneWord w (oneWord_of_mem hw)
  rw [convert, convert, String.toList_ofList, convertChars, hwords,
    joinChars_map hchange.toKeepsForms, convert, convertChars]

/-- A case loses nothing of a name that another one could tell if and only if it parts the words by
a character of their own: then every name, in this case and from it in any other one, is what it is
in the other one at once. So writing a name twice in such a case is writing it once. -/
theorem the_delimited_cases_lose_nothing (g : NameCase) :
    (∀ (f : NameCase) (name : String), f.convert (g.convert name) = f.convert name) ↔
      g ∈ delimited := by
  refine ⟨fun h => ?_, fun h f name => convert_convert h f name⟩
  -- two words of one letter are one acronym where capitals alone part them
  have hletters := h .snake "a_b_c"
  cases g with
  | snake => decide
  | kebab => decide
  | screamingSnake => decide
  | camel => exact absurd hletters (by decide +kernel)
  | pascal => exact absurd hletters (by decide +kernel)

end NameCase

end TypeSketch.Naming
