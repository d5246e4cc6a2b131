-- The names made from keys are words: one character or more, all of which an
-- identifier may hold.
import TypeSketch.Naming.Identifier
import TypeSketch.Proofs.Text.Lines

namespace TypeSketch.Naming

open Text

/-- A text of word characters that is not empty. -/
structure IsWord (s : String) : Prop where
  ne_nil : s.toList ≠ []
  chars : ∀ c ∈ s.toList, isWordChar c = true

theorem identifierChars_word {lead fallback : List Char} (hlead : ∀ c ∈ lead, isWordChar c = true)
    (hfallback : ∀ c ∈ fallback, isWordChar c = true) (s : List Char) :
    ∀ c ∈ identifierChars lead fallback s, isWordChar c = true := by
  have hkept : ∀ c ∈ s.filter isWordChar, isWordChar c = true :=
    fun c hc => (List.mem_filter.mp hc).2
  unfold identifierChars
  split
  · exact hfallback
  · rename_i a r h
    rw [h] at hkept
    split
    · intro c hc
      rcases List.mem_append.mp hc with hc | hc
      · exact hlead c hc
      · exact hkept c hc
    · exact hkept

theorem identifierChars_ne_nil {lead fallback : List Char} (hfallback : fallback ≠ [])
    (s : List Char) : identifierChars lead fallback s ≠ [] := by
  unfold identifierChars
  split
  · exact hfallback
  · split <;> simp

/-- A key becomes a word in every case. -/
theorem isWord_convertKey (k : NameCase) {lead fallback : String}
    (hlead : ∀ c ∈ lead.toList, isWordChar c = true) (hfallback : IsWord fallback) (key : String) :
    IsWord (convertKey k lead fallback key) := by
  constructor
  · rw [convertKey, String.toList_ofList]
    exact identifierChars_ne_nil hfallback.ne_nil _
  · rw [convertKey, String.toList_ofList]
    exact identifierChars_word hlead hfallback.chars _

/-- The name of a field for a key, in the case of a language. -/
def fieldName (k : NameCase) (key : String) : String := convertKey k "_" "field" key

theorem isWord_fieldName (k : NameCase) (key : String) : IsWord (fieldName k key) :=
  isWord_convertKey k (by decide) ⟨by decide, by decide⟩ key

theorem IsWord.not_mem {s : String} (h : IsWord s) {c : Char} (hc : isWordChar c = false) :
    c ∉ s.toList := by
  intro hm
  rw [h.chars c hm] at hc
  cases hc

theorem IsWord.oneLine {s : String} (h : IsWord s) : OneLine s := h.not_mem (by decide)

theorem IsWord.append {s t : String} (hs : IsWord s) (ht : IsWord t) : IsWord (s ++ t) := by
  constructor
  · rw [String.toList_append]
    exact List.append_ne_nil_of_left_ne_nil hs.ne_nil _
  · intro c hc
    rw [String.toList_append, List.mem_append] at hc
    exact hc.elim (hs.chars c) (ht.chars c)

end TypeSketch.Naming
