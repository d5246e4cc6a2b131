-- What a line of a definition may end in. Words, type expressions and literals do
-- not end in a blank, and a key that is written without quotes is a line up to
-- one line break at its end.
import TypeSketch.Proofs.Naming.Bare
import TypeSketch.Proofs.Shape.Expression
import TypeSketch.Proofs.Text.Blank
import TypeSketch.Proofs.Text.Pair
import TypeSketch.Proofs.Text.Tidy

namespace TypeSketch

open Text

namespace Naming

theorem isBlank_of_isWordChar {c : Char} (h : isWordChar c = true) : isBlank c = false := by
  rw [Bool.eq_false_iff]
  intro hblank
  have hall : ∀ n ∈ blankCodes, isWordChar (Char.ofNat n) = false := by decide
  have hword := hall c.toNat (toNat_mem_blankCodes hblank)
  rw [Char.ofNat_toNat, h] at hword
  cases hword

theorem IsWord.ne_empty {s : String} (h : IsWord s) : s ≠ "" := by
  rintro rfl
  exact h.ne_nil rfl

theorem IsWord.solid {s : String} (h : IsWord s) : Solid s :=
  solid_of_forall h.ne_empty fun c hc => isBlank_of_isWordChar (h.chars c hc)

theorem IsWord.free {s : String} (h : IsWord s) {c : Char}
    (hc : isWordChar c = false := by decide) : Free c s :=
  h.not_mem hc

/-- A text that matches a name without blanks is a line up to one line break at its end. -/
theorem nearLine_of_matchesName {first others : Char → Bool}
    (hfirst : ∀ c, first c = true → isBlank c = false)
    (hothers : ∀ c, others c = true → isBlank c = false) {s : String}
    (h : matchesName first others s.toList = true) : NearLine s := by
  have hsolid {t : String} (ht : Headed first others t.toList) : Solid t := by
    obtain ⟨c, r, hcr, hc, hr⟩ := ht
    apply solid_of_forall
    · rintro rfl
      cases hcr
    · intro d hd
      rw [hcr, List.mem_cons] at hd
      rcases hd with rfl | hd
      · exact hfirst d hc
      · exact hothers d (hr d hd)
  rcases matchesName_toList_iff.mp h with hname | ⟨t, ht, rfl⟩
  · exact .inl (hsolid hname).1
  · exact .inr ⟨t, hsolid ht, rfl⟩

end Naming

namespace Text

theorem solid_quote (s : String) : Solid (quote s) := by
  refine ⟨oneLine_quote s, '"', ?_, by decide⟩
  rw [toList_quote, ← List.cons_append, List.getLast?_concat]
  rfl

/-- A literal stays solid where pairs of characters inside it are broken up. -/
theorem solid_escaped {a b : Char} {new : List Char} (hb : '"' ≠ b) (hnew : '\n' ∉ new)
    (key : String) : Solid (String.ofList (replacePair a b new (quote key).toList)) := by
  refine ⟨?_, '"', ?_, by decide⟩
  · rw [OneLine, String.toList_ofList]
    intro hm
    rcases mem_replacePair hm with hm | hm
    · exact hnew hm
    · exact oneLine_quote key hm
  · rw [String.toList_ofList, toList_quote, ← List.cons_append, getLast?_replacePair hb]
    rfl

end Text

namespace Shape

/-- Type expressions that put the items of an array between two texts and write an object by its
name are solid, if those of scalars are. -/
theorem solid_wrapped {typeOf : Shape → String} {before behind : String}
    (array : ∀ n e, typeOf (.array n e) = before ++ typeOf e ++ behind)
    (object : ∀ n fs, typeOf (.object n fs) = n) (scalar : ∀ k, Solid (typeOf (.scalar k)))
    (hbefore : OneLine before) (hbehind : behind = "" ∨ Solid behind) {s : Shape}
    (h : s.NamedByWord) : Solid (typeOf s) := by
  refine h.ind (motive := fun s => Solid (typeOf s)) scalar (fun n e he => ?_) fun n fs hn => ?_
  · rw [array]
    rcases hbehind with rfl | hbehind
    · rw [String.append_empty]
      exact solid_append hbefore he
    · exact solid_append (oneLine_append.mpr ⟨hbefore, he.1⟩) hbehind
  · rw [object]
    exact hn.solid

end Shape

end TypeSketch
