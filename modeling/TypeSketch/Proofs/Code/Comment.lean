-- Comments that keys cannot leave, in the two languages that write keys into comments.
import TypeSketch.Proofs.Code.ClosingTag
import TypeSketch.Proofs.Code.Documented

namespace TypeSketch

open Text

/-- A character that no name holds does not stand in an identifier, in whatever alphabet. -/
theorem Text.free_of_isName {s : String} (h : isName s = true) {c : Char}
    (hc : isNamePart c = false) : Free c s := by
  intro hm
  rw [isName] at h
  split at h
  · rename_i hs
    rw [hs] at hm
    cases hm
  · rename_i d r hs
    rw [Bool.and_eq_true, List.all_eq_true] at h
    rw [hs, List.mem_cons] at hm
    have hpart : isNamePart c = true := by
      rcases hm with rfl | hm
      · rw [isNamePart, h.1, Bool.true_or]
      · exact h.2 c hm
    rw [hc] at hpart
    cases hpart

/-- Under a root without a slash, as all identifiers are, the mark that closes a comment stands in
JavaScript code only in the last lines of documentation blocks. A property with another name than
its key is described by a line that ends in a literal, before which nothing is quoted, and the
literal is read as the key. Under a root without the second character of the closing tag and a
namespace without the tag, PHP code never holds the tag. A property with another name than its key
stands on a line that ends in a comment, before which there is no slash; the literal in the comment
holds no control character, and it is that of no other key. -/
theorem no_key_breaks_out_of_a_comment (v : Json) :
    (∀ o : JavaScript.Options, Free '/' o.rootName →
      let p := LanguageOptions.javascript o
      Documented (o.useJsDoc = true) (lines (p.generate v)) ∧
        ∀ t ∈ p.emitted v, ∀ f ∈ t.fields, ∀ literal,
          (JavaScript.member f).renamed = some literal →
            literalAt literal.toList = some (f.1, []) ∧
            (o.useJsDoc = true →
              ∃ before, Free '"' before ∧ before ++ literal ∈ lines (p.generate v))) ∧
      ∀ o : Php.Options, Free '>' o.rootName → Lacks '?' '>' o.nameSpace →
        let p := LanguageOptions.php o
        Lacks '?' '>' (p.generate v) ∧
          ∀ t ∈ p.emitted v, ∀ f ∈ t.fields, ∀ literal, (Php.member o f).renamed = some literal →
            (∀ c ∈ literal.toList, ¬ c.toNat < 0x20) ∧
            (∃ before, Free '/' before ∧ before ++ " // " ++ literal ∈ lines (p.generate v)) ∧
            ∀ g : Field, (Php.member o g).renamed = some literal → g.1 = f.1 := by
  constructor
  · intro o hroot p
    refine ⟨JavaScript.documented_generate o hroot v, fun t ht f hf literal h => ⟨?_, ?_⟩⟩
    · have hread := JavaScript.literalAt_commentLiteral f.1 []
      rwa [List.append_nil, ← JavaScript.renamed_eq h] at hread
    · rw [LanguageOptions.emitted_eq] at ht
      exact fun hdocs => JavaScript.exists_line_renamed hdocs ht hf h
  · intro o hroot hname p
    refine ⟨Php.lacks_generate o hroot hname v, fun t ht f hf literal h => ⟨?_, ?_, ?_⟩⟩
    · rw [Php.renamed_eq h]
      exact fun c hc => Php.not_control_of_mem_commentLiteral hc
    · rw [LanguageOptions.emitted_eq] at ht
      exact Php.exists_line_renamed ht hf h
    · intro g hg
      rw [Php.renamed_eq h] at hg
      exact Php.commentLiteral_injective (Php.renamed_eq hg).symm

/-- Keys that hold both marks, under a root that is no word of ASCII. -/
theorem a_closing_mark_and_a_closing_tag_stay_inside :
    let v : Json := .obj [("a*/b", .obj [("x?>", .null)])]
    let o : JavaScript.Options := { rootName := "Größe" }
    let p : Php.Options := { rootName := "Größe", nameSpace := "App" }
    Free '/' o.rootName ∧ Free '>' p.rootName ∧ Lacks '?' '>' p.nameSpace ∧
      Documented True (lines ((LanguageOptions.javascript o).generate v)) ∧
      (∃ before, Free '"' before ∧
        before ++ "\"a*\\/b\"" ∈ lines ((LanguageOptions.javascript o).generate v)) ∧
      Lacks '?' '>' ((LanguageOptions.php p).generate v) ∧
      ∃ before, Free '/' before ∧
        before ++ " // " ++ "\"x?\\>\"" ∈ lines ((LanguageOptions.php p).generate v) := by
  intro v o p
  have hname : isName "Größe" = true := by decide +kernel
  have hslash : Free '/' o.rootName := free_of_isName hname (by decide +kernel)
  have hangle : Free '>' p.rootName := free_of_isName hname (by decide +kernel)
  have hspace : Lacks '?' '>' p.nameSpace := lacks_of_second (by decide)
  have hlaw := no_key_breaks_out_of_a_comment v
  have hjavascript := hlaw.1 o hslash
  have hphp := hlaw.2 p hangle hspace
  have hemitted (q : LanguageOptions) (hq : q.shared.rootName = "Größe") : q.emitted v =
      [⟨"AB", [("x?>", .scalar .null)]⟩,
        ⟨"Größe", [("a*/b", .object "AB" [("x?>", .scalar .null)])]⟩] := by
    rw [LanguageOptions.emitted_eq, LanguageOptions.rootShape, hq]
    rfl
  simp only [hemitted _ (show (LanguageOptions.javascript o).shared.rootName = "Größe" from rfl),
    List.forall_mem_cons] at hjavascript
  simp only [hemitted _ (show (LanguageOptions.php p).shared.rootName = "Größe" from rfl),
    List.forall_mem_cons] at hphp
  have hroot := hjavascript.2.2.1.1 "\"a*\\/b\"" (by decide +kernel)
  have hinner := hphp.2.1.1 "\"x?\\>\"" (by decide +kernel)
  exact ⟨hslash, hangle, hspace, by simpa [o] using hjavascript.1, hroot.2 rfl, hphp.1,
    hinner.2.1⟩

end TypeSketch
