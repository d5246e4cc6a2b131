-- Keys in Rust: an attribute on a line before the field tells a key that is not
-- the field's plain name, and a keyword's mark does not belong to that name.
import TypeSketch.Proofs.Key.Reader
import TypeSketch.Proofs.Shape.Expression
import TypeSketch.Target.Rust

namespace TypeSketch.Rust

open Text Naming Key

/-! ## Members -/

theorem spelled_typeOf (o : Options) {s : Shape} (h : s.NamedByWord) :
    Shape.Spelled [':', '<', '>', '(', ')'] (typeOf o s) := by
  apply Shape.spelled_typeOf _ _ _ h
  · intro k
    rw [typeOf]
    cases k <;> decide
  · intro n e he
    exact (Shape.Spelled.append (by decide) he).append (by decide)
  · intro n fs hn
    rw [typeOf]
    split
    · exact (Shape.Spelled.append (by decide) (Shape.spelled_word hn)).append (by decide)
    · exact Shape.spelled_word hn

/-! ## Lines -/

/-- What the attribute with a key begins with. -/
def mark : String := "    #[serde(rename = "

/-- The plain name in the line of a field. -/
def memberAt? (s : List Char) : Option String :=
  (after? "    pub " s).map fun r => firstWord ((after? "r#" r).getD r)

/-- No name begins with the mark of a keyword. -/
theorem after?_keywordMark {name : String} (h : IsWord name) (r : List Char) :
    after? "r#" (name.toList ++ ':' :: r) = none := by
  have hchars := h.chars
  unfold after?
  match hname : name.toList with
  | [] => exact absurd hname h.ne_nil
  | [a] => simp
  | a :: b :: w =>
    have hb : isWordChar b = true := hchars b (by simp [hname])
    have hne : b ≠ '#' := by
      rintro rfl
      revert hb
      decide
    simp [hne.symm]

theorem memberAt?_line (m : Member) (h : IsWord m.plainName) :
    memberAt? ("    pub " ++ m.name ++ ": " ++ m.type ++ ",").toList = some m.plainName := by
  have hfirst (r : List Char) : firstWord (m.plainName.toList ++ ':' :: r) = m.plainName :=
    firstWord_append h (by decide) r
  simp only [String.toList_append, List.append_assoc]
  rw [memberAt?, after?_append, Option.map_some, Member.name]
  split
  · rw [String.toList_append, List.append_assoc, after?_append, Option.getD_some]
    exact congrArg some (hfirst _)
  · have hnone := after?_keywordMark h (' ' :: (m.type.toList ++ ",".toList))
    exact congrArg some ((congrArg firstWord (congrArg (Option.getD · _) hnone)).trans (hfirst _))

theorem renamed_eq (o : Options) (hserde : o.deriveSerde = true) (f : Field) :
    (member o f).renamed = if fieldName .snake f.1 = f.1 then none else some (quote f.1) := by
  unfold fieldName
  by_cases h : convertKey .snake "_" "field" f.1 = f.1
  · simp [member, h]
  · simp [member, hserde, h]

theorem tells_member (o : Options) (hserde : o.deriveSerde = true) (f : Field) :
    Tells (markedLine mark memberAt?) (member o f).lines [Told.of (fieldName .snake f.1) f.1] := by
  rw [Member.lines, List.append_assoc, renamed_eq o hserde]
  apply tells_of
  · intro h
    rw [if_pos h]
  · intro h
    rw [if_neg h]
    exact ⟨_, rfl, markedLine_mark f.1 ")]"⟩
  · intro l hl
    have hskip : l = "    #[serde(skip_serializing_if = \"Option::is_none\")]" := by
      split at hl
      · exact List.mem_singleton.mp hl
      · cases hl
    rw [hskip]
    decide
  · apply markedLine_member
    · simp only [String.toList_append, List.append_assoc]
      exact literalAfter?_append_ne (by decide) (by decide) _
    · exact memberAt?_line (member o f) (isWord_fieldName .snake f.1)

theorem oneLine_name (o : Options) (f : Field) : OneLine (member o f).name := by
  have hplain : OneLine (member o f).plainName := (isWord_fieldName .snake f.1).oneLine
  rw [Member.name]
  split
  · simp +decide [hplain]
  · exact hplain

theorem oneLine_type (o : Options) {f : Field} (hf : f.2.NamedByWord) :
    OneLine (member o f).type := by
  have htype := (spelled_typeOf o hf).oneLine (by decide)
  simp only [member]
  split
  · simp +decide [htype]
  · exact htype

theorem oneLine_lines (o : Options) (hserde : o.deriveSerde = true) {f : Field}
    (hf : f.2.NamedByWord) : ∀ l ∈ (member o f).lines, OneLine l := by
  intro l hl
  rw [Member.lines, renamed_eq o hserde, List.mem_append, List.mem_append,
    List.mem_singleton] at hl
  rcases hl with (hl | hl) | rfl
  · by_cases h : fieldName .snake f.1 = f.1
    · simp [h] at hl
    · simp only [if_neg h, List.mem_singleton] at hl
      simp +decide [hl, oneLine_quote]
  · split at hl
    · rw [List.mem_singleton.mp hl]
      decide
    · cases hl
  · simp +decide [oneLine_name o f, oneLine_type o hf]

/-! ## Definitions -/

/-- The lines before the fields of a struct. -/
def opening (o : Options) (name : String) : List String :=
  (if o.derives.isEmpty then [] else ["#[derive(" ++ listed o.derives ++ ")]"]) ++
    ["pub struct " ++ name ++ " \x7b"]

/-- The reader of Rust definitions. -/
def reader (o : Options) : Reader :=
  .ofLines (fieldName .snake) (opening o) (fun _ => false) (markedLine mark memberAt?)

theorem identifier_reader (o : Options) : (reader o).identifier = fieldName .snake := by
  simp only [reader, Reader.ofLines]

theorem opens_opening (o : Options) (name : String) : Opens (opening o name) := by
  rw [opening]
  split
  · simp [Opens]
  · simp [Opens]

/-- With serde's traits a definition tells every key. -/
theorem read_definition (o : Options) (hserde : o.deriveSerde = true) (t : ObjectType)
    (ht : ∀ f ∈ t.fields, f.2.NamedByWord) :
    (reader o).read t.name (trimBreaks (unlines (definition o t))) =
      t.fields.map fun f => Told.of (fieldName .snake f.1) f.1 := by
  have hfields := sequenced_flatMap fun f => (member o f).lines
  have hdefinition : definition o t =
      opening o t.name ++ ((t.fields.flatMap fun f => (member o f).lines) ++ ["\x7d"]) := by
    simp [definition, layout, opening, List.flatMap_map]
  rw [hdefinition]
  apply Reader.read_ofLines (opens_opening o t.name) (closes_concat (by decide) (by decide) _)
  · exact hfields.tells (fun f _ => tells_member o hserde f) fun f _ => tells_member o hserde f
  · exact hfields.forall_mem (fun f hf => oneLine_lines o hserde (ht f hf)) fun f hf =>
      oneLine_lines o hserde (ht f hf)
  · exact fun l _ => rfl
  · decide

end TypeSketch.Rust
