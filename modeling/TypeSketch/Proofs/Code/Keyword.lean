-- Keywords in Rust. A field whose key tells a single word may be named like a keyword, and most
-- keywords get a mark that makes them raw identifiers. The keywords that no mark makes an
-- identifier stay as they are.
import TypeSketch.Proofs.Code.Identifier
import TypeSketch.Proofs.Key.Rust
import TypeSketch.Proofs.Naming.Grammar

namespace TypeSketch.Rust

open Text Naming Key

/-! ## The keywords of the language -/

/-- The editions of Rust since the keywords of asynchronous code, as far as their keywords
differ. -/
inductive Edition where
  | upTo2021
  | from2024
  deriving DecidableEq, Repr

/-- The keywords that stand for a place or a type in a path. No mark makes them identifiers. -/
def pathKeywords : List String := ["crate", "self", "super", "Self"]

/-- The other keywords with a meaning. -/
def strictKeywords : List String :=
  ["as", "async", "await", "break", "const", "continue", "dyn", "else", "enum", "extern", "false",
    "fn", "for", "if", "impl", "in", "let", "loop", "match", "mod", "move", "mut", "pub", "ref",
    "return", "static", "struct", "trait", "true", "type", "unsafe", "use", "where", "while"]

/-- The words that are kept for a later use. -/
def reservedKeywords : List String :=
  ["abstract", "become", "box", "do", "final", "macro", "override", "priv", "try", "typeof",
    "unsized", "virtual", "yield"]

namespace Edition

/-- The words that became keywords with an edition. -/
def newKeywords : Edition → List String
  | upTo2021 => []
  | from2024 => ["gen"]

/-- All words that are no identifiers. -/
def keywords (e : Edition) : List String :=
  pathKeywords ++ strictKeywords ++ reservedKeywords ++ e.newKeywords

/-- The keywords that fields get without a mark. -/
def unmarked (e : Edition) : List String := pathKeywords ++ e.newKeywords

theorem unmarked_iff (e : Edition) (w : String) :
    w ∈ e.unmarked ↔ w ∈ e.keywords ∧ w ∉ Rust.keywords := by
  have hsubset : ∀ w ∈ e.unmarked, w ∈ e.keywords ∧ w ∉ Rust.keywords := by
    cases e <;> decide +kernel
  have hmarked : ∀ w ∈ e.keywords, w ∈ e.unmarked ∨ w ∈ Rust.keywords := by
    cases e <;> decide +kernel
  exact ⟨hsubset w, fun h => (hmarked w h.1).resolve_right h.2⟩

theorem mem_keywords (e : Edition) {w : String} (h : w ∈ Rust.keywords) : w ∈ e.keywords := by
  have hall : ∀ w ∈ Rust.keywords, w ∈ e.keywords := by
    cases e <;> decide +kernel
  exact hall w h

/-- A keyword is a single word that does not begin with a digit. -/
theorem plain_keywords (e : Edition) : ∀ w ∈ e.keywords,
    '_' ∉ w.toList ∧ '#' ∉ w.toList ∧ digitFirst w.toList = false := by
  cases e <;> decide +kernel

end Edition

/-! ## Names of fields -/

theorem filled_snake_ne_nil (key : String) : Convention.snake.filled (smallWords key) ≠ [] := by
  intro h
  cases (Convention.governs_snake.identifier_of_nil h).1

/-- A name without an underscore is the only word that its key tells. -/
theorem fieldName_eq_iff {w : String} (hplain : '_' ∉ w.toList)
    (hletter : digitFirst w.toList = false) (key : String) :
    fieldName .snake key = w ↔ Convention.snake.told key = [w] := by
  have hgoverns := Convention.governs_snake
  have hsmall := hgoverns.small_told key
  have htold : Convention.snake.told key =
      (Convention.snake.filled (smallWords key)).map String.ofList := rfl
  rw [← String.toList_inj, fieldName, hgoverns.identifier_eq (filled_snake_ne_nil key),
    hgoverns.joinChars_parted hsmall, htold]
  obtain ⟨v, r, hvr⟩ := List.exists_cons_of_ne_nil (filled_snake_ne_nil key)
  rw [hvr] at hsmall ⊢
  rw [joinChars_snake_small (hsmall v List.mem_cons_self)]
  constructor
  · intro h
    have hunmarked : ¬ ((v :: r).head?.any digitFirst = true) := by
      intro hdigit
      rw [marked, if_pos hdigit] at h
      exact hplain (h ▸ List.mem_cons_self)
    rw [marked, if_neg hunmarked] at h
    by_cases hr : r = []
    · rw [if_pos hr, List.append_nil] at h
      rw [hr, List.map_singleton, h, String.ofList_toList]
    · rw [if_neg hr] at h
      exact absurd (h ▸ List.mem_append_right v List.mem_cons_self) hplain
  · intro h
    obtain ⟨hv, hr⟩ := List.cons.inj h
    have hchars : v = w.toList := by rw [← hv, String.toList_ofList]
    rw [List.map_eq_nil_iff.mp hr, if_pos rfl, List.append_nil, hchars, marked]
    exact if_neg (by simp [hletter])

theorem fieldName_keyword_iff (e : Edition) {w : String} (hw : w ∈ e.keywords) (key : String) :
    fieldName .snake key = w ↔ Convention.snake.told key = [w] := by
  obtain ⟨hplain, -, hletter⟩ := e.plain_keywords w hw
  exact fieldName_eq_iff hplain hletter key

theorem name_eq (o : Options) (f : Field) : (member o f).name =
    if fieldName .snake f.1 ∈ keywords then "r#" ++ fieldName .snake f.1
    else fieldName .snake f.1 := rfl

theorem name_mem_keywords_iff (e : Edition) (o : Options) (f : Field) :
    (member o f).name ∈ e.keywords ↔ fieldName .snake f.1 ∈ e.unmarked := by
  rw [name_eq, e.unmarked_iff]
  by_cases h : fieldName .snake f.1 ∈ keywords
  · rw [if_pos h]
    refine iff_of_false (fun hmem => ?_) fun hmem => hmem.2 h
    apply (e.plain_keywords _ hmem).2.1
    rw [String.toList_append]
    exact List.mem_append_left _ (by decide)
  · rw [if_neg h]
    exact (and_iff_left h).symm

theorem name_eq_mark_iff (o : Options) (f : Field) (w : String) :
    (member o f).name = "r#" ++ w ↔ w ∈ keywords ∧ fieldName .snake f.1 = w := by
  rw [name_eq]
  by_cases h : fieldName .snake f.1 ∈ keywords
  · rw [if_pos h, String.append_right_inj]
    exact ⟨fun heq => ⟨heq ▸ h, heq⟩, And.right⟩
  · rw [if_neg h]
    exact iff_of_false (mark_ne_fieldName w f.1).symm fun hw => h (hw.2 ▸ hw.1)

/-! ## Lines of fields -/

/-- The name in the line of a field, with its mark. -/
def nameAt? (l : String) : Option String :=
  (after? "    pub " l.toList).map fun r => String.ofList (r.takeWhile (· != ':'))

theorem colon_notMem_name (o : Options) (f : Field) : ':' ∉ (member o f).name.toList := by
  have hplain : ':' ∉ (fieldName .snake f.1).toList :=
    (isWord_fieldName .snake f.1).not_mem (by decide)
  rw [name_eq]
  split
  · rw [String.toList_append, List.mem_append, not_or]
    exact ⟨by decide, hplain⟩
  · exact hplain

theorem nameAt?_line (o : Options) (f : Field) :
    nameAt? ("    pub " ++ (member o f).name ++ ": " ++ (member o f).type ++ ",") =
      some (member o f).name := by
  have hname : ∀ c ∈ (member o f).name.toList, (c != ':') = true := by
    intro c hc
    rw [bne_iff_ne]
    rintro rfl
    exact colon_notMem_name o f hc
  simp only [nameAt?, String.toList_append, List.append_assoc]
  rw [after?_append, Option.map_some, List.takeWhile_append_of_pos hname]
  simp

/-- A field has one line with a name; the lines of its attributes have none. -/
theorem filterMap_lines (o : Options) (f : Field) :
    (member o f).lines.filterMap nameAt? = [(member o f).name] := by
  have hrenamed (literal : String) :
      nameAt? ("    #[serde(rename = " ++ literal ++ ")]") = none := by
    simp only [nameAt?, String.toList_append, List.append_assoc]
    rw [after?_append_ne (by decide) (by decide), Option.map_none]
  have hskipped : nameAt? "    #[serde(skip_serializing_if = \"Option::is_none\")]" = none := by
    decide
  rw [Member.lines, List.filterMap_append, List.filterMap_append, List.filterMap_cons,
    nameAt?_line]
  cases (member o f).renamed <;> cases (member o f).skipped <;> simp [hrenamed, hskipped]

/-- The lines of a definition that have names are those of the fields. -/
theorem filterMap_definition (o : Options) (t : ObjectType) :
    (definition o t).filterMap nameAt? = t.fields.map fun f => (member o f).name := by
  have hderive (traits : String) : nameAt? ("#[derive(" ++ traits ++ ")]") = none := by
    simp only [nameAt?, String.toList_append, List.append_assoc]
    rw [after?_append_ne (by decide) (by decide), Option.map_none]
  have hstruct (name : String) : nameAt? ("pub struct " ++ name ++ " \x7b") = none := by
    simp only [nameAt?, String.toList_append, List.append_assoc]
    rw [after?_append_ne (by decide) (by decide), Option.map_none]
  have hclosing : nameAt? "\x7d" = none := by decide
  have hopening : (if o.derives.isEmpty then []
      else ["#[derive(" ++ listed o.derives ++ ")]"]).filterMap nameAt? = [] := by
    split
    · rfl
    · simp [hderive]
  have hfields : ((t.fields.map (member o)).flatMap Member.lines).filterMap nameAt? =
      t.fields.map fun f => (member o f).name := by
    rw [List.filterMap_flatMap, List.flatMap_map, List.map_eq_flatMap]
    simp only [filterMap_lines]
  rw [definition, layout, List.filterMap_append, List.filterMap_append, hopening,
    List.nil_append, List.filterMap_cons_none (hstruct t.name), hfields,
    List.filterMap_cons_none hclosing, List.filterMap_nil, List.append_nil]

/-! ## The law -/

/-- For every edition, all options and every object: the names in the lines of a struct are those of
its fields. The name for a key is a bare keyword if and only if the key tells a single word, and
that is one of the keywords without a mark: those of paths and, in the later edition, a new one.
The name is a word with the mark before it if and only if the key tells that word alone, and it is
one of the other keywords, which all may be raw identifiers. -/
theorem the_keywords_of_paths_stay_bare (e : Edition) (o : Options) (t : ObjectType) :
    (definition o t).filterMap nameAt? = t.fields.map (fun f => (member o f).name) ∧
      ∀ f : Field,
        ((member o f).name ∈ e.keywords ↔
          ∃ w ∈ e.unmarked, Convention.snake.told f.1 = [w]) ∧
        ∀ w, (member o f).name = "r#" ++ w ↔
          w ∈ e.keywords ∧ w ∉ e.unmarked ∧ Convention.snake.told f.1 = [w] := by
  refine ⟨filterMap_definition o t, fun f => ⟨?_, fun w => ?_⟩⟩
  · rw [name_mem_keywords_iff]
    constructor
    · intro h
      exact ⟨_, h, (fieldName_keyword_iff e ((e.unmarked_iff _).mp h).1 f.1).mp rfl⟩
    · rintro ⟨w, hw, htold⟩
      rwa [(fieldName_keyword_iff e ((e.unmarked_iff w).mp hw).1 f.1).mpr htold]
  · rw [name_eq_mark_iff, e.unmarked_iff]
    constructor
    · rintro ⟨hw, hname⟩
      have hkeyword := e.mem_keywords hw
      exact ⟨hkeyword, fun h => h.2 hw, (fieldName_keyword_iff e hkeyword f.1).mp hname⟩
    · rintro ⟨hkeyword, hmarked, htold⟩
      have hw : w ∈ keywords := not_not.mp fun h => hmarked ⟨hkeyword, h⟩
      exact ⟨hw, (fieldName_keyword_iff e hkeyword f.1).mpr htold⟩

/-- The key of one's own place is a field that no compiler reads. -/
theorem the_key_self_is_a_bare_keyword :
    ¬ ∀ (e : Edition) (o : Options) (rootName : String) (v : Json) (t : ObjectType),
      t.shape.Within (Shape.infer rootName v) → ∀ name ∈ (definition o t).filterMap nameAt?,
        name ∉ e.keywords := by
  intro h
  let v : Json := .obj [("self", .null)]
  let t : ObjectType := ⟨"Root", [("self", .scalar .null)]⟩
  have hbare := h .upTo2021 {} "Root" v t (.here _) "self"
  rw [filterMap_definition] at hbare
  revert hbare
  decide

end TypeSketch.Rust
