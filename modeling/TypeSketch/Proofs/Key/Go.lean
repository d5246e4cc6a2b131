-- Keys in the tags of Go. A tag is a raw literal around a quoted text, and of this text
-- only the part before the first comma is the name of a field. A key is quoted for the
-- inner literal alone, so not every key is read back.
import TypeSketch.Proofs.Key.Word
import TypeSketch.Proofs.Target.Go
import TypeSketch.Proofs.Text.Lexicon

namespace TypeSketch

open Text Naming Key

namespace Go

/-! ## The rules for tags -/

/-- The escapes of Go, but for those of bytes by octal digits, which no quoted key has. -/
def escapes : Escapes where
  short := [('a', '\x07'), ('b', '\x08'), ('f', '\x0c'), ('n', '\n'), ('r', '\r'), ('t', '\t'),
    ('v', '\x0b'), ('\\', '\\'), ('"', '"')]
  numerals := [{ letter := 'x', braced := false, least := 2, most := 2 },
    { letter := 'u', braced := false, least := 4, most := 4 },
    { letter := 'U', braced := false, least := 8, most := 8 }]

/-- The quoted texts of Go. -/
def lexicon : Lexicon where
  toEscapes := escapes
  plain c _ := c != '\n'

/-- The backquote, which stands around raw literals. -/
def rawMark : Char := '\x60'

/-- The raw literal in a line: what stands between a backquote and the next one. -/
def rawLiteral? (s : List Char) : Option (List Char) :=
  match s.dropWhile (· != rawMark) with
  | _ :: r => if rawMark ∈ r then some (r.takeWhile (· != rawMark)) else none
  | [] => none

/-- The text that a tag has for documents. -/
def tagText? (tag : List Char) : Option (List Char) :=
  (after? "json:" tag).bind fun
    | '"' :: r => (lexicon.read 0 r).map (·.1)
    | _ => none

/-- What stands before the first comma of a text. -/
def untilComma (text : List Char) : List Char := text.takeWhile (· != ',')

/-- The key of a field whose tag has a text. A lone hyphen takes the field out of documents, and
where nothing stands before the first comma, the key is the name of the field. -/
def keyOf? (name : String) (text : List Char) : Option String :=
  if text = ['-'] then none
  else some (if untilComma text = [] then name else String.ofList (untilComma text))

/-- The key of the field in a line. -/
def keyAt? (line : String) : Option String :=
  (after? "\t" line.toList).bind fun r =>
    ((rawLiteral? r).bind tagText?).bind (keyOf? (firstWord r))

/-! ## Lines -/

theorem keeps_lexicon (c : Char) (s behind : List Char) :
    lexicon.keeps c (literalBody s ++ '"' :: behind) = true := by
  rw [Lexicon.keeps]
  split
  · rename_i hc
    exact of_isEscaped (P := fun c => escapes.knows c = true) (by decide) (by decide) (by decide) hc
  · rename_i hc
    simpa [lexicon] using ne_of_not_isEscaped hc (by decide)

theorem agrees_lexicon : lexicon.Agrees := (by decide : escapes.Agrees)

theorem tagText?_quote (s : List Char) :
    tagText? ("json:".toList ++ '"' :: (literalBody s ++ ['"'])) = some s := by
  have hread : lexicon.read 0 (literalBody s ++ ['"']) = some (s, []) :=
    Lexicon.read_literalBody agrees_lexicon (fun c r => keeps_lexicon c r []) fun _ _ _ => rfl
  rw [tagText?, after?_append, Option.bind_some]
  simp only [hread]
  rfl

theorem tagText?_open (s : List Char) :
    tagText? ("json:".toList ++ '"' :: literalBody s) = none := by
  rw [tagText?, after?_append, Option.bind_some]
  simp only [Lexicon.read_open agrees_lexicon, Option.map_none]

theorem spelled_typeOf (o : Options) {s : Shape} (h : s.NamedByWord) :
    Shape.Spelled ['[', ']', '*', '\x7b', '\x7d'] (typeOf o s) := by
  refine Shape.spelled_typeOf (fun k => ?_) (fun n e he => ?_) (fun n fs hn => ?_) h
  · rw [typeOf]
    cases k <;> decide
  · rw [typeOf]
    exact Shape.Spelled.append (by decide) he
  · rw [typeOf]
    split
    · exact Shape.Spelled.append (by decide) (Shape.spelled_word hn)
    · exact Shape.spelled_word hn

/-- Nothing of a text without a backquote is passed over, or left. -/
theorem bne_rawMark {s : List Char} (h : rawMark ∉ s) : ∀ c ∈ s, (c != rawMark) = true :=
  fun _ hc => bne_iff_ne.mpr (ne_of_mem_of_not_mem hc h)

/-- A raw literal goes up to the next backquote. -/
theorem rawLiteral?_append {before inner : List Char} (hbefore : rawMark ∉ before)
    (hinner : rawMark ∉ inner) (behind : List Char) :
    rawLiteral? (before ++ rawMark :: (inner ++ rawMark :: behind)) = some inner := by
  rw [rawLiteral?, List.dropWhile_append_of_pos (bne_rawMark hbefore),
    List.dropWhile_cons_of_neg (by simp)]
  simp only
  rw [if_pos (by simp), List.takeWhile_append_of_pos (bne_rawMark hinner),
    List.takeWhile_cons_of_neg (by simp), List.append_nil]

/-- The text of a tag is read, unless it holds a backquote. -/
theorem tagText?_rawLiteral? {before : List Char} (hbefore : rawMark ∉ before) (s : List Char) :
    (rawLiteral? (before ++ rawMark ::
        ("json:".toList ++ '"' :: (literalBody s ++ ['"']) ++ [rawMark]))).bind tagText? =
      if rawMark ∈ s then none else some s := by
  have hbody {t : List Char} (ht : rawMark ∉ t) : rawMark ∉ literalBody t :=
    fun h => ht (mem_of_mem_literalBody (by decide) h)
  by_cases h : rawMark ∈ s
  · -- the literal ends inside the quoted text, so the closing quote is not in it
    obtain ⟨as, bs, rfl, has⟩ := List.eq_append_cons_of_mem h
    have hsplit :
        "json:".toList ++ '"' :: (literalBody (as ++ rawMark :: bs) ++ ['"']) ++ [rawMark] =
        ("json:".toList ++ '"' :: literalBody as) ++ rawMark ::
          (literalBody bs ++ ['"', rawMark]) := by
      have hmark : literalChar rawMark = [rawMark] := by decide
      simp [literalBody, hmark]
    have hinner : rawMark ∉ "json:".toList ++ '"' :: literalBody as := by
      simp +decide [hbody has]
    rw [hsplit, rawLiteral?_append hbefore hinner, Option.bind_some, tagText?_open, if_pos h]
  · have hinner : rawMark ∉ "json:".toList ++ '"' :: (literalBody s ++ ['"']) := by
      simp +decide [hbody h]
    rw [rawLiteral?_append hbefore hinner, Option.bind_some, tagText?_quote, if_neg h]

/-! ## Keys -/

/-- Whether the text of a tag has a mark behind the key. -/
def Options.marksEmpty (o : Options) : Bool := o.omitEmpty || o.optionalProperties

theorem toList_tagValue (o : Options) (key : String) : (tagValue o key).toList =
    key.toList ++ if o.marksEmpty then ",omitempty".toList else [] := by
  rw [tagValue, ← Options.marksEmpty]
  split <;> simp

theorem rawMark_mem_tagValue (o : Options) (key : String) :
    rawMark ∈ (tagValue o key).toList ↔ rawMark ∈ key.toList := by
  have hmark : rawMark ∉ ",omitempty".toList := by decide
  rw [toList_tagValue, List.mem_append, or_iff_left]
  split
  · exact hmark
  · exact List.not_mem_nil

/-- The mark begins with a comma, so it adds nothing to the name. -/
theorem untilComma_tagValue (o : Options) (key : String) :
    untilComma (tagValue o key).toList = untilComma key.toList := by
  rw [toList_tagValue, untilComma, untilComma, List.takeWhile_append]
  split
  · rename_i hall
    have hnone : (if o.marksEmpty then ",omitempty".toList else []).takeWhile (· != ',') = [] := by
      split <;> decide
    rw [hnone, List.append_nil]
    exact ((List.takeWhile_prefix _).eq_of_length hall).symm
  · rfl

theorem tagValue_eq_hyphen (o : Options) (key : String) :
    (tagValue o key).toList = ['-'] ↔ key = "-" ∧ o.marksEmpty = false := by
  rw [toList_tagValue]
  cases o.marksEmpty with
  | false => simp [← String.toList_inj]
  | true =>
    refine iff_of_false (fun h => ?_) (by simp)
    have hcomma : ',' ∈ key.toList ++ ",omitempty".toList := by simp
    rw [if_pos rfl] at h
    rw [h] at hcomma
    revert hcomma
    decide

/-- The text before a comma is the whole text where there is no comma. -/
theorem untilComma_eq_iff (key : String) :
    String.ofList (untilComma key.toList) = key ↔ ',' ∉ key.toList := by
  rw [← String.toList_inj, String.toList_ofList, untilComma, List.takeWhile_eq_self_iff]
  simp [List.forall_mem_ne']

/-- The key that the text of a tag gives. -/
theorem keyOf?_tagValue (o : Options) (name key : String) : keyOf? name (tagValue o key).toList =
    if key = "-" ∧ o.marksEmpty = false then none
    else some (if untilComma key.toList = [] then name
      else String.ofList (untilComma key.toList)) := by
  simp only [keyOf?, tagValue_eq_hyphen, untilComma_tagValue]

/-- No name of a field is its key where a comma comes first. -/
theorem keyOf?_eq_some_iff (o : Options) {name : String} (hname : IsWord name) (key : String) :
    keyOf? name (tagValue o key).toList = some key ↔
      key ≠ "" ∧ ',' ∉ key.toList ∧ ¬ (key = "-" ∧ o.marksEmpty = false) := by
  rw [keyOf?_tagValue]
  by_cases hhyphen : key = "-" ∧ o.marksEmpty = false
  · simp [hhyphen]
  rw [if_neg hhyphen, Option.some.injEq]
  by_cases hnone : untilComma key.toList = []
  · rw [if_pos hnone]
    refine iff_of_false ?_ ?_
    · rintro rfl
      have hself := (untilComma_eq_iff name).mpr (hname.not_mem (by decide))
      rw [hnone] at hself
      exact hname.ne_nil (hself ▸ rfl)
    · rintro ⟨hne, hcomma, -⟩
      have hself := (untilComma_eq_iff key).mpr hcomma
      rw [hnone] at hself
      exact hne hself.symm
  · rw [if_neg hnone, untilComma_eq_iff]
    have hne : key ≠ "" := by
      rintro rfl
      exact hnone rfl
    simp [hne, hhyphen]

/-- The line of a field tells the key that the text of its tag gives, unless the key holds a
backquote. -/
theorem keyAt?_line (o : Options) (htag : o.useJsonTag = true) {f : Field}
    (hf : f.2.NamedByWord) : keyAt? (member o f).line =
      if rawMark ∈ f.1.toList then none
      else keyOf? (member o f).name (tagValue o f.1).toList := by
  have hword : IsWord (member o f).name := isWord_memberName f.1
  have hbefore : rawMark ∉ (member o f).name.toList ++ ' ' :: ((typeOf o f.2).toList ++ [' ']) := by
    have htype : rawMark ∉ (typeOf o f.2).toList :=
      (spelled_typeOf o hf).not_mem (by decide) (by decide)
    have hspace : rawMark ≠ ' ' := by decide
    simp [hword.not_mem (show isWordChar rawMark = false by decide), htype, hspace]
  have hline : (member o f).line.toList = "\t".toList ++ ((member o f).name.toList ++
      ' ' :: ((typeOf o f.2).toList ++ [' '] ++ rawMark :: ("json:".toList ++
        '"' :: (literalBody (tagValue o f.1).toList ++ ['"']) ++ [rawMark]))) := by
    have htext : (member o f).line = "\t" ++ (member o f).name ++ " " ++ typeOf o f.2 ++
        (" \x60json:" ++ quote (tagValue o f.1) ++ "\x60") := by
      simp [Member.line, member, htag]
    simp [htext, toList_quote, rawMark]
  have hread := tagText?_rawLiteral? hbefore (tagValue o f.1).toList
  rw [List.append_assoc, List.cons_append] at hread
  rw [keyAt?, hline, after?_append, Option.bind_some, firstWord_append hword (by decide), hread]
  simp only [rawMark_mem_tagValue]
  split <;> rfl

/-! ## The law -/

/-- For every object of a document and all options with tags: the line of a field stands in the
definition, and by the rules for tags it tells no key if the key holds a backquote, or if it is a
hyphen and nothing is marked behind it; otherwise it tells what stands before the first comma of the
key, and the name of the field where this is nothing. So it tells the key if and only if that is not
empty, holds neither a backquote nor a comma, and is no hyphen without a mark behind it. -/
theorem a_tag_tells_its_key_unless_a_rule_takes_it_for_another (o : Options)
    (htag : o.useJsonTag = true) (rootName : String) (v : Json) (t : ObjectType)
    (ht : t.shape.Within (Shape.infer rootName v)) (f : Field) (hf : f ∈ t.fields) :
    let hyphen := f.1 = "-" ∧ o.omitEmpty = false ∧ o.optionalProperties = false
    (member o f).line ∈ definition o t ∧
      (keyAt? (member o f).line =
        if '\x60' ∈ f.1.toList ∨ hyphen then none
        else some (if untilComma f.1.toList = [] then (member o f).name
          else String.ofList (untilComma f.1.toList))) ∧
      (keyAt? (member o f).line = some f.1 ↔
        f.1 ≠ "" ∧ '\x60' ∉ f.1.toList ∧ ',' ∉ f.1.toList ∧ ¬ hyphen) := by
  intro hyphen
  have hmarks : o.marksEmpty = false ↔ o.omitEmpty = false ∧ o.optionalProperties = false :=
    Bool.or_eq_false_iff
  have hread := keyAt?_line o htag (Shape.namedByWord_of_within ht hf)
  rw [rawMark] at hread
  have hline : (member o f).line ∈ definition o t := by
    have hmem := List.mem_map_of_mem (f := Member.line) (List.mem_map_of_mem (f := member o) hf)
    exact List.mem_append_left _ (List.mem_cons_of_mem _ hmem)
  refine ⟨hline, ?_, ?_⟩
  · rw [hread]
    by_cases hmark : '\x60' ∈ f.1.toList
    · rw [if_pos hmark, if_pos (.inl hmark)]
    · rw [if_neg hmark, keyOf?_tagValue]
      simp only [hmarks, hmark, false_or, hyphen]
  · rw [hread]
    by_cases hmark : '\x60' ∈ f.1.toList
    · simp [hmark]
    · have hname : IsWord (member o f).name := isWord_memberName f.1
      rw [if_neg hmark, keyOf?_eq_some_iff o hname, hmarks]
      simp only [hmark, not_false_eq_true, true_and, hyphen]

/-- A hyphen is told where an empty field is marked. -/
theorem a_hyphen_with_a_mark_is_told :
    let v : Json := .obj [("-", .bool true)]
    let f : Field := ("-", .scalar .boolean)
    let t : ObjectType := ⟨"Root", [f]⟩
    let o : Options := {}
    o.useJsonTag = true ∧ t.shape.Within (Shape.infer "Root" v) ∧ f ∈ t.fields ∧
      (member o f).line = "\tField bool \x60json:\"-,omitempty\"\x60" ∧
      keyAt? (member o f).line = some "-" := by
  intro v f t o
  have ht : t.shape.Within (Shape.infer "Root" v) := .here _
  have hf : f ∈ t.fields := List.mem_singleton_self f
  have hlaw :=
    (a_tag_tells_its_key_unless_a_rule_takes_it_for_another o rfl "Root" v t ht f hf).2.2
  exact ⟨rfl, ht, hf, by decide, hlaw.mpr (by decide)⟩

/-- The tag of a key need not tell it: without a mark a hyphen takes its field out of documents. -/
theorem a_hyphen_without_a_mark_is_not_told :
    ¬ ∀ o : Options, o.useJsonTag = true → ∀ (rootName : String) (v : Json) (t : ObjectType),
      t.shape.Within (Shape.infer rootName v) → ∀ f ∈ t.fields,
        keyAt? (member o f).line = some f.1 := by
  intro h
  have htold := h { omitEmpty := false } rfl "Root" (.obj [("-", .num (.whole 1))])
    ⟨"Root", [("-", .scalar .number)]⟩ (.here _) _ (List.mem_singleton_self _)
  revert htold
  decide

end Go

end TypeSketch
