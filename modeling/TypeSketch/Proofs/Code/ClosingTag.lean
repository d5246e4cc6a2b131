-- PHP code without the closing tag. The literal in a comment is broken up, it still tells its
-- key, and no other part of the code forms the tag.
import TypeSketch.Proofs.Code.Emitted
import TypeSketch.Proofs.Target.Php

namespace TypeSketch

open Text Naming

namespace Php

theorem breakable_tag : Breakable '?' '>' := ⟨by decide, by decide, by decide⟩

/-! ## Comments -/

/-- The rules by which a literal in a comment is read: those of JSON, with an escape for the end
of the closing tag. -/
def commentLexicon : Lexicon where
  short := ('>', '>') :: shortForms
  numerals := [{ letter := 'u', braced := false, least := 4, most := 4 }]
  plain _ _ := true

theorem keeps_commentLexicon (c : Char) (r : List Char) : commentLexicon.keeps c r = true := by
  rw [Lexicon.keeps]
  split
  · rename_i hc
    exact of_isEscaped (P := fun c => commentLexicon.knows c = true) (by decide) (by decide)
      (by decide) hc
  · rfl

theorem toList_commentLiteral (key : String) :
    (commentLiteral key).toList = '"' :: brokenBody '?' '>' key.toList := by
  rw [commentLiteral, String.toList_ofList, toList_quote, replacePair_cons (by decide)]
  rfl

/-- A comment tells its key. -/
theorem denoted?_commentLiteral (key : String) :
    commentLexicon.denoted? (commentLiteral key) = some key := by
  have hagrees : commentLexicon.Agrees := (by decide : commentLexicon.toEscapes.Agrees)
  have hread := read_brokenBody breakable_tag hagrees keeps_commentLexicon (by decide)
    key.toList []
  rw [List.append_nil] at hread
  rw [Lexicon.denoted?, toList_commentLiteral, List.dropWhile_cons_of_neg (by decide),
    List.tail_cons, hread, Option.map_some, String.ofList_toList]

theorem commentLiteral_injective : Function.Injective commentLiteral := by
  intro k l h
  have hdenoted := denoted?_commentLiteral k
  rw [h, denoted?_commentLiteral] at hdenoted
  exact (Option.some.inj hdenoted).symm

theorem lacks_commentLiteral (key : String) : Lacks '?' '>' (commentLiteral key) := by
  rw [Lacks, commentLiteral, String.toList_ofList]
  exact lacks_replacePair breakable_tag _

theorem not_control_of_mem_commentLiteral {key : String} {c : Char}
    (h : c ∈ (commentLiteral key).toList) : ¬ c.toNat < 0x20 := by
  rw [commentLiteral, String.toList_ofList] at h
  rcases mem_replacePair h with h | h
  · have hall : ∀ c ∈ ['?', '\\', '>'], ¬ c.toNat < 0x20 := by decide
    exact hall c h
  · exact not_control_of_mem_quote h

theorem renamed_eq {o : Options} {f : Field} {literal : String}
    (h : (member o f).renamed = some literal) : literal = commentLiteral f.1 := by
  simp only [member] at h
  split at h
  · cases h
  · exact (Option.some.inj h).symm

theorem comment_eq {m : Member} {literal : String} (h : m.renamed = some literal) :
    m.comment = " // " ++ literal := by
  rw [Member.comment, h]

/-- A line without the last character of the tag lacks the tag, with a comment or without. -/
theorem lacks_commented (o : Options) (f : Field) {l : String} (h : Free '>' l) :
    Lacks '?' '>' (l ++ (member o f).comment) := by
  cases hrenamed : (member o f).renamed with
  | none =>
    have hcomment : (member o f).comment = "" := by rw [Member.comment, hrenamed]
    rw [hcomment, String.append_empty]
    exact lacks_of_second h
  | some literal =>
    rw [comment_eq hrenamed, renamed_eq hrenamed, ← String.append_assoc]
    refine Lacks.append (lacks_of_second ?_) (lacks_commentLiteral f.1) (.inr ?_)
    · simp +decide [h]
    · rw [toList_commentLiteral, List.head?_cons]
      decide

/-! ## Lines -/

theorem free_declaration (o : Options) {f : Field} (hf : f.2.NamedByWord) {c : Char}
    (hc : c ∈ ['/', '>']) : Free c (member o f).declaration := by
  have hmarks : ∀ c ∈ ['/', '>'], isWordChar c = false ∧ Free c "?" ∧ Free c " $" := by decide
  obtain ⟨hword, hoptional, hmark⟩ := hmarks c hc
  have htype : Free c (typeOf f.2) := by
    cases hshape : f.2 with
    | scalar k =>
      have hscalar : IsWord (scalarType k) := by cases k <;> exact ⟨by decide, by decide⟩
      exact hscalar.not_mem hword
    | array n e =>
      have harray : IsWord "array" := ⟨by decide, by decide⟩
      exact harray.not_mem hword
    | object n fs => exact (hf n fs (by rw [hshape]; rfl)).not_mem hword
  have hname : Free c (member o f).name := (isWord_name o f).not_mem hword
  have hslot : Free c (member o f).type := by
    simp only [member]
    split
    · exact free_append.mpr ⟨hoptional, htype⟩
    · exact htype
  rw [Member.declaration]
  exact free_append.mpr ⟨free_append.mpr ⟨hslot, hmark⟩, hname⟩

/-- A parameter stands on a line of its own, with a comma behind it or without. -/
theorem mem_parameterLines {before : String} {after : Member → String} {l : String}
    {ms : List Member} (h : l ∈ parameterLines before after ms) :
    ∃ m ∈ ms, ∃ comma ∈ ["", ","], l = before ++ m.declaration ++ comma ++ after m := by
  fun_induction parameterLines before after ms with
  | case1 => cases h
  | case2 m =>
    rw [List.mem_singleton] at h
    exact ⟨m, List.mem_cons_self, "", by decide, by rw [h, String.append_empty]⟩
  | case3 m r _ ih =>
    rcases List.mem_cons.mp h with h | h
    · exact ⟨m, List.mem_cons_self, ",", by decide, h⟩
    · obtain ⟨n, hn, hl⟩ := ih h
      exact ⟨n, List.mem_cons_of_mem m hn, hl⟩

theorem exists_parameterLine (before : String) (after : Member → String) {m : Member}
    {ms : List Member} (h : m ∈ ms) :
    ∃ comma ∈ ["", ","], before ++ m.declaration ++ comma ++ after m ∈
      parameterLines before after ms := by
  fun_induction parameterLines before after ms with
  | case1 => cases h
  | case2 n =>
    obtain rfl := List.mem_singleton.mp h
    exact ⟨"", by decide, by rw [String.append_empty]; exact List.mem_cons_self⟩
  | case3 n r _ ih =>
    rcases List.mem_cons.mp h with rfl | h
    · exact ⟨",", by decide, List.mem_cons_self⟩
    · obtain ⟨comma, hcomma, hm⟩ := ih h
      exact ⟨comma, hcomma, List.mem_cons_of_mem _ hm⟩

/-- The word before the type of a property that is set once. -/
theorem free_readonly (o : Options) {c : Char} (hc : c ∈ ['/', '>']) :
    Free c (if o.useReadonlyProperties then "readonly " else "") := by
  revert c
  split <;> decide

theorem lacks_parameterLines (o : Options) {fs : List Field} (hfs : ∀ f ∈ fs, f.2.NamedByWord)
    {before : String} (hbefore : Free '>' before) {after : Member → String}
    (hafter : ∀ f ∈ fs, ∀ l, Free '>' l → Lacks '?' '>' (l ++ after (member o f))) :
    ∀ l ∈ parameterLines before after (fs.map (member o)), Lacks '?' '>' l := by
  intro l hl
  obtain ⟨m, hm, comma, hcomma, rfl⟩ := mem_parameterLines hl
  obtain ⟨f, hf, rfl⟩ := List.mem_map.mp hm
  have hall : ∀ comma ∈ ["", ","], Free '>' comma := by decide
  have hdeclaration := free_declaration o (hfs f hf) (c := '>') (by decide)
  exact hafter f hf _
    (free_append.mpr ⟨free_append.mpr ⟨hbefore, hdeclaration⟩, hall comma hcomma⟩)

theorem lacks_definition (o : Options) {t : ObjectType} (hname : Free '>' t.name)
    (ht : ∀ f ∈ t.fields, f.2.NamedByWord) : ∀ l ∈ definition o t, Lacks '?' '>' l := by
  have hreadonly := free_readonly o (c := '>') (by decide)
  have hfixed {ls : List String} (h : ∀ l ∈ ls, Free '>' l) : ∀ l ∈ ls, Lacks '?' '>' l :=
    fun l hl => lacks_of_second (h l hl)
  have hopen : ∀ l ∈ ["class " ++ t.name, "\x7b"], Lacks '?' '>' l :=
    hfixed (by simp +decide [hname])
  unfold definition layout
  simp only [List.forall_mem_append]
  refine ⟨⟨hopen, ?_⟩, hfixed (by decide)⟩
  split
  · have hparameters := lacks_parameterLines o ht
      (free_append.mpr ⟨show Free '>' "        public " by decide, hreadonly⟩)
      fun f _ l hl => lacks_commented o f hl
    rw [List.cons_append, List.forall_mem_cons, List.forall_mem_append]
    exact ⟨lacks_of_second (by decide), hparameters, hfixed (by decide)⟩
  · have hproperties : ∀ l ∈ (t.fields.map (member o)).map fun m => "    public " ++
        (if o.useReadonlyProperties then "readonly " else "") ++ m.declaration ++ ";" ++
          m.comment, Lacks '?' '>' l := by
      simp only [List.forall_mem_map]
      intro f hf
      refine lacks_commented o f ?_
      have hdeclaration := free_declaration o (ht f hf) (c := '>') (by decide)
      simp +decide [hreadonly, hdeclaration]
    have hparameters : ∀ l ∈ parameterLines "        " (fun _ => "") (t.fields.map (member o)),
        Lacks '?' '>' l :=
      lacks_parameterLines o ht (by decide) fun f _ l hl => by simpa using lacks_of_second hl
    have hassignments : ∀ l ∈ (t.fields.map (member o)).map fun m =>
        "        $this->" ++ m.name ++ " = $" ++ m.name ++ ";", Lacks '?' '>' l := by
      simp only [List.forall_mem_map]
      intro f _
      have hmark : Free '?' (member o f).name := (isWord_name o f).free
      refine lacks_of_first ?_
      simp +decide [hmark]
    simp only [List.forall_mem_append]
    exact ⟨⟨⟨⟨⟨hproperties, hfixed (by decide)⟩, hparameters⟩, hfixed (by decide)⟩, hassignments⟩,
      hfixed (by decide)⟩

/-- The line of a definition that holds a comment ends with it, and no slash stands before. -/
theorem exists_line_commented (o : Options) {t : ObjectType}
    (ht : ∀ f ∈ t.fields, f.2.NamedByWord) {f : Field} (hf : f ∈ t.fields) :
    ∃ before, Free '/' before ∧ OneLine before ∧
      before ++ (member o f).comment ∈ definition o t := by
  have hreadonly := free_readonly o (c := '/') (by decide)
  have hreadonlyLine : OneLine (if o.useReadonlyProperties then "readonly " else "") := by
    split <;> decide
  have hslash := free_declaration o (ht f hf) (c := '/') (by decide)
  have hline := (solid_declaration o (ht f hf)).1
  by_cases h : o.useConstructorPromotion = true
  · have hcommas : ∀ comma ∈ ["", ","], Free '/' comma ∧ OneLine comma := by decide
    obtain ⟨comma, hcomma, hmem⟩ := exists_parameterLine
      ("        public " ++ if o.useReadonlyProperties then "readonly " else "") Member.comment
      (List.mem_map_of_mem (f := member o) hf)
    refine ⟨("        public " ++ if o.useReadonlyProperties then "readonly " else "") ++
      (member o f).declaration ++ comma, ?_, ?_, ?_⟩
    · simp +decide [hreadonly, hslash, hcommas comma hcomma]
    · simp +decide [hreadonlyLine, hline, hcommas comma hcomma]
    · unfold definition layout
      simp only [if_pos h]
      exact List.mem_append_left _ (List.mem_append_right _
        (List.mem_append_left _ (List.mem_cons_of_mem _ hmem)))
  · refine ⟨"    public " ++ (if o.useReadonlyProperties then "readonly " else "") ++
      (member o f).declaration ++ ";", ?_, ?_, ?_⟩
    · simp +decide [hreadonly, hslash]
    · simp +decide [hreadonlyLine, hline]
    · unfold definition layout
      simp only [if_neg h, List.mem_append, List.mem_map]
      exact .inl (.inr (.inl (.inl (.inl (.inl (.inl ⟨_, ⟨f, hf, rfl⟩, rfl⟩))))))

theorem lacks_header (o : Options) (hname : Lacks '?' '>' o.nameSpace) :
    Lacks '?' '>' (header o) := by
  have hclause : Lacks '?' '>' ("namespace " ++ o.nameSpace ++ ";") :=
    ((lacks_of_second (by decide)).append hname (.inl (by decide))).append
      (lacks_of_second (by decide)) (.inr (by decide))
  have hfixed {ls : List String} (h : ∀ l ∈ ls, Free '>' l) : ∀ l ∈ ls, Lacks '?' '>' l :=
    fun l hl => lacks_of_second (h l hl)
  refine (lacks_unlines (by decide) (by decide) ?_).append (lacks_of_second (by decide))
    (.inr (by decide))
  simp only [List.forall_mem_append]
  refine ⟨⟨hfixed (by decide), ?_⟩, ?_⟩
  · split
    · exact hfixed (by decide)
    · exact hfixed (by simp)
  · split
    · exact hfixed (by simp)
    · rw [List.forall_mem_cons, List.forall_mem_singleton]
      exact ⟨lacks_of_second (by decide), hclause⟩

/-! ## Code -/

/-- Where the root and the namespace form no closing tag, no key does. -/
theorem lacks_generate (o : Options) (hroot : Free '>' o.rootName)
    (hname : Lacks '?' '>' o.nameSpace) (v : Json) :
    Lacks '?' '>' ((LanguageOptions.php o).generate v) := by
  by_cases htypes : ((LanguageOptions.php o).rootShape v).types = []
  · have hempty : (LanguageOptions.php o).generate v = "" :=
      LanguageOptions.code_eq_empty.mpr htypes
    rw [hempty]
    exact lacks_of_second (free_empty '>')
  · rw [LanguageOptions.generate_eq htypes, LanguageOptions.parts,
      LanguageOptions.definitions_eq]
    refine (lacks_paragraphs (by decide) (by decide) ?_).tidy (by decide) (by decide)
    rw [List.forall_mem_append, List.forall_mem_map]
    constructor
    · split
      · simp
      · rw [List.forall_mem_singleton]
        exact (lacks_header o hname).trimBreaks
    · intro t ht
      have hwithin := Shape.within_of_mem_types ht
      have hlines := lacks_definition o (Shape.not_mem_name_of_within (by decide) hroot hwithin)
        fun f hf => Shape.namedByWord_of_within hwithin hf
      exact (lacks_unlines (by decide) (by decide) hlines).trimBreaks

theorem opens_definition (o : Options) (t : ObjectType) : Opens (definition o t) := by
  simp [definition, layout, Opens]

theorem closes_definition (o : Options) (t : ObjectType) : Closes (definition o t) :=
  closes_concat (by decide) (by decide) _

/-- The line of the code that holds a comment. -/
theorem exists_line_renamed {o : Options} {v : Json} {t : ObjectType}
    (ht : t ∈ ((LanguageOptions.php o).rootShape v).types) {f : Field} (hf : f ∈ t.fields)
    {literal : String} (h : (member o f).renamed = some literal) :
    ∃ before, Free '/' before ∧
      before ++ " // " ++ literal ∈ lines ((LanguageOptions.php o).generate v) := by
  have hwithin := Shape.within_of_mem_types ht
  obtain ⟨before, hslash, hline, hmem⟩ := exists_line_commented o
    (fun f hf => Shape.namedByWord_of_within hwithin hf) hf
  have hsolid : Solid (before ++ (member o f).comment) := by
    refine solid_append hline ((comment_cases o f).resolve_left ?_)
    rw [comment_eq h]
    intro hempty
    simpa using congrArg String.toList hempty
  have hlines := mem_lines_trimBreaks (opens_definition o t) (closes_definition o t) hmem hsolid.1
  have hcode := LanguageOptions.mem_lines_generate ht hlines hsolid
  rw [comment_eq h, ← String.append_assoc] at hcode
  exact ⟨before, hslash, hcode⟩

end Php

end TypeSketch
