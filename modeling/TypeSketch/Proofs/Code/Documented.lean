-- Documentation blocks of JavaScript. The mark that closes a comment stands at the end of
-- blocks only: a literal inside is broken up, and no other part of the code holds a slash.
import TypeSketch.Proofs.Code.Emitted
import TypeSketch.Proofs.Target.JavaScript

namespace TypeSketch

open Text Naming

/-! ## Documentation blocks -/

/-- Lines of code with documentation blocks between them, if there may be any. The mark that
closes a comment stands in the last line of each block and nowhere else. -/
inductive Documented (docs : Prop) : List String → Prop
  | nil : Documented docs []
  | code {l : String} {ls : List String} : Lacks '*' '/' l → Documented docs ls →
      Documented docs (l :: ls)
  | block {body ls : List String} : docs → (∀ l ∈ body, Lacks '*' '/' l) → Documented docs ls →
      Documented docs ("/**" :: (body ++ " */" :: ls))

namespace Documented

variable {docs : Prop} {ls ms : List String}

theorem of_forall (h : ∀ l ∈ ls, Lacks '*' '/' l) : Documented docs ls := by
  induction ls with
  | nil => exact .nil
  | cons l r ih =>
    rw [List.forall_mem_cons] at h
    exact .code h.1 (ih h.2)

theorem append (hls : Documented docs ls) (hms : Documented docs ms) :
    Documented docs (ls ++ ms) := by
  induction hls with
  | nil => exact hms
  | code hl _ ih => exact .code hl ih
  | block hdocs hbody _ ih =>
    rw [List.cons_append, List.append_assoc, List.cons_append]
    exact .block hdocs hbody ih

/-- Cut into their lines, they stay so. -/
theorem cut (h : Documented docs ls) : Documented docs (ls.flatMap lines) := by
  induction h with
  | nil => exact .nil
  | code hl _ ih => exact (of_forall fun m hm => hl.of_mem_lines hm).append ih
  | block hdocs hbody _ ih =>
    rw [List.flatMap_cons, List.flatMap_append, List.flatMap_cons, lines_oneLine (by decide),
      lines_oneLine (by decide), List.singleton_append, List.singleton_append]
    refine .block hdocs (fun m hm => ?_) ih
    obtain ⟨l, hl, hm⟩ := List.mem_flatMap.mp hm
    exact (hbody l hl).of_mem_lines hm

theorem lacks_empty : Lacks '*' '/' "" := lacks_of_first (free_empty '*')

theorem lacks_of_mem_tidyLines (h : ∀ l ∈ ls, Lacks '*' '/' l) {blanks : Nat} {l : String}
    (hl : l ∈ Code.tidyLines blanks ls) : Lacks '*' '/' l := by
  rcases mem_tidyLines hl with rfl | ⟨m, hm, rfl⟩
  · exact lacks_empty
  · exact (h m hm).trimEnd

/-- The last touch leaves the blocks where they are. -/
theorem tidyLines (h : Documented docs ls) (blanks : Nat) :
    Documented docs (Code.tidyLines blanks ls) := by
  induction h generalizing blanks with
  | nil => exact .nil
  | code hl _ ih =>
    rw [Code.tidyLines]
    split
    · split
      · exact .code lacks_empty (ih _)
      · exact ih _
    · exact .code hl.trimEnd (ih _)
  | @block body ls hdocs hbody _ ih =>
    have hopen : trimEnd "/**" = "/**" := by decide
    have hclose : trimEnd " */" = " */" := by decide
    have hlines := tidyLines_append (m := " */") (by decide) 0 body ls
    rw [Code.tidyLines.eq_2, hopen, if_neg (by decide), hlines, hclose]
    exact .block hdocs (fun l hl => lacks_of_mem_tidyLines hbody hl) (ih _)

/-- Parts with an empty line between neighbours. -/
theorem paragraphs {parts : List String} (hne : parts ≠ [])
    (h : ∀ s ∈ parts, Documented docs (lines s)) : Documented docs (lines (paragraphs parts)) := by
  induction parts with
  | nil => exact absurd rfl hne
  | cons s r ih =>
    rw [List.forall_mem_cons] at h
    cases r with
    | nil => simpa [Text.paragraphs] using h.1
    | cons t r =>
      rw [lines_paragraphs_cons s (List.cons_ne_nil t r)]
      exact h.1.append (.code lacks_empty (ih (List.cons_ne_nil t r) h.2))

end Documented

/-! ## Lines of JavaScript -/

namespace JavaScript

theorem lacks_commentLiteral (key : String) : Lacks '*' '/' (commentLiteral key) := by
  rw [Lacks, commentLiteral, String.toList_ofList]
  exact lacks_replacePair breakable_end _

theorem free_name (f : Field) : Free '/' (member f).name := (isWord_name f).free

theorem free_typeOf {s : Shape} (hs : s.NamedByWord) {c : Char} (hc : c ∈ ['/', '"']) :
    Free c (typeOf s) := by
  have hmarks : ∀ c ∈ ['/', '"'], isWordChar c = false ∧ c ∉ ['<', '>', '*'] := by decide
  exact (spelled_typeOf hs).not_mem (hmarks c hc).1 (hmarks c hc).2

/-- A description ends in the literal of the key, and nothing else in it is quoted. -/
theorem docLine_renamed {f : Field} (hf : f.2.NamedByWord) {literal : String}
    (h : (member f).renamed = some literal) :
    ∃ before, Free '/' before ∧ Free '"' before ∧ (member f).docLine = before ++ literal := by
  have hslash : Free '/' (member f).type := free_typeOf hf (by decide)
  have hquote : Free '"' (member f).type := free_typeOf hf (by decide)
  have hname : Free '"' (member f).name := (isWord_name f).free
  have htail : (member f).tail = " - JSON key " ++ literal := by rw [Member.tail, h]
  refine ⟨" * @property \x7b" ++ (member f).type ++ "\x7d " ++ (member f).name ++ " - JSON key ",
    ?_, ?_, ?_⟩
  · simp +decide [hslash, free_name f]
  · simp +decide [hquote, hname]
  · rw [docLine_tail, htail, ← String.append_assoc]

theorem renamed_eq {f : Field} {literal : String} (h : (member f).renamed = some literal) :
    literal = commentLiteral f.1 := by
  simp only [member] at h
  split at h
  · cases h
  · exact (Option.some.inj h).symm

theorem head?_commentLiteral (key : String) : (commentLiteral key).toList.head? = some '"' := by
  rw [toList_commentLiteral, List.head?_cons]

theorem lacks_docLine {f : Field} (hf : f.2.NamedByWord) : Lacks '*' '/' (member f).docLine := by
  cases h : (member f).renamed with
  | none =>
    have htype : Free '/' (member f).type := free_typeOf hf (by decide)
    have htail : (member f).tail = "" := by rw [Member.tail, h]
    rw [docLine_tail, htail, String.append_empty]
    refine lacks_of_second ?_
    simp +decide [htype, free_name f]
  | some literal =>
    obtain ⟨before, hslash, -, hline⟩ := docLine_renamed hf h
    obtain rfl := renamed_eq h
    rw [hline]
    refine (lacks_of_second hslash).append (lacks_commentLiteral f.1) (.inr ?_)
    rw [head?_commentLiteral]
    decide

theorem free_parameters (fs : List Field) : Free '/' (parameters (fs.map member)) := by
  refine free_listed (by decide) ?_
  simp only [List.forall_mem_map]
  exact fun f _ => free_name f

theorem free_check (f : Field) : ∀ l, (member f).check? = some l → Free '/' l := by
  have hname := free_name f
  intro l hl
  unfold Member.check? at hl
  split at hl
  all_goals first
    | rw [← Option.some.inj hl]
      simp +decide [hname]
    | cases hl

theorem free_templateValue (s : Shape) : Free '/' (templateValue s) := by
  unfold templateValue
  split <;> decide

theorem documented_docBlock (o : Options) {body ls : List String}
    (hbody : ∀ l ∈ body, Lacks '*' '/' l) (hls : ∀ l ∈ ls, Free '/' l) :
    Documented (o.useJsDoc = true) (docBlock o body ++ ls) := by
  have hcode : Documented (o.useJsDoc = true) ls :=
    .of_forall fun l hl => lacks_of_second (hls l hl)
  unfold docBlock
  split
  · rename_i h
    have hblock : ("/**" :: body ++ [" */"]) ++ ls = "/**" :: (body ++ " */" :: ls) := by simp
    rw [hblock]
    exact .block h hbody hcode
  · exact hcode

/-- The description of a type by its name and its properties. -/
theorem lacks_description {title : String} (htitle : Free '/' title) {name : String}
    (hname : Free '/' name) {fs : List Field} (hfs : ∀ f ∈ fs, f.2.NamedByWord) :
    ∀ l ∈ (title ++ name) :: (fs.map member).map Member.docLine, Lacks '*' '/' l := by
  rw [List.forall_mem_cons]
  refine ⟨lacks_of_second (free_append.mpr ⟨htitle, hname⟩), ?_⟩
  simp only [List.forall_mem_map]
  exact fun f hf => lacks_docLine (hfs f hf)

theorem documented_classLines (o : Options) {name : String} (hname : Free '/' name)
    {fs : List Field} (hfs : ∀ f ∈ fs, f.2.NamedByWord) :
    Documented (o.useJsDoc = true) (classLines o name (fs.map member)) := by
  have hparameters := free_parameters fs
  refine documented_docBlock o (lacks_description (by decide) hname hfs) ?_
  split
  all_goals
    simp only [List.forall_mem_append, List.forall_mem_cons, List.forall_mem_map]
    simp +decide [hname, hparameters, free_name]

theorem documented_factoryLines (o : Options) {name : String} (hname : Free '/' name)
    (fs : List Field) :
    Documented (o.useJsDoc = true) (factoryLines o name (fs.map member)) := by
  have hparameters := free_parameters fs
  refine documented_docBlock o (fun l hl => lacks_of_second ?_) ?_
  · revert l
    simp +decide [hname]
  · simp +decide [hname, hparameters]

theorem documented_validatorLines (o : Options) {name : String} (hname : Free '/' name)
    (fs : List Field) :
    Documented (o.useJsDoc = true) (validatorLines o name (fs.map member)) := by
  have hchecks : ∀ l ∈ ((fs.map member).filterMap Member.check?).map ("  " ++ ·), Free '/' l := by
    intro l hl
    obtain ⟨check, hcheck, rfl⟩ := List.mem_map.mp hl
    obtain ⟨m, hm, hcheck⟩ := List.mem_filterMap.mp hcheck
    obtain ⟨f, _, rfl⟩ := List.mem_map.mp hm
    exact free_append.mpr ⟨by decide, free_check f check hcheck⟩
  rw [validatorLines, List.append_assoc, List.append_assoc]
  refine documented_docBlock o (fun l hl => lacks_of_second ?_) ?_
  · revert l
    simp +decide [hname]
  · rw [List.forall_mem_append, List.forall_mem_append]
    exact ⟨by simp +decide [hname], hchecks, by decide⟩

theorem documented_templateLines (o : Options) {name : String} (hname : Free '/' name)
    {fs : List Field} (hfs : ∀ f ∈ fs, f.2.NamedByWord) :
    Documented (o.useJsDoc = true) (templateLines o name (fs.map member)) := by
  have htemplate : Free '/' (templateName name) :=
    free_append.mpr ⟨fun hm => hname (mem_of_mem_toSmall (by decide) hm), by decide⟩
  have hkeyword : Free '/' (if o.useEs6 then "const " else "var ") := by split <;> decide
  rw [templateLines, List.append_assoc]
  refine documented_docBlock o (lacks_description (by decide) hname hfs) ?_
  simp only [List.forall_mem_append, List.forall_mem_cons, List.forall_mem_map]
  simp +decide [htemplate, hkeyword, free_name, free_templateValue]

theorem documented_definition (o : Options) {t : ObjectType} (hname : Free '/' t.name)
    (ht : ∀ f ∈ t.fields, f.2.NamedByWord) :
    Documented (o.useJsDoc = true) (definition o t) := by
  have hfollowed {ls : List String} (hls : Documented (o.useJsDoc = true) ls) (b : Bool) :
      Documented (o.useJsDoc = true) (if b then "" :: ls else []) := by
    split
    · exact .code Documented.lacks_empty hls
    · exact .nil
  unfold definition
  by_cases h : o.useClass = true
  · simp only [if_pos h]
    exact ((documented_classLines o hname ht).append
      (hfollowed (documented_factoryLines o hname t.fields) _)).append
      (hfollowed (documented_validatorLines o hname t.fields) _)
  · simp only [if_neg h]
    exact documented_templateLines o hname ht

/-! ## Code -/

theorem opens_definition (o : Options) (t : ObjectType) : Opens (definition o t) := by
  unfold definition classLines templateLines docBlock Opens
  cases o.useClass <;> cases o.useJsDoc <;> cases o.useEs6 <;> simp

theorem closes_definition (o : Options) (t : ObjectType) : Closes (definition o t) := by
  by_cases h : o.useClass = true
  · obtain ⟨code, hcode, hlines⟩ := classLines_eq o t.name (t.fields.map member)
    have hclass : Closes (classLines o t.name (t.fields.map member)) := hlines ▸ hcode.append _
    have hfactory := closes_followed hclass (closes_factoryLines o t.name (t.fields.map member))
      o.generateFactory
    have hall := closes_followed hfactory
      (closes_validatorLines o t.name (t.fields.map member)) o.generateValidator
    simpa [definition, h] using hall
  · obtain ⟨code, hcode, hlines⟩ := templateLines_eq o t.name (t.fields.map member)
    have hall : Closes (templateLines o t.name (t.fields.map member)) := hlines ▸ hcode.append _
    simpa [definition, h] using hall

theorem parts_eq (o : Options) (types : List ObjectType) :
    (LanguageOptions.javascript o).parts types =
      types.map fun t => trimBreaks (unlines (definition o t)) := by
  have hhead : trimBreaks ((LanguageOptions.javascript o).header types) = "" := by
    rw [LanguageOptions.header]
    decide
  rw [LanguageOptions.parts, hhead, if_pos rfl, List.nil_append, LanguageOptions.definitions_eq]
  rfl

/-- Under a root without a slash the closing mark stands only where a block ends. -/
theorem documented_generate (o : Options) (hroot : Free '/' o.rootName) (v : Json) :
    Documented (o.useJsDoc = true) (lines ((LanguageOptions.javascript o).generate v)) := by
  by_cases htypes : ((LanguageOptions.javascript o).rootShape v).types = []
  · have hempty : (LanguageOptions.javascript o).generate v = "" :=
      LanguageOptions.code_eq_empty.mpr htypes
    rw [hempty, lines_oneLine (by decide)]
    exact .code Documented.lacks_empty .nil
  · rw [LanguageOptions.generate_eq htypes, lines_tidy, parts_eq]
    refine (Documented.paragraphs (by simpa using htypes) ?_).tidyLines 0
    rw [List.forall_mem_map]
    intro t ht
    have hwithin := Shape.within_of_mem_types ht
    have hname : Free '/' t.name := Shape.not_mem_name_of_within (by decide) hroot hwithin
    rw [lines_trimBreaks (opens_definition o t) (closes_definition o t)]
    exact (documented_definition o hname fun f hf => Shape.namedByWord_of_within hwithin hf).cut

/-- The line of the code that describes a property with another name than its key. -/
theorem exists_line_renamed {o : Options} (hdocs : o.useJsDoc = true) {v : Json} {t : ObjectType}
    (ht : t ∈ ((LanguageOptions.javascript o).rootShape v).types) {f : Field} (hf : f ∈ t.fields)
    {literal : String} (h : (member f).renamed = some literal) :
    ∃ before, Free '"' before ∧
      before ++ literal ∈ lines ((LanguageOptions.javascript o).generate v) := by
  have hnamed := Shape.namedByWord_of_within (Shape.within_of_mem_types ht) hf
  obtain ⟨before, -, hquote, hline⟩ := docLine_renamed hnamed h
  obtain ⟨code, -, hdefinition⟩ := definition_eq o hdocs t
  have hmem : (member f).docLine ∈ definition o t := by
    rw [hdefinition]
    exact List.mem_append_right _ (List.mem_append_left _ (List.mem_map_of_mem hf))
  have hsolid := solid_docLine hnamed
  have hlines := mem_lines_trimBreaks (opens_definition o t) (closes_definition o t) hmem hsolid.1
  exact ⟨before, hquote, hline ▸ LanguageOptions.mem_lines_generate ht hlines hsolid⟩

end JavaScript

end TypeSketch
