-- Keys in Swift: where some property does not have the name of its key, an
-- enumeration lists all properties, and its cases tell the keys. Otherwise there
-- is no enumeration, and the properties tell the keys themselves.
import TypeSketch.Proofs.Key.Reader
import TypeSketch.Proofs.Shape.Expression
import TypeSketch.Target.Swift

namespace TypeSketch.Swift

open Text Naming Key

/-! ## Members -/

theorem spelled_typeOf {s : Shape} (h : s.NamedByWord) :
    Shape.Spelled ['[', ']'] (typeOf s) := by
  apply Shape.spelled_wrapped (fun _ _ => rfl) (fun _ _ => rfl) _ _ _ h
  · intro k
    cases k <;> decide
  · decide
  · decide

theorem renamed_of (o : Options) (f : Field) :
    (member o f).renamed = if fieldName .camel f.1 = f.1 then none else some (quote f.1) := by
  simp only [member, fieldName]
  rfl

/-! ## Lines -/

/-- The line that opens the enumeration of the keys. -/
def enumLine : String := "    enum CodingKeys: String, CodingKey \x7b"

/-- The property in a line of a definition. -/
def propertyAt? (s : List Char) : Option Told :=
  (after? "    let " s).map fun r => ⟨firstWord r, none⟩

/-- The property in a line of the enumeration. -/
def caseAt? (s : List Char) : Option Told :=
  (after? "        case " s).map fun r =>
    ⟨firstWord r, (literalAfter? " = " (r.dropWhile isWordChar)).map (·.1)⟩

theorem propertyAt?_line (o : Options) (f : Field) :
    propertyAt? (member o f).line.toList = some ⟨fieldName .camel f.1, none⟩ := by
  have hname : (member o f).name = fieldName .camel f.1 := rfl
  have hline : (member o f).line.toList = "    let ".toList ++ ((fieldName .camel f.1).toList ++
      ':' :: ' ' :: (member o f).type.toList) := by
    simp [Member.line, hname]
  rw [hline, propertyAt?, after?_append, Option.map_some,
    firstWord_append (isWord_fieldName .camel f.1) (by decide)]

/-- What follows the name in the case of a property. -/
def Member.tail (m : Member) : String :=
  match m.renamed with
  | some literal => " = " ++ literal
  | none => ""

theorem tail_of (o : Options) (f : Field) :
    (member o f).tail = if fieldName .camel f.1 = f.1 then "" else " = " ++ quote f.1 := by
  rw [Member.tail, renamed_of]
  by_cases h : fieldName .camel f.1 = f.1
  · rw [if_pos h, if_pos h]
  · rw [if_neg h, if_neg h]

theorem keyLine_eq (m : Member) : m.keyLine = "        case " ++ (m.name ++ m.tail) := by
  have hline : m.keyLine = "        case " ++ m.name ++ m.tail := rfl
  rw [hline, String.append_assoc]

/-- The case of a property tells its name, and the key where it is another text. -/
theorem caseAt?_keyLine (o : Options) (f : Field) :
    caseAt? (member o f).keyLine.toList = some (Told.of (fieldName .camel f.1) f.1) := by
  have hword := isWord_fieldName .camel f.1
  have hname : (member o f).name = fieldName .camel f.1 := rfl
  rw [keyLine_eq, hname, tail_of, String.toList_append, String.toList_append, caseAt?,
    after?_append, Option.map_some]
  by_cases h : fieldName .camel f.1 = f.1
  · rw [if_pos h, String.toList_empty, List.append_nil, firstWord_word hword,
      dropWhile_onlyWord hword, Told.of_same h]
    rfl
  · have htail : (" = " ++ quote f.1).toList = " = ".toList ++ ((quote f.1).toList ++ []) := by
      simp
    have hspace (r : List Char) : " = ".toList ++ r = ' ' :: ("= ".toList ++ r) := rfl
    rw [if_neg h, htail, hspace, firstWord_append hword (by decide),
      dropWhile_word hword (by decide), ← hspace, literalAfter?_append, Told.of_renamed h]
    rfl

/-- No property of a definition is a case. -/
theorem caseAt?_line (m : Member) : inlineLine caseAt? m.line = .other := by
  have hline : m.line.toList = "    let ".toList ++ (m.name ++ ": " ++ m.type).toList := by
    simp [Member.line]
  rw [inlineLine, hline, caseAt?, after?_append_ne (by decide) (by decide)]
  rfl

/-! ## Definitions -/

/-- The line before the properties of a type. -/
def opening (o : Options) (name : String) : List String :=
  [if o.useStruct then "struct " ++ name ++ ": Codable \x7b"
    else "class " ++ name ++ ": Codable, Equatable \x7b"]

/-- The reader of Swift definitions: the cases of the enumeration tell the keys, where there is
one. -/
def reader (o : Options) : Reader where
  identifier := fieldName .camel
  opening := opening o
  told ls :=
    collect (inlineLine (if enumLine ∈ ls then caseAt? else propertyAt?)) none ls

theorem identifier_reader (o : Options) : (reader o).identifier = fieldName .camel := by
  simp only [reader]

/-- Some property does not have the name of its key. -/
def Renames (fs : List Field) : Prop := ∃ f ∈ fs, fieldName .camel f.1 ≠ f.1

/-- The lines behind the opening of a definition, where `keys` are those of the enumeration. -/
def behind (o : Options) (fs : List Field) (keys : List String) : List String :=
  (fs.map fun f => (member o f).line) ++ (keys ++ ["\x7d"])

/-- The lines of the enumeration. -/
def enumeration (o : Options) (fs : List Field) : List String :=
  ["", enumLine] ++ ((fs.map fun f => (member o f).keyLine) ++ ["    \x7d"])

theorem same_of_not_renames {fs : List Field} (h : ¬ Renames fs) {f : Field} (hf : f ∈ fs) :
    fieldName .camel f.1 = f.1 :=
  Decidable.not_not.mp fun hne => h ⟨f, hf, hne⟩

theorem codingKeys_renames (o : Options) (hkeys : o.useCodingKeys = true) {fs : List Field}
    (h : Renames fs) : codingKeys o (fs.map (member o)) = enumeration o fs := by
  have hany : ((fs.map (member o)).any (·.renamed.isSome)) = true := by
    obtain ⟨f, hf, hne⟩ := h
    rw [List.any_eq_true]
    exact ⟨member o f, List.mem_map_of_mem hf, by rw [renamed_of, if_neg hne]; rfl⟩
  rw [codingKeys, hkeys, hany]
  simp [enumeration, enumLine, Function.comp_def]

theorem codingKeys_same (o : Options) {fs : List Field} (h : ¬ Renames fs) :
    codingKeys o (fs.map (member o)) = [] := by
  have hany : ((fs.map (member o)).any (·.renamed.isSome)) = false := by
    rw [List.any_eq_false]
    rintro m hm
    obtain ⟨f, hf, rfl⟩ := List.mem_map.mp hm
    simp [renamed_of, same_of_not_renames h hf]
  rw [codingKeys, hany, Bool.and_false]
  rfl

theorem definition_eq (o : Options) (t : ObjectType) : definition o t =
    opening o t.name ++ behind o t.fields (codingKeys o (t.fields.map (member o))) := by
  simp [definition, layout, opening, behind, Function.comp_def]

theorem oneLine_line (o : Options) {f : Field} (hf : f.2.NamedByWord) :
    OneLine (member o f).line := by
  have hname : OneLine (member o f).name := (isWord_fieldName .camel f.1).oneLine
  have htype : OneLine (member o f).type := by
    have := (spelled_typeOf hf).oneLine (by decide)
    simp only [member]
    split
    · simp +decide [this]
    · exact this
  rw [Member.line]
  simp +decide [hname, htype]

theorem oneLine_keyLine (o : Options) (f : Field) : OneLine (member o f).keyLine := by
  have hname : OneLine (member o f).name := (isWord_fieldName .camel f.1).oneLine
  rw [keyLine_eq, tail_of]
  split
  · simp +decide [hname]
  · simp +decide [hname, oneLine_quote]

theorem oneLine_enumeration (o : Options) (fs : List Field) :
    ∀ l ∈ enumeration o fs, OneLine l := by
  intro l hl
  rcases List.mem_append.mp hl with hl | hl
  · have hall : ∀ l ∈ ["", enumLine], OneLine l := by decide
    exact hall l hl
  · rcases List.mem_append.mp hl with hl | hl
    · obtain ⟨f, _, rfl⟩ := List.mem_map.mp hl
      exact oneLine_keyLine o f
    · rw [List.mem_singleton.mp hl]
      decide

theorem oneLine_behind (o : Options) {fs : List Field} (hfs : ∀ f ∈ fs, f.2.NamedByWord)
    {keys : List String} (hkeys : ∀ l ∈ keys, OneLine l) : ∀ l ∈ behind o fs keys, OneLine l := by
  intro l hl
  rcases List.mem_append.mp hl with hl | hl
  · obtain ⟨f, hf, rfl⟩ := List.mem_map.mp hl
    exact oneLine_line o (hfs f hf)
  · rcases List.mem_append.mp hl with hl | hl
    · exact hkeys l hl
    · rw [List.mem_singleton.mp hl]
      decide

/-- The lines behind the opening are the properties, the enumeration if some property does not
have the name of its key, and the end. -/
theorem linesBehind_definition (o : Options) (hkeys : o.useCodingKeys = true) (t : ObjectType)
    (ht : ∀ f ∈ t.fields, f.2.NamedByWord) :
    ((reader o).linesBehind t.name (trimBreaks (unlines (definition o t)))) =
      behind o t.fields (codingKeys o (t.fields.map (member o))) := by
  have hopens : Opens (opening o t.name) := by
    rw [opening]
    split
    · simp [Opens]
    · simp [Opens]
  have hlines : ∀ l ∈ codingKeys o (t.fields.map (member o)), OneLine l := by
    by_cases h : Renames t.fields
    · rw [codingKeys_renames o hkeys h]
      exact oneLine_enumeration o t.fields
    · rw [codingKeys_same o h]
      simp
  rw [definition_eq]
  refine ((reader o).linesBehind_trimBreaks hopens ?_).trans ?_
  · exact (closes_concat (by decide) (by decide) _).append _
  · exact flatMap_lines (oneLine_behind o ht hlines)

theorem line_ne_enumLine (m : Member) : m.line ≠ enumLine := by
  have hline : m.line = "    let " ++ (m.name ++ ": " ++ m.type) := by
    simp only [Member.line, String.append_assoc]
  rw [hline, enumLine]
  intro h
  simpa using congrArg String.toList h

/-- The enumeration stands in a definition exactly where some property does not have the name of
its key. -/
theorem enumLine_mem_behind (o : Options) (hkeys : o.useCodingKeys = true) (fs : List Field) :
    enumLine ∈ behind o fs (codingKeys o (fs.map (member o))) ↔ Renames fs := by
  constructor
  · intro hm
    by_cases h : Renames fs
    · exact h
    · rw [codingKeys_same o h, behind, List.nil_append, List.mem_append] at hm
      rcases hm with hm | hm
      · obtain ⟨f, _, hline⟩ := List.mem_map.mp hm
        exact absurd hline (line_ne_enumLine _)
      · exact absurd (List.mem_singleton.mp hm) (by decide)
  · intro h
    rw [codingKeys_renames o hkeys h, behind, enumeration]
    simp

/-- The cases of the enumeration tell the keys of all properties. -/
theorem collect_cases (o : Options) (fs : List Field) :
    collect (inlineLine caseAt?) none (behind o fs (enumeration o fs)) =
      fs.map fun f => Told.of (fieldName .camel f.1) f.1 := by
  have hlines := sequenced_map fun f => (member o f).keyLine
  have hcase : ∀ f ∈ fs, Tells (inlineLine caseAt?) [(member o f).keyLine]
      [Told.of (fieldName .camel f.1) f.1] :=
    fun f _ => tells_member (inlineLine_member (caseAt?_keyLine o f))
  have hproperties : Tells (inlineLine caseAt?) (fs.map fun f => (member o f).line) [] := by
    apply tells_others
    intro l hl
    obtain ⟨f, _, rfl⟩ := List.mem_map.mp hl
    exact caseAt?_line (member o f)
  have hopen : Tells (inlineLine caseAt?) ["", enumLine] [] := tells_others (by decide)
  have hclose : Tells (inlineLine caseAt?) ["    \x7d"] [] := tells_others (by decide)
  have hend : Tells (inlineLine caseAt?) ["\x7d"] [] := tells_others (by decide)
  have hall := hproperties.append
    ((hopen.append ((hlines.tells hcase hcase).append hclose)).append hend)
  simpa [behind, enumeration, collect] using hall []

/-- No line of the enumeration is that of a property. -/
theorem propertyAt?_enumeration (o : Options) (fs : List Field) :
    ∀ l ∈ enumeration o fs, inlineLine propertyAt? l = .other := by
  intro l hl
  rcases List.mem_append.mp hl with hl | hl
  · have hall : ∀ l ∈ ["", enumLine], inlineLine propertyAt? l = .other := by decide
    exact hall l hl
  · rcases List.mem_append.mp hl with hl | hl
    · obtain ⟨f, _, rfl⟩ := List.mem_map.mp hl
      rw [keyLine_eq, inlineLine, String.toList_append, propertyAt?,
        after?_append_ne (by decide) (by decide)]
      rfl
    · rw [List.mem_singleton.mp hl]
      decide

/-- The lines of the properties tell all names, also beside an enumeration. -/
theorem collect_properties (o : Options) (fs : List Field) {keys : List String}
    (hkeys : ∀ l ∈ keys, inlineLine propertyAt? l = .other) :
    collect (inlineLine propertyAt?) none (behind o fs keys) =
      fs.map fun f => ⟨fieldName .camel f.1, none⟩ := by
  have hlines := sequenced_map fun f => (member o f).line
  have hproperty : ∀ f ∈ fs, Tells (inlineLine propertyAt?) [(member o f).line]
      [⟨fieldName .camel f.1, none⟩] :=
    fun f _ => tells_member (inlineLine_member (propertyAt?_line o f))
  have hend : Tells (inlineLine propertyAt?) ["\x7d"] [] := tells_others (by decide)
  have hall := (hlines.tells hproperty hproperty).append ((tells_others hkeys).append hend)
  simpa [behind, collect] using hall []

/-- With coding keys a definition tells every key. -/
theorem read_definition (o : Options) (hkeys : o.useCodingKeys = true) (t : ObjectType)
    (ht : ∀ f ∈ t.fields, f.2.NamedByWord) :
    (reader o).read t.name (trimBreaks (unlines (definition o t))) =
      t.fields.map fun f => Told.of (fieldName .camel f.1) f.1 := by
  have henum := enumLine_mem_behind o hkeys t.fields
  rw [Reader.read, linesBehind_definition o hkeys t ht]
  simp only [reader]
  by_cases h : Renames t.fields
  · rw [if_pos (henum.mpr h), codingKeys_renames o hkeys h]
    exact collect_cases o t.fields
  · rw [if_neg fun hm => h (henum.mp hm), codingKeys_same o h, collect_properties o _ (by simp)]
    apply List.map_congr_left
    intro f hf
    rw [Told.of_same (same_of_not_renames h hf)]

/-- The lines of a definition have an enumeration if and only if some property does not have the
name of its key, and then its cases are all the properties, in order. -/
structure Enumerates (fs : List Field) (ls : List String) : Prop where
  present : enumLine ∈ ls ↔ ∃ f ∈ fs, fieldName .camel f.1 ≠ f.1
  properties : (collect (inlineLine propertyAt?) none ls).map Told.identifier =
    fs.map fun f => fieldName .camel f.1
  cases : enumLine ∈ ls → (collect (inlineLine caseAt?) none ls).map Told.identifier =
    fs.map fun f => fieldName .camel f.1

theorem enumerates_definition (o : Options) (hkeys : o.useCodingKeys = true) (t : ObjectType)
    (ht : ∀ f ∈ t.fields, f.2.NamedByWord) :
    Enumerates t.fields
      ((reader o).linesBehind t.name (trimBreaks (unlines (definition o t)))) := by
  have henum := enumLine_mem_behind o hkeys t.fields
  rw [linesBehind_definition o hkeys t ht]
  refine ⟨henum, ?_, fun hm => ?_⟩
  · have hother : ∀ l ∈ codingKeys o (t.fields.map (member o)),
        inlineLine propertyAt? l = .other := by
      by_cases h : Renames t.fields
      · rw [codingKeys_renames o hkeys h]
        exact propertyAt?_enumeration o t.fields
      · rw [codingKeys_same o h]
        simp
    rw [collect_properties o t.fields hother, List.map_map]
    rfl
  · rw [codingKeys_renames o hkeys (henum.mp hm), collect_cases, List.map_map]
    rfl

end TypeSketch.Swift
