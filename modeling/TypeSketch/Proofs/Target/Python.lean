-- Python: a member ends in its type or in its value, and an attribute of a typed
-- dictionary may break its line once. A member that may be missing has a default
-- of `None` and a type that holds it; in a typed dictionary it is not required.
import TypeSketch.Proofs.Key.Python
import TypeSketch.Proofs.Target.Line

namespace TypeSketch.Python

open Text Naming

/-! ## Members -/

theorem solid_typeOf {s : Shape} (h : s.NamedByWord) : Solid (typeOf s) := by
  apply Shape.solid_wrapped (fun _ _ => rfl) (fun _ _ => rfl) _ _ _ h
  · intro k
    cases k <;> decide
  · decide
  · exact .inr (by decide)

theorem name_dictMember (o : Options) (f : Field) : (dictMember o f).name = f.1 := by
  unfold dictMember
  split <;> rfl

theorem type_dictMember (o : Options) (f : Field) : (dictMember o f).type =
    if o.optionalProperties then "NotRequired[" ++ typeOf f.2 ++ "]" else typeOf f.2 := by
  unfold dictMember
  split <;> rfl

theorem value_dictMember (o : Options) (f : Field) : (dictMember o f).value = none := by
  unfold dictMember
  split <;> rfl

theorem member_of_dict {o : Options} (h : o.style = .typedDict) : member o = dictMember o := by
  funext f
  simp only [member, h]

/-- The call that keeps a key, given as a literal, where `default` stands before its argument. -/
def Style.keeping (default literal : String) : Style → String
  | pydantic => "Field(" ++ (default ++ ("alias=" ++ literal)) ++ ")"
  | _ => "field(" ++ (default ++ ("metadata=\x7b\"json_key\": " ++ literal ++ "\x7d")) ++ ")"

theorem listed_default (b : Bool) (argument : String) :
    listed ((if b then ["default=None"] else []) ++ [argument]) =
      (if b then "default=None, " else "") ++ argument := by
  cases b
  · simp [listed]
  · apply String.toList_inj.mp
    simp [listed]

/-- A member of a class in one equation: only its value and its imports depend on whether its key
is kept. -/
theorem classMember_eq (o : Options) (f : Field) : classMember o f =
    let kept := memberName f.1 ≠ f.1
    { name := memberName f.1
      type :=
        if o.optionalProperties && typeOf f.2 != "None" then typeOf f.2 ++ " | None"
        else typeOf f.2
      value :=
        if kept then
          some (o.style.keeping (if o.optionalProperties then "default=None, " else "")
            (quote f.1))
        else if o.optionalProperties then some "None" else none
      renamed := if kept then some (quote f.1) else none
      imports := anyImport f.2 ++
        if kept then [if o.style = .pydantic then .modelField else .field] else [] } := by
  by_cases h : memberName f.1 = f.1
  · simp [classMember, h]
  · cases hstyle : o.style <;> simp [classMember, h, hstyle, listed_default, Style.keeping]

/-! ## Lines -/

theorem solid_keeping (style : Style) {default : String} (hdefault : OneLine default)
    (key : String) : Solid (style.keeping default (quote key)) := by
  have hquote := oneLine_quote key
  cases style <;> exact solid_append (by simp +decide [hdefault, hquote]) (by decide)

theorem solid_type (o : Options) {f : Field} (hf : f.2.NamedByWord) :
    Solid (classMember o f).type := by
  rw [type_of]
  split
  · exact solid_append (solid_typeOf hf).1 (by decide)
  · exact solid_typeOf hf

/-- The line of an attribute ends in its type, or in a value that is solid. -/
theorem solid_classLine (o : Options) {f : Field} (hf : f.2.NamedByWord) :
    Solid (classMember o f).line := by
  have hname : OneLine (classMember o f).name := by
    rw [name_of]
    exact (isWord_memberName f.1).oneLine
  have htype := solid_type o hf
  have hvalue : ∀ v, (classMember o f).value = some v → Solid v := by
    intro v hv
    simp only [classMember_eq] at hv
    split at hv
    · rw [← Option.some.inj hv]
      refine solid_keeping o.style ?_ f.1
      split <;> decide
    · split at hv
      · exact Option.some.inj hv ▸ (show Solid "None" by decide)
      · cases hv
  rw [Member.line]
  cases hv : (classMember o f).value with
  | none =>
    rw [String.append_empty]
    exact solid_append (by simp +decide [hname]) htype
  | some v =>
    refine solid_append (by simp +decide [hname, htype.1]) ?_
    exact solid_append (by decide) (hvalue v hv)

theorem solid_dictType (o : Options) {f : Field} (hf : f.2.NamedByWord) :
    Solid (dictMember o f).type := by
  rw [type_dictMember]
  split
  · exact solid_between (solid_typeOf hf).1
  · exact solid_typeOf hf

/-- The line of a member whose key is written as it stands. -/
theorem full_dictLine (o : Options) {f : Field} (hkey : isAttributeName f.1 = true)
    (hf : f.2.NamedByWord) : Full (dictMember o f).line := by
  have hkey : NearLine f.1 := by
    rw [isAttributeName, Bool.and_eq_true] at hkey
    exact nearLine_of_matchesName (fun c hc => isBlank_of_isWordChar ((isStartChar_iff c).mp hc).1)
      (fun c hc => isBlank_of_isWordChar hc) hkey.1
  have hbehind : Solid (": " ++ (dictMember o f).type) :=
    solid_append (by decide) (solid_dictType o hf)
  have hline := hkey.full (show OneLine "    " by decide) hbehind
  rw [Member.line, name_dictMember, value_dictMember, String.append_empty, String.append_assoc]
  exact hline

/-- The body of a class is full, if the lines of its members are. -/
theorem full_body {ms : List Member} (h : ∀ m ∈ ms, Full m.line) : ∀ l ∈ body ms, Full l := by
  intro l hl
  unfold body at hl
  split at hl
  · rw [List.mem_singleton.mp hl]
    exact Solid.full
  · obtain ⟨m, hm, rfl⟩ := List.mem_map.mp hl
    exact h m hm

/-! ## Definitions -/

theorem solid_decorator (o : Options) : Solid (decorator o) := by
  have harguments : ∀ argument ∈ (if o.useFrozen then ["frozen=True"] else []) ++
      (if o.useSlots then ["slots=True"] else []) ++
      (if o.useKwOnly then ["kw_only=True"] else []), OneLine argument := by
    simp only [List.forall_mem_append]
    refine ⟨⟨?_, ?_⟩, ?_⟩ <;> split <;> decide
  refine iteInduction (motive := Solid) (fun _ => by decide) fun _ => ?_
  exact solid_between (oneLine_listed harguments)

theorem neat_dictLines (o : Options) {t : ObjectType} (hname : IsWord t.name)
    (ht : ∀ f ∈ t.fields, f.2.NamedByWord) :
    Neat (dictLines o t.name (t.fields.map (dictMember o))) := by
  have htotal : OneLine (if o.useTotal then "" else ", total=False") := by split <;> decide
  unfold dictLines
  by_cases h : needsCall (t.fields.map (dictMember o)) = true
  · have hcall : Solid (t.name ++ " = TypedDict(" ++ quote t.name ++ ", \x7b") :=
      solid_append (by simp +decide [hname.oneLine, oneLine_quote]) (by decide)
    have hopen : Neat [t.name ++ " = TypedDict(" ++ quote t.name ++ ", \x7b"] := .last hcall.full
    have hmembers : ∀ l ∈ (t.fields.map (dictMember o)).map fun m =>
        "    " ++ quote m.name ++ ": " ++ m.type ++ ",", Full l := by
      simp only [List.forall_mem_map]
      intro f hf
      refine (solid_append ?_ (by decide)).full
      simp +decide [oneLine_quote, (solid_dictType o (ht f hf)).1]
    simp only [if_pos h]
    exact (hopen.append_full hmembers).concat _ (solid_between htotal)
  · have hclass : Solid ("class " ++ t.name ++ "(TypedDict" ++
        (if o.useTotal then "" else ", total=False") ++ "):") :=
      solid_append (by simp +decide [hname.oneLine, htotal]) (by decide)
    have hopen := Neat.last hclass.full
    have hmembers : ∀ m ∈ t.fields.map (dictMember o), Full m.line := by
      intro m hm
      obtain ⟨f, hf, rfl⟩ := List.mem_map.mp hm
      refine full_dictLine o ?_ (ht f hf)
      simp only [needsCall, List.any_map, Function.comp_def, name_dictMember, Bool.not_eq_true,
        List.any_eq_false, Bool.not_eq_false'] at h
      simpa using h f hf
    simp only [if_neg h]
    exact hopen.append_full (full_body hmembers)

theorem neat_definition (o : Options) {t : ObjectType} (hname : IsWord t.name)
    (ht : ∀ f ∈ t.fields, f.2.NamedByWord) : Neat (definition o t) := by
  have hbody : ∀ l ∈ body (t.fields.map (classMember o)), Full l := by
    apply full_body
    intro m hm
    obtain ⟨f, hf, rfl⟩ := List.mem_map.mp hm
    exact (solid_classLine o (ht f hf)).full
  have hclass (ending : String) (hending : Solid ending) : Neat ["class " ++ t.name ++ ending] :=
    .last (solid_append (oneLine_append.mpr ⟨by decide, hname.oneLine⟩) hending).full
  unfold definition layout
  cases hstyle : o.style with
  | typedDict =>
    rw [member_of_dict hstyle]
    exact neat_dictLines o hname ht
  | pydantic =>
    rw [member_of_class (by simp [hstyle])]
    exact (hclass "(BaseModel):" (by decide)).append_full hbody
  | dataclass =>
    rw [member_of_class (by simp [hstyle])]
    exact .next (solid_decorator o).full ((hclass ":" (by decide)).append_full hbody)

/-! ## Imports -/

theorem solid_importLine? {used : List Import} {source : String × List (Import × String)}
    (hsource : OneLine source.1 ∧ ∀ n ∈ source.2, Solid n.2) :
    ∀ l, importLine? used source = some l → Solid l := by
  intro l hl
  unfold importLine? at hl
  split at hl
  · cases hl
  · rename_i hne
    rw [← Option.some.inj hl]
    refine solid_append (by simp +decide [hsource.1]) (solid_listed hne ?_)
    intro name hname
    obtain ⟨n, hn, rfl⟩ := List.mem_map.mp hname
    exact hsource.2 n (List.mem_filter.mp hn).1

theorem neat_importBlocks (used : List Import) : ∀ ls ∈ importBlocks used, Neat ls := by
  have hsources : ∀ g ∈ importGroups, ∀ source ∈ g,
      OneLine source.1 ∧ ∀ n ∈ source.2, Solid n.2 := by
    decide
  intro ls hls
  obtain ⟨hls, hne⟩ := List.mem_filter.mp hls
  obtain ⟨g, hg, rfl⟩ := List.mem_map.mp hls
  apply neat_of_full (by simpa using hne)
  intro l hl
  obtain ⟨source, hsource, hl⟩ := List.mem_filterMap.mp hl
  exact (solid_importLine? (hsources g hg source hsource) l hl).full

/-- The import lines, an empty line between the groups. -/
theorem neatText_header (o : Options) (types : List ObjectType) :
    trimBreaks (header o types) = "" ∨ NeatText (trimBreaks (header o types)) := by
  have hblocks := neat_importBlocks (usedImports o types)
  rw [header, paragraphs_map_unlines fun ls hls => (hblocks ls hls).ne_nil]
  by_cases h : importBlocks (usedImports o types) = []
  · rw [h]
    exact .inl (by decide)
  · exact .inr ((Neat.intercalate h hblocks).neatText_trimBreaks (by simp))

/-! ## Optional members -/

/-- The type of a member that may be missing. -/
def optionalType (o : Options) (type : String) : String :=
  match o.style with
  | .typedDict => "NotRequired[" ++ type ++ "]"
  | _ => if type = "None" then type else type ++ " | None"

/-- A member that may be missing. -/
def Member.optionally (o : Options) (m : Member) : Member :=
  match o.style with
  | .typedDict =>
    { m with type := optionalType o m.type, imports := m.imports ++ [.notRequired] }
  | style =>
    { m with
      type := optionalType o m.type
      value :=
        match m.renamed with
        | none => some "None"
        | some literal => some (style.keeping "default=None, " literal) }

theorem member_optional (o : Options) (f : Field) :
    member { o with optionalProperties := true } f =
      (member { o with optionalProperties := false } f).optionally o := by
  by_cases hdict : o.style = .typedDict
  · simp [member, hdict, dictMember, Member.optionally, optionalType]
  · have hon : member { o with optionalProperties := true } = classMember _ := member_of_class hdict
    have hoff : member { o with optionalProperties := false } = classMember _ :=
      member_of_class hdict
    have hstyle (m : Member) : m.optionally o =
        { m with
          type := if m.type = "None" then m.type else m.type ++ " | None"
          value := some ((m.renamed.map (o.style.keeping "default=None, ")).getD "None") } := by
      unfold Member.optionally optionalType
      cases h : o.style <;> cases hr : m.renamed <;> simp_all
    rw [hon, hoff, hstyle, classMember_eq, classMember_eq]
    by_cases hkept : memberName f.1 = f.1 <;> by_cases hnone : typeOf f.2 = "None" <;>
      simp [hkept, hnone]

/-! ## The imports of members -/

theorem mem_anyImport {i : Import} {s : Shape} :
    i ∈ anyImport s ↔ i = .any ∧ s.innermost = .scalar .any := by
  unfold anyImport
  split
  · rename_i h
    simp [h]
  · rename_i h
    simpa using fun _ hs => h hs

/-- The value of a member is a call of a function. -/
def Member.Calls (m : Member) (callee : String) : Prop :=
  ∃ arguments, m.value = some (callee ++ "(" ++ arguments ++ ")")

/-- The function that keeps a key. -/
def Style.callee : Style → String
  | pydantic => "Field"
  | _ => "field"

theorem keeping_eq (style : Style) (default literal : String) :
    ∃ arguments, style.keeping default literal = style.callee ++ "(" ++ arguments ++ ")" := by
  cases style <;> exact ⟨_, rfl⟩

/-- A member calls that function exactly if its name is not its key. -/
theorem calls_classMember (o : Options) (f : Field) :
    (classMember o f).Calls o.style.callee ↔ memberName f.1 ≠ f.1 := by
  rw [Member.Calls, classMember_eq]
  by_cases h : memberName f.1 = f.1
  · refine iff_of_false ?_ (not_not.mpr h)
    rintro ⟨arguments, hvalue⟩
    simp only [h, ne_eq, not_true_eq_false, if_false] at hvalue
    split at hvalue
    · have hhead := congrArg (fun s : String => s.toList.head?) (Option.some.inj hvalue)
      revert hhead
      cases o.style <;> simp [Style.callee]
    · cases hvalue
  · refine iff_of_true ?_ h
    obtain ⟨arguments, hcall⟩ := keeping_eq o.style
      (if o.optionalProperties then "default=None, " else "") (quote f.1)
    exact ⟨arguments, by simp only [ne_eq, h, not_false_eq_true, if_true, hcall]⟩

theorem mem_imports {o : Options} {f : Field} {i : Import} : i ∈ (member o f).imports ↔
    (i = .any ∧ f.2.innermost = .scalar .any) ∨
      (i = .notRequired ∧ o.style = .typedDict ∧ o.optionalProperties = true) ∨
      (i = .field ∧ o.style = .dataclass ∧ (member o f).Calls "field") ∨
      (i = .modelField ∧ o.style = .pydantic ∧ (member o f).Calls "Field") := by
  by_cases hdict : o.style = .typedDict
  · rw [member_of_dict hdict]
    unfold dictMember
    by_cases hoptional : o.optionalProperties = true
    · simp [hdict, hoptional, mem_anyImport]
    · simp [hdict, hoptional, mem_anyImport]
  · have hcalls := calls_classMember o f
    have himports : i ∈ (classMember o f).imports ↔
        (i = .any ∧ f.2.innermost = .scalar .any) ∨
          (i = (if o.style = .pydantic then .modelField else .field) ∧
            (classMember o f).Calls o.style.callee) := by
      rw [hcalls, classMember_eq, List.mem_append, mem_anyImport]
      by_cases h : memberName f.1 = f.1 <;> simp [h]
    rw [member_of_class hdict, himports]
    cases hstyle : o.style with
    | typedDict => exact absurd hstyle hdict
    | dataclass => simp [Style.callee]
    | pydantic => simp [Style.callee]

theorem mem_usedImports_iff {o : Options} {types : List ObjectType} {i : Import} :
    i ∈ usedImports o types ↔
      i = o.style.base ∨ ∃ t ∈ types, ∃ f ∈ t.fields, i ∈ (member o f).imports := by
  simp [usedImports, List.mem_flatMap]

/-! ## The import of what is not required -/

theorem mem_usedImports {o : Options} (h : o.style = .typedDict) {types : List ObjectType}
    {i : Import} : i ∈ usedImports o types ↔ i = .typedDict ∨
      (i = .any ∧ ∃ t ∈ types, ∃ f ∈ t.fields, f.2.innermost = .scalar .any) ∨
      (i = .notRequired ∧ o.optionalProperties = true ∧ ∃ t ∈ types, t.fields ≠ []) := by
  have himports (f : Field) : i ∈ (member o f).imports ↔
      (i = .any ∧ f.2.innermost = .scalar .any) ∨
        (i = .notRequired ∧ o.optionalProperties = true) := by
    simp [mem_imports, h]
  rw [mem_usedImports_iff, h]
  simp only [Style.base, himports]
  constructor
  · rintro (hi | ⟨t, ht, f, hf, ⟨rfl, hs⟩ | ⟨rfl, hb⟩⟩)
    · exact .inl hi
    · exact .inr (.inl ⟨rfl, t, ht, f, hf, hs⟩)
    · exact .inr (.inr ⟨rfl, hb, t, ht, List.ne_nil_of_mem hf⟩)
  · rintro (hi | ⟨rfl, t, ht, f, hf, hs⟩ | ⟨rfl, hb, t, ht, hne⟩)
    · exact .inl hi
    · exact .inr ⟨t, ht, f, hf, .inl ⟨rfl, hs⟩⟩
    · obtain ⟨f, r, hf⟩ := List.exists_cons_of_ne_nil hne
      exact .inr ⟨t, ht, f, hf ▸ List.mem_cons_self, .inr ⟨rfl, hb⟩⟩

/-- The header of typed dictionaries is one line, with the names that the types use. -/
theorem header_dict {o : Options} (h : o.style = .typedDict) (types : List ObjectType) :
    header o types = "from typing import " ++
      (if .any ∈ usedImports o types then "Any, " else "") ++
        (if .notRequired ∈ usedImports o types then "NotRequired, " else "") ++ "TypedDict\n" := by
  have hdataclass : .dataclass ∉ usedImports o types := by simp [mem_usedImports h]
  have hfield : .field ∉ usedImports o types := by simp [mem_usedImports h]
  have hdict : .typedDict ∈ usedImports o types := by simp [mem_usedImports h]
  have hmodel : .baseModel ∉ usedImports o types := by simp [mem_usedImports h]
  have hmodelField : .modelField ∉ usedImports o types := by simp [mem_usedImports h]
  rw [header, importBlocks, importGroups]
  generalize usedImports o types = used at *
  by_cases hany : .any ∈ used <;> by_cases hrequired : .notRequired ∈ used <;>
    simp [importLine?, hdataclass, hfield, hdict, hmodel, hmodelField, hany, hrequired, listed,
      paragraphs, unlines]

/-- The name that the switch adds to the import line of typed dictionaries. -/
def optionalImport (o : Options) (types : List ObjectType) : String :=
  if o.style = .typedDict ∧ types.any (!·.fields.isEmpty) then "NotRequired, " else ""

theorem header_optional (o : Options) (types : List ObjectType) :
    ∃ before behind, header { o with optionalProperties := false } types = before ++ behind ∧
      header { o with optionalProperties := true } types =
        before ++ optionalImport o types ++ behind := by
  by_cases h : o.style = .typedDict
  · have hoff : ({ o with optionalProperties := false } : Options).style = .typedDict := h
    have hon : ({ o with optionalProperties := true } : Options).style = .typedDict := h
    have hany : Import.any ∈ usedImports { o with optionalProperties := true } types ↔
        Import.any ∈ usedImports { o with optionalProperties := false } types := by
      rw [mem_usedImports hon, mem_usedImports hoff]
      simp
    have hrequired : Import.notRequired ∉
        usedImports { o with optionalProperties := false } types := by
      simp [mem_usedImports hoff]
    refine ⟨"from typing import " ++
      (if Import.any ∈ usedImports { o with optionalProperties := false } types then "Any, "
        else ""), "TypedDict\n", ?_, ?_⟩
    · rw [header_dict hoff, if_neg hrequired, String.append_empty]
    · have hadded : Import.notRequired ∈ usedImports { o with optionalProperties := true } types ↔
          o.style = .typedDict ∧ (types.any fun t => !t.fields.isEmpty) = true := by
        rw [mem_usedImports hon]
        simp [h]
      rw [header_dict hon, optionalImport]
      simp only [hany, hadded]
  · have himports (b : Bool) (f : Field) :
        (member { o with optionalProperties := b } f).imports = (member o f).imports := by
      have hb : member { o with optionalProperties := b } = classMember _ := member_of_class h
      rw [hb, member_of_class h, classMember_eq, classMember_eq]
    have hused (b : Bool) :
        usedImports { o with optionalProperties := b } types = usedImports o types := by
      simp only [usedImports, himports]
    refine ⟨header o types, "", ?_, ?_⟩
    · simp only [header, hused, String.append_empty]
    · simp only [header, hused, optionalImport, h, false_and, if_false, String.append_empty]

end TypeSketch.Python
