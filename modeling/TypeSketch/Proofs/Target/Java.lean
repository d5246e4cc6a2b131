-- Java: annotations end in brackets or words, declarations in names and marks, and
-- only the comparison of two objects spreads over several lines. A member that may
-- be missing has its type inside `Optional`, boxed, where that is in use.
import TypeSketch.Proofs.Key.Java
import TypeSketch.Proofs.Naming.Case
import TypeSketch.Proofs.Target.Line

namespace TypeSketch.Java

open Text Naming

/-! ## Members -/

/-- Every annotation that keeps a key ends in a bracket. -/
theorem solid_rename (lib : Serialization) (key : String) :
    ∀ text ∈ (lib.rename? (quote key)).toList, Solid text := by
  intro text htext
  cases lib <;>
    simp only [Serialization.rename?, Option.toList_none, Option.toList_some, List.not_mem_nil,
      List.mem_singleton] at htext <;> rw [htext] <;>
    exact solid_between (oneLine_quote key)

theorem solid_annotations (o : Options) (f : Field) :
    ∀ l ∈ (member o f).annotations, Solid l := by
  intro l hl
  obtain ⟨text, htext, rfl⟩ := List.mem_map.mp hl
  refine solid_append (by decide) ?_
  rcases List.mem_append.mp htext with htext | htext
  · simp only [member] at htext
    split at htext
    · cases htext
    · exact solid_rename o.serialization f.1 text htext
  · rcases validation_cases o f text htext with rfl | rfl <;> decide

theorem isWord_name (o : Options) (f : Field) : IsWord (member o f).name :=
  isWord_fieldName .camel f.1

theorem oneLine_type (o : Options) {f : Field} (hf : f.2.NamedByWord) :
    OneLine (member o f).type := (spelled_type o hf).oneLine (by decide)

/-- The lines of a member are solid, where its declaration ends in its name or in a mark. -/
theorem solid_block (o : Options) {f : Field} (hf : f.2.NamedByWord) {before behind : String}
    (hbefore : OneLine before) (hbehind : behind = "" ∨ Solid behind) :
    ∀ l ∈ (member o f).block before behind, Solid l := by
  intro l hl
  rcases List.mem_append.mp hl with hl | hl
  · exact solid_annotations o f l hl
  · have hplain : Solid ("    " ++ before ++ (member o f).type ++ " " ++ (member o f).name) := by
      refine solid_append ?_ (isWord_name o f).solid
      simp +decide [hbefore, oneLine_type o hf]
    rw [List.mem_singleton.mp hl, Member.declaration]
    rcases hbehind with rfl | hbehind
    · rwa [String.append_empty]
    · exact solid_append hplain.1 hbehind

theorem neat_block (o : Options) {f : Field} (hf : f.2.NamedByWord) {before behind : String}
    (hbefore : OneLine before) (hbehind : behind = "" ∨ Solid behind) :
    Neat ((member o f).block before behind) :=
  neat_of_full (by simp [Member.block]) fun l hl =>
    (solid_block o hf hbefore hbehind l hl).full

/-! ## Methods -/

theorem neat_accessorLines (o : Options) {f : Field} (hf : f.2.NamedByWord) {ls : List String}
    (hls : Neat ls) : Neat (ls ++ (member o f).accessorLines) := by
  have hname := (isWord_name o f).oneLine
  have htype := oneLine_type o hf
  have haccessor : OneLine (member o f).accessor := oneLine_pascal _
  have hreturn : Solid ("        return " ++ (member o f).name ++ ";") :=
    solid_append (by simp +decide [hname]) (by decide)
  have hassign : Solid ("        this." ++ (member o f).name ++ " = " ++ (member o f).name ++
      ";") :=
    solid_append (by simp +decide [hname]) (by decide)
  have hget : Solid ("    public " ++ (member o f).type ++ " get" ++ (member o f).accessor ++
      "() \x7b") :=
    solid_append (by simp +decide [htype, haccessor]) (by decide)
  have hset : Solid ("    public void set" ++ (member o f).accessor ++ "(" ++ (member o f).type ++
      " " ++ (member o f).name ++ ") \x7b") :=
    solid_append (by simp +decide [haccessor, htype, hname]) (by decide)
  have hclose : Full "    \x7d" := Solid.full
  have hgetter : Neat ["    public " ++ (member o f).type ++ " get" ++ (member o f).accessor ++
      "() \x7b", "        return " ++ (member o f).name ++ ";", "    \x7d"] :=
    .next hget.full (.next hreturn.full (.last hclose))
  have hsetter : Neat ["    public void set" ++ (member o f).accessor ++ "(" ++
      (member o f).type ++ " " ++ (member o f).name ++ ") \x7b",
      "        this." ++ (member o f).name ++ " = " ++ (member o f).name ++ ";", "    \x7d"] :=
    .next hset.full (.next hassign.full (.last hclose))
  have hall := (hls.append_gap hgetter).append_gap hsetter
  simpa [Member.accessorLines] using hall

theorem neat_allAccessors (o : Options) {fs : List Field} (hfs : ∀ f ∈ fs, f.2.NamedByWord)
    {ls : List String} (hls : Neat ls) :
    Neat (ls ++ (fs.map (member o)).flatMap Member.accessorLines) := by
  induction fs generalizing ls with
  | nil => simpa using hls
  | cons f r ih =>
    rw [List.forall_mem_cons] at hfs
    rw [List.map_cons, List.flatMap_cons, ← List.append_assoc]
    exact ih hfs.2 (neat_accessorLines o hfs.1 hls)

/-- Comparisons are joined over several lines, and each of these ends in a mark. -/
theorem full_comparisons {items : List String} (hne : items ≠ []) (h : ∀ s ∈ items, OneLine s)
    {before : String} (hbefore : OneLine before) :
    Full (before ++ " &&\n               ".intercalate items ++ ";") := by
  induction items generalizing before with
  | nil => exact absurd rfl hne
  | cons s r ih =>
    rw [List.forall_mem_cons] at h
    cases r with
    | nil =>
      rw [String.intercalate_singleton]
      exact (solid_append (oneLine_append.mpr ⟨hbefore, h.1⟩) (by decide)).full
    | cons t r =>
      have hfirst : Solid (before ++ s ++ " &&") :=
        solid_append (oneLine_append.mpr ⟨hbefore, h.1⟩) (by decide)
      have hrest := ih (List.cons_ne_nil t r) h.2 (show OneLine "               " by decide)
      have htext : before ++ " &&\n               ".intercalate (s :: t :: r) ++ ";" =
          before ++ s ++ " &&" ++ "\n" ++ ("               " ++
            " &&\n               ".intercalate (t :: r) ++ ";") := by
        apply String.toList_inj.mp
        simp [String.intercalate_cons_cons]
      rw [htext]
      exact hfirst.full.newline hrest

theorem full_equalsExpression (o : Options) (fs : List Field) :
    Full ("        return " ++ equalsExpression (fs.map (member o)) ++ ";") := by
  cases fs with
  | nil =>
    have hline : Solid "        return true;" := by decide
    exact hline.full
  | cons f r =>
    rw [equalsExpression, if_neg (by simp)]
    refine full_comparisons (by simp) ?_ (by decide)
    simp only [List.forall_mem_map]
    intro f _
    simp +decide [(isWord_name o f).oneLine]

theorem neat_equalsLines (o : Options) {name : String} (hname : IsWord name) (fs : List Field)
    {ls : List String} (hls : Neat ls) :
    Neat (ls ++ equalsLines name (fs.map (member o))) := by
  have hcast : Solid ("        " ++ name ++ " that = (" ++ name ++ ") o;") :=
    solid_append (by simp +decide [hname.oneLine]) (by decide)
  have hnames : OneLine (listed ((fs.map (member o)).map Member.name)) := by
    apply oneLine_listed
    simp only [List.forall_mem_map]
    intro f _
    exact (isWord_name o f).oneLine
  have hhash : Solid ("        return Objects.hash(" ++ listed ((fs.map (member o)).map Member.name)
      ++ ");") :=
    solid_between hnames
  have hequals : Neat ["    @Override", "    public boolean equals(Object o) \x7b",
      "        if (this == o) return true;",
      "        if (o == null || getClass() != o.getClass()) return false;",
      "        " ++ name ++ " that = (" ++ name ++ ") o;",
      "        return " ++ equalsExpression (fs.map (member o)) ++ ";", "    \x7d"] := by
    have hconstant : ∀ l ∈ ["    @Override", "    public boolean equals(Object o) \x7b",
        "        if (this == o) return true;",
        "        if (o == null || getClass() != o.getClass()) return false;"], Solid l := by
      decide
    have hopen := neat_of_full (List.cons_ne_nil _ _) fun l hl => (hconstant l hl).full
    exact hopen.append (.next hcast.full
      (.next (full_equalsExpression o fs) (.last Solid.full)))
  have hhashCode : Neat ["    @Override", "    public int hashCode() \x7b",
      "        return Objects.hash(" ++ listed ((fs.map (member o)).map Member.name) ++ ");",
      "    \x7d"] :=
    .next Solid.full (.next Solid.full
      (.next hhash.full (.last Solid.full)))
  have hall := (hls.append_gap hequals).append_gap hhashCode
  simpa [equalsLines] using hall

/-! ## Definitions -/

theorem neat_opening (o : Options) {name : String} (hname : IsWord name) :
    Neat (opening o name) := by
  have hline {before behind : String} (hbefore : OneLine before) (hbehind : Solid behind) :
      Full (before ++ name ++ behind) :=
    (solid_append (oneLine_append.mpr ⟨hbefore, hname.oneLine⟩) hbehind).full
  unfold opening
  cases o.classStyle with
  | record => exact .last (hline (by decide) (by decide))
  | pojo => exact .last (hline (by decide) (by decide))
  | lombok =>
    have hdata : Neat (["@Data"] ++ if o.generateBuilder then ["@Builder"] else []) := by
      split
      · exact .next Solid.full (.last Solid.full)
      · exact .last Solid.full
    exact hdata.append (.next Solid.full
      (.next Solid.full (.last (hline (by decide) (by decide)))))
  | immutables =>
    exact .next Solid.full (.last (hline (by decide) (by decide)))

theorem neat_definition (o : Options) {t : ObjectType} (hname : IsWord t.name)
    (ht : ∀ f ∈ t.fields, f.2.NamedByWord) : Neat (definition o t) := by
  have hopen := neat_opening o hname
  have hgroups {before behind : String} (hbefore : OneLine before) (hbehind : Solid behind) :
      ∀ ls ∈ (t.fields.map (member o)).map (·.block before behind), Neat ls := by
    simp only [List.forall_mem_map]
    intro f hf
    exact neat_block o (ht f hf) hbefore (.inr hbehind)
  cases hstyle : o.classStyle with
  | record =>
    have hcomponents : ∀ l ∈ commaEnded ((t.fields.map (member o)).map fun m =>
        (m.annotations, "    " ++ m.type ++ " " ++ m.name)), Full l := by
      have hlines := sequenced_record.map (member o)
      refine hlines.forall_mem (P := Full) (fun f hf l hl => ?_) fun f hf l hl => ?_
      · exact (solid_block o (ht f hf) (by decide) (.inl rfl) l hl).full
      · rw [List.append_nil] at hl
        exact (solid_block o (ht f hf) (by decide) (.inr (by decide)) l hl).full
    have hall := (hopen.append_full hcomponents).concat ") \x7b\x7d"
    simpa [definition, layout, recordLines, opening, hstyle] using hall
  | pojo =>
    have hfields : ∀ l ∈ (t.fields.map (member o)).flatMap Member.fieldLines, Full l := by
      intro l hl
      obtain ⟨m, hm, hl⟩ := List.mem_flatMap.mp hl
      obtain ⟨f, hf, rfl⟩ := List.mem_map.mp hm
      rw [fieldLines_eq] at hl
      exact (solid_block o (ht f hf) (by decide) (.inr (by decide)) l hl).full
    have haccessors := neat_allAccessors o ht (hopen.append_full hfields)
    have hequals {ls : List String} (hls : Neat ls) : Neat (ls ++
        if o.generateEquals then equalsLines t.name (t.fields.map (member o)) else []) := by
      split
      · exact neat_equalsLines o hname t.fields hls
      · rwa [List.append_nil]
    have hall := (hequals haccessors).concat "\x7d"
    simpa [definition, layout, pojoLines, opening, hstyle] using hall
  | lombok =>
    have hall := (hopen.append_intercalate (hgroups (show OneLine "private " by decide)
      (show Solid ";" by decide))).concat "\x7d"
    simpa [definition, layout, lombokLines, spacedOut, opening, hstyle, Function.comp_def,
      fieldLines_eq] using hall
  | immutables =>
    have hall := (hopen.append_intercalate (hgroups (show OneLine "" by decide)
      (show Solid "();" by decide))).concat "\x7d"
    simpa [definition, layout, immutablesLines, spacedOut, opening, hstyle, Function.comp_def,
      Member.block, Member.declaration] using hall

/-! ## Imports -/

theorem oneLine_imports (o : Options) : ∀ name ∈ o.imports, OneLine name := by
  unfold Options.imports
  simp only [List.forall_mem_append]
  refine ⟨⟨⟨⟨⟨by decide, ?_⟩, ?_⟩, ?_⟩, ?_⟩, ?_⟩
  · split <;> decide
  · split <;> decide
  · cases o.serialization <;> decide
  · cases o.classStyle <;> cases o.generateBuilder <;> decide
  · split <;> decide

/-- The package clause and the imports, if the name of the package holds no blanks. -/
theorem neatText_header (o : Options) (hname : ∀ c ∈ o.packageName.toList, isBlank c = false) :
    NeatText (trimBreaks (header o)) := by
  have himports : Neat (o.imports.map fun name => "import " ++ name ++ ";") := by
    apply neat_of_full (by simp [Options.imports])
    intro l hl
    obtain ⟨name, hname, rfl⟩ := List.mem_map.mp hl
    exact (solid_between (oneLine_imports o name hname)).full
  refine Neat.neatText_trimBreaks ?_ (by simp)
  by_cases h : o.packageName = ""
  · rw [if_pos h]
    exact himports
  · have hclause : Solid ("package " ++ o.packageName ++ ";") :=
      solid_between (solid_of_forall h hname).1
    rw [if_neg h]
    exact .gap hclause.full himports

/-! ## Optional members -/

/-- The type of a member that may be missing. -/
def optionalType (o : Options) (type : String) : String :=
  if o.useOptional then "Optional<" ++ boxed type ++ ">" else type

/-- A member that may be missing. -/
def Member.optionally (o : Options) (m : Member) : Member :=
  { m with type := optionalType o m.type }

theorem member_optional (o : Options) (f : Field) :
    member { o with optionalProperties := true } f =
      (member { o with optionalProperties := false } f).optionally o := by
  by_cases h : o.useOptional = true <;>
    simp [member, boxedTypeOf, Member.optionally, optionalType, h]

/-- The line that the switch adds to the imports. -/
def optionalImport (o : Options) : String :=
  if o.useOptional then "import java.util.Optional;\n" else ""

theorem header_optional (o : Options) :
    ∃ before behind, header { o with optionalProperties := false } = before ++ behind ∧
      header { o with optionalProperties := true } = before ++ optionalImport o ++ behind := by
  let added := if o.useOptional then ["java.util.Optional"] else []
  obtain ⟨rest, hoff, hon⟩ : ∃ rest,
      ({ o with optionalProperties := false } : Options).imports = "java.util.List" :: rest ∧
      ({ o with optionalProperties := true } : Options).imports =
        "java.util.List" :: (added ++ rest) := by
    refine ⟨_, rfl, ?_⟩
    simp [Options.imports, added]
  let ended (ls : List String) : String := String.join (ls.map (· ++ "\n"))
  have happend (ls ms : List String) : ended (ls ++ ms) = ended ls ++ ended ms := by
    apply String.toList_inj.mp
    simp [ended, String.toList_join]
  let clause := if o.packageName = "" then [] else ["package " ++ o.packageName ++ ";", ""]
  let line (name : String) : String := "import " ++ name ++ ";"
  have hheader (names : List String) :
      unlines (clause ++ ("java.util.List" :: names).map line) ++ "\n" =
        ended (clause ++ [line "java.util.List"]) ++ ended (names.map line) := by
    rw [unlines_break (by simp), List.map_cons, List.append_cons]
    exact happend _ _
  have hadded : ended (added.map line) = optionalImport o := by
    unfold added optionalImport
    split <;> rfl
  refine ⟨ended (clause ++ [line "java.util.List"]), ended (rest.map line), ?_, ?_⟩
  · rw [header, hoff]
    exact hheader rest
  · have hlines := hheader (added ++ rest)
    rw [List.map_append, happend (added.map line), hadded, ← String.append_assoc] at hlines
    rw [header, hon]
    exact hlines

end TypeSketch.Java
