-- JavaScript: descriptions end in names or literals, all other lines in marks, and
-- an empty line stands before each function beside a class.
import TypeSketch.Proofs.Key.JavaScript
import TypeSketch.Proofs.Naming.Case
import TypeSketch.Proofs.Target.Line

namespace TypeSketch.JavaScript

open Text Naming

/-! ## Members -/

theorem isWord_name (f : Field) : IsWord (member f).name := isWord_fieldName .camel f.1

theorem solid_docLine {f : Field} (hf : f.2.NamedByWord) : Solid (member f).docLine := by
  have hline := oneLine_docLine hf
  rw [docLine_eq, ← String.append_assoc, ← String.append_assoc] at hline ⊢
  refine hline.solid ?_
  rw [tail_of]
  split
  · rw [String.append_empty]
    exact (isWord_name f).solid
  · refine solid_append (isWord_name f).oneLine (solid_append (by decide) ?_)
    exact solid_escaped (by decide) (by decide) f.1

theorem solid_check (f : Field) : ∀ l, (member f).check? = some l → Solid l := by
  have hname := (isWord_name f).oneLine
  intro l hl
  unfold Member.check? at hl
  split at hl
  all_goals first
    | rw [← Option.some.inj hl]
      exact solid_append (by simp +decide [hname]) (by decide)
    | cases hl

theorem oneLine_parameters (fs : List Field) : OneLine (parameters (fs.map member)) := by
  apply oneLine_listed
  simp only [List.forall_mem_map]
  intro f _
  exact (isWord_name f).oneLine

theorem oneLine_templateValue (s : Shape) : OneLine (templateValue s) := by
  match s with
  | .scalar k =>
    cases k with
    | string => exact (show OneLine "''" by decide)
    | number => exact (show OneLine "0" by decide)
    | boolean => exact (show OneLine "false" by decide)
    | _ => exact (show OneLine "null" by decide)
  | .array .. => exact (show OneLine "[]" by decide)
  | .object .. => exact (show OneLine "null" by decide)

/-! ## Definitions -/

/-- Full lines behind a documentation block, if there is one. -/
theorem neat_docBlock (o : Options) {body ls : List String} (hbody : ∀ l ∈ body, Full l)
    (hls : Neat ls) : Neat (docBlock o body ++ ls) := by
  unfold docBlock
  split
  · have hopen : Neat ["/**"] := .last Solid.full
    exact ((hopen.append_full hbody).concat _).append hls
  · exact hls

/-- The description of a type by its name and its properties. -/
theorem full_description {title : String} (htitle : OneLine title) {name : String}
    (hname : IsWord name) {fs : List Field} (hfs : ∀ f ∈ fs, f.2.NamedByWord) :
    ∀ l ∈ (title ++ name) :: (fs.map member).map Member.docLine, Full l := by
  rw [List.forall_mem_cons]
  refine ⟨(solid_append htitle hname.solid).full, ?_⟩
  simp only [List.forall_mem_map]
  intro f hf
  exact (solid_docLine (hfs f hf)).full

theorem full_assignments {indent : String} (hindent : OneLine indent) (fs : List Field) :
    ∀ l ∈ (fs.map member).map fun m => indent ++ "this." ++ m.name ++ " = " ++ m.name ++ ";",
      Full l := by
  simp only [List.forall_mem_map]
  intro f _
  exact (solid_append (by simp +decide [hindent, (isWord_name f).oneLine]) (by decide)).full

theorem neat_classLines (o : Options) {name : String} (hname : IsWord name) {fs : List Field}
    (hfs : ∀ f ∈ fs, f.2.NamedByWord) : Neat (classLines o name (fs.map member)) := by
  have hparameters := oneLine_parameters fs
  refine neat_docBlock o (full_description (by decide) hname hfs) ?_
  by_cases h : o.useEs6 = true
  · have hclass : Solid ("class " ++ name ++ " \x7b") :=
      solid_between hname.oneLine
    have hconstructor : Solid ("  constructor(" ++ parameters (fs.map member) ++ ") \x7b") :=
      solid_between hparameters
    have hopen : Neat ["class " ++ name ++ " \x7b",
        "  constructor(" ++ parameters (fs.map member) ++ ") \x7b"] :=
      .next hclass.full (.last hconstructor.full)
    have hassignments := hopen.append_full (full_assignments (show OneLine "    " by decide) fs)
    have hclosing : Neat ["  \x7d", "\x7d"] :=
      .next Solid.full (.last Solid.full)
    rw [if_pos h]
    exact hassignments.append hclosing
  · have hfunction : Solid ("function " ++ name ++ "(" ++ parameters (fs.map member) ++
        ") \x7b") :=
      solid_append (by simp +decide [hname.oneLine, hparameters]) (by decide)
    have hopen := Neat.last hfunction.full
    have hassignments := hopen.append_full (full_assignments (show OneLine "  " by decide) fs)
    rw [if_neg h]
    exact hassignments.concat _

theorem neat_factoryLines (o : Options) {name : String} (hname : IsWord name)
    (fs : List Field) : Neat (factoryLines o name (fs.map member)) := by
  have hline := hname.oneLine
  have hparameters := oneLine_parameters fs
  have hcreate : Solid (" * Create a new " ++ name ++ " instance") :=
    solid_between hline
  have hreturns : Solid (" * @returns \x7b" ++ name ++ "\x7d") :=
    solid_between hline
  have hfunction : Solid ("function create" ++ name ++ "(" ++ parameters (fs.map member) ++
      ") \x7b") :=
    solid_append (by simp +decide [hline, hparameters]) (by decide)
  have hnew : Solid ("  return new " ++ name ++ "(" ++ parameters (fs.map member) ++ ");") :=
    solid_append (by simp +decide [hline, hparameters]) (by decide)
  refine neat_docBlock o ?_ ?_
  · simpa using And.intro hcreate.full hreturns.full
  · exact .next hfunction.full (.next hnew.full (.last Solid.full))

theorem neat_validatorLines (o : Options) {name : String} (hname : IsWord name)
    (fs : List Field) : Neat (validatorLines o name (fs.map member)) := by
  have hline := hname.oneLine
  have hvalidate : Solid (" * Validate a " ++ name ++ " object") :=
    solid_between hline
  have hfunction : Solid ("function is" ++ name ++ "(obj) \x7b") :=
    solid_between hline
  have hconstant : ∀ l ∈ [" * @param \x7bObject\x7d obj", " * @returns \x7bboolean\x7d"],
      Solid l := by
    decide
  have hbody : ∀ l ∈ [" * Validate a " ++ name ++ " object", " * @param \x7bObject\x7d obj",
      " * @returns \x7bboolean\x7d"], Full l := by
    rw [List.forall_mem_cons]
    exact ⟨hvalidate.full, fun l hl => (hconstant l hl).full⟩
  have hopen : Neat ["function is" ++ name ++ "(obj) \x7b",
      "  if (typeof obj !== 'object' || obj === null) return false;"] :=
    .next hfunction.full (.last Solid.full)
  have hchecks : ∀ l ∈ ((fs.map member).filterMap Member.check?).map ("  " ++ ·), Full l := by
    intro l hl
    obtain ⟨check, hcheck, rfl⟩ := List.mem_map.mp hl
    obtain ⟨m, hm, hcheck⟩ := List.mem_filterMap.mp hcheck
    obtain ⟨f, _, rfl⟩ := List.mem_map.mp hm
    exact (solid_append (by decide) (solid_check f check hcheck)).full
  have hclosing : Neat ["  return true;", "\x7d"] :=
    .next Solid.full (.last Solid.full)
  have hall := neat_docBlock o hbody ((hopen.append_full hchecks).append hclosing)
  simpa [validatorLines] using hall

theorem neat_templateLines (o : Options) {name : String} (hname : IsWord name) {fs : List Field}
    (hfs : ∀ f ∈ fs, f.2.NamedByWord) : Neat (templateLines o name (fs.map member)) := by
  have hkeyword : OneLine (if o.useEs6 then "const " else "var ") := by split <;> decide
  have htemplate : OneLine (templateName name) :=
    oneLine_append.mpr ⟨oneLine_toSmall hname, by decide⟩
  have hfirst : Solid ((if o.useEs6 then "const " else "var ") ++ templateName name ++
      " = \x7b") :=
    solid_append (oneLine_append.mpr ⟨hkeyword, htemplate⟩) (by decide)
  have hproperties : ∀ l ∈ (fs.map member).map fun m =>
      "  " ++ m.name ++ ": " ++ templateValue m.shape ++ ",", Full l := by
    simp only [List.forall_mem_map]
    intro f _
    refine (solid_append ?_ (by decide)).full
    simp +decide [(isWord_name f).oneLine, oneLine_templateValue]
  have hobject := ((Neat.last hfirst.full).append_full hproperties).concat "\x7d;"
  have hall := neat_docBlock o
    (full_description (show OneLine " * @typedef \x7bObject\x7d " by decide) hname hfs) hobject
  simpa [templateLines] using hall

theorem neat_definition (o : Options) {t : ObjectType} (hname : IsWord t.name)
    (ht : ∀ f ∈ t.fields, f.2.NamedByWord) : Neat (definition o t) := by
  unfold definition
  by_cases h : o.useClass = true
  · have hclass := neat_classLines o hname ht
    have hfactory := hclass.append_gap_if (p := o.generateFactory = true)
      fun _ => neat_factoryLines o hname t.fields
    simp only [if_pos h]
    exact hfactory.append_gap_if fun _ => neat_validatorLines o hname t.fields
  · simp only [if_neg h]
    exact neat_templateLines o hname ht

end TypeSketch.JavaScript
