-- C#: attributes end in brackets, parameters in names and commas, and an empty
-- line stands between properties. A member that may be missing has a question mark
-- behind its type, where nullable types are in use.
import TypeSketch.Proofs.Key.CSharp
import TypeSketch.Proofs.Target.Line

namespace TypeSketch.CSharp

open Text Naming

/-! ## Lines -/

theorem solid_parameter (o : Options) {f : Field} (hf : f.2.NamedByWord) :
    Solid (member o f).parameter := by
  have hline := oneLine_parameter o hf
  rw [Member.parameter] at hline ⊢
  exact hline.solid (isWord_fieldName .pascal f.1).solid

theorem solid_propertyLines (o : Options) {f : Field} (hf : f.2.NamedByWord) :
    ∀ l ∈ (member o f).propertyLines, Solid l := by
  intro l hl
  have hline := oneLine_propertyLines o hf l hl
  rw [Member.propertyLines, List.mem_append] at hl
  rcases hl with hl | hl
  · obtain ⟨a, _, rfl⟩ := List.mem_map.mp hl
    exact hline.solid
  · rw [List.mem_singleton] at hl
    subst hl
    exact hline.solid

theorem neat_propertyLines (o : Options) {f : Field} (hf : f.2.NamedByWord) :
    Neat (member o f).propertyLines :=
  neat_of_full (by simp [Member.propertyLines]) fun l hl => (solid_propertyLines o hf l hl).full

theorem full_parameters (o : Options) {fs : List Field} (hfs : ∀ f ∈ fs, f.2.NamedByWord) :
    ∀ l ∈ commaSeparated ((fs.map (member o)).map Member.parameter), Full l := by
  have hlines := (sequenced_commaSeparated.map Member.parameter).map (member o)
  refine hlines.forall_mem (P := Full) ?_ ?_
  · intro f hf l hl
    rw [String.append_empty] at hl
    exact List.mem_singleton.mp hl ▸ (solid_parameter o (hfs f hf)).full
  · intro f hf l hl
    have hcomma := solid_append (solid_parameter o (hfs f hf)).1 (show Solid "," by decide)
    exact List.mem_singleton.mp hl ▸ hcomma.full

theorem neat_definition (o : Options) {t : ObjectType} (hname : IsWord t.name)
    (ht : ∀ f ∈ t.fields, f.2.NamedByWord) : Neat (definition o t) := by
  have hcontract {ls : List String} (hls : Neat ls) : Neat (contractLines o ++ ls) := by
    unfold contractLines
    split
    · exact .next Solid.full hls
    · exact hls
  refine hcontract ?_
  by_cases h : o.useRecords = true
  · have hrecord : Solid ("public record " ++ t.name ++ "(") :=
      solid_between hname.oneLine
    have hopen : Neat ["public record " ++ t.name ++ "("] := .last hrecord.full
    rw [if_pos h]
    exact (hopen.append_full (full_parameters o ht)).concat _
  · have hclass : Solid ("public class " ++ t.name) := solid_append (by decide) hname.solid
    have hopen : Neat ["public class " ++ t.name, "\x7b"] :=
      .next hclass.full (.last Solid.full)
    have hproperties : ∀ ls ∈ (t.fields.map (member o)).map Member.propertyLines, Neat ls := by
      simp only [List.forall_mem_map]
      intro f hf
      exact neat_propertyLines o (ht f hf)
    rw [if_neg h]
    exact (hopen.append_intercalate hproperties).concat _

/-- The imports and the clauses behind them, if the namespace holds no blanks. -/
theorem neatText_header (o : Options) (hname : ∀ c ∈ o.nameSpace.toList, isBlank c = false) :
    NeatText (trimBreaks (header o)) := by
  have hline : ∀ name ∈ o.usings, OneLine name := by
    unfold Options.usings
    simp only [List.forall_mem_append]
    refine ⟨⟨⟨by decide, ?_⟩, ?_⟩, ?_⟩ <;> split <;> decide
  have husings : Neat (o.usings.map fun name => "using " ++ name ++ ";") := by
    apply neat_of_full (by simp [Options.usings])
    intro l hl
    obtain ⟨name, hname, rfl⟩ := List.mem_map.mp hl
    exact (solid_between (hline name hname)).full
  have hnullable : Neat ((o.usings.map fun name => "using " ++ name ++ ";") ++
      if o.useNullable then ["", "#nullable enable"] else []) :=
    husings.append_gap_if fun _ => .last Solid.full
  refine Neat.neatText_trimBreaks ?_ (by simp)
  by_cases h : o.nameSpace = ""
  · rw [if_pos h, List.append_nil]
    exact hnullable
  · have hclause : Solid ("namespace " ++ o.nameSpace ++ ";") :=
      solid_between (solid_of_forall h hname).1
    rw [if_neg h]
    exact hnullable.append_gap (.last hclause.full)

/-! ## Optional members -/

/-- The type of a member that may be missing. -/
def optionalType (o : Options) (type : String) : String :=
  if o.useNullable then type ++ "?" else type

/-- A member that may be missing. -/
def Member.optionally (o : Options) (m : Member) : Member :=
  { m with type := optionalType o m.type }

theorem member_optional (o : Options) (f : Field) :
    member { o with optionalProperties := true } f =
      (member { o with optionalProperties := false } f).optionally o := by
  by_cases h : o.useNullable = true <;>
    simp [member, renameAttributes, Member.optionally, optionalType, h]

end TypeSketch.CSharp
