-- Swift: a property ends in its type, a case in its name or its literal, and the
-- enumeration stands behind an empty line. A property that may be missing has a
-- question mark behind its type, where it has none for other reasons.
import TypeSketch.Proofs.Key.Swift
import TypeSketch.Proofs.Target.Line

namespace TypeSketch.Swift

open Text Naming

/-! ## Lines -/

theorem solid_typeOf {s : Shape} (h : s.NamedByWord) : Solid (typeOf s) := by
  apply Shape.solid_wrapped (fun _ _ => rfl) (fun _ _ => rfl) _ _ _ h
  · intro k
    cases k <;> decide
  · decide
  · exact .inr (by decide)

theorem isWord_name (o : Options) (f : Field) : IsWord (member o f).name :=
  isWord_fieldName .camel f.1

theorem solid_line (o : Options) {f : Field} (hf : f.2.NamedByWord) : Solid (member o f).line := by
  have hname : OneLine (member o f).name := (isWord_name o f).oneLine
  have htype : Solid (member o f).type := by
    have hplain := solid_typeOf hf
    simp only [member]
    split
    · exact solid_append hplain.1 (by decide)
    · exact hplain
  exact solid_append (by simp +decide [hname]) htype

theorem solid_keyLine (o : Options) (f : Field) : Solid (member o f).keyLine := by
  rw [keyLine_eq, tail_of]
  refine solid_append (by decide) ?_
  split
  · rw [String.append_empty]
    exact (isWord_name o f).solid
  · exact solid_append (isWord_name o f).oneLine (solid_append (by decide) (solid_quote f.1))

theorem neat_definition (o : Options) {t : ObjectType} (hname : IsWord t.name)
    (ht : ∀ f ∈ t.fields, f.2.NamedByWord) : Neat (definition o t) := by
  have hopen : Neat (opening o t.name) := by
    have hline := hname.oneLine
    refine .last (Solid.full ?_)
    split
    · exact solid_between hline
    · exact solid_between hline
  have hproperties : ∀ l ∈ (t.fields.map (member o)).map Member.line, Full l := by
    simp only [List.forall_mem_map]
    intro f hf
    exact (solid_line o (ht f hf)).full
  have hcases : ∀ l ∈ (t.fields.map (member o)).map Member.keyLine, Full l := by
    simp only [List.forall_mem_map]
    intro f _
    exact (solid_keyLine o f).full
  have henum : Neat (enumLine :: (t.fields.map (member o)).map Member.keyLine ++ ["    \x7d"]) := by
    have hfirst : Neat [enumLine] := .last Solid.full
    exact (hfirst.append_full hcases).concat _
  have hkeys := (hopen.append_full hproperties).append_gap_if
    (p := (o.useCodingKeys && (t.fields.map (member o)).any (·.renamed.isSome)) = true)
    fun _ => henum
  exact hkeys.concat _

/-! ## Optional properties -/

/-- The type of a property that may be missing. -/
def optionalType (o : Options) (type : String) : String :=
  if o.useOptionalProperties then type else type ++ "?"

/-- A property that may be missing. -/
def Member.optionally (o : Options) (m : Member) : Member :=
  { m with type := optionalType o m.type }

theorem member_optional (o : Options) (f : Field) :
    member { o with optionalProperties := true } f =
      (member { o with optionalProperties := false } f).optionally o := by
  by_cases h : o.useOptionalProperties = true <;> simp [member, Member.optionally, optionalType, h]

end TypeSketch.Swift
