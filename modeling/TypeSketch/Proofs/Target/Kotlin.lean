-- Kotlin: a parameter ends in a comma, its default value or its type. A parameter
-- that may be missing has a question mark behind its type, and never two.
import TypeSketch.Proofs.Key.Kotlin
import TypeSketch.Proofs.Target.Line

namespace TypeSketch.Kotlin

open Text Naming

/-! ## Lines -/

theorem solid_typeOf {s : Shape} (h : s.NamedByWord) : Solid (typeOf s) := by
  apply Shape.solid_wrapped (fun _ _ => rfl) (fun _ _ => rfl) _ _ _ h
  · intro k
    cases k <;> decide
  · decide
  · exact .inr (by decide)

theorem solid_defaultValue (s : Shape) : Solid (defaultValue s) := by
  match s with
  | .scalar k =>
    cases k with
    | string => exact (show Solid "\"\"" by decide)
    | number => exact (show Solid "0.0" by decide)
    | boolean => exact (show Solid "false" by decide)
    | _ => exact (show Solid "null" by decide)
  | .array .. => exact (show Solid "emptyList()" by decide)
  | .object .. => exact (show Solid "null" by decide)

theorem solid_line (o : Options) {f : Field} (hf : f.2.NamedByWord) : Solid (member o f).line := by
  have hname : OneLine (member o f).name := (isWord_fieldName .camel f.1).oneLine
  have htype : Solid (member o f).type := by
    have hplain := solid_typeOf hf
    simp only [member]
    split
    · exact solid_append hplain.1 (by decide)
    · exact hplain
  rw [line_eq]
  refine solid_append (by decide) (solid_append hname (solid_append (by decide) ?_))
  unfold Member.rest
  by_cases h : o.useDefaultValues = true
  · have hvalue : (member o f).value = some (defaultValue f.2) := by simp [member, h]
    rw [hvalue]
    exact solid_append htype.1 (solid_append (by decide) (solid_defaultValue f.2))
  · have hvalue : (member o f).value = none := by simp [member, h]
    rw [hvalue]
    simpa using htype

/-- Every annotation that keeps a key ends in a bracket. -/
theorem solid_annotations (o : Options) (f : Field) :
    ∀ l ∈ (member o f).annotations, Solid l := by
  have hrename : ∀ text ∈ (o.serialization.rename? (quote f.1)).toList, Solid text := by
    intro text htext
    cases hlib : o.serialization <;>
      simp only [hlib, Serialization.rename?, Option.toList_none, Option.toList_some,
        List.not_mem_nil, List.mem_singleton] at htext <;> rw [htext] <;>
      exact solid_between (oneLine_quote f.1)
  intro l hl
  obtain ⟨text, htext, rfl⟩ := List.mem_map.mp hl
  refine solid_append (by decide) ?_
  simp only [member] at htext
  split at htext
  · cases htext
  · exact hrename text htext

theorem neat_definition (o : Options) {t : ObjectType} (hname : IsWord t.name)
    (ht : ∀ f ∈ t.fields, f.2.NamedByWord) : Neat (definition o t) := by
  have hclass : Solid ((if o.useDataClass then "data class " else "class ") ++ t.name ++ "(") := by
    refine solid_append (oneLine_append.mpr ⟨?_, hname.oneLine⟩) (by decide)
    split <;> decide
  have hopen : Neat ((if o.serialization = .kotlinx then ["@Serializable"] else []) ++
      [(if o.useDataClass then "data class " else "class ") ++ t.name ++ "("]) := by
    split
    · exact .next Solid.full (.last hclass.full)
    · exact .last hclass.full
  have hparameters : ∀ l ∈ parameterLines (t.fields.map (member o)), Full l := by
    have hlines := sequenced_parameterLines.map (member o)
    have hline {f : Field} (hf : f ∈ t.fields) {ending : String}
        (hending : ending = "" ∨ Solid ending) :
        ∀ l ∈ (member o f).annotations ++ [(member o f).line ++ ending], Full l := by
      intro l hl
      rcases List.mem_append.mp hl with hl | hl
      · exact (solid_annotations o f l hl).full
      · rw [List.mem_singleton.mp hl]
        rcases hending with rfl | hending
        · rw [String.append_empty]
          exact (solid_line o (ht f hf)).full
        · exact (solid_append (solid_line o (ht f hf)).1 hending).full
    refine hlines.forall_mem (P := Full) (fun f hf => hline hf (.inl rfl)) fun f hf => ?_
    exact hline hf (.inr (by decide))
  have hall := (hopen.append_full hparameters).concat ")"
  simpa [definition, layout] using hall

/-- The imports are lines without gaps. -/
theorem neatText_header (o : Options) :
    trimBreaks (header o) = "" ∨ NeatText (trimBreaks (header o)) := by
  have hsolid (names : List String) (hnames : ∀ name ∈ names, Solid name) :
      ∀ l ∈ names.map ("import " ++ ·), Full l := by
    intro l hl
    obtain ⟨name, hname, rfl⟩ := List.mem_map.mp hl
    exact (solid_append (by decide) (hnames name hname)).full
  unfold header
  cases o.serialization with
  | none => exact .inl (by decide)
  | _ => exact .inr (neat_of_full (by simp [Serialization.imports])
      (hsolid _ (by decide))).neatText.trimBreaks

/-! ## Optional parameters -/

/-- The type of a parameter that may be missing. -/
def optionalType (type : String) : String :=
  if type.toList.getLast? = some '?' then type else type ++ "?"

/-- A parameter that may be missing. -/
def Member.optionally (m : Member) : Member := { m with type := optionalType m.type }

theorem member_optional (o : Options) {f : Field} (hf : f.2.NamedByWord) :
    member { o with optionalProperties := true } f =
      (member { o with optionalProperties := false } f).optionally := by
  have hplain : (typeOf f.2).toList.getLast? ≠ some '?' := by
    intro hlast
    exact (spelled_typeOf hf).not_mem (by decide) (by decide) (List.mem_of_getLast? hlast)
  by_cases h : (o.useDefaultValues && defaultValue f.2 == "null") = true
  · simp [member, Member.optionally, optionalType, h]
  · simp [member, Member.optionally, optionalType, h, hplain]

end TypeSketch.Kotlin
