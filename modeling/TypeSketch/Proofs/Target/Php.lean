-- PHP: a property ends in its name, in a mark or in the comment that keeps the
-- key. A property that may be missing has a type with a question mark before it,
-- unless the type holds null already.
import TypeSketch.Proofs.Key.Reader
import TypeSketch.Proofs.Target.Line
import TypeSketch.Target.Php

namespace TypeSketch.Php

open Text Naming Key

/-! ## Lines -/

theorem oneLine_typeOf {s : Shape} (h : s.NamedByWord) : OneLine (typeOf s) := by
  cases s with
  | scalar k =>
    rw [typeOf]
    cases k <;> decide
  | array n e =>
    rw [typeOf]
    decide
  | object n fs => exact (h n fs rfl).oneLine

theorem oneLine_type (o : Options) {f : Field} (hf : f.2.NamedByWord) :
    OneLine (member o f).type := by
  have htype := oneLine_typeOf hf
  simp only [member]
  split
  · simp +decide [htype]
  · exact htype

theorem isWord_name (o : Options) (f : Field) : IsWord (member o f).name :=
  isWord_fieldName .camel f.1

theorem solid_declaration (o : Options) {f : Field} (hf : f.2.NamedByWord) :
    Solid (member o f).declaration :=
  solid_append (by simp +decide [oneLine_type o hf]) (isWord_name o f).solid

/-- A comment is empty or ends in a literal. -/
theorem comment_cases (o : Options) (f : Field) :
    (member o f).comment = "" ∨ Solid (member o f).comment := by
  by_cases h : convertKey .camel "_" "field" f.1 = f.1
  · exact .inl (by simp [Member.comment, member, h])
  · refine .inr ?_
    have hcomment : (member o f).comment = " // " ++ commentLiteral f.1 := by
      simp [Member.comment, member, h]
    rw [hcomment]
    exact solid_append (by decide) (solid_escaped (by decide) (by decide) f.1)

theorem solid_commented (o : Options) (f : Field) {l : String} (h : Solid l) :
    Solid (l ++ (member o f).comment) := by
  rcases comment_cases o f with hc | hc
  · rwa [hc, String.append_empty]
  · exact solid_append h.1 hc

/-- The lines of parameters have a comma behind each but the last. -/
theorem sequenced_parameterLines (before : String) (after : Member → String) :
    Sequenced (parameterLines before after) (fun m => [before ++ m.declaration ++ after m])
      (fun m => [before ++ m.declaration ++ "," ++ after m]) where
  nil := rfl
  one _ := rfl
  more _ _ _ := rfl

theorem full_parameterLines (o : Options) {fs : List Field} (hfs : ∀ f ∈ fs, f.2.NamedByWord)
    {before : String} (hbefore : OneLine before) {after : Member → String}
    (hafter : ∀ f ∈ fs, ∀ l, Solid l → Solid (l ++ after (member o f))) :
    ∀ l ∈ parameterLines before after (fs.map (member o)), Full l := by
  have hlines := (sequenced_parameterLines before after).map (member o)
  refine hlines.forall_mem (P := Full) ?_ ?_
  · intro f hf l hl
    rw [List.mem_singleton.mp hl]
    exact (hafter f hf _ (solid_append hbefore (solid_declaration o (hfs f hf)))).full
  · intro f hf l hl
    have hcomma : Solid (before ++ (member o f).declaration ++ ",") :=
      solid_append (oneLine_append.mpr ⟨hbefore, (solid_declaration o (hfs f hf)).1⟩) (by decide)
    rw [List.mem_singleton.mp hl]
    exact (hafter f hf _ hcomma).full

theorem neat_definition (o : Options) {t : ObjectType} (hname : IsWord t.name)
    (ht : ∀ f ∈ t.fields, f.2.NamedByWord) : Neat (definition o t) := by
  have hopen : Neat ["class " ++ t.name, "\x7b"] :=
    .next (solid_append (by decide) hname.solid).full (.last Solid.full)
  have hconstruct : Neat ["    public function __construct("] := .last Solid.full
  have hreadonly : OneLine (if o.useReadonlyProperties then "readonly " else "") := by
    split <;> decide
  unfold definition layout
  by_cases h : o.useConstructorPromotion = true
  · have hparameters := full_parameterLines o ht
      (oneLine_append.mpr ⟨show OneLine "        public " by decide, hreadonly⟩)
      fun f _ l hl => solid_commented o f hl
    have hbody := (hconstruct.append_full hparameters).concat "    ) \x7b\x7d"
    simp only [if_pos h]
    exact (hopen.append hbody).concat "\x7d"
  · have hproperties : ∀ l ∈ (t.fields.map (member o)).map fun m => "    public " ++
        (if o.useReadonlyProperties then "readonly " else "") ++ m.declaration ++ ";" ++
          m.comment, Full l := by
      simp only [List.forall_mem_map]
      intro f hf
      refine (solid_commented o f (solid_append ?_ (by decide))).full
      simp +decide [hreadonly, (solid_declaration o (ht f hf)).1]
    have hparameters : ∀ l ∈ parameterLines "        " (fun _ => "") (t.fields.map (member o)),
        Full l :=
      full_parameterLines o ht (by decide) fun f _ l hl => by simpa using hl
    have hassignments : ∀ l ∈ (t.fields.map (member o)).map fun m =>
        "        $this->" ++ m.name ++ " = $" ++ m.name ++ ";", Full l := by
      simp only [List.forall_mem_map]
      intro f _
      refine (solid_append ?_ (by decide)).full
      simp +decide [(isWord_name o f).oneLine]
    have hbody := (((hconstruct.append_full hparameters).concat "    ) \x7b").append_full
      hassignments).concat "    \x7d"
    simp only [if_neg h]
    have hall := ((hopen.append_full hproperties).append_gap hbody).concat "\x7d"
    simpa using hall

/-- The open tag and the clauses behind it, if the namespace holds no blanks. -/
theorem neatText_header (o : Options) (hname : ∀ c ∈ o.nameSpace.toList, isBlank c = false) :
    NeatText (trimBreaks (header o)) := by
  have htag : Neat ["<?php"] := .last Solid.full
  have hstrict : Neat (["<?php"] ++
      if o.useStrictTypes then ["", "declare(strict_types=1);"] else []) :=
    htag.append_gap_if fun _ => .last Solid.full
  refine Neat.neatText_trimBreaks ?_ (by simp)
  by_cases h : o.nameSpace = ""
  · rw [if_pos h, List.append_nil]
    exact hstrict
  · have hclause : Solid ("namespace " ++ o.nameSpace ++ ";") :=
      solid_between (solid_of_forall h hname).1
    rw [if_neg h]
    exact hstrict.append_gap (.last hclause.full)

/-! ## Optional properties -/

/-- The type of a property that may be missing. -/
def optionalType (type : String) : String := if type = "mixed" then type else "?" ++ type

/-- A property that may be missing. -/
def Member.optionally (m : Member) : Member := { m with type := optionalType m.type }

theorem member_optional (o : Options) (f : Field) :
    member { o with optionalProperties := true } f =
      (member { o with optionalProperties := false } f).optionally := by
  by_cases h : typeOf f.2 = "mixed" <;> simp [member, Member.optionally, optionalType, h]

end TypeSketch.Php
