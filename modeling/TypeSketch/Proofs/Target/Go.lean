-- Go: the line of a field ends in its tag, or in its type where there are no tags.
-- A field that may be missing keeps its type, and its tag leaves it out when it is
-- empty.
import TypeSketch.Proofs.Target.Line
import TypeSketch.Target.Go

namespace TypeSketch.Go

open Text Naming

/-! ## Lines -/

theorem solid_typeOf (o : Options) {s : Shape} (h : s.NamedByWord) : Solid (typeOf o s) := by
  refine h.ind (motive := fun s => Solid (typeOf o s)) (fun k => ?_) (fun n e he => ?_)
    fun n fs hn => ?_
  · rw [typeOf]
    cases k <;> decide
  · rw [typeOf]
    exact solid_append (by decide) he
  · rw [typeOf]
    by_cases hpointer : o.usePointers = true
    · rw [if_pos hpointer]
      exact solid_append (by decide) hn.solid
    · rw [if_neg hpointer]
      exact hn.solid

theorem isWord_memberName (key : String) : IsWord (memberName key) :=
  isWord_convertKey .pascal (by decide) ⟨by decide, by decide⟩ key

theorem solid_line (o : Options) {f : Field} (hf : f.2.NamedByWord) : Solid (member o f).line := by
  have hname : OneLine (member o f).name := (isWord_memberName f.1).oneLine
  have htype : Solid (member o f).type := solid_typeOf o hf
  have hline : (member o f).line = "\t" ++ (member o f).name ++ " " ++ (member o f).type ++
      (if o.useJsonTag then " `json:" ++ quote (tagValue o f.1) ++ "`" else "") := by
    by_cases htag : o.useJsonTag = true <;> simp [Member.line, member, htag]
  rw [hline]
  split
  · refine solid_append ?_ (solid_append ?_ (by decide))
    · simp +decide [hname, htype.1]
    · simp +decide [oneLine_quote]
  · rw [String.append_empty]
    exact solid_append (by simp +decide [hname]) htype

theorem neat_definition (o : Options) {t : ObjectType} (hname : IsWord t.name)
    (ht : ∀ f ∈ t.fields, f.2.NamedByWord) : Neat (definition o t) := by
  have hfirst : Solid ("type " ++ t.name ++ " struct \x7b") :=
    solid_between hname.oneLine
  have hfields : ∀ l ∈ (t.fields.map (member o)).map Member.line, Full l := by
    simp only [List.forall_mem_map]
    intro f hf
    exact (solid_line o (ht f hf)).full
  have hopen : Neat ["type " ++ t.name ++ " struct \x7b"] := .last hfirst.full
  exact (hopen.append_full hfields).concat _

/-- The package clause is one line, if the name of the package holds no blanks. -/
theorem neatText_header (o : Options) (hname : ∀ c ∈ o.packageName.toList, isBlank c = false) :
    trimBreaks (header o) = "" ∨ NeatText (trimBreaks (header o)) := by
  unfold header
  by_cases h : o.packageName = ""
  · rw [if_pos h]
    exact .inl (by decide)
  · have hclause : Solid ("package " ++ o.packageName) :=
      solid_append (by decide) (solid_of_forall h hname)
    rw [if_neg h]
    exact .inr (neatText_of_solid hclause).trimBreaks

/-! ## Optional fields -/

/-- A field that may be missing, for a key: its tag leaves it out when it is empty. -/
def Member.optionally (o : Options) (key : String) (m : Member) : Member :=
  { m with tag := if o.useJsonTag then some (quote (key ++ ",omitempty")) else none }

theorem typeOf_optional (o : Options) (b : Bool) (s : Shape) :
    typeOf { o with optionalProperties := b } s = typeOf o s := by
  induction s with
  | scalar k => rfl
  | array n e ih => rw [typeOf, typeOf, ih]
  | object n fs => rfl

theorem member_optional (o : Options) (f : Field) :
    member { o with optionalProperties := true } f =
      (member { o with optionalProperties := false } f).optionally o f.1 := by
  simp [member, Member.optionally, typeOf_optional, tagValue]

end TypeSketch.Go
