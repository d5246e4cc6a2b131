-- Rust: attributes end in brackets and fields in commas. A field that may be
-- missing has the type inside `Option`, and with serde's traits an attribute that
-- leaves it out.
import TypeSketch.Proofs.Key.Rust
import TypeSketch.Proofs.Target.Line

namespace TypeSketch.Rust

open Text Naming

/-! ## Lines -/

theorem oneLine_derives (o : Options) : ∀ trait ∈ o.derives, OneLine trait := by
  unfold Options.derives
  simp only [List.forall_mem_append]
  refine ⟨⟨⟨?_, ?_⟩, ?_⟩, ?_⟩ <;> split <;> decide

theorem solid_lines (o : Options) {f : Field} (hf : f.2.NamedByWord) :
    ∀ l ∈ (member o f).lines, Solid l := by
  have hrenamed : ∀ literal, (member o f).renamed = some literal → OneLine literal := by
    intro literal hliteral
    simp only [member, Option.ite_none_right_eq_some, Option.some.injEq] at hliteral
    exact hliteral.2 ▸ oneLine_quote f.1
  intro l hl
  rw [Member.lines, List.mem_append, List.mem_append, List.mem_singleton] at hl
  rcases hl with (hl | hl) | rfl
  · cases hliteral : (member o f).renamed with
    | none => simp [hliteral] at hl
    | some literal =>
      simp only [hliteral, List.mem_singleton] at hl
      rw [hl]
      exact solid_between (hrenamed literal hliteral)
  · split at hl
    · rw [List.mem_singleton.mp hl]
      decide
    · cases hl
  · exact solid_append (by simp +decide [oneLine_name o f, oneLine_type o hf]) (by decide)

theorem neat_definition (o : Options) {t : ObjectType} (hname : IsWord t.name)
    (ht : ∀ f ∈ t.fields, f.2.NamedByWord) : Neat (definition o t) := by
  have hstruct : Solid ("pub struct " ++ t.name ++ " \x7b") :=
    solid_between hname.oneLine
  have hderive : Solid ("#[derive(" ++ listed o.derives ++ ")]") :=
    solid_between (oneLine_listed (oneLine_derives o))
  have hopen : Neat ((if o.derives.isEmpty then [] else
      ["#[derive(" ++ listed o.derives ++ ")]"]) ++ ["pub struct " ++ t.name ++ " \x7b"]) := by
    split
    · exact .last hstruct.full
    · exact .next hderive.full (.last hstruct.full)
  have hfields : ∀ l ∈ (t.fields.map (member o)).flatMap Member.lines, Full l := by
    intro l hl
    obtain ⟨m, hm, hl⟩ := List.mem_flatMap.mp hl
    obtain ⟨f, hf, rfl⟩ := List.mem_map.mp hm
    exact (solid_lines o (ht f hf) l hl).full
  have hall := (hopen.append_full hfields).concat "\x7d"
  simpa [definition, layout] using hall

/-- The import is one line. -/
theorem neatText_header (o : Options) :
    trimBreaks (header o) = "" ∨ NeatText (trimBreaks (header o)) := by
  unfold header
  split
  · exact .inr (neatText_of_solid (by decide)).trimBreaks
  · exact .inl (by decide)

/-! ## Optional fields -/

/-- The type of a field that may be missing. -/
def optionalType (type : String) : String := "Option<" ++ type ++ ">"

/-- A field that may be missing. -/
def Member.optionally (o : Options) (m : Member) : Member :=
  { m with type := optionalType m.type, skipped := o.deriveSerde }

theorem typeOf_optional (o : Options) (b : Bool) (s : Shape) :
    typeOf { o with optionalProperties := b } s = typeOf o s := by
  induction s with
  | scalar k => rfl
  | array n e ih => rw [typeOf, typeOf, ih]
  | object n fs => rfl

theorem member_optional (o : Options) (f : Field) :
    member { o with optionalProperties := true } f =
      (member { o with optionalProperties := false } f).optionally o := by
  simp [member, Member.optionally, optionalType, typeOf_optional]

end TypeSketch.Rust
