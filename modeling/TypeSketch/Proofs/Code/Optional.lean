-- The switch for optional properties. Two runs that differ in it emit the same
-- types with the same members, and a member changes only as its language has it:
-- all else in a definition is laid out around the members in one way.
import TypeSketch.Proofs.Code.Emitted
import TypeSketch.Proofs.Target.CSharp
import TypeSketch.Proofs.Target.Go
import TypeSketch.Proofs.Target.Java
import TypeSketch.Proofs.Target.JavaScript
import TypeSketch.Proofs.Target.Kotlin
import TypeSketch.Proofs.Target.Php
import TypeSketch.Proofs.Target.Python
import TypeSketch.Proofs.Target.Rust
import TypeSketch.Proofs.Target.Swift
import TypeSketch.Proofs.Target.TypeScript

namespace TypeSketch

open Text

/-- What a member has in every language. -/
structure Slot where
  identifier : String
  /-- What keeps the key, where the identifier is another text. -/
  renamed : Option String
  type : String
  deriving DecidableEq, Repr

/-- Two texts have one layout of members, and the members of the second are those of the first
after a change. -/
structure Rewrites {M : Type} (layout : List M → List String) (member : Field → M)
    (change : Field → M → M) (fs : List Field) (off on : String) : Prop where
  off_eq : off = trimBreaks (unlines (layout (fs.map member)))
  on_eq : on = trimBreaks (unlines (layout (fs.map fun f => change f (member f))))

namespace LanguageOptions

/-- The same options with the switch set. -/
def withOptional (b : Bool) : LanguageOptions → LanguageOptions
  | typescript o => typescript { o with optionalProperties := b }
  | javascript o => javascript { o with optionalProperties := b }
  | go o => go { o with optionalProperties := b }
  | python o => python { o with optionalProperties := b }
  | rust o => rust { o with optionalProperties := b }
  | java o => java { o with optionalProperties := b }
  | csharp o => csharp { o with optionalProperties := b }
  | kotlin o => kotlin { o with optionalProperties := b }
  | swift o => swift { o with optionalProperties := b }
  | php o => php { o with optionalProperties := b }

/-- The member for a field. In Go a tag keeps every key, also one that is not renamed. -/
def slot : LanguageOptions → Field → Slot
  | typescript o, f => ⟨(TypeScript.member o f).key, none, (TypeScript.member o f).type⟩
  | javascript _, f =>
    ⟨(JavaScript.member f).name, (JavaScript.member f).renamed, (JavaScript.member f).type⟩
  | go o, f => ⟨(Go.member o f).name, none, (Go.member o f).type⟩
  | python o, f =>
    ⟨(Python.member o f).name, (Python.member o f).renamed, (Python.member o f).type⟩
  | rust o, f => ⟨(Rust.member o f).name, (Rust.member o f).renamed, (Rust.member o f).type⟩
  | java o, f => ⟨(Java.member o f).name, (Java.member o f).rename, (Java.member o f).type⟩
  | csharp o, f =>
    ⟨(CSharp.member o f).name, (CSharp.member o f).renamed, (CSharp.member o f).type⟩
  | kotlin o, f => ⟨(Kotlin.member o f).name, (Kotlin.member o f).rename, (Kotlin.member o f).type⟩
  | swift o, f => ⟨(Swift.member o f).name, (Swift.member o f).renamed, (Swift.member o f).type⟩
  | php o, f => ⟨(Php.member o f).name, (Php.member o f).renamed, (Php.member o f).type⟩

/-- The type expression of a member that may be missing, from its type expression if it may
not. -/
def optionalType : LanguageOptions → String → String
  | typescript o => TypeScript.optionalType o
  | javascript _ => id
  | go _ => id
  | python o => Python.optionalType o
  | rust _ => Rust.optionalType
  | java o => Java.optionalType o
  | csharp o => CSharp.optionalType o
  | kotlin _ => Kotlin.optionalType
  | swift o => Swift.optionalType o
  | php _ => Php.optionalType

/-- The text that the switch adds to the header of some types, where a type expression of a member
that may be missing has to be imported. -/
def optionalImport : LanguageOptions → List ObjectType → String
  | java o, _ => Java.optionalImport o
  | python o, types => Python.optionalImport o types
  | _, _ => ""

/-- With the switch, the definition of a type is that of the same members, each as one that may be
missing. -/
def RewritesDefinition (o : LanguageOptions) (t : ObjectType) : Prop :=
  let off := (o.withOptional false).definition t
  let on := (o.withOptional true).definition t
  match o with
  | typescript o =>
    Rewrites (TypeScript.layout o t.name) (TypeScript.member { o with optionalProperties := false })
      (fun _ m => m.optionally o) t.fields off on
  | javascript _ => on = off
  | go o =>
    Rewrites (Go.layout t.name) (Go.member { o with optionalProperties := false })
      (fun f m => m.optionally o f.1) t.fields off on
  | python o =>
    Rewrites (Python.layout o t.name) (Python.member { o with optionalProperties := false })
      (fun _ m => m.optionally o) t.fields off on
  | rust o =>
    Rewrites (Rust.layout o t.name) (Rust.member { o with optionalProperties := false })
      (fun _ m => m.optionally o) t.fields off on
  | java o =>
    Rewrites (Java.layout o t.name) (Java.member { o with optionalProperties := false })
      (fun _ m => m.optionally o) t.fields off on
  | csharp o =>
    Rewrites (CSharp.layout o t.name) (CSharp.member { o with optionalProperties := false })
      (fun _ m => m.optionally o) t.fields off on
  | kotlin o =>
    Rewrites (Kotlin.layout o t.name) (Kotlin.member { o with optionalProperties := false })
      (fun _ m => m.optionally) t.fields off on
  | swift o =>
    Rewrites (Swift.layout o t.name) (Swift.member { o with optionalProperties := false })
      (fun _ m => m.optionally o) t.fields off on
  | php o =>
    Rewrites (Php.layout o t.name) (Php.member { o with optionalProperties := false })
      (fun _ m => m.optionally) t.fields off on

theorem withOptional_self (o : LanguageOptions) :
    o.withOptional o.shared.optionalProperties = o := by
  cases o <;> rfl

theorem rootShape_withOptional (o : LanguageOptions) (b : Bool) (v : Json) :
    (o.withOptional b).rootShape v = o.rootShape v := by
  cases o <;> rfl

theorem rewritesDefinition (o : LanguageOptions) {t : ObjectType}
    (ht : ∀ f ∈ t.fields, f.2.NamedByWord) : o.RewritesDefinition t := by
  cases o with
  | javascript o => rfl
  | kotlin o =>
    refine ⟨rfl, ?_⟩
    have hmembers : t.fields.map (Kotlin.member { o with optionalProperties := true }) =
        t.fields.map fun f =>
          (Kotlin.member { o with optionalProperties := false } f).optionally :=
      List.map_congr_left fun f hf => Kotlin.member_optional o (ht f hf)
    rw [← hmembers]
    rfl
  | typescript o => exact ⟨rfl, by simp only [← TypeScript.member_optional]; rfl⟩
  | go o => exact ⟨rfl, by simp only [← Go.member_optional]; rfl⟩
  | python o => exact ⟨rfl, by simp only [← Python.member_optional]; rfl⟩
  | rust o => exact ⟨rfl, by simp only [← Rust.member_optional]; rfl⟩
  | java o => exact ⟨rfl, by simp only [← Java.member_optional]; rfl⟩
  | csharp o => exact ⟨rfl, by simp only [← CSharp.member_optional]; rfl⟩
  | swift o => exact ⟨rfl, by simp only [← Swift.member_optional]; rfl⟩
  | php o => exact ⟨rfl, by simp only [← Php.member_optional]; rfl⟩

/-- The switch changes nothing of a member but its type expression, and what its language adds. -/
theorem slot_optional (o : LanguageOptions) {f : Field} (hf : f.2.NamedByWord) :
    (o.withOptional true).slot f =
      { (o.withOptional false).slot f with
        type := o.optionalType ((o.withOptional false).slot f).type } := by
  cases o with
  | javascript o => simp only [withOptional, slot, optionalType, id]
  | python o =>
    simp only [withOptional, slot, optionalType, Python.member_optional, Python.Member.optionally]
    split <;> rfl
  | typescript o =>
    simp only [withOptional, slot, optionalType, TypeScript.member_optional,
      TypeScript.Member.optionally]
  | go o =>
    simp only [withOptional, slot, optionalType, Go.member_optional, Go.Member.optionally, id]
  | rust o =>
    simp only [withOptional, slot, optionalType, Rust.member_optional, Rust.Member.optionally,
      Rust.Member.name]
  | java o =>
    simp only [withOptional, slot, optionalType, Java.member_optional, Java.Member.optionally]
  | csharp o =>
    simp only [withOptional, slot, optionalType, CSharp.member_optional, CSharp.Member.optionally]
  | kotlin o =>
    simp only [withOptional, slot, optionalType, Kotlin.member_optional o hf,
      Kotlin.Member.optionally]
  | swift o =>
    simp only [withOptional, slot, optionalType, Swift.member_optional, Swift.Member.optionally]
  | php o =>
    simp only [withOptional, slot, optionalType, Php.member_optional, Php.Member.optionally]

theorem header_optional (o : LanguageOptions) (types : List ObjectType) :
    ∃ before behind, (o.withOptional false).header types = before ++ behind ∧
      (o.withOptional true).header types = before ++ o.optionalImport types ++ behind := by
  have hsame {o : LanguageOptions} (himport : o.optionalImport types = "")
      (h : (o.withOptional true).header types = (o.withOptional false).header types) :
      ∃ before behind, (o.withOptional false).header types = before ++ behind ∧
        (o.withOptional true).header types = before ++ o.optionalImport types ++ behind :=
    ⟨(o.withOptional false).header types, "", by simp, by simp [h, himport]⟩
  cases o with
  | java o => exact Java.header_optional o
  | python o => exact Python.header_optional o types
  | _ => exact hsame rfl rfl

theorem ownWarnings_withOptional (o : LanguageOptions) (b : Bool) :
    (o.withOptional b).ownWarnings = o.ownWarnings := by
  cases o <;> rfl

end LanguageOptions

/-- For every document and all options with the switch off and on: the same types are emitted in
the same order. Their definitions have one layout of members, and with the switch on every member
is that of the other run as one that may be missing; it keeps its identifier and what keeps its
key, and its type expression is made from the other one as the language has it. The header gets
the import of what such type expressions use, and the warnings stay. -/
theorem the_switch_changes_members_and_nothing_else (o : LanguageOptions) (v : Json) :
    let off := o.withOptional false
    let on := o.withOptional true
    let types := off.emitted v
    (o = off ∨ o = on) ∧ on.emitted v = types ∧
      (∀ t ∈ types, o.RewritesDefinition t ∧ ∀ f ∈ t.fields,
        on.slot f = { off.slot f with type := o.optionalType (off.slot f).type }) ∧
      (∃ before behind, off.header types = before ++ behind ∧
        on.header types = before ++ o.optionalImport types ++ behind) ∧
      (on.generation v).warnings = (off.generation v).warnings := by
  intro off on types
  have hself : o = off ∨ o = on := by
    have hself := o.withOptional_self
    cases hb : o.shared.optionalProperties with
    | false => exact .inl (hb ▸ hself).symm
    | true => exact .inr (hb ▸ hself).symm
  have hemitted (b : Bool) : (o.withOptional b).emitted v = (o.rootShape v).types := by
    rw [LanguageOptions.emitted_eq, o.rootShape_withOptional b v]
  have hwords : ∀ t ∈ types, ∀ f ∈ t.fields, f.2.NamedByWord := by
    intro t ht f hf
    have htypes : t ∈ (o.rootShape v).types := hemitted false ▸ ht
    rw [Shape.types_eq] at htypes
    exact Shape.namedByWord_of_within
      (Shape.mem_objectTypes.mp (mem_of_mem_firstsBy htypes)) hf
  have hwarnings (b : Bool) : ((o.withOptional b).generation v).warnings =
      (o.warnings (o.rootShape v)).map Warning.text := by
    rw [LanguageOptions.generation, LanguageOptions.warnings, o.rootShape_withOptional b v,
      o.ownWarnings_withOptional b, LanguageOptions.warnings]
  refine ⟨hself, (hemitted true).trans (hemitted false).symm, ?_, o.header_optional types,
    (hwarnings true).trans (hwarnings false).symm⟩
  intro t ht
  exact ⟨o.rewritesDefinition (hwords t ht), fun f hf => o.slot_optional (hwords t ht f hf)⟩

/-- A parameter that has a question mark for its default of null gets no second one. -/
example :
    let f : Field := ("owner", .object "Owner" [])
    let o : LanguageOptions := .kotlin { useDefaultValues := true }
    (o.withOptional false).slot f = ⟨"owner", none, "Owner?"⟩ ∧
      (o.withOptional true).slot f = ⟨"owner", none, "Owner?"⟩ := by
  decide +kernel

end TypeSketch
