-- Type expressions: the types that the fields of a document's objects refer to
-- are named by words, so a type expression is spelled with word characters and
-- with the marks of the language.
import TypeSketch.Proofs.Naming.Identifier
import TypeSketch.Proofs.Shape.Tree
import TypeSketch.Proofs.Text.Lines

namespace TypeSketch

/-- A key becomes a word as the name of a type. -/
theorem isWord_typeName (key : String) : Naming.IsWord (typeName key) :=
  Naming.isWord_convertKey .pascal (by decide) ⟨by decide, by decide⟩ key

namespace Shape

open Text

/-- The object inside all arrays, if there is one, has a name of some kind. -/
def NamedBy (P : String → Prop) (s : Shape) : Prop := ∀ n fs, s.innermost = .object n fs → P n

section

variable {P : String → Prop} (item : ∀ n, P n → P (n ++ "Item"))
include item

theorem namedBy_infer {name : String} (h : P name) (v : Json) : (infer name v).NamedBy P := by
  induction v generalizing name with
  | arr vs ih =>
    cases vs with
    | nil => simp [infer, inferElement, NamedBy, innermost]
    | cons v r =>
      rw [infer, inferElement]
      exact ih v List.mem_cons_self (item name h)
  | obj es _ =>
    intro n fs hshape
    have hname : name = n := congrArg Shape.name hshape
    exact hname ▸ h
  | _ => simp [infer, NamedBy, innermost]

/-- Where keys and the root have names of a kind, every shape of a document has. -/
theorem namedBy_within (key : ∀ k, P (typeName k)) {s : Shape} {name : String} (hname : P name)
    {v : Json} (h : s.Within (infer name v)) : s.NamedBy P := by
  induction v generalizing name with
  | arr vs ih =>
    rw [infer, within_array] at h
    rcases h with rfl | h
    · exact namedBy_infer item hname (.arr vs)
    · cases vs with
      | nil =>
        rw [inferElement, within_scalar] at h
        simp [h, NamedBy, innermost]
      | cons v r => exact ih v List.mem_cons_self (item name hname) h
  | obj es ih =>
    rw [infer, within_object] at h
    rcases h with rfl | ⟨f, hf, h⟩
    · exact namedBy_infer item hname (.obj es)
    · rw [inferFields_eq, List.mem_map] at hf
      obtain ⟨e, he, rfl⟩ := hf
      exact ih e he (key e.1) h
  | _ =>
    rw [infer, within_scalar] at h
    simp [h, NamedBy, innermost]

end

/-- The object inside all arrays, if there is one, is named by a word. -/
def NamedByWord (s : Shape) : Prop := ∀ n fs, s.innermost = .object n fs → Naming.IsWord n

theorem isWord_item (n : String) (h : Naming.IsWord n) : Naming.IsWord (n ++ "Item") :=
  h.append ⟨by decide, by decide⟩

/-- The shape of every field is named after its key, so by a word. -/
theorem namedByWord_of_within {t : ObjectType} {rootName : String} {v : Json}
    (h : t.shape.Within (infer rootName v)) {f : Field} (hf : f ∈ t.fields) :
    f.2.NamedByWord := by
  obtain ⟨es, hes⟩ := fields_of_within h
  rw [hes, inferFields_eq, List.mem_map] at hf
  obtain ⟨e, _, rfl⟩ := hf
  exact namedBy_infer isWord_item (isWord_typeName e.1) e.2

/-- Under a root that is named by a word, every shape of a document is. -/
theorem namedByWord_within {s : Shape} {name : String} (hname : Naming.IsWord name) {v : Json}
    (h : s.Within (infer name v)) : s.NamedByWord :=
  namedBy_within isWord_item isWord_typeName hname h

/-- So every object of the document is. -/
theorem isWord_name_of_within {t : ObjectType} {rootName : String} (hroot : Naming.IsWord rootName)
    {v : Json} (h : t.shape.Within (infer rootName v)) : Naming.IsWord t.name :=
  namedByWord_within hroot h t.name t.fields rfl

/-- A mark that no word holds stands in the name of an object only if it does in that of the
root. -/
theorem not_mem_name_of_within {t : ObjectType} {rootName : String} {c : Char}
    (hc : isWordChar c = false) (hroot : c ∉ rootName.toList) {v : Json}
    (h : t.shape.Within (infer rootName v)) : c ∉ t.name.toList := by
  have hitem (n : String) (hn : c ∉ n.toList) : c ∉ (n ++ "Item").toList := by
    have hword : Naming.IsWord "Item" := ⟨by decide, by decide⟩
    rw [String.toList_append, List.mem_append, not_or]
    exact ⟨hn, hword.not_mem hc⟩
  exact namedBy_within hitem (fun k => (isWord_typeName k).not_mem hc) hroot h t.name t.fields rfl

/-- A law of the shapes that are named by words holds if it holds of scalars and of objects with
such a name, and passes from the items to the array. -/
theorem NamedByWord.ind {motive : Shape → Prop} (scalar : ∀ k, motive (.scalar k))
    (array : ∀ n e, motive e → motive (.array n e))
    (object : ∀ n fs, Naming.IsWord n → motive (.object n fs)) {s : Shape} (h : s.NamedByWord) :
    motive s := by
  induction s with
  | scalar k => exact scalar k
  | array n e ih => exact array n e (ih h)
  | object n fs _ => exact object n fs (h n fs rfl)

/-- A text of word characters and some marks. -/
def Spelled (marks : List Char) (s : String) : Prop :=
  ∀ c ∈ s.toList, isWordChar c = true ∨ c ∈ marks

instance (marks : List Char) (s : String) : Decidable (Spelled marks s) :=
  inferInstanceAs (Decidable (∀ c ∈ s.toList, isWordChar c = true ∨ c ∈ marks))

theorem Spelled.append {marks : List Char} {s t : String} (hs : Spelled marks s)
    (ht : Spelled marks t) : Spelled marks (s ++ t) := by
  intro c hc
  rw [String.toList_append, List.mem_append] at hc
  exact hc.elim (hs c) (ht c)

theorem spelled_word {marks : List Char} {s : String} (h : Naming.IsWord s) : Spelled marks s :=
  fun c hc => .inl (h.chars c hc)

/-- What is neither a word character nor a mark does not occur. -/
theorem Spelled.not_mem {marks : List Char} {s : String} (h : Spelled marks s) {c : Char}
    (hword : isWordChar c = false) (hmark : c ∉ marks) : c ∉ s.toList := by
  intro hc
  rcases h c hc with hc | hc
  · rw [hword] at hc
    cases hc
  · exact hmark hc

theorem Spelled.oneLine {marks : List Char} {s : String} (h : Spelled marks s)
    (hmark : '\n' ∉ marks) : OneLine s :=
  h.not_mem (by decide) hmark

/-- Type expressions that spell a scalar, an array of what is spelled and the name of an object
spell everything. -/
theorem spelled_typeOf {marks : List Char} {typeOf : Shape → String}
    (scalar : ∀ k, Spelled marks (typeOf (.scalar k)))
    (array : ∀ n e, Spelled marks (typeOf e) → Spelled marks (typeOf (.array n e)))
    (object : ∀ n fs, Naming.IsWord n → Spelled marks (typeOf (.object n fs)))
    {s : Shape} (h : s.NamedByWord) : Spelled marks (typeOf s) :=
  h.ind (motive := fun s => Spelled marks (typeOf s)) scalar array object

/-- The same for type expressions that put the items of an array between two words and write an
object by its name. -/
theorem spelled_wrapped {marks : List Char} {typeOf : Shape → String} {before behind : String}
    (array : ∀ n e, typeOf (.array n e) = before ++ typeOf e ++ behind)
    (object : ∀ n fs, typeOf (.object n fs) = n) (scalar : ∀ k, Spelled marks (typeOf (.scalar k)))
    (hbefore : Spelled marks before) (hbehind : Spelled marks behind) {s : Shape}
    (h : s.NamedByWord) : Spelled marks (typeOf s) := by
  apply spelled_typeOf scalar _ _ h
  · intro n e he
    rw [array]
    exact (hbefore.append he).append hbehind
  · intro n fs hn
    rw [object]
    exact spelled_word hn

end Shape

end TypeSketch
