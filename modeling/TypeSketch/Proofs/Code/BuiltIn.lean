-- Types with the names of built-in types. The type of an object below the root is named
-- after a key, and nothing keeps the name away from the types that a language has of its
-- own.
import TypeSketch.Code.Emit
import TypeSketch.Proofs.Naming.Convention
import TypeSketch.Proofs.Shape.Expression
import TypeSketch.Proofs.Shape.Position

namespace TypeSketch

open Text Naming

/-! ## Names below the root -/

namespace Json

/-- The key of the entry one step down; an item of an array has none. -/
def keyBelow? : Step → Json → Option String
  | .entry i, obj es => es[i]?.map Prod.fst
  | _, _ => none

/-- The key of the entry to which the last step of a position leads. -/
def keyAt? (v : Json) : Position → Option String
  | [] => none
  | [s] => v.keyBelow? s
  | s :: t :: p => (v.below? s).bind (·.keyAt? (t :: p))

end Json

namespace Shape

theorem name_of_infer {n m : String} {v : Json} {fs : List Field}
    (h : infer n v = object m fs) : m = n := by
  cases v with
  | obj es => exact (congrArg Shape.name h).symm
  | _ => cases h

/-- One step below the root an object is named after its key. The item of an array has the name of
the array, with a mark behind it. -/
theorem name_below {n m : String} {v : Json} {s : Step} {fs : List Field}
    (h : (infer n v).below? s = some (object m fs)) :
    (∃ key, v.keyBelow? s = some key ∧ m = typeName key) ∨
      v.keyBelow? s = none ∧ m = n ++ "Item" := by
  rcases below?_infer_cases h with ⟨i, es, key, w, rfl, rfl, he, hw⟩ | ⟨rfl, hw | ⟨w, -, hw⟩⟩
  · exact .inl ⟨key, by rw [Json.keyBelow?, he, Option.map_some], name_of_infer hw.symm⟩
  · cases hw
  · refine .inr ⟨?_, name_of_infer hw.symm⟩
    cases v <;> rfl

/-- So is every object below the root. -/
theorem name_at {n m : String} {v : Json} {p : Position} {fs : List Field} (hp : p ≠ [])
    (h : (infer n v).at? p = some (object m fs)) :
    (∃ key, v.keyAt? p = some key ∧ m = typeName key) ∨
      v.keyAt? p = none ∧ ∃ x, m = x ++ "Item" := by
  induction p generalizing n v with
  | nil => exact absurd rfl hp
  | cons s p ih =>
    obtain ⟨e, hs, he⟩ := Option.bind_eq_some_iff.mp h
    cases p with
    | nil =>
      cases he
      exact (name_below hs).imp_right fun hitem => ⟨hitem.1, n, hitem.2⟩
    | cons t p =>
      rcases of_below?_infer hs with rfl | ⟨k, w, hw, rfl⟩
      · cases t <;> cases he
      · rw [Json.keyAt?, hw]
        exact ih (List.cons_ne_nil t p) he

end Shape

theorem typeName_eq_iff (key word : String) :
    typeName key = typeName word ↔
      Convention.typeNames.told key = Convention.typeNames.told word :=
  Convention.governs_typeNames.convertKey_eq_iff key word

/-- A text that cannot be the type name of a key: it begins with a small letter, or has a character
that no word has. -/
def Nameless (s : String) : Prop :=
  s.toList.head?.any isLower = true ∨ s.toList.all isWordChar = false

instance (s : String) : Decidable (Nameless s) := inferInstanceAs (Decidable (_ ∨ _))

theorem Nameless.ne_typeName {s : String} (h : Nameless s) (key : String) : typeName key ≠ s := by
  rintro rfl
  rcases h with h | h
  · have hne : Convention.typeNames.filled (smallWords key) ≠ [] := by
      intro hnil
      cases (Convention.governs_typeNames.identifier_of_nil hnil).1
    have hsmall := Convention.governs_typeNames.small_told key
    rw [typeName, Convention.governs_typeNames.identifier_eq hne,
      Convention.governs_typeNames.joinChars_parted hsmall, Option.any_eq_true] at h
    obtain ⟨c, hc, hlower⟩ := h
    rw [isLower_head_pascal hsmall hne c hc] at hlower
    cases hlower
  · rw [List.all_eq_false] at h
    obtain ⟨c, hc, hword⟩ := h
    exact hword ((isWord_typeName key).chars c hc)

/-! ## Built-in types -/

/-- The word that tells the name of a language's built-in type for a kind of value, where a key
can give a type that name. -/
def Language.ownWord? : Language → Scalar → Option String
  | .python, .null => some "none"
  | .python, .any => some "any"
  | .rust, .string | .java, .string | .kotlin, .string | .swift, .string => some "string"
  | .java, .null | .java, .any => some "object"
  | .kotlin, .number | .swift, .number => some "double"
  | .kotlin, .boolean => some "boolean"
  | .swift, .boolean => some "bool"
  | .kotlin, .null | .kotlin, .any | .swift, .null | .swift, .any => some "any"
  | _, _ => none

namespace LanguageOptions

/-- Of the built-in types only that of null in TypeScript depends on the options. -/
theorem of_typeOf_scalar {P : Language → Scalar → String → Prop}
    (hdefault : ∀ l k, P l k ((default l).typeOf (.scalar k)))
    (hloose : P .typescript .null "any") (o : LanguageOptions) (k : Scalar) :
    P o.language k (o.typeOf (.scalar k)) := by
  cases o with
  | typescript o =>
    cases k with
    | null =>
      rw [typeOf, TypeScript.typeOf, TypeScript.scalarType]
      split
      · exact hdefault .typescript .null
      · exact hloose
    | _ => exact hdefault .typescript _
  | javascript o => exact hdefault .javascript k
  | go o => exact hdefault .go k
  | python o => exact hdefault .python k
  | rust o => exact hdefault .rust k
  | java o => exact hdefault .java k
  | csharp o => exact hdefault .csharp k
  | kotlin o => exact hdefault .kotlin k
  | swift o => exact hdefault .swift k
  | php o => exact hdefault .php k

/-- A built-in type has the name that its word gives, or one that no key gives. -/
theorem name_of_typeOf_scalar (o : LanguageOptions) (k : Scalar) :
    (∀ w ∈ o.language.ownWord? k,
        o.typeOf (.scalar k) = typeName w ∧ Convention.typeNames.told w = [w]) ∧
      (o.language.ownWord? k = none → Nameless (o.typeOf (.scalar k))) := by
  apply of_typeOf_scalar (P := fun l k s => (∀ w ∈ l.ownWord? k,
    s = typeName w ∧ Convention.typeNames.told w = [w]) ∧ (l.ownWord? k = none → Nameless s))
  · intro l k
    cases l <;> cases k <;> decide
  · decide

/-- Nor has it the name of an array's items. -/
theorem typeOf_scalar_ne_item (o : LanguageOptions) (k : Scalar) (x : String) :
    x ++ "Item" ≠ o.typeOf (.scalar k) := by
  have hend : ¬ "Item".toList <:+ (o.typeOf (.scalar k)).toList := by
    apply of_typeOf_scalar (P := fun _ _ s => ¬ "Item".toList <:+ s.toList)
    · intro l k
      cases l <;> cases k <;> decide
    · decide
  intro h
  rw [← h, String.toList_append] at hend
  exact hend (List.suffix_append _ _)

/-- Whether the type of an object stands behind a pointer or in a box. -/
def wraps : LanguageOptions → Bool
  | go o => o.usePointers
  | rust o => o.useBox
  | _ => false

theorem typeOf_object {o : LanguageOptions} (h : o.wraps = false) (n : String) (fs : List Field) :
    o.typeOf (.object n fs) = n := by
  cases o with
  | go o => exact if_neg (ne_true_of_eq_false h)
  | rust o => exact if_neg (ne_true_of_eq_false h)
  | _ => rfl

/-- A pointer or a box is no built-in type. -/
theorem typeOf_object_ne {o : LanguageOptions} (h : o.wraps = true) (n : String) (fs : List Field)
    (k : Scalar) : o.typeOf (.object n fs) ≠ o.typeOf (.scalar k) := by
  intro heq
  have hhead := congrArg (·.toList.head?) heq
  cases o with
  | go o =>
    have hpointer : (go o).typeOf (.object n fs) = "*" ++ n := if_pos h
    rw [hpointer, String.toList_append] at hhead
    have hscalar : (Go.scalarType k).toList.head? ≠ some '*' := by cases k <;> decide
    exact hscalar hhead.symm
  | rust o =>
    have hbox : (rust o).typeOf (.object n fs) = "Box<" ++ n ++ ">" := if_pos h
    rw [hbox, String.append_assoc, String.toList_append] at hhead
    have hscalar : (Rust.scalarType k).toList.head? ≠ some 'B' := by cases k <;> decide
    exact hscalar hhead.symm
  | _ => cases h

end LanguageOptions

/-! ## The law -/

/-- For every document, all options of every language and every object below the root: its type
expression is that of a kind of built-in values if and only if it is the object's bare name, and
the object belongs to a key that tells the one word of the built-in type. So an object in an array
never has such a type. -/
theorem a_key_that_tells_a_built_in_type_is_taken_for_it (o : LanguageOptions) (rootName : String)
    (v : Json) (p : Position) (n : String) (fs : List Field) (k : Scalar) (hp : p ≠ [])
    (h : (Shape.infer rootName v).at? p = some (.object n fs)) :
    o.typeOf (.object n fs) = o.typeOf (.scalar k) ↔
      o.wraps = false ∧ ∃ key w, v.keyAt? p = some key ∧ o.language.ownWord? k = some w ∧
        Convention.typeNames.told key = [w] := by
  cases hwraps : o.wraps with
  | true =>
    refine iff_of_false (LanguageOptions.typeOf_object_ne hwraps n fs k) ?_
    rintro ⟨hbare, _⟩
    cases hbare
  | false =>
    rw [LanguageOptions.typeOf_object hwraps, and_iff_right rfl]
    obtain ⟨hown, hnone⟩ := o.name_of_typeOf_scalar k
    rcases Shape.name_at hp h with ⟨key, hkey, rfl⟩ | ⟨hkey, x, rfl⟩
    · cases hw : o.language.ownWord? k with
      | none =>
        refine iff_of_false ((hnone hw).ne_typeName key) ?_
        rintro ⟨_, _, _, hw, _⟩
        cases hw
      | some w =>
        rw [(hown w hw).1, typeName_eq_iff, (hown w hw).2]
        constructor
        · intro htold
          exact ⟨key, w, hkey, rfl, htold⟩
        · rintro ⟨key', w', hkey', hw, htold⟩
          cases hkey.symm.trans hkey'
          cases hw
          exact htold
    · refine iff_of_false (o.typeOf_scalar_ne_item k x) ?_
      rintro ⟨key, w, hkey', _, _⟩
      cases hkey.symm.trans hkey'

/-- In Kotlin an empty object under the key "any" has the type of all values. -/
theorem the_key_any_is_taken_for_all_values :
    let o : LanguageOptions := .kotlin {}
    let v : Json := .obj [("any", .obj [])]
    ([.entry 0] : Position) ≠ [] ∧
      (Shape.infer "Root" v).at? [.entry 0] = some (.object "Any" []) ∧
      o.typeOf (.object "Any" []) = o.typeOf (.scalar .any) := by
  intro o v
  have hp : ([.entry 0] : Position) ≠ [] := List.cons_ne_nil _ _
  have hname : typeName "any" = "Any" := by decide
  have hat : (Shape.infer "Root" v).at? [.entry 0] = some (.object "Any" []) := by
    rw [← hname]
    rfl
  have htold : Convention.typeNames.told "any" = ["any"] := by decide
  refine ⟨hp, hat, ?_⟩
  rw [a_key_that_tells_a_built_in_type_is_taken_for_it o "Root" v _ "Any" [] .any hp hat]
  exact ⟨rfl, "any", "any", rfl, rfl, htold⟩

/-- The type of an object below the root may be a built-in one: a key without words gives it the
name Object, which in Java is the type of null. -/
theorem the_empty_key_is_taken_for_null :
    ¬ ∀ (o : LanguageOptions) (rootName : String) (v : Json) (p : Position) (n : String)
      (fs : List Field) (k : Scalar), p ≠ [] →
      (Shape.infer rootName v).at? p = some (.object n fs) →
      o.typeOf (.object n fs) ≠ o.typeOf (.scalar k) := by
  intro h
  let v : Json := .obj [("", .obj [])]
  have hname : typeName "" = "Object" := by decide
  refine h (.java {}) "Root" v [.entry 0] "Object" [] .null (List.cons_ne_nil _ _) ?_ rfl
  rw [← hname]
  rfl

end TypeSketch
