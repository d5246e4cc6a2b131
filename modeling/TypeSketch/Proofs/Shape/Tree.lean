-- Documents and shapes as trees: induction over them, what stands inside a
-- shape, and the object types of a shape as one list. A document's shape keeps
-- its keys in order and names every value after the key above it.
import TypeSketch.Shape.Flatten
import TypeSketch.Shape.Infer

namespace TypeSketch

/-! ## Induction -/

/-- A law of all documents holds if it passes from the values inside to the value around them. -/
@[elab_as_elim, induction_eliminator]
theorem Json.ind {motive : Json → Prop} (null : motive .null) (bool : ∀ b, motive (.bool b))
    (num : ∀ n, motive (.num n)) (str : ∀ s, motive (.str s))
    (arr : ∀ vs, (∀ v ∈ vs, motive v) → motive (.arr vs))
    (obj : ∀ es, (∀ e ∈ es, motive e.2) → motive (.obj es)) : ∀ v, motive v
  | .null => null
  | .bool b => bool b
  | .num n => num n
  | .str s => str s
  | .arr vs => arr vs fun v _ => ind null bool num str arr obj v
  | .obj es => obj es fun e _ => ind null bool num str arr obj e.2
decreasing_by
  · rename_i hv
    have := List.sizeOf_lt_of_mem hv
    simp only [Json.arr.sizeOf_spec]
    omega
  · rename_i he
    have := List.sizeOf_lt_of_mem he
    obtain ⟨k, v⟩ := e
    simp only [Json.obj.sizeOf_spec, Prod.mk.sizeOf_spec] at this ⊢
    omega

/-- A law of all shapes holds if it passes from the shapes inside to the shape around them. -/
@[elab_as_elim, induction_eliminator]
theorem Shape.ind {motive : Shape → Prop} (scalar : ∀ k, motive (.scalar k))
    (array : ∀ n e, motive e → motive (.array n e))
    (object : ∀ n fs, (∀ f ∈ fs, motive f.2) → motive (.object n fs)) : ∀ s, motive s
  | .scalar k => scalar k
  | .array n e => array n e (ind scalar array object e)
  | .object n fs => object n fs fun f _ => ind scalar array object f.2
decreasing_by
  · simp only [Shape.array.sizeOf_spec]
    omega
  · rename_i hf
    have := List.sizeOf_lt_of_mem hf
    obtain ⟨k, s⟩ := f
    simp only [Shape.object.sizeOf_spec, Prod.mk.sizeOf_spec] at this ⊢
    omega

namespace Shape

/-! ## What stands inside a shape -/

/-- The first shape stands in the second: it is the shape itself, or it stands in the items of an
array or in a field of an object. -/
inductive Within : Shape → Shape → Prop
  | here (s : Shape) : Within s s
  | item {s e : Shape} (n : String) : Within s e → Within s (array n e)
  | value {s : Shape} (n : String) {fs : List Field} {f : Field} :
      f ∈ fs → Within s f.2 → Within s (object n fs)

theorem Within.trans {s e root : Shape} (hs : s.Within e) (he : e.Within root) :
    s.Within root := by
  induction he with
  | here => exact hs
  | item n _ ih => exact .item n ih
  | value n hf _ ih => exact .value n hf ih

theorem within_scalar {s : Shape} {k : Scalar} : s.Within (scalar k) ↔ s = scalar k := by
  constructor
  · rintro ⟨⟩
    rfl
  · rintro rfl
    exact .here _

theorem within_array {s e : Shape} {n : String} :
    s.Within (array n e) ↔ s = array n e ∨ s.Within e := by
  constructor
  · intro h
    cases h with
    | here => exact .inl rfl
    | item _ he => exact .inr he
  · rintro (rfl | he)
    · exact .here _
    · exact .item _ he

theorem within_object {s : Shape} {n : String} {fs : List Field} :
    s.Within (object n fs) ↔ s = object n fs ∨ ∃ f ∈ fs, s.Within f.2 := by
  constructor
  · intro h
    cases h with
    | here => exact .inl rfl
    | value _ hf hs => exact .inr ⟨_, hf, hs⟩
  · rintro (rfl | ⟨f, hf, hs⟩)
    · exact .here _
    · exact .value _ hf hs

end Shape

/-- An object type as the shape it comes from. -/
def ObjectType.shape (t : ObjectType) : Shape := .object t.name t.fields

namespace Shape

/-! ## Object types in order -/

theorem objectsOfFields_eq (fs : List Field) :
    objectsOfFields fs = fs.flatMap fun f => f.2.objects := by
  induction fs with
  | nil => rfl
  | cons f r ih => rw [objectsOfFields, ih, List.flatMap_cons]

/-- The object types in a shape, its own last. -/
def objectTypes (s : Shape) : List ObjectType := s.objects.filterMap objectType?

@[simp]
theorem objectTypes_scalar (k : Scalar) : (scalar k).objectTypes = [] := rfl

@[simp]
theorem objectTypes_array (n : String) (e : Shape) : (array n e).objectTypes = e.objectTypes := by
  simp [objectTypes, objects]

@[simp]
theorem objectTypes_object (n : String) (fs : List Field) :
    (object n fs).objectTypes = (fs.flatMap fun f => f.2.objectTypes) ++ [⟨n, fs⟩] := by
  simp only [objectTypes, objects, objectsOfFields_eq, List.filterMap_append,
    List.filterMap_flatMap]
  rfl

theorem objects_eq (s : Shape) : s.objects = s.objectTypes.map ObjectType.shape := by
  induction s with
  | scalar k => rfl
  | array n e ih => rw [objects, objectTypes_array, ih]
  | object n fs ih =>
    rw [objects, objectTypes_object, objectsOfFields_eq, List.map_append, List.map_flatMap]
    congr 1
    rw [List.flatMap_def, List.flatMap_def, List.map_congr_left ih]

theorem nestedAndRoot_array (n : String) (e : Shape) :
    (array n e).nestedAndRoot = e.objects ++ [array n e] := rfl

theorem nestedAndRoot_object (n : String) (fs : List Field) :
    (object n fs).nestedAndRoot = (object n fs).objects := rfl

/-- The list of object types misses no object of the tree and adds none. -/
theorem mem_objectTypes {t : ObjectType} {root : Shape} :
    t ∈ root.objectTypes ↔ t.shape.Within root := by
  induction root with
  | scalar k => simp [within_scalar, ObjectType.shape]
  | array n e ih => simp [within_array, ObjectType.shape, ih]
  | object n fs ih =>
    have hself : t = ⟨n, fs⟩ ↔ t.shape = object n fs := by
      cases t
      simp [ObjectType.shape]
    simp only [objectTypes_object, List.mem_append, List.mem_flatMap, List.mem_singleton,
      within_object, hself]
    constructor
    · rintro (⟨f, hf, ht⟩ | h)
      · exact .inr ⟨f, hf, (ih f hf).mp ht⟩
      · exact .inl h
    · rintro (h | ⟨f, hf, ht⟩)
      · exact .inr h
      · exact .inl ⟨f, hf, (ih f hf).mpr ht⟩

/-! ## The shape of a document -/

theorem inferFields_eq (es : List (String × Json)) :
    inferFields es = es.map fun e => (e.1, infer (typeName e.1) e.2) := by
  induction es with
  | nil => rfl
  | cons e r ih => rw [inferFields, ih, List.map_cons]

/-- An object in the shape of a document has the fields of an object of the document. -/
theorem fields_of_within {t : ObjectType} {rootName : String} {v : Json}
    (h : t.shape.Within (infer rootName v)) : ∃ es, t.fields = inferFields es := by
  induction v generalizing rootName with
  | null => simp [infer, within_scalar, ObjectType.shape] at h
  | bool b => simp [infer, within_scalar, ObjectType.shape] at h
  | num n => simp [infer, within_scalar, ObjectType.shape] at h
  | str s => simp [infer, within_scalar, ObjectType.shape] at h
  | arr vs ih =>
    simp only [infer, within_array, ObjectType.shape, reduceCtorEq, false_or] at h
    cases vs with
    | nil => simp [inferElement, within_scalar] at h
    | cons v r => exact ih v List.mem_cons_self h
  | obj es ih =>
    rw [infer, within_object] at h
    rcases h with h | ⟨f, hf, h⟩
    · exact ⟨es, (Shape.object.inj h).2⟩
    · rw [inferFields_eq, List.mem_map] at hf
      obtain ⟨e, he, rfl⟩ := hf
      exact ih e he h

end Shape

/-! ## The keys of a document -/

namespace Json

mutual

/-- The keys of all objects in a document. -/
def keys : Json → List String
  | arr vs => keysOfItems vs
  | obj es => keysOfEntries es
  | _ => []

/-- The keys of all objects in the items of an array. -/
def keysOfItems : List Json → List String
  | [] => []
  | v :: r => v.keys ++ keysOfItems r

/-- The keys of an object, each before those of the objects in its value. -/
def keysOfEntries : List (String × Json) → List String
  | [] => []
  | (k, v) :: r => k :: v.keys ++ keysOfEntries r

end

theorem keysOfItems_eq (vs : List Json) : keysOfItems vs = vs.flatMap keys := by
  induction vs with
  | nil => rfl
  | cons v r ih => rw [keysOfItems, ih, List.flatMap_cons]

theorem keysOfEntries_eq (es : List (String × Json)) :
    keysOfEntries es = es.flatMap fun e => e.1 :: e.2.keys := by
  induction es with
  | nil => rfl
  | cons e r ih => rw [keysOfEntries, ih, List.flatMap_cons]

end Json

/-- The keys of an object in the tree are keys of the document. -/
theorem Shape.mem_keys_of_within {t : ObjectType} {rootName : String} {v : Json}
    (h : t.shape.Within (infer rootName v)) {f : Field} (hf : f ∈ t.fields) : f.1 ∈ v.keys := by
  induction v generalizing rootName with
  | null => simp [infer, within_scalar, ObjectType.shape] at h
  | bool b => simp [infer, within_scalar, ObjectType.shape] at h
  | num n => simp [infer, within_scalar, ObjectType.shape] at h
  | str s => simp [infer, within_scalar, ObjectType.shape] at h
  | arr vs ih =>
    simp only [infer, within_array, ObjectType.shape, reduceCtorEq, false_or] at h
    rw [Json.keys, Json.keysOfItems_eq, List.mem_flatMap]
    cases vs with
    | nil => simp [inferElement, within_scalar] at h
    | cons v r => exact ⟨v, List.mem_cons_self, ih v List.mem_cons_self h⟩
  | obj es ih =>
    rw [infer, inferFields_eq, within_object] at h
    rw [Json.keys, Json.keysOfEntries_eq, List.mem_flatMap]
    rcases h with h | ⟨g, hg, h⟩
    · rw [(Shape.object.inj h).2, List.mem_map] at hf
      obtain ⟨e, he, rfl⟩ := hf
      exact ⟨e, he, List.mem_cons_self⟩
    · obtain ⟨e, he, rfl⟩ := List.mem_map.mp hg
      exact ⟨e, he, List.mem_cons_of_mem _ (ih e he h)⟩

end TypeSketch
