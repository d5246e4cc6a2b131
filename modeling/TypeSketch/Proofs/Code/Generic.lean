-- Generic types in Java. The argument of a generic type has to be a class, so a primitive type is
-- boxed where it stands inside a list or an optional. The boxing looks at the text of a type, and
-- no type of a document's object below the root has the text of a primitive one.
import TypeSketch.Proofs.Code.BuiltIn
import TypeSketch.Proofs.Key.Word
import TypeSketch.Target.Java

namespace TypeSketch.Java

open Text Naming

/-! ## Type expressions -/

/-- A type expression: a name, or the name of a generic type with its argument. -/
inductive TypeExpr where
  | name (n : String)
  | generic (n : String) (argument : TypeExpr)
  deriving DecidableEq, Repr

namespace TypeExpr

/-- The text of a type expression. -/
def text : TypeExpr → String
  | name n => n
  | generic n a => n ++ "<" ++ a.text ++ ">"

/-- The arguments of generic types in a type expression, at any depth. -/
def arguments : TypeExpr → List TypeExpr
  | name _ => []
  | generic _ a => a :: a.arguments

/-- All names in a type expression are words. -/
def WellNamed : TypeExpr → Prop
  | name n => IsWord n
  | generic n a => IsWord n ∧ a.WellNamed

/-- The types of the language whose values are no objects. -/
def primitives : List String :=
  ["int", "long", "double", "float", "boolean", "byte", "short", "char"]

/-- Whether the values of a type are objects. -/
def IsReference : TypeExpr → Prop
  | name n => n ∉ primitives
  | generic _ _ => True

/-- A name and a generic type differ in a mark that no word has. -/
theorem name_ne_generic {n m : String} (hn : IsWord n) (a : TypeExpr) :
    (name n).text ≠ (generic m a).text := by
  intro h
  apply hn.not_mem (c := '<') (by decide)
  rw [show n = (generic m a).text from h, text]
  simp

/-- A text is that of one type expression at most. -/
theorem text_inj {e e' : TypeExpr} (he : e.WellNamed) (he' : e'.WellNamed)
    (h : e.text = e'.text) : e = e' := by
  induction e generalizing e' with
  | name n =>
    cases e' with
    | name m => exact congrArg name h
    | generic m b => exact absurd h (name_ne_generic he b)
  | generic n a ih =>
    cases e' with
    | name m => exact absurd h.symm (name_ne_generic he' a)
    | generic m b =>
      have hchars : n.toList ++ '<' :: (a.text.toList ++ ['>']) =
          m.toList ++ '<' :: (b.text.toList ++ ['>']) := by
        simpa [text, ← String.toList_inj] using h
      have hname : n = m := by
        rw [← Key.firstWord_append he.1 (c := '<') (by decide) (a.text.toList ++ ['>']), hchars,
          Key.firstWord_append he'.1 (by decide)]
      subst hname
      have hargument := List.append_cancel_right (List.cons.inj (List.append_cancel_left hchars)).2
      rw [ih he.2 he'.2 (String.toList_inj.mp hargument)]

end TypeExpr

open TypeExpr

/-! ## Boxed types -/

/-- Boxing takes no other type than a primitive one. -/
theorem boxed_of_notMem {type : String} (h : type ∉ primitives) : boxed type = type := by
  have hkeys : boxes.map Prod.fst = primitives := by decide
  have hnone : boxes.lookup type = none := by
    rw [List.lookup_eq_none_iff]
    intro p hp
    rw [bne_iff_ne]
    rintro rfl
    exact h (hkeys ▸ List.mem_map_of_mem hp)
  rw [boxed, hnone, Option.getD_none]

/-- Boxing gives no primitive type. -/
theorem boxed_notMem_primitives (type : String) : boxed type ∉ primitives := by
  have hboxes : ∀ type ∈ primitives, boxed type ∉ primitives := by decide
  by_cases h : type ∈ primitives
  · exact hboxes type h
  · rwa [boxed_of_notMem h]

theorem isWord_boxed {type : String} (h : IsWord type) : IsWord (boxed type) := by
  have hboxes : ∀ type ∈ primitives,
      (boxed type).toList ≠ [] ∧ ∀ c ∈ (boxed type).toList, isWordChar c = true := by decide
  by_cases hmem : type ∈ primitives
  · exact ⟨(hboxes type hmem).1, (hboxes type hmem).2⟩
  · rwa [boxed_of_notMem hmem]

namespace TypeExpr

/-- A type expression as the argument of a generic type. -/
def boxed : TypeExpr → TypeExpr
  | name n => name (Java.boxed n)
  | generic n a => generic n a

/-- The text of a generic type is that of no primitive one. -/
theorem text_boxed (e : TypeExpr) : e.boxed.text = Java.boxed e.text := by
  cases e with
  | name n => rfl
  | generic n a =>
    have hplain : ∀ type ∈ primitives, '<' ∉ type.toList := by decide
    have hmark : '<' ∈ (generic n a).text.toList := by simp [text]
    exact (boxed_of_notMem fun h => hplain _ h hmark).symm

theorem arguments_boxed (e : TypeExpr) : e.boxed.arguments = e.arguments := by
  cases e <;> rfl

theorem isReference_boxed (e : TypeExpr) : e.boxed.IsReference := by
  cases e with
  | name n => exact boxed_notMem_primitives n
  | generic n a => trivial

theorem WellNamed.boxed {e : TypeExpr} (h : e.WellNamed) : e.boxed.WellNamed := by
  cases e with
  | name n => exact isWord_boxed h
  | generic n a => exact h

/-- With a boxed argument all arguments are references, if those inside it are. -/
theorem references_generic (n : String) {e : TypeExpr} (h : ∀ a ∈ e.arguments, a.IsReference) :
    ∀ a ∈ (generic n e.boxed).arguments, a.IsReference := by
  rw [arguments, List.forall_mem_cons, arguments_boxed]
  exact ⟨isReference_boxed e, h⟩

end TypeExpr

/-! ## Types of members -/

/-- The type expression of a shape. -/
def exprOf : Shape → TypeExpr
  | .scalar k => .name (scalarType k)
  | .array _ e => .generic "List" (exprOf e).boxed
  | .object n _ => .name n

theorem text_exprOf (s : Shape) : (exprOf s).text = typeOf s := by
  induction s with
  | scalar k => rfl
  | array n e ih => rw [exprOf, text, text_boxed, ih, typeOf]; rfl
  | object n fs _ => rfl

theorem wellNamed_exprOf {s : Shape} (h : s.NamedByWord) : (exprOf s).WellNamed := by
  refine h.ind (motive := fun s => (exprOf s).WellNamed) (fun k => ?_) (fun n e he => ?_)
    fun n fs hn => hn
  · cases k <;> exact ⟨by decide, by decide⟩
  · exact ⟨⟨by decide, by decide⟩, he.boxed⟩

theorem references_exprOf (s : Shape) : ∀ a ∈ (exprOf s).arguments, a.IsReference := by
  induction s with
  | array n e ih => exact references_generic "List" ih
  | _ => simp [exprOf, arguments]

/-- The type expression of the member for a field. -/
def memberExpr (o : Options) (f : Field) : TypeExpr :=
  if o.useOptional && o.optionalProperties then .generic "Optional" (exprOf f.2).boxed
  else exprOf f.2

theorem text_memberExpr (o : Options) (f : Field) :
    (memberExpr o f).text = (member o f).type := by
  simp only [memberExpr, member]
  split
  · rw [text, text_boxed, text_exprOf, boxedTypeOf]
    rfl
  · exact text_exprOf f.2

theorem wellNamed_memberExpr (o : Options) {f : Field} (h : f.2.NamedByWord) :
    (memberExpr o f).WellNamed := by
  unfold memberExpr
  split
  · exact ⟨⟨by decide, by decide⟩, (wellNamed_exprOf h).boxed⟩
  · exact wellNamed_exprOf h

theorem references_memberExpr (o : Options) (f : Field) :
    ∀ a ∈ (memberExpr o f).arguments, a.IsReference := by
  unfold memberExpr
  split
  · exact references_generic "Optional" (references_exprOf f.2)
  · exact references_exprOf f.2

/-! ## Names of objects -/

/-- No object below the root has the name of a primitive type. -/
theorem name_notMem_primitives {rootName n : String} {v : Json} {p : Position} {fs : List Field}
    (hp : p ≠ []) (h : (Shape.infer rootName v).at? p = some (.object n fs)) :
    n ∉ primitives := by
  have hnameless : ∀ type ∈ primitives, Nameless type := by decide
  have hend : ∀ type ∈ primitives, ¬ "Item".toList <:+ type.toList := by decide
  intro hmem
  rcases Shape.name_at hp h with ⟨key, -, rfl⟩ | ⟨-, x, rfl⟩
  · exact (hnameless _ hmem).ne_typeName key rfl
  · exact hend _ hmem ⟨x.toList, String.toList_append.symm⟩

/-! ## The law -/

/-- For every document and all options. The type of a shape below the root, as it stands inside a
generic type, is no primitive one, and an object keeps its name there. The text of a member's type,
in every object, is that of exactly one type expression with words for names, and in this no
argument of a generic type, at any depth, is a primitive type. -/
theorem arguments_of_generic_types_are_references (o : Options) (rootName : String) (v : Json) :
    (∀ (p : Position) (s : Shape), p ≠ [] → (Shape.infer rootName v).at? p = some s →
      boxedTypeOf s ∉ primitives ∧ ∀ n fs, s = .object n fs → boxedTypeOf s = n) ∧
    ∀ t : ObjectType, t.shape.Within (Shape.infer rootName v) → ∀ f ∈ t.fields,
      ∃ e : TypeExpr, e.WellNamed ∧ e.text = (member o f).type ∧
        (∀ e' : TypeExpr, e'.WellNamed → e'.text = (member o f).type → e' = e) ∧
        ∀ a ∈ e.arguments, a.IsReference := by
  refine ⟨fun p s hp hs => ⟨boxed_notMem_primitives (typeOf s), ?_⟩, fun t ht f hf => ?_⟩
  · rintro n fs rfl
    exact boxed_of_notMem (name_notMem_primitives hp hs)
  · have hnamed := wellNamed_memberExpr o (Shape.namedByWord_of_within ht hf)
    refine ⟨memberExpr o f, hnamed, text_memberExpr o f, fun e he htext => ?_,
      references_memberExpr o f⟩
    exact text_inj he hnamed (htext.trans (text_memberExpr o f).symm)

/-- An object under the key of a primitive type keeps its name, and truth values are boxed inside
two lists and an optional. -/
theorem truth_values_in_lists_are_boxed :
    let o : Options := { optionalProperties := true, useOptional := true }
    let v : Json := .obj [("int", .obj []), ("rows", .arr [.arr [.bool true]])]
    let int : Shape := .object "Int" []
    let rows : Shape := .array "Rows" (.array "RowsItem" (.scalar .boolean))
    let t : ObjectType := ⟨"Root", [("int", int), ("rows", rows)]⟩
    ([.entry 0] : Position) ≠ [] ∧ (Shape.infer "Root" v).at? [.entry 0] = some int ∧
      boxedTypeOf int = "Int" ∧
      t.shape.Within (Shape.infer "Root" v) ∧ ("rows", rows) ∈ t.fields ∧
      (member o ("rows", rows)).type = "Optional<List<List<Boolean>>>" ∧
      ∃ e : TypeExpr, e.WellNamed ∧ e.text = "Optional<List<List<Boolean>>>" ∧
        ∀ a ∈ e.arguments, a.IsReference := by
  intro o v int rows t
  have hint : typeName "int" = "Int" := by decide
  have hrows : typeName "rows" = "Rows" := by decide
  have hinfer : Shape.infer "Root" v = t.shape := by
    simp only [v, Shape.infer, Shape.inferFields, Shape.inferElement, hint, hrows]
    rfl
  have hp : ([.entry 0] : Position) ≠ [] := List.cons_ne_nil _ _
  have hat : (Shape.infer "Root" v).at? [.entry 0] = some int := by
    rw [hinfer]
    rfl
  have ht : t.shape.Within (Shape.infer "Root" v) := by
    rw [hinfer]
    exact .here _
  have hf : ("rows", rows) ∈ t.fields := List.mem_cons_of_mem _ List.mem_cons_self
  have htype : (member o ("rows", rows)).type = "Optional<List<List<Boolean>>>" := by decide
  obtain ⟨hnodes, hmembers⟩ := arguments_of_generic_types_are_references o "Root" v
  obtain ⟨e, hnamed, htext, -, hargs⟩ := hmembers t ht _ hf
  exact ⟨hp, hat, (hnodes _ _ hp hat).2 _ _ rfl, ht, hf, htype, e, hnamed, htext.trans htype,
    hargs⟩

end TypeSketch.Java
