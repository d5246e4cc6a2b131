-- The order of the types to be defined. In the full list of object types every
-- type stands behind the types of its fields. Keeping only the first type of
-- each name leaves that so, whichever types share a name.
import TypeSketch.Proofs.Shape.Tree
import Mathlib.Logic.Relation

namespace TypeSketch

/-! ## The first of each name -/

section Firsts

variable {α : Type} {name : α → String}

theorem mem_of_mem_firstsBy {l : List α} {a : α} (h : a ∈ firstsBy name l) : a ∈ l := by
  induction l with
  | nil => exact h
  | cons b r ih =>
    rw [firstsBy, List.mem_cons] at h
    rcases h with rfl | h
    · exact List.mem_cons_self
    · exact List.mem_cons_of_mem _ (ih (List.mem_filter.mp h).1)

theorem nodup_firstsBy (l : List α) : ((firstsBy name l).map name).Nodup := by
  induction l with
  | nil => exact List.nodup_nil
  | cons a r ih =>
    rw [firstsBy, List.map_cons, List.nodup_cons]
    refine ⟨?_, ih.sublist (List.filter_sublist.map name)⟩
    intro h
    obtain ⟨b, hb, hba⟩ := List.mem_map.mp h
    simpa [hba] using (List.mem_filter.mp hb).2

/-- Every name stays. -/
theorem exists_mem_firstsBy (name : α → String) {l : List α} {a : α} (h : a ∈ l) :
    ∃ b ∈ firstsBy name l, name b = name a := by
  induction l with
  | nil => exact absurd h List.not_mem_nil
  | cons c r ih =>
    by_cases hc : name c = name a
    · exact ⟨c, List.mem_cons_self, hc⟩
    · rcases List.mem_cons.mp h with rfl | h
      · exact absurd rfl hc
      · obtain ⟨b, hb, hba⟩ := ih h
        refine ⟨b, List.mem_cons_of_mem _ (List.mem_filter.mpr ⟨hb, ?_⟩), hba⟩
        simpa [hba] using Ne.symm hc

theorem firstsBy_map {β : Type} (f : β → α) (l : List β) :
    firstsBy name (l.map f) = (firstsBy (fun b => name (f b)) l).map f := by
  induction l with
  | nil => rfl
  | cons b r ih => simp only [firstsBy, List.map_cons, ih, List.filter_map, Function.comp_def]

/-- One more member at the end stays if its name is new. -/
theorem firstsBy_concat (l : List α) (a : α) :
    firstsBy name (l ++ [a]) =
      firstsBy name l ++ if name a ∈ l.map name then [] else [a] := by
  induction l with
  | nil => rfl
  | cons b r ih =>
    rw [List.cons_append, firstsBy, ih, firstsBy, List.filter_append, List.cons_append]
    by_cases hb : name a = name b
    · by_cases hr : name a ∈ r.map name <;> simp_all
    · by_cases hr : name a ∈ r.map name <;> simp_all

end Firsts

namespace Shape

/-- The types to be defined are the first object types of each name; a root that is no object
plays no part. -/
theorem types_eq (root : Shape) : root.types = firstsBy ObjectType.name root.objectTypes := by
  have hshapes (ts : List ObjectType) :
      (firstsBy name (ts.map ObjectType.shape)).filterMap objectType? =
        firstsBy ObjectType.name ts := by
    rw [firstsBy_map, List.filterMap_map]
    exact List.filterMap_some
  cases root with
  | scalar k => rfl
  | array n e =>
    rw [types, distinct, nestedAndRoot_array, firstsBy_concat, List.filterMap_append, objects_eq,
      hshapes, objectTypes_array]
    split
    · exact List.append_nil _
    · exact List.append_nil _
  | object n fs => rw [types, distinct, nestedAndRoot_object, objects_eq, hshapes]

theorem within_of_mem_types {t : ObjectType} {root : Shape} (h : t ∈ root.types) :
    t.shape.Within root := by
  rw [types_eq] at h
  exact mem_objectTypes.mp (mem_of_mem_firstsBy h)

end Shape

/-! ## References -/

/-- A type refers to a name: inside the arrays of some field there is an object of that name. -/
def ObjectType.RefersTo (t : ObjectType) (n : String) : Prop :=
  ∃ f ∈ t.fields, ∃ fs, f.2.innermost = .object n fs

/-- Every type in a list refers only to names that are known or stand before it in the list. -/
def Grounded (known : List String) : List ObjectType → Prop
  | [] => True
  | t :: r => (∀ n, t.RefersTo n → n ∈ known) ∧ Grounded (t.name :: known) r

theorem Grounded.mono {known more : List String} {ts : List ObjectType}
    (h : Grounded known ts) (hsub : known ⊆ more) : Grounded more ts := by
  induction ts generalizing known more with
  | nil => trivial
  | cons t r ih =>
    refine ⟨fun n hn => hsub (h.1 n hn), ih h.2 ?_⟩
    exact List.cons_subset_cons _ hsub

theorem Grounded.append {known : List String} {ts us : List ObjectType} (hts : Grounded known ts)
    (hus : Grounded (ts.map ObjectType.name ++ known) us) : Grounded known (ts ++ us) := by
  induction ts generalizing known with
  | nil => exact hus
  | cons t r ih =>
    refine ⟨hts.1, ih hts.2 (hus.mono ?_)⟩
    intro n hn
    simp only [List.map_cons, List.cons_append, List.mem_cons, List.mem_append] at hn ⊢
    rcases hn with h | h | h
    · exact .inr (.inl h)
    · exact .inl h
    · exact .inr (.inr h)

/-- A type whose name is known already can be left out. -/
theorem Grounded.filter {known : List String} {ts : List ObjectType} {n : String}
    (h : Grounded known ts) (hn : n ∈ known) :
    Grounded known (ts.filter fun t => t.name ≠ n) := by
  induction ts generalizing known with
  | nil => trivial
  | cons t r ih =>
    rw [List.filter_cons]
    split
    · exact ⟨h.1, ih h.2 (List.mem_cons_of_mem _ hn)⟩
    · rename_i ht
      have hname : t.name = n := by simpa using ht
      refine (ih h.2 (List.mem_cons_of_mem _ hn)).mono ?_
      exact List.cons_subset.mpr ⟨hname ▸ hn, fun _ h => h⟩

theorem Grounded.firstsBy {known : List String} {ts : List ObjectType} (h : Grounded known ts) :
    Grounded known (firstsBy ObjectType.name ts) := by
  induction ts generalizing known with
  | nil => trivial
  | cons t r ih => exact ⟨h.1, (ih h.2).filter List.mem_cons_self⟩

/-- A grounded list in terms of places: what a type refers to is known or stands at a place
before it. -/
theorem Grounded.exists_lt {known : List String} {ts : List ObjectType} (h : Grounded known ts)
    {i : Nat} {t : ObjectType} (ht : ts[i]? = some t) {n : String} (hn : t.RefersTo n) :
    n ∈ known ∨ ∃ j < i, ∃ u, ts[j]? = some u ∧ u.name = n := by
  induction ts generalizing known i with
  | nil => simp at ht
  | cons s r ih =>
    cases i with
    | zero =>
      simp only [List.getElem?_cons_zero, Option.some.injEq] at ht
      subst ht
      exact .inl (h.1 n hn)
    | succ i =>
      rw [List.getElem?_cons_succ] at ht
      rcases ih h.2 ht with hk | ⟨j, hj, u, hu, hun⟩
      · rcases List.mem_cons.mp hk with rfl | hk
        · exact .inr ⟨0, Nat.succ_pos i, s, rfl, rfl⟩
        · exact .inl hk
      · exact .inr ⟨j + 1, Nat.succ_lt_succ hj, u, by simpa using hu, hun⟩

namespace Shape

theorem innermost_name_mem {s : Shape} {n : String} {fs : List Field}
    (h : s.innermost = object n fs) : n ∈ s.objectTypes.map ObjectType.name := by
  induction s with
  | scalar k => simp [innermost] at h
  | array m e ih => simpa using ih h
  | object m gs ih =>
    cases h
    simp

/-- The object types of a shape come with what they refer to before them. -/
theorem grounded_objectTypes (s : Shape) (known : List String) :
    Grounded known s.objectTypes := by
  induction s generalizing known with
  | scalar k => trivial
  | array n e ih => simpa using ih known
  | object n fs ih =>
    -- the lists of the fields, one behind the other, whatever is known before them
    have hfields : ∀ gs : List Field, (∀ f ∈ gs, f ∈ fs) → ∀ known,
        Grounded known (gs.flatMap fun f => f.2.objectTypes) := by
      intro gs
      induction gs with
      | nil => exact fun _ _ => trivial
      | cons g r ihr =>
        intro hg known
        rw [List.flatMap_cons]
        exact (ih g (hg g List.mem_cons_self) known).append
          (ihr (fun f hf => hg f (List.mem_cons_of_mem _ hf)) _)
    rw [objectTypes_object]
    refine (hfields fs (fun _ h => h) known).append ⟨?_, trivial⟩
    rintro m ⟨f, hf, gs, hm⟩
    refine List.mem_append_left _ ?_
    rw [List.map_flatMap, List.mem_flatMap]
    exact ⟨f, hf, innermost_name_mem hm⟩

theorem grounded_types (root : Shape) : Grounded [] root.types := by
  rw [types_eq]
  exact (grounded_objectTypes root []).firstsBy

end Shape

/-! ## No way back -/

/-- In a list of types the type of the first name refers to the second name. -/
def Reference (ts : List ObjectType) (a b : String) : Prop :=
  ∃ t ∈ ts, t.name = a ∧ t.RefersTo b

/-- A reference leads to a name that stands strictly before. -/
theorem Grounded.idxOf_lt {ts : List ObjectType} (h : Grounded [] ts)
    (hnodup : (ts.map ObjectType.name).Nodup) {a b : String} (hab : Reference ts a b) :
    (ts.map ObjectType.name).idxOf b < (ts.map ObjectType.name).idxOf a := by
  obtain ⟨t, ht, rfl, hb⟩ := hab
  obtain ⟨i, hi, rfl⟩ := List.mem_iff_getElem.mp ht
  rcases h.exists_lt (List.getElem?_eq_getElem hi) hb with hk | ⟨j, hj, u, hu, rfl⟩
  · exact absurd hk List.not_mem_nil
  · obtain ⟨hjl, rfl⟩ := List.getElem?_eq_some_iff.mp hu
    have place (k : Nat) (hk : k < ts.length) :
        (ts.map ObjectType.name).idxOf ts[k].name = k := by
      have := hnodup.idxOf_getElem k (by simpa using hk)
      simpa using this
    rw [place j hjl, place i hi]
    exact hj

theorem Grounded.acyclic {ts : List ObjectType} (h : Grounded [] ts)
    (hnodup : (ts.map ObjectType.name).Nodup) (n : String) :
    ¬ Relation.TransGen (Reference ts) n n := by
  have step {a b : String} (hab : Relation.TransGen (Reference ts) a b) :
      (ts.map ObjectType.name).idxOf b < (ts.map ObjectType.name).idxOf a := by
    induction hab with
    | single h1 => exact h.idxOf_lt hnodup h1
    | tail _ h1 ih => exact Nat.lt_trans (h.idxOf_lt hnodup h1) ih
  exact fun hn => absurd (step hn) (Nat.lt_irrefl _)

/-! ## The law -/

/-- For every document: no two types to be defined share a name, every object of the tree has its
name among them, a type refers only to types that stand before it, and so no type refers to
itself, not even in several steps. -/
theorem every_type_stands_behind_what_it_refers_to (rootName : String) (v : Json) :
    let root := Shape.infer rootName v
    (root.types.map ObjectType.name).Nodup ∧
      (∀ t : ObjectType, t.shape.Within root → t.name ∈ root.types.map ObjectType.name) ∧
      (∀ (i : Nat) (t : ObjectType) (n : String), root.types[i]? = some t → t.RefersTo n →
        ∃ j < i, ∃ u : ObjectType, root.types[j]? = some u ∧ u.name = n) ∧
      ∀ n, ¬ Relation.TransGen (Reference root.types) n n := by
  intro root
  have hnodup : (root.types.map ObjectType.name).Nodup := by
    rw [Shape.types_eq]
    exact nodup_firstsBy _
  have hground := Shape.grounded_types root
  refine ⟨hnodup, ?_, ?_, hground.acyclic hnodup⟩
  · intro t ht
    obtain ⟨u, hu, hut⟩ :=
      exists_mem_firstsBy ObjectType.name (Shape.mem_objectTypes.mpr ht)
    rw [Shape.types_eq]
    exact List.mem_map.mpr ⟨u, hu, hut⟩
  · intro i t n ht hn
    rcases hground.exists_lt ht hn with hk | hj
    · exact absurd hk List.not_mem_nil
    · exact hj

end TypeSketch
