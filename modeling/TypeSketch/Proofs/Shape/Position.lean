-- Positions of objects. A position is the way down to a value from the root of a
-- document. The list of the object shapes below a root follows the positions at which
-- the document has objects: each position once, what is below before what is above,
-- and the entries of an object in their order.
import TypeSketch.Proofs.Shape.Order
import Mathlib.Data.List.Induction

namespace TypeSketch

/-! ## Positions -/

/-- A step down in a document: to the value of an entry of an object, by the entry's number, or
to the first item of an array. -/
inductive Step where
  | entry (i : Nat)
  | first
  deriving DecidableEq, Repr

/-- The steps from the root to a value. -/
abbrev Position := List Step

namespace Position

/-- The order of positions in which what is below comes before what is above, and an entry, with all
that is below it, before the later entries of its object. -/
inductive Precedes : Position → Position → Prop
  | inside (s : Step) (p : Position) : Precedes (s :: p) []
  | apart {i j : Nat} (hij : i < j) (p q : Position) : Precedes (.entry i :: p) (.entry j :: q)
  | under {p q : Position} (s : Step) : Precedes p q → Precedes (s :: p) (s :: q)

theorem Precedes.asymm {p q : Position} (h : Precedes p q) : ¬ Precedes q p := by
  induction h with
  | inside s p =>
    intro h
    cases h
  | apart hij p q =>
    intro h
    cases h with
    | apart hji => exact Nat.lt_asymm hij hji
    | under => exact Nat.lt_irrefl _ hij
  | under s hpq ih =>
    intro h
    cases h with
    | apart hii => exact Nat.lt_irrefl _ hii
    | under _ hqp => exact ih hqp

theorem Precedes.irrefl {p : Position} : ¬ Precedes p p := fun h => h.asymm h

/-- In a list that follows the order, the positions tell their numbers. -/
theorem lt_iff_precedes {ps : List Position} (h : ps.Pairwise Precedes) {i j : Nat}
    (hi : i < ps.length) (hj : j < ps.length) : i < j ↔ Precedes ps[i] ps[j] := by
  rw [List.pairwise_iff_getElem] at h
  constructor
  · exact h i j hi hj
  · intro hij
    rcases Nat.lt_trichotomy i j with hlt | rfl | hgt
    · exact hlt
    · exact absurd hij Precedes.irrefl
    · exact absurd (h j i hj hi hgt) hij.asymm

end Position

namespace Json

/-- The value one step down. -/
def below? : Step → Json → Option Json
  | .entry i, obj es => es[i]?.map Prod.snd
  | .first, arr (v :: _) => some v
  | _, _ => none

/-- The value at a position. -/
def at? (v : Json) : Position → Option Json
  | [] => some v
  | s :: p => (v.below? s).bind (·.at? p)

end Json

namespace Shape

/-- The shape one step down. -/
def below? : Step → Shape → Option Shape
  | .entry i, object _ fs => fs[i]?.map Prod.snd
  | .first, array _ e => some e
  | _, _ => none

/-- The shape at a position. -/
def at? (s : Shape) : Position → Option Shape
  | [] => some s
  | t :: p => (s.below? t).bind (·.at? p)

theorem at?_cons (t : Step) (p : Position) (s : Shape) :
    s.at? (t :: p) = (s.below? t).bind (·.at? p) := rfl

/-! ## A document and its shape -/

theorem below?_infer {n : String} {v w : Json} {t : Step} (h : v.below? t = some w) :
    ∃ m, (infer n v).below? t = some (infer m w) := by
  cases v with
  | arr vs =>
    cases t with
    | entry i => cases h
    | first =>
      cases vs with
      | nil => cases h
      | cons v r =>
        cases h
        exact ⟨_, rfl⟩
  | obj es =>
    cases t with
    | entry i =>
      obtain ⟨e, he, rfl⟩ := Option.map_eq_some_iff.mp h
      refine ⟨typeName e.1, ?_⟩
      rw [infer, below?, inferFields_eq, List.getElem?_map, he]
      rfl
    | first => cases h
  | _ => cases t <;> cases h

/-- At the position of a value stands its shape, under some name. -/
theorem at?_infer {v w : Json} {p : Position} (n : String) (h : v.at? p = some w) :
    ∃ m, (infer n v).at? p = some (infer m w) := by
  induction p generalizing n v with
  | nil =>
    cases h
    exact ⟨n, rfl⟩
  | cons t p ih =>
    obtain ⟨u, hu, hw⟩ := Option.bind_eq_some_iff.mp h
    obtain ⟨k, hk⟩ := below?_infer (n := n) hu
    obtain ⟨m, hm⟩ := ih k hw
    exact ⟨m, by rw [at?_cons, hk, Option.bind_some, hm]⟩

/-- One step down in the shape of a document there is the shape of an entry's value, named after its
key, or the shape of the first item of an array, named after the array. An array without items has
a scalar there. -/
theorem below?_infer_cases {n : String} {v : Json} {t : Step} {s : Shape}
    (h : (infer n v).below? t = some s) :
    (∃ i es key w, t = .entry i ∧ v = .obj es ∧ es[i]? = some (key, w) ∧
        s = infer (typeName key) w) ∨
      t = .first ∧ (s = scalar .any ∨
        ∃ w, v.below? .first = some w ∧ s = infer (n ++ "Item") w) := by
  cases v with
  | arr vs =>
    cases t with
    | entry i => cases h
    | first =>
      cases h
      cases vs with
      | nil => exact .inr ⟨rfl, .inl rfl⟩
      | cons v r => exact .inr ⟨rfl, .inr ⟨v, rfl, rfl⟩⟩
  | obj es =>
    cases t with
    | entry i =>
      rw [infer, below?, inferFields_eq, List.getElem?_map] at h
      obtain ⟨f, hf, rfl⟩ := Option.map_eq_some_iff.mp h
      obtain ⟨e, he, rfl⟩ := Option.map_eq_some_iff.mp hf
      exact .inl ⟨i, es, e.1, e.2, rfl, rfl, he, rfl⟩
    | first => cases h
  | _ => cases t <;> cases h

/-- One step down in the shape of a document there is the shape of a value, unless it is the
missing item of an array without items. -/
theorem of_below?_infer {n : String} {v : Json} {t : Step} {s : Shape}
    (h : (infer n v).below? t = some s) :
    s = scalar .any ∨ ∃ m w, v.below? t = some w ∧ s = infer m w := by
  rcases below?_infer_cases h with ⟨i, es, key, w, rfl, rfl, he, rfl⟩ | ⟨rfl, rfl | ⟨w, hw, rfl⟩⟩
  · exact .inr ⟨_, w, by rw [Json.below?, he, Option.map_some], rfl⟩
  · exact .inl rfl
  · exact .inr ⟨_, w, hw, rfl⟩

/-- At the position of an object shape the document has an object. -/
theorem of_at?_infer {n m : String} {v : Json} {p : Position} {fs : List Field}
    (h : (infer n v).at? p = some (object m fs)) : ∃ es, v.at? p = some (.obj es) := by
  induction p generalizing n v with
  | nil =>
    cases v with
    | obj es => exact ⟨es, rfl⟩
    | _ => cases h
  | cons t p ih =>
    obtain ⟨s, hs, hp⟩ := Option.bind_eq_some_iff.mp h
    rcases of_below?_infer hs with rfl | ⟨k, w, hw, rfl⟩
    · cases p with
      | nil => cases hp
      | cons t p => cases t <;> cases hp
    · obtain ⟨es, hes⟩ := ih hp
      exact ⟨es, by rw [Json.at?, hw, Option.bind_some, hes]⟩

/-! ## The positions of objects -/

mutual

/-- The positions of the objects in a shape, its own last. -/
def objectPositions : Shape → List Position
  | scalar _ => []
  | array _ e => e.objectPositions.map (.first :: ·)
  | object _ fs => positionsOfFields 0 fs ++ [[]]

/-- The positions of the objects in the fields from the `i`-th on. -/
def positionsOfFields (i : Nat) : List Field → List Position
  | [] => []
  | (_, s) :: r => s.objectPositions.map (.entry i :: ·) ++ positionsOfFields (i + 1) r

end

theorem positionsOfFields_eq (i : Nat) (fs : List Field) :
    positionsOfFields i fs =
      (fs.zipIdx i).flatMap fun e => e.1.2.objectPositions.map (.entry e.2 :: ·) := by
  induction fs generalizing i with
  | nil => rfl
  | cons f r ih => rw [positionsOfFields, ih, List.zipIdx_cons, List.flatMap_cons]

/-- The positions that lead into an object are those of its fields. -/
theorem mem_positionsOfFields {fs : List Field} {p : Position} :
    p ∈ positionsOfFields 0 fs ↔
      ∃ i f q, fs[i]? = some f ∧ q ∈ f.2.objectPositions ∧ p = .entry i :: q := by
  rw [positionsOfFields_eq, List.mem_flatMap]
  constructor
  · rintro ⟨⟨f, i⟩, hf, hp⟩
    obtain ⟨q, hq, rfl⟩ := List.mem_map.mp hp
    exact ⟨i, f, q, List.mem_zipIdx_iff_getElem?.mp hf, hq, rfl⟩
  · rintro ⟨i, f, q, hf, hq, rfl⟩
    exact ⟨(f, i), List.mem_zipIdx_iff_getElem?.mpr hf, List.mem_map.mpr ⟨q, hq, rfl⟩⟩

/-- The list holds the positions of objects and no others. -/
theorem mem_objectPositions {s : Shape} {p : Position} :
    p ∈ s.objectPositions ↔ ∃ n fs, s.at? p = some (object n fs) := by
  induction s generalizing p with
  | scalar k =>
    rw [objectPositions]
    cases p with
    | nil => simp [at?]
    | cons t p => cases t <;> simp [at?, below?]
  | array m e ih =>
    rw [objectPositions, List.mem_map]
    constructor
    · rintro ⟨q, hq, rfl⟩
      exact ih.mp hq
    · rintro ⟨n, fs, h⟩
      cases p with
      | nil => cases h
      | cons t q =>
        cases t with
        | entry i => cases h
        | first => exact ⟨q, ih.mpr ⟨n, fs, h⟩, rfl⟩
  | object m gs ih =>
    rw [objectPositions, List.mem_append, List.mem_singleton, mem_positionsOfFields]
    constructor
    · rintro (⟨i, f, q, hf, hq, rfl⟩ | rfl)
      · obtain ⟨n, fs, h⟩ := (ih f (List.mem_of_getElem? hf)).mp hq
        exact ⟨n, fs, by rw [at?_cons, below?, hf, Option.map_some, Option.bind_some, h]⟩
      · exact ⟨m, gs, rfl⟩
    · rintro ⟨n, fs, h⟩
      cases p with
      | nil => exact .inr rfl
      | cons t q =>
        cases t with
        | first => cases h
        | entry i =>
          obtain ⟨s, hs, hq⟩ := Option.bind_eq_some_iff.mp h
          obtain ⟨f, hf, rfl⟩ := Option.map_eq_some_iff.mp hs
          have hmem := (ih f (List.mem_of_getElem? hf)).mpr ⟨n, fs, hq⟩
          exact .inl ⟨i, f, q, hf, hmem, rfl⟩

/-- The list follows the order of positions. -/
theorem pairwise_objectPositions (s : Shape) : s.objectPositions.Pairwise Position.Precedes := by
  induction s with
  | scalar k => exact List.Pairwise.nil
  | array n e ih =>
    rw [objectPositions, List.pairwise_map]
    exact ih.imp fun h => h.under .first
  | object n fs ih =>
    rw [objectPositions, positionsOfFields_eq, List.pairwise_append, List.pairwise_flatMap]
    refine ⟨⟨?_, ?_⟩, List.pairwise_singleton _ _, ?_⟩
    · rintro ⟨f, i⟩ hf
      rw [List.pairwise_map]
      have hmem := List.mem_of_getElem? (List.mem_zipIdx_iff_getElem?.mp hf)
      exact (ih f hmem).imp fun h => h.under (.entry i)
    · -- two fields: the one with the smaller number comes first
      have hnumbers : (fs.zipIdx 0).Pairwise fun e g => e.2 < g.2 := by
        rw [List.pairwise_iff_getElem]
        intro i j hi hj hij
        simpa using hij
      refine hnumbers.imp fun hij p hp q hq => ?_
      obtain ⟨p, -, rfl⟩ := List.mem_map.mp hp
      obtain ⟨q, -, rfl⟩ := List.mem_map.mp hq
      exact .apart hij p q
    · intro p hp q hq
      rw [List.mem_singleton] at hq
      subst hq
      rw [← positionsOfFields_eq, mem_positionsOfFields] at hp
      obtain ⟨i, f, q, _, _, rfl⟩ := hp
      exact .inside _ q

/-- At these positions stand the objects of the shape, in the order of the list of objects. -/
theorem objects_at (s : Shape) : s.objects.map some = s.objectPositions.map s.at? := by
  induction s with
  | scalar k => rfl
  | array n e ih =>
    rw [objects, ih, objectPositions, List.map_map]
    rfl
  | object n fs ih =>
    -- the fields of an object are those that stand at their numbers
    have hfields : ∀ (gs : List Field) (i : Nat), (∀ j, gs[j]? = fs[i + j]?) →
        (objectsOfFields gs).map some = (positionsOfFields i gs).map (object n fs).at? := by
      intro gs
      induction gs with
      | nil => exact fun _ _ => rfl
      | cons g r ihr =>
        intro i hgs
        have hg : fs[i]? = some g := (hgs 0).symm
        have hat : ∀ p, (object n fs).at? (.entry i :: p) = g.2.at? p := by
          intro p
          rw [at?_cons, below?, hg, Option.map_some, Option.bind_some]
        rw [objectsOfFields, positionsOfFields, List.map_append, List.map_append, List.map_map,
          ih g (List.mem_of_getElem? hg)]
        congr 1
        · exact List.map_congr_left fun p _ => (hat p).symm
        · refine ihr (i + 1) fun j => ?_
          rw [Nat.add_assoc, Nat.add_comm 1 j]
          exact hgs (j + 1)
    rw [objects, objectPositions, List.map_append, List.map_append, hfields fs 0 (by simp)]
    rfl

/-- The positions of the objects below the root. -/
def nestedPositions (root : Shape) : List Position := root.objectPositions.filter (· ≠ [])

theorem mem_nestedPositions {root : Shape} {p : Position} :
    p ∈ root.nestedPositions ↔ p ≠ [] ∧ ∃ n fs, root.at? p = some (object n fs) := by
  rw [nestedPositions, List.mem_filter, mem_objectPositions, decide_eq_true_eq]
  exact And.comm

theorem pairwise_nestedPositions (root : Shape) : root.nestedPositions.Pairwise Position.Precedes :=
  (pairwise_objectPositions root).sublist List.filter_sublist

/-- At the positions below the root stand the object shapes below the root. -/
theorem nested_at (root : Shape) : root.nested.map some = root.nestedPositions.map root.at? := by
  have hall {ps : List Position} (h : ∀ p ∈ ps, p ≠ []) : ps.filter (· ≠ []) = ps :=
    List.filter_eq_self.mpr fun p hp => decide_eq_true (h p hp)
  cases root with
  | scalar k => rfl
  | array n e =>
    have hnested : (array n e).nested = (array n e).objects := rfl
    rw [hnested, objects_at, nestedPositions, hall]
    rw [objectPositions]
    intro p hp
    obtain ⟨q, _, rfl⟩ := List.mem_map.mp hp
    exact List.cons_ne_nil _ q
  | object n fs =>
    have hobjects := objects_at (object n fs)
    rw [objects, objectPositions, List.map_append, List.map_append] at hobjects
    rw [nested, nestedPositions, objectPositions, List.filter_append, hall]
    · simpa using (List.append_inj' hobjects rfl).1
    · intro p hp
      obtain ⟨i, f, q, _, _, rfl⟩ := mem_positionsOfFields.mp hp
      exact List.cons_ne_nil _ q

end Shape

/-! ## The first of each name -/

section

variable {α : Type} (name : α → String)

/-- The numbers of the members whose name no earlier member has. -/
def firstNumbersBy (l : List α) : List Nat :=
  (List.range l.length).filter fun i => ∀ j < i, l[j]?.map name ≠ l[i]?.map name

theorem firstNumbersBy_concat (l : List α) (a : α) :
    firstNumbersBy name (l ++ [a]) =
      firstNumbersBy name l ++ if name a ∈ l.map name then [] else [l.length] := by
  have hbefore {i : Nat} (hi : i < l.length) : (l ++ [a])[i]? = l[i]? :=
    List.getElem?_append_left hi
  have hold : (List.range l.length).filter
        (fun i => ∀ j < i, (l ++ [a])[j]?.map name ≠ (l ++ [a])[i]?.map name) =
      firstNumbersBy name l := by
    refine List.filter_congr fun i hi => ?_
    rw [List.mem_range] at hi
    refine decide_eq_decide.mpr (forall_congr' fun j => forall_congr' fun hj => ?_)
    rw [hbefore hi, hbefore (Nat.lt_trans hj hi)]
  have hnew : (∀ j < l.length, (l ++ [a])[j]?.map name ≠ (l ++ [a])[l.length]?.map name) ↔
      name a ∉ l.map name := by
    rw [List.mem_map, List.getElem?_concat_length, Option.map_some]
    constructor
    · rintro h ⟨b, hb, hba⟩
      obtain ⟨j, hj, rfl⟩ := List.mem_iff_getElem.mp hb
      exact h j hj (by rw [hbefore hj, List.getElem?_eq_getElem hj, Option.map_some, hba])
    · intro h j hj hja
      rw [hbefore hj, List.getElem?_eq_getElem hj, Option.map_some, Option.some.injEq] at hja
      exact h ⟨l[j], List.getElem_mem hj, hja⟩
  rw [firstNumbersBy, List.length_append, List.length_singleton, List.range_succ,
    List.filter_append, hold]
  congr 1
  by_cases hmem : name a ∈ l.map name
  · rw [if_pos hmem, List.filter_cons_of_neg, List.filter_nil]
    rw [decide_eq_true_eq]
    exact fun h => hnew.mp h hmem
  · rw [if_neg hmem, List.filter_cons_of_pos, List.filter_nil]
    rw [decide_eq_true_eq]
    exact hnew.mpr hmem

/-- What is kept is what stands at these numbers. -/
theorem firstsBy_at (l : List α) :
    (firstsBy name l).map some = (firstNumbersBy name l).map (l[·]?) := by
  induction l using List.reverseRecOn with
  | nil => rfl
  | append_singleton l a ih =>
    have hold : (firstNumbersBy name l).map ((l ++ [a])[·]?) =
        (firstNumbersBy name l).map (l[·]?) := by
      refine List.map_congr_left fun i hi => ?_
      exact List.getElem?_append_left (List.mem_range.mp (List.mem_filter.mp hi).1)
    rw [firstsBy_concat, firstNumbersBy_concat, List.map_append, List.map_append, ih, hold]
    split
    · rfl
    · simp

end

/-! ## The law -/

/-- For every document and root name: the shapes below the root stand at positions, each position
once, which are the positions other than the root at which the document has an object. They follow
one another in the order of positions, so what is below an object stands before it and its entries
keep their order. At the position of a value stands its shape. And a function is applied, in order,
to those shapes below the root, and to the root behind them, whose name no earlier one has. -/
theorem each_object_below_the_root_is_listed_at_its_position (rootName : String) (v : Json) :
    let root := Shape.infer rootName v
    (∃ ps : List Position, root.nested.map some = ps.map root.at? ∧ ps.Nodup ∧
      (∀ p, p ∈ ps ↔ p ≠ [] ∧ ∃ es, v.at? p = some (.obj es)) ∧
      ∀ (i j : Nat) (hi : i < ps.length) (hj : j < ps.length),
        i < j ↔ Position.Precedes ps[i] ps[j]) ∧
      (∀ p w, v.at? p = some w → ∃ n, root.at? p = some (Shape.infer n w)) ∧
      ∀ {α : Type} (emit : Shape → α),
        (root.mapDistinct emit).map some =
          (firstNumbersBy Shape.name (root.nested ++ [root])).map fun i =>
            (root.nested ++ [root])[i]?.map emit := by
  intro root
  have hordered := Shape.pairwise_nestedPositions root
  refine ⟨⟨root.nestedPositions, Shape.nested_at root, ?_, ?_, ?_⟩, ?_, ?_⟩
  · refine hordered.imp fun {p q} h hpq => ?_
    rw [hpq] at h
    exact Position.Precedes.irrefl h
  · intro p
    rw [Shape.mem_nestedPositions]
    refine and_congr_right fun _ => ?_
    constructor
    · rintro ⟨n, fs, h⟩
      exact Shape.of_at?_infer h
    · rintro ⟨es, h⟩
      obtain ⟨n, hn⟩ := Shape.at?_infer rootName h
      exact ⟨n, _, hn⟩
  · exact fun i j hi hj => Position.lt_iff_precedes hordered hi hj
  · exact fun p w h => Shape.at?_infer rootName h
  · intro α emit
    calc (root.mapDistinct emit).map some
      _ = (root.distinct.map some).map (Option.map emit) := by
        rw [Shape.mapDistinct, List.map_map, List.map_map]
        rfl
      _ = _ := by
        rw [Shape.distinct, Shape.nestedAndRoot, firstsBy_at, List.map_map]
        rfl

end TypeSketch
