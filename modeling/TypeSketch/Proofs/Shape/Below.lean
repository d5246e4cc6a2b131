-- Namesakes one inside the other. An object has a longer text than anything
-- inside it, whatever the keys are. So two objects of one name of which one
-- stands inside the other are always reported, and so is a root that is lost to
-- an object inside it.
import TypeSketch.Proofs.Shape.Namesake

namespace TypeSketch

namespace Shape

/-! ## What stands below a shape -/

/-- The first shape stands strictly inside the second. -/
def Below (s : Shape) : Shape → Prop
  | scalar _ => False
  | array _ e => s.Within e
  | object _ fs => ∃ f ∈ fs, s.Within f.2

theorem Below.within {s t : Shape} (h : s.Below t) : s.Within t := by
  cases t with
  | scalar k => exact h.elim
  | array n e => exact .item n h
  | object n fs =>
    obtain ⟨f, hf, hs⟩ := h
    exact .value n hf hs

/-- The object shapes below a shape are those that the walk finds before the shape itself. -/
theorem mem_nested {s root : Shape} :
    s ∈ root.nested ↔ ∃ t : ObjectType, t.shape = s ∧ t.shape.Below root := by
  have hobjects (e : Shape) : s ∈ e.objects ↔ ∃ t : ObjectType, t.shape = s ∧ t.shape.Within e := by
    simp only [objects_eq, List.mem_map, mem_objectTypes, and_comm]
  cases root with
  | scalar k => simp [nested, objects, Below]
  | array n e => exact hobjects e
  | object n fs =>
    rw [nested, objectsOfFields_eq, List.mem_flatMap]
    simp only [hobjects, Below]
    constructor
    · rintro ⟨f, hf, t, hts, ht⟩
      exact ⟨t, hts, f, hf, ht⟩
    · rintro ⟨t, hts, f, hf, ht⟩
      exact ⟨f, hf, t, hts, ht⟩

/-! ## Longer texts -/

theorem length_lt_laterFields {f : Field} {fs : List Field} (h : f ∈ fs) :
    f.2.signature.toList.length < (laterFields fs).length := by
  induction fs with
  | nil => cases h
  | cons g r ih =>
    simp only [laterFields, List.length_cons, List.length_append]
    rcases List.mem_cons.mp h with rfl | h
    · omega
    · have := ih h
      omega

/-- The text of a field is part of that of the object. -/
theorem length_lt_allFields {f : Field} {fs : List Field} (h : f ∈ fs) :
    f.2.signature.toList.length < (allFields fs).length := by
  cases fs with
  | nil => cases h
  | cons g r =>
    simp only [allFields, List.length_cons, List.length_append]
    rcases List.mem_cons.mp h with rfl | h
    · omega
    · have := length_lt_laterFields h
      omega

theorem length_signature_le {s t : Shape} (h : s.Within t) :
    s.signature.toList.length ≤ t.signature.toList.length := by
  induction h with
  | here => exact Nat.le_refl _
  | item n _ ih =>
    rw [toList_signature_array, List.length_cons, List.length_append]
    omega
  | value n hf _ ih =>
    have := length_lt_allFields hf
    rw [toList_signature_object, List.length_cons]
    omega

theorem length_signature_lt {s t : Shape} (h : s.Below t) :
    s.signature.toList.length < t.signature.toList.length := by
  cases t with
  | scalar k => exact h.elim
  | array n e =>
    have := length_signature_le h
    rw [toList_signature_array, List.length_cons, List.length_append]
    omega
  | object n fs =>
    obtain ⟨f, hf, hs⟩ := h
    have := length_signature_le hs
    have := length_lt_allFields hf
    rw [toList_signature_object, List.length_cons]
    omega

/-- One text never stands for a shape and for one below it. -/
theorem signature_ne_of_below {s t : Shape} (h : s.Below t) : s.signature ≠ t.signature := by
  intro heq
  have := length_signature_lt h
  rw [heq] at this
  exact Nat.lt_irrefl _ this

/-! ## What a report lists -/

/-- An entry of the report has every text of its name, once, and more than one of them. -/
theorem of_mem_collisions {root : Shape} {n : String} {texts : List String}
    (h : (n, texts) ∈ root.collisions) : texts.Nodup ∧ 2 ≤ texts.length ∧
      ∀ x, x ∈ texts ↔
        ∃ t : ObjectType, t.shape.Within root ∧ t.name = n ∧ t.shape.signature = x := by
  have seen := seen_structures (root.nestedAndRoot.filter isObject)
  obtain ⟨hentry, hlength⟩ := List.mem_filter.mp h
  have htexts : (Entries.get? n (structures (root.nestedAndRoot.filter isObject))).getD [] =
      texts := by
    rw [(Entries.mem_iff_get? seen.keys).mp hentry, Option.getD_some]
  refine ⟨htexts ▸ seen.nodup n, of_decide_eq_true hlength, fun x => ?_⟩
  rw [← htexts, seen.mem, nestedAndRoot_filter]
  simp only [List.mem_map, exists_exists_and_eq_and, mem_objectTypes]
  rfl

/-- A name has an entry in the report, with at least two texts, among them the given ones. -/
def Lists (root : Shape) (n : String) (given : List String) : Prop :=
  ∃ texts, (n, texts) ∈ root.collisions ∧ texts.Nodup ∧ 2 ≤ texts.length ∧ given ⊆ texts

theorem lists_of_below {root : Shape} {t u : ObjectType} (hu : u.shape.Within root)
    (ht : t.shape.Below u.shape) (hname : t.name = u.name) :
    root.Lists u.name [t.shape.signature, u.shape.signature] := by
  have htroot := ht.within.trans hu
  obtain ⟨texts, htexts⟩ :=
    reports_iff_toldApart.mpr ⟨t, u, htroot, hu, hname, rfl, signature_ne_of_below ht⟩
  obtain ⟨hnodup, hlength, hmem⟩ := of_mem_collisions htexts
  refine ⟨texts, htexts, hnodup, hlength, ?_⟩
  simp only [List.cons_subset, List.nil_subset, and_true]
  exact ⟨(hmem _).mpr ⟨t, htroot, hname, rfl⟩, (hmem _).mpr ⟨u, hu, rfl, rfl⟩⟩

end Shape

/-- A root that is an object is the last type that is kept; or an object below it has its name,
the root is not kept, and the report lists the name with the texts of both. In any document two
objects of one name of which one stands below the other are reported, with the texts of both. -/
theorem a_root_that_is_lost_is_reported (rootName : String) (v : Json) :
    let root := Shape.infer rootName v
    (∀ es, v = .obj es →
      rootName ∉ root.nested.map Shape.name ∧ root.distinct.getLast? = some root ∨
        ∃ t : ObjectType, t.shape ∈ root.nested ∧ t.name = rootName ∧ root ∉ root.distinct ∧
          root.Lists rootName [t.shape.signature, root.signature]) ∧
      ∀ t u : ObjectType, u.shape.Within root → t.shape.Below u.shape → t.name = u.name →
        root.Lists u.name [t.shape.signature, u.shape.signature] := by
  intro root
  have hbelow : ∀ t u : ObjectType, u.shape.Within root → t.shape.Below u.shape →
      t.name = u.name → root.Lists u.name [t.shape.signature, u.shape.signature] :=
    fun t u hu ht hname => Shape.lists_of_below hu ht hname
  refine ⟨?_, hbelow⟩
  rintro es rfl
  have hdistinct : root.distinct = firstsBy Shape.name root.nested ++
      if rootName ∈ root.nested.map Shape.name then [] else [root] :=
    firstsBy_concat root.nested root
  by_cases hname : rootName ∈ root.nested.map Shape.name
  · right
    obtain ⟨s, hs, hsname⟩ := List.mem_map.mp hname
    obtain ⟨t, rfl, ht⟩ := Shape.mem_nested.mp hs
    refine ⟨t, hs, hsname, ?_, hbelow t ⟨rootName, root.fields⟩ (.here _) ht hsname⟩
    -- a root that is kept all the same would stand below itself
    intro hkept
    rw [hdistinct, if_pos hname, List.append_nil] at hkept
    obtain ⟨u, hu, hroot⟩ := Shape.mem_nested.mp (mem_of_mem_firstsBy hkept)
    rw [hu] at hroot
    exact Shape.signature_ne_of_below hroot rfl
  · left
    refine ⟨hname, ?_⟩
    rw [hdistinct, if_neg hname, List.getLast?_concat]

/-- A field named like the root takes its place, whatever separators the keys hold. -/
example :
    let v : Json := .obj [("root", .obj [("a:string,b", .str "s")])]
    (Shape.infer "Root" v).distinct.map Shape.name = ["Root"] ∧
      (Shape.infer "Root" v).collisions =
        [("Root", ["\x7ba:string,b:string\x7d", "\x7broot:\x7ba:string,b:string\x7d\x7d"])] := by
  decide +kernel

end TypeSketch
