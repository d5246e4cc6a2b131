-- Namesakes: object types of one document that share a name. Only the first is
-- kept, so it matters whether another one is built differently. What is
-- reported is a difference of the texts that stand for the structures.
import TypeSketch.Code.Emit
import TypeSketch.Proofs.Shape.Order
import TypeSketch.Proofs.Shape.Sample
import TypeSketch.Proofs.Shape.Structure
import TypeSketch.Proofs.Table
import TypeSketch.Proofs.Text.Lines
import TypeSketch.Shape.Collision
import Mathlib.Data.List.Induction
import Mathlib.Data.List.Nodup

namespace TypeSketch

namespace Shape

/-! ## What the report says -/

/-- What is known of each name after some shapes: every text of theirs, once. -/
structure Seen (seen : List (String × List String)) (shapes : List Shape) : Prop where
  keys : (seen.map Prod.fst).Nodup
  nodup : ∀ n, ((Entries.get? n seen).getD []).Nodup
  mem : ∀ n x, x ∈ (Entries.get? n seen).getD [] ↔ ∃ s ∈ shapes, s.name = n ∧ s.signature = x

/-- The texts of a name with one more, unless it is there. -/
theorem nodup_addNew {known : List String} {x : String} (h : known.Nodup) :
    (if x ∈ known then known else known ++ [x]).Nodup := by
  split
  · exact h
  · rename_i hx
    exact List.nodup_append.mpr ⟨h, List.nodup_singleton x, fun a ha b hb hab => hx (by simp_all)⟩

theorem mem_addNew {known : List String} {x y : String} :
    y ∈ (if x ∈ known then known else known ++ [x]) ↔ y ∈ known ∨ x = y := by
  split
  · rename_i hx
    constructor
    · exact .inl
    · rintro (h | rfl)
      · exact h
      · exact hx
  · simp [eq_comm]

theorem Seen.step {seen : List (String × List String)} {shapes : List Shape}
    (h : Seen seen shapes) (s : Shape) :
    Seen (Entries.put s.name
      (if s.signature ∈ (Entries.get? s.name seen).getD [] then (Entries.get? s.name seen).getD []
        else (Entries.get? s.name seen).getD [] ++ [s.signature]) seen) (shapes ++ [s]) := by
  refine ⟨Entries.nodup_put h.keys, ?_, ?_⟩
  · intro n
    rw [Entries.get?_put]
    split
    · exact nodup_addNew (h.nodup s.name)
    · exact h.nodup n
  · intro n x
    rw [Entries.get?_put]
    split
    · rename_i hn
      subst hn
      rw [Option.getD_some, mem_addNew, h.mem]
      simp [or_and_right, exists_or]
    · rename_i hn
      rw [h.mem]
      simp [or_and_right, exists_or, hn]

theorem seen_structures (shapes : List Shape) : Seen (structures shapes) shapes := by
  induction shapes using List.reverseRecOn with
  | nil => exact ⟨List.nodup_nil, fun _ => List.nodup_nil, by simp [structures, Entries.get?]⟩
  | append_singleton shapes s ih =>
    rw [structures, List.foldl_append]
    exact ih.step s

/-- A list without repetitions has two members exactly when it is longer than one. -/
theorem one_lt_length_iff {l : List String} (h : l.Nodup) :
    1 < l.length ↔ ∃ x ∈ l, ∃ y ∈ l, x ≠ y := by
  constructor
  · intro hl
    obtain ⟨a, b, r, rfl⟩ : ∃ a b r, l = a :: b :: r := by
      match l, hl with
      | a :: b :: r, _ => exact ⟨a, b, r, rfl⟩
    refine ⟨a, List.mem_cons_self, b, by simp, ?_⟩
    rintro rfl
    exact (List.nodup_cons.mp h).1 List.mem_cons_self
  · rintro ⟨x, hx, y, hy, hxy⟩
    match l with
    | [] => exact absurd hx List.not_mem_nil
    | [a] => exact absurd ((List.mem_singleton.mp hx).trans (List.mem_singleton.mp hy).symm) hxy
    | a :: b :: r => simp

/-- A name is reported as that of objects with several structures. -/
def Reports (root : Shape) (n : String) : Prop := ∃ texts, (n, texts) ∈ root.collisions

/-- Two objects of the tree have the name, and their structures are different. -/
def Clash (root : Shape) (n : String) : Prop :=
  ∃ t u : ObjectType, t.shape.Within root ∧ u.shape.Within root ∧ t.name = n ∧ u.name = n ∧
    t.shape.alike u.shape = false

/-- Two objects of the tree have the name, and the texts of their structures are different. -/
def ToldApart (root : Shape) (n : String) : Prop :=
  ∃ t u : ObjectType, t.shape.Within root ∧ u.shape.Within root ∧ t.name = n ∧ u.name = n ∧
    t.shape.signature ≠ u.shape.signature

/-- A difference can be looked for in the list of object types. -/
theorem clash_iff {root : Shape} {n : String} :
    root.Clash n ↔ ∃ t ∈ root.objectTypes, ∃ u ∈ root.objectTypes,
      t.name = n ∧ u.name = n ∧ t.shape.alike u.shape = false := by
  simp only [Clash, mem_objectTypes]
  constructor
  · rintro ⟨t, u, ht, hu, h⟩
    exact ⟨t, ht, u, hu, h⟩
  · rintro ⟨t, ht, u, hu, h⟩
    exact ⟨t, u, ht, hu, h⟩

theorem nestedAndRoot_filter (root : Shape) :
    root.nestedAndRoot.filter isObject = root.objectTypes.map ObjectType.shape := by
  have hall (ts : List ObjectType) :
      (ts.map ObjectType.shape).filter isObject = ts.map ObjectType.shape :=
    List.filter_eq_self.mpr (by simp [ObjectType.shape, isObject])
  cases root with
  | scalar k => rfl
  | array n e =>
    rw [nestedAndRoot_array, List.filter_append, objects_eq, hall, objectTypes_array]
    exact List.append_nil _
  | object n fs => rw [nestedAndRoot_object, objects_eq, hall]

/-- A name is reported exactly when two texts stand for objects of this name. -/
theorem reports_iff_toldApart {root : Shape} {n : String} :
    root.Reports n ↔ root.ToldApart n := by
  have seen := seen_structures (root.nestedAndRoot.filter isObject)
  rw [nestedAndRoot_filter] at seen
  have hentry : root.Reports n ↔ 1 <
      ((Entries.get? n (structures (root.objectTypes.map ObjectType.shape))).getD []).length := by
    simp only [Reports, collisions, List.mem_filter, nestedAndRoot_filter, decide_eq_true_eq,
      Entries.mem_iff_get? seen.keys]
    cases Entries.get? n (structures (root.objectTypes.map ObjectType.shape)) <;> simp
  have hmem (x : String) :
      x ∈ (Entries.get? n (structures (root.objectTypes.map ObjectType.shape))).getD [] ↔
        ∃ t : ObjectType, t.shape.Within root ∧ t.name = n ∧ t.shape.signature = x := by
    rw [seen.mem]
    simp only [List.mem_map, exists_exists_and_eq_and, mem_objectTypes]
    rfl
  rw [hentry, one_lt_length_iff (seen.nodup n)]
  simp only [hmem]
  constructor
  · rintro ⟨x, ⟨t, ht, htn, rfl⟩, y, ⟨u, hu, hun, rfl⟩, hne⟩
    exact ⟨t, u, ht, hu, htn, hun, hne⟩
  · rintro ⟨t, u, ht, hu, htn, hun, hne⟩
    exact ⟨_, ⟨t, ht, htn, rfl⟩, _, ⟨u, hu, hun, rfl⟩, hne⟩

/-- What is told apart is different. -/
theorem ToldApart.clash {root : Shape} {n : String} (h : root.ToldApart n) : root.Clash n := by
  obtain ⟨t, u, ht, hu, htn, hun, hne⟩ := h
  refine ⟨t, u, ht, hu, htn, hun, ?_⟩
  rw [Bool.eq_false_iff]
  exact fun halike => hne (signature_eq_of_alike halike)

theorem Readable.toldApart {root : Shape} {n : String} (hr : root.Readable) (h : root.Clash n) :
    root.ToldApart n := by
  obtain ⟨t, u, ht, hu, htn, hun, hne⟩ := h
  refine ⟨t, u, ht, hu, htn, hun, fun heq => ?_⟩
  have halike := (signature_eq_iff_alike (hr.within ht) (hr.within hu)).mp heq
  rw [halike] at hne
  cases hne

/-- Objects of one name are different, but one text stands for all of them. -/
def Hidden (root : Shape) (n : String) : Prop := root.Clash n ∧ ¬ root.ToldApart n

end Shape

/-- For every document and name: a report tells of two texts, so it never errs. It misses nothing
if and only if no difference hides behind one text, and with readable keys none does. -/
theorem a_clash_is_reported_unless_it_hides (rootName : String) (v : Json) (n : String) :
    let root := Shape.infer rootName v
    (root.Reports n ↔ root.ToldApart n) ∧
      (root.Reports n → root.Clash n) ∧
      ((root.Reports n ↔ root.Clash n) ↔ ¬ root.Hidden n) ∧
      (root.Readable → (root.Reports n ↔ root.Clash n)) := by
  intro root
  have hsound : root.Reports n → root.Clash n := fun h => (Shape.reports_iff_toldApart.mp h).clash
  refine ⟨Shape.reports_iff_toldApart, hsound, ?_, ?_⟩
  · constructor
    · rintro h ⟨hclash, hnot⟩
      exact hnot (Shape.reports_iff_toldApart.mp (h.mpr hclash))
    · intro h
      refine ⟨hsound, fun hclash => Shape.reports_iff_toldApart.mpr ?_⟩
      by_contra hnot
      exact h ⟨hclash, hnot⟩
  · intro hr
    exact ⟨hsound, fun hclash => Shape.reports_iff_toldApart.mpr (hr.toldApart hclash)⟩

/-- A key with a colon hides a difference: under one name stand an object with the keys `a` and
`b` and an object with the one key `a:string,b`, and nothing is reported. The same happens
without any colon, where keys begin with a closing brace. -/
theorem a_key_can_hide_a_clash :
    let text := Json.str "s"
    let under (a b : Json) : Json := .obj [("p", .obj [("x", a)]), ("q", .obj [("x", b)])]
    let colon := under (.obj [("a", text), ("b", text)]) (.obj [("a:string,b", text)])
    let brace := under (.obj [("a", .obj []), ("b", .obj [("\x7d,c", text)])])
      (.obj [("a", .obj [("\x7d,b", .obj []), ("c", text)])])
    ((Shape.infer "Root" colon).Clash "X" ∧ ¬ (Shape.infer "Root" colon).Reports "X") ∧
      (Shape.infer "Root" brace).Clash "X" ∧ ¬ (Shape.infer "Root" brace).Reports "X" := by
  intro text under colon brace
  have silent {root : Shape} {n : String} (h : ∀ e ∈ root.collisions, e.1 ≠ n) :
      ¬ root.Reports n := by
    rintro ⟨texts, htexts⟩
    exact h _ htexts rfl
  exact ⟨⟨Shape.clash_iff.mpr (by decide +kernel), silent (by decide +kernel)⟩,
    Shape.clash_iff.mpr (by decide +kernel), silent (by decide +kernel)⟩

/-! ## Kept types -/

namespace Shape

/-- Namesakes of one structure are one type. -/
theorem eq_of_alike {t u : ObjectType} {rootName : String} {v : Json}
    (ht : t.shape.Within (infer rootName v)) (hu : u.shape.Within (infer rootName v))
    (hname : t.name = u.name) (h : t.shape.alike u.shape = true) : t = u := by
  obtain ⟨es, hes⟩ := fields_of_within ht
  obtain ⟨fs, hfs⟩ := fields_of_within hu
  have hshapes : infer t.name (.obj es) = infer t.name (.obj fs) := by
    apply infer_eq_of_alike
    rw [← alike_infer t.name u.name, infer, infer, ← hes, ← hfs]
    exact h
  rw [infer, infer, ← hes, ← hfs] at hshapes
  cases t
  cases u
  cases hname
  exact congrArg _ (Shape.object.inj hshapes).2

end Shape

/-- The characters that the text of a structure uses for itself. -/
def structureMarks : List Char := ['\x7b', '\x7d', '[', ']', ',', ':']

theorem Shape.readable_infer {v : Json} (hkeys : ∀ k ∈ v.keys, ∀ c ∈ k.toList, c ∉ structureMarks)
    (rootName : String) : (infer rootName v).Readable := by
  intro t ht
  have hmark (f : Field) (hf : f ∈ t.fields) (c : Char) (hc : c ∈ structureMarks) :
      c ∉ f.1.toList := fun hm => hkeys f.1 (mem_keys_of_within ht hf) c hm hc
  refine ⟨fun f hf => hmark f hf ':' (by decide), fun f hf hb => ?_⟩
  exact hmark f (List.mem_of_mem_head? hf) '\x7d' (by decide) (List.mem_of_mem_head? hb)

/-- Where no key holds one of the marks and no name is reported, nothing is lost by keeping only
the first type of each name: every object has a namesake among the types, and in every language
and under all options its definition is that of the object itself. -/
theorem a_kept_type_is_written_like_all_its_namesakes (rootName : String) (v : Json)
    (hkeys : ∀ k ∈ v.keys, ∀ c ∈ k.toList, c ∉ structureMarks)
    (hreport : (Shape.infer rootName v).collisions = []) (t : ObjectType)
    (ht : t.shape.Within (Shape.infer rootName v)) :
    ∃ m ∈ (Shape.infer rootName v).types, m.name = t.name ∧
      ∀ o : LanguageOptions, o.definition m = o.definition t := by
  obtain ⟨m, hm, hname⟩ :=
    exists_mem_firstsBy ObjectType.name (Shape.mem_objectTypes.mpr ht)
  have hmroot := Shape.mem_objectTypes.mp (mem_of_mem_firstsBy hm)
  have hnot : ¬ (Shape.infer rootName v).Clash t.name := by
    intro hclash
    have htold := (Shape.readable_infer hkeys rootName).toldApart hclash
    obtain ⟨texts, htexts⟩ := Shape.reports_iff_toldApart.mpr htold
    rw [hreport] at htexts
    exact List.not_mem_nil htexts
  have halike : m.shape.alike t.shape = true := by
    by_contra hne
    exact hnot ⟨m, t, hmroot, ht, hname, rfl, Bool.eq_false_iff.mpr hne⟩
  obtain rfl := Shape.eq_of_alike hmroot ht hname halike
  refine ⟨m, ?_, rfl, fun o => rfl⟩
  rw [Shape.types_eq]
  exact hm

/-- Two arrays under one key hold objects of one structure; the type of the second one is written
like that of the first, which is kept. -/
theorem the_items_of_two_arrays_share_a_type :
    let entry (n : Number) : Json := .obj [("tags", .arr [.obj [("id", .num n)]])]
    let v : Json := .obj [("a", entry (.whole 1)), ("b", entry (.whole 2))]
    let t : ObjectType := ⟨"TagsItem", [("id", .scalar .number)]⟩
    (∀ k ∈ v.keys, ∀ c ∈ k.toList, c ∉ structureMarks) ∧
      (Shape.infer "Root" v).collisions = [] ∧ t.shape.Within (Shape.infer "Root" v) ∧
      ∃ m ∈ (Shape.infer "Root" v).types, m.name = "TagsItem" ∧
        ∀ o : LanguageOptions, o.definition m = o.definition t := by
  intro entry v t
  have hkeys : ∀ k ∈ v.keys, ∀ c ∈ k.toList, c ∉ structureMarks := by decide +kernel
  have hreport : (Shape.infer "Root" v).collisions = [] := by decide +kernel
  have hroot : (Shape.infer "Root" v).objectTypes =
      [t, ⟨"A", [("tags", .array "Tags" t.shape)]⟩, t, ⟨"B", [("tags", .array "Tags" t.shape)]⟩,
        ⟨"Root", (Shape.infer "Root" v).fields⟩] := by rfl
  have ht : t.shape.Within (Shape.infer "Root" v) := by
    rw [← Shape.mem_objectTypes, hroot]
    exact List.mem_cons_self
  exact ⟨hkeys, hreport, ht,
    a_kept_type_is_written_like_all_its_namesakes "Root" v hkeys hreport t ht⟩

end TypeSketch
