-- Names of accessors in Java. A class with accessors makes them of the name of the member, which
-- is split into words once more, so two members share their accessors where the second reading
-- takes several words of a name for one.
import TypeSketch.Proofs.Naming.Reread
import TypeSketch.Proofs.Shape.Named
import TypeSketch.Target.Java

namespace TypeSketch.Java

open Text Naming

/-! ## Accessors -/

/-- The name of the method that returns a member. -/
def Member.getter (m : Member) : String := "get" ++ m.accessor

/-- The name of the method that sets a member. -/
def Member.setter (m : Member) : String := "set" ++ m.accessor

/-- The lines that declare the accessors of a member: a method without parameters, and one with a
parameter and no result. -/
def Member.accessorHeads (m : Member) : List String :=
  ["    public " ++ m.type ++ " " ++ m.getter ++ "() \x7b",
    "    public void " ++ m.setter ++ "(" ++ m.type ++ " " ++ m.name ++ ") \x7b"]

theorem Member.accessorHeads_eq (m : Member) : m.accessorHeads =
    ["    public " ++ m.type ++ " get" ++ m.accessor ++ "() \x7b",
      "    public void set" ++ m.accessor ++ "(" ++ m.type ++ " " ++ m.name ++ ") \x7b"] := by
  simp [accessorHeads, getter, setter, ← String.toList_inj]

theorem Member.accessorHeads_sublist (m : Member) :
    m.accessorHeads.Sublist m.accessorLines := by
  rw [accessorHeads_eq, accessorLines]
  exact .cons _ (.cons_cons _ (.cons _ (.cons _ (.cons _ (.cons_cons _ (List.nil_sublist _))))))

/-- A class with accessors declares those of all its members. -/
theorem accessorHeads_sublist_definition {o : Options} (h : o.classStyle = .pojo)
    (t : ObjectType) :
    ((t.fields.map (member o)).flatMap Member.accessorHeads).Sublist (definition o t) := by
  have hall := List.Sublist.flatMap_right (t.fields.map (member o)) fun m _ =>
    m.accessorHeads_sublist
  simp only [definition, layout, h, pojoLines]
  exact hall.trans ((List.sublist_append_right ..).trans
    ((List.sublist_append_left ..).trans (List.sublist_append_left ..)))

/-! ## Names -/

theorem name_eq_iff (o : Options) (f g : Field) : (member o f).name = (member o g).name ↔
    Convention.camel.told f.1 = Convention.camel.told g.1 :=
  Convention.governs_camel.convertKey_eq_iff f.1 g.1

theorem accessor_eq_iff (o : Options) (f g : Field) :
    (member o f).accessor = (member o g).accessor ↔
      reread (Convention.camel.told f.1) = reread (Convention.camel.told g.1) :=
  convert_pascal_fieldName_inj f.1 g.1

theorem getter_eq_iff (o : Options) (f g : Field) :
    (member o f).getter = (member o g).getter ↔
      reread (Convention.camel.told f.1) = reread (Convention.camel.told g.1) := by
  rw [Member.getter, Member.getter, String.append_right_inj, accessor_eq_iff]

theorem setter_eq_iff (o : Options) (f g : Field) :
    (member o f).setter = (member o g).setter ↔
      reread (Convention.camel.told f.1) = reread (Convention.camel.told g.1) := by
  rw [Member.setter, Member.setter, String.append_right_inj, accessor_eq_iff]

/-! ## The law -/

/-- A class with accessors declares a method that returns and a method that sets for each member.
Two members have one name if and only if their keys tell the same words. They have one getter, and
one setter, if and only if the same words are read in their names once more, where a joint counts
only if it shows: a small letter before a capital, or a capital before a capital and a small
letter. So members with different names have different accessors where all joints of their names
show, and no accessor is declared twice exactly when no two names are read as the same words. -/
theorem accessors_tell_the_words_that_a_name_shows (o : Options) (h : o.classStyle = .pojo)
    (t : ObjectType) :
    ((t.fields.map (member o)).flatMap Member.accessorHeads).Sublist (definition o t) ∧
      (∀ f ∈ t.fields, ∀ g ∈ t.fields,
        ((member o f).name = (member o g).name ↔
          Convention.camel.told f.1 = Convention.camel.told g.1) ∧
        ((member o f).getter = (member o g).getter ↔
          reread (Convention.camel.told f.1) = reread (Convention.camel.told g.1)) ∧
        ((member o f).setter = (member o g).setter ↔
          reread (Convention.camel.told f.1) = reread (Convention.camel.told g.1)) ∧
        (Clear (Convention.camel.told f.1) → Clear (Convention.camel.told g.1) →
          (member o f).name ≠ (member o g).name →
            (member o f).getter ≠ (member o g).getter ∧
              (member o f).setter ≠ (member o g).setter)) ∧
      ((t.fields.map fun f => (member o f).getter).Nodup ↔
        (t.fields.map fun f => reread (Convention.camel.told f.1)).Nodup) ∧
      ((t.fields.map fun f => (member o f).setter).Nodup ↔
        (t.fields.map fun f => reread (Convention.camel.told f.1)).Nodup) := by
  refine ⟨accessorHeads_sublist_definition h t, fun f _ g _ => ?_, ?_, ?_⟩
  · refine ⟨name_eq_iff o f g, getter_eq_iff o f g, setter_eq_iff o f g, fun hf hg hne => ?_⟩
    rw [Ne, Ne, getter_eq_iff, setter_eq_iff, reread_of_clear hf, reread_of_clear hg,
      ← name_eq_iff o f g]
    exact ⟨hne, hne⟩
  · simp only [List.Nodup, List.pairwise_map, Ne, getter_eq_iff]
  · simp only [List.Nodup, List.pairwise_map, Ne, setter_eq_iff]

/-- The joint behind a digit does not show, and that between two words of letters does. -/
theorem a_digit_hides_a_joint :
    let o : Options := { classStyle := .pojo }
    let t : ObjectType := ⟨"Root", [("a1b", .scalar .null), ("a1_b", .scalar .null),
      ("ab_cd", .scalar .null)]⟩
    o.classStyle = .pojo ∧ (t.fields.map fun f => (member o f).name).Nodup ∧
      ¬ (t.fields.map fun f => (member o f).getter).Nodup ∧
      ¬ (t.fields.map fun f => (member o f).setter).Nodup ∧
      reread (Convention.camel.told "ab_cd") = ["ab", "cd"] := by
  intro o t
  obtain ⟨-, -, hgetters, hsetters⟩ := accessors_tell_the_words_that_a_name_shows o rfl t
  rw [hgetters, hsetters]
  decide +kernel

/-- Two keys of one object whose members have different names, and the same accessors. -/
theorem a_single_letter_takes_the_accessors_of_a_word :
    ¬ ∀ o : Options, o.classStyle = .pojo →
      ∀ (rootName : String) (v : Json) (t : ObjectType), t.shape.Within (Shape.infer rootName v) →
        ∀ f ∈ t.fields, ∀ g ∈ t.fields, (member o f).name ≠ (member o g).name →
          (member o f).getter ≠ (member o g).getter ∧
            (member o f).setter ≠ (member o g).setter := by
  intro h
  let o : Options := { classStyle := .pojo }
  let v : Json := .obj [("a_b_c", .null), ("a_bc", .null)]
  let t : ObjectType := ⟨"Root", [("a_b_c", .scalar .null), ("a_bc", .scalar .null)]⟩
  have hnames : (member o ("a_b_c", .scalar .null)).name ≠
      (member o ("a_bc", .scalar .null)).name := by decide +kernel
  have hdistinct := h o rfl "Root" v t (.here _) _ List.mem_cons_self _
    (List.mem_cons_of_mem _ List.mem_cons_self) hnames
  revert hdistinct
  decide +kernel

end TypeSketch.Java
