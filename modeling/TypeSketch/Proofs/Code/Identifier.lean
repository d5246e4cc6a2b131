-- Identifiers of members. In the languages that turn keys into identifiers two keys
-- of an object become one member exactly when they tell the same words.
import TypeSketch.Proofs.Code.Optional
import TypeSketch.Proofs.Naming.Convention

namespace TypeSketch

open Text Naming

/-- The convention for the identifiers of members, where a language makes them of keys. A typed
dictionary of Python and a TypeScript type keep the keys themselves. -/
def LanguageOptions.convention? : LanguageOptions → Option Convention
  | typescript _ => none
  | python o => if o.style = .typedDict then none else some .ledSnake
  | rust _ => some .snake
  | go _ => some .exported
  | csharp _ => some .pascal
  | javascript _ => some .camel
  | java _ => some .camel
  | kotlin _ => some .camel
  | swift _ => some .camel
  | php _ => some .camel

/-! ## Keywords -/

/-- Names with a mark on the keywords among them are as distinct as the names, if a mark makes no
other name. -/
theorem marked_eq_iff {keywords : List String} (mark : String → String) {s t : String}
    (hinj : mark s = mark t → s = t) (hst : mark s ≠ t) (hts : mark t ≠ s) :
    (if s ∈ keywords then mark s else s) = (if t ∈ keywords then mark t else t) ↔ s = t := by
  constructor
  · intro h
    split at h
    · split at h
      · exact hinj h
      · exact absurd h hst
    · split at h
      · exact absurd h.symm hts
      · exact h
  · intro h
    rw [h]

/-- A name without a mark has none of the mark's characters. -/
theorem Rust.mark_ne_fieldName (w key : String) : "r#" ++ w ≠ fieldName .snake key := by
  intro h
  apply (isWord_fieldName .snake key).not_mem (c := '#') (by decide)
  rw [← h, String.toList_append]
  exact List.mem_append_left _ (by decide)

/-- The mark of a keyword does not hide which name it stands before. -/
theorem Rust.name_eq_iff (o : Rust.Options) (f g : Field) :
    (Rust.member o f).name = (Rust.member o g).name ↔
      convertKey .snake "_" "field" f.1 = convertKey .snake "_" "field" g.1 := by
  have hplain (f : Field) : (Rust.member o f).plainName = convertKey .snake "_" "field" f.1 := rfl
  rw [Rust.Member.name, Rust.Member.name, hplain, hplain]
  refine marked_eq_iff ("r#" ++ ·) (fun h => ?_) (Rust.mark_ne_fieldName _ g.1)
    (Rust.mark_ne_fieldName _ f.1)
  rw [← String.toList_inj, String.toList_append, String.toList_append] at h
  exact String.toList_inj.mp (List.append_cancel_left h)

/-- No name of the convention ends in an underscore. -/
theorem Python.append_underscore_ne (key key' : String) :
    convertKey .snake "field_" "field" key ++ "_" ≠ convertKey .snake "field_" "field" key' := by
  have hne : Convention.ledSnake.filled (smallWords key') ≠ [] := by
    intro h
    cases (Convention.governs_ledSnake.identifier_of_nil h).1
  have hsmall := Convention.governs_ledSnake.small_told key'
  have hlast : (convertKey .snake "field_" "field" key').toList.getLast? ≠ some '_' := by
    rw [Convention.governs_ledSnake.identifier_eq hne,
      Convention.governs_ledSnake.joinChars_parted hsmall,
      getLast?_marked (joinChars_ne_nil (.inl rfl) hsmall hne)]
    exact getLast?_snake hsmall
  intro h
  rw [← h, String.toList_append, List.getLast?_append] at hlast
  exact hlast rfl

/-- Nor does the underscore behind a keyword. -/
theorem Python.memberName_eq_iff (key key' : String) :
    Python.memberName key = Python.memberName key' ↔
      convertKey .snake "field_" "field" key = convertKey .snake "field_" "field" key' := by
  rw [Python.memberName, Python.memberName]
  refine marked_eq_iff (· ++ "_") (fun h => ?_) (Python.append_underscore_ne key key')
    (Python.append_underscore_ne key' key)
  rw [← String.toList_inj, String.toList_append, String.toList_append] at h
  exact String.toList_inj.mp (List.append_cancel_right h)

/-! ## The law -/

/-- Two fields get one identifier exactly when the naming of the language's convention gives their
keys one name. -/
theorem LanguageOptions.identifier_eq_iff_convertKey {o : LanguageOptions} {c : Convention}
    (hc : o.convention? = some c) : ∃ k lead fallback, c.Governs k lead fallback ∧
      ∀ f g, (o.slot f).identifier = (o.slot g).identifier ↔
        convertKey k lead fallback f.1 = convertKey k lead fallback g.1 := by
  cases o with
  | typescript o => cases hc
  | python o =>
    by_cases h : o.style = .typedDict
    · simp [convention?, h] at hc
    · simp only [convention?, if_neg h, Option.some.injEq] at hc
      subst hc
      refine ⟨_, _, _, Convention.governs_ledSnake, fun f g => ?_⟩
      simp only [slot, Python.member_of_class h, Python.name_of]
      exact Python.memberName_eq_iff f.1 g.1
  | rust o =>
    cases hc
    refine ⟨_, _, _, Convention.governs_snake, fun f g => ?_⟩
    simp only [slot]
    exact Rust.name_eq_iff o f g
  | go o =>
    cases hc
    exact ⟨_, _, _, Convention.governs_exported, fun f g => Iff.rfl⟩
  | csharp o =>
    cases hc
    exact ⟨_, _, _, Convention.governs_pascal, fun f g => Iff.rfl⟩
  | javascript o | java o | kotlin o | swift o | php o =>
    cases hc
    exact ⟨_, _, _, Convention.governs_camel, fun f g => Iff.rfl⟩

theorem LanguageOptions.identifier_eq_iff {o : LanguageOptions} {c : Convention}
    (hc : o.convention? = some c) (f g : Field) :
    (o.slot f).identifier = (o.slot g).identifier ↔ c.told f.1 = c.told g.1 := by
  obtain ⟨k, lead, fallback, hgoverns, heq⟩ := identifier_eq_iff_convertKey hc
  rw [heq, hgoverns.convertKey_eq_iff]

/-- For every object and all options of the languages that turn keys into identifiers: two fields
get one identifier if and only if their keys tell the same words, in small letters, with what the
convention of the language adds. So all members have identifiers of their own exactly when no two
keys tell the same words. -/
theorem keys_that_tell_the_same_words_share_an_identifier (o : LanguageOptions) (c : Convention)
    (hc : o.convention? = some c) (t : ObjectType) :
    (∀ f ∈ t.fields, ∀ g ∈ t.fields,
        (o.slot f).identifier = (o.slot g).identifier ↔ c.told f.1 = c.told g.1) ∧
      ((t.fields.map fun f => (o.slot f).identifier).Nodup ↔
        (t.fields.map fun f => c.told f.1).Nodup) := by
  refine ⟨fun f _ g _ => LanguageOptions.identifier_eq_iff hc f g, ?_⟩
  rw [List.Nodup, List.Nodup, List.pairwise_map, List.pairwise_map]
  refine iff_of_eq (congrArg (List.Pairwise · t.fields) ?_)
  funext f g
  exact propext (LanguageOptions.identifier_eq_iff hc f g).not

/-- In Go a key that begins with a digit tells the same words as one with an x before it. -/
theorem a_digit_and_an_x_share_a_field :
    let o : LanguageOptions := .go {}
    let t : ObjectType := ⟨"Root", [("2fa", .scalar .boolean), ("x2fa", .scalar .boolean)]⟩
    o.convention? = some .exported ∧
      Convention.exported.told "2fa" = ["x2fa"] ∧ Convention.exported.told "x2fa" = ["x2fa"] ∧
      ¬ (t.fields.map fun f => (o.slot f).identifier).Nodup := by
  intro o t
  have h2 : Convention.exported.told "2fa" = ["x2fa"] := by decide
  have hx : Convention.exported.told "x2fa" = ["x2fa"] := by decide
  have hlaw := (keys_that_tell_the_same_words_share_an_identifier o .exported rfl t).2
  refine ⟨rfl, h2, hx, ?_⟩
  rw [hlaw]
  simp [t, h2, hx]

/-- Distinct keys of a document's object need not give distinct identifiers: a hyphen and an
underscore part the same words. -/
theorem a_hyphen_and_an_underscore_share_a_member :
    ¬ ∀ (o : LanguageOptions) (c : Convention), o.convention? = some c →
      ∀ (rootName : String) (v : Json) (t : ObjectType), t.shape.Within (Shape.infer rootName v) →
        (t.fields.map Prod.fst).Nodup → (t.fields.map fun f => (o.slot f).identifier).Nodup := by
  intro h
  let v : Json := .obj [("a-b", .null), ("a_b", .null)]
  let t : ObjectType := ⟨"Root", [("a-b", .scalar .null), ("a_b", .scalar .null)]⟩
  have hnodup := h (.java {}) .camel rfl "Root" v t (.here _) (by decide)
  revert hnodup
  decide

end TypeSketch
