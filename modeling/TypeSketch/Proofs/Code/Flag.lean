-- The flag for shared names. It is read from the wording of the warnings, and some of these quote
-- names and keys. So it is also raised by a name or a key that holds the words that are looked for.
import TypeSketch.Code.Generation
import TypeSketch.Proofs.Code.Comment
import TypeSketch.Proofs.Registry.ByName
import TypeSketch.Proofs.Shape.Named
import TypeSketch.Proofs.Text.Run

namespace TypeSketch

open Text Naming

/-- The words by which a warning is taken for one on a shared name. -/
def sharedWords : String := "different shapes"

/-- A text that is taken for a warning on a shared name. -/
def LooksShared (s : String) : Prop := holds s sharedWords = true

instance (s : String) : Decidable (LooksShared s) :=
  inferInstanceAs (Decidable (holds s sharedWords = true))

theorem looksShared_iff {s : String} : LooksShared s ↔ sharedWords.toList <:+: s.toList := holds_iff

/-! ## Warnings -/

namespace Warning

theorem text_ofOptions (s : String) : (ofOptions s).text = s := rfl

theorem looksShared_noFields (type : String) :
    LooksShared (noFields type).text ↔ LooksShared type := by
  have htext : (noFields type).text = "Type '" ++ type ++ "' has no fields" := rfl
  have hopen : CannotOpen sharedWords.toList "Type '".toList := by decide +kernel
  have hclose : CannotOpen sharedWords.toList.reverse "' has no fields".toList.reverse := by
    decide +kernel
  rw [looksShared_iff, htext, String.toList_append, String.toList_append,
    infix_append_right hclose, infix_append_left hopen, looksShared_iff]

theorem looksShared_emptyArray (type key : String) :
    LooksShared (emptyArray type key).text ↔ LooksShared type ∨ LooksShared key := by
  have htext : (emptyArray type key).text =
      "Array field " ++ type ++ "." ++ key ++ " is empty; element type unknown" := rfl
  have hopen : CannotOpen sharedWords.toList "Array field ".toList := by decide +kernel
  have hclose : CannotOpen sharedWords.toList.reverse
      " is empty; element type unknown".toList.reverse := by decide +kernel
  have hdot : ".".toList = ['.'] := by decide
  have hapart : '.' ∉ sharedWords.toList := by decide
  rw [looksShared_iff, htext, String.toList_append, infix_append_right hclose,
    String.toList_append, String.toList_append, String.toList_append, hdot,
    List.append_assoc _ ['.'], List.singleton_append, infix_append_cons hapart,
    infix_append_left hopen, looksShared_iff, looksShared_iff]

theorem looksShared_collision (type : String) (count : Nat) :
    LooksShared (collision type count).text := by
  have htext : (collision type count).text = "Type name '" ++ type ++ "' is used by " ++
      toString count ++ " different shapes; only the first is emitted" := rfl
  have hwords : sharedWords.toList <:+: " different shapes; only the first is emitted".toList := by
    decide +kernel
  rw [looksShared_iff, htext, String.toList_append]
  exact hwords.trans (List.suffix_append _ _).isInfix

end Warning

/-! ## Names -/

/-- A name below a key holds no blank, so only the name of the root can hold the words. -/
theorem looksShared_name {t : ObjectType} {rootName : String} {v : Json}
    (ht : t ∈ (Shape.infer rootName v).types) (h : LooksShared t.name) : LooksShared rootName := by
  have hitem (n : String) (hn : LooksShared n → LooksShared rootName) :
      LooksShared (n ++ "Item") → LooksShared rootName := by
    have hclose : CannotOpen sharedWords.toList.reverse "Item".toList.reverse := by decide +kernel
    rwa [looksShared_iff, String.toList_append, infix_append_right hclose, ← looksShared_iff]
  have hkey (k : String) : LooksShared (typeName k) → LooksShared rootName := by
    intro hk
    have hblank : ' ' ∈ (typeName k).toList := (looksShared_iff.mp hk).subset (by decide)
    exact absurd hblank ((isWord_typeName k).not_mem (by decide))
  exact Shape.namedBy_within (P := fun n => LooksShared n → LooksShared rootName) hitem hkey id
    (Shape.within_of_mem_types ht) t.name t.fields rfl h

/-! ## The flag -/

/-- The name of the Go package, which is quoted where it is no name. -/
def LanguageOptions.quotedName : LanguageOptions → String
  | go o => o.packageName
  | _ => ""

theorem looksShared_ownWarnings (o : LanguageOptions) :
    (∃ w ∈ o.ownWarnings, LooksShared w.text) ↔ LooksShared o.quotedName := by
  have hempty : ¬ LooksShared "" := by decide
  cases o with
  | go o =>
    have hopen : CannotOpen sharedWords.toList "Invalid Go package name: ".toList := by
      decide +kernel
    have hquoted : LooksShared ("Invalid Go package name: " ++ o.packageName) ↔
        LooksShared o.packageName := by
      rw [looksShared_iff, String.toList_append, infix_append_left hopen, looksShared_iff]
    rw [LanguageOptions.ownWarnings, Go.warnings, LanguageOptions.quotedName]
    split
    · rename_i hname
      -- an empty text and a name hold no blank
      refine iff_of_false (by simp) fun h => ?_
      rw [Bool.or_eq_true, decide_eq_true_eq] at hname
      rcases hname with hname | hname
      · exact hempty (hname ▸ h)
      · have hblank : ' ' ∈ o.packageName.toList := (looksShared_iff.mp h).subset (by decide)
        exact free_of_isName hname (by decide +kernel) hblank
    · simp only [List.map_singleton, List.mem_singleton, exists_eq_left, Warning.text_ofOptions]
      exact hquoted
  | python o =>
    have htext : ¬ LooksShared "TypedDict classes are type hints only - no runtime validation" := by
      decide
    rw [LanguageOptions.ownWarnings, Python.warnings]
    refine iff_of_false ?_ hempty
    split <;> simp [Warning.text_ofOptions, htext]
  | typescript o | javascript o | rust o | java o | csharp o | kotlin o | swift o | php o =>
    exact iff_of_false (by simp [LanguageOptions.ownWarnings]) hempty

theorem looksShared_typeWarnings (t : ObjectType) :
    (∃ w ∈ t.warnings, LooksShared w.text) ↔ t.fields = [] ∧ LooksShared t.name ∨
      ∃ f ∈ t.fields, f.2.isEmptyArray = true ∧ (LooksShared t.name ∨ LooksShared f.1) := by
  simp only [ObjectType.warnings, List.mem_append, or_and_right, exists_or]
  refine or_congr ?_ ?_
  · simp [Warning.looksShared_noFields]
  · simp [Warning.looksShared_emptyArray, and_assoc]

theorem looksShared_warnings (root : Shape) :
    (∃ w ∈ root.warnings, LooksShared w.text) ↔ root.collisions ≠ [] ∨
      (∃ t ∈ root.types, t.fields = [] ∧ LooksShared t.name) ∨
      ∃ t ∈ root.types, ∃ f ∈ t.fields, f.2.isEmptyArray = true ∧
        (LooksShared t.name ∨ LooksShared f.1) := by
  have htypes : (∃ w ∈ root.types.flatMap ObjectType.warnings, LooksShared w.text) ↔
      ∃ t ∈ root.types, ∃ w ∈ t.warnings, LooksShared w.text := by
    simp only [List.mem_flatMap]
    tauto
  have hcollisions : (∃ w ∈ root.collisions.map fun c => Warning.collision c.1 c.2.length,
      LooksShared w.text) ↔ root.collisions ≠ [] := by
    rw [Ne, List.eq_nil_iff_forall_not_mem]
    simp [Warning.looksShared_collision]
  simp only [Shape.warnings, List.mem_append, or_and_right, exists_or]
  rw [htypes, hcollisions, or_comm]
  simp only [looksShared_typeWarnings, and_or_left, exists_or]

theorem hasCollisions_iff (o : LanguageOptions) (v : Json) :
    (o.generation v).metadata.hasCollisions = true ↔
      ∃ w ∈ o.warnings (o.rootShape v), LooksShared w.text := by
  simp [LanguageOptions.generation, LooksShared, sharedWords]

/-! ## The law -/

/-- For every language, all options and every document: the flag is raised if and only if objects
of different structure share a name, or a warning quotes the words that are looked for. The latter
is so where an object without fields, or one with a field of an empty array, has a name that holds
them, where the key of a field of an empty array holds them, and where the name of a Go package
does. The name of an object holds them only if that of the root does. So the flag tells shared names
where no key, neither the name of the root nor that of the package holds these words. -/
theorem the_flag_tells_shared_names_or_their_words (o : LanguageOptions) (v : Json) :
    let root := o.rootShape v
    let flag := (o.generation v).metadata.hasCollisions
    (generateWith o.language (.of o) v).outcome.1 = .ok (o.generation v) ∧
      (flag = true ↔ root.collisions ≠ [] ∨
        (∃ t ∈ root.types, t.fields = [] ∧ LooksShared t.name) ∨
        (∃ t ∈ root.types, ∃ f ∈ t.fields, f.2.isEmptyArray = true ∧
          (LooksShared t.name ∨ LooksShared f.1)) ∨
        LooksShared o.quotedName) ∧
      (∀ t ∈ root.types, LooksShared t.name → LooksShared o.shared.rootName) ∧
      (¬ LooksShared o.shared.rootName → (∀ key ∈ v.keys, ¬ LooksShared key) →
        ¬ LooksShared o.quotedName → (flag = true ↔ root.collisions ≠ [])) := by
  intro root flag
  have hflag : flag = true ↔ root.collisions ≠ [] ∨
      (∃ t ∈ root.types, t.fields = [] ∧ LooksShared t.name) ∨
      (∃ t ∈ root.types, ∃ f ∈ t.fields, f.2.isEmptyArray = true ∧
        (LooksShared t.name ∨ LooksShared f.1)) ∨
      LooksShared o.quotedName := by
    simp only [flag, hasCollisions_iff, LanguageOptions.warnings, List.mem_append, or_and_right,
      exists_or]
    rw [looksShared_warnings, looksShared_ownWarnings, or_assoc, or_assoc]
  refine ⟨generateWith_of o v, hflag, fun t ht => looksShared_name ht, fun hroot hkeys hname => ?_⟩
  rw [hflag, or_iff_left]
  rintro (⟨t, ht, -, h⟩ | ⟨t, ht, f, hf, -, h | h⟩ | h)
  · exact hroot (looksShared_name ht h)
  · exact hroot (looksShared_name ht h)
  · exact hkeys f.1 (Shape.mem_keys_of_within (Shape.within_of_mem_types ht) hf) h
  · exact hname h

/-- An object inside its namesake raises the flag, and so does the name of a package. -/
theorem a_namesake_and_a_package_raise_the_flag :
    let o : LanguageOptions := .java {}
    let v : Json := .obj [("a", .obj [("a", .obj [])])]
    let p : LanguageOptions := .go { packageName := "different shapes" }
    ¬ LooksShared o.shared.rootName ∧ (∀ key ∈ v.keys, ¬ LooksShared key) ∧
      ¬ LooksShared o.quotedName ∧ (o.generation v).metadata.hasCollisions = true ∧
      (p.rootShape .null).collisions = [] ∧
      (p.generation .null).metadata.hasCollisions = true := by
  intro o v p
  have hroot : ¬ LooksShared o.shared.rootName := by decide +kernel
  have hkeys : ∀ key ∈ v.keys, ¬ LooksShared key := by decide +kernel
  have hname : ¬ LooksShared o.quotedName := by decide +kernel
  obtain ⟨-, -, -, hshared⟩ := the_flag_tells_shared_names_or_their_words o v
  obtain ⟨-, hflag, -⟩ := the_flag_tells_shared_names_or_their_words p .null
  refine ⟨hroot, hkeys, hname, ?_, rfl, ?_⟩
  · rw [hshared hroot hkeys hname]
    decide +kernel
  · exact hflag.mpr (.inr (.inr (.inr (by decide +kernel))))

/-- A key with these words raises the flag where no name is shared. -/
theorem a_key_raises_the_flag :
    ¬ ∀ (o : LanguageOptions) (v : Json),
      (o.generation v).metadata.hasCollisions = true ↔ (o.rootShape v).collisions ≠ [] := by
  intro h
  have hflag := h (.typescript {}) (.obj [("different shapes", .arr [])])
  revert hflag
  decide +kernel

end TypeSketch
