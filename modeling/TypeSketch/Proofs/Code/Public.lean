-- Names that the readers of a class may use. A field of Go has a capital in front, so
-- other packages see it; an attribute of Python has a small letter in front and no two
-- underscores in a row, so it is neither private nor mangled, and it is no keyword.
import TypeSketch.Proofs.Code.Identifier
import TypeSketch.Proofs.Naming.Grammar

namespace TypeSketch

open Text Naming

/-! ## Fields of Go -/

/-- A capital with letters and digits behind it. -/
def Go.Exported (s : String) : Prop := Headed isUpper isLetterOrDigit s.toList

theorem Go.exported_iff (s : String) : Go.Exported s ↔ ∃ key, Go.memberName key = s := by
  have hrange := Convention.governs_exported.range_iff (by rfl) (by decide) s.toList
  rw [begun_pascal_iff] at hrange
  unfold Go.Exported Go.memberName
  rw [← hrange]
  simp only [String.toList_inj]

/-! ## Attributes of Python -/

/-- A small letter with small letters, digits and single underscores behind it, that is no keyword;
an underscore at the end stands behind a keyword. -/
structure Python.PublicName (s : String) : Prop where
  underscored : Underscored s.toList
  notKeyword : s ∉ Python.keywords
  marked : ∀ w, s = w ++ "_" → w ∈ Python.keywords

/-- What is made of keys before the keywords among it are marked. -/
theorem Python.plain_iff (s : String) :
    (∃ key, convertKey .snake "field_" "field" key = s) ↔
      Underscored s.toList ∧ s.toList.getLast? ≠ some '_' := by
  have hrange := Convention.governs_ledSnake.range_iff (by rfl) (by decide) s.toList
  rw [← begun_snake_iff, ← hrange]
  simp only [String.toList_inj]

theorem Python.exists_append_iff (s : String) :
    (∃ w, s = w ++ "_") ↔ s.toList.getLast? = some '_' := by
  rw [List.getLast?_eq_some_iff]
  constructor
  · rintro ⟨w, rfl⟩
    exact ⟨w.toList, String.toList_append⟩
  · rintro ⟨w, hw⟩
    refine ⟨String.ofList w, ?_⟩
    rw [← String.toList_inj, String.toList_append, String.toList_ofList, hw]
    rfl

/-- An underscore may stand only behind what is made of a key. -/
theorem Python.underscored_append (s : String) : Underscored (s ++ "_").toList ↔
    ∃ key, convertKey .snake "field_" "field" key = s := by
  rw [plain_iff, String.toList_append]
  exact underscored_concat s.toList

theorem Python.append_notMem_keywords (s : String) : s ++ "_" ∉ Python.keywords := by
  intro h
  have hends : ∀ w ∈ Python.keywords, w.toList.getLast? ≠ some '_' := by decide
  exact hends _ h ((exists_append_iff _).mp ⟨s, rfl⟩)

theorem Python.publicName_iff (s : String) :
    Python.PublicName s ↔ ∃ key, Python.memberName key = s := by
  constructor
  · rintro ⟨hunderscored, hkeyword, hmarked⟩
    by_cases hend : ∃ w, s = w ++ "_"
    · -- without its underscore the name is a keyword that a key gives
      obtain ⟨w, rfl⟩ := hend
      obtain ⟨key, rfl⟩ := (underscored_append w).mp hunderscored
      exact ⟨key, by rw [memberName, if_pos (hmarked _ rfl)]⟩
    · obtain ⟨key, rfl⟩ := (plain_iff s).mpr ⟨hunderscored, (exists_append_iff s).not.mp hend⟩
      exact ⟨key, by rw [memberName, if_neg hkeyword]⟩
  · rintro ⟨key, rfl⟩
    by_cases h : convertKey .snake "field_" "field" key ∈ Python.keywords
    · rw [memberName, if_pos h]
      refine ⟨(underscored_append _).mpr ⟨key, rfl⟩, append_notMem_keywords _, fun w hw => ?_⟩
      rw [← String.toList_inj, String.toList_append, String.toList_append] at hw
      rwa [← String.toList_inj.mp (List.append_cancel_right hw)]
    · obtain ⟨hunderscored, hlast⟩ := (plain_iff _).mp ⟨key, rfl⟩
      rw [memberName, if_neg h]
      exact ⟨hunderscored, h, fun w hw => absurd ((exists_append_iff _).mp ⟨w, hw⟩) hlast⟩

/-! ## The law -/

/-- For every key and all options: the field of a Go struct is named with a capital in front and
only letters and digits behind it; and the attribute of a data class or a model with a small letter
in front, small letters, digits and single underscores behind it, and no keyword. Every such name is
that of some key, unless it ends in an underscore that stands behind no keyword. -/
theorem go_exports_its_fields_and_python_publishes_its_attributes (o : Go.Options)
    (p : Python.Options) (hp : p.style ≠ .typedDict) :
    (∀ f, Go.Exported (Go.member o f).name ∧ Python.PublicName (Python.member p f).name) ∧
      (∀ s, Go.Exported s → ∃ f, (Go.member o f).name = s) ∧
      ∀ s, Python.PublicName s → ∃ f, (Python.member p f).name = s := by
  have hgo (f : Field) : (Go.member o f).name = Go.memberName f.1 := rfl
  have hpython (f : Field) : (Python.member p f).name = Python.memberName f.1 := by
    rw [Python.member_of_class hp, Python.name_of]
  refine ⟨fun f => ⟨?_, ?_⟩, fun s hs => ?_, fun s hs => ?_⟩
  · exact (Go.exported_iff _).mpr ⟨f.1, rfl⟩
  · rw [hpython, Python.publicName_iff]
    exact ⟨f.1, rfl⟩
  · obtain ⟨key, rfl⟩ := (Go.exported_iff s).mp hs
    exact ⟨(key, .scalar .null), hgo _⟩
  · obtain ⟨key, rfl⟩ := (Python.publicName_iff s).mp hs
    exact ⟨(key, .scalar .null), hpython _⟩

/-- A key that is a keyword, as the attribute of a model, and one that begins with a digit behind
underscores, as a field. -/
theorem a_class_and_digits_are_public :
    let p : Python.Options := { style := .pydantic, optionalProperties := true }
    p.style ≠ .typedDict ∧
      (Python.member p ("class", .scalar .string)).name = "class_" ∧
      Python.PublicName "class_" ∧
      (Go.member {} ("__2fa", .scalar .boolean)).name = "X2fa" ∧ Go.Exported "X2fa" := by
  intro p
  have hp : p.style ≠ .typedDict := by decide
  have hlaw := (go_exports_its_fields_and_python_publishes_its_attributes {} p hp).1
  have hclass : (Python.member p ("class", .scalar .string)).name = "class_" := by decide
  have hdigits : (Go.member {} ("__2fa", .scalar .boolean)).name = "X2fa" := by decide
  refine ⟨hp, hclass, ?_, hdigits, ?_⟩
  · rw [← hclass]
    exact (hlaw _).2
  · rw [← hdigits]
    exact (hlaw _).1

end TypeSketch
