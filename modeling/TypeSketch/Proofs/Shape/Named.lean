-- The names of a document's arrays and objects. One of them is named after the nearest
-- key above it, with a mark for each array in between, so by a bare name; only where no
-- key stands above it, its name is that of the root with these marks.
import TypeSketch.Proofs.Naming.Letters
import TypeSketch.Proofs.Shape.Position

namespace TypeSketch

open Text Naming

/-- The marks behind the name of an item that stands in some arrays, one in the other. -/
def itemMarks : Nat → String
  | 0 => ""
  | m + 1 => "Item" ++ itemMarks m

theorem isWordChar_of_mem_itemMarks (m : Nat) :
    ∀ c ∈ (itemMarks m).toList, isWordChar c = true := by
  induction m with
  | zero => simp [itemMarks]
  | succ m ih =>
    rw [itemMarks, String.toList_append, List.forall_mem_append]
    exact ⟨by decide, ih⟩

theorem bareName_typeName (key : String) : BareName (typeName key) :=
  bareName_convertKey .pascal (by decide) (by decide) key

namespace Shape

/-- The name of what is not a scalar tells its position: how many arrays stand between it and the
nearest key above it, or the root. -/
theorem name_of_at? {n : String} {v : Json} {p : Position} {s : Shape}
    (h : (infer n v).at? p = some s) (hs : ∀ k, s ≠ scalar k) :
    (∃ m, p = List.replicate m .first ∧ s.name = n ++ itemMarks m) ∨
      ∃ q es i key w m, p = q ++ .entry i :: List.replicate m .first ∧ v.at? q = some (.obj es) ∧
        es[i]? = some (key, w) ∧ s.name = typeName key ++ itemMarks m := by
  induction p generalizing n v with
  | nil =>
    have hname : s.name = n := by
      cases h
      cases v with
      | arr vs => rfl
      | obj es => rfl
      | _ => exact absurd rfl (hs _)
    exact .inl ⟨0, rfl, by rw [hname, itemMarks, String.append_empty]⟩
  | cons t p ih =>
    obtain ⟨e, ht, hp⟩ := Option.bind_eq_some_iff.mp h
    rcases below?_infer_cases ht with ⟨i, es, key, w, rfl, rfl, he, rfl⟩ | ⟨rfl, rfl | ⟨w, hw, rfl⟩⟩
    · -- the key of this entry is the nearest one, unless there is one further down
      have hbelow : (Json.obj es).below? (.entry i) = some w := by
        rw [Json.below?, he, Option.map_some]
      rcases ih hp with ⟨m, rfl, hname⟩ | ⟨q, fs, j, key', w', m, rfl, hq, hj, hname⟩
      · exact .inr ⟨[], es, i, key, w, m, rfl, rfl, he, hname⟩
      · exact .inr ⟨.entry i :: q, fs, j, key', w', m, rfl, by
          rw [Json.at?, hbelow, Option.bind_some, hq], hj, hname⟩
    · cases p with
      | nil =>
        cases hp
        exact absurd rfl (hs .any)
      | cons t p => cases t <;> cases hp
    · rcases ih hp with ⟨m, rfl, hname⟩ | ⟨q, fs, j, key', w', m, rfl, hq, hj, hname⟩
      · exact .inl ⟨m + 1, rfl, by rw [hname, itemMarks, String.append_assoc]⟩
      · exact .inr ⟨.first :: q, fs, j, key', w', m, rfl, by
          rw [Json.at?, hw, Option.bind_some, hq], hj, hname⟩

end Shape

/-! ## The law -/

/-- In every case, with bare names before a first digit and for what has no words, a key gives a
bare name. A key without letters and digits gives the fallback. Any other gives its letters and
digits in their order, in some form, with underscores in between; before them stands the lead if
the first of them is a digit, and nothing otherwise.

So in every document each array and object below a key is named after the nearest one, with a mark
for every array in between, and that is a bare name. Without a key above it, it is the root or an
item of arrays that are the root, and has the root's name with these marks. -/
theorem a_key_gives_a_bare_name_with_its_letters :
    (∀ (k : NameCase) (lead fallback key : String), BareName lead → BareName fallback →
        BareName (convertKey k lead fallback key) ∧
          (lettersAndDigits key = [] → convertKey k lead fallback key = fallback) ∧
          ∀ c r, lettersAndDigits key = c :: r → ∃ body : String,
            convertKey k lead fallback key = (if isDigit c then lead else "") ++ body ∧
              (body.toList.filter (· != '_')).map lowerChar = (c :: r).map lowerChar) ∧
      ∀ (rootName : String) (v : Json) (p : Position) (s : Shape),
        (Shape.infer rootName v).at? p = some s → (∀ k, s ≠ .scalar k) →
          (∃ m, p = List.replicate m .first ∧ s.name = rootName ++ itemMarks m) ∨
            ∃ q es i key w m, p = q ++ .entry i :: List.replicate m .first ∧
              v.at? q = some (.obj es) ∧ es[i]? = some (key, w) ∧
                s.name = convertKey .pascal "_" "Object" key ++ itemMarks m ∧ BareName s.name := by
  constructor
  · intro k lead fallback key hlead hfallback
    refine ⟨bareName_convertKey k hlead hfallback key, convertKey_of_none k lead fallback, ?_⟩
    intro c r h
    obtain ⟨d, b, heq, -, -, hletters⟩ := convertKey_of_cons k lead fallback h
    exact ⟨String.ofList (d :: b), heq, by rwa [String.toList_ofList]⟩
  · intro rootName v p s h hs
    refine (Shape.name_of_at? h hs).imp_right ?_
    rintro ⟨q, es, i, key, w, m, hp, hq, hi, hname⟩
    refine ⟨q, es, i, key, w, m, hp, hq, hi, hname, ?_⟩
    rw [hname]
    exact (bareName_typeName key).append (isWordChar_of_mem_itemMarks m)

/-- An object in two arrays under a key that begins with a digit. -/
theorem a_name_tells_a_digit_and_two_arrays :
    let v : Json := .obj [("2fa-codes", .arr [.arr [.obj []]])]
    let s : Shape := .object "_2faCodesItemItem" []
    BareName "_" ∧ BareName "Object" ∧ lettersAndDigits "2fa-codes" = "2facodes".toList ∧
      (∃ body : String, convertKey .pascal "_" "Object" "2fa-codes" = "_" ++ body ∧
        (body.toList.filter (· != '_')).map lowerChar = "2facodes".toList) ∧
      (Shape.infer "Root" v).at? [.entry 0, .first, .first] = some s ∧ (∀ k, s ≠ .scalar k) ∧
      BareName s.name := by
  intro v s
  obtain ⟨hkeys, hnames⟩ := a_key_gives_a_bare_name_with_its_letters
  have hlead : BareName "_" := by decide
  have hfallback : BareName "Object" := by decide
  have hletters : lettersAndDigits "2fa-codes" = "2facodes".toList := by decide
  have hname : typeName "2fa-codes" ++ "Item" ++ "Item" = "_2faCodesItemItem" := by decide
  have hat : (Shape.infer "Root" v).at? [.entry 0, .first, .first] = some s := by
    simp only [v, s, ← hname]
    rfl
  have hs : ∀ k, s ≠ .scalar k := by simp [s]
  refine ⟨hlead, hfallback, hletters, ?_, hat, hs, ?_⟩
  · obtain ⟨body, hbody, hlower⟩ := (hkeys .pascal "_" "Object" "2fa-codes" hlead hfallback).2.2
      '2' "facodes".toList hletters
    exact ⟨body, hbody, hlower⟩
  · rcases hnames "Root" v _ s hat hs with ⟨m, hp, -⟩ | ⟨_, _, _, _, _, _, _, _, _, _, hbare⟩
    · cases m <;> cases hp
    · exact hbare

end TypeSketch
