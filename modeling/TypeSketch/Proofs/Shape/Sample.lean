-- What of a sample reaches the code: the keys, their order, and the kinds of the
-- values. Two documents have one shape exactly when they are alike in these, so
-- no scalar and no item of an array after the first has any influence.
import TypeSketch.Code.Setup
import TypeSketch.Proofs.Shape.Structure

namespace TypeSketch

/-! ## Alike documents -/

namespace Json

mutual

/-- Whether two documents are alike: scalars of one kind, arrays that are both empty or have
alike first items, or objects with the same keys in the same order and alike values. -/
def alike : Json → Json → Bool
  | null, null => true
  | bool _, bool _ => true
  | num _, num _ => true
  | str _, str _ => true
  | arr vs, arr ws => alikeItems vs ws
  | obj es, obj fs => alikeEntries es fs
  | _, _ => false

/-- Whether two arrays are both empty or have alike first items. -/
def alikeItems : List Json → List Json → Bool
  | [], [] => true
  | v :: _, w :: _ => v.alike w
  | _, _ => false

/-- Whether the entries of two objects have the same keys in the same order and alike values. -/
def alikeEntries : List (String × Json) → List (String × Json) → Bool
  | [], [] => true
  | (k, v) :: es, (l, w) :: fs => k == l && v.alike w && alikeEntries es fs
  | _, _ => false

end

theorem alikeEntries_cons {e f : String × Json} {es fs : List (String × Json)} :
    alikeEntries (e :: es) (f :: fs) = true ↔
      (e.1 = f.1 ∧ e.2.alike f.2 = true) ∧ alikeEntries es fs = true := by
  rw [alikeEntries, Bool.and_eq_true, Bool.and_eq_true, beq_iff_eq]

end Json

namespace Shape

/-! ## Alike documents and their shapes -/

theorem alike_refl (s : Shape) : s.alike s = true := by
  induction s with
  | scalar k => rw [alike_scalar]
  | array n e ih => rw [alike_array, ih]
  | object n fs ih =>
    rw [alike_object]
    induction fs with
    | nil => rfl
    | cons f r ihr =>
      rw [alikeFields_cons]
      exact ⟨⟨rfl, ih f List.mem_cons_self⟩, ihr fun g hg => ih g (List.mem_cons_of_mem _ hg)⟩

/-- Two shapes of documents have one structure exactly when the documents are alike, whatever the
names that they were given. -/
theorem alike_infer (n m : String) (v w : Json) :
    (infer n v).alike (infer m w) = v.alike w := by
  induction v generalizing n m w with
  | null => cases w <;> rfl
  | bool b => cases w <;> rfl
  | num x => cases w <;> rfl
  | str s => cases w <;> rfl
  | arr vs ih =>
    cases w with
    | arr ws =>
      rw [infer, infer, alike, Json.alike]
      cases vs with
      | nil =>
        -- no item of a document has the shape of a missing one
        cases ws with
        | nil => rfl
        | cons w r => cases w <;> rfl
      | cons v r =>
        cases ws with
        | nil => cases v <;> rfl
        | cons w r' =>
          rw [inferElement, inferElement, Json.alikeItems]
          exact ih v List.mem_cons_self _ _ w
    | _ => rfl
  | obj es ih =>
    cases w with
    | obj fs =>
      rw [infer, infer, alike, Json.alike]
      induction es generalizing fs with
      | nil => cases fs <;> rfl
      | cons e es ihes =>
        cases fs with
        | nil => rfl
        | cons f fs =>
          rw [inferFields, inferFields, alikeFields, Json.alikeEntries,
            ih e List.mem_cons_self, ihes fun e he => ih e (List.mem_cons_of_mem _ he)]
    | _ => rfl

/-- Alike documents have one shape: every name in it follows from the keys. -/
theorem infer_eq_of_alike {v w : Json} (h : v.alike w = true) (name : String) :
    infer name v = infer name w := by
  induction v generalizing w name with
  | null => cases w <;> simp_all [infer, Json.alike]
  | bool b => cases w <;> simp_all [infer, Json.alike]
  | num x => cases w <;> simp_all [infer, Json.alike]
  | str s => cases w <;> simp_all [infer, Json.alike]
  | arr vs ih =>
    cases w with
    | arr ws =>
      rw [infer, infer]
      cases vs with
      | nil =>
        cases ws with
        | nil => rfl
        | cons w r => cases h
      | cons v r =>
        cases ws with
        | nil => cases h
        | cons w r' =>
          rw [Json.alike, Json.alikeItems] at h
          rw [inferElement, inferElement, ih v List.mem_cons_self h]
    | _ => cases h
  | obj es ih =>
    cases w with
    | obj fs =>
      rw [Json.alike] at h
      rw [infer, infer]
      congr 1
      induction es generalizing fs with
      | nil =>
        cases fs with
        | nil => rfl
        | cons f fs => cases h
      | cons e es ihes =>
        cases fs with
        | nil => cases h
        | cons f fs =>
          obtain ⟨⟨hk, hv⟩, hr⟩ := Json.alikeEntries_cons.mp h
          rw [inferFields, inferFields, ihes (fun e he => ih e (List.mem_cons_of_mem _ he)) fs hr,
            ih e List.mem_cons_self hv, hk]
    | _ => cases h

theorem infer_eq_iff_alike (name : String) (v w : Json) :
    infer name v = infer name w ↔ v.alike w = true := by
  constructor
  · intro h
    rw [← alike_infer name name, h]
    exact alike_refl _
  · exact fun h => infer_eq_of_alike h name

end Shape

/-! ## Alike documents and their code -/

section

variable {v w : Json} (h : v.alike w = true)
include h

theorem LanguageOptions.rootShape_eq_of_alike (o : LanguageOptions) :
    o.rootShape v = o.rootShape w := Shape.infer_eq_of_alike h o.shared.rootName

theorem LanguageOptions.generate_eq_of_alike (o : LanguageOptions) :
    o.generate v = o.generate w := by
  rw [generate, generate, o.rootShape_eq_of_alike h]

/-- The code, the warnings and the facts come from the shape alone. -/
theorem LanguageOptions.generation_eq_of_alike (o : LanguageOptions) :
    o.generation v = o.generation w := by
  rw [generation, generation, o.generate_eq_of_alike h, o.rootShape_eq_of_alike h]

/-- With a record of any kind alike documents give the same outcome, and the same notes on it. -/
theorem generateWith_eq_of_alike (l : Language) (r : OptionRecord) :
    generateWith l r v = generateWith l r w := by
  rw [generateWith, generateWith, Shape.infer_eq_of_alike h]
  cases r.forLanguage l with
  | ok o =>
    simp only [o.generation_eq_of_alike h, LanguageOptions.generationNotes,
      o.rootShape_eq_of_alike h]
  | error e => rfl

theorem Registry.generate_eq_of_alike (r : Registry) (name : String)
    (given : Option OptionRecord) : r.generate name given v = r.generate name given w := by
  simp only [generate, LanguageOptions.generate_eq_of_alike h]

end

/-- Two documents have one shape, under whatever name, if and only if they are alike. And then
nothing that is made of them tells them apart: in every language and under every record they give
the same code, the same warnings and the same facts, and leave the same notes, and so does the
emitter behind any name of a registry. -/
theorem only_keys_and_kinds_of_a_sample_count (v w : Json) :
    (∀ name, Shape.infer name v = Shape.infer name w ↔ v.alike w = true) ∧
      (v.alike w = true →
        (∀ o : LanguageOptions, o.generation v = o.generation w) ∧
          (∀ (l : Language) (r : OptionRecord),
            (generateWith l r v).outcome = (generateWith l r w).outcome) ∧
          ∀ (r : Registry) (name : String) (given : Option OptionRecord),
            r.generate name given v = r.generate name given w) := by
  refine ⟨fun name => Shape.infer_eq_iff_alike name v w, fun h => ⟨?_, ?_, ?_⟩⟩
  · exact fun o => o.generation_eq_of_alike h
  · exact fun l r => by rw [generateWith_eq_of_alike h]
  · exact fun r name given => r.generate_eq_of_alike h name given

/-- A number may be any number, and only the first item of an array is looked at; but an array
without items is like none with some. -/
example :
    let v : Json := .obj [("a", .num (.whole 1)), ("b", .arr [.bool true, .str "x"])]
    v.alike (.obj [("a", .num .nan), ("b", .arr [.bool false])]) = true ∧
      v.alike (.obj [("a", .num (.whole 1)), ("b", .arr [])]) = false := by
  decide

end TypeSketch
