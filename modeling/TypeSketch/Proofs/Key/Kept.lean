-- Keys of a document in its definitions: where the options of a language keep
-- keys, the text of every definition tells the keys of its object, in order.
import TypeSketch.Code.Emit
import TypeSketch.Proofs.Key.CSharp
import TypeSketch.Proofs.Key.Java
import TypeSketch.Proofs.Key.JavaScript
import TypeSketch.Proofs.Key.Kotlin
import TypeSketch.Proofs.Key.Python
import TypeSketch.Proofs.Key.Rust
import TypeSketch.Proofs.Key.Swift

namespace TypeSketch

open Text Key

/-- The readers of the definitions that options give: one for each kind of mark that keeps the
keys. -/
def LanguageOptions.readers : LanguageOptions → List Reader
  | python o => if o.style = .typedDict then [] else [Python.reader o]
  | rust o => if o.deriveSerde then [Rust.reader o] else []
  | java o => o.serialization.mark?.toList.map (Java.reader o)
  | kotlin o => o.serialization.mark?.toList.map (Kotlin.reader o)
  | csharp o => ([.jsonPropertyName, .jsonProperty].filter o.keeps).map (CSharp.reader o)
  | swift o => if o.useCodingKeys then [Swift.reader o] else []
  | javascript o => if o.useJsDoc then [JavaScript.reader o] else []
  | typescript _ => []
  | go _ => []
  | php _ => []

/-- Every reader reads the definition of a type whose fields have shapes that are named by
words. -/
theorem read_definition_of_words {o : LanguageOptions} {r : Reader} (hr : r ∈ o.readers)
    (t : ObjectType) (ht : ∀ f ∈ t.fields, f.2.NamedByWord) :
    r.read t.name (o.definition t) = t.fields.map fun f => Told.of (r.identifier f.1) f.1 := by
  cases o with
  | python o =>
    by_cases h : o.style = .typedDict
    · simp [LanguageOptions.readers, h] at hr
    · simp only [LanguageOptions.readers, if_neg h, List.mem_singleton] at hr
      rw [hr, Python.identifier_reader]
      exact Python.read_definition o h t ht
  | rust o =>
    by_cases h : o.deriveSerde = true
    · simp only [LanguageOptions.readers, if_pos h, List.mem_singleton] at hr
      rw [hr, Rust.identifier_reader]
      exact Rust.read_definition o h t ht
    · simp [LanguageOptions.readers, h] at hr
  | java o =>
    obtain ⟨mark, hmark, rfl⟩ := List.mem_map.mp hr
    rw [Java.identifier_reader]
    exact Java.read_definition o (Option.mem_toList.mp hmark) t ht
  | kotlin o =>
    obtain ⟨mark, hmark, rfl⟩ := List.mem_map.mp hr
    rw [Kotlin.identifier_reader]
    exact Kotlin.read_definition o (Option.mem_toList.mp hmark) t ht
  | csharp o =>
    obtain ⟨a, ha, rfl⟩ := List.mem_map.mp hr
    rw [CSharp.identifier_reader]
    exact CSharp.read_definition o (List.mem_filter.mp ha).2 t ht
  | swift o =>
    by_cases h : o.useCodingKeys = true
    · simp only [LanguageOptions.readers, if_pos h, List.mem_singleton] at hr
      rw [hr, Swift.identifier_reader]
      exact Swift.read_definition o h t ht
    · simp [LanguageOptions.readers, h] at hr
  | javascript o =>
    by_cases h : o.useJsDoc = true
    · simp only [LanguageOptions.readers, if_pos h, List.mem_singleton] at hr
      rw [hr, JavaScript.identifier_reader]
      exact JavaScript.read_definition o h t ht
    · simp [LanguageOptions.readers, h] at hr
  | typescript o => cases hr
  | go o => cases hr
  | php o => cases hr

/-- For every document, every object in it and all options that keep keys: the definition tells of
each field its identifier, and by a mark the key, exactly where the identifier is another text. So
the keys can be read from the definition, in order. In Swift the marks stand in an enumeration,
which is there only if some key needs one, and then lists all properties. -/
theorem a_definition_tells_the_keys_of_its_object (o : LanguageOptions) (r : Reader)
    (hr : r ∈ o.readers) (rootName : String) (v : Json) (t : ObjectType)
    (ht : t.shape.Within (Shape.infer rootName v)) :
    r.read t.name (o.definition t) =
        t.fields.map (fun f => Told.of (r.identifier f.1) f.1) ∧
      (r.read t.name (o.definition t)).map Told.key = t.fields.map Prod.fst ∧
      ∀ s, o = .swift s →
        Swift.Enumerates t.fields (r.linesBehind t.name (o.definition t)) := by
  have hwords : ∀ f ∈ t.fields, f.2.NamedByWord := fun f hf => Shape.namedByWord_of_within ht hf
  have hread := read_definition_of_words hr t hwords
  refine ⟨hread, ?_, ?_⟩
  · rw [hread, List.map_map]
    exact List.map_congr_left fun f _ => Told.key_of (r.identifier f.1) f.1
  · rintro s rfl
    by_cases h : s.useCodingKeys = true
    · simp only [LanguageOptions.readers, if_pos h, List.mem_singleton] at hr
      rw [hr]
      exact Swift.enumerates_definition s h t hwords
    · simp [LanguageOptions.readers, h] at hr

/-- A key with a hyphen is told by a case of the enumeration. -/
theorem a_case_tells_a_key_with_a_hyphen :
    let v : Json := .obj [("user-id", .num (.whole 1)), ("name", .str "Ada")]
    let t : ObjectType := ⟨"Root", [("user-id", .scalar .number), ("name", .scalar .string)]⟩
    let o : LanguageOptions := .swift {}
    Swift.reader {} ∈ o.readers ∧ t.shape.Within (Shape.infer "Root" v) ∧
      (Swift.reader {}).read "Root" (o.definition t) =
        [⟨"userId", some "user-id"⟩, ⟨"name", none⟩] := by
  intro v t o
  have hr : Swift.reader {} ∈ o.readers := List.mem_singleton.mpr rfl
  have ht : t.shape.Within (Shape.infer "Root" v) := .here _
  have hread := (a_definition_tells_the_keys_of_its_object o (Swift.reader {}) hr "Root" v t ht).1
  have htold : t.fields.map (fun f => Told.of ((Swift.reader {}).identifier f.1) f.1) =
      [⟨"userId", some "user-id"⟩, ⟨"name", none⟩] := by
    decide +kernel
  exact ⟨hr, ht, hread.trans htold⟩

end TypeSketch
