-- What is emitted. A definition always shows something, so none is left out: there
-- is code exactly if an object is reached along the first items of arrays, and what
-- it defines depends on the document and the name of the root, not on the language.
import TypeSketch.Proofs.Registry.ByName
import TypeSketch.Proofs.Shape.Order
import TypeSketch.Proofs.Text.Tidy

namespace TypeSketch

open Text

/-! ## Documents with objects -/

/-- A document that is an object, or an array whose first item leads to one. -/
inductive Json.ReachesObject : Json → Prop
  | here (es : List (String × Json)) : ReachesObject (.obj es)
  | first {v : Json} (r : List Json) : ReachesObject v → ReachesObject (.arr (v :: r))

theorem Json.reachesObject_arr {v : Json} {r : List Json} :
    (arr (v :: r)).ReachesObject ↔ v.ReachesObject := by
  constructor
  · intro h
    cases h with
    | first _ h => exact h
  · exact .first r

namespace Shape

theorem objectTypes_infer_ne_nil (name : String) (v : Json) :
    (infer name v).objectTypes ≠ [] ↔ v.ReachesObject := by
  induction v generalizing name with
  | arr vs ih =>
    cases vs with
    | nil =>
      rw [infer, inferElement, objectTypes_array, objectTypes_scalar]
      exact iff_of_false (fun h => h rfl) (by intro h; cases h)
    | cons v r =>
      rw [infer, inferElement, objectTypes_array, Json.reachesObject_arr]
      exact ih v List.mem_cons_self _
  | obj es =>
    rw [infer, objectTypes_object]
    exact iff_of_true (by simp) (.here es)
  | _ =>
    rw [infer, objectTypes_scalar]
    exact iff_of_false (fun h => h rfl) (by intro h; cases h)

/-- A type is kept exactly if an object is reached. -/
theorem types_infer_ne_nil (name : String) (v : Json) :
    (infer name v).types ≠ [] ↔ v.ReachesObject := by
  rw [types_eq, ← objectTypes_infer_ne_nil name v]
  cases (infer name v).objectTypes with
  | nil => rfl
  | cons t r => simp [firstsBy]

end Shape

/-! ## Definitions that show something -/

theorem JavaScript.exists_visible_line (o : Options) (t : ObjectType) :
    ∃ l ∈ definition o t, Visible l := by
  by_cases hclass : o.useClass = true
  · refine ⟨"\x7d", ?_, by decide⟩
    by_cases hes6 : o.useEs6 = true <;> simp [definition, classLines, hclass, hes6]
  · exact ⟨"\x7d;", by simp [definition, templateLines, hclass], by decide⟩

theorem Python.exists_visible_line (o : Options) (t : ObjectType) :
    ∃ l ∈ definition o t, Visible l := by
  have hclass (ending : String) : Visible ("class " ++ t.name ++ ending) := by
    rw [String.append_assoc]
    exact visible_append (by decide) _
  cases hstyle : o.style with
  | pydantic => exact ⟨_, by simp [definition, layout, hstyle], hclass "(BaseModel):"⟩
  | dataclass => exact ⟨_, by simp [definition, layout, hstyle], hclass ":"⟩
  | typedDict =>
    by_cases hcall : needsCall (t.fields.map (member o)) = true
    · have hend : Visible ("\x7d" ++ (if o.useTotal then "" else ", total=False") ++ ")") := by
        rw [String.append_assoc]
        exact visible_append (by decide) _
      exact ⟨_, by simp [definition, layout, dictLines, hstyle, hcall], hend⟩
    · have hline := hclass ("(TypedDict" ++ (if o.useTotal then "" else ", total=False") ++ "):")
      simp only [← String.append_assoc] at hline
      exact ⟨_, by simp [definition, layout, dictLines, hstyle, hcall], hline⟩

theorem Java.exists_visible_line (o : Options) (t : ObjectType) :
    ∃ l ∈ definition o t, Visible l := by
  cases hstyle : o.classStyle with
  | record => exact ⟨") \x7b\x7d", by simp [definition, layout, recordLines, hstyle], by decide⟩
  | pojo => exact ⟨"\x7d", by simp [definition, layout, pojoLines, hstyle], by decide⟩
  | lombok => exact ⟨"\x7d", by simp [definition, layout, lombokLines, hstyle], by decide⟩
  | immutables => exact ⟨"\x7d", by simp [definition, layout, immutablesLines, hstyle], by decide⟩

theorem CSharp.exists_visible_line (o : Options) (t : ObjectType) :
    ∃ l ∈ definition o t, Visible l := by
  by_cases h : o.useRecords = true
  · exact ⟨");", by simp [definition, layout, h], by decide⟩
  · exact ⟨"\x7d", by simp [definition, layout, h], by decide⟩

namespace LanguageOptions

/-- A definition holds a line that shows something, whatever the names of its type and fields. -/
theorem exists_visible_line (o : LanguageOptions) (t : ObjectType) :
    ∃ l ∈ o.definitionLines t, Visible l := by
  have hbrace : Visible "\x7d" := by decide
  cases o with
  | typescript o =>
    exact ⟨_, by simp [definitionLines, TypeScript.definition, TypeScript.layout], hbrace⟩
  | javascript o => exact JavaScript.exists_visible_line o t
  | go o => exact ⟨_, by simp [definitionLines, Go.definition, Go.layout], hbrace⟩
  | python o => exact Python.exists_visible_line o t
  | rust o => exact ⟨_, by simp [definitionLines, Rust.definition, Rust.layout], hbrace⟩
  | java o => exact Java.exists_visible_line o t
  | csharp o => exact CSharp.exists_visible_line o t
  | kotlin o =>
    exact ⟨")", by simp [definitionLines, Kotlin.definition, Kotlin.layout], by decide⟩
  | swift o => exact ⟨_, by simp [definitionLines, Swift.definition, Swift.layout], hbrace⟩
  | php o => exact ⟨_, by simp [definitionLines, Php.definition, Php.layout], hbrace⟩

theorem visible_definition (o : LanguageOptions) (t : ObjectType) : Visible (o.definition t) := by
  obtain ⟨l, hl, hvisible⟩ := o.exists_visible_line t
  exact (visible_intercalate hl hvisible).trimBreaks

/-- No definition is left out. -/
theorem definitions_eq (o : LanguageOptions) (types : List ObjectType) :
    o.definitions types = types.map o.definition := by
  rw [definitions, List.filter_eq_self]
  intro d hd
  obtain ⟨t, _, rfl⟩ := List.mem_map.mp hd
  simpa using (o.visible_definition t).ne_empty

theorem definition_mem_parts (o : LanguageOptions) {types : List ObjectType} {t : ObjectType}
    (ht : t ∈ types) : o.definition t ∈ o.parts types := by
  rw [parts, definitions_eq]
  exact List.mem_append_right _ (List.mem_map_of_mem ht)

/-- There is code exactly if there are types. -/
theorem code_eq_empty {o : LanguageOptions} {types : List ObjectType} :
    o.code types = "" ↔ types = [] := by
  rw [code, definitions_eq]
  cases types with
  | nil => simp
  | cons t r =>
    have hpart : o.definition t ∈ o.parts (t :: r) := o.definition_mem_parts List.mem_cons_self
    have hcode : Visible (Code.tidy (paragraphs (o.parts (t :: r)))) :=
      (visible_intercalate hpart (o.visible_definition t)).tidy
    simpa using hcode.ne_empty

/-- There is code for a document exactly if it reaches an object. -/
theorem generate_eq_empty {o : LanguageOptions} {v : Json} :
    o.generate v = "" ↔ ¬ v.ReachesObject := by
  have htypes : (o.rootShape v).types ≠ [] ↔ v.ReachesObject :=
    Shape.types_infer_ne_nil o.shared.rootName v
  rw [generate, code_eq_empty, ← htypes, not_not]

/-- Where there are types, the code is made of its parts and then made tidy. -/
theorem generate_eq {o : LanguageOptions} {v : Json} (h : (o.rootShape v).types ≠ []) :
    o.generate v = Code.tidy (paragraphs (o.parts (o.rootShape v).types)) := by
  rw [generate, code, definitions_eq, if_neg (by simpa using h)]

/-- A line of a definition that ends in no blank is a line of the code. -/
theorem mem_lines_generate {o : LanguageOptions} {v : Json} {t : ObjectType}
    (ht : t ∈ (o.rootShape v).types) {l : String} (hl : l ∈ lines (o.definition t))
    (hsolid : Solid l) : l ∈ lines (o.generate v) := by
  rw [generate_eq (List.ne_nil_of_mem ht)]
  exact hsolid.mem_lines_tidy (mem_lines_paragraphs (o.definition_mem_parts ht) hl)

/-- The types whose definitions are in the code for a document. -/
def emitted (o : LanguageOptions) (v : Json) : List ObjectType :=
  (o.rootShape v).types.filter fun t => o.definition t ≠ ""

theorem emitted_eq (o : LanguageOptions) (v : Json) : o.emitted v = (o.rootShape v).types := by
  rw [emitted, List.filter_eq_self]
  intro t _
  simpa using (o.visible_definition t).ne_empty

end LanguageOptions

end TypeSketch
