-- Keys in Kotlin: an annotation on a line before the parameter tells a key that
-- is not the parameter's name. Each library has its own annotation.
import TypeSketch.Proofs.Key.Reader
import TypeSketch.Proofs.Shape.Expression
import TypeSketch.Target.Kotlin

namespace TypeSketch.Kotlin

open Text Naming Key

/-! ## Members -/

theorem spelled_typeOf {s : Shape} (h : s.NamedByWord) : Shape.Spelled ['<', '>'] (typeOf s) := by
  apply Shape.spelled_wrapped (fun _ _ => rfl) (fun _ _ => rfl) _ _ _ h
  · intro k
    cases k <;> decide
  · decide
  · decide

theorem oneLine_defaultValue (s : Shape) : OneLine (defaultValue s) := by
  have hall : defaultValue s ∈ ["\"\"", "0.0", "false", "null", "emptyList()"] := by
    match s with
    | .scalar k => cases k <;> decide
    | .array .. => simp [defaultValue]
    | .object .. => simp [defaultValue]
  revert hall
  generalize defaultValue s = v
  revert v
  decide

/-! ## Lines -/

/-- What the annotation with a key begins with, if the library has one. -/
def Serialization.mark? : Serialization → Option String
  | none => .none
  | kotlinx => some "    @SerialName("
  | gson => some "    @SerializedName("
  | moshi => some "    @Json(name = "
  | jackson => some "    @JsonProperty("

theorem annotation_eq {lib : Serialization} {mark : String} (h : lib.mark? = some mark)
    (key : String) :
    (lib.rename? (quote key)).toList.map ("    " ++ ·) = [mark ++ quote key ++ ")"] := by
  cases lib <;> cases h <;> simp [Serialization.rename?, ← String.append_assoc]

/-- The name in the line of a parameter. -/
def memberAt? (s : List Char) : Option String := (after? "    val " s).map firstWord

/-- A line that begins like the line of a parameter. -/
theorem markedLine_line {lib : Serialization} {mark : String} (h : lib.mark? = some mark)
    {name r : String} (hname : IsWord name) :
    markedLine mark memberAt? ("    val " ++ (name ++ (": " ++ r))) = .member ⟨name, none⟩ := by
  apply markedLine_member
  · rw [String.toList_append]
    cases lib <;> cases h <;> exact literalAfter?_append_ne (by decide) (by decide) _
  · have hcolon : (": " ++ r).toList = ':' :: ' ' :: r.toList := by simp
    rw [String.toList_append, memberAt?, after?_append, Option.map_some, String.toList_append,
      hcolon, firstWord_append hname (by decide)]

/-- What follows the name in the line of a parameter. -/
def Member.rest (m : Member) : String :=
  m.type ++ match m.value with
    | some v => " = " ++ v
    | none => ""

theorem line_eq (m : Member) : m.line = "    val " ++ (m.name ++ (": " ++ m.rest)) := by
  have hline : m.line = "    val " ++ m.name ++ ": " ++ m.rest := by
    rw [Member.rest, ← String.append_assoc]
    rfl
  rw [hline]
  simp only [String.append_assoc]

theorem annotations_eq (o : Options) {mark : String} (h : o.serialization.mark? = some mark)
    (f : Field) : (member o f).annotations =
      if fieldName .camel f.1 = f.1 then [] else [mark ++ quote f.1 ++ ")"] := by
  have hrename : (member o f).rename =
      if fieldName .camel f.1 = f.1 then none else o.serialization.rename? (quote f.1) := by
    simp only [member, fieldName]
    rfl
  rw [Member.annotations, hrename, ← annotation_eq h]
  split
  · rfl
  · rfl

theorem tells_member (o : Options) {mark : String} (h : o.serialization.mark? = some mark)
    (f : Field) (ending : String) :
    Tells (markedLine mark memberAt?) ((member o f).annotations ++ [(member o f).line ++ ending])
      [Told.of (fieldName .camel f.1) f.1] := by
  have hname : (member o f).name = fieldName .camel f.1 := rfl
  rw [annotations_eq o h, line_eq, hname, ← List.nil_append [_ ++ ending]]
  apply tells_of
  · intro hsame
    rw [if_pos hsame]
  · intro hrenamed
    rw [if_neg hrenamed]
    exact ⟨_, rfl, markedLine_mark f.1 ")"⟩
  · simp
  · simp only [String.append_assoc]
    exact markedLine_line h (isWord_fieldName .camel f.1)

theorem oneLine_rest (o : Options) {f : Field} (hf : f.2.NamedByWord) :
    OneLine (member o f).rest := by
  have htype : OneLine (typeOf f.2) := (spelled_typeOf hf).oneLine (by decide)
  have hvalue := oneLine_defaultValue f.2
  simp only [Member.rest, member]
  split <;> split <;> simp_all +decide

theorem oneLine_mark {lib : Serialization} {mark : String} (h : lib.mark? = some mark) :
    OneLine mark := by
  cases lib <;> cases h <;> decide

theorem oneLine_lines (o : Options) {mark : String} (h : o.serialization.mark? = some mark)
    {f : Field} (hf : f.2.NamedByWord) {ending : String} (hending : OneLine ending) :
    ∀ l ∈ (member o f).annotations ++ [(member o f).line ++ ending], OneLine l := by
  have hname : OneLine (member o f).name := (isWord_fieldName .camel f.1).oneLine
  intro l hl
  rw [annotations_eq o h, line_eq] at hl
  rcases List.mem_append.mp hl with hl | hl
  · split at hl
    · cases hl
    · rw [List.mem_singleton.mp hl]
      simp +decide [oneLine_mark h, oneLine_quote]
  · rw [List.mem_singleton.mp hl]
    simp +decide [hname, oneLine_rest o hf, hending]

/-! ## Definitions -/

/-- The lines of parameters have a comma behind each but the last. -/
theorem sequenced_parameterLines : Sequenced parameterLines
    (fun m => m.annotations ++ [m.line ++ ""]) (fun m => m.annotations ++ [m.line ++ ","]) where
  nil := rfl
  one m := by simp [parameterLines]
  more m m' r := by simp [parameterLines]

/-- The lines before the parameters of a class. -/
def opening (o : Options) (name : String) : List String :=
  (if o.serialization = .kotlinx then ["@Serializable"] else []) ++
    [(if o.useDataClass then "data class " else "class ") ++ name ++ "("]

/-- The reader of Kotlin definitions, for marks that begin with a given text. -/
def reader (o : Options) (mark : String) : Reader :=
  .ofLines (fieldName .camel) (opening o) (fun _ => false) (markedLine mark memberAt?)

theorem identifier_reader (o : Options) (mark : String) :
    (reader o mark).identifier = fieldName .camel := by
  simp only [reader, Reader.ofLines]

theorem opens_opening (o : Options) (name : String) : Opens (opening o name) := by
  rw [opening]
  split
  · simp [Opens]
  · split
    · simp [Opens]
    · simp [Opens]

/-- With the annotations of a library a definition tells every key. -/
theorem read_definition (o : Options) {mark : String} (h : o.serialization.mark? = some mark)
    (t : ObjectType) (ht : ∀ f ∈ t.fields, f.2.NamedByWord) :
    (reader o mark).read t.name (trimBreaks (unlines (definition o t))) =
      t.fields.map fun f => Told.of (fieldName .camel f.1) f.1 := by
  have hlines := sequenced_parameterLines.map (member o)
  have hdefinition : definition o t =
      opening o t.name ++ (parameterLines (t.fields.map (member o)) ++ [")"]) := by
    simp [definition, layout, opening]
  rw [hdefinition]
  apply Reader.read_ofLines (opens_opening o t.name) (closes_concat (by decide) (by decide) _)
  · exact hlines.tells (fun f _ => tells_member o h f "") fun f _ => tells_member o h f ","
  · exact hlines.forall_mem (fun f hf => oneLine_lines o h (ht f hf) (by decide)) fun f hf =>
      oneLine_lines o h (ht f hf) (by decide)
  · exact fun l _ => rfl
  · cases hlib : o.serialization <;> rw [hlib] at h <;> cases h <;> decide

end TypeSketch.Kotlin
