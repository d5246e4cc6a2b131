-- Keys in C#: an attribute of each library that is in use tells a key that is
-- not the property's name. In a class it stands on a line before the property,
-- in a record it stands before the parameter on the same line.
import TypeSketch.Proofs.Key.Reader
import TypeSketch.Proofs.Shape.Expression
import TypeSketch.Target.CSharp

namespace TypeSketch.CSharp

open Text Naming Key

/-! ## Members -/

theorem spelled_typeOf {s : Shape} (h : s.NamedByWord) : Shape.Spelled ['<', '>'] (typeOf s) := by
  apply Shape.spelled_wrapped (fun _ _ => rfl) (fun _ _ => rfl) _ _ _ h
  · intro k
    cases k <;> decide
  · decide
  · decide

theorem spelled_type (o : Options) {f : Field} (hf : f.2.NamedByWord) :
    Shape.Spelled ['<', '>', '?'] (member o f).type := by
  have htype : Shape.Spelled ['<', '>', '?'] (typeOf f.2) := by
    intro c hc
    exact (spelled_typeOf hf c hc).imp_right (by simp +contextual [or_imp])
  simp only [member]
  split
  · exact htype.append (by decide)
  · exact htype

/-! ## Attributes -/

/-- An attribute that holds the key of a member. -/
inductive Attribute where
  | jsonPropertyName
  | jsonProperty
  | dataMember
  deriving DecidableEq

namespace Attribute

/-- The attributes in the order in which a member has them. -/
def all : List Attribute := [jsonPropertyName, jsonProperty, dataMember]

/-- What an attribute begins with. -/
def opening : Attribute → String
  | jsonPropertyName => "JsonPropertyName("
  | jsonProperty => "JsonProperty("
  | dataMember => "DataMember(Name = "

/-- An attribute with a key. -/
def text (a : Attribute) (key : String) : String := a.opening ++ quote key ++ ")"

end Attribute

/-- Whether members for a key have an attribute. -/
def has (o : Options) (key : String) : Attribute → Bool
  | .jsonPropertyName => fieldName .pascal key != key && o.useSystemTextJson
  | .jsonProperty => fieldName .pascal key != key && o.useNewtonsoft
  | .dataMember => o.generateDataContract

/-- Whether an attribute is that of a library in use. -/
def Options.keeps (o : Options) : Attribute → Bool
  | .jsonPropertyName => o.useSystemTextJson
  | .jsonProperty => o.useNewtonsoft
  | .dataMember => false

theorem attributes_eq (o : Options) (f : Field) :
    (member o f).attributes = (Attribute.all.filter (has o f.1)).map (·.text f.1) := by
  by_cases hname : convertKey .pascal "_" "field" f.1 = f.1 <;> cases hs : o.useSystemTextJson <;>
    cases hn : o.useNewtonsoft <;> cases hd : o.generateDataContract <;>
    simp [member, fieldName, Attribute.all, has, hname, hs, hn, hd, renameAttributes,
      Attribute.text, Attribute.opening]

theorem has_eq_true {o : Options} {a : Attribute} (h : o.keeps a = true) (key : String) :
    has o key a = true ↔ fieldName .pascal key ≠ key := by
  cases a
  · simp_all [has, Options.keeps]
  · simp_all [has, Options.keeps]
  · cases h

/-! ## Lines of a class -/

/-- The name in the line of a property. -/
def propertyAt? (s : List Char) : Option String :=
  (after? "    public " s).map fun r => lastWord (r.takeWhile (· != '\x7b'))

/-- A line of a class, where `a` is the attribute that tells keys. -/
def classLine (a : Attribute) : String → Line := markedLine ("    [" ++ a.opening) propertyAt?

theorem classLine_attribute (a b : Attribute) (key : String) :
    classLine a ("    [" ++ b.text key ++ "]") = if b = a then .mark key else .other := by
  have hline : "    [" ++ b.text key ++ "]" = "    [" ++ b.opening ++ quote key ++ ")]" := by
    rw [Attribute.text]
    simp only [String.append_assoc]
    rfl
  rw [hline]
  split
  · rename_i h
    rw [classLine, h]
    exact markedLine_mark key ")]"
  · rename_i h
    apply markedLine_other
    · rw [String.append_assoc, String.toList_append]
      cases a <;> cases b <;>
        first | exact absurd rfl h | exact literalAfter?_append_ne (by decide) (by decide) _
    · have hpublic :
          after? "    public " ("    [" ++ b.opening ++ quote key ++ ")]").toList = none := by
        simp only [String.append_assoc]
        rw [String.toList_append]
        exact after?_append_ne (by decide) (by decide) _
      rw [propertyAt?, hpublic, Option.map_none]

theorem classLine_property (a : Attribute) {name type : String} (hname : IsWord name)
    (htype : '\x7b' ∉ type.toList) :
    classLine a ("    public " ++ type ++ " " ++ name ++ " \x7b get; set; \x7d") =
      .member ⟨name, none⟩ := by
  apply markedLine_member
  · simp only [String.append_assoc]
    rw [String.toList_append]
    cases a <;> exact literalAfter?_append_ne (by decide) (by decide) _
  · have hbefore : ∀ c ∈ type.toList ++ ' ' :: (name.toList ++ [' ']), (c != '\x7b') = true := by
      intro c hc
      rw [bne_iff_ne]
      rintro rfl
      simp [htype, hname.not_mem (show isWordChar '\x7b' = false by decide)] at hc
    have hline : ("    public " ++ type ++ " " ++ name ++ " \x7b get; set; \x7d").toList =
        "    public ".toList ++
          (type.toList ++ ' ' :: (name.toList ++ [' ']) ++ "\x7b get; set; \x7d".toList) := by
      simp
    have htake : (type.toList ++ ' ' :: (name.toList ++ [' ']) ++
        "\x7b get; set; \x7d".toList).takeWhile (· != '\x7b') =
          type.toList ++ ' ' :: (name.toList ++ [' ']) := by
      rw [List.takeWhile_append_of_pos hbefore]
      simp
    rw [hline, propertyAt?, after?_append, Option.map_some, htake,
      lastWord_append hname (by decide) _ (by decide)]

theorem tells_propertyLines (o : Options) {a : Attribute} (ha : o.keeps a = true) {f : Field}
    (hf : f.2.NamedByWord) :
    Tells (classLine a) (member o f).propertyLines [Told.of (fieldName .pascal f.1) f.1] := by
  rw [Member.propertyLines, attributes_eq, List.map_map]
  apply tells_block
  · intro l hl
    obtain ⟨b, _, rfl⟩ := List.mem_map.mp hl
    rw [Function.comp_apply, classLine_attribute]
    split
    · exact .inl rfl
    · exact .inr rfl
  · rw [← has_eq_true ha]
    simp only [List.map_map, List.mem_map, List.mem_filter, Function.comp_apply,
      classLine_attribute]
    constructor
    · rintro ⟨b, ⟨_, hb⟩, hline⟩
      split at hline
      · rename_i h
        exact h ▸ hb
      · cases hline
    · intro h
      exact ⟨a, ⟨by cases a <;> decide, h⟩, if_pos rfl⟩
  · exact classLine_property a (isWord_fieldName .pascal f.1)
      ((spelled_type o hf).not_mem (by decide) (by decide))

/-! ## Lines of a record -/

/-- The attributes at the front of a line, in order, with their keys, and what follows them. -/
def attributesAt : List Attribute → List Char → List (Attribute × String) × List Char
  | [], s => ([], s)
  | a :: r, s =>
    match literalAfter? ("[property: " ++ a.opening) s with
    | some (key, s') =>
      let (found, rest) := attributesAt r ((after? ")] " s').getD s')
      ((a, key) :: found, rest)
    | none => attributesAt r s

/-- A line of a record, where `a` is the attribute that tells keys. -/
def recordLine (a : Attribute) (l : String) : Line :=
  match after? "    " l.toList with
  | some s =>
    let (found, rest) := attributesAt Attribute.all s
    .member ⟨lastWord rest, found.lookup a⟩
  | none => .other

/-- The text of some attributes. -/
def attributesText (as : List Attribute) (key : String) : String :=
  String.join (as.map fun a => "[property: " ++ a.text key ++ "] ")

/-- No attribute begins like another one. -/
theorem literalAfter?_attribute {a b : Attribute} (h : a ≠ b) (key : String) (r : List Char) :
    literalAfter? ("[property: " ++ a.opening) (("[property: " ++ b.text key).toList ++ r) =
      none := by
  have hline : ("[property: " ++ b.text key).toList ++ r =
      ("[property: " ++ b.opening).toList ++ ((quote key ++ ")").toList ++ r) := by
    simp [Attribute.text]
  rw [hline]
  cases a <;> cases b <;>
    first | exact absurd rfl h | exact literalAfter?_append_ne (by decide) (by decide) _

/-- Attributes are found again before anything that is no attribute. -/
theorem attributesAt_text (p : Attribute → Bool) (key : String) {rest : List Char}
    (hrest : rest.head? ≠ some '[') {as : List Attribute} (has : as.Nodup) :
    attributesAt as ((attributesText (as.filter p) key).toList ++ rest) =
      ((as.filter p).map (·, key), rest) := by
  induction as with
  | nil => simp [attributesAt, attributesText]
  | cons a r ih =>
    obtain ⟨ha, hr⟩ := List.nodup_cons.mp has
    have htail := ih hr
    rw [attributesAt]
    by_cases hp : p a = true
    · have hline : (attributesText ((a :: r).filter p) key).toList ++ rest =
          ("[property: " ++ a.opening).toList ++ ((quote key).toList ++
            (")] ".toList ++ ((attributesText (r.filter p) key).toList ++ rest))) := by
        simp [attributesText, hp, Attribute.text]
      rw [hline, literalAfter?_append]
      simp only
      rw [after?_append, Option.getD_some, htail, List.filter_cons_of_pos hp, List.map_cons]
    · have hnone : literalAfter? ("[property: " ++ a.opening)
          ((attributesText (r.filter p) key).toList ++ rest) = none := by
        cases hkept : r.filter p with
        | nil =>
          have := after?_eq_none (p := "[property: " ++ a.opening) (c := '[') (by simp) hrest
          simp [attributesText, literalAfter?, this]
        | cons b r' =>
          have hb : b ∈ r := (List.mem_filter.mp (hkept ▸ List.mem_cons_self)).1
          have hne : a ≠ b := fun h => ha (h ▸ hb)
          rw [attributesText, List.map_cons, String.join_cons, String.append_assoc,
            String.toList_append, List.append_assoc]
          exact literalAfter?_attribute hne key _
      rw [List.filter_cons_of_neg hp, hnone]
      exact htail

theorem lookup_attributes (a : Attribute) (key : String) (as : List Attribute) :
    (as.map (·, key)).lookup a = if a ∈ as then some key else none := by
  induction as with
  | nil => rfl
  | cons b r ih =>
    rw [List.map_cons, List.lookup_cons, ih]
    by_cases h : a = b
    · simp [h]
    · have hbeq : (a == b) = false := beq_eq_false_iff_ne.mpr h
      simp [h, hbeq]

theorem mem_attributes (a : Attribute) (p : Attribute → Bool) :
    a ∈ Attribute.all.filter p ↔ p a = true := by
  rw [List.mem_filter, and_iff_right]
  cases a <;> decide

theorem recordLine_parameter (o : Options) {a : Attribute} (ha : o.keeps a = true) {f : Field}
    (hf : f.2.NamedByWord) {ending : String} (hending : ∀ c ∈ ending.toList, isWordChar c = false) :
    recordLine a ((member o f).parameter ++ ending) =
      .member (Told.of (fieldName .pascal f.1) f.1) := by
  have hline : ((member o f).parameter ++ ending).toList = "    ".toList ++
      ((attributesText (Attribute.all.filter (has o f.1)) f.1).toList ++
        ((member o f).type.toList ++
          ' ' :: ((fieldName .pascal f.1).toList ++ ending.toList))) := by
    have hname : (member o f).name = fieldName .pascal f.1 := rfl
    rw [Member.parameter, attributes_eq, List.map_map, attributesText, hname]
    simp [String.append_assoc, Function.comp_def]
  have hbracket : '[' ∉ (member o f).type.toList :=
    (spelled_type o hf).not_mem (by decide) (by decide)
  rw [recordLine, hline, after?_append]
  simp only
  rw [attributesAt_text _ _ (head?_append_ne hbracket (by decide) _) (by decide)]
  simp only
  rw [lastWord_append (isWord_fieldName .pascal f.1) (by decide) _ hending, lookup_attributes]
  have hmem : a ∈ Attribute.all.filter (has o f.1) ↔ fieldName .pascal f.1 ≠ f.1 :=
    (mem_attributes a (has o f.1)).trans (has_eq_true ha f.1)
  by_cases hname : fieldName .pascal f.1 = f.1
  · rw [if_neg (fun h => hmem.mp h hname), Told.of_same hname]
  · rw [if_pos (hmem.mpr hname), Told.of_renamed hname]

/-! ## Definitions -/

theorem oneLine_text (a : Attribute) (key : String) : OneLine (a.text key) := by
  have hopening : OneLine a.opening := by cases a <;> decide
  simp +decide [Attribute.text, hopening, oneLine_quote]

theorem oneLine_type (o : Options) {f : Field} (hf : f.2.NamedByWord) :
    OneLine (member o f).type := (spelled_type o hf).oneLine (by decide)

theorem oneLine_name (o : Options) (f : Field) : OneLine (member o f).name :=
  (isWord_fieldName .pascal f.1).oneLine

theorem oneLine_propertyLines (o : Options) {f : Field} (hf : f.2.NamedByWord) :
    ∀ l ∈ (member o f).propertyLines, OneLine l := by
  intro l hl
  rw [Member.propertyLines, attributes_eq, List.mem_append] at hl
  rcases hl with hl | hl
  · obtain ⟨text, htext, rfl⟩ := List.mem_map.mp hl
    obtain ⟨a, _, rfl⟩ := List.mem_map.mp htext
    simp +decide [oneLine_text]
  · rw [List.mem_singleton.mp hl]
    simp +decide [oneLine_type o hf, oneLine_name o f]

theorem oneLine_parameter (o : Options) {f : Field} (hf : f.2.NamedByWord) :
    OneLine (member o f).parameter := by
  have hattributes : OneLine (attributesText (Attribute.all.filter (has o f.1)) f.1) := by
    unfold OneLine
    rw [attributesText, String.toList_join, List.mem_flatMap]
    rintro ⟨text, htext, hm⟩
    obtain ⟨a, _, rfl⟩ := List.mem_map.mp htext
    have : OneLine ("[property: " ++ a.text f.1 ++ "] ") := by simp +decide [oneLine_text]
    exact this hm
  rw [Member.parameter, attributes_eq, List.map_map]
  have hall : OneLine (String.join ((Attribute.all.filter (has o f.1)).map
      ((fun a => "[property: " ++ a ++ "] ") ∘ (·.text f.1)))) := hattributes
  simp +decide [hall, oneLine_type o hf, oneLine_name o f]

/-- The parameters of a record have a comma behind each but the last. -/
theorem sequenced_commaSeparated :
    Sequenced commaSeparated (fun l => [l ++ ""]) (fun l => [l ++ ","]) where
  nil := rfl
  one l := by simp [commaSeparated]
  more l l' r := by simp [commaSeparated]

/-- The lines before the members of a type. -/
def opening (o : Options) (name : String) : List String :=
  contractLines o ++
    if o.useRecords then ["public record " ++ name ++ "("] else ["public class " ++ name, "\x7b"]

/-- The reader of C# definitions, for the attribute that tells keys. -/
def reader (o : Options) (a : Attribute) : Reader :=
  .ofLines (fieldName .pascal) (opening o) (fun _ => false)
    (if o.useRecords then recordLine a else classLine a)

theorem identifier_reader (o : Options) (a : Attribute) :
    (reader o a).identifier = fieldName .pascal := by
  simp only [reader, Reader.ofLines]

theorem opens_opening (o : Options) (name : String) : Opens (opening o name) := by
  rw [opening, contractLines]
  split
  · simp [Opens]
  · split
    · simp [Opens]
    · simp [Opens]

theorem read_record (o : Options) (hrecords : o.useRecords = true) {a : Attribute}
    (ha : o.keeps a = true) (t : ObjectType) (ht : ∀ f ∈ t.fields, f.2.NamedByWord) :
    (reader o a).read t.name (trimBreaks (unlines (definition o t))) =
      t.fields.map fun f => Told.of (fieldName .pascal f.1) f.1 := by
  have hlines := sequenced_commaSeparated.map fun f => (member o f).parameter
  have hdefinition : definition o t = opening o t.name ++
      (commaSeparated (t.fields.map fun f => (member o f).parameter) ++ [");"]) := by
    simp [definition, layout, opening, hrecords, Function.comp_def]
  have htells {ending : String} (h : ∀ c ∈ ending.toList, isWordChar c = false) :
      ∀ f ∈ t.fields, Tells (recordLine a) [(member o f).parameter ++ ending]
        [Told.of (fieldName .pascal f.1) f.1] :=
    fun f hf => Key.tells_member (recordLine_parameter o ha (ht f hf) h)
  have honeLine {ending : String} (h : OneLine ending) :
      ∀ f ∈ t.fields, ∀ l ∈ [(member o f).parameter ++ ending], OneLine l := by
    intro f hf l hl
    rw [List.mem_singleton.mp hl]
    exact oneLine_append.mpr ⟨oneLine_parameter o (ht f hf), h⟩
  rw [hdefinition, reader, if_pos hrecords]
  apply Reader.read_ofLines (opens_opening o t.name) (closes_concat (by decide) (by decide) _)
  · exact hlines.tells (htells (by decide)) (htells (by decide))
  · exact hlines.forall_mem (honeLine (by decide)) (honeLine (by decide))
  · exact fun l _ => rfl
  · cases a <;> decide

theorem read_class (o : Options) (hrecords : ¬ o.useRecords = true) {a : Attribute}
    (ha : o.keeps a = true) (t : ObjectType) (ht : ∀ f ∈ t.fields, f.2.NamedByWord) :
    (reader o a).read t.name (trimBreaks (unlines (definition o t))) =
      t.fields.map fun f => Told.of (fieldName .pascal f.1) f.1 := by
  have hlines := sequenced_intercalate (fun f => (member o f).propertyLines) ""
  have hdefinition : definition o t = opening o t.name ++
      ([""].intercalate (t.fields.map fun f => (member o f).propertyLines) ++ ["\x7d"]) := by
    simp [definition, layout, opening, hrecords, Function.comp_def]
  have hgap : classLine a "" = .other := by cases a <;> decide
  have htells : ∀ f ∈ t.fields, Tells (classLine a) (member o f).propertyLines
      [Told.of (fieldName .pascal f.1) f.1] := fun f hf => tells_propertyLines o ha (ht f hf)
  rw [hdefinition, reader, if_neg hrecords]
  apply Reader.read_ofLines (opens_opening o t.name) (closes_concat (by decide) (by decide) _)
  · refine hlines.tells htells fun f hf => ?_
    exact (htells f hf).append (tells_others (by simpa using hgap))
  · refine hlines.forall_mem (fun f hf => oneLine_propertyLines o (ht f hf)) fun f hf l hl => ?_
    rcases List.mem_append.mp hl with hl | hl
    · exact oneLine_propertyLines o (ht f hf) l hl
    · rw [List.mem_singleton.mp hl]
      decide
  · exact fun l _ => rfl
  · cases a <;> decide

/-- With the attribute of a library a definition tells every key. -/
theorem read_definition (o : Options) {a : Attribute} (ha : o.keeps a = true) (t : ObjectType)
    (ht : ∀ f ∈ t.fields, f.2.NamedByWord) :
    (reader o a).read t.name (trimBreaks (unlines (definition o t))) =
      t.fields.map fun f => Told.of (fieldName .pascal f.1) f.1 := by
  by_cases hrecords : o.useRecords = true
  · exact read_record o hrecords ha t ht
  · exact read_class o hrecords ha t ht

end TypeSketch.CSharp
