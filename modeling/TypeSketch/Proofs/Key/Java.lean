-- Keys in Java: an annotation on a line before the member tells a key that is
-- not the member's name. In every style a member is declared on one line, its
-- name the last word of it; a class with accessors ends its fields with an empty
-- line.
import TypeSketch.Proofs.Key.Reader
import TypeSketch.Proofs.Shape.Expression
import TypeSketch.Target.Java

namespace TypeSketch.Java

open Text Naming Key

/-! ## Members -/

theorem spelled_boxed {type : String} (h : Shape.Spelled ['<', '>'] type) :
    Shape.Spelled ['<', '>'] (boxed type) := by
  rw [boxed]
  cases hbox : boxes.lookup type with
  | none => exact h
  | some box =>
    have hboxes : ∀ b ∈ boxes, Shape.Spelled ['<', '>'] b.2 := by decide
    obtain ⟨before, behind, hl, _⟩ := List.lookup_eq_some_iff.mp hbox
    exact hboxes (type, box) (by rw [hl]; simp)

theorem spelled_typeOf {s : Shape} (h : s.NamedByWord) : Shape.Spelled ['<', '>'] (typeOf s) := by
  apply Shape.spelled_typeOf _ _ _ h
  · intro k
    rw [typeOf]
    cases k <;> decide
  · intro n e he
    exact (Shape.Spelled.append (by decide) (spelled_boxed he)).append (by decide)
  · intro n fs hn
    exact Shape.spelled_word hn

theorem spelled_type (o : Options) {f : Field} (hf : f.2.NamedByWord) :
    Shape.Spelled ['<', '>'] (member o f).type := by
  simp only [member]
  split
  · exact (Shape.Spelled.append (by decide) (spelled_boxed (spelled_typeOf hf))).append (by decide)
  · exact spelled_typeOf hf

/-! ## Lines -/

/-- The annotation with a key up to its literal, if the library has one. -/
def Serialization.mark? : Serialization → Option String
  | none => .none
  | jackson => some "@JsonProperty("
  | gson => some "@SerializedName("
  | moshi => some "@Json(name = "

theorem rename_eq {lib : Serialization} {mark : String} (h : lib.mark? = some mark)
    (key : String) : lib.rename? (quote key) = some (mark ++ quote key ++ ")") := by
  cases lib <;> cases h <;> rfl

/-- The name in the line of a member, which does not begin like an annotation. -/
def memberAt? (s : List Char) : Option String :=
  (after? "    " s).bind fun r => if r.head? = some '@' then none else some (lastWord r)

/-- A line of a definition, for annotations that begin with a given text. -/
def javaLine (mark : String) : String → Line := markedLine ("    " ++ mark) memberAt?

/-- The declaration of a member between two words. -/
def Member.declaration (m : Member) (before behind : String) : String :=
  "    " ++ before ++ m.type ++ " " ++ m.name ++ behind

theorem javaLine_declaration (o : Options) {mark : String} (hmark : mark.toList.head? = some '@')
    {f : Field} (hf : f.2.NamedByWord) {before behind : String} (hbefore : '@' ∉ before.toList)
    (hbehind : ∀ c ∈ behind.toList, isWordChar c = false) :
    javaLine mark ((member o f).declaration before behind) =
      .member ⟨fieldName .camel f.1, none⟩ := by
  have hname : (member o f).name = fieldName .camel f.1 := rfl
  have htype : '@' ∉ (member o f).type.toList := (spelled_type o hf).not_mem (by decide) (by decide)
  have hline : ((member o f).declaration before behind).toList = "    ".toList ++
      (before.toList ++ (member o f).type.toList ++
        ' ' :: ((fieldName .camel f.1).toList ++ behind.toList)) := by
    simp [Member.declaration, hname]
  have hhead : (before.toList ++ (member o f).type.toList ++
      ' ' :: ((fieldName .camel f.1).toList ++ behind.toList)).head? ≠ some '@' :=
    head?_append_ne (by simp [hbefore, htype]) (by decide) _
  apply markedLine_member
  · rw [literalAfter?, hline, after?_append_append, after?_eq_none hmark hhead, Option.bind_none]
  · rw [hline, memberAt?, after?_append, Option.bind_some, if_neg hhead,
      lastWord_append (isWord_fieldName .camel f.1) (by decide) _ hbehind]

/-- A member has one of two annotations that restrict its values, or none. -/
theorem validation_cases (o : Options) (f : Field) :
    ∀ text ∈ (member o f).validation.toList, text = "@NotBlank" ∨ text = "@NotNull" := by
  have hall : ∀ s : Shape, ∀ text ∈ (validation? s).toList,
      text = "@NotBlank" ∨ text = "@NotNull" := by
    intro s
    match s with
    | .scalar k => cases k <;> simp [validation?]
    | .array .. => simp [validation?]
    | .object .. => simp [validation?]
  simp only [member]
  split
  · exact hall f.2
  · simp

theorem rename_of (o : Options) {mark : String} (h : o.serialization.mark? = some mark)
    (f : Field) : (member o f).rename =
      if fieldName .camel f.1 = f.1 then none else some (mark ++ quote f.1 ++ ")") := by
  rw [← rename_eq h]
  simp only [member, fieldName]
  rfl

/-- The lines of a member: its annotations, and its declaration between two words. -/
def Member.block (m : Member) (before behind : String) : List String :=
  m.annotations ++ [m.declaration before behind]

theorem tells_block (o : Options) {mark : String} (h : o.serialization.mark? = some mark)
    {f : Field} (hf : f.2.NamedByWord) {before behind : String} (hbefore : '@' ∉ before.toList)
    (hbehind : ∀ c ∈ behind.toList, isWordChar c = false) :
    Tells (javaLine mark) ((member o f).block before behind)
      [Told.of (fieldName .camel f.1) f.1] := by
  have hmark : mark.toList.head? = some '@' := by
    cases hlib : o.serialization <;> rw [hlib] at h <;> cases h <;> decide
  rw [Member.block, Member.annotations, List.map_append, List.append_assoc, rename_of o h]
  apply tells_of
  · intro hsame
    rw [if_pos hsame]
    rfl
  · intro hrenamed
    rw [if_neg hrenamed]
    refine ⟨_, rfl, ?_⟩
    simp only [← String.append_assoc]
    exact markedLine_mark f.1 ")"
  · intro l hl
    obtain ⟨text, htext, rfl⟩ := List.mem_map.mp hl
    cases hlib : o.serialization <;> rw [hlib] at h <;> cases h <;>
      rcases validation_cases o f text htext with rfl | rfl <;> decide
  · exact javaLine_declaration o hmark hf hbefore hbehind

/-- Every line of a member is a line, and none is empty. -/
theorem oneLine_block (o : Options) {mark : String} (h : o.serialization.mark? = some mark)
    {f : Field} (hf : f.2.NamedByWord) {before behind : String} (hbefore : OneLine before)
    (hbehind : OneLine behind) :
    ∀ l ∈ (member o f).block before behind, OneLine l ∧ (l == "") = false := by
  have hmark : OneLine mark := by
    cases hlib : o.serialization <;> rw [hlib] at h <;> cases h <;> decide
  have hname : OneLine (member o f).name := (isWord_fieldName .camel f.1).oneLine
  have htype : OneLine (member o f).type := (spelled_type o hf).oneLine (by decide)
  have hindent (s : String) : ("    " ++ s == "") = false := by
    rw [beq_eq_false_iff_ne]
    intro heq
    simpa using congrArg String.toList heq
  intro l hl
  rw [Member.block, Member.annotations, List.mem_append] at hl
  rcases hl with hl | hl
  · obtain ⟨text, htext, rfl⟩ := List.mem_map.mp hl
    refine ⟨oneLine_append.mpr ⟨by decide, ?_⟩, hindent text⟩
    rcases List.mem_append.mp htext with htext | htext
    · rw [rename_of o h] at htext
      split at htext
      · cases htext
      · rw [List.mem_singleton.mp htext]
        simp +decide [hmark, oneLine_quote]
    · rcases validation_cases o f text htext with rfl | rfl <;> decide
  · rw [List.mem_singleton.mp hl, Member.declaration]
    refine ⟨by simp +decide [hbefore, hname, htype, hbehind], ?_⟩
    simp only [String.append_assoc]
    exact hindent _

/-! ## Definitions -/

/-- The lines before the members of a type. -/
def opening (o : Options) (name : String) : List String :=
  match o.classStyle with
  | .record => ["public record " ++ name ++ "("]
  | .pojo => ["public class " ++ name ++ " \x7b"]
  | .lombok =>
    ["@Data"] ++ (if o.generateBuilder then ["@Builder"] else []) ++
      ["@NoArgsConstructor", "@AllArgsConstructor", "public class " ++ name ++ " \x7b"]
  | .immutables => ["@Value.Immutable", "public interface " ++ name ++ " \x7b"]

/-- Whether a line ends the members. -/
def ends (o : Options) (l : String) : Bool := o.classStyle == .pojo && l == ""

/-- The reader of Java definitions, for annotations that begin with a given text. -/
def reader (o : Options) (mark : String) : Reader :=
  .ofLines (fieldName .camel) (opening o) (ends o) (javaLine mark)

theorem identifier_reader (o : Options) (mark : String) :
    (reader o mark).identifier = fieldName .camel := by
  simp only [reader, Reader.ofLines]

theorem opens_opening (o : Options) (name : String) : Opens (opening o name) := by
  rw [opening]
  split <;> simp [Opens]

/-- Members in any order of lines: each has its block, with an empty line behind it where such a
line does not end the members. -/
theorem read_sequenced (o : Options) {mark : String} (h : o.serialization.mark? = some mark)
    (t : ObjectType) (ht : ∀ f ∈ t.fields, f.2.NamedByWord) {join : List Member → List String}
    {before behind comma : String} {gap closing : List String}
    (hdefinition : definition o t =
      opening o t.name ++ (join (t.fields.map (member o)) ++ closing))
    (hjoin : Sequenced join (·.block before behind) (fun m => m.block before comma ++ gap))
    (hbefore : OneLine before ∧ '@' ∉ before.toList)
    (hbehind : OneLine behind ∧ ∀ c ∈ behind.toList, isWordChar c = false)
    (hcomma : OneLine comma ∧ ∀ c ∈ comma.toList, isWordChar c = false)
    (hgap : ∀ l ∈ gap, l = "" ∧ o.classStyle ≠ .pojo) (hcloses : Closes closing)
    (hclosing : collect (javaLine mark) none ((closing.flatMap lines).takeWhile (!ends o ·)) = []) :
    (reader o mark).read t.name (trimBreaks (unlines (definition o t))) =
      t.fields.map fun f => Told.of (fieldName .camel f.1) f.1 := by
  have hblank : javaLine mark "" = .other := by
    cases hlib : o.serialization <;> rw [hlib] at h <;> cases h <;> decide
  have hlines := hjoin.map (member o)
  have hblock {behind : String} (hbehind : OneLine behind) {f : Field} (hf : f ∈ t.fields) :
      ∀ l ∈ (member o f).block before behind, OneLine l ∧ ends o l = false := by
    intro l hl
    obtain ⟨hline, hne⟩ := oneLine_block o h (ht f hf) hbefore.1 hbehind l hl
    exact ⟨hline, by rw [ends, hne, Bool.and_false]⟩
  have hall : ∀ l ∈ join (t.fields.map (member o)), OneLine l ∧ ends o l = false := by
    refine hlines.forall_mem (fun f hf => hblock hbehind.1 hf) fun f hf l hl => ?_
    rcases List.mem_append.mp hl with hl | hl
    · exact hblock hcomma.1 hf l hl
    · obtain ⟨rfl, hstyle⟩ := hgap l hl
      exact ⟨by decide, by simp [ends, hstyle]⟩
  rw [hdefinition]
  apply Reader.read_ofLines (opens_opening o t.name) (hcloses.append _)
  · refine hlines.tells (fun f hf => tells_block o h (ht f hf) hbefore.2 hbehind.2) fun f hf => ?_
    exact (tells_block o h (ht f hf) hbefore.2 hcomma.2).append
      (tells_others fun l hl => (hgap l hl).1 ▸ hblank)
  · exact fun l hl => (hall l hl).1
  · exact fun l hl => (hall l hl).2
  · exact hclosing

theorem sequenced_record : Sequenced
    (fun ms : List Member =>
      commaEnded (ms.map fun m => (m.annotations, "    " ++ m.type ++ " " ++ m.name)))
    (fun m => m.block "" "") (fun m => m.block "" "," ++ []) where
  nil := rfl
  one m := by simp [commaEnded, Member.block, Member.declaration]
  more m m' r := by simp [commaEnded, Member.block, Member.declaration]

theorem fieldLines_eq (m : Member) : m.fieldLines = m.block "private " ";" := rfl

theorem sequenced_fields : Sequenced (fun ms : List Member => ms.flatMap Member.fieldLines)
    (fun m => m.block "private " ";") (fun m => m.block "private " ";" ++ []) where
  nil := rfl
  one m := by simp [fieldLines_eq]
  more m m' r := by simp [fieldLines_eq]

theorem sequenced_spacedOut {before behind : String} {ls : Member → List String}
    (h : ∀ m, ls m = m.block before behind) :
    Sequenced (fun ms : List Member => spacedOut (ms.map ls)) (fun m => m.block before behind)
      (fun m => m.block before behind ++ [""]) := by
  have hls : ls = fun m => m.block before behind := funext h
  rw [hls]
  exact sequenced_intercalate _ ""

/-- A closing line that is not empty tells nothing. -/
theorem collect_last (o : Options) {mark : String} (h : o.serialization.mark? = some mark)
    {l : String} (hl : l ∈ [") \x7b\x7d", "\x7d"]) :
    collect (javaLine mark) none (([l].flatMap lines).takeWhile (!ends o ·)) = [] := by
  have hall : ∀ l ∈ [") \x7b\x7d", "\x7d"], OneLine l ∧ (l == "") = false ∧
      javaLine mark l = .other := by
    cases hlib : o.serialization <;> rw [hlib] at h <;> cases h <;> decide
  obtain ⟨hline, hne, hother⟩ := hall l hl
  have hends : ends o l = false := by rw [ends, hne, Bool.and_false]
  rw [flatMap_lines (by simpa using hline), List.takeWhile_cons_of_pos (by simp [hends]),
    List.takeWhile_nil, collect, hother]
  rfl

/-- What follows the fields of a class with accessors begins with an empty line, if it is not
the end alone. -/
theorem accessors_cases (o : Options) (name : String) (ms : List Member) :
    let closing := ms.flatMap Member.accessorLines ++
      ((if o.generateEquals then equalsLines name ms else []) ++ ["\x7d"])
    closing = ["\x7d"] ∨ ∃ r, closing = "" :: r := by
  cases ms with
  | nil =>
    cases o.generateEquals
    · exact .inl rfl
    · exact .inr ⟨_, rfl⟩
  | cons m ms => exact .inr ⟨_, rfl⟩

/-- The methods of a class with accessors tell nothing. -/
theorem collect_accessors (o : Options) (hstyle : o.classStyle = .pojo) {mark : String}
    (h : o.serialization.mark? = some mark) (name : String) (ms : List Member) :
    collect (javaLine mark) none (((ms.flatMap Member.accessorLines ++
      ((if o.generateEquals then equalsLines name ms else []) ++ ["\x7d"])).flatMap lines).takeWhile
        (!ends o ·)) = [] := by
  rcases accessors_cases o name ms with hclosing | ⟨r, hclosing⟩
  · rw [hclosing]
    exact collect_last o h (by simp)
  · rw [hclosing, List.flatMap_cons, lines_oneLine (by decide), List.singleton_append,
      List.takeWhile_cons_of_neg (by simp [ends, hstyle])]
    rfl

/-- With the annotations of a library a definition tells every key. -/
theorem read_definition (o : Options) {mark : String} (h : o.serialization.mark? = some mark)
    (t : ObjectType) (ht : ∀ f ∈ t.fields, f.2.NamedByWord) :
    (reader o mark).read t.name (trimBreaks (unlines (definition o t))) =
      t.fields.map fun f => Told.of (fieldName .camel f.1) f.1 := by
  cases hstyle : o.classStyle with
  | record =>
    have hdefinition : definition o t = opening o t.name ++ (commaEnded
        ((t.fields.map (member o)).map fun m =>
          (m.annotations, "    " ++ m.type ++ " " ++ m.name)) ++ [") \x7b\x7d"]) := by
      simp [definition, layout, recordLines, opening, hstyle]
    exact read_sequenced o h t ht hdefinition sequenced_record (by decide) (by decide) (by decide)
      (by simp) (closes_concat (by decide) (by decide) []) (collect_last o h (by simp))
  | pojo =>
    have hdefinition : definition o t = opening o t.name ++
        ((t.fields.map (member o)).flatMap Member.fieldLines ++
          ((t.fields.map (member o)).flatMap Member.accessorLines ++
            ((if o.generateEquals then equalsLines t.name (t.fields.map (member o)) else []) ++
              ["\x7d"]))) := by
      simp [definition, layout, pojoLines, opening, hstyle]
    exact read_sequenced o h t ht hdefinition sequenced_fields (by decide) (by decide) (by decide)
      (by simp) ((closes_concat (by decide) (by decide) _).append _)
      (collect_accessors o hstyle h t.name _)
  | lombok =>
    have hdefinition : definition o t = opening o t.name ++
        (spacedOut ((t.fields.map (member o)).map Member.fieldLines) ++ ["\x7d"]) := by
      simp [definition, layout, lombokLines, opening, hstyle]
    exact read_sequenced o h t ht hdefinition (sequenced_spacedOut fieldLines_eq) (by decide)
      (by decide) (by decide) (by simp [hstyle]) (closes_concat (by decide) (by decide) [])
      (collect_last o h (by simp))
  | immutables =>
    have hdefinition : definition o t = opening o t.name ++
        (spacedOut ((t.fields.map (member o)).map fun m =>
          m.annotations ++ ["    " ++ m.type ++ " " ++ m.name ++ "();"]) ++ ["\x7d"]) := by
      simp [definition, layout, immutablesLines, opening, hstyle]
    have hblock (m : Member) : m.annotations ++ ["    " ++ m.type ++ " " ++ m.name ++ "();"] =
        m.block "" "();" := by
      simp [Member.block, Member.declaration]
    exact read_sequenced o h t ht hdefinition (sequenced_spacedOut hblock) (by decide)
      (by decide) (by decide) (by simp [hstyle]) (closes_concat (by decide) (by decide) [])
      (collect_last o h (by simp))

end TypeSketch.Java
