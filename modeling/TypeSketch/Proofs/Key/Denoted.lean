-- What the marks of keys denote. One way to write literals serves languages whose rules
-- differ: a mark holds a literal of the key by the rules of the language, unless the key
-- has a character whose escape the language does not know, or that it takes for more than
-- a character.
import TypeSketch.Code.Emit
import TypeSketch.Proofs.Key.CSharp
import TypeSketch.Proofs.Key.Kotlin
import TypeSketch.Proofs.Key.Rust
import TypeSketch.Proofs.Key.Swift
import TypeSketch.Proofs.Text.Lexicon

namespace TypeSketch

open Text Naming Key

/-! ## The rules of the languages -/

/-- The letters of a language, which are those of ASCII and may be more. -/
structure Alphabet where
  isLetter : Char → Bool
  ascii : ∀ c, c.toNat < 0x80 → isLetter c = Text.isLetter c

namespace Alphabet

/-- The letters of ASCII alone. -/
def ofAscii : Alphabet := ⟨Text.isLetter, fun _ _ => rfl⟩

/-- Whether a dollar sign before a character begins a template. -/
def opensTemplate (a : Alphabet) (c : Char) : Bool := a.isLetter c || c == '_' || c == '\x7b'

/-- No escaped character opens a template. -/
theorem opensTemplate_escaped (a : Alphabet) {c : Char} (h : isEscaped c = true) :
    a.opensTemplate c = false := by
  have hascii : c.toNat < 0x80 ∧ (Text.isLetter c || c == '_' || c == '\x7b') = false :=
    of_isEscaped (P := fun c => c.toNat < 0x80 ∧
      (Text.isLetter c || c == '_' || c == '\x7b') = false) (by decide) (by decide)
      (by decide) h
  rw [opensTemplate, a.ascii c hascii.1]
  exact hascii.2

/-- What follows in a key opens a template if and only if what follows in its literal does. -/
theorem opensTemplate_literalBody (a : Alphabet) (s behind : List Char) :
    (literalBody s ++ '"' :: behind).head?.any a.opensTemplate = s.head?.any a.opensTemplate := by
  cases s with
  | nil => exact a.opensTemplate_escaped (by decide)
  | cons c s =>
    rw [literalBody, List.flatMap_cons, literalChar_eq]
    split
    · rename_i hc
      have hback : a.opensTemplate '\\' = false := a.opensTemplate_escaped (by decide)
      simp [hback, a.opensTemplate_escaped hc]
    · rfl

end Alphabet

namespace Kotlin

def escapes : Escapes where
  short := [('t', '\t'), ('b', '\x08'), ('n', '\n'), ('r', '\r'), ('\'', '\''), ('"', '"'),
    ('\\', '\\'), ('$', '$')]
  numerals := [{ letter := 'u', braced := false, least := 4, most := 4 }]

/-- The literals of Kotlin. A dollar sign before a letter, an underscore or a brace is not part of
the text. -/
def lexicon (a : Alphabet) : Lexicon where
  toEscapes := escapes
  plain c r := c != '\n' && c != '\r' && !(c == '$' && r.head?.any a.opensTemplate)

end Kotlin

namespace Rust

def escapes : Escapes where
  short := [('n', '\n'), ('r', '\r'), ('t', '\t'), ('\\', '\\'), ('0', '\x00'), ('\'', '\''),
    ('"', '"')]
  numerals := [{ letter := 'x', braced := false, least := 2, most := 2, limit := 0x7F },
    { letter := 'u', braced := true, least := 1, most := 6 }]

/-- The literals of Rust, which may hold line breaks. -/
def lexicon : Lexicon where
  toEscapes := escapes
  plain c _ := c != '\r'

end Rust

namespace Swift

def escapes : Escapes where
  short := [('0', '\x00'), ('\\', '\\'), ('t', '\t'), ('n', '\n'), ('r', '\r'), ('"', '"'),
    ('\'', '\'')]
  numerals := [{ letter := 'u', braced := true, least := 1, most := 8 }]

/-- The literals of Swift. -/
def lexicon : Lexicon where
  toEscapes := escapes
  plain c _ := c != '\n' && c != '\r'

end Swift

namespace CSharp

def escapes : Escapes where
  short := [('\'', '\''), ('"', '"'), ('\\', '\\'), ('0', '\x00'), ('a', '\x07'), ('b', '\x08'),
    ('f', '\x0c'), ('n', '\n'), ('r', '\r'), ('t', '\t'), ('v', '\x0b')]
  numerals := [{ letter := 'x', braced := false, least := 1, most := 4 },
    { letter := 'u', braced := false, least := 4, most := 4 },
    { letter := 'U', braced := false, least := 8, most := 8 }]

/-- The characters that end a line of C#. -/
def lineEnds : List Char := ['\n', '\r', '\u0085', '\u2028', '\u2029']

/-- The literals of C#. -/
def lexicon : Lexicon where
  toEscapes := escapes
  plain c _ := decide (c ∉ lineEnds)

end CSharp

namespace Language

/-- The rules for literals in the languages whose marks are such literals. -/
def lexicon? (a : Alphabet) : Language → Option Lexicon
  | kotlin => some (Kotlin.lexicon a)
  | rust => some Rust.lexicon
  | swift => some Swift.lexicon
  | csharp => some CSharp.lexicon
  | _ => none

/-- Whether a character, before the rest of a key, spoils the literal of the key. -/
def spoils (a : Alphabet) : Language → Char → List Char → Bool
  | kotlin, c, r => c == '\x0c' || c == '$' && r.head?.any a.opensTemplate
  | rust, c, _ | swift, c, _ => decide (c.toNat < 0x20 ∧ c ∉ ['\n', '\r', '\t'])
  | csharp, c, _ => decide (c ∈ ['\u0085', '\u2028', '\u2029'])
  | _, _, _ => false

theorem agrees_lexicon {a : Alphabet} {l : Language} {lex : Lexicon} (h : l.lexicon? a = some lex) :
    lex.Agrees := by
  cases l with
  | kotlin =>
    cases h
    exact (by decide : Kotlin.escapes.Agrees)
  | rust =>
    cases h
    exact (by decide : Rust.escapes.Agrees)
  | swift =>
    cases h
    exact (by decide : Swift.escapes.Agrees)
  | csharp =>
    cases h
    exact (by decide : CSharp.escapes.Agrees)
  | _ => cases h

/-- A character is read from the literal of a key unless it spoils it. -/
theorem keeps_eq {a : Alphabet} {l : Language} {lex : Lexicon} (h : l.lexicon? a = some lex)
    (c : Char) (s behind : List Char) :
    lex.keeps c (literalBody s ++ '"' :: behind) = !l.spoils a c s := by
  rw [Lexicon.keeps]
  cases l with
  | kotlin =>
    cases h
    split
    · rename_i hc
      have hknown : Kotlin.escapes.knows c = (c != '\x0c') ∧ c ≠ '$' :=
        of_isEscaped (P := fun c => Kotlin.escapes.knows c = (c != '\x0c') ∧ c ≠ '$')
          (by decide) (by decide) (by decide) hc
      simp [Kotlin.lexicon, hknown.1, spoils, hknown.2, bne]
    · rename_i hc
      have hbeq {d : Char} (hd : isEscaped d = true) : (c == d) = false :=
        beq_eq_false_iff_ne.mpr (ne_of_not_isEscaped hc hd)
      simp only [Kotlin.lexicon, spoils, a.opensTemplate_literalBody, bne,
        hbeq (d := '\n') (by decide), hbeq (d := '\r') (by decide),
        hbeq (d := '\x0c') (by decide), Bool.not_false, Bool.true_and, Bool.false_or]
  | rust =>
    cases h
    split
    · rename_i hc
      exact of_isEscaped
        (P := fun c => Rust.escapes.knows c = !decide (c.toNat < 0x20 ∧ c ∉ ['\n', '\r', '\t']))
        (by decide) (by decide) (by decide) hc
    · rename_i hc
      have hreturn : c ≠ '\r' := ne_of_not_isEscaped hc (by decide)
      simp [Rust.lexicon, spoils, not_control_of_not_isEscaped hc, hreturn]
  | swift =>
    cases h
    split
    · rename_i hc
      exact of_isEscaped
        (P := fun c => Swift.escapes.knows c = !decide (c.toNat < 0x20 ∧ c ∉ ['\n', '\r', '\t']))
        (by decide) (by decide) (by decide) hc
    · rename_i hc
      have hfeed : c ≠ '\n' := ne_of_not_isEscaped hc (by decide)
      have hreturn : c ≠ '\r' := ne_of_not_isEscaped hc (by decide)
      simp [Swift.lexicon, spoils, not_control_of_not_isEscaped hc, hfeed, hreturn]
  | csharp =>
    cases h
    split
    · rename_i hc
      exact of_isEscaped
        (P := fun c => CSharp.escapes.knows c = !decide (c ∈ ['\u0085', '\u2028', '\u2029']))
        (by decide) (by decide) (by decide) hc
    · rename_i hc
      have hfeed : c ≠ '\n' := ne_of_not_isEscaped hc (by decide)
      have hreturn : c ≠ '\r' := ne_of_not_isEscaped hc (by decide)
      simp [CSharp.lexicon, CSharp.lineEnds, spoils, hfeed, hreturn]
  | _ => cases h

end Language

/-! ## Marks -/

/-- A text stands in a line. -/
def StandsIn (s l : String) : Prop := ∃ before behind, l = before ++ s ++ behind

theorem standsIn_self (s : String) : StandsIn s s := ⟨"", "", by simp⟩

/-- A mark holds the literal of a key, and no literal before it. -/
def Marks (mark key : String) : Prop :=
  ∃ before behind, '"' ∉ before.toList ∧ mark = before ++ quote key ++ behind

namespace Kotlin

theorem marks_of_mem_annotations {o : Options} {f : Field} {mark : String}
    (h : mark ∈ (member o f).annotations) : Marks mark f.1 := by
  obtain ⟨rename, hrename, rfl⟩ := List.mem_map.mp h
  rw [Option.mem_toList] at hrename
  simp only [member] at hrename
  split at hrename
  · cases hrename
  · have hmark (start : String) (hstart : '"' ∉ start.toList) :
        Marks ("    " ++ (start ++ quote f.1 ++ ")")) f.1 := by
      refine ⟨"    " ++ start, ")", ?_, by simp only [String.append_assoc]⟩
      rw [String.toList_append, List.mem_append]
      exact fun h => h.elim (by decide) hstart
    cases hlib : o.serialization <;> rw [hlib] at hrename <;> cases hrename <;>
      exact hmark _ (by decide)

theorem annotation_mem {o : Options} {t : ObjectType} {f : Field} (hf : f ∈ t.fields)
    {mark : String} (h : mark ∈ (member o f).annotations) : mark ∈ definition o t := by
  obtain ⟨l, hl, rfl⟩ := (sequenced_parameterLines.map (member o)).exists_mem
    (P := (· = mark)) hf ⟨_, List.mem_append_left _ h, rfl⟩ ⟨_, List.mem_append_left _ h, rfl⟩
  exact List.mem_append_left _ (List.mem_append_right _ (List.mem_cons_of_mem _ hl))

end Kotlin

namespace Rust

theorem marks_of_renamed {o : Options} {f : Field} {literal : String}
    (h : (member o f).renamed = some literal) : Marks (mark ++ literal ++ ")]") f.1 := by
  simp only [member] at h
  split at h
  · cases h
    exact ⟨mark, ")]", by decide, rfl⟩
  · cases h

theorem mark_mem {o : Options} {t : ObjectType} {f : Field} (hf : f ∈ t.fields)
    {literal : String} (h : (member o f).renamed = some literal) :
    mark ++ literal ++ ")]" ∈ definition o t := by
  have hline : mark ++ literal ++ ")]" ∈ (member o f).lines := by
    rw [Member.lines, h]
    exact List.mem_append_left _ (List.mem_append_left _ (List.mem_singleton_self _))
  have hmem := List.mem_flatMap.mpr ⟨member o f, List.mem_map_of_mem hf, hline⟩
  exact List.mem_append_left _ (List.mem_append_right _ (List.mem_cons_of_mem _ hmem))

end Rust

namespace Swift

theorem marks_keyLine {o : Options} {f : Field} (h : fieldName .camel f.1 ≠ f.1) :
    Marks (member o f).keyLine f.1 := by
  refine ⟨"        case " ++ fieldName .camel f.1 ++ " = ", "", ?_, ?_⟩
  · have hname := (isWord_fieldName .camel f.1).not_mem (c := '"') (by decide)
    simp [hname]
  · rw [Member.keyLine, renamed_of, if_neg h]
    simp only [String.append_assoc, String.append_empty]
    rfl

theorem keyLine_mem {o : Options} (hkeys : o.useCodingKeys = true) {t : ObjectType} {f : Field}
    (hf : f ∈ t.fields) (h : fieldName .camel f.1 ≠ f.1) :
    (member o f).keyLine ∈ definition o t := by
  have hmem : (member o f).keyLine ∈ enumeration o t.fields :=
    List.mem_append_right _ (List.mem_append_left _ (List.mem_map_of_mem hf))
  rw [definition_eq, codingKeys_renames o hkeys ⟨f, hf, h⟩]
  exact List.mem_append_right _ (List.mem_append_right _ (List.mem_append_left _ hmem))

end Swift

namespace CSharp

theorem marks_of_mem_attributes {o : Options} {f : Field} {mark : String}
    (h : mark ∈ (member o f).attributes) : Marks mark f.1 := by
  rw [attributes_eq] at h
  obtain ⟨a, _, rfl⟩ := List.mem_map.mp h
  exact ⟨a.opening, ")", by cases a <;> decide, rfl⟩

/-- An attribute stands on a line of its own, or with the others before a parameter. -/
theorem attribute_standsIn {o : Options} {t : ObjectType} {f : Field} (hf : f ∈ t.fields)
    {mark : String} (h : mark ∈ (member o f).attributes) :
    ∃ l ∈ definition o t, StandsIn mark l := by
  by_cases hrecords : o.useRecords = true
  · have hended (ending : String) : StandsIn mark ((member o f).parameter ++ ending) := by
      obtain ⟨as, bs, hsplit⟩ := List.append_of_mem h
      refine ⟨"    " ++ String.join (as.map fun a => "[property: " ++ a ++ "] ") ++ "[property: ",
        "] " ++ String.join (bs.map fun a => "[property: " ++ a ++ "] ") ++ (member o f).type ++
          " " ++ (member o f).name ++ ending, ?_⟩
      rw [Member.parameter, hsplit]
      simp [String.append_assoc]
    obtain ⟨l, hl, hmark⟩ := (sequenced_commaSeparated.map
        fun f : Field => (member o f).parameter).exists_mem hf
      ⟨_, List.mem_singleton_self _, hended ""⟩ ⟨_, List.mem_singleton_self _, hended ","⟩
    refine ⟨l, ?_, hmark⟩
    rw [definition, layout, if_pos hrecords, List.map_map]
    exact List.mem_append_right _ (List.mem_append_left _ (List.mem_cons_of_mem _ hl))
  · have hline : "    [" ++ mark ++ "]" ∈ (member o f).propertyLines :=
      List.mem_append_left _ (List.mem_map_of_mem h)
    have hstands : StandsIn mark ("    [" ++ mark ++ "]") := ⟨_, _, rfl⟩
    obtain ⟨l, hl, hmark⟩ := ((sequenced_intercalate Member.propertyLines "").map
        (member o)).exists_mem hf
      ⟨_, hline, hstands⟩ ⟨_, List.mem_append_left _ hline, hstands⟩
    refine ⟨l, ?_, hmark⟩
    rw [definition, layout, if_neg hrecords]
    exact List.mem_append_right _ (List.mem_append_left _ (List.mem_append_right _ hl))

end CSharp

namespace LanguageOptions

/-- The marks with literals that a member has for its key: the lines that hold one, and in C# the
attributes. -/
def marks : LanguageOptions → Field → List String
  | kotlin o, f => (Kotlin.member o f).annotations
  | rust o, f => (Rust.member o f).renamed.toList.map (Rust.mark ++ · ++ ")]")
  | swift o, f =>
    if o.useCodingKeys = true ∧ fieldName .camel f.1 ≠ f.1 then [(Swift.member o f).keyLine] else []
  | csharp o, f => (CSharp.member o f).attributes
  | _, _ => []

theorem marks_of_mem {o : LanguageOptions} {f : Field} {mark : String} (h : mark ∈ o.marks f) :
    Marks mark f.1 := by
  cases o with
  | kotlin o => exact Kotlin.marks_of_mem_annotations h
  | rust o =>
    obtain ⟨literal, hliteral, rfl⟩ := List.mem_map.mp h
    exact Rust.marks_of_renamed (Option.mem_toList.mp hliteral)
  | swift o =>
    rw [marks] at h
    split at h
    · rename_i hkeys
      rw [List.mem_singleton.mp h]
      exact Swift.marks_keyLine hkeys.2
    · cases h
  | csharp o => exact CSharp.marks_of_mem_attributes h
  | _ => cases h

/-- The marks of an object's fields stand in its definition. -/
theorem standsIn_definition {o : LanguageOptions} {t : ObjectType} {f : Field} (hf : f ∈ t.fields)
    {mark : String} (h : mark ∈ o.marks f) : ∃ l ∈ o.definitionLines t, StandsIn mark l := by
  cases o with
  | kotlin o => exact ⟨mark, Kotlin.annotation_mem hf h, standsIn_self mark⟩
  | rust o =>
    obtain ⟨literal, hliteral, rfl⟩ := List.mem_map.mp h
    exact ⟨_, Rust.mark_mem hf (Option.mem_toList.mp hliteral), standsIn_self _⟩
  | swift o =>
    rw [marks] at h
    split at h
    · rename_i hkeys
      rw [List.mem_singleton.mp h]
      exact ⟨_, Swift.keyLine_mem hkeys.1 hf hkeys.2, standsIn_self _⟩
    · cases h
  | csharp o => exact CSharp.attribute_standsIn hf h
  | _ => cases h

end LanguageOptions

/-! ## The law -/

/-- For every key of an object and all options of Kotlin, Rust, Swift and C#: a mark of the key
stands in the definition, and by the rules of the language its literal denotes the key if and only
if no character spoils it. A literal that a character spoils denotes nothing. -/
theorem a_mark_denotes_its_key_unless_a_character_spoils_it (a : Alphabet) (o : LanguageOptions)
    (lex : Lexicon) (hlex : o.language.lexicon? a = some lex) (t : ObjectType) (f : Field)
    (hf : f ∈ t.fields) (mark : String) (hmark : mark ∈ o.marks f) :
    (∃ l ∈ o.definitionLines t, StandsIn mark l) ∧
      (lex.denoted? mark = some f.1 ↔
        ∀ c r, c :: r <:+ f.1.toList → o.language.spoils a c r = false) ∧
      (lex.denoted? mark = some f.1 ∨ lex.denoted? mark = none) := by
  refine ⟨LanguageOptions.standsIn_definition hf hmark, ?_⟩
  obtain ⟨before, behind, hbefore, rfl⟩ := LanguageOptions.marks_of_mem hmark
  have hkept : ∀ c s, lex.keeps c (literalBody s ++ '"' :: behind.toList) =
      !o.language.spoils a c s := fun c s => Language.keeps_eq hlex c s behind.toList
  have hread := Lexicon.denoted?_quote (Language.agrees_lexicon hlex) hkept hbefore f.1
  simpa only [String.ofList_toList, Bool.not_eq_true'] using hread

/-- In Kotlin a dollar sign at the end of a key is a part of the key. -/
theorem a_dollar_at_the_end_is_denoted :
    let o : LanguageOptions := .kotlin { serialization := .kotlinx }
    let f : Field := ("a$", .scalar .number)
    let mark := "    @SerialName(\"a$\")"
    o.language.lexicon? .ofAscii = some (Kotlin.lexicon .ofAscii) ∧ mark ∈ o.marks f ∧
      (Kotlin.lexicon .ofAscii).denoted? mark = some "a$" := by
  intro o f mark
  have hmark : mark ∈ o.marks f := by decide
  have hlaw := a_mark_denotes_its_key_unless_a_character_spoils_it .ofAscii o _ rfl ⟨"Root", [f]⟩ f
    (List.mem_singleton_self f) mark hmark
  refine ⟨rfl, hmark, hlaw.2.1.mpr fun c r hr => ?_⟩
  have hkey : f.1.toList = ['a', '$'] := by decide
  rw [hkey, List.suffix_cons_iff, List.suffix_cons_iff] at hr
  rcases hr with hr | hr | hr
  · cases hr
    decide
  · cases hr
    decide
  · cases List.suffix_nil.mp hr

/-- The literal of a mark need not denote the key: the escape of a control character is none in
Rust. -/
theorem a_control_character_is_not_denoted :
    ¬ ∀ (a : Alphabet) (o : LanguageOptions) (lex : Lexicon), o.language.lexicon? a = some lex →
      ∀ (t : ObjectType) (f : Field), f ∈ t.fields → ∀ mark ∈ o.marks f,
        lex.denoted? mark = some f.1 := by
  intro h
  let f : Field := ("a\x01", .scalar .number)
  have hdenoted := h .ofAscii (.rust {}) Rust.lexicon rfl ⟨"Root", [f]⟩ f
    (List.mem_singleton_self f) "    #[serde(rename = \"a\\u0001\")]" (by decide)
  revert hdenoted
  decide

end TypeSketch
