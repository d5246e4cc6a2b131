-- Literals by the rules of a language. A language says which escapes it knows and what may
-- stand for itself between double quotes. The escapes that literals are written with stand
-- for the same characters in all languages, as far as a language knows them.
import TypeSketch.Proofs.Text.Literal

namespace TypeSketch.Text

/-! ## Lexicons -/

/-- An escape of a character by its number: a letter behind the backslash, then hexadecimal digits,
as many as there are up to the most, perhaps in braces. -/
structure Numeral where
  letter : Char
  braced : Bool
  least : Nat
  most : Nat
  limit : Nat := 0x10FFFF
  deriving DecidableEq, Repr

/-- The escapes that a language knows: what the escapes of one letter stand for, and those by
numbers. -/
structure Escapes where
  short : List (Char × Char)
  numerals : List Numeral

/-- The rules for double-quoted literals: the escapes, and whether a character may stand for itself
before the text behind it. -/
structure Lexicon extends Escapes where
  plain : Char → List Char → Bool

/-- The number that hexadecimal digits write. -/
def hexValue (ds : List Char) : Nat :=
  ds.foldl (fun value d => 16 * value + (hexDigit? d).getD 0) 0

/-- The character whose number stands at the front of a text, and how many characters write it. The
number has to be that of a character. -/
def Numeral.read? (m : Numeral) (s : List Char) : Option (Char × Nat) :=
  let inner := if m.braced then s.tail else s
  let ds := (inner.take m.most).takeWhile isHexDigit
  if (m.braced = true → s.head? = some '\x7b' ∧ inner[ds.length]? = some '\x7d') ∧
      m.least ≤ ds.length ∧ hexValue ds ≤ m.limit ∧ (hexValue ds).isValidChar then
    some (Char.ofNat (hexValue ds), if m.braced then ds.length + 2 else ds.length)
  else none

namespace Escapes

/-- The escape by numbers that begins with a letter. -/
def numeral? (k : Escapes) (e : Char) : Option Numeral := k.numerals.find? (·.letter == e)

/-- The character of the escape whose backslash stands before a text, and how many characters
write it. -/
def unescape? (k : Escapes) : List Char → Option (Char × Nat)
  | [] => none
  | e :: r =>
    match k.short.lookup e with
    | some c => some (c, 1)
    | none => (k.numeral? e).bind fun m => (m.read? r).map fun (c, n) => (c, n + 1)

end Escapes

namespace Lexicon

/-- The text of a literal behind its opening quote and some characters that are read already, and
what stands behind the closing quote. -/
def read (lex : Lexicon) : Nat → List Char → Option (List Char × List Char)
  | _, [] => none
  | n + 1, _ :: r => lex.read n r
  | 0, c :: r =>
    if c = '"' then some ([], r)
    else if c = '\\' then
      (lex.unescape? r).bind fun (d, n) => (lex.read n r).map (Prod.map (d :: ·) id)
    else if lex.plain c r then (lex.read 0 r).map (Prod.map (c :: ·) id)
    else none

/-- What the first literal of a text denotes. -/
def denoted? (lex : Lexicon) (s : String) : Option String :=
  (lex.read 0 (s.toList.dropWhile (· ≠ '"')).tail).map (String.ofList ·.1)

end Lexicon

/-! ## The escapes of literals -/

/-- The escapes of one letter that literals are written with. -/
def shortForms : List (Char × Char) :=
  [('"', '"'), ('\\', '\\'), ('n', '\n'), ('r', '\r'), ('t', '\t'), ('f', '\x0c'), ('b', '\x08')]

/-- The letter of the escape for a character. -/
def shortLetter? (c : Char) : Option Char := (shortForms.find? (·.2 == c)).map Prod.fst

theorem mem_of_shortLetter? {c e : Char} (h : shortLetter? c = some e) : (e, c) ∈ shortForms := by
  obtain ⟨p, hp, rfl⟩ := Option.map_eq_some_iff.mp h
  have hc : (p.2 == c) = true := List.find?_some (p := fun q : Char × Char => q.2 == c) hp
  rw [← eq_of_beq hc]
  exact List.mem_of_find?_eq_some hp

/-- Whether a character is escaped in literals. -/
def isEscaped (c : Char) : Bool := decide (c.toNat < 0x20) || c == '"' || c == '\\'

/-- What stands behind the backslash of an escaped character. -/
def escapeOf (c : Char) : List Char :=
  match shortLetter? c with
  | some e => [e]
  | none => 'u' :: hexDigits 4 c.toNat

/-- What holds of all escaped characters. -/
theorem of_isEscaped {P : Char → Prop} (hcontrol : ∀ n < 0x20, P (Char.ofNat n))
    (hquote : P '"') (hback : P '\\') {c : Char} (h : isEscaped c = true) : P c := by
  simp only [isEscaped, Bool.or_eq_true, decide_eq_true_eq, beq_iff_eq] at h
  rcases h with (h | rfl) | rfl
  · rw [← Char.ofNat_toNat c]
    exact hcontrol c.toNat h
  · exact hquote
  · exact hback

theorem ne_of_not_isEscaped {c d : Char} (hc : ¬ isEscaped c = true) (hd : isEscaped d = true) :
    c ≠ d := by
  rintro rfl
  exact hc hd

theorem not_control_of_not_isEscaped {c : Char} (hc : ¬ isEscaped c = true) :
    ¬ c.toNat < 0x20 := by
  intro hlt
  exact hc (by simp [isEscaped, hlt])

theorem literalChar_eq (c : Char) :
    literalChar c = if isEscaped c then '\\' :: escapeOf c else [c] := by
  by_cases h : isEscaped c = true
  · rw [if_pos h]
    exact of_isEscaped (P := fun c => literalChar c = '\\' :: escapeOf c) (by decide)
      (by decide) (by decide) h
  · have hne {d : Char} (hd : isEscaped d = true) : c ≠ d := ne_of_not_isEscaped h hd
    rw [if_neg h, literalChar, if_neg (hne (by decide)), if_neg (hne (by decide)),
      if_neg (hne (by decide)), if_neg (hne (by decide)), if_neg (hne (by decide)),
      if_neg (hne (by decide)), if_neg (hne (by decide)), if_neg (not_control_of_not_isEscaped h)]

/-- A double quote stands in a literal only behind a backslash. -/
theorem quote_notMem_literalChar {c : Char} (h : c ≠ '"') : '"' ∉ literalChar c := by
  rw [literalChar_eq]
  split
  · rename_i hc
    exact of_isEscaped (P := fun c => c ≠ '"' → '"' ∉ '\\' :: escapeOf c) (by decide) (by decide)
      (by decide) hc h
  · simpa using h.symm

theorem head?_literalBody (s : List Char) : (literalBody s).head? ≠ some '"' := by
  cases s with
  | nil => simp [literalBody]
  | cons c s =>
    rw [literalBody, List.flatMap_cons, literalChar_eq]
    split
    · simp
    · rename_i hc
      simpa using ne_of_not_isEscaped hc (by decide)

/-- The digits of a control character. -/
theorem hexDigits_control : ∀ n < 0x20, (hexDigits 4 n).length = 4 ∧
    (hexDigits 4 n).takeWhile isHexDigit = hexDigits 4 n ∧ hexValue (hexDigits 4 n) = n ∧
      (hexDigits 4 n).head? = some '0' := by
  decide

namespace Escapes

/-- The escapes that literals are written with mean what they are written for, if they mean
anything. -/
structure Agrees (k : Escapes) : Prop where
  short : ∀ p ∈ shortForms, k.short.lookup p.1 = none ∨ k.short.lookup p.1 = some p.2
  apart : ∀ p ∈ shortForms, k.numeral? p.1 = none
  unicode : k.short.lookup 'u' = none
  digits : ∀ m ∈ k.numeral? 'u', m.braced = false → m.least ≤ 4 ∧ m.most = 4 ∧ 0x20 ≤ m.limit

instance (k : Escapes) : Decidable k.Agrees :=
  decidable_of_iff
    ((∀ p ∈ shortForms, k.short.lookup p.1 = none ∨ k.short.lookup p.1 = some p.2) ∧
      (∀ p ∈ shortForms, k.numeral? p.1 = none) ∧ k.short.lookup 'u' = none ∧
      ∀ m ∈ k.numeral? 'u', m.braced = false → m.least ≤ 4 ∧ m.most = 4 ∧ 0x20 ≤ m.limit)
    ⟨fun ⟨h, i, j, l⟩ => ⟨h, i, j, l⟩, fun ⟨h, i, j, l⟩ => ⟨h, i, j, l⟩⟩

/-- Whether the escape with which literals write a character is known. -/
def knows (k : Escapes) (c : Char) : Bool :=
  match shortLetter? c with
  | some e => (k.short.lookup e).isSome
  | none => (k.numeral? 'u').any (!·.braced)

/-- The four digits of a control character are its number, but no number in braces. -/
theorem read?_control {m : Numeral} (hm : m.braced = false → m.least ≤ 4 ∧ m.most = 4 ∧
    0x20 ≤ m.limit) {c : Char} (hc : c.toNat < 0x20) (r : List Char) :
    m.read? (hexDigits 4 c.toNat ++ r) = if m.braced then none else some (c, 4) := by
  obtain ⟨hlength, hdigits, hvalue, hhead⟩ := hexDigits_control c.toNat hc
  cases hb : m.braced with
  | true =>
    have hopen : (hexDigits 4 c.toNat ++ r).head? = some '0' := by
      rw [List.head?_append, hhead, Option.some_or]
    rw [Numeral.read?]
    simp [hb, hopen]
  | false =>
    obtain ⟨hleast, hmost, hlimit⟩ := hm hb
    have htake : (hexDigits 4 c.toNat ++ r).take 4 = hexDigits 4 c.toNat :=
      List.take_left' hlength
    have hvalid : c.toNat.isValidChar := Or.inl (by omega)
    rw [Numeral.read?]
    simp only [hb, Bool.false_eq_true, if_false, hmost, htake, hdigits, hvalue, hlength]
    rw [if_pos ⟨by simp, hleast, by omega, hvalid⟩, Char.ofNat_toNat]

/-- An escape is read as the character it is written for, or not at all. -/
theorem unescape?_escapeOf {k : Escapes} (h : k.Agrees) {c : Char} (hc : isEscaped c = true)
    (r : List Char) : k.unescape? (escapeOf c ++ r) =
      if k.knows c then some (c, (escapeOf c).length) else none := by
  rw [escapeOf, knows]
  cases hshort : shortLetter? c with
  | some e =>
    have hmem := mem_of_shortLetter? hshort
    rw [List.singleton_append, unescape?]
    rcases h.short _ hmem with hlookup | hlookup
    · simp [hlookup, h.apart _ hmem]
    · simp [hlookup]
  | none =>
    have hcontrol : c.toNat < 0x20 :=
      of_isEscaped (P := fun c => shortLetter? c = none → c.toNat < 0x20) (by decide)
        (by decide) (by decide) hc hshort
    have hlength := (hexDigits_control c.toNat hcontrol).1
    rw [List.cons_append, unescape?, h.unicode]
    cases hu : k.numeral? 'u' with
    | none => rfl
    | some m =>
      simp only [Option.bind_some, read?_control (h.digits m hu) hcontrol]
      cases hb : m.braced <;> simp [hb, hlength]

end Escapes

/-! ## Literals -/

namespace Lexicon

variable {lex : Lexicon}

/-- Whether what stands for a character in a literal, before some text, is read as that
character. -/
def keeps (lex : Lexicon) (c : Char) (rest : List Char) : Bool :=
  if isEscaped c then lex.knows c else lex.plain c rest

theorem read_passed (s r : List Char) : lex.read s.length (s ++ r) = lex.read 0 r := by
  induction s with
  | nil => rfl
  | cons c s ih => exact ih

/-- A character of a literal is read as itself or not at all. -/
theorem read_literalChar (h : lex.Agrees) (c : Char) (r : List Char) :
    lex.read 0 (literalChar c ++ r) =
      if lex.keeps c r then (lex.read 0 r).map (Prod.map (c :: ·) id) else none := by
  rw [literalChar_eq, keeps]
  by_cases hc : isEscaped c = true
  · rw [if_pos hc, if_pos hc, List.cons_append, read, if_neg (by decide), if_pos rfl,
      Escapes.unescape?_escapeOf h hc]
    split
    · simp only [Option.bind_some, read_passed]
    · rfl
  · rw [if_neg hc, if_neg hc, List.singleton_append, read,
      if_neg (ne_of_not_isEscaped hc (by decide)), if_neg (ne_of_not_isEscaped hc (by decide))]

/-- A literal without its closing quote is none. -/
theorem read_open (h : lex.Agrees) (s : List Char) :
    lex.read 0 (literalBody s) = none := by
  induction s with
  | nil => rfl
  | cons c s ih =>
    rw [literalBody, List.flatMap_cons, ← literalBody, read_literalChar h, ih]
    exact ite_self _

section

variable (h : lex.Agrees) {kept : Char → List Char → Bool} {behind : List Char}
  (hkept : ∀ c s, lex.keeps c (literalBody s ++ '"' :: behind) = kept c s)
include h hkept

theorem read_literalBody_cons (c : Char) (s : List Char) :
    lex.read 0 (literalBody (c :: s) ++ '"' :: behind) =
      if kept c s then (lex.read 0 (literalBody s ++ '"' :: behind)).map (Prod.map (c :: ·) id)
      else none := by
  rw [← hkept, ← read_literalChar h, ← List.append_assoc]
  rfl

/-- A literal of which every character is kept in its place denotes its text. -/
theorem read_literalBody {s : List Char} (hs : ∀ c r, c :: r <:+ s → kept c r = true) :
    lex.read 0 (literalBody s ++ '"' :: behind) = some (s, behind) := by
  induction s with
  | nil => rfl
  | cons c s ih =>
    rw [read_literalBody_cons h hkept, if_pos (hs c s List.suffix_rfl),
      ih fun d r hr => hs d r (hr.trans (List.suffix_cons c s))]
    rfl

/-- A literal of which some character is not kept is none. -/
theorem read_literalBody_none {s : List Char} {c : Char} {r : List Char} (hr : c :: r <:+ s)
    (hc : kept c r = false) : lex.read 0 (literalBody s ++ '"' :: behind) = none := by
  induction s with
  | nil => cases List.suffix_nil.mp hr
  | cons d s ih =>
    rw [read_literalBody_cons h hkept]
    rcases List.suffix_cons_iff.mp hr with heq | hr
    · cases heq
      rw [if_neg (ne_true_of_eq_false hc)]
    · rw [ih hr, Option.map_none, ite_self]

/-- What a text denotes whose first literal is that of a key: the key or nothing. -/
theorem denoted?_quote {before : String} (hbefore : '"' ∉ before.toList) (key : String) :
    (lex.denoted? (before ++ quote key ++ String.ofList behind) = some key ↔
        ∀ c r, c :: r <:+ key.toList → kept c r = true) ∧
      (lex.denoted? (before ++ quote key ++ String.ofList behind) = some key ∨
        lex.denoted? (before ++ quote key ++ String.ofList behind) = none) := by
  have hread : lex.denoted? (before ++ quote key ++ String.ofList behind) =
      (lex.read 0 (literalBody key.toList ++ '"' :: behind)).map (String.ofList ·.1) := by
    rw [denoted?, String.toList_append, String.toList_append, toList_quote, List.append_assoc,
      List.dropWhile_append_of_pos]
    · simp
    · intro c hc
      simpa using ne_of_mem_of_not_mem hc hbefore
  rw [hread]
  by_cases hspoiled : ∃ c r, c :: r <:+ key.toList ∧ kept c r = false
  · obtain ⟨c, r, hr, hc⟩ := hspoiled
    rw [read_literalBody_none h hkept hr hc, Option.map_none]
    refine ⟨iff_of_false (by simp) fun hall => ?_, .inr rfl⟩
    rw [hall c r hr] at hc
    cases hc
  · have hall : ∀ c r, c :: r <:+ key.toList → kept c r = true := fun c r hr =>
      (Bool.not_eq_false _).mp fun hc => hspoiled ⟨c, r, hr, hc⟩
    rw [read_literalBody h hkept hall, Option.map_some, String.ofList_toList]
    exact ⟨iff_of_true rfl hall, .inl rfl⟩

end

end Lexicon

end TypeSketch.Text
