-- Reading a document from a JSON text. The reader takes one value after the
-- other from the front of the text and counts the characters it has passed, so
-- that a fault names its place, and does not go beyond the limits that it is given.
import TypeSketch.Json.Basic
import TypeSketch.Json.Fault
import TypeSketch.Machine
import TypeSketch.Text.Digits

namespace TypeSketch.Json

open Text

/-! ## Places in a text -/

/-- What is left of a text, and how many characters stand before it. -/
structure Cursor where
  position : Nat
  rest : List Char

/-- What stops the reading before the text's lines are counted. -/
inductive Stop where
  | fault (kind : Fault) (position : Nat)
  | excess (e : Excess)
  deriving DecidableEq

/-- Whether a character may stand between the tokens of a text. -/
def isSpacing (c : Char) : Bool := c == ' ' || c == '\t' || c == '\n' || c == '\r'

namespace Cursor

/-- The place `n` characters further on. -/
def advance (c : Cursor) (n : Nat) : Cursor := ⟨c.position + n, c.rest.drop n⟩

/-- The next place that holds no spacing. -/
def skipSpacing (c : Cursor) : Cursor := c.advance (c.rest.takeWhile isSpacing).length

/-- The refusal of what stands at this place. -/
def refuse {α : Type} (c : Cursor) (kind : Fault) : Except Stop α :=
  .error (.fault kind c.position)

end Cursor

/-! ## Strings -/

/-- The value of four hexadecimal digits. -/
def hexUnit? (a b c d : Char) : Option Nat :=
  match hexDigit? a, hexDigit? b, hexDigit? c, hexDigit? d with
  | some w, some x, some y, some z => some (4096 * w + 256 * x + 16 * y + z)
  | _, _, _, _ => none

/-- The character that a backslash and a letter stand for. -/
def shortEscape? : Char → Option Char
  | '"' => some '"'
  | '\\' => some '\\'
  | '/' => some '/'
  | 'b' => some '\x08'
  | 'f' => some '\x0c'
  | 'n' => some '\n'
  | 'r' => some '\r'
  | 't' => some '\t'
  | _ => none

/-- The characters of a list of 16-bit units and code points: a high surrogate and the low one
after it are one character, and for a lone one stands a character of its own. -/
def joinUnits (half : Nat → Char) : List Nat → List Char
  | [] => []
  | [n] => [if 0xD800 ≤ n ∧ n < 0xE000 then half n else Char.ofNat n]
  | n :: m :: r =>
    if 0xD800 ≤ n ∧ n < 0xDC00 ∧ 0xDC00 ≤ m ∧ m < 0xE000 then
      Char.ofNat (0x10000 + (n - 0xD800) * 0x400 + (m - 0xDC00)) :: joinUnits half r
    else
      (if 0xD800 ≤ n ∧ n < 0xE000 then half n else Char.ofNat n) :: joinUnits half (m :: r)

/-- The units of a string whose opening quote stands at `start`, and the place after its
closing quote. -/
def stringUnits (start position : Nat) : List Char → Except Stop (List Nat × Cursor)
  | [] => .error (.fault .unterminatedString start)
  | '"' :: r => .ok ([], ⟨position + 1, r⟩)
  | ['\\'] => .error (.fault .unterminatedString start)
  | '\\' :: 'u' :: a :: b :: c :: d :: e :: r =>
    match hexUnit? a b c d with
    | none => .error (.fault .badUnicodeEscape (position + 1))
    | some n =>
      (stringUnits start (position + 6) (e :: r)).map fun (ns, after) => (n :: ns, after)
  | '\\' :: 'u' :: _ => .error (.fault .badUnicodeEscape (position + 1))
  | '\\' :: e :: r =>
    match shortEscape? e with
    | none => .error (.fault .badEscape position)
    | some c =>
      (stringUnits start (position + 2) r).map fun (ns, after) => (c.toNat :: ns, after)
  | c :: r =>
    if c.toNat < 0x20 then .error (.fault .controlCharacter position)
    else (stringUnits start (position + 1) r).map fun (ns, after) => (c.toNat :: ns, after)

/-- The string whose opening quote stands at `start`; the cursor stands after that quote. -/
def readString (half : Nat → Char) (start : Nat) (c : Cursor) : Except Stop (String × Cursor) :=
  (stringUnits start c.position c.rest).map fun (ns, after) =>
    (String.ofList (joinUnits half ns), after)

/-! ## Numbers -/

/-- The digits of the whole part at the front of a text: a zero alone, or digits that do not
begin with one. -/
def wholeDigits : List Char → List Char
  | [] => []
  | c :: r => if c = '0' then [c] else (c :: r).takeWhile isDigit

/-- The digits after a point at the front of a text. -/
def fractionDigits : List Char → List Char
  | '.' :: r => r.takeWhile isDigit
  | _ => []

/-- The sign and the digits of an exponent at the front of a text. -/
def exponentPart : List Char → Option (List Char × List Char)
  | c :: r =>
    if c = 'e' ∨ c = 'E' then
      match r with
      | s :: r' =>
        let (sign, ds) :=
          if s = '+' ∨ s = '-' then ([s], r'.takeWhile isDigit)
          else ([], r.takeWhile isDigit)
        if ds.isEmpty then none else some (sign, ds)
      | [] => none
    else none
  | [] => none

/-- The number at the front of a text. A point or an exponent without digits is left to the
text behind the number. -/
def readNumber (l : Limits) (c : Cursor) : Except Stop (Number × Cursor) :=
  let negative := c.rest.head? == some '-'
  let afterSign := if negative then c.advance 1 else c
  let whole := wholeDigits afterSign.rest
  if whole.isEmpty then c.refuse .value
  else
    let afterWhole := afterSign.advance whole.length
    let fraction := fractionDigits afterWhole.rest
    let afterFraction :=
      if fraction.isEmpty then afterWhole else afterWhole.advance (fraction.length + 1)
    match exponentPart afterFraction.rest with
    | some (sign, ds) =>
      let size : Int := digitsValue ds
      let exponent := if sign = ['-'] then -size else size
      .ok (.decimal ⟨negative, digitsValue (whole ++ fraction), exponent - fraction.length⟩,
        afterFraction.advance (1 + sign.length + ds.length))
    | none =>
      if fraction.isEmpty then
        if 0 < l.digits ∧ l.digits < whole.length then
          .error (.excess (.digits l.digits whole.length))
        else
          let size : Int := digitsValue whole
          .ok (.whole (if negative then -size else size), afterFraction)
      else
        .ok (.decimal ⟨negative, digitsValue (whole ++ fraction), -(fraction.length : Int)⟩,
          afterFraction)

/-! ## Values -/

/-- The values that are written as a word. -/
def constants : List (String × Json) :=
  [("null", .null), ("true", .bool true), ("false", .bool false), ("NaN", .num .nan),
    ("Infinity", .num (.infinity false)), ("-Infinity", .num (.infinity true))]

/-- The word at the front of a text that is a value, with that value. -/
def constantAt? (s : List Char) : Option (String × Json) :=
  constants.find? fun w => w.1.toList.isPrefixOf s

mutual

/-- The value at a place, in which arrays and objects may be nested to a depth. The first number
bounds the calls; each has passed a character more than the one two levels above it. -/
def readValue (l : Limits) : Nat → Nat → Cursor → Except Stop (Json × Cursor)
  | 0, _, c => c.refuse .value
  | fuel + 1, depth, c =>
    match c.rest with
    | '"' :: _ =>
      (readString l.half c.position (c.advance 1)).map fun (s, after) => (.str s, after)
    | '{' :: _ =>
      let inner := (c.advance 1).skipSpacing
      if depth = 0 then .error (.excess (.depth true))
      else if inner.rest.head? = some '}' then .ok (.obj [], inner.advance 1)
      else (readEntries l fuel (depth - 1) inner).map fun (es, after) =>
        (.obj (Entries.ofList es), after)
    | '[' :: _ =>
      let inner := (c.advance 1).skipSpacing
      if depth = 0 then .error (.excess (.depth false))
      else if inner.rest.head? = some ']' then .ok (.arr [], inner.advance 1)
      else (readItems l fuel (depth - 1) inner).map fun (vs, after) => (.arr vs, after)
    | s =>
      match constantAt? s with
      | some (word, v) => .ok (v, c.advance word.length)
      | none => (readNumber l c).map fun (n, after) => (.num n, after)

/-- The items of an array from its next item on, and the place after the closing bracket. -/
def readItems (l : Limits) : Nat → Nat → Cursor → Except Stop (List Json × Cursor)
  | 0, _, c => c.refuse .value
  | fuel + 1, depth, c => do
    let (v, afterValue) ← readValue l fuel depth c
    let next := afterValue.skipSpacing
    match next.rest with
    | ']' :: _ => return ([v], next.advance 1)
    | ',' :: _ =>
      let (vs, after) ← readItems l fuel depth (next.advance 1).skipSpacing
      return (v :: vs, after)
    | _ => next.refuse .comma

/-- The entries of an object from its next key on, and the place after the closing brace. -/
def readEntries (l : Limits) : Nat → Nat → Cursor → Except Stop (List (String × Json) × Cursor)
  | 0, _, c => c.refuse .value
  | fuel + 1, depth, c => do
    if c.rest.head? ≠ some '"' then
      c.refuse .propertyName
    else
      let (key, afterKey) ← readString l.half c.position (c.advance 1)
      let colon := afterKey.skipSpacing
      if colon.rest.head? ≠ some ':' then
        colon.refuse .colon
      else
        let (v, afterValue) ← readValue l fuel depth (colon.advance 1).skipSpacing
        let next := afterValue.skipSpacing
        match next.rest with
        | '}' :: _ => return ([(key, v)], next.advance 1)
        | ',' :: _ =>
          let (es, after) ← readEntries l fuel depth (next.advance 1).skipSpacing
          return ((key, v) :: es, after)
        | _ => next.refuse .comma

end

/-- The document that a list of characters holds. -/
def readChars (l : Limits) (s : List Char) : Except Stop Json := do
  if s.head? = some '\uFEFF' then
    .error (.fault .byteOrderMark 0)
  else
    let start : Cursor := ⟨0, s⟩
    let (v, after) ← readValue l (2 * s.length + 2) l.depth start.skipSpacing
    let last := after.skipSpacing
    if last.rest.isEmpty then return v else last.refuse .extraData

/-- The document that a text holds. -/
def read (l : Limits) (text : String) : Except ReadError Json :=
  match readChars l text.toList with
  | .ok v => .ok v
  | .error (.fault kind position) => .error (.ofPosition text.toList kind position)
  | .error (.excess e) => .error (.excess e)

end TypeSketch.Json
