-- Quoted texts: the double-quoted literal that the target languages share, and
-- the form in which a message shows a text.
import TypeSketch.Text.Digits
import TypeSketch.Text.Printable

namespace TypeSketch.Text

/-! ## Double-quoted literals -/

/-- A character inside a double-quoted literal: the quote, the backslash and the controls are
escaped, all else stands as it is. -/
def literalChar (c : Char) : List Char :=
  if c = '"' then ['\\', '"']
  else if c = '\\' then ['\\', '\\']
  else if c = '\n' then ['\\', 'n']
  else if c = '\r' then ['\\', 'r']
  else if c = '\t' then ['\\', 't']
  else if c = '\x0c' then ['\\', 'f']
  else if c = '\x08' then ['\\', 'b']
  else if c.toNat < 0x20 then '\\' :: 'u' :: hexDigits 4 c.toNat
  else [c]

/-- The inside of a double-quoted literal. -/
def literalBody (s : List Char) : List Char := s.flatMap literalChar

/-- A text as a double-quoted literal. -/
def quote (s : String) : String := String.ofList ('"' :: literalBody s.toList ++ ['"'])

/-! ## Texts in messages -/

/-- A character inside a shown text, where `mark` is the quotation mark around it: that mark, the
backslash and what cannot be printed are escaped. -/
def shownChar (mark c : Char) : List Char :=
  if c = mark ∨ c = '\\' then ['\\', c]
  else if c = '\t' then ['\\', 't']
  else if c = '\n' then ['\\', 'n']
  else if c = '\r' then ['\\', 'r']
  else if isPrintable c then [c]
  else if c.toNat ≤ 0xFF then '\\' :: 'x' :: hexDigits 2 c.toNat
  else if c.toNat ≤ 0xFFFF then '\\' :: 'u' :: hexDigits 4 c.toNat
  else '\\' :: 'U' :: hexDigits 8 c.toNat

/-- The quotation mark for a text: the single one, unless the text holds it and not the double
one. -/
def markFor (s : List Char) : Char :=
  if '\'' ∈ s ∧ '"' ∉ s then '"' else '\''

/-- A text as a message shows it. -/
def shown (s : String) : String :=
  let mark := markFor s.toList
  String.ofList (mark :: s.toList.flatMap (shownChar mark) ++ [mark])

end TypeSketch.Text
