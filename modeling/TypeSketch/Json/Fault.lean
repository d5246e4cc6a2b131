-- What can be wrong with a JSON text, and where.

namespace TypeSketch.Json

/-- What a reader wanted, or could not accept, at some place of a text. -/
inductive Fault where
  | byteOrderMark
  | value
  | propertyName
  | colon
  | comma
  | extraData
  | unterminatedString
  | controlCharacter
  | badEscape
  | badUnicodeEscape
  deriving DecidableEq, Repr

/-- What goes beyond the limits of a reader: a whole number with too many digits, or an array or an
object that is nested too deep. -/
inductive Excess where
  | digits (limit count : Nat)
  | depth (isObject : Bool)
  deriving DecidableEq, Repr

/-- Why a text cannot be read: a fault at a place, counted in characters from the start, or
something that goes beyond the limits. -/
inductive ReadError where
  | fault (kind : Fault) (line column position : Nat)
  | excess (e : Excess)
  deriving DecidableEq, Repr

namespace Fault

/-- What is wrong, in words. -/
def message : Fault → String
  | byteOrderMark => "Unexpected UTF-8 BOM (decode using utf-8-sig)"
  | value => "Expecting value"
  | propertyName => "Expecting property name enclosed in double quotes"
  | colon => "Expecting ':' delimiter"
  | comma => "Expecting ',' delimiter"
  | extraData => "Extra data"
  | unterminatedString => "Unterminated string starting at"
  | controlCharacter => "Invalid control character at"
  | badEscape => "Invalid \\escape"
  | badUnicodeEscape => "Invalid \\uXXXX escape"

end Fault

/-- The excess in words. -/
def Excess.message : Excess → String
  | digits limit count =>
    s!"Exceeds the limit ({limit} digits) for integer string conversion: value has {count} " ++
      "digits; use sys.set_int_max_str_digits() to increase the limit"
  | depth isObject =>
    "maximum recursion depth exceeded while decoding a JSON " ++
      (if isObject then "object" else "array") ++ " from a unicode string"

namespace ReadError

/-- The error in words, with its place. -/
def message : ReadError → String
  | fault kind line column position =>
    s!"{kind.message}: line {line} column {column} (char {position})"
  | excess e => e.message

/-- The error for a fault at a position of a text: lines and columns count from one, and a line
feed ends a line. -/
def ofPosition (text : List Char) (kind : Fault) (position : Nat) : ReadError :=
  let before := text.take position
  fault kind (before.count '\n' + 1) ((before.reverse.takeWhile (· != '\n')).length + 1) position

end ReadError

end TypeSketch.Json
