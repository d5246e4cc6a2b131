-- Numbers as runs of digits.
import TypeSketch.Text.Ascii

namespace TypeSketch.Text

/-- Digits filled with zeros at the left up to a length. -/
def padZeros (width : Nat) (ds : List Char) : List Char :=
  List.replicate (width - ds.length) '0' ++ ds

/-- The digits of a number in base sixteen, filled with zeros up to a length. -/
def hexDigits (width n : Nat) : List Char := padZeros width (Nat.toDigits 16 n)

/-- The number that a run of decimal digits denotes. -/
def digitsValue (ds : List Char) : Nat := ds.foldl (fun n c => 10 * n + (c.toNat - 48)) 0

/-- The value of a digit in base sixteen. -/
def hexDigit? (c : Char) : Option Nat :=
  if isDigit c then some (c.toNat - 48)
  else if 'a' ≤ c ∧ c ≤ 'f' then some (c.toNat - 87)
  else if 'A' ≤ c ∧ c ≤ 'F' then some (c.toNat - 55)
  else none

/-- Whether a character is a digit in base sixteen. -/
def isHexDigit (c : Char) : Bool := (hexDigit? c).isSome

end TypeSketch.Text
