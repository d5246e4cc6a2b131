-- The text of a number in double precision: which powers of ten are written out
-- and how an exponent is marked is a layout's choice.
import TypeSketch.Decimal.Shortest
import TypeSketch.Text.Digits

namespace TypeSketch.Decimal

/-- How a number is laid out as text. -/
structure Layout where
  /-- The least power of the first digit that is written out with leading zeros. -/
  leastPlain : Int
  /-- The greatest power of the first digit that is written out with trailing zeros. -/
  greatestPlain : Int
  /-- The fraction of a whole number. -/
  wholeTail : String
  /-- What stands before an exponent. -/
  exponentMark : String
  /-- The least count of an exponent's digits. -/
  exponentWidth : Nat
  /-- The text of a number too large for the format. -/
  infinity : String

/-- An exponent with its sign. -/
def exponentText (l : Layout) (k : Int) : String :=
  l.exponentMark ++ (if k < 0 then "-" else "+") ++
    String.ofList (Text.padZeros l.exponentWidth (Nat.toDigits 10 k.natAbs))

/-- Digits, the first of which stands at the power `k` of ten. -/
def layOut (l : Layout) (digits : List Char) (k : Int) : String :=
  if l.leastPlain ≤ k ∧ k ≤ l.greatestPlain then
    if k < 0 then
      "0." ++ String.ofList (List.replicate (-k - 1).toNat '0' ++ digits)
    else
      let whole := digits.take (k.toNat + 1)
      let rest := digits.drop (k.toNat + 1)
      String.ofList (whole ++ List.replicate (k.toNat + 1 - whole.length) '0') ++
        (if rest.isEmpty then l.wholeTail else "." ++ String.ofList rest)
  else
    let rest := digits.drop 1
    String.ofList (digits.take 1) ++
      (if rest.isEmpty then "" else "." ++ String.ofList rest) ++ exponentText l k

/-- Digits without the zeros at their end. -/
def significant (ds : List Char) : List Char := (ds.reverse.dropWhile (· == '0')).reverse

/-- The text of a decimal once it is rounded to double precision. -/
def text (l : Layout) (d : Decimal) : String :=
  (if d.negative then "-" else "") ++
    match d.rounded with
    | .zero => "0" ++ l.wholeTail
    | .overflow => l.infinity
    | .finite b =>
      let (c, j) := b.shortest
      let ds := Nat.toDigits 10 c
      layOut l (significant ds) (j + ds.length - 1)

end TypeSketch.Decimal
