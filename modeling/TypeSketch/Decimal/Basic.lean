-- Decimal numbers as they are written, and the double-precision number nearest
-- to one. All arithmetic is on natural numbers, so no digit is lost on the way.

namespace TypeSketch

/-- A number given by its digits and a power of ten. -/
structure Decimal where
  negative : Bool
  digits : Nat
  exponent : Int
  deriving DecidableEq, Repr

/-- A number `mantissa` times a power of two. -/
structure Binary where
  mantissa : Nat
  exponent : Int
  deriving DecidableEq, Repr

/-- The outcome of rounding to double precision. -/
inductive Rounded where
  | zero
  | finite (b : Binary)
  | overflow
  deriving DecidableEq, Repr

/-! ## Powers -/

/-- A power of two; of a negative exponent it is one. -/
def powerOfTwo (e : Int) : Nat := Nat.pow 2 e.toNat

/-- A power of ten; of a negative exponent it is one. -/
def powerOfTen (e : Int) : Nat := Nat.pow 10 e.toNat

namespace Decimal

/-! ## Quotients -/

/-- A quotient rounded to the nearest whole number; a half goes to the even neighbour. -/
def roundQuotient (num den : Nat) : Nat :=
  let q := num / den
  let r := num % den
  if 2 * r < den then q
  else if 2 * r > den then q + 1
  else if q % 2 = 0 then q else q + 1

/-- The power of two at or below a positive quotient. -/
def floorLog2 (num den : Nat) : Int :=
  let k : Int := (num.log2 : Int) - den.log2
  if den * powerOfTwo k ≤ num * powerOfTwo (-k) then k else k - 1

/-- A positive quotient in double precision: 53 bits of mantissa, and an exponent between
-1074 and 971. -/
def roundPositive (num den : Nat) : Rounded :=
  let e := max (-1074) (floorLog2 num den - 52)
  let m := roundQuotient (num * powerOfTwo (-e)) (den * powerOfTwo e)
  let b : Binary := if m = powerOfTwo 53 then ⟨powerOfTwo 52, e + 1⟩ else ⟨m, e⟩
  if b.mantissa = 0 then .zero
  else if b.exponent > 971 then .overflow
  else .finite b

/-- How many digits a number has. -/
def digitCount (n : Nat) : Nat := (Nat.toDigits 10 n).length

/-- The size of a decimal in double precision. Sizes far outside the range are settled
without computing the power. -/
def rounded (d : Decimal) : Rounded :=
  if d.digits = 0 then .zero
  else
    let magnitude := (digitCount d.digits : Int) + d.exponent
    if magnitude > 310 then .overflow
    else if magnitude < -330 then .zero
    else roundPositive (d.digits * powerOfTen d.exponent) (powerOfTen (-d.exponent))

end Decimal

end TypeSketch
