-- The fewest digits that read back as a given double. For one digit, then two,
-- and so on, the two neighbours of the number on that decimal grid are tested;
-- the first grid with a hit wins, and of two hits the nearer, or of two equally
-- near ones the even.
import TypeSketch.Decimal.Basic

namespace TypeSketch.Binary

/-- How `x` times a power of ten compares with `y` times a power of two. -/
def compareScaled (x : Nat) (j : Int) (y : Nat) (e : Int) : Ordering :=
  compare (x * powerOfTen j * powerOfTwo (-e)) (y * powerOfTwo e * powerOfTen (-j))

/-- The power of ten at or below a positive number. -/
def floorLog10 (b : Binary) : Int :=
  let guess := (((b.mantissa.log2 : Int) + b.exponent) * 30103).fdiv 100000
  if compareScaled 1 (guess + 1) b.mantissa b.exponent != .gt then guess + 1
  else if compareScaled 1 guess b.mantissa b.exponent == .gt then guess - 1
  else guess

/-- Whether `c` times a power of ten is rounded to this number: it lies within half a step,
and on the very half only if the mantissa is even. -/
def readsBack (b : Binary) (c : Nat) (j : Int) : Bool :=
  let down := if b.mantissa = powerOfTwo 52 ∧ b.exponent > -1074 then 1 else 2
  let even := b.mantissa % 2 = 0
  let low := compareScaled (4 * c) j (4 * b.mantissa - down) b.exponent
  let high := compareScaled (4 * c) j (4 * b.mantissa + 2) b.exponent
  (low == .gt || (even && low == .eq)) && (high == .lt || (even && high == .eq))

/-- The number divided by a power of ten, without the fraction. -/
def floorAt (b : Binary) (j : Int) : Nat :=
  (b.mantissa * powerOfTwo b.exponent * powerOfTen (-j)) /
    (powerOfTen j * powerOfTwo (-b.exponent))

/-- The neighbour of the number on the grid of a power of ten that reads back, if any. -/
def onGrid? (b : Binary) (j : Int) : Option Nat :=
  let below := b.floorAt j
  let middle := compareScaled (2 * below + 1) j (2 * b.mantissa) b.exponent
  let isBelow := middle == .gt || (middle == .eq && below % 2 = 0)
  match b.readsBack below j, b.readsBack (below + 1) j with
  | true, true => some (if isBelow then below else below + 1)
  | true, false => some below
  | false, true => some (below + 1)
  | false, false => none

/-- The coarsest of the next `fuel` grids, from `j` downwards, that holds a number which reads
back. -/
def firstGrid (b : Binary) (j : Int) : Nat → Nat × Int
  | 0 => (b.floorAt j, j)
  | fuel + 1 =>
    match b.onGrid? j with
    | some c => (c, j)
    | none => firstGrid b (j - 1) fuel

/-- The shortest digits of a positive number with the power of ten of the last one. Seventeen
digits always read back. -/
def shortest (b : Binary) : Nat × Int := b.firstGrid b.floorLog10 17

end TypeSketch.Binary
