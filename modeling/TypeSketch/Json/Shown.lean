-- The form in which a message shows a value of a document, and what stops the showing.
import TypeSketch.Decimal.Layout
import TypeSketch.Json.Basic
import TypeSketch.Text.Lines
import TypeSketch.Text.Quoted

namespace TypeSketch

/-- Numbers in messages: the first digit may stand from four places behind the point to sixteen
before it, an exponent has a sign and at least two digits, and a whole number keeps a zero
behind the point. -/
def Number.layout : Decimal.Layout where
  leastPlain := -4
  greatestPlain := 15
  wholeTail := ".0"
  exponentMark := "e"
  exponentWidth := 2
  infinity := "inf"

/-- A number as a message shows it. -/
def Number.shown : Number → String
  | whole n => toString n
  | decimal d => d.text layout
  | infinity negative => if negative then "-inf" else "inf"
  | nan => "nan"

/-- A truth value as a message shows it. -/
def shownBool (b : Bool) : String := if b then "True" else "False"

namespace Json

open Text

mutual

/-- A value as a message shows it. -/
def shown : Json → String
  | null => "None"
  | bool b => shownBool b
  | num n => n.shown
  | str s => Text.shown s
  | arr vs => "[" ++ listed (shownItems vs) ++ "]"
  | obj es => "\x7b" ++ listed (shownEntries es) ++ "\x7d"

/-- The items of an array as a message shows them. -/
def shownItems : List Json → List String
  | [] => []
  | v :: vs => v.shown :: shownItems vs

/-- The entries of an object as a message shows them. -/
def shownEntries : List (String × Json) → List String
  | [] => []
  | (k, v) :: es => (Text.shown k ++ ": " ++ v.shown) :: shownEntries es

end

/-! ## Limits -/

/-- Why a value cannot be shown: a whole number in it has too many digits, or values are nested too
deep. -/
inductive ShownFault where
  | digits (limit : Nat)
  | depth
  deriving DecidableEq, Repr

/-- The fault in words. -/
def ShownFault.message : ShownFault → String
  | .digits limit =>
    s!"Exceeds the limit ({limit} digits) for integer string conversion; " ++
      "use sys.set_int_max_str_digits() to increase the limit"
  | .depth => "maximum recursion depth exceeded while getting the repr of an object"

/-- What stops the showing of a number. Zero digits set no limit. -/
def numberFault? (limit : Nat) : Number → Option ShownFault
  | .whole n => if 0 < limit ∧ Nat.pow 10 limit ≤ n.natAbs then some (.digits limit) else none
  | _ => none

mutual

/-- What stops the showing of a value first, where values may be nested to a depth and every one
counts, those without parts too. -/
def shownFault? (limit : Nat) : Json → Nat → Option ShownFault
  | _, 0 => some .depth
  | num n, _ + 1 => numberFault? limit n
  | arr vs, depth + 1 => itemsFault? limit vs depth
  | obj es, depth + 1 => entriesFault? limit es depth
  | _, _ + 1 => none

/-- What stops the showing of items first. -/
def itemsFault? (limit : Nat) : List Json → Nat → Option ShownFault
  | [], _ => none
  | v :: vs, depth => (v.shownFault? limit depth).or (itemsFault? limit vs depth)

/-- What stops the showing of entries first. A key is nested as deep as its value. -/
def entriesFault? (limit : Nat) : List (String × Json) → Nat → Option ShownFault
  | [], _ => none
  | (_, v) :: es, depth => (v.shownFault? limit depth).or (entriesFault? limit es depth)

end

end Json

end TypeSketch
