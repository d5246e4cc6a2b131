-- The machine under the program: what its interpreter sets, whatever the input is. Values can be
-- read and shown only so far down and numbers only up to a length, and a lone half of a surrogate
-- pair, which a text of the interpreter may hold, needs a character that stands for it.

namespace TypeSketch

/-- The most digits that a whole number may have, where the machine sets no other limit. -/
def Json.digitLimit : Nat := 4300

/-- How far a reader of documents goes: how deep arrays and objects may be nested, how many digits a
whole number may have, where zero sets no limit, and the first of the code points that stand for
lone halves of surrogate pairs. -/
structure Json.Limits where
  depth : Nat
  digits : Nat
  halves : Nat

/-- The character that stands for a lone half of a surrogate pair. -/
def Json.Limits.half (l : Limits) (unit : Nat) : Char := Char.ofNat (l.halves + (unit - 0xD800))

/-- The places of the program at which a document is read. Each stands at a depth of its own in
the calls of a run. -/
inductive Reading where
  | sample
  | document
  | optionFile
  | pair
  deriving DecidableEq, Repr

/-- What a machine sets: the depth to which documents are read at a place of the program and to
which values are shown in messages, the most digits of a whole number, and the first of 2048 code
points that stand for lone halves of surrogate pairs. No text that is read holds one of these
itself. -/
class Machine where
  readDepth : Reading → Nat
  shownDepth : Nat
  digits : Nat
  halves : Nat
  halves_valid : 0xE000 ≤ halves ∧ halves + 0x800 ≤ 0x110000

namespace Machine

/-- How far a document is read at a place of the program. -/
def limits [Machine] (place : Reading) : Json.Limits := ⟨readDepth place, digits, halves⟩

/-- Whether a character stands for a lone half of a surrogate pair. -/
def isHalf [Machine] (c : Char) : Bool := halves ≤ c.toNat && c.toNat < halves + 0x800

/-- Whether a character stands for one of the lone halves that the system takes in a path: each is a
byte that stands in no text. -/
def isByte [Machine] (c : Char) : Bool := halves + 0x480 ≤ c.toNat && c.toNat < halves + 0x500

/-- A machine as it is set up by default. The depths leave some room for the calls of the program
itself, and the last private code points stand for halves. -/
instance usual : Machine where
  readDepth _ := 980
  shownDepth := 980
  digits := Json.digitLimit
  halves := 0x10F800
  halves_valid := by decide

end Machine

end TypeSketch
