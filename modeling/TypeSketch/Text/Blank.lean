-- White space, and the two kinds of trimming that the rest of the library
-- uses: at both ends of a text, and at the end alone.

namespace TypeSketch.Text

/-! ## The class of blanks -/

/-- Whether a character is white space: the Unicode property, together with the four
information separators that stand before the space. -/
def isBlank (c : Char) : Bool :=
  let n := c.toNat
  (0x09 ≤ n && n ≤ 0x0D) || (0x1C ≤ n && n ≤ 0x20) || n == 0x85 || n == 0xA0 || n == 0x1680 ||
    (0x2000 ≤ n && n ≤ 0x200A) || n == 0x2028 || n == 0x2029 || n == 0x202F || n == 0x205F ||
    n == 0x3000

/-! ## Trimming -/

/-- A list without its longest suffix of elements that satisfy `p`. -/
def dropTrailing {α : Type} (p : α → Bool) (s : List α) : List α :=
  (s.reverse.dropWhile p).reverse

/-- A list without its leading and its trailing elements that satisfy `p`. -/
def dropAround {α : Type} (p : α → Bool) (s : List α) : List α :=
  dropTrailing p (s.dropWhile p)

/-- A text without the blanks at its end. -/
def trimEnd (s : String) : String :=
  String.ofList (dropTrailing isBlank s.toList)

/-- A text without the blanks at either end. -/
def trim (s : String) : String :=
  String.ofList (dropAround isBlank s.toList)

/-- A text without the line breaks at either end. -/
def trimBreaks (s : String) : String :=
  String.ofList (dropAround (· == '\n') s.toList)

end TypeSketch.Text
