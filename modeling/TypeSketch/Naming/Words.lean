-- The words of a name. A name is cut where a small letter meets a capital one,
-- before the last capital of a run when a small letter follows it, and at
-- blanks and punctuation; what is cut away is only the gaps.
import TypeSketch.Text.Ascii
import TypeSketch.Text.Blank
import TypeSketch.Text.Lines

namespace TypeSketch.Naming

open Text

/-- Whether a character only separates words: `-`, `_`, `.`, a slash of either kind or a
blank. -/
def isGap (c : Char) : Bool :=
  c == '-' || c == '_' || c == '.' || c == '/' || c == '\\' || isBlank c

/-- Whether a word ends with `a` and the next begins with `b`, where `rest` follows `b`. -/
def isBoundary (a b : Char) (rest : List Char) : Bool :=
  (isLower a && isUpper b) || (isUpper a && isUpper b && rest.head?.any isLower)

/-- A name with a space at each boundary inside it. -/
def spaced : List Char → List Char
  | a :: b :: r => if isBoundary a b r then a :: ' ' :: spaced (b :: r) else a :: spaced (b :: r)
  | s => s

/-- The words of a name as lists of characters. -/
def wordChars (s : List Char) : List (List Char) :=
  (piecesBy isGap (spaced s)).filter (!·.isEmpty)

/-- The words of a name, in order; none of them is empty. -/
def words (name : String) : List String :=
  (wordChars name.toList).map String.ofList

end TypeSketch.Naming
