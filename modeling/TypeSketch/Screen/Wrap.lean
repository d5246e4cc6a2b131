-- Fitting a line into so many columns of a screen: tabs become blanks, a line
-- breaks before the first word that does not fit any more, and what is still
-- too long is folded or cut short.
import TypeSketch.Screen.Styled
import TypeSketch.Text.Blank
import TypeSketch.Text.Lines

namespace TypeSketch.Screen

open Text

/-! ## Tabs -/

/-- The columns between two tab stops. -/
def tabStop : Nat := 8

/-- Parts of a line that end with tabs, all but the last, in one line from a column on: a blank
stands for a tab, and more of them up to the next tab stop. -/
def joinTabbed (column : Nat) : List Styled → Styled
  | [] => ⟨[], []⟩
  | [part] => part
  | part :: parts =>
    let written := part.withChars (part.chars.dropLast ++ [' '])
    let reached := column + columns written.chars
    let more := (tabStop - reached % tabStop) % tabStop
    (written.widened more).append (joinTabbed (reached + more) parts)

/-- The lengths of texts that all but the last are followed by one more character. -/
def tabbedLengths : List (List Char) → List Nat
  | [] => []
  | [part] => [part.length]
  | part :: parts => (part.length + 1) :: tabbedLengths parts

/-- A line with blanks for its tabs. -/
def expandTabs (t : Styled) : Styled :=
  joinTabbed 0 (t.parts 0 (tabbedLengths (piecesBy (· == '\t') t.chars)))

/-! ## Words -/

/-- The words of a line, each with the blanks behind it. -/
def wordsWithBlanks : List Char → List (List Char)
  | [] => []
  | c :: r =>
    match wordsWithBlanks r with
    | (d :: w) :: words =>
      if isBlank c && !isBlank d then [c] :: (d :: w) :: words else (c :: d :: w) :: words
    | words => [c] :: words

/-- The words of a line, each with the blanks behind it; the first one has the blanks too that the
line begins with. -/
def spacedWords (s : List Char) : List (List Char) :=
  match wordsWithBlanks s with
  | blanks :: word :: r => if blanks.all isBlank then (blanks ++ word) :: r else blanks :: word :: r
  | words => words

/-- What to do with a word that is longer than a line. -/
inductive Excess where
  | fold
  | cut
  deriving DecidableEq, Repr

/-- Clusters in pieces that fit into a width, where so many columns of it are taken already. -/
def chop (width : Nat) (taken : Nat) : List Cluster → List (List Char)
  | [] => [[]]
  | k :: r =>
    if width < taken + k.columns then
      match chop width k.columns r with
      | piece :: pieces => [] :: (k.chars ++ piece) :: pieces
      | [] => [[], k.chars]
    else
      match chop width (taken + k.columns) r with
      | piece :: pieces => (k.chars ++ piece) :: pieces
      | [] => [k.chars]

/-- Lines under way: the finished ones with the last one first, the one at work, and the column
that it has reached. -/
structure Breaking where
  done : List (List Char)
  line : List Char
  column : Nat

namespace Breaking

/-- The lines with a break after the one at work, unless nothing has been written yet. -/
def next (b : Breaking) : Breaking :=
  if b.line.isEmpty && b.done.isEmpty then b else ⟨b.line :: b.done, [], 0⟩

/-- The lines with a word written in the line at work. -/
def write (b : Breaking) (word : List Char) : Breaking :=
  ⟨b.done, b.line ++ word, b.column + columns word⟩

/-- The lines with one more word. -/
def place (width : Nat) (excess : Excess) (b : Breaking) (word : List Char) : Breaking :=
  let length := columns (dropTrailing isBlank word)
  if b.column + length ≤ width then b.write word
  else if length ≤ width || excess == .cut then b.next.write word
  else (chop width 0 (clusters word)).foldl (fun b piece => b.next.write piece) b

/-- All lines. -/
def lines (b : Breaking) : List (List Char) := (b.line :: b.done).reverse

end Breaking

/-! ## Lines -/

/-- A line without the blanks at its end that stand behind its first `width` characters. -/
def trimExcess (width : Nat) (t : Styled) : Styled :=
  let blanks := t.chars.length - (dropTrailing isBlank t.chars).length
  t.withChars (t.chars.take (t.chars.length - min blanks (t.chars.length - width)))

/-- The longest beginning of a line that fits into a width, with a blank for half a wide
cluster. -/
def crop (width : Nat) : List Cluster → List Char
  | [] => []
  | k :: r =>
    if k.columns ≤ width then k.chars ++ crop (width - k.columns) r else List.replicate width ' '

/-- A line that is cut to a width; where words are not folded, an ellipsis marks the cut. -/
def shorten (width : Nat) (excess : Excess) (t : Styled) : Styled :=
  if columns t.chars ≤ width then t
  else t.withChars <| match excess with
    | .fold => crop width (clusters t.chars)
    | .cut => crop (width - 1) (clusters t.chars) ++ ['…']

/-- A line of text in lines of a width. -/
def wrapLine (width : Nat) (excess : Excess) (t : Styled) : List Styled :=
  let line := expandTabs t
  let broken := (spacedWords line.chars).foldl (Breaking.place width excess) ⟨[], [], 0⟩
  (line.parts 0 (broken.lines.map List.length)).map fun part =>
    shorten width excess (trimExcess width part)

/-- A text in lines of a width. -/
def wrap (width : Nat) (excess : Excess) (t : Styled) : List Styled :=
  (t.parts 1 ((piecesBy (· == '\n') t.chars).map List.length)).flatMap (wrapLine width excess)

/-! ## Drawing -/

/-- The beginning of a line in pieces that fits into a width. -/
def cropPieces (width : Nat) : List (List Char) → List Char
  | [] => []
  | p :: ps =>
    if columns p < width then p ++ cropPieces (width - columns p) ps
    else if columns p = width then p
    else crop width (clusters p)

/-- A line as it is drawn, cut to a width. -/
def drawn (width : Nat) (t : Styled) : List Char :=
  if t.drawnColumns ≤ width then t.chars else cropPieces width t.pieces

end TypeSketch.Screen
