-- Tables on a screen: a title over the middle, a header, and rows, all inside a
-- frame. A column is as wide as its widest line, and a cell may have several. If
-- that is too much for the screen, the widest column gives way.
import TypeSketch.Screen.Wrap

namespace TypeSketch.Screen

open Text

/-! ## Frames -/

/-- A horizontal line: what stands at its ends, what it is made of, and what crosses it between
two columns. -/
structure Rule where
  left : Char
  fill : Char
  crossing : Char
  right : Char

/-- What stands around and between the cells of a table. -/
structure Frame where
  top : Rule
  row : Rule
  underHeader : Rule
  bottom : Rule

namespace Frame

/-- A line of blanks. -/
def blank : Rule := ⟨' ', ' ', ' ', ' '⟩

/-- The frame with a line under the header and nothing else. -/
def simple : Frame := ⟨blank, blank, ⟨' ', '─', '─', ' '⟩, blank⟩

/-- The frame with lines around all cells and round corners. -/
def rounded : Frame :=
  ⟨⟨'╭', '─', '┬', '╮'⟩, ⟨'│', ' ', '│', '│'⟩, ⟨'├', '─', '┼', '┤'⟩, ⟨'╰', '─', '┴', '╯'⟩⟩

end Frame

/-- A line from the texts of its columns. -/
def Rule.around (r : Rule) (cells : List (List Char)) : List Char :=
  r.left :: [r.crossing].intercalate cells ++ [r.right]

/-- A line that runs through columns of the given widths. -/
def Rule.through (r : Rule) (widths : List Nat) : List Char :=
  r.around (widths.map fun n => List.replicate n r.fill)

/-! ## Columns -/

/-- Whether a character ends a line where widths are measured. -/
def endsLine (c : Char) : Bool :=
  c == '\n' || (0x1C ≤ c.toNat && c.toNat ≤ 0x1E) || c.toNat == 0x85 || c.toNat == 0x2028 ||
    c.toNat == 0x2029

/-- The columns of the widest line of a cell. -/
def cellWidth (cell : Styled) : Nat := ((piecesBy endsLine cell.chars).map columns).foldl max 0

/-- A table; every row has as many cells as the header. -/
structure Table where
  title : List Char
  header : List Styled
  rows : List (List Styled)

namespace Table

/-- The widths that the columns need for their widest lines. -/
def neededWidths (t : Table) : List Nat :=
  t.rows.foldl (fun ws row => List.zipWith max ws (row.map cellWidth)) (t.header.map cellWidth)

/-- The columns of a table with the given widths: one for the left end of the frame, and for every
cell a blank on either side and the frame behind it. -/
def totalColumns (widths : List Nat) : Nat := widths.foldl (fun n width => n + width + 3) 1

/-- Widths with so many columns taken from the first of the widest. -/
def narrow (excess : Nat) (widths : List Nat) : List Nat :=
  let widest := widths.idxOf (widths.foldl max 0)
  widths.modify widest (· - excess)

/-- The widths of the columns on a screen. -/
def widths (t : Table) (screen : Nat) : List Nat :=
  narrow (totalColumns t.neededWidths - screen) t.neededWidths

/-! ## Writing -/

/-- A line with blanks behind it for the columns that it has less than a width. -/
def filled (width : Nat) (s : List Char) : List Char :=
  s ++ List.replicate (width - columns s) ' '

/-- A line with blanks behind it up to a width. A joiner at its end takes the first blank to
itself, so the line is measured again. -/
def padded (width : Nat) (s : List Char) : List Char := filled width (filled width s)

/-- A line in the middle of a width; of an odd number of blanks the larger part stands behind. -/
def centred (width : Nat) (s : List Char) : List Char :=
  padded width (List.replicate ((width - columns s) / 2) ' ' ++ s)

/-- The lines of a cell, with blanks behind them up to a width. -/
def cellLines (width : Nat) (cell : Styled) : List Styled :=
  (wrap width .cut cell).map fun t => { t with chars := filled width t.chars }

/-- A line of a cell as it is drawn: its pieces may need more or fewer columns than the line as a
whole. -/
def drawnLine (width : Nat) (t : Styled) : List Char :=
  drawn width t ++ List.replicate (width - t.drawnColumns) ' '

/-- The lines of one row, with a blank on either side of every cell. -/
def rowLines (f : Frame) (widths : List Nat) (row : List Styled) : List (List Char) :=
  let cells := List.zipWith cellLines widths row
  let height := (cells.map List.length).foldl max 1
  (List.range height).map fun i =>
    f.row.around <| List.zipWith
      (fun width cell => ' ' :: drawnLine width (cell.getD i ⟨[], []⟩) ++ [' ']) widths cells

/-- The lines of a table with columns of the given widths. -/
def lines (f : Frame) (widths : List Nat) (t : Table) : List (List Char) :=
  let spaced := widths.map (· + 2)
  let top := f.top.through spaced
  [centred (columns top) t.title, top] ++ rowLines f widths t.header ++
    [f.underHeader.through spaced] ++ t.rows.flatMap (rowLines f widths) ++
    [f.bottom.through spaced]

/-- The first number in the styles of a table that cannot be read. -/
def fault? (widths : List Nat) (t : Table) : Option Colour.NumberFault :=
  Styled.fault? <| (t.header :: t.rows).flatMap fun row =>
    (List.zipWith cellLines widths row).flatten

/-- A table as text on a screen. -/
def text (screen : Nat) (f : Frame) (t : Table) : Except Colour.NumberFault String :=
  match t.fault? (t.widths screen) with
  | some e => .error e
  | none =>
    .ok (String.ofList ((t.lines f (t.widths screen)).flatMap fun line => line ++ ['\n']))

end Table

end TypeSketch.Screen
