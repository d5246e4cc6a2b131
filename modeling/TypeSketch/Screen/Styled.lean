-- Styled texts: some stretches of a text have a style. The style itself is not
-- seen on a plain screen, but a text is drawn in the pieces that its styles
-- make, and every piece is measured on its own.
import TypeSketch.Screen.Cluster
import TypeSketch.Screen.Colour

namespace TypeSketch.Screen

/-- A stretch of a text that has a style, and the number in the style that cannot be read, if
there is one. -/
structure Span where
  start : Nat
  stop : Nat
  fault : Option Colour.NumberFault := none

/-- A text with its styled stretches. -/
structure Styled where
  chars : List Char
  spans : List Span := []

/-! ## Spans -/

namespace Span

/-- A stretch as it lies in a text that so many characters stand in front of. -/
def moved (n : Nat) (s : Span) : Span := { s with start := s.start + n, stop := s.stop + n }

/-- What a part of a text has of a stretch, unless that is nothing. -/
def within? (first behind : Nat) (s : Span) : Option Span :=
  let start := max s.start first
  let stop := min s.stop behind
  if start < stop then some { s with start := start - first, stop := stop - first } else none

/-- The stretches that begin in a text of a length, up to its end. -/
def clipped (length : Nat) (ss : List Span) : List Span :=
  (ss.filter fun s => s.start < length).map fun s => { s with stop := min s.stop length }

/-- Stretches in the order of their beginnings with one more, which comes before those that begin at
the same place. -/
def insert (s : Span) : List Span → List Span
  | [] => [s]
  | t :: ts => if s.start ≤ t.start then s :: t :: ts else t :: insert s ts

/-- Stretches in the order of their beginnings; those that begin at one place stay as they are. -/
def sorted (ss : List Span) : List Span := ss.foldr insert []

end Span

namespace Styled

/-! ## Cutting and joining -/

/-- The part of a text from a place up to another one. -/
def slice (first behind : Nat) (t : Styled) : Styled :=
  ⟨(t.chars.take behind).drop first, t.spans.filterMap (Span.within? first behind)⟩

/-- The parts of the given lengths, where so many characters stand between two of them. -/
def slices (gap : Nat) (t : Styled) (first : Nat) : List Nat → List Styled
  | [] => []
  | n :: ns => t.slice first (first + n) :: slices gap t (first + n + gap) ns

/-- A text in parts of the given lengths. A text that stays whole keeps its empty stretches. -/
def parts (gap : Nat) (t : Styled) : List Nat → List Styled
  | [_] => [t]
  | lengths => t.slices gap 0 lengths

/-- Two texts, one behind the other. -/
def append (t u : Styled) : Styled :=
  ⟨t.chars ++ u.chars, t.spans ++ u.spans.map (Span.moved t.chars.length)⟩

/-- A text with other characters; if they are fewer, its stretches end with them. -/
def withChars (chars : List Char) (t : Styled) : Styled :=
  ⟨chars, if chars.length < t.chars.length then Span.clipped chars.length t.spans else t.spans⟩

/-- A text with some more blanks, which have the style of its last character. -/
def widened (n : Nat) (t : Styled) : Styled where
  chars := t.chars ++ List.replicate n ' '
  spans := t.spans.map fun s => if t.chars.length ≤ s.stop then { s with stop := s.stop + n } else s

/-! ## Pieces -/

/-- Characters in pieces that begin at some of the places, counted from a place on. -/
def piecesAt (cuts : List Nat) (place : Nat) : List Char → List (List Char)
  | [] => []
  | c :: r =>
    match piecesAt cuts (place + 1) r with
    | [] => [[c]]
    | p :: ps => if place + 1 ∈ cuts then [c] :: p :: ps else (c :: p) :: ps

/-- The pieces in which a text is drawn: a new one begins wherever a stretch starts or stops. -/
def pieces (t : Styled) : List (List Char) :=
  piecesAt (t.spans.flatMap fun s => [s.start, s.stop]) 0 t.chars

/-- The columns of a text as it is drawn. -/
def drawnColumns (t : Styled) : Nat := (t.pieces.map columns).foldl (· + ·) 0

/-- The first number in the styles of some texts that cannot be read. -/
def fault? (ts : List Styled) : Option Colour.NumberFault :=
  ts.findSome? fun t => t.spans.findSome? (·.fault)

end Styled

end TypeSketch.Screen
