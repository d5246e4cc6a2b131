-- Cutting a text at separators and putting pieces together again. A text has
-- one more piece than it has separators, so a cut loses nothing but them.

namespace TypeSketch.Text

/-- The pieces of a list between the elements that satisfy `p`; two separators side by
side have an empty piece between them. -/
def piecesBy {α : Type} (p : α → Bool) : List α → List (List α)
  | [] => [[]]
  | c :: r =>
    if p c then [] :: piecesBy p r
    else match piecesBy p r with
      | [] => [[c]]
      | w :: ws => (c :: w) :: ws

theorem piecesBy_ne_nil {α : Type} (p : α → Bool) (s : List α) : piecesBy p s ≠ [] := by
  cases s with
  | nil => simp [piecesBy]
  | cons c r =>
    unfold piecesBy
    split
    · simp
    · split <;> simp

/-- The lines of a text, cut at every line feed. -/
def lines (s : String) : List String :=
  (piecesBy (· == '\n') s.toList).map String.ofList

/-- A text from its lines. -/
def unlines (ls : List String) : String := "\n".intercalate ls

/-- Parts of a text with one empty line between neighbours. -/
def paragraphs (parts : List String) : String := "\n\n".intercalate parts

/-- The items of an enumeration, with a comma and a space between neighbours. -/
def listed (items : List String) : String := ", ".intercalate items

/-- Whether a list holds another one as a run of neighbours. -/
def holdsRun {α : Type} [BEq α] (run : List α) : List α → Bool
  | [] => run.isEmpty
  | c :: r => run.isPrefixOf (c :: r) || holdsRun run r

/-- Whether a text holds another one. -/
def holds (s part : String) : Bool := holdsRun part.toList s.toList

/-- A list with every pair of neighbours `a`, `b`, taken from the left and without overlap,
written as `new`. -/
def replacePair {α : Type} [DecidableEq α] (a b : α) (new : List α) : List α → List α
  | x :: y :: r =>
    if x = a ∧ y = b then new ++ replacePair a b new r else x :: replacePair a b new (y :: r)
  | s => s

/-- A list with every occurrence of `a` written as `new`. -/
def replaceOne {α : Type} [DecidableEq α] (a : α) (new : List α) (s : List α) : List α :=
  s.flatMap fun x => if x = a then new else [x]

end TypeSketch.Text
