-- The screens of a run. How a marked-up text, a table or code is drawn is not the program's own
-- work: it hands over texts with marks in them, and gets back what is seen or why nothing is.

namespace TypeSketch

/-- Why something is not shown: the marks of a text are wrong, a value in them is, or the output has
no bytes for a text. -/
inductive ScreenFault where
  | markup (words : String)
  | value (words : String)
  | encoding (words : String)
  deriving DecidableEq, Repr

/-- The fault in words. -/
def ScreenFault.message : ScreenFault → String
  | markup words | value words | encoding words => words

/-- What stands around a table: lines around all cells, or one under the header alone. -/
inductive TableStyle where
  | rounded
  | simple
  deriving DecidableEq, Repr

/-- How things are shown: `escape` takes the marks from a text, `line` shows a marked-up text and
`table` a table of such texts with its title, its header and its rows. Where the standard output is
a terminal, `highlight?` shows code in the colours of a language; elsewhere texts are written as
they stand, unless `refusal?` has an objection. -/
structure Console where
  escape : String → String
  line : String → Except ScreenFault String
  table : TableStyle → String → List String → List (List String) → Except ScreenFault String
  highlight? : Option (String → String → Except ScreenFault String)
  refusal? : String → Option ScreenFault

namespace Console

/-- A text as it is written to a standard output that is no terminal. -/
def plain (c : Console) (text : String) : Except ScreenFault String :=
  match c.refusal? text with
  | none => .ok text
  | some f => .error f

/-- Code as it is printed: in colours on a terminal, and else as it stands with a line end. -/
def printed (c : Console) (lexer code : String) : Except ScreenFault String :=
  match c.highlight? with
  | some highlight => highlight lexer code
  | none => c.plain (code ++ "\n")

end Console

end TypeSketch
