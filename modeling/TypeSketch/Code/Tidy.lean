-- The last touch to generated code: no blanks at the end of a line, and never
-- more than two empty lines in a row.
import TypeSketch.Text.Blank
import TypeSketch.Text.Lines

namespace TypeSketch.Code

open Text

/-- The most empty lines that stay in a row. -/
def blankLimit : Nat := 2

/-- Lines without trailing blanks; of each row of empty lines no more than the limit stay, where
`blanks` counts those just kept. -/
def tidyLines (blanks : Nat) : List String → List String
  | [] => []
  | l :: r =>
    if trimEnd l = "" then
      if blanks < blankLimit then "" :: tidyLines (blanks + 1) r else tidyLines blanks r
    else trimEnd l :: tidyLines 0 r

/-- A text with its lines made tidy. -/
def tidy (code : String) : String := unlines (tidyLines 0 (lines code))

end TypeSketch.Code
