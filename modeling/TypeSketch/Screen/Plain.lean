-- A plain screen: no terminal, so many columns wide, without colours. Marked-up texts are shown as
-- what stands between their marks.
import TypeSketch.Console
import TypeSketch.Screen.Markup
import TypeSketch.Screen.Table
import TypeSketch.Storage.Utf8

namespace TypeSketch.Screen

/-- The fault of a number in a style. -/
def numberFault (f : Colour.NumberFault) : ScreenFault := .value f.message

/-- A marked-up text with its styles. -/
def marked (text : String) : Except ScreenFault Styled :=
  (Markup.read text).mapError fun
    | .number f => numberFault f
    | e => .markup e.message

/-- What is seen of a marked-up text on a screen. -/
def plainLine (width : Nat) (text : String) : Except ScreenFault String := do
  let lines := wrap width .fold (← marked text)
  match Styled.fault? lines with
  | some f => throw (numberFault f)
  | none => return String.ofList (lines.flatMap fun line => drawn width line ++ ['\n'])

/-- The frame of a table. -/
def frame : TableStyle → Frame
  | .rounded => .rounded
  | .simple => .simple

/-- What is seen of a table of marked-up texts on a screen. -/
def plainTable (width : Nat) (style : TableStyle) (title : String) (header : List String)
    (rows : List (List String)) : Except ScreenFault String := do
  let t : Table := ⟨title.toList, ← header.mapM marked, ← rows.mapM fun row => row.mapM marked⟩
  (t.text width (frame style)).mapError numberFault

/-- A plain screen with so many columns. The standard output takes all texts but those that hold a
lone half of a surrogate pair. -/
def plain [Machine] (width : Nat) : Console where
  escape := Markup.escape
  line := plainLine width
  table := plainTable width
  highlight? := none
  refusal? text := (Utf8.encodeFault? text).map fun e => .encoding e.message

end TypeSketch.Screen
