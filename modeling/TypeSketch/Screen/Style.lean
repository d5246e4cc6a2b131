-- Styles in words: attributes that are switched on or off, a colour, one for
-- the ground, and a link. However a style is put, it has one spelling.
import TypeSketch.Screen.Colour
import TypeSketch.Text.Blank
import TypeSketch.Text.CaseMap

namespace TypeSketch

open Text

/-- A style. Of several settings of one attribute the first counts. -/
structure Style where
  attributes : List (String × Bool) := []
  colour : Option String := none
  ground : Option String := none
  link : Option String := none

/-- Why words are no style: one of them means nothing, or it has a number that cannot be read. -/
inductive StyleFault where
  | unknown
  | number (fault : Colour.NumberFault)

namespace Style

/-- The attributes of a style, each with its short name if it has one. -/
def attributeNames : List (String × String) :=
  [("bold", "b"), ("dim", "d"), ("italic", "i"), ("underline", "u"), ("blink", ""),
    ("blink2", ""), ("reverse", "r"), ("conceal", "c"), ("strike", "s"), ("underline2", "uu"),
    ("frame", ""), ("encircle", ""), ("overline", "o")]

/-- The attribute that a word names. -/
def attribute? (word : String) : Option String :=
  if word = "" then none
  else (attributeNames.find? fun a => word == a.1 || word == a.2).map (·.1)

/-- The colour that a word names, in small letters. -/
def colourOf (word : String) : Except StyleFault String := do
  if ← (Colour.isColour (toSmall word)).mapError .number then return toSmall word
  else throw .unknown

/-- A style with what some words add to it. -/
def add (st : Style) : List String → Except StyleFault Style
  | [] => .ok st
  | w :: ws =>
    match toSmall w, ws with
    | "on", c :: r => do add { st with ground := some (← colourOf c) } r
    | "not", a :: r =>
      match attribute? a with
      | some name => add { st with attributes := (name, false) :: st.attributes } r
      | none => .error .unknown
    | "link", l :: r => add { st with link := some l } r
    | word, r =>
      match attribute? word with
      | some name => add { st with attributes := (name, true) :: st.attributes } r
      | none => do add { st with colour := some (← colourOf word) } r

/-- The words of a text. -/
def wordsOf (s : List Char) : List String :=
  ((piecesBy isBlank s).filter fun w => !w.isEmpty).map String.ofList

/-- The style that a text puts into words. -/
def read (s : List Char) : Except StyleFault Style := add {} (wordsOf s)

/-- An attribute that is switched on or off. -/
def attributeText (name : String) (isOn : Bool) : String := if isOn then name else "not " ++ name

/-- The one spelling of a style. -/
def text (st : Style) : String :=
  " ".intercalate <|
    (attributeNames.filterMap fun a => (st.attributes.lookup a.1).map (attributeText a.1)) ++
      st.colour.toList ++ st.ground.toList.map ("on " ++ ·) ++ st.link.toList.map ("link " ++ ·)

end Style

end TypeSketch
