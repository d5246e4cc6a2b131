-- Characters that a screen shows as one: marks lie on the character before
-- them, the joiner draws the next character in, and a picture mark turns a
-- narrow character into its wide picture. A text is never cut inside of one.
import TypeSketch.Text.Width

namespace TypeSketch.Screen

open Text

/-- The character that makes one picture of the characters around it. -/
def joiner : Char := '\u200d'

/-- The character that asks for the picture of the one before it. -/
def pictureMark : Char := '\ufe0f'

/-- The columns that a picture mark adds to the last character that took any. -/
def pictureColumns (last : Option Char) : Nat := if last.any hasPicture then 1 else 0

/-! ## Columns -/

/-- The columns of a text behind the last character that took any. -/
def columnsAfter (last : Option Char) : List Char → Nat
  | [] => 0
  | c :: r =>
    if c = joiner then
      match r with
      | [] => 0
      | _ :: rest => columnsAfter last rest
    else if c = pictureMark then pictureColumns last + columnsAfter none r
    else if columnsOf c = 0 then columnsAfter last r
    else columnsOf c + columnsAfter (some c) r

/-- The columns of a text. -/
def columns (s : List Char) : Nat := columnsAfter none s

/-! ## Clusters -/

/-- Characters that stand together, and their columns. -/
structure Cluster where
  chars : List Char
  columns : Nat

/-- The clusters of a text that goes on from a cluster at work. -/
def Cluster.addAll (k : Cluster) (last : Option Char) : List Char → List Cluster
  | [] => [k]
  | c :: r =>
    if c = joiner then
      match r with
      | [] => [⟨k.chars ++ [c], k.columns⟩]
      | d :: rest => addAll ⟨k.chars ++ [c, d], k.columns⟩ last rest
    else if c = pictureMark then
      addAll ⟨k.chars ++ [c], k.columns + pictureColumns last⟩ none r
    else if columnsOf c = 0 then addAll ⟨k.chars ++ [c], k.columns⟩ last r
    else k :: addAll ⟨[c], columnsOf c⟩ (some c) r

/-- The clusters of a text. -/
def clusters : List Char → List Cluster
  | [] => []
  | c :: r => Cluster.addAll ⟨[c], columnsOf c⟩ (if columnsOf c = 0 then none else some c) r

end TypeSketch.Screen
