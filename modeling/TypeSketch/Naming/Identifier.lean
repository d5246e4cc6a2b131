-- Identifiers of the target languages: letters, digits and underscores of
-- ASCII, not beginning with a digit, and how the key of a document becomes one.
import TypeSketch.Naming.Case

namespace TypeSketch.Naming

open Text

/-- Whether a character may begin an identifier. -/
def isStartChar (c : Char) : Bool := isLetter c || c == '_'

/-- Whether a list of characters is headed by `first` and continued by `others`. One line
feed may close the text: a line's end is not part of the name on it. -/
def matchesName (first others : Char → Bool) : List Char → Bool
  | [] => false
  | c :: r => first c && (r.dropWhile others == [] || r.dropWhile others == ['\n'])

/-- Whether a name can be written as it stands where an identifier is wanted. -/
def isIdentifier (s : String) : Bool := matchesName isStartChar isWordChar s.toList

/-- The word characters of a name, with `lead` before a leading digit; `fallback` where
nothing is left. -/
def identifierChars (lead fallback : List Char) (s : List Char) : List Char :=
  match s.filter isWordChar with
  | [] => fallback
  | c :: r => if isDigit c then lead ++ c :: r else c :: r

/-- A name reduced to an identifier. -/
def toIdentifier (lead fallback : String) (s : String) : String :=
  String.ofList (identifierChars lead.toList fallback.toList s.toList)

/-- A key with a space in place of every character that no identifier holds, so that such a
character separates words. -/
def blankOut (s : List Char) : List Char := s.map fun c => if isWordChar c then c else ' '

/-- A key as an identifier in a given case. -/
def convertKey (k : NameCase) (lead fallback : String) (key : String) : String :=
  String.ofList
    (identifierChars lead.toList fallback.toList (k.convertChars (blankOut key.toList)))

end TypeSketch.Naming
