-- The letters and digits of ASCII, and their two cases. Names in the target
-- languages are built from these characters alone, so every other character
-- is left as it stands.

namespace TypeSketch.Text

/-- Whether a character is one of `a` to `z`. -/
def isLower (c : Char) : Bool := 'a' ≤ c && c ≤ 'z'

/-- Whether a character is one of `A` to `Z`. -/
def isUpper (c : Char) : Bool := 'A' ≤ c && c ≤ 'Z'

/-- Whether a character is one of `0` to `9`. -/
def isDigit (c : Char) : Bool := '0' ≤ c && c ≤ '9'

/-- Whether a character is a letter of ASCII. -/
def isLetter (c : Char) : Bool := isLower c || isUpper c

/-- Whether a character may stand inside an identifier. -/
def isWordChar (c : Char) : Bool := isLetter c || isDigit c || c == '_'

/-- The small form of a letter of ASCII. -/
def lowerChar (c : Char) : Char := if isUpper c then Char.ofNat (c.toNat + 32) else c

/-- The capital form of a letter of ASCII. -/
def upperChar (c : Char) : Char := if isLower c then Char.ofNat (c.toNat - 32) else c

end TypeSketch.Text
