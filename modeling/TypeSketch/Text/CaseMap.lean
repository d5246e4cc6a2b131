-- The small and the capital form of a text, over all of Unicode. A letter may
-- become several characters, and a capital sigma at the end of a word takes the
-- small form that stands at the end of words.
import TypeSketch.Text.Ascii
import TypeSketch.Text.CaseRuns
import TypeSketch.Text.Cased

namespace TypeSketch.Text

/-- The image of a code point under the first run that holds it, else itself. -/
def alongRuns (runs : List CaseRun) (c : Char) : Char :=
  match runs.findSome? (·.image? c.toNat) with
  | some n => Char.ofNat n
  | none => c

/-- The small form of a character away from other letters. -/
def smallChar (c : Char) : List Char :=
  if c.toNat < 0x80 then [lowerChar c]
  else if c.toNat = 0x130 then ['i', Char.ofNat 0x307]
  else [alongRuns smallRuns c]

/-- The capital form of a character. -/
def capitalChar (c : Char) : List Char :=
  if c.toNat < 0x80 then [upperChar c]
  else match capitalSpellings.find? (·.1 == c.toNat) with
    | some (_, ns) => ns.map Char.ofNat
    | none => [alongRuns capitalRuns c]

/-- Whether the nearest letter of a list has a case. -/
def meetsCased (s : List Char) : Bool := (s.dropWhile isPassed).head?.any isCased

/-- The small form of a list of characters, where `before` holds the characters already passed,
the nearest first. -/
def smallChars (before : List Char) : List Char → List Char
  | [] => []
  | c :: r =>
    (if c = 'Σ' then [if meetsCased before && !meetsCased r then 'ς' else 'σ'] else smallChar c) ++
      smallChars (c :: before) r

/-- A text in small letters. -/
def toSmall (s : String) : String := String.ofList (smallChars [] s.toList)

/-- A text in capital letters. -/
def toCapital (s : String) : String := String.ofList (s.toList.flatMap capitalChar)

end TypeSketch.Text
