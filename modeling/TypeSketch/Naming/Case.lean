-- The five ways to write the words of a name as one text.
import TypeSketch.Naming.Words

namespace TypeSketch.Naming

open Text

/-- A way to join words. -/
inductive NameCase where
  | snake
  | camel
  | pascal
  | kebab
  | screamingSnake
  deriving DecidableEq, Repr

/-- A word in small letters. -/
def lowerWord (w : List Char) : List Char := w.map lowerChar

/-- A word in capital letters. -/
def upperWord (w : List Char) : List Char := w.map upperChar

/-- A word in small letters with a capital first one. -/
def capitalWord : List Char → List Char
  | [] => []
  | c :: r => upperChar c :: lowerWord r

/-- The first word in small letters, the others capitalised. -/
def camelWords : List (List Char) → List (List Char)
  | [] => []
  | w :: ws => lowerWord w :: ws.map capitalWord

namespace NameCase

/-- All cases. -/
def all : List NameCase := [.snake, .camel, .pascal, .kebab, .screamingSnake]

/-- The name by which a case is asked for. -/
def name : NameCase → String
  | snake => "snake"
  | camel => "camel"
  | pascal => "pascal"
  | kebab => "kebab"
  | screamingSnake => "screaming_snake"

/-- The case of a given name. -/
def ofName? (s : String) : Option NameCase := all.find? (·.name == s)

/-- The words of a name written together in this case. -/
def joinChars : NameCase → List (List Char) → List Char
  | snake, ws => ['_'].intercalate (ws.map lowerWord)
  | camel, ws => (camelWords ws).flatten
  | pascal, ws => (ws.map capitalWord).flatten
  | kebab, ws => ['-'].intercalate (ws.map lowerWord)
  | screamingSnake, ws => ['_'].intercalate (ws.map upperWord)

/-- A list of characters in this case. -/
def convertChars (k : NameCase) (s : List Char) : List Char := k.joinChars (wordChars s)

/-- A name in this case. -/
def convert (k : NameCase) (s : String) : String := String.ofList (k.convertChars s.toList)

end NameCase

end TypeSketch.Naming
