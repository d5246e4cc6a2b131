-- The switches of the command line, and how one argument reads: as a value, as
-- the divider behind which all arguments are values, or as a switch. A switch
-- may be cut short as long as only one begins like it.
import TypeSketch.Text.Blank
import TypeSketch.Text.DecimalDigit
import TypeSketch.Text.Lines

namespace TypeSketch.Command

open Text

/-- The switches of the command line. -/
inductive Switch where
  | help
  | url
  | stdin
  | language
  | output
  | config
  | rootName
  | optional
  | set
  | listLanguages
  | showDefaults
  | verbose
  | logLevel
  | logFile
  deriving DecidableEq, Repr

namespace Switch

/-- All switches. -/
def all : List Switch :=
  [help, url, stdin, language, output, config, rootName, optional, set, listLanguages,
    showDefaults, verbose, logLevel, logFile]

/-- The spellings of a switch. -/
def spellings : Switch → List String
  | help => ["-h", "--help"]
  | url => ["--url"]
  | stdin => ["--stdin"]
  | language => ["--language", "-l"]
  | output => ["--output", "-o"]
  | config => ["--config"]
  | rootName => ["--root-name"]
  | optional => ["--optional"]
  | set => ["--set"]
  | listLanguages => ["--list-languages"]
  | showDefaults => ["--show-defaults"]
  | verbose => ["--verbose", "-v"]
  | logLevel => ["--log-level"]
  | logFile => ["--log-file"]

/-- Whether a switch comes with a value. -/
def takesValue : Switch → Bool
  | url | language | output | config | rootName | set | logLevel | logFile => true
  | help | stdin | optional | listLanguages | showDefaults | verbose => false

/-- A switch in messages. -/
def name (s : Switch) : String := "/".intercalate s.spellings

/-- Every spelling with its switch. -/
def spelled : List (String × Switch) := all.flatMap fun s => s.spellings.map fun w => (w, s)

/-- The switch of a spelling. -/
def ofSpelling? (w : String) : Option Switch := spelled.lookup w

/-- The switch that a single letter stands for. -/
def ofLetter? (c : Char) : Option Switch := ofSpelling? (String.ofList ['-', c])

end Switch

/-! ## Reading one argument -/

/-- How one argument reads; a switch may have more attached to it in the same argument. -/
inductive Word where
  | value (s : String)
  | divider
  | switch (s : Switch) (isLetter : Bool) (attached : Option (List Char))
  | unknown (s : String)

namespace Word

/-- Whether a text that begins with a minus sign is a negative number. A line feed may follow
it. -/
def isNegativeNumber (s : List Char) : Bool :=
  let number := dropTrailing (· == '\n') (s.drop 1)
  let whole := number.takeWhile isDecimalDigit
  s.length ≤ number.length + 2 && match number.drop whole.length with
    | [] => !whole.isEmpty
    | '.' :: fraction => !fraction.isEmpty && fraction.all isDecimalDigit
    | _ => false

/-- The part of an argument in front of its first equals sign, and the part behind it. -/
def atEquals (s : List Char) : List Char × Option (List Char) :=
  (s.takeWhile (· != '='), (s.dropWhile (· != '=')).tail?)

/-- The spellings that an argument may stand for, in the order in which the switches come: a long
one may be cut short, a letter may have more behind it. -/
def candidates (s : List Char) : List (String × Word) :=
  match s with
  | '-' :: '-' :: _ =>
    let (front, back) := atEquals s
    (Switch.spelled.filter fun e => front.isPrefixOf e.1.toList).map fun e =>
      (e.1, .switch e.2 false back)
  | _ =>
    (Switch.spelled.filter fun e => e.1.toList == s.take 2).map fun e =>
      (e.1, .switch e.2 true (some (s.drop 2)))

/-- How an argument reads that is neither empty nor spelled out. -/
def guess (s : List Char) : Except (List String) Word :=
  match candidates s with
  | [] =>
    if isNegativeNumber s || ' ' ∈ s then .ok (.value (String.ofList s))
    else .ok (.unknown (String.ofList s))
  | [(_, w)] => .ok w
  | several => .error (several.map (·.1))

/-- Whether a spelling is a letter behind one minus sign. -/
def isLetterSpelling (s : List Char) : Bool := s.length == 2 && s.getLast? != some '-'

/-- How an argument reads; an error tells the spellings between which it cannot choose. -/
def read (arg : String) : Except (List String) Word :=
  let s := arg.toList
  let (front, back) := atEquals s
  if s.head? ≠ some '-' then .ok (.value arg)
  else match Switch.ofSpelling? arg, back, Switch.ofSpelling? (String.ofList front) with
    | some found, _, _ => .ok (.switch found (isLetterSpelling s) none)
    | none, some text, some found =>
      .ok (.switch found (isLetterSpelling front) (some text))
    | none, _, _ => if s = ['-'] then .ok (.value arg) else guess s

end Word

end TypeSketch.Command
