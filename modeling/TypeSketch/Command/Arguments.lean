-- The arguments of the command line. They are read from left to right: switches
-- with their values, one file, and whatever is left over. Only one of the three
-- sources of a document may be given.
import TypeSketch.Command.Switch
import TypeSketch.Journal
import TypeSketch.Text.CaseMap
import TypeSketch.Text.Quoted

namespace TypeSketch

open Text

/-- What a switch gets for its value: something given, or nothing where the divider stands in the
value's place. -/
inductive Operand (α : Type) where
  | given (a : α)
  | nothing
  deriving DecidableEq, Repr

/-- The text that a switch gives. A missing switch, an empty text and nothing give none. -/
def Operand.text? : Option (Operand String) → Option String
  | some (given s) => if s = "" then none else some s
  | _ => none

/-- The arguments of the command line. -/
structure Arguments where
  file : Option String := none
  url : Option (Operand String) := none
  stdin : Bool := false
  language : Option (Operand String) := none
  output : Option (Operand String) := none
  config : Option (Operand String) := none
  rootName : Option (Operand String) := none
  optional : Bool := false
  overrides : List (Operand String) := []
  listLanguages : Bool := false
  showDefaults : Bool := false
  verbose : Bool := false
  logLevel : Option (Operand Level) := none
  logFile : Option (Operand String) := none
  deriving DecidableEq, Repr

namespace Arguments

/-- What a switch gets, as a message shows it: nothing looks like an empty list. -/
def shownOperand {α : Type} (f : α → String) : Operand α → String
  | .given a => f a
  | .nothing => "[]"

/-- What may be missing, as a message shows it. -/
def shownOption {α : Type} (f : α → String) (a : Option α) : String := (a.map f).getD "None"

/-- The value of a switch that may be missing, as a message shows it. -/
def shownValue (v : Option (Operand String)) : String := shownOption (shownOperand shown) v

/-- A switch that is on or off, as a message shows it. -/
def shownFlag (b : Bool) : String := if b then "True" else "False"

/-- The arguments as a message shows them. -/
def describe (a : Arguments) : String :=
  "Namespace(" ++ listed
    ["file=" ++ shownOption shown a.file, "url=" ++ shownValue a.url,
      "stdin=" ++ shownFlag a.stdin, "language=" ++ shownValue a.language,
      "output=" ++ shownValue a.output, "config=" ++ shownValue a.config,
      "root_name=" ++ shownValue a.rootName, "optional=" ++ shownFlag a.optional,
      "overrides=[" ++ listed (a.overrides.map (shownOperand shown)) ++ "]",
      "list_languages=" ++ shownFlag a.listLanguages,
      "show_defaults=" ++ shownFlag a.showDefaults, "verbose=" ++ shownFlag a.verbose,
      "log_level=" ++ shownOption (shownOperand fun l => shown l.name) a.logLevel,
      "log_file=" ++ shownValue a.logFile] ++ ")"

end Arguments

namespace Command

/-! ## Errors -/

/-- The sources of a document, of which only one may be given. -/
inductive Source where
  | file
  | url
  | stdin
  deriving DecidableEq, Repr

/-- A source in messages. -/
def Source.name : Source → String
  | file => "file"
  | url => Switch.url.name
  | stdin => Switch.stdin.name

/-- Why arguments are no command. -/
inductive Misuse where
  | ambiguous (arg : String) (spellings : List String)
  | missingValue (s : Switch)
  | needlessValue (s : Switch) (value : String)
  | badLevel (name : String)
  | conflict (source earlier : Source)
  | unrecognized (args : List String)
  deriving DecidableEq, Repr

/-- The error in words. -/
def Misuse.message : Misuse → String
  | ambiguous arg spellings => s!"ambiguous option: {arg} could match {listed spellings}"
  | missingValue s => s!"argument {s.name}: expected one argument"
  | needlessValue s value => s!"argument {s.name}: ignored explicit argument {shown value}"
  | badLevel name =>
    s!"argument {Switch.logLevel.name}: invalid choice: {shown name} " ++
      s!"(choose from {listed (Level.all.map fun l => shown l.name)})"
  | conflict source earlier =>
    s!"argument {source.name}: not allowed with argument {earlier.name}"
  | unrecognized args => "unrecognized arguments: " ++ " ".intercalate args

/-- Why reading stops before there is a command: the user asks for help, or errs. -/
inductive Stop where
  | help
  | misuse (m : Misuse)
  deriving DecidableEq, Repr

/-! ## One step -/

/-- What has been read so far. -/
structure Reading where
  arguments : Arguments := {}
  sources : List Source := []
  isFileRead : Bool := false
  leftOver : List String := []

namespace Reading

/-- What has been read with one more source, unless another one is there already. -/
def claim (source : Source) (r : Reading) : Except Stop Reading :=
  let others := [Source.file, .url, .stdin].filter (· ≠ source)
  match others.find? (· ∈ r.sources) with
  | some earlier => .error (.misuse (.conflict source earlier))
  | none => .ok { r with sources := source :: r.sources }

/-- What has been read with an argument that nothing takes. -/
def leave (arg : String) (r : Reading) : Reading := { r with leftOver := r.leftOver ++ [arg] }

/-- What has been read with changed arguments. -/
def change (f : Arguments → Arguments) (r : Reading) : Reading :=
  { r with arguments := f r.arguments }

/-- What has been read with the file. -/
def takeFile (name : String) (r : Reading) : Except Stop Reading := do
  let claimed ← r.claim .file
  return { claimed.change (fun a => { a with file := some name }) with isFileRead := true }

/-- The level that a name in small or capital letters stands for. -/
def levelOf : Operand String → Except Stop (Operand Level)
  | .nothing => .ok .nothing
  | .given name =>
    match Level.ofName? (toCapital name) with
    | some l => .ok (.given l)
    | none => .error (.misuse (.badLevel (toCapital name)))

/-- What has been read with a switch and its value; a switch without one ignores it. -/
def take (s : Switch) (value : Operand String) (r : Reading) : Except Stop Reading :=
  match s with
  | .help => .error .help
  | .url => return (← r.claim .url).change fun a => { a with url := some value }
  | .stdin => return (← r.claim .stdin).change fun a => { a with stdin := true }
  | .language => return r.change fun a => { a with language := some value }
  | .output => return r.change fun a => { a with output := some value }
  | .config => return r.change fun a => { a with config := some value }
  | .rootName => return r.change fun a => { a with rootName := some value }
  | .optional => return r.change fun a => { a with optional := true }
  | .set => return r.change fun a => { a with overrides := a.overrides ++ [value] }
  | .listLanguages => return r.change fun a => { a with listLanguages := true }
  | .showDefaults => return r.change fun a => { a with showDefaults := true }
  | .verbose => return r.change fun a => { a with verbose := true }
  | .logLevel => do
    let l ← levelOf value
    return r.change fun a => { a with logLevel := some l }
  | .logFile => return r.change fun a => { a with logFile := some value }

/-- What has been read with several switches without values. -/
def takeAll (ss : List Switch) (r : Reading) : Except Stop Reading :=
  ss.foldlM (fun r s => r.take s .nothing) r

end Reading

/-! ## Letters in one argument -/

/-- How a row of letters ends: with a letter that needs no value, with one that takes its value
from the next argument, or with one that is followed by its value. -/
inductive RowEnd where
  | bare
  | wanting (s : Switch)
  | valued (s : Switch) (value : String)

/-- The switches without values in a row of letters, and how the row ends, where the text follows
the letter of a switch. All that follows a letter with a value is the value. -/
def letterRow (s : Switch) (text : List Char) : Except Misuse (List Switch × RowEnd) :=
  if s.takesValue then .ok ([], .valued s (String.ofList text))
  else match text with
    | [] => .error (.needlessValue s "")
    | c :: r =>
      match Switch.ofLetter? c with
      | none => .error (.needlessValue s (String.ofList (c :: r)))
      | some next =>
        if r.isEmpty then .ok (if next.takesValue then ([s], .wanting next) else ([s, next], .bare))
        else do
          let (ss, rowEnd) ← letterRow next r
          return (s :: ss, rowEnd)

/-! ## All arguments -/

/-- How arguments read one by one; behind the divider all are values. -/
def readWords : List String → Except Misuse (List Word)
  | [] => .ok []
  | arg :: rest =>
    if arg = "--" then .ok (.divider :: rest.map .value)
    else match Word.read arg with
      | .error spellings => .error (.ambiguous arg spellings)
      | .ok w => return w :: (← readWords rest)

/-- What a switch with a value in the same argument comes to: the switches without values, and
how it ends. -/
def attachedRow (s : Switch) (isLetter : Bool) (text : List Char) :
    Except Misuse (List Switch × RowEnd) :=
  if isLetter then letterRow s text
  else if s.takesValue then .ok ([], .valued s (String.ofList text))
  else .error (.needlessValue s (String.ofList text))

/-- What a switch comes to. -/
def switchRow (s : Switch) (isLetter : Bool) : Option (List Char) →
    Except Misuse (List Switch × RowEnd)
  | none => .ok (if s.takesValue then ([], .wanting s) else ([s], .bare))
  | some text => attachedRow s isLetter text

/-- What a switch gets from a text attached to it; the divider counts as nothing. -/
def operandOf (text : String) : Operand String := if text = "--" then .nothing else .given text

/-- The divider is passed over if it stands next to the file. -/
def skipDivider : List Word → List Word
  | .divider :: ws => ws
  | ws => ws

theorem length_skipDivider_le (ws : List Word) : (skipDivider ws).length ≤ ws.length := by
  unfold skipDivider
  split <;> simp

/-- The value that words begin with, and the words behind it. -/
def value? : List Word → Option (String × List Word)
  | .value v :: ws => some (v, ws)
  | _ => none

theorem length_of_value? {ws rest : List Word} {v : String} (h : value? ws = some (v, rest)) :
    rest.length < ws.length := by
  unfold value? at h
  split at h <;> simp_all

/-- Reads the words of a command line. -/
def readAll (r : Reading) : List Word → Except Stop Reading
  | [] => .ok r
  | .divider :: ws =>
    if r.isFileRead then readAll (r.leave "--") ws
    else match _h : value? ws with
      | some (v, rest) => do readAll (← r.takeFile v) rest
      | none => readAll r ws
  | .value v :: ws =>
    if r.isFileRead then readAll (r.leave v) ws
    else do readAll (← r.takeFile v) (skipDivider ws)
  | .unknown arg :: ws => readAll (r.leave arg) ws
  | .switch s isLetter attached :: ws => do
    let (bare, rowEnd) ← (switchRow s isLetter attached).mapError .misuse
    match rowEnd with
    | .bare => readAll (← r.takeAll bare) ws
    | .valued s v => readAll (← (← r.takeAll bare).take s (operandOf v)) ws
    | .wanting s =>
      match _h : value? ws with
      | some (v, rest) => readAll (← (← r.takeAll bare).take s (.given v)) rest
      | none => .error (.misuse (.missingValue s))
termination_by ws => ws.length
decreasing_by
  all_goals simp only [List.length_cons]
  all_goals first
    | omega
    | exact Nat.lt_succ_of_le (length_skipDivider_le ws)
    | exact Nat.lt_succ_of_lt (length_of_value? _h)

end Command

/-- The arguments that a command line gives. -/
def Arguments.read (args : List String) : Except Command.Stop Arguments := do
  let words ← (Command.readWords args).mapError .misuse
  let r ← Command.readAll {} words
  if r.leftOver.isEmpty then return r.arguments
  else throw (.misuse (.unrecognized r.leftOver))

end TypeSketch
