-- A session: what a run of the program reads and leaves behind. Notes that reach
-- the least level are kept, and go to the log file too if there is one.
import TypeSketch.Code.Setup
import TypeSketch.Command.Switch
import TypeSketch.Console
import TypeSketch.Document.Load
import TypeSketch.Options.Override

namespace TypeSketch

open Text

/-! ## Logs -/

/-- Names that the log knows for something else than a level: the text of its format, and the
table of its styles. -/
inductive LevelFault where
  | formatText
  | styleTable
  deriving DecidableEq, Repr

/-- The error in words. -/
def LevelFault.message : LevelFault → String
  | formatText => "Unknown level: '%(levelname)s:%(name)s:%(message)s'"
  | styleTable => "Level not an integer or a valid string"

/-- The least level that a name sets, in small or capital letters. A name that is none sets the
level of warnings. -/
def Level.leastOf (name : String) : Except LevelFault Level :=
  match toCapital name with
  | "BASIC_FORMAT" => .error .formatText
  | "_STYLES" => .error .styleTable
  | "FATAL" => .ok .critical
  | capital => .ok ((Level.ofName? capital).getD .warning)

/-- Which notes are kept, and where they go. -/
structure Log where
  least : Level
  file : Option Path := none
  stamp : String := ""

/-- The line of a note in a log file. -/
def Log.line (l : Log) (n : Note) : String :=
  s!"{l.stamp} - {n.part.name} - {n.level.name} - {n.text}\n"

/-! ## Errors -/

/-- Why a run has no success. -/
inductive CommandError where
  | level (f : LevelFault)
  | log (path : Path) (f : SystemFault)
  | emptySwitch (s : Command.Switch)
  | noLanguage
  | registry (e : RegistryError)
  | override (e : OverrideError)
  | setup (e : SetupError)
  | load (e : LoadError)
  | unwritable (path : Path) (f : SystemFault)
  | unreachable (path : Path) (f : SystemFault)
  | exhausted (words : String)
  | encoding (e : Utf8.EncodeError)
  | screen (f : ScreenFault)

namespace CommandError

/-- The error in words. -/
def message : CommandError → String
  | level f => f.message
  | log p f => f.message p
  | emptySwitch s => s!"argument {s.name}: nothing given"
  | noLanguage => "--language is required (use --list-languages to see options)"
  | registry e => e.message
  | override e => e.message
  | setup e => e.message
  | load e => e.message
  | unwritable p f => s!"Failed to write to {p.text}: {f.message p}"
  | unreachable p f => f.message p
  | exhausted words => "Code generation failed: " ++ words
  | encoding e => e.message
  | screen f => f.message

/-- Whether the run tells the user about the error. Any other error breaks the run off. -/
def isTold : CommandError → Bool
  | noLanguage | registry _ | unwritable .. | exhausted _ => true
  | level _ | log .. | emptySwitch _ | unreachable .. | encoding _ | screen _ => false
  | override e => match e with
    | .badPair _ => true
    | .excess _ => false
  | setup e => match e with
    | .plainEmitter | .option (.unshown _) | .file (.undecodable _) | .file (.excess _)
    | .file (.unreachable ..) => false
    | _ => true
  | load e => match e with
    | .malformedUrl _ | .excess _ | .unreachable .. => false
    | _ => true

/-- What is shown of an error, with marks for the colours. -/
def marked (c : Console) : CommandError → String
  | exhausted words => "[red]✗ " ++ c.escape (exhausted words).message ++ "[/red]"
  | e => "[red]✗ Error:[/red] " ++ c.escape e.message

end CommandError

/-! ## Sessions -/

/-- What a run reads and leaves behind. -/
structure Session where
  log : Log
  disk : Disk
  reply : Reply
  input : String
  output : String := ""
  errors : String := ""
  journal : Journal := []

namespace Session

/-- A session after a note. -/
def keep (s : Session) (n : Note) : Session :=
  if n.level.reaches s.log.least then
    { s with
      journal := s.journal ++ [n]
      disk := match s.log.file with
        | none => s.disk
        | some p => (s.disk.append p (Utf8.encode (s.log.line n))).toOption.getD s.disk }
  else s

/-- A session after several notes. -/
def keepAll (s : Session) (ns : Journal) : Session := ns.foldl keep s

/-- What a document can come from in a session. -/
def surroundings (s : Session) : Surroundings :=
  ⟨fun ns => (s.keepAll ns).disk, s.reply, s.input⟩

end Session

/-- One act of a run. -/
abbrev Act := ExceptT CommandError (StateM Session)

namespace Act

/-- Makes a note. -/
def note (level : Level) (part : Part) (text : String) : Act Unit :=
  modify fun s => s.keep ⟨level, part, text⟩

/-- Does work that makes notes. -/
def perform {ε α : Type} (wrap : ε → CommandError) (w : Noted ε α) : Act α := do
  let (result, ns) := w.outcome
  modify fun s => s.keepAll ns
  match result with
  | .ok a => return a
  | .error e => throw (wrap e)

/-- Does work without notes. -/
def of {ε α : Type} (wrap : ε → CommandError) (r : Except ε α) : Act α :=
  match r with
  | .ok a => return a
  | .error e => throw (wrap e)

/-- Writes a text to the standard output. -/
def write (text : String) : Act Unit := modify fun s => { s with output := s.output ++ text }

/-- Writes a text to the error output. -/
def writeError (text : String) : Act Unit := modify fun s => { s with errors := s.errors ++ text }

/-- Shows a marked-up text on the error output. -/
def tell (c : Console) (marked : String) : Act Unit := do
  writeError (← of .screen (c.line marked))

end Act

end TypeSketch
