-- Option entries from a file that holds a JSON object.
import TypeSketch.Journal
import TypeSketch.Json.Reader
import TypeSketch.Storage.Disk
import TypeSketch.Storage.Utf8
import TypeSketch.Text.CaseMap

namespace TypeSketch

/-- Why a file gives no option entries. -/
inductive OptionFileError where
  | missing (path : Path)
  | notJson (path : Path)
  | unreadable (path : Path) (fault : SystemFault)
  | badText (path : Path) (error : Json.ReadError)
  | notObject (path : Path)
  | undecodable (error : Utf8.DecodeError)
  | excess (e : Json.Excess)
  | unreachable (path : Path) (fault : SystemFault)

namespace OptionFileError

/-- The error in words. -/
def message : OptionFileError → String
  | missing p => s!"Configuration file not found: {p.text}"
  | notJson p => s!"Configuration file must be JSON: {p.text}"
  | unreadable p f => s!"Failed to load configuration file {p.text}: {f.message p}"
  | badText p e => s!"Invalid JSON in configuration file {p.text}: {e.message}"
  | notObject p => s!"Configuration file must contain a JSON object: {p.text}"
  | undecodable e => e.message
  | excess e => e.message
  | unreachable p f => f.message p

end OptionFileError

/-- Whether a path has the ending of a JSON file, in small or capital letters. -/
def Path.isJson (p : Path) : Bool := Text.toSmall p.suffix == ".json"

/-- The option entries in a file. -/
def readOptionFile [Machine] (d : Disk) (p : Path) :
    Except OptionFileError (List (String × Json)) :=
  match d.look p with
  | .error f => .error (.unreachable p f)
  | .ok none => .error (.missing p)
  | .ok (some _) =>
    if !p.isJson then .error (.notJson p)
    else match d.read p with
      | .error f => .error (.unreadable p f)
      | .ok bytes =>
        match Utf8.decodeLines bytes with
        | .error e => .error (.undecodable e)
        | .ok text =>
          match Json.read (Machine.limits .optionFile) text with
          | .error (.excess e) => .error (.excess e)
          | .error e => .error (.badText p e)
          | .ok v =>
            match v.entries? with
            | some es => .ok es
            | none => .error (.notObject p)

/-- The option entries in a file, with a note on it. -/
def loadOptionFile [Machine] (d : Disk) (p : Path) :
    Noted OptionFileError (List (String × Json)) := do
  let es ← Noted.ofExcept id (readOptionFile d p)
  Noted.note .debug .options s!"Loaded configuration file {p.text}"
  return es

end TypeSketch
