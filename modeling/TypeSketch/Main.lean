-- The program: it looks at the files that the arguments name, runs on what it
-- found, and then writes down what the run has left behind. Web addresses are
-- not reached from here, and code is not coloured.
import Std.Time
import TypeSketch.Command.Run
import TypeSketch.Screen.Plain

namespace TypeSketch.Program

/-- The number of the fault of reading a directory. -/
def directoryFault : UInt32 := 21

/-- A place as the system names it. -/
def placeName (here : Place) : String :=
  match here with
  | "/" :: r => "/" ++ "/".intercalate r
  | _ => "/".intercalate here

/-- What is at a place of the system. -/
def lookAt (here : Place) : IO (Option Node) := do
  try
    let bytes ← IO.FS.readBinFile (placeName here)
    return some (.file bytes.toList)
  catch
    | .inappropriateType _ code _ => return if code = directoryFault then some .directory else none
    | _ => return none

/-- What the system says if a file is there but may not be read. -/
def refusalAt (here : Place) : IO (Option (Nat × String)) := do
  try
    discard (IO.FS.readBinFile (placeName here))
    return none
  catch
    | .permissionDenied _ code details => return some (code.toNat, details)
    | _ => return none

/-- The part of the system's disk that lies along some paths. A file that may not be read is there
without its bytes. -/
def lookAlong (paths : List Path) : IO Disk := do
  let mut nodes : List (Place × Node) := []
  let mut refused : List (Path × Nat × String) := []
  for p in paths do
    for here in Disk.way p do
      if let some node ← lookAt here then
        nodes := (here, node) :: nodes
    if let some here := (Disk.way p).getLast? then
      if let some reason ← refusalAt here then
        nodes := (here, .file []) :: nodes
        refused := (p, reason) :: refused
  return { nodes, refusal? := fun a p => if a = .read then refused.lookup p else none }

/-- The time as it stands before the lines of a log file. -/
def timeStamp : IO String := do
  return (← Std.Time.DateTime.now).format "uuuu-MM-dd HH:mm:ss,SSS"

/-- The columns of a screen that tells of none. -/
def screenColumns : Nat := 80

/-- What surrounds a run with some arguments. -/
def environmentFor (a : Arguments) : IO Command.Environment := do
  return {
    console := Screen.plain screenColumns
    level? := ← IO.getEnv "JSON_TYPEGEN_LOG_LEVEL"
    stamp := ← timeStamp
    disk := ← lookAlong (Command.mentionedPaths a)
    reply := .noConnection "no network"
    input := ← if a.stdin then do (← IO.getStdin).readToEnd else pure "" }

/-- Writes down what a run has left behind and gives the exit code. -/
def finish (before : Disk) (o : Command.Outcome) : IO UInt32 := do
  (← IO.getStdout).putStr o.session.output
  (← IO.getStderr).putStr o.session.errors
  for (here, bytes) in o.session.disk.changedFrom before do
    IO.FS.writeBinFile (placeName here) ⟨bytes.toArray⟩
  match o.exit with
  | .ok code => return code.toUInt32
  | .error e =>
    IO.eprintln s!"{Command.programName}: {e.message}"
    return 1

/-- A run with the arguments of the command line. -/
def runOn (args : List String) : IO UInt32 := do
  let env ← match Arguments.read args with
    | .ok a => environmentFor a
    | .error _ => pure { console := Screen.plain screenColumns }
  finish env.disk (Command.run env args)

end TypeSketch.Program

/-- The program. -/
def main (args : List String) : IO UInt32 := TypeSketch.Program.runOn args
