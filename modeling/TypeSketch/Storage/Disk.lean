-- A disk: files and directories at their places. Looking at a path walks through
-- it name by name, so a file in the middle or a missing name is an error there.
-- What else the system may refuse, such as a path without permission, is a part
-- of the disk.
import TypeSketch.Storage.Path
import TypeSketch.Text.Quoted

namespace TypeSketch

/-- What is at a place of a disk. -/
inductive Node where
  | file (bytes : List UInt8)
  | directory
  deriving DecidableEq

/-- Why the system refuses a path. What does not follow from the files and directories has the
system's number and words. -/
inductive SystemFault where
  | missing
  | notDirectory
  | isDirectory
  | nameTooLong
  | nullByte
  | refused (number : Nat) (reason : String)
  deriving DecidableEq, Repr

namespace SystemFault

/-- The number and the words that the system gives; a path with a null byte does not reach it. -/
def words : SystemFault → String
  | missing => "[Errno 2] No such file or directory"
  | notDirectory => "[Errno 20] Not a directory"
  | isDirectory => "[Errno 21] Is a directory"
  | nameTooLong => "[Errno 36] File name too long"
  | nullByte => "embedded null byte"
  | refused number reason => s!"[Errno {number}] {reason}"

/-- The fault at a path, in words. -/
def message (f : SystemFault) (p : Path) : String :=
  match f with
  | nullByte => f.words
  | _ => f.words ++ ": " ++ Text.shown p.text

/-- The numbers of faults which mean that nothing is there: no entry, a bad descriptor, no
directory, and too many links. -/
def absenceNumbers : List Nat := [2, 9, 20, 40]

/-- Whether a fault only means that nothing is to be seen at a path. -/
def isAbsence : SystemFault → Bool
  | missing | notDirectory | isDirectory | nullByte => true
  | nameTooLong => false
  | refused number _ => absenceNumbers.contains number

end SystemFault

/-- What is done at a path. -/
inductive Access where
  | look
  | read
  | write
  deriving DecidableEq, Repr

/-- A place: the names on the way from the working directory, or from a root that is the first of
them. -/
abbrev Place := List String

/-- What is at each place, and what the system refuses besides, with the number and the words that
it gives. The working directory, the places above it and the roots are directories. -/
structure Disk where
  nodes : List (Place × Node) := []
  refusal? : Access → Path → Option (Nat × String) := fun _ _ => none

namespace Disk

/-- The place where a path begins. -/
def start (p : Path) : Place := if p.root = "" then [] else ["/"]

/-- The place above a place. -/
def above (here : Place) : Place :=
  match here.getLast? with
  | none => [".."]
  | some ".." => here ++ [".."]
  | some "/" => here
  | some _ => here.dropLast

/-- Whether a place is a directory without being listed. -/
def isGround (here : Place) : Bool := here.all (· == "..") || here == ["/"]

/-- The places on the way along a path, its end included. -/
def way (p : Path) : List Place :=
  (p.parts.foldl (fun (here, passed) n =>
    let next := if n = ".." then above here else here ++ [n]
    (next, next :: passed)) (start p, [])).2.reverse

/-- What is at a place. -/
def node? (d : Disk) (here : Place) : Option Node :=
  if isGround here then some .directory else d.nodes.lookup here

/-- The longest name in bytes. -/
def nameLimit : Nat := 255

/-- The place that a path leads to from a place: all but the last name have to be directories. -/
def walk (d : Disk) (here : Place) : List String → Except SystemFault Place
  | [] => .ok here
  | n :: r =>
    match d.node? here with
    | none => .error .missing
    | some (.file _) => .error .notDirectory
    | some .directory =>
      if nameLimit < n.utf8ByteSize then .error .nameTooLong
      else walk d (if n = ".." then above here else here ++ [n]) r

/-- The longest path in bytes. -/
def pathLimit : Nat := 4095

/-- The place of a path, unless the system refuses what is to be done there. -/
def locate (d : Disk) (a : Access) (p : Path) : Except SystemFault Place :=
  if p.parts.any fun n => n.toList.contains '\x00' then .error .nullByte
  else if pathLimit < p.text.utf8ByteSize then .error .nameTooLong
  else match d.refusal? a p with
    | some (number, reason) => .error (.refused number reason)
    | none => d.walk (start p) p.parts

/-- What a path leads to. -/
def find (d : Disk) (a : Access) (p : Path) : Except SystemFault Node := do
  match d.node? (← d.locate a p) with
  | some n => return n
  | none => throw .missing

/-- What a path leads to, where nothing is no fault. A name that the system cannot hold still is,
and so is a refusal. -/
def look (d : Disk) (p : Path) : Except SystemFault (Option Node) :=
  match d.find .look p with
  | .ok n => .ok (some n)
  | .error f => if f.isAbsence then .ok none else .error f

/-- The bytes of a file. -/
def read (d : Disk) (p : Path) : Except SystemFault (List UInt8) := do
  match ← d.find .read p with
  | .file bytes => return bytes
  | .directory => throw .isDirectory

/-- A disk with something put at a place. -/
def set (d : Disk) (here : Place) (n : Node) : Disk :=
  { d with nodes := d.nodes.filter (fun e => e.1 ≠ here) ++ [(here, n)] }

/-- The place where a file can be written: nothing may be there but a file, and it stands in a
directory. -/
def writable (d : Disk) (p : Path) : Except SystemFault Place := do
  let here ← d.locate .write p
  match d.node? here with
  | some .directory => throw .isDirectory
  | some (.file _) => return here
  | none =>
    match d.node? here.dropLast with
    | some .directory => return here
    | some (.file _) => throw .notDirectory
    | none => throw .missing

/-- A disk with a file written. -/
def write (d : Disk) (p : Path) (bytes : List UInt8) : Except SystemFault Disk := do
  return d.set (← d.writable p) (.file bytes)

/-- A disk with bytes added to a file, which is made if it is not there. -/
def append (d : Disk) (p : Path) (bytes : List UInt8) : Except SystemFault Disk := do
  let here ← d.writable p
  match d.node? here with
  | some (.file old) => return d.set here (.file (old ++ bytes))
  | _ => return d.set here (.file bytes)

/-- The files that are not on another disk as they are here. -/
def changedFrom (d before : Disk) : List (Place × List UInt8) :=
  d.nodes.filterMap fun e =>
    match e.2 with
    | .file bytes => if before.nodes.lookup e.1 = some e.2 then none else some (e.1, bytes)
    | .directory => none

end Disk

end TypeSketch
