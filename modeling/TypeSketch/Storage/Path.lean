-- Paths in a file system: names with a slash between neighbours. A single dot
-- and empty names are left out, two dots stay where they are.
import TypeSketch.Text.Lines

namespace TypeSketch

/-- A path. The root is empty for a path that begins at the working directory. -/
structure Path where
  root : String
  parts : List String
  deriving DecidableEq, Repr

namespace Path

/-- The slashes that make a text an absolute path: exactly two of them stay two. -/
def rootOf (s : List Char) : String :=
  match (s.takeWhile (· == '/')).length with
  | 0 => ""
  | 2 => "//"
  | _ => "/"

/-- The path that a text names. -/
def ofString (s : String) : Path where
  root := rootOf s.toList
  parts := ((Text.piecesBy (· == '/') s.toList).map String.ofList).filter fun p =>
    p ≠ "" ∧ p ≠ "."

/-- A path as text; the working directory is a dot. -/
def text (p : Path) : String :=
  if p.root = "" ∧ p.parts.isEmpty then "." else p.root ++ "/".intercalate p.parts

/-- The last name of a path; the working directory and a root have none. -/
def name (p : Path) : String := p.parts.getLast?.getD ""

/-- The ending of a name, from its last dot on. A dot at either end of the name begins none. -/
def suffixOf (name : List Char) : List Char :=
  let ending := (name.reverse.takeWhile (· != '.')).reverse
  if ending.isEmpty ∨ name.length ≤ ending.length + 1 then [] else '.' :: ending

/-- The ending of a path's last name. -/
def suffix (p : Path) : String := String.ofList (suffixOf p.name.toList)

/-- A path followed by another one; an absolute one replaces it. -/
def join (p q : Path) : Path := if q.root = "" then ⟨p.root, p.parts ++ q.parts⟩ else q

/-- A path without two dots: each takes away the name before it. -/
def collapsed (p : Path) : Path where
  root := p.root
  parts := p.parts.foldl
    (fun ns n =>
      if n = ".." then
        match ns.getLast? with
        | none => if p.root = "" then [n] else []
        | some last => if last = ".." then ns ++ [n] else ns.dropLast
      else ns ++ [n]) []

end Path

end TypeSketch
