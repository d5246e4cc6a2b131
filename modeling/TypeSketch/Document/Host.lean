-- Numeric host addresses: four decimal numbers with points, or eight groups of
-- hexadecimal digits with colons, of which one row of zeros may be left out.
import TypeSketch.Text.Digits
import TypeSketch.Text.Lines

namespace TypeSketch.Host

open Text

/-- Whether a text is a number up to 255 without a leading zero. -/
def isOctet (s : List Char) : Bool :=
  !s.isEmpty && s.all isDigit && s.length ≤ 3 && (s == ['0'] || s.head? != some '0') &&
    digitsValue s ≤ 255

/-- Whether a text is an address of four numbers. -/
def isDotted (s : List Char) : Bool :=
  let octets := piecesBy (· == '.') s
  octets.length == 4 && octets.all isOctet

/-- Whether a text is a group of one to four hexadecimal digits. -/
def isGroup (s : List Char) : Bool := !s.isEmpty && s.length ≤ 4 && s.all isHexDigit

/-- The groups of an address, where an address of four numbers at its end counts as two. -/
def expandedGroups (groups : List (List Char)) : Option (List (List Char)) :=
  match groups.getLast? with
  | some last =>
    if '.' ∈ last then
      if isDotted last then some (groups.dropLast ++ [['0'], ['0']]) else none
    else some groups
  | none => none

/-- The groups on one side of a left-out row, where the row may reach the end of the address. -/
def sideGroups (side : List (List Char)) : List (List Char) := if side = [[]] then [] else side

/-- Whether groups are an address: eight of them, or fewer around one left-out row. -/
def areAddress (groups : List (List Char)) : Bool :=
  let inner := (groups.drop 1).dropLast
  match (inner.filter (·.isEmpty)).length with
  | 0 => groups.length == 8 && groups.all isGroup
  | 1 =>
    let gap := inner.findIdx (·.isEmpty) + 1
    let sides := sideGroups (groups.take gap) ++ sideGroups (groups.drop (gap + 1))
    sides.length ≤ 7 && sides.all isGroup
  | _ => false

/-- Whether a text is an address of groups, with a zone behind a percent sign at most. -/
def isGrouped (s : List Char) : Bool :=
  let zone := s.dropWhile (· != '%')
  let groups := piecesBy (· == ':') (s.takeWhile (· != '%'))
  (zone.isEmpty || (1 < zone.length && !(zone.drop 1).contains '%')) && 3 ≤ groups.length &&
    match expandedGroups groups with
    | some gs => gs.length ≤ 9 && areAddress gs
    | none => false

/-- Whether a text is an address of a later version: a `v`, its number, a point, and the rest. -/
def isFuture (s : List Char) : Bool :=
  match s with
  | 'v' :: r =>
    let digits := r.takeWhile isHexDigit
    let rest := r.dropWhile isHexDigit
    !digits.isEmpty && rest.head? == some '.' && 2 ≤ rest.length
  | _ => false

end TypeSketch.Host
