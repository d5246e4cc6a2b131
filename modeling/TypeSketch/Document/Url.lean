-- Web addresses: the scheme, the host part and the path that the loading of a
-- document looks at.
import TypeSketch.Document.Host
import TypeSketch.Text.Quoted

namespace TypeSketch

open Text

/-- The parts of a web address. -/
structure Url where
  scheme : String
  host : String
  path : String
  deriving DecidableEq, Repr

/-- Why a text cannot be taken apart as a web address. -/
inductive UrlError where
  | unbalancedBrackets
  | badFuture
  | notAnAddress (host : String)
  | dottedInBrackets
  | hiddenDelimiter (host : String)
  deriving DecidableEq, Repr

/-- The error in words. -/
def UrlError.message : UrlError → String
  | unbalancedBrackets => "Invalid IPv6 URL"
  | badFuture => "IPvFuture address is invalid"
  | notAnAddress host => shown host ++ " does not appear to be an IPv4 or IPv6 address"
  | dottedInBrackets => "An IPv4 address cannot be in brackets"
  | hiddenDelimiter host =>
    s!"netloc '{host}' contains invalid characters under NFKC normalization"

namespace Url

/-- Code points whose compatible form holds one of the delimiters `/`, `?`, `#`, `@` and `:`. -/
def hiddenDelimiters : List Nat :=
  [0x2047, 0x2048, 0x2049, 0x2100, 0x2101, 0x2105, 0x2106, 0x2A74, 0xFE13, 0xFE16, 0xFE55, 0xFE56,
    0xFE5F, 0xFE6B, 0xFF03, 0xFF0F, 0xFF1A, 0xFF1F, 0xFF20]

/-- A text without controls and spaces at its start, and without tabs and line ends. -/
def cleaned (s : List Char) : List Char :=
  (s.dropWhile fun c => c.toNat ≤ 0x20).filter fun c => c != '\t' && c != '\r' && c != '\n'

/-- Whether a character may stand in a scheme. -/
def isSchemeChar (c : Char) : Bool :=
  isLetter c || isDigit c || c == '+' || c == '-' || c == '.'

/-- The scheme in small letters and what stands behind it; a text whose first colon does not end
a scheme has none. -/
def splitScheme (s : List Char) : List Char × List Char :=
  let before := s.takeWhile (· != ':')
  if before.length < s.length && before.head?.any isLetter && before.all isSchemeChar then
    (before.map lowerChar, s.drop (before.length + 1))
  else ([], s)

/-- Whether a character ends the host part. -/
def endsHost (c : Char) : Bool := c == '/' || c == '?' || c == '#'

/-- The host part behind two slashes, and the rest. -/
def splitHost : List Char → List Char × List Char
  | '/' :: '/' :: r => (r.takeWhile fun c => !endsHost c, r.dropWhile fun c => !endsHost c)
  | s => ([], s)

/-- What is wrong with the text between brackets, if anything is. -/
def bracketError (inside : List Char) : Option UrlError :=
  if inside.head? = some 'v' then if Host.isFuture inside then none else some .badFuture
  else if Host.isDotted inside then some .dottedInBrackets
  else if Host.isGrouped inside then none
  else some (.notAnAddress (String.ofList inside))

/-- The host part without the user in front of its last `@`. -/
def withoutUser (host : List Char) : List Char := (host.reverse.takeWhile (· != '@')).reverse

/-- What is wrong with the name in a host part that holds brackets, if anything is. A bracketed
name stands at the start, with nothing but a port behind it; any other name ends with the first
colon. -/
def nameError (host : List Char) : Option UrlError :=
  let name := withoutUser host
  let bracketed := name.dropWhile (· != '[')
  match bracketed with
  | [] => bracketError (name.takeWhile (· != ':'))
  | _ :: inside =>
    let port := (inside.dropWhile (· != ']')).drop 1
    if bracketed.length < name.length || port.head?.any (· != ':') then some .unbalancedBrackets
    else bracketError (inside.takeWhile (· != ']'))

/-- What is wrong with a host part, if anything is. -/
def hostError (host : List Char) : Option UrlError :=
  if host.contains '[' != host.contains ']' then some .unbalancedBrackets
  else match if host.contains '[' then nameError host else none with
    | some e => some e
    | none =>
      if host.any fun c => hiddenDelimiters.contains c.toNat then
        some (.hiddenDelimiter (String.ofList host))
      else none

/-- The path without the parameters of its last name. -/
def withoutParameters (path : List Char) : List Char :=
  let last := (path.reverse.takeWhile (· != '/')).reverse
  path.take (path.length - last.length) ++ last.takeWhile (· != ';')

/-- The parts of a web address. -/
def parse (s : String) : Except UrlError Url :=
  let (scheme, afterScheme) := splitScheme (cleaned s.toList)
  let (host, rest) := splitHost afterScheme
  match hostError host with
  | some e => .error e
  | none =>
    let path := (rest.takeWhile (· != '#')).takeWhile (· != '?')
    .ok ⟨String.ofList scheme, String.ofList host, String.ofList (withoutParameters path)⟩

/-- Whether an address is one that documents are fetched from. -/
def isWeb (u : Url) : Bool := (u.scheme == "http" || u.scheme == "https") && u.host != ""

end Url

end TypeSketch
