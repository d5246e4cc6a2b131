-- Marked-up texts: a name in brackets switches a style on, the name behind a
-- slash switches it off again. What is shown of such a text is what stands
-- between its tags, with pictures for emoji codes.
import TypeSketch.Screen.Emoji
import TypeSketch.Screen.Handler
import TypeSketch.Screen.Style
import TypeSketch.Screen.Styled

namespace TypeSketch.Markup

open Text

/-! ## Tokens -/

/-- Whether a tag may begin with a character. -/
def beginsTag (c : Char) : Bool := isLower c || c == '#' || c == '/' || c == '@'

/-- The inside of the tag that a text begins with, and the text behind it. A tag holds no
bracket. -/
def tag? : List Char → Option (List Char × List Char)
  | '[' :: c :: r =>
    if beginsTag c then
      match r.dropWhile fun d => d != '[' && d != ']' with
      | ']' :: rest => some (c :: r.takeWhile fun d => d != '[' && d != ']', rest)
      | _ => none
    else none
  | _ => none

/-- What a marked-up text is made of: characters, and tags with the backslashes in front of
them. -/
inductive Token where
  | char (c : Char)
  | tag (slashes : Nat) (body : List Char)

theorem length_of_tag? {s body rest : List Char} (h : tag? s = some (body, rest)) :
    rest.length < s.length := by
  unfold tag? at h
  split at h
  · next c r =>
    split at h
    · split at h
      · next rest' hd =>
        have hl := (r.dropWhile_suffix fun d => d != '[' && d != ']').length_le
        rw [hd] at hl
        simp only [Option.some.injEq, Prod.mk.injEq] at h
        obtain ⟨-, rfl⟩ := h
        simp only [List.length_cons] at hl ⊢
        omega
      · simp at h
    · simp at h
  · simp at h

/-- The number of backslashes that a text begins with. -/
def slashCount (s : List Char) : Nat := (s.takeWhile (· == '\\')).length

/-- The tokens of a marked-up text. -/
def tokens : List Char → List Token
  | [] => []
  | c :: r =>
    match _h : tag? ((c :: r).drop (slashCount (c :: r))) with
    | some (body, rest) => .tag (slashCount (c :: r)) body :: tokens rest
    | none => .char c :: tokens r
termination_by s => s.length
decreasing_by
  · have := length_of_tag? _h
    simp only [List.length_drop, List.length_cons] at this ⊢
    omega
  · simp

/-! ## Escaping -/

/-- A token as it stands in a text, and a tag with so many backslashes that it is no tag. -/
def Token.escaped : Token → List Char
  | char c => [c]
  | tag n body => List.replicate (2 * n + 1) '\\' ++ '[' :: body ++ [']']

/-- A text with its one backslash at the end doubled, so that it does not reach what follows. -/
def guardEnd (s : List Char) : List Char :=
  match s.reverse with
  | ['\\'] => s ++ ['\\']
  | '\\' :: c :: _ => if c = '\\' then s else s ++ ['\\']
  | _ => s

/-- A text that holds no tags any more. -/
def escape (s : String) : String :=
  String.ofList (guardEnd ((tokens s.toList).flatMap Token.escaped))

/-! ## Reading -/

/-- What is wrong with a marked-up text: a tag closes what is not open, a style has a number that
cannot be read, or a handler has arguments that cannot. -/
inductive Fault where
  | unmatched (tag : String)
  | number (fault : Colour.NumberFault)
  | badHandler (arguments : String)
  deriving DecidableEq, Repr

/-- The error in words. -/
def Fault.message : Fault → String
  | unmatched tag => s!"closing tag '[{tag}]' doesn't match any open tag"
  | number f => f.message
  | badHandler arguments => s!"error parsing '{arguments}'"

/-- A stretch of a marked-up text that is read on its own, or a tag that counts. -/
inductive Part where
  | run (chars : List Char)
  | tag (body : List Char)

/-- The parts of a text, where some characters have been read since the last tag, the last one
first. Two backslashes in front of a tag stand for one, and a single one makes it no tag. -/
def partsFrom (read : List Char) : List Token → List Part
  | [] => [.run read.reverse]
  | .char c :: r => partsFrom (c :: read) r
  | .tag n body :: r =>
    .run read.reverse :: .run (List.replicate (n / 2) '\\') ::
      (if n % 2 = 1 then .run ('[' :: body ++ [']']) else .tag body) :: partsFrom [] r

/-- Whether a screen passes over a character: bell, backspace, and the moves of a printer but the
line feed. -/
def isPassedOver (c : Char) : Bool :=
  c == '\x07' || c == '\x08' || c == '\x0b' || c == '\x0c' || c == '\r'

/-- What is shown of a run. A backslash guards a bracket even where no tag begins. -/
def shown (run : List Char) : List Char :=
  (Emoji.replaceCodes (replacePair '\\' '[' ['['] run)).filter fun c => !isPassedOver c

/-- The name under which a tag is remembered: a style in its one spelling, any other text in small
letters. -/
def styleName (s : List Char) : Except Fault String :=
  match Style.read s with
  | .ok st => .ok st.text
  | .error .unknown => .ok (toSmall (trim (String.ofList s)))
  | .error (.number f) => .error (.number f)

/-- A tag that has not been closed yet: the place where it opens, its name, and what stands behind
its equals sign. -/
structure OpenTag where
  start : Nat
  name : String
  parameters : Option (List Char)

namespace OpenTag

/-- The tag that opens at a place. -/
def read (place : Nat) (body : List Char) : Except Fault OpenTag := do
  let parameters := match body.dropWhile (· != '=') with
    | _ :: r => some r
    | [] => none
  return ⟨place, ← styleName (body.takeWhile (· != '=')), parameters⟩

/-- The number that cannot be read in the style that a tag makes with its parameters. -/
def fault? (t : OpenTag) : Option Colour.NumberFault := do
  match Style.read (t.name.toList ++ ' ' :: (← t.parameters)) with
  | .error (.number f) => some f
  | _ => none

/-- The stretch between a tag and a place. -/
def span (stop : Nat) (t : OpenTag) : Screen.Span := ⟨t.start, stop, t.fault?⟩

/-- The arguments of a handler that cannot be read. -/
def badArguments? (t : OpenTag) : Option String := do
  let arguments := trim (String.ofList (← t.parameters))
  if t.name.startsWith "@" && t.parameters != some [] && !Handler.isReadable arguments.toList then
    some arguments
  else none

/-- The stretch that a tag makes when it is closed at a place. -/
def close (stop : Nat) (t : OpenTag) : Except Fault Screen.Span :=
  match t.badArguments? with
  | some arguments => .error (.badHandler arguments)
  | none => .ok (t.span stop)

end OpenTag

/-- The tags that are open behind a tag, the last one first, and the stretch that it ends, if it
ends one. -/
def follow (place : Nat) (opened : List OpenTag) (body : List Char) :
    Except Fault (List OpenTag × Option Screen.Span) := do
  match body.takeWhile (· != '=') with
  | '/' :: name =>
    let closed ← if name.all isBlank then pure none else some <$> styleName name
    let isClosed := fun t : OpenTag => closed.all (· == t.name)
    match opened.find? isClosed with
    | some t => return (opened.eraseP isClosed, some (← t.close place))
    | none => throw (.unmatched (String.ofList body))
  | _ => return ((← OpenTag.read place body) :: opened, none)

/-- The characters that parts show from a place on, and the stretches that end there, in the order
of their ends. Tags that are not closed reach to the end of the text. -/
def readFrom (place : Nat) (opened : List OpenTag) :
    List Part → Except Fault (List Char × List Screen.Span)
  | [] => .ok ([], opened.map (OpenTag.span place))
  | .run run :: r => do
    let first := shown run
    let (chars, spans) ← readFrom (place + first.length) opened r
    return (first ++ chars, spans)
  | .tag body :: r => do
    let (opened, span?) ← follow place opened body
    let (chars, spans) ← readFrom place opened r
    return (chars, span?.toList ++ spans)

/-- A marked-up text with its styles, in the order of their beginnings. Of those that begin at one
place, the last one to end comes first. -/
def read (s : String) : Except Fault Screen.Styled := do
  let (chars, spans) ← readFrom 0 [] (partsFrom [] (tokens s.toList))
  return ⟨chars, Screen.Span.sorted spans.reverse⟩

end TypeSketch.Markup
