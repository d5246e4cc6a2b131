-- Handlers: a tag that begins with `@` may name a handler and give it arguments.
-- Nothing is ever called here, but the arguments have to be literals: numbers,
-- texts, the three constants, and tuples, sets and tables of them.
import TypeSketch.Machine
import TypeSketch.Text.Alphanumeric
import TypeSketch.Text.Digits

namespace TypeSketch.Handler

open Text

/-! ## Tokens -/

/-- What literals are made of. -/
inductive Token where
  | real
  | imaginary
  | text
  | bytes
  | constant
  | emptySet
  | opening
  | closing
  | openingBrace
  | closingBrace
  | comma
  | colon
  | plus
  | minus
  deriving DecidableEq, Repr

/-- What a text begins with, and the text behind it. -/
abbrev Lexed := Option (Token × List Char)

/-- Whether a character may stand in a name. -/
def isWordLike (c : Char) : Bool := isAlphanumeric c || c == '_'

/-- The token, unless a name follows it at once. -/
def unlessWord (t : Token) (rest : List Char) : Lexed :=
  if rest.head?.any isWordLike then none else some (t, rest)

/-! ## Numbers -/

/-- Whether a run of digits has its underscores between digits only. -/
def isGrouped : List Char → Bool
  | [] => false
  | ['_'] => false
  | [_] => true
  | c :: d :: r => !(c == '_' && d == '_') && isGrouped (d :: r)

/-- The digits that a text begins with, in groups, and the text behind them. -/
def digitRun? (isOne : Char → Bool) (s : List Char) : Option (List Char × List Char) :=
  let run := s.takeWhile fun c => isOne c || c == '_'
  if run.head? ≠ some '_' && isGrouped run then some (run, s.drop run.length) else none

/-- The digits of a base that a letter behind a zero names. -/
def baseDigit? (letter : Char) : Option (Char → Bool) :=
  match lowerChar letter with
  | 'x' => some isHexDigit
  | 'o' => some fun c => '0' ≤ c && c ≤ '7'
  | 'b' => some fun c => c == '0' || c == '1'
  | _ => none

/-- The text behind the exponent that a text begins with, if it begins with one. -/
def afterExponent? (s : List Char) : Option (List Char) :=
  match s with
  | e :: r =>
    if lowerChar e = 'e' then
      (digitRun? isDigit (if r.head?.any fun c => c == '+' || c == '-' then r.drop 1 else r)).map
        (·.2)
    else some s
  | [] => some []

/-- Whether digits without a point and an exponent make a whole number. -/
def isWhole (digits : List Char) : Bool :=
  let plain := digits.filter (· != '_')
  (plain.head? != some '0' || plain.all (· == '0')) && plain.length ≤ Json.digitLimit

/-- A number that does not name its base. -/
def decimal? (s : List Char) : Lexed := do
  let (whole, afterWhole) ←
    if s.head?.any isDigit then digitRun? isDigit s else pure ([], s)
  let afterPoint ← match afterWhole with
    | '.' :: r => if r.head?.any isDigit then (digitRun? isDigit r).map (·.2) else pure r
    | r => pure r
  let rest ← afterExponent? afterPoint
  if rest.head?.any fun c => lowerChar c == 'j' then unlessWord .imaginary (rest.drop 1)
  else if rest.length < afterWhole.length || isWhole whole then unlessWord .real rest
  else none

/-- The number that a text begins with. -/
def number? (s : List Char) : Lexed :=
  match s with
  | '0' :: letter :: r =>
    match baseDigit? letter with
    | some isOne => do
      let (_, rest) ← digitRun? isOne (if r.head? = some '_' then r.drop 1 else r)
      unlessWord .real rest
    | none => decimal? s
  | _ => decimal? s

/-! ## Texts -/

/-- The inside of a quoted text and what stands behind its closing quotes, of which there is one
or three. A line ends only between three quotes. -/
def quoted? (quote : Char) (isTriple : Bool) : List Char → Option (List Char × List Char)
  | [] => none
  | '\\' :: c :: r => (quoted? quote isTriple r).map fun q => ('\\' :: c :: q.1, q.2)
  | c :: r =>
    if c = quote && !isTriple then some ([], r)
    else if c = quote && [quote, quote].isPrefixOf r then some ([], r.drop 2)
    else if c = '\n' && !isTriple then none
    else (quoted? quote isTriple r).map fun q => (c :: q.1, q.2)

/-- Whether a text begins with so many digits in base sixteen, whose value is a code point. -/
def hasCode (n : Nat) (s : List Char) : Bool :=
  let digits := s.take n
  digits.length = n && digits.all isHexDigit &&
    digits.foldl (fun value c => 16 * value + (hexDigit? c).getD 0) 0 ≤ 0x10FFFF

/-- Whether the escapes in a text are whole; only `\x` has digits among bytes. -/
def hasGoodEscapes (isBytes : Bool) : List Char → Bool
  | [] => true
  | '\\' :: c :: r =>
    (match c with
      | 'x' => hasCode 2 r
      | 'u' => isBytes || hasCode 4 r
      | 'U' => isBytes || hasCode 8 r
      | 'N' => isBytes || (r.head? = some '\x7b' && r.contains '\x7d')
      | _ => true) && hasGoodEscapes isBytes r
  | _ :: r => hasGoodEscapes isBytes r

/-- The letters that may stand in front of a quoted text. -/
def textMarks : List String := ["", "r", "u", "b", "br", "rb"]

/-- The quoted text that a text begins with, behind its marks. -/
def text? (s : List Char) : Lexed := do
  let mark := (s.takeWhile isLetter).map lowerChar
  if !textMarks.contains (String.ofList mark) then none
  let isBytes := mark.contains 'b'
  match s.drop mark.length with
  | quote :: r => do
    if quote ≠ '\'' && quote ≠ '"' then none
    let isTriple := [quote, quote].isPrefixOf r
    let (inside, rest) ← quoted? quote isTriple (if isTriple then r.drop 2 else r)
    if isBytes && inside.any (0x80 ≤ ·.toNat) then none
    else if mark.contains 'r' || hasGoodEscapes isBytes inside then
      some (if isBytes then .bytes else .text, rest)
    else none
  | [] => none

/-! ## All tokens -/

/-- The words that literals know. -/
def words : List (String × Token) :=
  [("None", .constant), ("True", .constant), ("False", .constant), ("set", .emptySet)]

/-- The word that a text begins with. -/
def word? (s : List Char) : Lexed :=
  let word := s.takeWhile isWordLike
  (words.lookup (String.ofList word)).map fun t => (t, s.drop word.length)

/-- The signs that literals are put together with. -/
def sign? : Char → Option Token
  | '(' => some .opening
  | ')' => some .closing
  | '\x7b' => some .openingBrace
  | '\x7d' => some .closingBrace
  | ',' => some .comma
  | ':' => some .colon
  | '+' => some .plus
  | '-' => some .minus
  | _ => none

/-- The token that a text begins with. -/
def token? (s : List Char) : Lexed :=
  match s with
  | [] => none
  | '.' :: '.' :: '.' :: r => some (.constant, r)
  | c :: r =>
    match sign? c with
    | some t => some (t, r)
    | none =>
      if isDigit c || (c == '.' && r.head?.any isDigit) then number? s
      else (text? s).or (word? s)

/-- The brackets that are open behind a token. -/
def depthAfter (depth : Nat) : Token → Nat
  | .opening | .openingBrace => depth + 1
  | .closing | .closingBrace => depth - 1
  | _ => depth

/-- The most brackets that may be open. -/
def depthLimit : Nat := 200

/-- The text behind the spacing that a text begins with: blanks, a comment, a line that goes on
behind a backslash, and inside of brackets the end of a line. -/
def afterSpacing? (depth : Nat) (s : List Char) : Option (List Char) :=
  match s with
  | '\\' :: '\n' :: r => some r
  | c :: r =>
    if c == ' ' || c == '\t' || c == '\x0c' || (c == '\n' && 0 < depth) then some r
    else if c == '#' then some (r.dropWhile (· != '\n'))
    else none
  | [] => none

/-- The tokens of a text that stands inside of so many brackets. -/
def tokens (depth : Nat) (s : List Char) : Option (List Token) :=
  if s.isEmpty then (if depth = 0 then some [] else none)
  else match afterSpacing? depth s, token? s with
    | some rest, _ => if _h : rest.length < s.length then tokens depth rest else none
    | none, some (t, rest) =>
      let next := depthAfter depth t
      if depthLimit < next || (next = depth && (t = .closing || t = .closingBrace)) then none
      else if _h : rest.length < s.length then (tokens next rest).map (t :: ·) else none
    | none, none => none
termination_by s.length

/-! ## Literals -/

/-- What a literal is, as far as it matters for what may stand around it: a sign goes only with
a number, and not every literal can be a key. -/
inductive Kind where
  | real (isSigned : Bool)
  | imaginary (isSigned : Bool)
  | other (isKey : Bool)

/-- Whether a literal may be the key of a table or stand in a set. -/
def Kind.isKey : Kind → Bool
  | other isKey => isKey
  | _ => true

/-- A literal that tokens begin with, and the tokens behind it. -/
abbrev Parsed := Option (Kind × List Token)

mutual

/-- A number in two parts, or a literal of any other kind. -/
def value : Nat → List Token → Parsed
  | 0, _ => none
  | fuel + 1, ts => do
    let (left, rest) ← signed fuel ts
    match left, rest with
    | .real _, .plus :: r | .real _, .minus :: r =>
      match ← operand fuel r with
      | (.imaginary false, rest) => some (.other true, rest)
      | _ => none
    | _, _ => some (left, rest)

/-- A literal that may have a sign. -/
def signed : Nat → List Token → Parsed
  | 0, _ => none
  | fuel + 1, ts =>
    match ts with
    | .plus :: r | .minus :: r => do
      match ← operand fuel r with
      | (.real false, rest) => some (.real true, rest)
      | (.imaginary false, rest) => some (.imaginary true, rest)
      | _ => none
    | _ => operand fuel ts

/-- A literal without a sign. -/
def operand : Nat → List Token → Parsed
  | 0, _ => none
  | fuel + 1, ts =>
    match ts with
    | .real :: r => some (.real false, r)
    | .imaginary :: r => some (.imaginary false, r)
    | .constant :: r => some (.other true, r)
    | .emptySet :: .opening :: .closing :: r => some (.other false, r)
    | .text :: r => some (.other true, r.dropWhile (· = .text))
    | .bytes :: r => some (.other true, r.dropWhile (· = .bytes))
    | .opening :: .closing :: r => some (.other true, r)
    | .opening :: r => do
      let (first, rest) ← value fuel r
      match rest with
      | .closing :: rest => some (first, rest)
      | _ => items fuel .closing first.isKey rest
    | .openingBrace :: .closingBrace :: r => some (.other false, r)
    | .openingBrace :: r => do
      let (first, rest) ← value fuel r
      if !first.isKey then none
      match rest with
      | .colon :: rest => do
        let (_, rest) ← value fuel rest
        entries fuel rest
      | _ => do
        let (all, rest) ← items fuel .closingBrace true rest
        if all.isKey then some (.other false, rest) else none
    | _ => none

/-- The rest of a tuple or a set, up to the bracket that closes it. -/
def items : Nat → Token → Bool → List Token → Parsed
  | 0, _, _, _ => none
  | fuel + 1, closer, isKey, ts =>
    match ts with
    | .comma :: r =>
      if r.head? = some closer then some (.other isKey, r.drop 1)
      else do
        let (next, rest) ← value fuel r
        items fuel closer (isKey && next.isKey) rest
    | t :: r => if t = closer then some (.other isKey, r) else none
    | [] => none

/-- The rest of a table behind one of its entries. -/
def entries : Nat → List Token → Parsed
  | 0, _ => none
  | fuel + 1, ts =>
    match ts with
    | .closingBrace :: r | .comma :: .closingBrace :: r => some (.other false, r)
    | .comma :: r => do
      let (key, rest) ← value fuel r
      match key.isKey, rest with
      | true, .colon :: rest => do
        let (_, rest) ← value fuel rest
        entries fuel rest
      | _, _ => none
    | _ => none

end

/-- Whether a text is a literal; a tuple needs no parentheses. A null character is refused even in
a comment. -/
def isLiteral (s : List Char) : Bool :=
  match tokens 0 (s.map fun c => if c = '\r' then '\n' else c) with
  | none | some [] => false
  | some ts =>
    match operand (4 * ts.length + 8) (.opening :: ts ++ [.closing]) with
    | some (_, []) => !s.contains '\x00'
    | _ => false

/-! ## Handlers -/

/-- Whether what stands behind the equals sign of a handler's tag can be read: a name, maybe with
points, and behind it maybe arguments in parentheses, or arguments alone. -/
def isReadable (s : List Char) : Bool :=
  match s.dropWhile fun c => isWordLike c || c == '.' with
  | [] => true
  | arguments =>
    if arguments.head? = some '(' && arguments.getLast? = some ')' && !arguments.contains '\n' then
      isLiteral arguments
    else isLiteral s

end TypeSketch.Handler
