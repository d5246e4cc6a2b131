-- UTF-8, one byte at a time. The first byte of a character tells which bytes may
-- follow it; the decoder stops at the first byte that may not stand where it
-- does, and tells which bytes it could not use.
import TypeSketch.Machine
import TypeSketch.Text.Digits

namespace TypeSketch.Utf8

/-- What is wrong with some bytes. -/
inductive Fault where
  | invalidStart
  | invalidContinuation
  | unexpectedEnd
  deriving DecidableEq, Repr

/-- The fault in words. -/
def Fault.message : Fault → String
  | invalidStart => "invalid start byte"
  | invalidContinuation => "invalid continuation byte"
  | unexpectedEnd => "unexpected end of data"

/-- Bytes that are no character: their first one, where it stands, and how many they are. -/
structure DecodeError where
  fault : Fault
  lead : UInt8
  position : Nat
  count : Nat
  deriving DecidableEq, Repr

/-- A byte as two digits of base sixteen. -/
def byteText (b : UInt8) : String := "0x" ++ String.ofList (Text.hexDigits 2 b.toNat)

/-- The error in words. -/
def DecodeError.message (e : DecodeError) : String :=
  if e.count = 1 then
    s!"'utf-8' codec can't decode byte {byteText e.lead} in position {e.position}: " ++
      e.fault.message
  else
    s!"'utf-8' codec can't decode bytes in position {e.position}-{e.position + e.count - 1}: " ++
      e.fault.message

/-- The bits that a first byte gives to its character, and the ranges of the bytes after it. -/
def leadOf (b : Nat) : Option (Nat × List (Nat × Nat)) :=
  let tail := (0x80, 0xBF)
  if b < 0x80 then some (b, [])
  else if 0xC2 ≤ b ∧ b ≤ 0xDF then some (b - 0xC0, [tail])
  else if b = 0xE0 then some (0, [(0xA0, 0xBF), tail])
  else if b = 0xED then some (0xD, [(0x80, 0x9F), tail])
  else if 0xE1 ≤ b ∧ b ≤ 0xEF then some (b - 0xE0, [tail, tail])
  else if b = 0xF0 then some (0, [(0x90, 0xBF), tail, tail])
  else if 0xF1 ≤ b ∧ b ≤ 0xF3 then some (b - 0xF0, [tail, tail, tail])
  else if b = 0xF4 then some (4, [(0x80, 0x8F), tail, tail])
  else none

/-- A character that has begun. -/
structure Begun where
  lead : UInt8
  position : Nat
  count : Nat
  bits : Nat
  wanted : List (Nat × Nat)

/-- The characters of some bytes, where the first stands at `position` and a character may have
begun before it. -/
def decodeFrom (position : Nat) : Option Begun → List UInt8 → Except DecodeError (List Char)
  | none, [] => .ok []
  | some c, [] => .error ⟨.unexpectedEnd, c.lead, c.position, c.count⟩
  | none, b :: r =>
    match leadOf b.toNat with
    | none => .error ⟨.invalidStart, b, position, 1⟩
    | some (bits, []) => (decodeFrom (position + 1) none r).map (Char.ofNat bits :: ·)
    | some (bits, wanted) => decodeFrom (position + 1) (some ⟨b, position, 1, bits, wanted⟩) r
  | some c, b :: r =>
    match c.wanted with
    | [] => .error ⟨.invalidContinuation, c.lead, c.position, c.count⟩
    | (low, high) :: wanted =>
      if low ≤ b.toNat ∧ b.toNat ≤ high then
        let bits := c.bits * 64 + (b.toNat - 0x80)
        if wanted.isEmpty then (decodeFrom (position + 1) none r).map (Char.ofNat bits :: ·)
        else decodeFrom (position + 1) (some ⟨c.lead, c.position, c.count + 1, bits, wanted⟩) r
      else .error ⟨.invalidContinuation, c.lead, c.position, c.count⟩

/-- The text that some bytes encode. -/
def decode (bytes : List UInt8) : Except DecodeError String :=
  (decodeFrom 0 none bytes).map String.ofList

/-- The bytes of a text. -/
def encode (s : String) : List UInt8 := s.toUTF8.toList

/-- Lone halves of surrogate pairs, which have no bytes: the first one as a unit, where it stands,
and how many they are. -/
structure EncodeError where
  unit : Nat
  position : Nat
  count : Nat
  deriving DecidableEq, Repr

/-- The error in words. -/
def EncodeError.message (e : EncodeError) : String :=
  if e.count = 1 then
    "'utf-8' codec can't encode character '\\u" ++ String.ofList (Text.hexDigits 4 e.unit) ++
      s!"' in position {e.position}: surrogates not allowed"
  else
    s!"'utf-8' codec can't encode characters in position {e.position}-" ++
      s!"{e.position + e.count - 1}: surrogates not allowed"

/-- The lone halves in a text from the first one that may not stand there, if there is one. -/
def halves? [Machine] (mayNot : Char → Bool) (s : String) : Option EncodeError :=
  let before := s.toList.takeWhile fun c => !mayNot c
  let halves := (s.toList.drop before.length).takeWhile Machine.isHalf
  halves.head?.map fun c => ⟨0xD800 + (c.toNat - Machine.halves), before.length, halves.length⟩

/-- The first lone halves in a text, if there are any. -/
def encodeFault? [Machine] (s : String) : Option EncodeError := halves? Machine.isHalf s

/-- The bytes of a text, unless it holds a lone half. -/
def bytes [Machine] (s : String) : Except EncodeError (List UInt8) :=
  match encodeFault? s with
  | none => .ok (encode s)
  | some e => .error e

/-- A text as a path: the system takes it unless it holds a lone half that is no byte. -/
def asPath [Machine] (s : String) : Except EncodeError Unit :=
  match halves? (fun c => Machine.isHalf c && !Machine.isByte c) s with
  | none => .ok ⟨⟩
  | some e => .error e

/-- A text with every line end written as a line feed. -/
def plainBreaks : List Char → List Char
  | '\r' :: '\n' :: r => '\n' :: plainBreaks r
  | '\r' :: r => '\n' :: plainBreaks r
  | c :: r => c :: plainBreaks r
  | [] => []

/-- The text that some bytes encode, with every line end written as a line feed. -/
def decodeLines (bytes : List UInt8) : Except DecodeError String :=
  (decode bytes).map fun s => String.ofList (plainBreaks s.toList)

end TypeSketch.Utf8
