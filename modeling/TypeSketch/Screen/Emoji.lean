-- Emoji codes: a name between two colons stands for a picture. A name that no
-- picture has stays as it is, with its colons.
import TypeSketch.Screen.Emoji.Flags
import TypeSketch.Screen.Emoji.Names
import TypeSketch.Screen.Emoji.Tones
import TypeSketch.Text.Blank
import TypeSketch.Text.CaseMap

namespace TypeSketch.Emoji

open Screen Text

/-! ## Names -/

/-- The picture that a name in small letters stands for. -/
def picture? (name : String) : Option String :=
  ((pictures.find? fun p => p.2.contains name).map (·.1)).or (flag? name)

/-- The picture that a name in small letters stands for, maybe in a skin tone. -/
def tonedPicture? (name : String) : Option (List Char) :=
  match tone? name with
  | some (base, tone) => (picture? base).map fun p => withTone tone p.toList
  | none => (picture? name).map String.toList

/-- How a name may end to ask for a picture as a sign in the text or as a picture, each with the
mark for it. -/
def looks : List (String × Char) := [("-text", '\ufe0e'), ("-emoji", pictureMark)]

/-- The characters that a code stands for. -/
def ofCode? (code : List Char) : Option (List Char) :=
  match looks.find? fun look => look.1.toList.isSuffixOf code with
  | some (ending, mark) =>
    (tonedPicture? (toSmall (String.ofList (code.take (code.length - ending.length))))).map
      (· ++ [mark])
  | none => tonedPicture? (toSmall (String.ofList code))

/-! ## Texts -/

/-- Whether a character may stand in a code. -/
def isCodeChar (c : Char) : Bool := c != ':' && !isBlank c

/-- The code that a text begins with, up to a colon, and the text behind the colon. -/
def code? (s : List Char) : Option (List Char × List Char) :=
  match s.dropWhile isCodeChar with
  | ':' :: rest => some (s.takeWhile isCodeChar, rest)
  | _ => none

theorem length_of_code? {s code rest : List Char} (h : code? s = some (code, rest)) :
    rest.length < s.length := by
  unfold code? at h
  split at h
  · next r hd =>
    have hl := (s.dropWhile_suffix isCodeChar).length_le
    rw [hd] at hl
    simp only [Option.some.injEq, Prod.mk.injEq] at h
    obtain ⟨-, rfl⟩ := h
    simpa [Nat.succ_le_iff] using hl
  · simp at h

/-- A text with pictures for its codes. -/
def replaceCodes : List Char → List Char
  | [] => []
  | c :: r =>
    if c = ':' then
      match _h : code? r with
      | some (code, rest) => (ofCode? code).getD (':' :: code ++ [':']) ++ replaceCodes rest
      | none => c :: replaceCodes r
    else c :: replaceCodes r
termination_by s => s.length
decreasing_by
  · have := length_of_code? _h
    simp only [List.length_cons]
    omega
  all_goals simp

end TypeSketch.Emoji
