-- Literals read back. A text that was quoted is read as a JSON string, and the
-- reader stops behind the closing quote, whatever follows.
import TypeSketch.Json.Reader
import TypeSketch.Proofs.Text.Lines
import TypeSketch.Text.Quoted

namespace TypeSketch.Text

open Json

/-- The text of the literal at the front, and what stands behind it. The replacement character
stands for a lone half of a surrogate pair. -/
def literalAt : List Char → Option (String × List Char)
  | '"' :: r =>
    match readString (fun _ => '\uFFFD') 0 ⟨1, r⟩ with
    | .ok (s, after) => some (s, after.rest)
    | .error _ => none
  | _ => none

/-! ## Units -/

/-- A character is not half of a pair, so its number is its only unit. -/
theorem toNat_not_half (c : Char) : ¬ (0xD800 ≤ c.toNat ∧ c.toNat < 0xE000) := by
  have := c.valid
  simp only [UInt32.isValidChar, Nat.isValidChar] at this
  simp only [Char.toNat]
  omega

theorem joinUnits_toNat (half : Nat → Char) (s : List Char) :
    joinUnits half (s.map Char.toNat) = s := by
  induction s with
  | nil => rfl
  | cons c r ih =>
    have hc := toNat_not_half c
    cases r with
    | nil => simp only [List.map_cons, List.map_nil, joinUnits, if_neg hc, Char.ofNat_toNat]
    | cons d r =>
      simp only [List.map_cons] at ih ⊢
      rw [joinUnits, if_neg (by omega), if_neg hc, ih, Char.ofNat_toNat]

/-! ## Escapes -/

/-- The four digits of a control character are read as its number. -/
theorem hexUnit_control : ∀ n < 0x20, ∃ a ∈ hexDigits 4 n, ∃ b ∈ hexDigits 4 n,
    ∃ c ∈ hexDigits 4 n, ∃ d ∈ hexDigits 4 n,
      hexDigits 4 n = [a, b, c, d] ∧ hexUnit? a b c d = some n := by
  decide

/-- A character that is written as it stands is read as it stands. -/
theorem stringUnits_plain {c : Char} (hquote : c ≠ '"') (hback : c ≠ '\\')
    (hcontrol : ¬ c.toNat < 0x20) (start pos : Nat) (rest : List Char) :
    stringUnits start pos (c :: rest) =
      (stringUnits start (pos + 1) rest).map fun (ns, after) => (c.toNat :: ns, after) := by
  rw [stringUnits.eq_def]
  split <;> simp_all [Nat.not_lt.mpr]

/-- What stands for a character inside a literal is read as that character. -/
theorem stringUnits_literalChar (c : Char) (start pos : Nat) {rest : List Char} (h : rest ≠ []) :
    stringUnits start pos (literalChar c ++ rest) =
      (stringUnits start (pos + (literalChar c).length) rest).map
        fun (ns, after) => (c.toNat :: ns, after) := by
  obtain ⟨e, r, rfl⟩ := List.exists_cons_of_ne_nil h
  unfold literalChar
  split
  · subst_vars
    rfl
  split
  · subst_vars
    rfl
  split
  · subst_vars
    rfl
  split
  · subst_vars
    rfl
  split
  · subst_vars
    rfl
  split
  · subst_vars
    rfl
  split
  · subst_vars
    rfl
  split
  · rename_i hcontrol
    obtain ⟨x, _, y, _, z, _, w, _, hdigits, hunit⟩ := hexUnit_control c.toNat hcontrol
    rw [hdigits]
    simp only [List.cons_append, List.nil_append, stringUnits, hunit]
    rfl
  · rename_i hquote hback _ _ _ _ _ hcontrol
    exact stringUnits_plain hquote hback hcontrol start pos (e :: r)

/-- A literal is read up to its closing quote. -/
theorem stringUnits_literalBody (s rest : List Char) (start pos : Nat) :
    ∃ at?, stringUnits start pos (literalBody s ++ '"' :: rest) =
      .ok (s.map Char.toNat, ⟨at?, rest⟩) := by
  induction s generalizing pos with
  | nil => exact ⟨_, rfl⟩
  | cons c r ih =>
    obtain ⟨p, hp⟩ := ih (pos + (literalChar c).length)
    refine ⟨p, ?_⟩
    rw [literalBody, List.flatMap_cons, List.append_assoc,
      stringUnits_literalChar c start pos (by simp)]
    rw [literalBody] at hp
    rw [hp]
    rfl

theorem toList_quote (s : String) : (quote s).toList = '"' :: (literalBody s.toList ++ ['"']) := by
  simp [quote]

/-- A quoted text is read back, and the reading stops behind it. -/
theorem literalAt_quote (s : String) (rest : List Char) :
    literalAt ((quote s).toList ++ rest) = some (s, rest) := by
  obtain ⟨p, hp⟩ := stringUnits_literalBody s.toList rest 0 1
  rw [toList_quote]
  simp only [List.cons_append, List.append_assoc, List.nil_append, literalAt, readString, hp]
  simp [Except.map, joinUnits_toNat]

/-! ## Characters of a literal -/

/-- The characters that an escape is made of. -/
def escapeMarks : List Char :=
  ['"', '\\', 'n', 'r', 't', 'f', 'b', 'u', '0', '1', '2', '3', '4', '5', '6', '7', '8', '9', 'a',
    'c', 'd', 'e']

theorem mem_hexDigits_control : ∀ n < 0x20, ∀ d ∈ hexDigits 4 n, d ∈ escapeMarks := by
  decide

/-- A character is written as itself, or with the characters of an escape. -/
theorem literalChar_cases (c : Char) :
    literalChar c = [c] ∧ ¬ c.toNat < 0x20 ∨ ∀ d ∈ literalChar c, d ∈ escapeMarks := by
  unfold literalChar
  split
  · exact .inr (by decide)
  split
  · exact .inr (by decide)
  split
  · exact .inr (by decide)
  split
  · exact .inr (by decide)
  split
  · exact .inr (by decide)
  split
  · exact .inr (by decide)
  split
  · exact .inr (by decide)
  split
  · rename_i hcontrol
    refine .inr fun d hd => ?_
    rcases List.mem_cons.mp hd with rfl | hd
    · decide
    rcases List.mem_cons.mp hd with rfl | hd
    · decide
    · exact mem_hexDigits_control c.toNat hcontrol d hd
  · rename_i hcontrol
    exact .inl ⟨rfl, hcontrol⟩

theorem literalChar_ne_nil (c : Char) : literalChar c ≠ [] := by
  unfold literalChar
  grind

/-- A character that no escape is made of stands only for itself. -/
theorem eq_of_mem_literalChar {c d : Char} (hd : d ∉ escapeMarks) (h : d ∈ literalChar c) :
    d = c ∧ ¬ c.toNat < 0x20 := by
  rcases literalChar_cases c with ⟨hc, hcontrol⟩ | hc
  · rw [hc] at h
    exact ⟨List.mem_singleton.mp h, hcontrol⟩
  · exact absurd (hc d h) hd

theorem mem_of_mem_literalBody {s : List Char} {d : Char} (hd : d ∉ escapeMarks)
    (h : d ∈ literalBody s) : d ∈ s := by
  obtain ⟨c, hc, hmem⟩ := List.mem_flatMap.mp h
  exact (eq_of_mem_literalChar hd hmem).1 ▸ hc

/-- No control character stands in a literal. -/
theorem not_control_of_mem_literalBody {s : List Char} {c : Char} (h : c ∈ literalBody s) :
    ¬ c.toNat < 0x20 := by
  obtain ⟨d, _, hc⟩ := List.mem_flatMap.mp h
  rcases literalChar_cases d with ⟨hself, hcontrol⟩ | hmarks
  · rw [hself, List.mem_singleton] at hc
    rwa [hc]
  · have hall : ∀ m ∈ escapeMarks, ¬ m.toNat < 0x20 := by decide
    exact hall c (hmarks c hc)

theorem not_control_of_mem_quote {s : String} {c : Char} (h : c ∈ (quote s).toList) :
    ¬ c.toNat < 0x20 := by
  rw [toList_quote, List.mem_cons, List.mem_append, List.mem_singleton] at h
  rcases h with rfl | h | rfl
  · decide
  · exact not_control_of_mem_literalBody h
  · decide

/-- A quoted text stays on its line. -/
theorem oneLine_quote (s : String) : OneLine (quote s) :=
  fun h => not_control_of_mem_quote h (by decide)

end TypeSketch.Text
