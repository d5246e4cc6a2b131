-- The texts that conventions make of keys, as grammars. Where a convention puts a word
-- before a leading digit, its identifiers are the names of all lists of small words whose
-- first begins with a letter: in Pascal case a capital with letters and digits behind it,
-- in snake case a small letter with small letters, digits and single underscores behind it.
import TypeSketch.Proofs.Naming.Convention
import TypeSketch.Proofs.Naming.Letters

namespace TypeSketch.Naming

open Text

/-! ## Identifiers of a convention with a lead -/

/-- Small words that can stand at the beginning of a name: the first begins with a letter. -/
structure Begun (ws : List (List Char)) : Prop where
  ne_nil : ws ≠ []
  small : ∀ w ∈ ws, SmallWord w
  letter : ws.head?.any digitFirst = false

theorem Begun.marked_eq {ws : List (List Char)} (h : Begun ws) (s : List Char) :
    marked ws s = s := by
  unfold marked
  rw [h.letter, if_neg Bool.false_ne_true]

/-- The words of a name that is made of small words. -/
theorem smallWords_ofList {ws : List (List Char)} (h : ∀ w ∈ ws, SmallWord w) :
    smallWords (String.ofList (NameCase.snake.joinChars ws)) = ws := by
  have hlower : ws.map lowerWord = ws := map_lowerWord_of_small h
  have hblank : blankOut (NameCase.snake.joinChars ws) = NameCase.snake.joinChars ws := by
    unfold blankOut
    rw [List.map_congr_left (g := id), List.map_id]
    intro c hc
    rw [if_pos (joinChars_word (.inl rfl) h c hc), id]
  have hwords : wordChars (NameCase.snake.joinChars ws) = ws := by
    rw [NameCase.joinChars, hlower]
    exact wordChars_joined (by rfl) fun w hw => (h w hw).oneWord
  rw [smallWords, String.toList_ofList, hblank, hwords, hlower]

/-- With a word before a leading digit and one for a key without any, the identifiers of a
convention are the names of all lists of words that can begin a name. -/
theorem Convention.Governs.range_iff {c : Convention} {k : NameCase} {lead fallback : String}
    (h : c.Governs k lead fallback) (hlead : c.lead.isSome = true)
    (hspare : c.spare.any (!digitFirst ·.toList) = true) (s : List Char) :
    (∃ key, (convertKey k lead fallback key).toList = s) ↔ ∃ ws, Begun ws ∧ s = k.joinChars ws := by
  obtain ⟨spare, hspare, hletter⟩ := (Option.any_eq_true _ _).mp hspare
  obtain ⟨word, hword⟩ := Option.isSome_iff_exists.mp hlead
  have hne (ws : List (List Char)) : c.filled ws ≠ [] := by
    unfold filled
    split
    · simp [hspare]
    · split <;> simp_all
  have hbegun (key : String) : Begun (c.filled (smallWords key)) := by
    refine ⟨hne _, h.small_told key, ?_⟩
    unfold filled
    split
    · simpa [hspare] using hletter
    · split
      · simpa [hword] using (h.leadWord word hword).2
      · simp_all
  have hidentifier (key : String) :
      (convertKey k lead fallback key).toList = k.joinChars (c.filled (smallWords key)) := by
    rw [h.identifier_eq (hne _), h.joinChars_parted (h.small_told key), (hbegun key).marked_eq]
  constructor
  · rintro ⟨key, rfl⟩
    exact ⟨_, hbegun key, hidentifier key⟩
  · rintro ⟨ws, hws, rfl⟩
    refine ⟨String.ofList (NameCase.snake.joinChars ws), ?_⟩
    have hfilled : c.filled ws = ws := by
      unfold filled
      rw [if_neg hws.ne_nil, hws.letter, if_neg Bool.false_ne_true]
    rw [hidentifier, smallWords_ofList hws.small, hfilled]

theorem Begun.exists_letter {ws : List (List Char)} (h : Begun ws) :
    ∃ c w r, ws = (c :: w) :: r ∧ isLower c = true := by
  obtain ⟨w, r, rfl⟩ := List.exists_cons_of_ne_nil h.ne_nil
  have hw := h.small w List.mem_cons_self
  obtain ⟨c, w, rfl⟩ := List.exists_cons_of_ne_nil hw.ne_nil
  have hsmall := hw.small c List.mem_cons_self
  have hletter : isDigit c = false := h.letter
  refine ⟨c, w, r, rfl, ?_⟩
  simpa [isSmall, hletter] using hsmall

/-- A small letter can begin a name. -/
theorem begun_cons {c : Char} (hc : isLower c = true) {w : List Char} {r : List (List Char)}
    (h : ∀ v ∈ (c :: w) :: r, SmallWord v) : Begun ((c :: w) :: r) where
  ne_nil := List.cons_ne_nil _ r
  small := h
  letter := (isUpper_upperChar_of_isLower hc).2

/-! ## Pascal case -/

/-- Capitalised words together are letters and digits. -/
theorem letters_pascal {ws : List (List Char)} (h : ∀ w ∈ ws, SmallWord w) :
    ∀ c ∈ NameCase.pascal.joinChars ws, isLetterOrDigit c = true := by
  intro c hc
  obtain ⟨v, hv, hc⟩ := List.mem_flatten.mp hc
  obtain ⟨w, hw, rfl⟩ := List.mem_map.mp hv
  have hword := h w hw
  obtain ⟨a, w, rfl⟩ := List.exists_cons_of_ne_nil hword.ne_nil
  rw [capitalWord_cons hword] at hc
  rcases List.mem_cons.mp hc with rfl | hc
  · exact of_isSmall (P := fun a => isLetterOrDigit (upperChar a) = true) (by decide)
      (hword.small a List.mem_cons_self)
  · exact of_isSmall (P := fun c => isLetterOrDigit c = true) (by decide)
      (hword.small c (List.mem_cons_of_mem a hc))

/-- A capital with small letters and digits behind it is a capitalised word. -/
theorem capitalWord_lowerChar {a : Char} (ha : isUpper a = true) {w : List Char}
    (hw : ∀ c ∈ w, isSmall c = true) : isLower (lowerChar a) = true ∧
      SmallWord (lowerChar a :: w) ∧ capitalWord (lowerChar a :: w) = a :: w := by
  have hlower : isLower (lowerChar a) = true ∧ upperChar (lowerChar a) = a :=
    of_isUpper (P := fun a => isLower (lowerChar a) = true ∧ upperChar (lowerChar a) = a)
      (by decide) ha
  have hsmall : isSmall (lowerChar a) = true := by simp [isSmall, hlower.1]
  have hword : SmallWord (lowerChar a :: w) :=
    ⟨List.cons_ne_nil _ w, List.forall_mem_cons.mpr ⟨hsmall, hw⟩⟩
  exact ⟨hlower.1, hword, by rw [capitalWord_cons hword, hlower.2]⟩

/-- Letters and digits are the end of a word and words behind it, each of which begins where a
capital stands. -/
theorem exists_words_pascal {s : List Char} (h : ∀ c ∈ s, isLetterOrDigit c = true) :
    ∃ w r, (∀ c ∈ w, isSmall c = true) ∧ (∀ v ∈ r, SmallWord v) ∧
      s = w ++ NameCase.pascal.joinChars r := by
  induction s with
  | nil => exact ⟨[], [], by simp, by simp, rfl⟩
  | cons a s ih =>
    rw [List.forall_mem_cons] at h
    obtain ⟨w, r, hw, hr, rfl⟩ := ih h.2
    by_cases ha : isUpper a = true
    · obtain ⟨-, hword, hcapital⟩ := capitalWord_lowerChar ha hw
      refine ⟨[], (lowerChar a :: w) :: r, by simp, List.forall_mem_cons.mpr ⟨hword, hr⟩, ?_⟩
      rw [joinChars_pascal_cons, hcapital]
      rfl
    · have hsmall : isSmall a = true := by simpa [isLetterOrDigit, isLetter, isSmall, ha] using h.1
      exact ⟨a :: w, r, List.forall_mem_cons.mpr ⟨hsmall, hw⟩, hr, rfl⟩

/-- The names in Pascal case are the texts of a capital with letters and digits behind it. -/
theorem begun_pascal_iff (s : List Char) :
    (∃ ws, Begun ws ∧ s = NameCase.pascal.joinChars ws) ↔ Headed isUpper isLetterOrDigit s := by
  constructor
  · rintro ⟨_, hws, rfl⟩
    obtain ⟨c, w, r, rfl, hc⟩ := hws.exists_letter
    have hletters := letters_pascal hws.small
    rw [joinChars_pascal_cons, capitalWord_cons (hws.small _ List.mem_cons_self),
      List.cons_append] at hletters ⊢
    rw [headed_cons]
    exact ⟨(isUpper_upperChar_of_isLower hc).1,
      fun d hd => hletters d (List.mem_cons_of_mem _ hd)⟩
  · rintro ⟨a, s, rfl, ha, hs⟩
    obtain ⟨w, r, hw, hr, rfl⟩ := exists_words_pascal hs
    obtain ⟨hletter, hword, hcapital⟩ := capitalWord_lowerChar ha hw
    refine ⟨_, begun_cons hletter (List.forall_mem_cons.mpr ⟨hword, hr⟩), ?_⟩
    rw [joinChars_pascal_cons, hcapital, List.cons_append]

/-! ## Snake case -/

/-- Small letters and digits, with single underscores between some of them. -/
inductive Parted : List Char → Prop where
  | single {c : Char} : isSmall c = true → Parted [c]
  | cons {c : Char} {s : List Char} : isSmall c = true → Parted s → Parted (c :: s)
  | gap {c : Char} {s : List Char} : isSmall c = true → Parted s → Parted (c :: '_' :: s)

theorem Parted.exists_cons {s : List Char} (h : Parted s) :
    ∃ c r, s = c :: r ∧ isSmall c = true := by
  cases h with
  | single hc | cons hc | gap hc => exact ⟨_, _, rfl, hc⟩

/-- Behind a word such a text ends, or goes on with an underscore. -/
theorem SmallWord.parted_append {w t : List Char} (hw : SmallWord w)
    (ht : t = [] ∨ ∃ s, t = '_' :: s ∧ Parted s) : Parted (w ++ t) := by
  obtain ⟨hne, hsmall⟩ := hw
  induction w with
  | nil => cases hne rfl
  | cons c w ih =>
    rw [List.forall_mem_cons] at hsmall
    by_cases hw : w = []
    · subst hw
      rcases ht with rfl | ⟨s, rfl, hs⟩
      · exact .single hsmall.1
      · exact .gap hsmall.1 hs
    · exact .cons hsmall.1 (ih hw hsmall.2)

theorem joinChars_snake_small {w : List Char} (hw : SmallWord w) (r : List (List Char)) :
    NameCase.snake.joinChars (w :: r) =
      w ++ if r = [] then [] else '_' :: NameCase.snake.joinChars r := by
  rw [joinChars_snake_cons, lowerWord_of_small hw.small]

/-- Small words with underscores between them make such a text, and every such text is made of
them. -/
theorem parted_iff_words (s : List Char) :
    Parted s ↔ ∃ ws, ws ≠ [] ∧ (∀ w ∈ ws, SmallWord w) ∧ s = NameCase.snake.joinChars ws := by
  have hletter {c : Char} (hc : isSmall c = true) : SmallWord [c] := by
    refine ⟨List.cons_ne_nil c [], fun d hd => ?_⟩
    rwa [List.mem_singleton.mp hd]
  constructor
  · intro h
    induction h with
    | single hc =>
      refine ⟨[[_]], List.cons_ne_nil _ _, by simpa using hletter hc, ?_⟩
      rw [joinChars_snake_small (hletter hc)]
      rfl
    | @cons c s hc h ih =>
      obtain ⟨ws, hne, hws, rfl⟩ := ih
      obtain ⟨w, r, rfl⟩ := List.exists_cons_of_ne_nil hne
      rw [List.forall_mem_cons] at hws
      have hword : SmallWord (c :: w) := (hletter hc).append hws.1
      refine ⟨(c :: w) :: r, List.cons_ne_nil _ _, List.forall_mem_cons.mpr ⟨hword, hws.2⟩, ?_⟩
      rw [joinChars_snake_small hws.1, joinChars_snake_small hword, List.cons_append]
    | @gap c s hc h ih =>
      obtain ⟨ws, hne, hws, rfl⟩ := ih
      refine ⟨[c] :: ws, List.cons_ne_nil _ _, List.forall_mem_cons.mpr ⟨hletter hc, hws⟩, ?_⟩
      rw [joinChars_snake_small (hletter hc), if_neg hne]
      rfl
  · rintro ⟨ws, hne, hws, rfl⟩
    induction ws with
    | nil => cases hne rfl
    | cons w r ih =>
      rw [List.forall_mem_cons] at hws
      rw [joinChars_snake_small hws.1]
      apply hws.1.parted_append
      split
      · exact .inl rfl
      · rename_i hr
        exact .inr ⟨_, rfl, ih hr hws.2⟩

/-- Whether a character is a small letter, a digit or an underscore. -/
def isSnakeChar (c : Char) : Bool := isSmall c || c == '_'

/-- No two underscores stand in a row. -/
def SingleGaps (s : List Char) : Prop := s.IsChain fun a b => ¬ (a = '_' ∧ b = '_')

theorem singleGaps_cons {c : Char} {s : List Char} :
    SingleGaps (c :: s) ↔ (c = '_' → s.head? ≠ some '_') ∧ SingleGaps s := by
  unfold SingleGaps
  rw [List.isChain_cons]
  refine and_congr_left' ⟨fun h hc hs => h '_' hs ⟨hc, rfl⟩, ?_⟩
  rintro h d hd ⟨hc, rfl⟩
  exact h hc hd

theorem Parted.apart {s : List Char} (h : Parted s) :
    (∀ c ∈ s, isSnakeChar c = true) ∧ SingleGaps s := by
  have hsnake {c : Char} (hc : isSmall c = true) : isSnakeChar c = true := by
    simp [isSnakeChar, hc]
  have hne {c : Char} (hc : isSmall c = true) : c ≠ '_' := (ne_underscore_of_isSmall hc).1
  induction h with
  | single hc => exact ⟨by simpa using hsnake hc, List.isChain_singleton _⟩
  | cons hc h ih =>
    obtain ⟨hchars, hsingle⟩ := ih
    constructor
    · exact List.forall_mem_cons.mpr ⟨hsnake hc, hchars⟩
    · exact singleGaps_cons.mpr ⟨fun h => absurd h (hne hc), hsingle⟩
  | gap hc h ih =>
    obtain ⟨hchars, hsingle⟩ := ih
    obtain ⟨d, r, rfl, hd⟩ := h.exists_cons
    have hgap : SingleGaps ('_' :: d :: r) := by
      refine singleGaps_cons.mpr ⟨fun _ h => hne hd ?_, hsingle⟩
      exact Option.some.inj h
    constructor
    · exact List.forall_mem_cons.mpr ⟨hsnake hc, List.forall_mem_cons.mpr ⟨by decide, hchars⟩⟩
    · exact singleGaps_cons.mpr ⟨fun h => absurd h (hne hc), hgap⟩

/-- What has no two underscores in a row and none at its end may still begin with one. -/
theorem parted_of_apart {s : List Char} (hchars : ∀ c ∈ s, isSnakeChar c = true)
    (hsingle : SingleGaps s) (hlast : s.getLast? ≠ some '_') :
    s = [] ∨ Parted s ∨ ∃ r, s = '_' :: r ∧ Parted r := by
  induction s with
  | nil => exact .inl rfl
  | cons c s ih =>
    rw [List.forall_mem_cons] at hchars
    rw [singleGaps_cons] at hsingle
    have hbehind : s.getLast? ≠ some '_' := by
      cases s with
      | nil => simp
      | cons d r => rwa [List.getLast?_cons_cons] at hlast
    have hrest := ih hchars.2 hsingle.2 hbehind
    by_cases hc : c = '_'
    · subst hc
      rcases hrest with rfl | hs | ⟨r, rfl, -⟩
      · exact absurd rfl hlast
      · exact .inr (.inr ⟨s, rfl, hs⟩)
      · exact absurd rfl (hsingle.1 rfl)
    · have hsmall : isSmall c = true := by simpa [isSnakeChar, hc] using hchars.1
      rcases hrest with rfl | hs | ⟨r, rfl, hr⟩
      · exact .inr (.inl (.single hsmall))
      · exact .inr (.inl (.cons hsmall hs))
      · exact .inr (.inl (.gap hsmall hr))

/-- A small letter with small letters, digits and single underscores behind it. -/
structure Underscored (s : List Char) : Prop where
  headed : Headed isLower isSnakeChar s
  single : SingleGaps s

theorem underscored_concat (s : List Char) :
    Underscored (s ++ ['_']) ↔ Underscored s ∧ s.getLast? ≠ some '_' := by
  have hsingle : SingleGaps (s ++ ['_']) ↔ SingleGaps s ∧ s.getLast? ≠ some '_' := by
    unfold SingleGaps
    rw [List.isChain_append]
    refine and_congr_right' ⟨fun h hs => h.2 '_' hs '_' rfl ⟨rfl, rfl⟩, ?_⟩
    intro h
    refine ⟨List.isChain_singleton _, ?_⟩
    rintro c hc _ - ⟨rfl, -⟩
    exact h hc
  constructor
  · rintro ⟨⟨c, r, hcr, hc, hr⟩, h⟩
    obtain ⟨h, hlast⟩ := hsingle.mp h
    cases s with
    | nil =>
      cases hcr
      cases hc
    | cons d s =>
      cases hcr
      exact ⟨⟨headed_cons.mpr ⟨hc, fun e he => hr e (List.mem_append_left _ he)⟩, h⟩, hlast⟩
  · rintro ⟨⟨⟨c, r, rfl, hc, hr⟩, h⟩, hlast⟩
    refine ⟨⟨c, r ++ ['_'], rfl, hc, ?_⟩, hsingle.mpr ⟨h, hlast⟩⟩
    exact List.forall_mem_append.mpr ⟨hr, by decide⟩

/-- The names in snake case are those of such texts that do not end in an underscore. -/
theorem begun_snake_iff (s : List Char) :
    (∃ ws, Begun ws ∧ s = NameCase.snake.joinChars ws) ↔
      Underscored s ∧ s.getLast? ≠ some '_' := by
  constructor
  · rintro ⟨_, hws, rfl⟩
    have hparted := (parted_iff_words _).mpr ⟨_, hws.ne_nil, hws.small, rfl⟩
    obtain ⟨hchars, hsingle⟩ := hparted.apart
    refine ⟨⟨?_, hsingle⟩, getLast?_snake hws.small⟩
    obtain ⟨c, w, r, rfl, hc⟩ := hws.exists_letter
    obtain ⟨x, hx⟩ := exists_joinChars_cons (.inl rfl) (hws.small _ List.mem_cons_self) r
    rw [hx] at hchars ⊢
    exact headed_cons.mpr ⟨hc, (List.forall_mem_cons.mp hchars).2⟩
  · rintro ⟨⟨⟨c, r, rfl, hc, hr⟩, hsingle⟩, hlast⟩
    have hsmall : isSmall c = true := by simp [isSmall, hc]
    have hchars : ∀ d ∈ c :: r, isSnakeChar d = true :=
      List.forall_mem_cons.mpr ⟨by simp [isSnakeChar, hsmall], hr⟩
    rcases parted_of_apart hchars hsingle hlast with h | h | ⟨s, hs, -⟩
    · cases h
    · obtain ⟨ws, hne, hws, heq⟩ := (parted_iff_words _).mp h
      obtain ⟨w, ws, rfl⟩ := List.exists_cons_of_ne_nil hne
      obtain ⟨d, w, rfl⟩ := List.exists_cons_of_ne_nil (hws w List.mem_cons_self).ne_nil
      obtain ⟨x, hx⟩ := exists_joinChars_cons (.inl rfl) (hws _ List.mem_cons_self) ws
      refine ⟨_, begun_cons ?_ hws, heq⟩
      rw [hx] at heq
      cases heq
      exact hc
    · cases hs
      cases hsmall

end TypeSketch.Naming
