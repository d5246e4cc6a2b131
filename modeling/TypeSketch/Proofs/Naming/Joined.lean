-- Words joined to one name, and what the name still tells of them. Underscores part
-- the words again. Capitals do so too, but a word that begins with a digit has none:
-- it is one with the word before it.
import TypeSketch.Proofs.Naming.Case

namespace TypeSketch.Naming

open Text

/-! ## Characters of words -/

/-- What holds of all word characters is decided on the numbers of ASCII. -/
theorem of_isWordChar {P : Char → Prop}
    (hall : ∀ n < 0x80, isWordChar (Char.ofNat n) = true → P (Char.ofNat n)) {c : Char}
    (h : isWordChar c = true) : P c := by
  rw [← Char.ofNat_toNat c]
  apply hall c.toNat (toNat_lt_of_isWordChar h)
  rw [Char.ofNat_toNat]
  exact h

/-- Whether a character is a small letter or a digit. -/
def isSmall (c : Char) : Bool := isLower c || isDigit c

theorem isWordChar_of_isSmall {c : Char} (h : isSmall c = true) : isWordChar c = true := by
  rcases Bool.or_eq_true_iff.mp h with h | h
  · simp [isWordChar, isLetter, h]
  · simp [isWordChar, h]

theorem isWordChar_of_isUpper {c : Char} (h : isUpper c = true) : isWordChar c = true := by
  simp [isWordChar, isLetter, h]

theorem isWordChar_of_isLower {c : Char} (h : isLower c = true) : isWordChar c = true := by
  simp [isWordChar, isLetter, h]

theorem of_isUpper {P : Char → Prop}
    (hall : ∀ n < 0x80, isUpper (Char.ofNat n) = true → P (Char.ofNat n)) {c : Char}
    (h : isUpper c = true) : P c :=
  of_isWordChar (P := fun c => isUpper c = true → P c) (fun n hn _ => hall n hn)
    (isWordChar_of_isUpper h) h

theorem of_isLower {P : Char → Prop}
    (hall : ∀ n < 0x80, isLower (Char.ofNat n) = true → P (Char.ofNat n)) {c : Char}
    (h : isLower c = true) : P c :=
  of_isWordChar (P := fun c => isLower c = true → P c) (fun n hn _ => hall n hn)
    (isWordChar_of_isLower h) h

/-- What holds of all small letters and digits. -/
theorem of_isSmall {P : Char → Prop}
    (hall : ∀ n < 0x80, isWordChar (Char.ofNat n) = true → isSmall (Char.ofNat n) = true →
      P (Char.ofNat n)) {c : Char} (h : isSmall c = true) : P c :=
  of_isWordChar (P := fun c => isSmall c = true → P c) hall (isWordChar_of_isSmall h) h

theorem lowerChar_of_isSmall {c : Char} (h : isSmall c = true) : lowerChar c = c :=
  of_isSmall (P := fun c => lowerChar c = c) (by decide) h

theorem lowerChar_upperChar {c : Char} (h : isSmall c = true) : lowerChar (upperChar c) = c :=
  of_isSmall (P := fun c => lowerChar (upperChar c) = c) (by decide) h

theorem isUpper_of_isSmall {c : Char} (h : isSmall c = true) : isUpper c = false :=
  of_isSmall (P := fun c => isUpper c = false) (by decide) h

theorem ne_underscore_of_isSmall {c : Char} (h : isSmall c = true) : c ≠ '_' ∧ upperChar c ≠ '_' :=
  of_isSmall (P := fun c => c ≠ '_' ∧ upperChar c ≠ '_') (by decide) h

/-- Of the small characters only a digit is its own capital. -/
theorem isUpper_upperChar {c : Char} (h : isSmall c = true) :
    isUpper (upperChar c) = !isDigit c ∧ (isDigit c = true → upperChar c = c) :=
  of_isSmall
    (P := fun c => isUpper (upperChar c) = !isDigit c ∧ (isDigit c = true → upperChar c = c))
    (by decide) h

theorem isUpper_lowerChar (c : Char) : isUpper (lowerChar c) = false := by
  by_cases h : isUpper c = true
  · exact of_isUpper (P := fun c => isUpper (lowerChar c) = false) (by decide) h
  · rw [lowerChar, if_neg h]
    exact Bool.eq_false_iff.mpr h

/-- A small letter has a capital form, and is no digit. -/
theorem isUpper_upperChar_of_isLower {c : Char} (h : isLower c = true) :
    isUpper (upperChar c) = true ∧ isDigit c = false :=
  of_isLower (P := fun c => isUpper (upperChar c) = true ∧ isDigit c = false) (by decide) h

theorem isLower_upperChar (c : Char) : isLower (upperChar c) = false := by
  by_cases h : isLower c = true
  · exact of_isLower (P := fun c => isLower (upperChar c) = false) (by decide) h
  · rw [upperChar, if_neg h]
    exact Bool.eq_false_iff.mpr h

theorem isWordChar_upperChar {c : Char} (h : isSmall c = true) :
    isWordChar (upperChar c) = true :=
  of_isSmall (P := fun c => isWordChar (upperChar c) = true) (by decide) h

theorem isDigit_upperChar {c : Char} (h : isSmall c = true) :
    isDigit (upperChar c) = isDigit c :=
  of_isSmall (P := fun c => isDigit (upperChar c) = isDigit c) (by decide) h

/-- The small form of a letter is that of its small and of its capital form. -/
theorem lowerChar_lowerChar (c : Char) :
    lowerChar (lowerChar c) = lowerChar c ∧ upperChar (lowerChar c) = upperChar c := by
  by_cases h : isUpper c = true
  · exact of_isUpper
      (P := fun c => lowerChar (lowerChar c) = lowerChar c ∧ upperChar (lowerChar c) = upperChar c)
      (by decide) h
  · have hlower : lowerChar c = c := by rw [lowerChar, if_neg h]
    rw [hlower, hlower]
    exact ⟨rfl, rfl⟩

/-- The capital form of a letter is that of its capital and of its small form. -/
theorem upperChar_upperChar (c : Char) :
    upperChar (upperChar c) = upperChar c ∧ lowerChar (upperChar c) = lowerChar c := by
  by_cases h : isLower c = true
  · exact of_isLower
      (P := fun c => upperChar (upperChar c) = upperChar c ∧ lowerChar (upperChar c) = lowerChar c)
      (by decide) h
  · have hupper : upperChar c = c := by rw [upperChar, if_neg h]
    rw [hupper, hupper]
    exact ⟨rfl, rfl⟩

/-- A word character that is no gap has a small form. -/
theorem isSmall_lowerChar {c : Char} (hword : isWordChar c = true) (hgap : isGap c = false) :
    isSmall (lowerChar c) = true :=
  of_isWordChar (P := fun c => isGap c = false → isSmall (lowerChar c) = true) (by decide)
    hword hgap

/-! ## Small words -/

/-- A word of small letters and digits. -/
structure SmallWord (w : List Char) : Prop where
  ne_nil : w ≠ []
  small : ∀ c ∈ w, isSmall c = true

instance (w : List Char) : Decidable (SmallWord w) :=
  decidable_of_iff (w ≠ [] ∧ ∀ c ∈ w, isSmall c = true) ⟨fun h => ⟨h.1, h.2⟩, fun h => ⟨h.1, h.2⟩⟩

theorem SmallWord.append {w v : List Char} (hw : SmallWord w) (hv : SmallWord v) :
    SmallWord (w ++ v) := by
  refine ⟨List.append_ne_nil_of_left_ne_nil hw.ne_nil v, fun c hc => ?_⟩
  exact (List.mem_append.mp hc).elim (hw.small c) (hv.small c)

theorem lowerWord_of_small {w : List Char} (h : ∀ c ∈ w, isSmall c = true) : lowerWord w = w := by
  rw [lowerWord, List.map_congr_left fun c hc => lowerChar_of_isSmall (h c hc), List.map_id']

theorem map_lowerWord_of_small {ws : List (List Char)} (h : ∀ w ∈ ws, SmallWord w) :
    ws.map lowerWord = ws := by
  rw [List.map_congr_left fun w hw => lowerWord_of_small (h w hw).small, List.map_id']

/-- The words of a key, in small letters. -/
def smallWords (key : String) : List (List Char) :=
  (wordChars (blankOut key.toList)).map lowerWord

theorem mem_spaced {s : List Char} {c : Char} (h : c ∈ spaced s) : c ∈ s ∨ c = ' ' := by
  fun_induction spaced s with
  | case1 a b r _ ih => grind
  | case2 a b r _ ih => grind
  | case3 s _ => exact .inl h

theorem smallWord_of_mem {key : String} {w : List Char} (h : w ∈ smallWords key) :
    SmallWord w := by
  obtain ⟨v, hv, rfl⟩ := List.mem_map.mp h
  obtain ⟨hpiece, hne⟩ := List.mem_filter.mp hv
  refine ⟨by simpa [lowerWord] using hne, fun c hc => ?_⟩
  obtain ⟨d, hd, rfl⟩ := List.mem_map.mp hc
  obtain ⟨hspaced, hgap⟩ := mem_of_mem_piecesBy hpiece hd
  apply isSmall_lowerChar _ hgap
  rcases mem_spaced hspaced with hd | rfl
  · obtain ⟨e, _, he⟩ := List.mem_map.mp hd
    split at he
    · rename_i hword
      exact he ▸ hword
    · rw [← he] at hgap
      cases hgap
  · cases hgap

/-! ## Names of small words -/

/-- A change of letters that leaves the small, the capital and the capitalised form of every word
as they are. -/
structure KeepsForms (g : List Char → List Char) : Prop where
  lower : ∀ w, lowerWord (g w) = lowerWord w
  upper : ∀ w, upperWord (g w) = upperWord w
  capital : ∀ w, capitalWord (g w) = capitalWord w

theorem keepsForms_map {f : Char → Char} (hlower : ∀ c, lowerChar (f c) = lowerChar c)
    (hupper : ∀ c, upperChar (f c) = upperChar c) : KeepsForms (List.map f) := by
  have hlowers (w : List Char) : lowerWord (w.map f) = lowerWord w := by
    rw [lowerWord, lowerWord, List.map_map]
    exact List.map_congr_left fun c _ => hlower c
  refine ⟨hlowers, fun w => ?_, fun w => ?_⟩
  · rw [upperWord, upperWord, List.map_map]
    exact List.map_congr_left fun c _ => hupper c
  · cases w with
    | nil => rfl
    | cons c r => rw [List.map_cons, capitalWord, capitalWord, hupper, hlowers]

theorem keepsForms_lowerWord : KeepsForms lowerWord :=
  keepsForms_map (fun c => (lowerChar_lowerChar c).1) fun c => (lowerChar_lowerChar c).2

theorem keepsForms_upperWord : KeepsForms upperWord :=
  keepsForms_map (fun c => (upperChar_upperChar c).2) fun c => (upperChar_upperChar c).1

/-- A name is written from forms of its words, so it is one with the name of changed words. -/
theorem joinChars_map {g : List Char → List Char} (hg : KeepsForms g) (k : NameCase)
    (ws : List (List Char)) : k.joinChars (ws.map g) = k.joinChars ws := by
  have hlower : (ws.map g).map lowerWord = ws.map lowerWord := by simp [hg.lower]
  have hupper : (ws.map g).map upperWord = ws.map upperWord := by simp [hg.upper]
  have hcapital (ws : List (List Char)) : (ws.map g).map capitalWord = ws.map capitalWord := by
    simp [hg.capital]
  cases k with
  | snake => rw [NameCase.joinChars, hlower, NameCase.joinChars]
  | camel =>
    cases ws with
    | nil => rfl
    | cons w r =>
      rw [NameCase.joinChars, List.map_cons, camelWords, hg.lower, hcapital, NameCase.joinChars,
        camelWords]
  | pascal => rw [NameCase.joinChars, hcapital, NameCase.joinChars]
  | kebab => rw [NameCase.joinChars, hlower, NameCase.joinChars]
  | screamingSnake => rw [NameCase.joinChars, hupper, NameCase.joinChars]

/-- A name is made from the words in small letters. -/
theorem convertChars_blankOut (k : NameCase) (key : String) :
    k.convertChars (blankOut key.toList) = k.joinChars (smallWords key) := by
  rw [NameCase.convertChars, smallWords, joinChars_map keepsForms_lowerWord]

theorem joinChars_snake_cons (w : List Char) (r : List (List Char)) :
    NameCase.snake.joinChars (w :: r) =
      lowerWord w ++ if r = [] then [] else '_' :: NameCase.snake.joinChars r := by
  cases r with
  | nil => simp [NameCase.joinChars]
  | cons v r => simp [NameCase.joinChars]

theorem joinChars_pascal_cons (w : List Char) (r : List (List Char)) :
    NameCase.pascal.joinChars (w :: r) = capitalWord w ++ NameCase.pascal.joinChars r := rfl

theorem joinChars_camel_cons (w : List Char) (r : List (List Char)) :
    NameCase.camel.joinChars (w :: r) = lowerWord w ++ NameCase.pascal.joinChars r := rfl

theorem capitalWord_cons {c : Char} {w : List Char} (h : SmallWord (c :: w)) :
    capitalWord (c :: w) = upperChar c :: w := by
  rw [capitalWord, lowerWord_of_small fun d hd => h.small d (List.mem_cons_of_mem _ hd)]

/-! ## Glued words -/

/-- Whether a word begins with a digit. -/
def digitFirst (w : List Char) : Bool := w.head?.any isDigit

/-- Words, each that begins with a digit joined to the one before it. -/
def glue : List (List Char) → List (List Char)
  | [] => []
  | w :: r =>
    match glue r with
    | [] => [w]
    | v :: s => if digitFirst v then (w ++ v) :: s else w :: v :: s

/-- Small words of which only the first may begin with a digit. -/
structure Glued (ws : List (List Char)) : Prop where
  small : ∀ w ∈ ws, SmallWord w
  letters : ∀ w ∈ ws.tail, digitFirst w = false

theorem glued_glue {ws : List (List Char)} (h : ∀ w ∈ ws, SmallWord w) : Glued (glue ws) := by
  induction ws with
  | nil => exact ⟨by simp [glue], by simp [glue]⟩
  | cons w r ih =>
    rw [List.forall_mem_cons] at h
    obtain ⟨hsmall, hletters⟩ := ih h.2
    rw [glue]
    split
    · exact ⟨by simpa using h.1, by simp⟩
    · rename_i v s hr
      rw [hr, List.forall_mem_cons] at hsmall
      rw [hr, List.tail_cons] at hletters
      split
      · exact ⟨List.forall_mem_cons.mpr ⟨h.1.append hsmall.1, hsmall.2⟩, hletters⟩
      · rename_i hv
        refine ⟨List.forall_mem_cons.mpr ⟨h.1, List.forall_mem_cons.mpr hsmall⟩, ?_⟩
        exact List.forall_mem_cons.mpr ⟨Bool.eq_false_iff.mpr hv, hletters⟩

theorem glue_ne_nil {ws : List (List Char)} (h : ws ≠ []) : glue ws ≠ [] := by
  cases ws with
  | nil => exact absurd rfl h
  | cons w r =>
    rw [glue]
    split
    · exact List.cons_ne_nil _ _
    · split <;> exact List.cons_ne_nil _ _

/-- Gluing leaves the first character where it is. -/
theorem head?_glue {ws : List (List Char)} (h : ∀ w ∈ ws, SmallWord w) :
    (glue ws).head?.any digitFirst = ws.head?.any digitFirst := by
  cases ws with
  | nil => rfl
  | cons w r =>
    obtain ⟨c, u, rfl⟩ := List.exists_cons_of_ne_nil (h w List.mem_cons_self).ne_nil
    rw [glue]
    split
    · rfl
    · split <;> rfl

theorem capitalWord_append {w v : List Char} (hw : SmallWord w) (hv : SmallWord v)
    (hdigit : digitFirst v = true) : capitalWord (w ++ v) = capitalWord w ++ capitalWord v := by
  obtain ⟨c, w, rfl⟩ := List.exists_cons_of_ne_nil hw.ne_nil
  obtain ⟨d, v, rfl⟩ := List.exists_cons_of_ne_nil hv.ne_nil
  have hd : upperChar d = d := (isUpper_upperChar (hv.small d List.mem_cons_self)).2 (by
    simpa [digitFirst] using hdigit)
  have hall := hw.append hv
  rw [List.cons_append] at hall ⊢
  rw [capitalWord_cons hall, capitalWord_cons hw, capitalWord_cons hv, hd, List.cons_append]

/-- A digit is its own capital, so capitals do not tell whether words were glued. -/
theorem joinChars_pascal_glue {ws : List (List Char)} (h : ∀ w ∈ ws, SmallWord w) :
    NameCase.pascal.joinChars (glue ws) = NameCase.pascal.joinChars ws := by
  induction ws with
  | nil => rfl
  | cons w r ih =>
    rw [List.forall_mem_cons] at h
    have hr := ih h.2
    have hsmall := (glued_glue h.2).small
    rw [glue, joinChars_pascal_cons, ← hr]
    split
    · rename_i hnil
      rw [hnil]
      rfl
    · rename_i v s hcons
      rw [hcons, List.forall_mem_cons] at hsmall
      rw [hcons, joinChars_pascal_cons v]
      split
      · rename_i hv
        rw [joinChars_pascal_cons, capitalWord_append h.1 hsmall.1 hv, List.append_assoc]
      · rw [joinChars_pascal_cons, joinChars_pascal_cons]

theorem joinChars_camel_glue {ws : List (List Char)} (h : ∀ w ∈ ws, SmallWord w) :
    NameCase.camel.joinChars (glue ws) = NameCase.camel.joinChars ws := by
  cases ws with
  | nil => rfl
  | cons w r =>
    rw [List.forall_mem_cons] at h
    have hsmall := (glued_glue h.2).small
    rw [glue, joinChars_camel_cons, ← joinChars_pascal_glue h.2]
    split
    · rename_i hnil
      rw [hnil]
      rfl
    · rename_i v s hcons
      rw [hcons, List.forall_mem_cons] at hsmall
      rw [hcons, joinChars_pascal_cons v]
      split
      · rename_i hv
        obtain ⟨d, v, rfl⟩ := List.exists_cons_of_ne_nil hsmall.1.ne_nil
        have hd := (isUpper_upperChar (hsmall.1.small d List.mem_cons_self)).2 (by
          simpa [digitFirst] using hv)
        have hlower := lowerWord_of_small hsmall.1.small
        rw [joinChars_camel_cons, capitalWord_cons hsmall.1, hd, lowerWord, List.map_append,
          ← lowerWord, ← lowerWord, hlower, List.append_assoc]
      · rw [joinChars_camel_cons, joinChars_pascal_cons]

/-! ## Words told by a name -/

/-- Two texts that go on with a capital, if at all, behind small characters, have the same small
characters and go on in the same way. -/
theorem append_small_inj {a b x y : List Char} (ha : ∀ c ∈ a, isSmall c = true)
    (hb : ∀ c ∈ b, isSmall c = true) (hx : ∀ c ∈ x.head?, isUpper c = true)
    (hy : ∀ c ∈ y.head?, isUpper c = true) (h : a ++ x = b ++ y) : a = b ∧ x = y := by
  have htake {a x : List Char} (ha : ∀ c ∈ a, isSmall c = true)
      (hx : ∀ c ∈ x.head?, isUpper c = true) : (a ++ x).takeWhile isSmall = a := by
    rw [List.takeWhile_append_of_pos ha]
    cases x with
    | nil => simp
    | cons c r =>
      have hc : ¬ isSmall c = true := by
        intro hc
        have hupper := hx c rfl
        rw [isUpper_of_isSmall hc] at hupper
        cases hupper
      rw [List.takeWhile_cons_of_neg hc, List.append_nil]
  have hab : a = b := by rw [← htake ha hx, h, htake hb hy]
  subst hab
  exact ⟨rfl, List.append_cancel_left h⟩

/-- A name of capitalised words begins with a capital. -/
theorem isUpper_head_pascal {ws : List (List Char)} (h : ∀ w ∈ ws, SmallWord w)
    (hletters : ∀ w ∈ ws, digitFirst w = false) :
    ∀ c ∈ (NameCase.pascal.joinChars ws).head?, isUpper c = true := by
  cases ws with
  | nil => simp [NameCase.joinChars]
  | cons w r =>
    rw [List.forall_mem_cons] at h hletters
    obtain ⟨c, w, rfl⟩ := List.exists_cons_of_ne_nil h.1.ne_nil
    have hc : isDigit c = false := by simpa [digitFirst] using hletters.1
    have hupper := (isUpper_upperChar (h.1.small c List.mem_cons_self)).1
    rw [hc] at hupper
    rw [joinChars_pascal_cons, capitalWord_cons h.1, List.cons_append, List.head?_cons]
    simpa using hupper

/-- A capitalised word tells the word, up to the next capital. -/
theorem capitalWord_inj {w v x y : List Char} (hw : SmallWord w) (hv : SmallWord v)
    (hx : ∀ c ∈ x.head?, isUpper c = true) (hy : ∀ c ∈ y.head?, isUpper c = true)
    (h : capitalWord w ++ x = capitalWord v ++ y) : w = v ∧ x = y := by
  obtain ⟨c, w, rfl⟩ := List.exists_cons_of_ne_nil hw.ne_nil
  obtain ⟨d, v, rfl⟩ := List.exists_cons_of_ne_nil hv.ne_nil
  rw [capitalWord_cons hw, capitalWord_cons hv, List.cons_append, List.cons_append,
    List.cons.injEq] at h
  obtain ⟨hcd, h⟩ := h
  obtain ⟨hwv, hxy⟩ := append_small_inj (fun e he => hw.small e (List.mem_cons_of_mem _ he))
    (fun e he => hv.small e (List.mem_cons_of_mem _ he)) hx hy h
  have hc : c = d := by
    rw [← lowerChar_upperChar (hw.small c List.mem_cons_self), hcd,
      lowerChar_upperChar (hv.small d List.mem_cons_self)]
  exact ⟨by rw [hc, hwv], hxy⟩

theorem joinChars_pascal_ne_nil {w : List Char} (hw : SmallWord w) (r : List (List Char)) :
    NameCase.pascal.joinChars (w :: r) ≠ [] := by
  obtain ⟨c, w, rfl⟩ := List.exists_cons_of_ne_nil hw.ne_nil
  rw [joinChars_pascal_cons, capitalWord_cons hw]
  exact List.cons_ne_nil _ _

/-- Capitals tell glued words. -/
theorem joinChars_pascal_inj {ws vs : List (List Char)} (hws : Glued ws) (hvs : Glued vs)
    (h : NameCase.pascal.joinChars ws = NameCase.pascal.joinChars vs) : ws = vs := by
  induction ws generalizing vs with
  | nil =>
    cases vs with
    | nil => rfl
    | cons v s =>
      exact absurd h.symm (joinChars_pascal_ne_nil (hvs.small v List.mem_cons_self) s)
  | cons w r ih =>
    cases vs with
    | nil => exact absurd h (joinChars_pascal_ne_nil (hws.small w List.mem_cons_self) r)
    | cons v s =>
      have hr : ∀ u ∈ r, SmallWord u := fun u hu => hws.small u (List.mem_cons_of_mem _ hu)
      have hs : ∀ u ∈ s, SmallWord u := fun u hu => hvs.small u (List.mem_cons_of_mem _ hu)
      rw [joinChars_pascal_cons, joinChars_pascal_cons] at h
      obtain ⟨hwv, hrs⟩ := capitalWord_inj (hws.small w List.mem_cons_self)
        (hvs.small v List.mem_cons_self) (isUpper_head_pascal hr hws.letters)
        (isUpper_head_pascal hs hvs.letters) h
      have hrest := ih ⟨hr, fun u hu => hws.letters u (List.mem_of_mem_tail hu)⟩
        ⟨hs, fun u hu => hvs.letters u (List.mem_of_mem_tail hu)⟩ hrs
      rw [hwv, hrest]

/-- So they do behind a first word in small letters. -/
theorem joinChars_camel_inj {ws vs : List (List Char)} (hws : Glued ws) (hvs : Glued vs)
    (hne : ws ≠ []) (hne' : vs ≠ [])
    (h : NameCase.camel.joinChars ws = NameCase.camel.joinChars vs) : ws = vs := by
  obtain ⟨w, r, rfl⟩ := List.exists_cons_of_ne_nil hne
  obtain ⟨v, s, rfl⟩ := List.exists_cons_of_ne_nil hne'
  have hr : ∀ u ∈ r, SmallWord u := fun u hu => hws.small u (List.mem_cons_of_mem _ hu)
  have hs : ∀ u ∈ s, SmallWord u := fun u hu => hvs.small u (List.mem_cons_of_mem _ hu)
  have hw := hws.small w List.mem_cons_self
  have hv := hvs.small v List.mem_cons_self
  rw [joinChars_camel_cons, joinChars_camel_cons, lowerWord_of_small hw.small,
    lowerWord_of_small hv.small] at h
  obtain ⟨hwv, hrs⟩ := append_small_inj hw.small hv.small (isUpper_head_pascal hr hws.letters)
    (isUpper_head_pascal hs hvs.letters) h
  have hrest := joinChars_pascal_inj ⟨hr, fun u hu => hws.letters u (List.mem_of_mem_tail hu)⟩
    ⟨hs, fun u hu => hvs.letters u (List.mem_of_mem_tail hu)⟩ hrs
  rw [hwv, hrest]

/-- Underscores tell all words that hold none. -/
theorem joinChars_snake_inj {ws vs : List (List Char)} (hws : ∀ w ∈ ws, '_' ∉ lowerWord w)
    (hvs : ∀ v ∈ vs, '_' ∉ lowerWord v) (hne : ws ≠ []) (hne' : vs ≠ [])
    (h : NameCase.snake.joinChars ws = NameCase.snake.joinChars vs) :
    ws.map lowerWord = vs.map lowerWord := by
  have hcut {us : List (List Char)} (hus : ∀ u ∈ us, '_' ∉ lowerWord u) (hne : us ≠ []) :
      (NameCase.snake.joinChars us).splitOn '_' = us.map lowerWord := by
    apply List.splitOn_intercalate
    · simpa using hus
    · simpa using hne
  rw [← hcut hws hne, ← hcut hvs hne', h]

end TypeSketch.Naming
