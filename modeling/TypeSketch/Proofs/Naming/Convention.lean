-- What an identifier tells of its key. Letter case, marks and gaps are lost, and a
-- convention may add a word; what is left are the words in small letters, and two
-- keys become one identifier exactly when these are the same.
import TypeSketch.Proofs.Naming.Joined

namespace TypeSketch.Naming

open Text

/-! ## Conventions -/

/-- A way to make identifiers of words: whether capitals part the words, so that a word which
begins with a digit is one with the word before it, the word that is put before a first word
which begins with a digit, and the word of a key that has none. -/
structure Convention where
  glues : Bool
  lead : Option String
  spare : Option String
  deriving DecidableEq, Repr

namespace Convention

/-- Words with those that the convention adds. -/
def filled (c : Convention) (ws : List (List Char)) : List (List Char) :=
  if ws = [] then c.spare.toList.map String.toList
  else if ws.head?.any digitFirst then c.lead.toList.map String.toList ++ ws
  else ws

/-- The words that stay apart in an identifier. -/
def parted (c : Convention) (ws : List (List Char)) : List (List Char) :=
  if c.glues then glue ws else ws

/-- What an identifier tells of its key: the words of the key in small letters, as far as they
stay apart, with those that the convention adds. -/
def told (c : Convention) (key : String) : List String :=
  (c.parted (c.filled (smallWords key))).map String.ofList

end Convention

/-! ## Joined words -/

/-- A text with an underscore before it where the first of some words begins with a digit. -/
def marked (ws : List (List Char)) (s : List Char) : List Char :=
  if ws.head?.any digitFirst then '_' :: s else s

/-- The cases in which identifiers are written. -/
def NameCase.OfIdentifiers (k : NameCase) : Prop := k = .snake ∨ k = .camel ∨ k = .pascal

theorem joinChars_nil {k : NameCase} (hk : k.OfIdentifiers) : k.joinChars [] = [] := by
  rcases hk with rfl | rfl | rfl <;> rfl

/-- A name begins with the first character of its first word, or with its capital. -/
theorem exists_joinChars_cons {k : NameCase} (hk : k.OfIdentifiers) {c : Char} {w : List Char}
    (hw : SmallWord (c :: w)) (r : List (List Char)) :
    ∃ x, k.joinChars ((c :: w) :: r) = (if k = .pascal then upperChar c else c) :: x := by
  have hlower := lowerWord_of_small hw.small
  rcases hk with rfl | rfl | rfl
  · exact ⟨_, by rw [joinChars_snake_cons, hlower]; rfl⟩
  · exact ⟨_, by rw [joinChars_camel_cons, hlower]; rfl⟩
  · exact ⟨_, by rw [joinChars_pascal_cons, capitalWord_cons hw]; rfl⟩

theorem joinChars_ne_nil {k : NameCase} (hk : k.OfIdentifiers) {ws : List (List Char)}
    (hws : ∀ w ∈ ws, SmallWord w) (hne : ws ≠ []) : k.joinChars ws ≠ [] := by
  obtain ⟨w, r, rfl⟩ := List.exists_cons_of_ne_nil hne
  obtain ⟨c, w, rfl⟩ := List.exists_cons_of_ne_nil (hws w List.mem_cons_self).ne_nil
  obtain ⟨x, hx⟩ := exists_joinChars_cons hk (hws _ List.mem_cons_self) r
  rw [hx]
  exact List.cons_ne_nil _ x

theorem getLast?_marked {ws : List (List Char)} {s : List Char} (hs : s ≠ []) :
    (marked ws s).getLast? = s.getLast? := by
  rw [marked]
  split
  · obtain ⟨c, r, rfl⟩ := List.exists_cons_of_ne_nil hs
    rw [List.getLast?_cons_cons]
  · rfl

/-- A name in Pascal case does not begin with a small letter. -/
theorem isLower_head_pascal {ws : List (List Char)} (h : ∀ w ∈ ws, SmallWord w) (hne : ws ≠ []) :
    ∀ c ∈ (marked ws (NameCase.pascal.joinChars ws)).head?, isLower c = false := by
  obtain ⟨w, r, rfl⟩ := List.exists_cons_of_ne_nil hne
  have hw := h w List.mem_cons_self
  obtain ⟨d, w, rfl⟩ := List.exists_cons_of_ne_nil hw.ne_nil
  obtain ⟨x, hx⟩ := exists_joinChars_cons (.inr (.inr rfl)) hw r
  rw [marked, hx, if_pos rfl]
  split
  · simp
    decide
  · simpa using isLower_upperChar d

/-- A name of small words parted by underscores does not end in one. -/
theorem getLast?_snake {ws : List (List Char)} (h : ∀ w ∈ ws, SmallWord w) :
    (NameCase.snake.joinChars ws).getLast? ≠ some '_' := by
  induction ws with
  | nil => simp [NameCase.joinChars]
  | cons w r ih =>
    rw [List.forall_mem_cons] at h
    have hword : w.getLast? ≠ some '_' := fun hlast =>
      (ne_underscore_of_isSmall (h.1.small _ (List.mem_of_getLast? hlast))).1 rfl
    rw [joinChars_snake_cons, lowerWord_of_small h.1.small]
    cases r with
    | nil => simpa using hword
    | cons v r =>
      obtain ⟨c, v, rfl⟩ := List.exists_cons_of_ne_nil (h.2 v List.mem_cons_self).ne_nil
      obtain ⟨x, hx⟩ := exists_joinChars_cons (.inl rfl) (h.2 _ List.mem_cons_self) r
      have hrest := ih h.2
      rw [hx] at hrest ⊢
      simpa [List.getLast?_append, List.getLast?_cons] using hrest

/-- A name of small words is made of word characters. -/
theorem joinChars_word {k : NameCase} (hk : k.OfIdentifiers) {ws : List (List Char)}
    (hws : ∀ w ∈ ws, SmallWord w) : ∀ c ∈ k.joinChars ws, isWordChar c = true := by
  have hlower {w : List Char} (hw : SmallWord w) : ∀ c ∈ lowerWord w, isWordChar c = true := by
    rw [lowerWord_of_small hw.small]
    exact fun c hc => isWordChar_of_isSmall (hw.small c hc)
  have hcapital {w : List Char} (hw : SmallWord w) : ∀ c ∈ capitalWord w, isWordChar c = true := by
    obtain ⟨a, w, rfl⟩ := List.exists_cons_of_ne_nil hw.ne_nil
    rw [capitalWord_cons hw, List.forall_mem_cons]
    exact ⟨isWordChar_upperChar (hw.small a List.mem_cons_self), fun c hc =>
      isWordChar_of_isSmall (hw.small c (List.mem_cons_of_mem _ hc))⟩
  have hpascal {ws : List (List Char)} (hws : ∀ w ∈ ws, SmallWord w) :
      ∀ c ∈ NameCase.pascal.joinChars ws, isWordChar c = true := by
    intro c hc
    obtain ⟨v, hv, hc⟩ := List.mem_flatten.mp hc
    obtain ⟨w, hw, rfl⟩ := List.mem_map.mp hv
    exact hcapital (hws w hw) c hc
  have hsnake {ws : List (List Char)} (hws : ∀ w ∈ ws, SmallWord w) :
      ∀ c ∈ NameCase.snake.joinChars ws, isWordChar c = true := by
    induction ws with
    | nil => simp [NameCase.joinChars]
    | cons w r ih =>
      rw [List.forall_mem_cons] at hws
      rw [joinChars_snake_cons, List.forall_mem_append]
      refine ⟨hlower hws.1, ?_⟩
      split
      · simp
      · rw [List.forall_mem_cons]
        exact ⟨by decide, ih hws.2⟩
  cases ws with
  | nil => simp [joinChars_nil hk]
  | cons w r =>
    rcases hk with rfl | rfl | rfl
    · exact hsnake hws
    · rw [List.forall_mem_cons] at hws
      rw [joinChars_camel_cons, List.forall_mem_append]
      exact ⟨hlower hws.1, hpascal hws.2⟩
    · exact hpascal hws

/-- Words that a name of some case tells: small ones, of which, if they are told by capitals, only
the first may begin with a digit. -/
structure Tellable (k : NameCase) (ws : List (List Char)) : Prop where
  ne_nil : ws ≠ []
  small : ∀ w ∈ ws, SmallWord w
  letters : k ≠ .snake → ∀ w ∈ ws.tail, digitFirst w = false

theorem joinChars_inj {k : NameCase} (hk : k.OfIdentifiers) {ws vs : List (List Char)}
    (hws : Tellable k ws) (hvs : Tellable k vs) (h : k.joinChars ws = k.joinChars vs) :
    ws = vs := by
  rcases hk with rfl | rfl | rfl
  · have hplain {us : List (List Char)} (hus : ∀ u ∈ us, SmallWord u) :
        ∀ u ∈ us, '_' ∉ lowerWord u := by
      intro u hu hmem
      rw [lowerWord_of_small (hus u hu).small] at hmem
      exact (ne_underscore_of_isSmall ((hus u hu).small _ hmem)).1 rfl
    rw [← map_lowerWord_of_small hws.small, ← map_lowerWord_of_small hvs.small]
    exact joinChars_snake_inj (hplain hws.small) (hplain hvs.small) hws.ne_nil hvs.ne_nil h
  · exact joinChars_camel_inj ⟨hws.small, hws.letters (by decide)⟩
      ⟨hvs.small, hvs.letters (by decide)⟩ hws.ne_nil hvs.ne_nil h
  · exact joinChars_pascal_inj ⟨hws.small, hws.letters (by decide)⟩
      ⟨hvs.small, hvs.letters (by decide)⟩ h

/-- The mark of a digit takes nothing away, since no word begins with an underscore. -/
theorem marked_inj {k : NameCase} (hk : k.OfIdentifiers) {ws vs : List (List Char)}
    (hws : Tellable k ws) (hvs : Tellable k vs)
    (h : marked ws (k.joinChars ws) = marked vs (k.joinChars vs)) : ws = vs := by
  have hhead {us : List (List Char)} (hus : Tellable k us) :
      ∃ c x, k.joinChars us = c :: x ∧ c ≠ '_' := by
    obtain ⟨u, r, rfl⟩ := List.exists_cons_of_ne_nil hus.ne_nil
    have hu := hus.small u List.mem_cons_self
    obtain ⟨c, u, rfl⟩ := List.exists_cons_of_ne_nil hu.ne_nil
    obtain ⟨x, hx⟩ := exists_joinChars_cons hk hu r
    have hne := ne_underscore_of_isSmall (hu.small c List.mem_cons_self)
    refine ⟨_, x, hx, ?_⟩
    split
    · exact hne.2
    · exact hne.1
  obtain ⟨c, x, hwsx, hc⟩ := hhead hws
  obtain ⟨d, y, hvsy, hd⟩ := hhead hvs
  apply joinChars_inj hk hws hvs
  rw [hwsx, hvsy, marked, marked] at h
  rw [hwsx, hvsy]
  split at h
  · split at h
    · exact (List.cons.inj h).2
    · exact absurd (List.cons.inj h).1.symm hd
  · split at h
    · exact absurd (List.cons.inj h).1 hc
    · exact h

/-! ## Identifiers by a convention -/

namespace Convention

theorem parted_eq_nil {c : Convention} {ws : List (List Char)} : c.parted ws = [] ↔ ws = [] := by
  rw [parted]
  split
  · cases ws with
    | nil => simp [glue]
    | cons w r => simp [glue_ne_nil (List.cons_ne_nil w r)]
  · exact Iff.rfl

/-- Identifiers in a case, with a lead before a digit and a fallback, are those of a convention. -/
structure Governs (c : Convention) (k : NameCase) (lead fallback : String) : Prop where
  case : k = .snake ∧ c.glues = false ∨ (k = .camel ∨ k = .pascal) ∧ c.glues = true
  leadWord : ∀ w ∈ c.lead, SmallWord w.toList ∧ digitFirst w.toList = false
  spareWord : ∀ w ∈ c.spare, SmallWord w.toList
  led : ∀ ws : List (List Char), ws ≠ [] → ws.head?.any digitFirst = true →
    lead.toList ++ k.joinChars ws = marked (c.filled ws) (k.joinChars (c.filled ws))
  spared : c.spare.isSome = true →
    fallback.toList = marked (c.filled []) (k.joinChars (c.filled []))
  /-- Without a word for a key that has none, the fallback is told from all names by its case. -/
  apart : c.spare = none → k = .pascal ∧ ∃ d ∈ fallback.toList.head?, isLower d = true

section

variable {c : Convention} {k : NameCase} {lead fallback : String}
  (h : c.Governs k lead fallback)
include h

theorem Governs.ofIdentifiers : k.OfIdentifiers := by
  rcases h.case with ⟨rfl, _⟩ | ⟨rfl | rfl, _⟩
  · exact .inl rfl
  · exact .inr (.inl rfl)
  · exact .inr (.inr rfl)

theorem Governs.small_filled {ws : List (List Char)} (hws : ∀ w ∈ ws, SmallWord w) :
    ∀ w ∈ c.filled ws, SmallWord w := by
  intro w hw
  rw [filled] at hw
  split at hw
  · obtain ⟨s, hs, rfl⟩ := List.mem_map.mp hw
    exact h.spareWord s (Option.mem_toList.mp hs)
  split at hw
  · rcases List.mem_append.mp hw with hw | hw
    · obtain ⟨s, hs, rfl⟩ := List.mem_map.mp hw
      exact (h.leadWord s (Option.mem_toList.mp hs)).1
    · exact hws w hw
  · exact hws w hw

theorem Governs.small_told (key : String) : ∀ w ∈ c.filled (smallWords key), SmallWord w :=
  h.small_filled fun _ => smallWord_of_mem

/-- What stays apart can be told. -/
theorem Governs.tellable {ws : List (List Char)} (hws : ∀ w ∈ ws, SmallWord w) (hne : ws ≠ []) :
    Tellable k (c.parted ws) := by
  rcases h.case with ⟨rfl, hglues⟩ | ⟨hk, hglues⟩
  · rw [parted, hglues]
    exact ⟨hne, hws, fun h => absurd rfl h⟩
  · rw [parted, hglues, if_pos rfl]
    have hglued := glued_glue hws
    exact ⟨glue_ne_nil hne, hglued.small, fun _ => hglued.letters⟩

/-- Gluing does not show in a name. -/
theorem Governs.joinChars_parted {ws : List (List Char)} (hws : ∀ w ∈ ws, SmallWord w) :
    marked (c.parted ws) (k.joinChars (c.parted ws)) = marked ws (k.joinChars ws) := by
  rcases h.case with ⟨rfl, hglues⟩ | ⟨hk, hglues⟩
  · rw [parted, hglues]
    rfl
  · rw [parted, hglues, if_pos rfl, marked, marked, head?_glue hws]
    rcases hk with rfl | rfl
    · rw [joinChars_camel_glue hws]
    · rw [joinChars_pascal_glue hws]

/-- An identifier is the name of the words that it tells. -/
theorem Governs.identifier_eq {key : String} (hne : c.filled (smallWords key) ≠ []) :
    (convertKey k lead fallback key).toList =
      marked (c.parted (c.filled (smallWords key)))
        (k.joinChars (c.parted (c.filled (smallWords key)))) := by
  have hsmall : ∀ w ∈ smallWords key, SmallWord w := fun _ => smallWord_of_mem
  rw [h.joinChars_parted (h.small_told key), convertKey, String.toList_ofList,
    convertChars_blankOut]
  have hkept : (k.joinChars (smallWords key)).filter isWordChar = k.joinChars (smallWords key) :=
    List.filter_eq_self.mpr (joinChars_word h.ofIdentifiers hsmall)
  rw [identifierChars, hkept]
  cases hws : smallWords key with
  | nil =>
    rw [hws] at hne
    have hspare : c.spare.isSome = true := by
      cases hc : c.spare with
      | none => simp [filled, hc] at hne
      | some s => rfl
    rw [joinChars_nil h.ofIdentifiers, ← h.spared hspare]
  | cons w r =>
    rw [hws] at hsmall
    have hw := hsmall w List.mem_cons_self
    obtain ⟨d, w, rfl⟩ := List.exists_cons_of_ne_nil hw.ne_nil
    obtain ⟨x, hx⟩ := exists_joinChars_cons h.ofIdentifiers hw r
    have hdigit : isDigit (if k = .pascal then upperChar d else d) = isDigit d := by
      split
      · exact isDigit_upperChar (hw.small d List.mem_cons_self)
      · rfl
    have hfirst : ((d :: w) :: r).head?.any digitFirst = isDigit d := rfl
    by_cases hd : isDigit d = true
    · rw [← h.led _ (List.cons_ne_nil _ _) (hfirst.trans hd), hx]
      simp only [hdigit, hd, if_true]
    · have hfilled : c.filled ((d :: w) :: r) = (d :: w) :: r := by
        rw [filled, if_neg (List.cons_ne_nil _ _), hfirst, if_neg hd]
      rw [hfilled, marked, hfirst, if_neg hd, hx]
      simp only [hdigit, hd, if_false, Bool.false_eq_true]

/-- The fallback is no name of words, where the convention has no word for a key without any. -/
theorem Governs.fallback_ne {ws : List (List Char)} (hspare : c.spare = none)
    (hws : ∀ w ∈ ws, SmallWord w) (hne : ws ≠ []) :
    fallback.toList ≠ marked ws (k.joinChars ws) := by
  obtain ⟨rfl, d, hd, hlower⟩ := h.apart hspare
  intro heq
  rw [heq] at hd
  rw [isLower_head_pascal hws hne d hd] at hlower
  cases hlower

theorem Governs.identifier_of_nil {key : String} (hnil : c.filled (smallWords key) = []) :
    c.spare = none ∧ convertKey k lead fallback key = fallback := by
  have hws : smallWords key = [] := by
    rw [filled] at hnil
    split at hnil
    · assumption
    split at hnil
    · exact (List.append_eq_nil_iff.mp hnil).2
    · exact hnil
  constructor
  · cases hc : c.spare with
    | none => rfl
    | some s => simp [filled, hws, hc] at hnil
  · rw [convertKey, convertChars_blankOut, hws, joinChars_nil h.ofIdentifiers]
    exact String.ofList_toList

/-- Two keys become one identifier exactly when they tell the same words. -/
theorem Governs.convertKey_eq_iff (key key' : String) :
    convertKey k lead fallback key = convertKey k lead fallback key' ↔
      c.told key = c.told key' := by
  have htold : c.told key = c.told key' ↔
      c.parted (c.filled (smallWords key)) = c.parted (c.filled (smallWords key')) :=
    List.map_inj_right fun _ _ hs => String.ofList_injective hs
  rw [htold, ← String.toList_inj]
  by_cases hne : c.filled (smallWords key) = []
  · obtain ⟨hspare, hkey⟩ := h.identifier_of_nil hne
    rw [hne, hkey, parted_eq_nil.mpr rfl]
    by_cases hne' : c.filled (smallWords key') = []
    · rw [hne', (h.identifier_of_nil hne').2, parted_eq_nil.mpr rfl]
      simp
    · have hsmall := h.small_told key'
      rw [h.identifier_eq hne', h.joinChars_parted hsmall]
      exact iff_of_false (h.fallback_ne hspare hsmall hne')
        fun hnil => hne' (parted_eq_nil.mp hnil.symm)
  · by_cases hne' : c.filled (smallWords key') = []
    · obtain ⟨hspare, hkey'⟩ := h.identifier_of_nil hne'
      have hsmall := h.small_told key
      rw [hne', hkey', parted_eq_nil.mpr rfl, h.identifier_eq hne, h.joinChars_parted hsmall]
      exact iff_of_false (h.fallback_ne hspare hsmall hne).symm
        fun hnil => hne (parted_eq_nil.mp hnil)
    · rw [h.identifier_eq hne, h.identifier_eq hne']
      constructor
      · exact marked_inj h.ofIdentifiers (h.tellable (h.small_told key) hne)
          (h.tellable (h.small_told key') hne')
      · intro heq
        rw [heq]

end

/-! ## The conventions in use -/

/-- Snake case; a leading digit gets an underscore. -/
def snake : Convention := ⟨false, none, some "field"⟩

/-- Snake case; a leading digit gets a word before it. -/
def ledSnake : Convention := ⟨false, some "field", some "field"⟩

/-- Camel case; a leading digit gets an underscore. -/
def camel : Convention := ⟨true, none, some "field"⟩

/-- Pascal case; a leading digit gets an underscore, and a key without words a name in small
letters. -/
def pascal : Convention := ⟨true, none, none⟩

/-- Pascal case for names that have to begin with a capital. -/
def exported : Convention := ⟨true, some "x", some "field"⟩

/-- Pascal case for the names of types. -/
def typeNames : Convention := ⟨true, none, some "object"⟩

/-- A convention without a word before digits puts an underscore there. -/
theorem led_of_none {c : Convention} (hc : c.lead = none) {ws : List (List Char)} (hne : ws ≠ [])
    (hdigit : ws.head?.any digitFirst = true) (k : NameCase) :
    "_".toList ++ k.joinChars ws = marked (c.filled ws) (k.joinChars (c.filled ws)) := by
  have hfilled : c.filled ws = ws := by
    rw [filled, if_neg hne, if_pos hdigit, hc]
    rfl
  rw [hfilled, marked, if_pos hdigit]
  rfl

theorem governs_snake : snake.Governs .snake "_" "field" where
  case := .inl ⟨rfl, rfl⟩
  leadWord := by simp [snake]
  spareWord := by decide
  led _ hne hdigit := led_of_none rfl hne hdigit .snake
  spared _ := by decide
  apart h := by cases h

theorem governs_camel : camel.Governs .camel "_" "field" where
  case := .inr ⟨.inl rfl, rfl⟩
  leadWord := by simp [camel]
  spareWord := by decide
  led _ hne hdigit := led_of_none rfl hne hdigit .camel
  spared _ := by decide
  apart h := by cases h

theorem governs_pascal : pascal.Governs .pascal "_" "field" where
  case := .inr ⟨.inr rfl, rfl⟩
  leadWord := by simp [pascal]
  spareWord := by simp [pascal]
  led _ hne hdigit := led_of_none rfl hne hdigit .pascal
  spared h := by cases h
  apart _ := ⟨rfl, 'f', rfl, by decide⟩

theorem governs_typeNames : typeNames.Governs .pascal "_" "Object" where
  case := .inr ⟨.inr rfl, rfl⟩
  leadWord := by simp [typeNames]
  spareWord := by decide
  led _ hne hdigit := led_of_none rfl hne hdigit .pascal
  spared _ := by decide
  apart h := by cases h

theorem filled_of_some {c : Convention} {w : String} (hc : c.lead = some w)
    {ws : List (List Char)} (hne : ws ≠ []) (hdigit : ws.head?.any digitFirst = true) :
    c.filled ws = w.toList :: ws := by
  rw [filled, if_neg hne, if_pos hdigit, hc]
  rfl

theorem governs_ledSnake : ledSnake.Governs .snake "field_" "field" where
  case := .inl ⟨rfl, rfl⟩
  leadWord := by decide
  spareWord := by decide
  led ws hne hdigit := by
    have hfilled := filled_of_some (c := ledSnake) rfl hne hdigit
    rw [hfilled, joinChars_snake_cons, if_neg hne]
    rfl
  spared _ := by decide
  apart h := by cases h

theorem governs_exported : exported.Governs .pascal "X" "Field" where
  case := .inr ⟨.inr rfl, rfl⟩
  leadWord := by decide
  spareWord := by decide
  led ws hne hdigit := by
    have hfilled := filled_of_some (c := exported) rfl hne hdigit
    rw [hfilled, joinChars_pascal_cons]
    rfl
  spared _ := by decide
  apart h := by cases h

end Convention

end TypeSketch.Naming
