-- Pairs of neighbours. A text that lacks a pair lacks it in all its parts, and texts put
-- together form the pair only where two of them meet. In a literal whose pairs are broken up
-- by a backslash the pair does not occur, and the literal still tells its text.
import TypeSketch.Proofs.Text.Lexicon
import TypeSketch.Proofs.Text.Tidy
import Mathlib.Data.List.Chain

namespace TypeSketch.Text

/-! ## Pairs written in another way -/

theorem replacePair_cons {α : Type} [DecidableEq α] {a b x : α} {new l : List α} (h : x ≠ a) :
    replacePair a b new (x :: l) = x :: replacePair a b new l := by
  cases l <;> simp [replacePair, h]

theorem replacePair_append {α : Type} [DecidableEq α] {a b : α} {new m l : List α} (h : a ∉ m) :
    replacePair a b new (m ++ l) = m ++ replacePair a b new l := by
  induction m with
  | nil => rfl
  | cons x m ih =>
    have hx : x ≠ a := fun hxa => h (hxa ▸ List.mem_cons_self)
    rw [List.cons_append, replacePair_cons hx, ih fun hm => h (List.mem_cons_of_mem _ hm),
      List.cons_append]

theorem mem_replacePair {α : Type} [DecidableEq α] {a b x : α} {new : List α} :
    ∀ {l : List α}, x ∈ replacePair a b new l → x ∈ new ∨ x ∈ l
  | [], h => .inr h
  | [y], h => .inr h
  | y :: z :: r, h => by
    rw [replacePair] at h
    split at h
    · rcases List.mem_append.mp h with h | h
      · exact .inl h
      · exact (mem_replacePair h).imp_right fun h => by simp [h]
    · rcases List.mem_cons.mp h with rfl | h
      · exact .inr List.mem_cons_self
      · exact (mem_replacePair h).imp_right fun h => List.mem_cons_of_mem _ h

theorem replacePair_ne_nil {α : Type} [DecidableEq α] {a b : α} {new l : List α}
    (hnew : new ≠ []) (h : l ≠ []) : replacePair a b new l ≠ [] := by
  match l with
  | [x] => simp [replacePair]
  | x :: y :: r =>
    rw [replacePair]
    split <;> simp [hnew]

/-- The last element stays in its place, if it cannot end a pair. -/
theorem getLast?_replacePair {α : Type} [DecidableEq α] {a b x : α} {new : List α} (hx : x ≠ b) :
    ∀ l : List α, (replacePair a b new (l ++ [x])).getLast? = some x
  | [] => by simp [replacePair]
  | [y] => by simp [replacePair, hx]
  | y :: z :: r => by
    rw [List.cons_append, List.cons_append, replacePair]
    split
    · rw [List.getLast?_append, getLast?_replacePair hx r, Option.some_or]
    · rw [← List.cons_append, ← List.singleton_append, List.getLast?_append,
        getLast?_replacePair hx (z :: r), Option.some_or]

theorem replacePair_cons_of_head? {α : Type} [DecidableEq α] {a b x : α} {new l : List α}
    (h : l.head? ≠ some b) : replacePair a b new (x :: l) = x :: replacePair a b new l := by
  cases l with
  | nil => rfl
  | cons y r => rw [replacePair, if_neg fun hand => h (congrArg some hand.2)]

/-- Where no pair ends, nothing is replaced. -/
theorem replacePair_append_of_head? {α : Type} [DecidableEq α] {a b : α} {new m l : List α}
    (hm : b ∉ m) (hl : l.head? ≠ some b) :
    replacePair a b new (m ++ l) = m ++ replacePair a b new l := by
  induction m with
  | nil => rfl
  | cons x m ih =>
    rw [List.mem_cons, not_or] at hm
    have hhead : (m ++ l).head? ≠ some b := by
      cases m with
      | nil => exact hl
      | cons y m =>
        rintro ⟨⟩
        exact hm.2 List.mem_cons_self
    rw [List.cons_append, replacePair_cons_of_head? hhead, ih hm.2, List.cons_append]

theorem count_replacePair {α : Type} [DecidableEq α] {a b x : α} {new : List α}
    (h : new.count x = [a, b].count x) (s : List α) :
    (replacePair a b new s).count x = s.count x := by
  fun_induction replacePair a b new s with
  | case1 c d r hpair ih =>
    obtain ⟨rfl, rfl⟩ := hpair
    rw [List.count_append, h, ih, ← List.count_append]
    rfl
  | case2 c d r _ ih => rw [List.count_cons, ih, ← List.count_cons]
  | case3 => rfl

/-- The first element stays, if pairs are written with it in front. -/
theorem head?_replacePair {α : Type} [DecidableEq α] {a b : α} {new : List α}
    (hnew : new.head? = some a) (l : List α) : (replacePair a b new l).head? = l.head? := by
  fun_cases replacePair a b new l with
  | case1 x y r h => rw [List.head?_append, hnew, h.1, Option.some_or, List.head?_cons]
  | case2 => rfl
  | case3 => rfl

/-- A law of texts holds if it passes over a pair and over every other character. -/
theorem pairs_ind {α : Type} [DecidableEq α] {a b : α} {motive : List α → Prop} (nil : motive [])
    (pair : ∀ s, motive s → motive (a :: b :: s))
    (cons : ∀ c s, (∀ r, c :: s ≠ a :: b :: r) → motive s → motive (c :: s)) (s : List α) :
    motive s := by
  fun_induction replacePair a b [] s with
  | case1 x y r h ih => exact h.1 ▸ h.2 ▸ pair r ih
  | case2 x y r h ih =>
    refine cons x (y :: r) (fun t ht => h ?_) ih
    injection ht with hx hr
    injection hr with hy _
    exact ⟨hx, hy⟩
  | case3 s h =>
    cases s with
    | nil => exact nil
    | cons c r =>
      cases r with
      | nil => exact cons c [] (by simp) nil
      | cons d r => exact (h c d r rfl).elim

/-! ## Texts without a character -/

/-- A character does not occur in a text. -/
def Free (c : Char) (s : String) : Prop := c ∉ s.toList

instance (c : Char) (s : String) : Decidable (Free c s) :=
  inferInstanceAs (Decidable (c ∉ s.toList))

theorem free_empty (c : Char) : Free c "" := by simp [Free]

@[simp]
theorem free_append {c : Char} {s t : String} : Free c (s ++ t) ↔ Free c s ∧ Free c t := by
  rw [Free, String.toList_append, List.mem_append, not_or]
  rfl

theorem free_listed {c : Char} {items : List String} (hsep : Free c ", ")
    (h : ∀ s ∈ items, Free c s) : Free c (listed items) := by
  intro hm
  rcases mem_of_mem_intercalate hm with hm | ⟨s, hs, hm⟩
  · exact hsep hm
  · exact h s hs hm

/-! ## Texts without a pair -/

/-- Nowhere in a text does `b` stand right behind `a`. -/
def Lacks (a b : Char) (s : String) : Prop := ¬ [a, b] <:+: s.toList

section

variable {a b : Char} {s t : String}

theorem isChain_iff_lacks {l : List Char} :
    l.IsChain (fun c d => c = a → d ≠ b) ↔ ¬ [a, b] <:+: l := by
  rw [List.isChain_iff_forall_rel_of_append_cons_cons]
  constructor
  · rintro h ⟨before, behind, hl⟩
    have hsplit : l = before ++ a :: b :: behind := by simpa using hl.symm
    exact h hsplit rfl rfl
  · rintro h c d before behind hl rfl rfl
    exact h ⟨before, behind, by simpa using hl.symm⟩

theorem lacks_iff : Lacks a b s ↔ s.toList.IsChain fun c d => c = a → d ≠ b :=
  isChain_iff_lacks.symm

/-- A part lacks what the whole lacks. -/
theorem Lacks.of_isInfix (h : Lacks a b s) (ht : t.toList <:+: s.toList) : Lacks a b t :=
  fun hpair => h (hpair.trans ht)

theorem lacks_of_first (h : Free a s) : Lacks a b s :=
  fun hpair => h (hpair.subset (by simp))

theorem lacks_of_second (h : Free b s) : Lacks a b s :=
  fun hpair => h (hpair.subset (by simp))

/-- Two texts that lack a pair do so together if it is not formed where they meet. -/
theorem Lacks.append (hs : Lacks a b s) (ht : Lacks a b t)
    (h : s.toList.getLast? ≠ some a ∨ t.toList.head? ≠ some b) : Lacks a b (s ++ t) := by
  rw [lacks_iff] at hs ht ⊢
  rw [String.toList_append]
  refine hs.append ht fun c hc d hd hca hdb => ?_
  rcases h with h | h
  · exact h (hca ▸ hc)
  · exact h (hdb ▸ hd)

/-- Texts with something else between them do not form a pair. -/
theorem lacks_intercalate {sep : String} (ha : Free a sep) (hb : Free b sep)
    (hsep : sep ≠ "") {parts : List String} (h : ∀ s ∈ parts, Lacks a b s) :
    Lacks a b (sep.intercalate parts) := by
  have hlast : sep.toList.getLast? ≠ some a := fun h => ha (List.mem_of_getLast? h)
  have hhead (r : String) : (sep ++ r).toList.head? ≠ some b := by
    obtain ⟨c, l, hl⟩ := List.exists_cons_of_ne_nil (mt String.toList_eq_nil_iff.mp hsep)
    rw [String.toList_append, hl, List.cons_append, List.head?_cons]
    rintro ⟨⟩
    exact hb (hl ▸ List.mem_cons_self)
  induction parts with
  | nil => exact lacks_of_first (free_empty a)
  | cons s r ih =>
    rw [List.forall_mem_cons] at h
    cases r with
    | nil => simpa using h.1
    | cons t r =>
      rw [String.intercalate_cons_cons, String.append_assoc]
      exact h.1.append ((lacks_of_first ha).append (ih h.2) (.inl hlast)) (.inr (hhead _))

/-! ### Lines -/

theorem isInfix_intercalate {sep s : String} {parts : List String} (h : s ∈ parts) :
    s.toList <:+: (sep.intercalate parts).toList := by
  induction parts with
  | nil => cases h
  | cons t r ih =>
    cases r with
    | nil =>
      rw [List.mem_singleton.mp h]
      simp
    | cons u r =>
      rw [String.intercalate_cons_cons, String.toList_append]
      rcases List.mem_cons.mp h with rfl | h
      · rw [String.toList_append, List.append_assoc]
        exact (List.prefix_append _ _).isInfix
      · exact (ih h).trans (List.suffix_append _ _).isInfix

theorem isInfix_dropTrailing {α : Type} (p : α → Bool) (l : List α) : dropTrailing p l <:+: l := by
  rw [dropTrailing, ← List.reverse_infix, List.reverse_reverse]
  exact (List.dropWhile_suffix p).isInfix

theorem Lacks.of_mem_lines (h : Lacks a b s) {l : String} (hl : l ∈ lines s) : Lacks a b l :=
  h.of_isInfix (unlines_lines s ▸ isInfix_intercalate hl)

theorem Lacks.trimEnd (h : Lacks a b s) : Lacks a b (trimEnd s) := by
  refine h.of_isInfix ?_
  rw [Text.trimEnd, String.toList_ofList]
  exact isInfix_dropTrailing _ _

theorem Lacks.trimBreaks (h : Lacks a b s) : Lacks a b (trimBreaks s) := by
  refine h.of_isInfix ?_
  rw [Text.trimBreaks, String.toList_ofList, dropAround]
  exact (isInfix_dropTrailing _ _).trans (List.dropWhile_suffix _).isInfix

theorem lacks_unlines (ha : a ≠ '\n') (hb : b ≠ '\n') {ls : List String}
    (h : ∀ l ∈ ls, Lacks a b l) : Lacks a b (unlines ls) :=
  lacks_intercalate (by simpa [Free] using ha) (by simpa [Free] using hb) (by decide) h

theorem lacks_paragraphs (ha : a ≠ '\n') (hb : b ≠ '\n') {parts : List String}
    (h : ∀ s ∈ parts, Lacks a b s) : Lacks a b (paragraphs parts) :=
  lacks_intercalate (by simpa [Free] using ha) (by simpa [Free] using hb) (by decide) h

/-- The last touch forms no pair. -/
theorem Lacks.tidy (ha : a ≠ '\n') (hb : b ≠ '\n') (h : Lacks a b s) :
    Lacks a b (Code.tidy s) := by
  refine lacks_unlines ha hb fun l hl => ?_
  rcases mem_tidyLines hl with rfl | ⟨m, hm, rfl⟩
  · exact lacks_of_first (free_empty a)
  · exact (h.of_mem_lines hm).trimEnd

end

/-! ## Literals with pairs broken up -/

/-- The inside of a literal and its closing quote, with a backslash inside every pair. -/
def brokenBody (a b : Char) (s : List Char) : List Char :=
  replacePair a b [a, '\\', b] (literalBody s ++ ['"'])

/-- Two characters that literals write as they stand and use in no escape. -/
structure Breakable (a b : Char) : Prop where
  first : isEscaped a = false ∧ a ∉ escapeMarks
  second : isEscaped b = false ∧ b ∉ escapeMarks
  apart : a ≠ b

section

variable {a b : Char} (h : Breakable a b)
include h

theorem lacks_replacePair (l : List Char) : ¬ [a, b] <:+: replacePair a b [a, '\\', b] l := by
  have hback {c : Char} (hc : isEscaped c = false) : '\\' ≠ c := by
    rintro rfl
    exact absurd hc (by decide)
  rw [← isChain_iff_lacks]
  fun_induction replacePair a b [a, '\\', b] l with
  | case1 x y r hxy ih =>
    have hjoint : ∀ c ∈ [a, '\\', b].getLast?, ∀ d ∈ (replacePair a b [a, '\\', b] r).head?,
        c = a → d ≠ b := by
      rintro c hc d - rfl
      exact absurd (Option.some.inj hc).symm h.apart
    refine List.IsChain.append ?_ ih hjoint
    simp [hback h.first.1, hback h.second.1]
  | case2 x y r hxy ih =>
    rw [List.isChain_cons]
    refine ⟨fun d hd hx hdb => hxy ⟨hx, ?_⟩, ih⟩
    rw [head?_replacePair (by rfl), List.head?_cons] at hd
    exact (Option.some.inj hd).trans hdb
  | case3 l hl =>
    cases l with
    | nil => exact .nil
    | cons c r =>
      cases r with
      | nil => exact .singleton c
      | cons d r => exact (hl c d r rfl).elim

/-- Behind the first of a pair stands a backslash. -/
theorem brokenBody_pair (s : List Char) :
    brokenBody a b (a :: b :: s) = a :: '\\' :: b :: brokenBody a b s := by
  have hself {c : Char} (hc : isEscaped c = false) : literalChar c = [c] := by
    rw [literalChar_eq, hc]
    rfl
  rw [brokenBody, literalBody, List.flatMap_cons, List.flatMap_cons, hself h.first.1,
    hself h.second.1]
  simp [replacePair, brokenBody, literalBody]

/-- Everything else is written as in any literal. -/
theorem brokenBody_cons {c : Char} {s : List Char} (hpair : ∀ r, c :: s ≠ a :: b :: r) :
    brokenBody a b (c :: s) = literalChar c ++ brokenBody a b s := by
  rw [brokenBody, literalBody, List.flatMap_cons, List.append_assoc, ← literalBody]
  by_cases hc : c = a
  · subst hc
    have hself : literalChar c = [c] := by
      rw [literalChar_eq, h.first.1]
      rfl
    have hhead : (literalBody s ++ ['"']).head? ≠ some b := by
      intro hhead
      cases s with
      | nil =>
        have hquote : b = '"' := by simpa [literalBody, eq_comm] using hhead
        exact h.second.2 (hquote ▸ List.mem_cons_self)
      | cons d s =>
        obtain ⟨e, l, hl⟩ := List.exists_cons_of_ne_nil (literalChar_ne_nil d)
        have he : e = b := by simpa [literalBody, hl] using hhead
        obtain ⟨rfl, _⟩ := eq_of_mem_literalChar h.second.2 (he ▸ hl ▸ List.mem_cons_self)
        exact hpair s rfl
    rw [hself, List.singleton_append, replacePair_cons_of_head? hhead]
    rfl
  · rw [replacePair_append fun hm => hc (eq_of_mem_literalChar h.first.2 hm).1.symm]
    rfl

/-- A reader that takes the broken pair for the pair reads the text of a literal. -/
theorem read_brokenBody {lex : Lexicon} (hlex : lex.Agrees) (hkeeps : ∀ c r, lex.keeps c r = true)
    (hbroken : lex.short.lookup b = some b) (s behind : List Char) :
    lex.read 0 (brokenBody a b s ++ behind) = some (s, behind) := by
  have hplain {c : Char} (hc : isEscaped c = false) (r : List Char) :
      lex.read 0 (c :: r) = (lex.read 0 r).map (Prod.map (c :: ·) id) := by
    have hread := Lexicon.read_literalChar hlex c r
    rwa [literalChar_eq, hc, if_neg Bool.false_ne_true, hkeeps, if_pos rfl] at hread
  induction s using pairs_ind (a := a) (b := b) with
  | nil => rfl
  | pair s ih =>
    have hescape (r : List Char) : lex.read 0 ('\\' :: b :: r) =
        (lex.read 0 r).map (Prod.map (b :: ·) id) := by
      rw [Lexicon.read, if_neg (by decide), if_pos rfl, Escapes.unescape?, hbroken]
      rfl
    rw [brokenBody_pair h, List.cons_append, hplain h.first.1, List.cons_append, List.cons_append,
      hescape, ih]
    rfl
  | cons c s hpair ih =>
    rw [brokenBody_cons h hpair, List.append_assoc, Lexicon.read_literalChar hlex, hkeeps,
      if_pos rfl, ih]
    rfl

end

end TypeSketch.Text
