-- Words and literals in a line: what stands behind a known text at the front, the
-- first and the last word, and the text of a literal.
import TypeSketch.Proofs.Naming.Identifier
import TypeSketch.Proofs.Text.Literal

namespace TypeSketch.Key

open Text Naming

/-- What stands behind `p` at the front of a line. -/
def after? (p : String) (s : List Char) : Option (List Char) :=
  if p.toList.isPrefixOf s then some (s.drop p.toList.length) else none

/-- The word at the front of a line. -/
def firstWord (s : List Char) : String := String.ofList (s.takeWhile isWordChar)

/-- The last word of a line. -/
def lastWord (s : List Char) : String :=
  String.ofList ((s.reverse.dropWhile (!isWordChar ·)).takeWhile isWordChar).reverse

/-- The text of the literal behind `p` at the front of a line, and what follows it. -/
def literalAfter? (p : String) (s : List Char) : Option (String × List Char) :=
  (after? p s).bind literalAt

theorem after?_append (p : String) (r : List Char) : after? p (p.toList ++ r) = some r := by
  rw [after?, if_pos (by simp), List.drop_left]

/-- Two words of which none begins with the other do not stand at one place. -/
theorem after?_append_ne {p q : String} (hpq : ¬ p.toList <+: q.toList)
    (hqp : ¬ q.toList <+: p.toList) (r : List Char) : after? p (q.toList ++ r) = none := by
  rw [after?, if_neg]
  rw [List.isPrefixOf_iff_prefix]
  intro h
  exact (List.prefix_or_prefix_of_prefix h (List.prefix_append q.toList r)).elim hpq hqp

theorem after?_eq_none {p : String} {s : List Char} {c : Char} (hp : p.toList.head? = some c)
    (hs : s.head? ≠ some c) : after? p s = none := by
  rw [after?, if_neg]
  rw [List.isPrefixOf_iff_prefix]
  rintro ⟨r, rfl⟩
  rw [List.head?_append, hp] at hs
  exact hs rfl

theorem head?_append_ne {c d : Char} {s : List Char} (hs : c ∉ s) (hd : d ≠ c) (r : List Char) :
    (s ++ d :: r).head? ≠ some c := by
  cases s with
  | nil => simpa using hd
  | cons e s =>
    intro h
    exact hs (Option.some.inj h ▸ List.mem_cons_self)

theorem after?_append_append (p q : String) (r : List Char) :
    after? (p ++ q) (p.toList ++ r) = after? q r := by
  simp [after?, List.isPrefixOf_iff_prefix]

theorem literalAfter?_append (p key : String) (r : List Char) :
    literalAfter? p (p.toList ++ ((quote key).toList ++ r)) = some (key, r) := by
  rw [literalAfter?, after?_append, Option.bind_some, literalAt_quote]

theorem literalAfter?_append_ne {p q : String} (hpq : ¬ p.toList <+: q.toList)
    (hqp : ¬ q.toList <+: p.toList) (r : List Char) : literalAfter? p (q.toList ++ r) = none := by
  rw [literalAfter?, after?_append_ne hpq hqp, Option.bind_none]

theorem takeWhile_word {s : String} (h : IsWord s) {c : Char} (hc : isWordChar c = false)
    (r : List Char) : (s.toList ++ c :: r).takeWhile isWordChar = s.toList := by
  rw [List.takeWhile_append_of_pos h.chars, List.takeWhile_cons_of_neg (by simp [hc]),
    List.append_nil]

theorem dropWhile_word {s : String} (h : IsWord s) {c : Char} (hc : isWordChar c = false)
    (r : List Char) : (s.toList ++ c :: r).dropWhile isWordChar = c :: r := by
  rw [List.dropWhile_append_of_pos h.chars, List.dropWhile_cons_of_neg (by simp [hc])]

theorem dropWhile_onlyWord {s : String} (h : IsWord s) : s.toList.dropWhile isWordChar = [] := by
  rw [← List.append_nil s.toList, List.dropWhile_append_of_pos h.chars]
  rfl

theorem firstWord_append {s : String} (h : IsWord s) {c : Char} (hc : isWordChar c = false)
    (r : List Char) : firstWord (s.toList ++ c :: r) = s := by
  rw [firstWord, takeWhile_word h hc, String.ofList_toList]

theorem firstWord_word {s : String} (h : IsWord s) : firstWord s.toList = s := by
  rw [firstWord, ← List.append_nil s.toList, List.takeWhile_append_of_pos h.chars]
  simp

/-- A word with a mark before it and nothing but marks behind it is the last one. -/
theorem lastWord_append {s : String} (h : IsWord s) {c : Char} (hc : isWordChar c = false)
    (before : List Char) {behind : List Char} (hbehind : ∀ d ∈ behind, isWordChar d = false) :
    lastWord (before ++ c :: (s.toList ++ behind)) = s := by
  have hrev : (before ++ c :: (s.toList ++ behind)).reverse =
      behind.reverse ++ (s.toList.reverse ++ c :: before.reverse) := by
    simp
  have hword : ∀ d ∈ s.toList.reverse, isWordChar d = true := by
    simpa using h.chars
  obtain ⟨d, w, hd⟩ := List.exists_cons_of_ne_nil (List.reverse_ne_nil_iff.mpr h.ne_nil)
  have hdrop : (behind.reverse ++ (s.toList.reverse ++ c :: before.reverse)).dropWhile
      (!isWordChar ·) = s.toList.reverse ++ c :: before.reverse := by
    rw [List.dropWhile_append_of_pos (by simpa using hbehind), hd, List.cons_append,
      List.dropWhile_cons_of_neg]
    have := hword d (hd ▸ List.mem_cons_self)
    simp [this]
  rw [lastWord, hrev, hdrop, List.takeWhile_append_of_pos hword,
    List.takeWhile_cons_of_neg (by simp [hc]), List.append_nil, List.reverse_reverse,
    String.ofList_toList]

end TypeSketch.Key
