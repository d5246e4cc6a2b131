-- Runs of characters inside a text. A run that is looked for in a sentence with a blank to be
-- filled is found in what fills it, where the words around it cannot take part in the run.
import Mathlib.Data.List.Infix
import TypeSketch.Text.Lines

namespace TypeSketch.Text

section

variable {α : Type} {p : List α}

theorem holdsRun_iff [BEq α] [LawfulBEq α] {s : List α} : holdsRun p s = true ↔ p <:+: s := by
  induction s with
  | nil => rw [holdsRun, List.isEmpty_iff, List.infix_nil]
  | cons c r ih =>
    rw [holdsRun, Bool.or_eq_true, List.isPrefixOf_iff_prefix, ih, List.infix_cons_iff]

theorem holds_iff {s part : String} : holds s part = true ↔ part.toList <:+: s.toList :=
  holdsRun_iff

/-! ## Marks between two parts -/

theorem prefix_of_prefix_append_cons {c : α} (hc : c ∉ p) {x y : List α} (h : p <+: x ++ c :: y) :
    p <+: x := by
  rcases List.prefix_or_prefix_of_prefix h (List.prefix_append x (c :: y)) with hp | ⟨r, rfl⟩
  · exact hp
  · cases r with
    | nil => rw [List.append_nil]
    | cons d r =>
      rw [List.prefix_append_right_inj, List.cons_prefix_cons] at h
      rw [h.1] at hc
      exact absurd (List.mem_append_right x List.mem_cons_self) hc

/-- A run without a mark lies on one side of it. -/
theorem infix_append_cons {c : α} (hc : c ∉ p) {x y : List α} :
    p <:+: x ++ c :: y ↔ p <:+: x ∨ p <:+: y := by
  constructor
  · intro h
    induction x with
    | nil =>
      rw [List.nil_append, List.infix_cons_iff] at h
      exact h.imp_left fun hp => (prefix_of_prefix_append_cons (x := []) hc hp).isInfix
    | cons a x ih =>
      rw [List.cons_append, List.infix_cons_iff] at h
      rcases h with h | h
      · exact .inl (prefix_of_prefix_append_cons (x := a :: x) hc h).isInfix
      · exact (ih h).imp_left fun hp => hp.trans (List.suffix_cons a x).isInfix
  · rintro (h | h)
    · exact h.trans (List.prefix_append x _).isInfix
    · exact h.trans ((List.suffix_cons c y).trans (List.suffix_append x _)).isInfix

/-! ## Words around a part -/

/-- No run begins inside some characters: what follows a place in them is neither the beginning of
the run nor begins with it. -/
def CannotOpen (p a : List α) : Prop := ∀ s ∈ a.tails, s ≠ [] → ¬ s <+: p ∧ ¬ p <+: s

instance [DecidableEq α] (p a : List α) : Decidable (CannotOpen p a) :=
  inferInstanceAs (Decidable (∀ s ∈ a.tails, s ≠ [] → ¬ s <+: p ∧ ¬ p <+: s))

/-- Then it begins behind them. -/
theorem infix_append_left {a : List α} (h : CannotOpen p a) {x : List α} :
    p <:+: a ++ x ↔ p <:+: x := by
  refine ⟨fun hp => ?_, fun hp => hp.trans (List.suffix_append a x).isInfix⟩
  induction a with
  | nil => exact hp
  | cons b a ih =>
    have hbehind : CannotOpen p a := fun s hs => h s
      ((List.mem_tails _ _).mpr (((List.mem_tails _ _).mp hs).trans (List.suffix_cons b a)))
    rw [List.cons_append, List.infix_cons_iff] at hp
    refine hp.elim (fun hp => ?_) (ih hbehind)
    obtain ⟨hshort, hlong⟩ := h (b :: a) ((List.mem_tails _ _).mpr List.suffix_rfl)
      (List.cons_ne_nil b a)
    rcases List.prefix_or_prefix_of_prefix hp (List.prefix_append (b :: a) x) with hp | hp
    · exact absurd hp hlong
    · exact absurd hp hshort

theorem infix_append_right {b : List α} (h : CannotOpen p.reverse b.reverse) {x : List α} :
    p <:+: x ++ b ↔ p <:+: x := by
  rw [← List.reverse_infix, List.reverse_append, infix_append_left h, List.reverse_infix]

end

end TypeSketch.Text
