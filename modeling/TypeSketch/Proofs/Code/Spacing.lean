-- Rows of blank lines and what the last touch leaves of them. The lines that show something stay
-- in their order without the blanks behind them, and between two of them, before the first and
-- behind the last stand as many empty lines as there were blank ones, but no more than two.
import TypeSketch.Proofs.Text.Tidy
import Mathlib.Data.List.TakeWhile

namespace TypeSketch.Code

open Text

/-! ## Lines and rows -/

/-- The lines that show something. -/
def shown (ls : List String) : List String := ls.filter fun l => decide (Visible l)

/-- The blank lines that stand between a line that shows something, or the beginning, and the next
such line, or the end. There may be none. -/
structure BlankRow (ls before row behind : List String) : Prop where
  split : ls = before ++ (row ++ behind)
  blank : ∀ l ∈ row, ¬ Visible l
  first : ∀ l ∈ before.getLast?, Visible l
  last : ∀ l ∈ behind.head?, Visible l

theorem shown_cons_of_pos {l : String} (h : Visible l) (ls : List String) :
    shown (l :: ls) = l :: shown ls :=
  List.filter_cons_of_pos (decide_eq_true h)

theorem shown_cons_of_neg {l : String} (h : ¬ Visible l) (ls : List String) :
    shown (l :: ls) = shown ls :=
  List.filter_cons_of_neg (by simpa using h)

theorem not_visible_empty : ¬ Visible "" := fun h => h.ne_empty rfl

/-- Trimming leaves nothing of a line if and only if it shows nothing. -/
theorem trimEnd_eq_empty_iff (l : String) : trimEnd l = "" ↔ ¬ Visible l := by
  constructor
  · exact fun h hl => hl.trimEnd.ne_empty h
  · intro h
    have hblank : ∀ c ∈ l.toList.reverse, isBlank c = true := by
      intro c hc
      by_contra hne
      exact h ⟨c, List.mem_reverse.mp hc, Bool.eq_false_iff.mpr hne⟩
    rw [trimEnd, dropTrailing, List.dropWhile_eq_nil_iff.mpr hblank]
    rfl

/-- No blank is left at the end of a line. -/
theorem getLast?_trimEnd (l : String) : ∀ c ∈ (trimEnd l).toList.getLast?, isBlank c = false := by
  intro c hc
  rw [trimEnd, String.toList_ofList, dropTrailing, List.getLast?_reverse] at hc
  have hnot := List.head?_dropWhile_not isBlank l.toList.reverse
  rwa [hc] at hnot

/-! ## Steps over lines -/

theorem tidyLines_shown {l : String} (h : Visible l) (blanks : Nat) (ls : List String) :
    tidyLines blanks (l :: ls) = trimEnd l :: tidyLines 0 ls :=
  tidyLines_append h blanks [] ls

theorem tidyLines_blank {l : String} (h : ¬ Visible l) (blanks : Nat) (ls : List String) :
    tidyLines blanks (l :: ls) =
      if blanks < blankLimit then "" :: tidyLines (blanks + 1) ls else tidyLines blanks ls := by
  rw [tidyLines, if_pos ((trimEnd_eq_empty_iff l).mpr h)]

/-- Of a row of blank lines as many empty ones stay as the limit lets, and they are counted. -/
theorem tidyLines_row {row : List String} (hrow : ∀ l ∈ row, ¬ Visible l) {blanks : Nat}
    (hblanks : blanks ≤ blankLimit) (ls : List String) :
    tidyLines blanks (row ++ ls) =
      List.replicate (min row.length (blankLimit - blanks)) "" ++
        tidyLines (min (blanks + row.length) blankLimit) ls := by
  induction row generalizing blanks with
  | nil => simp [hblanks]
  | cons l r ih =>
    rw [List.forall_mem_cons] at hrow
    rw [List.cons_append, tidyLines_blank hrow.1, List.length_cons]
    split
    · rename_i hlt
      have hcount : min (r.length + 1) (blankLimit - blanks) =
          min r.length (blankLimit - (blanks + 1)) + 1 := by omega
      have hlater : blanks + 1 + r.length = blanks + (r.length + 1) := by omega
      rw [ih hrow.2 hlt, hcount, List.replicate_succ, List.cons_append, hlater]
    · have hfull : blanks = blankLimit := by omega
      have hlater : min (blanks + (r.length + 1)) blankLimit =
          min (blanks + r.length) blankLimit := by omega
      rw [ih hrow.2 hblanks, hlater, hfull]
      simp

/-- Where a line that shows something comes first, the empty lines before it do not count. -/
theorem tidyLines_of_head {ls : List String} (h : ∀ l ∈ ls.head?, Visible l) (blanks : Nat) :
    tidyLines blanks ls = tidyLines 0 ls := by
  cases ls with
  | nil => rfl
  | cons l r => rw [tidyLines_shown (h l rfl), tidyLines_shown (h l rfl)]

/-- Nor where such a line comes last before them. -/
theorem tidyLines_of_last {before : List String} (h : ∀ l ∈ before.getLast?, Visible l)
    (ls : List String) : tidyLines 0 (before ++ ls) = tidyLines 0 before ++ tidyLines 0 ls := by
  rcases List.eq_nil_or_concat before with rfl | ⟨r, l, rfl⟩
  · rfl
  · have hl : Visible l := h l (by simp)
    rw [List.concat_eq_append, List.append_assoc, List.singleton_append, tidyLines_append hl,
      tidyLines_append hl, List.append_assoc]
    rfl

/-! ## What stays -/

/-- The lines that show something stay, and no others are made. -/
theorem shown_tidyLines (blanks : Nat) (ls : List String) :
    shown (tidyLines blanks ls) = (shown ls).map trimEnd := by
  induction ls generalizing blanks with
  | nil => rfl
  | cons l r ih =>
    by_cases h : Visible l
    · rw [tidyLines_shown h, shown_cons_of_pos h.trimEnd, ih, shown_cons_of_pos h, List.map_cons]
    · rw [tidyLines_blank h, shown_cons_of_neg h]
      split
      · rw [shown_cons_of_neg not_visible_empty, ih]
      · exact ih blanks

theorem getLast?_tidyLines {ls : List String} (h : ∀ l ∈ ls.getLast?, Visible l) :
    ∀ l ∈ (tidyLines 0 ls).getLast?, Visible l := by
  rcases List.eq_nil_or_concat ls with rfl | ⟨r, m, rfl⟩
  · simp [tidyLines]
  · have hm : Visible m := h m (by simp)
    rw [List.concat_eq_append, tidyLines_append hm]
    simpa [tidyLines] using hm.trimEnd

theorem head?_tidyLines {ls : List String} (h : ∀ l ∈ ls.head?, Visible l) :
    ∀ l ∈ (tidyLines 0 ls).head?, Visible l := by
  cases ls with
  | nil => simp [tidyLines]
  | cons m r =>
    have hm : Visible m := h m rfl
    rw [tidyLines_shown hm]
    simpa using hm.trimEnd

/-- A row of blank lines becomes one of empty lines between the same lines. -/
theorem BlankRow.tidyLines {ls before row behind : List String}
    (h : BlankRow ls before row behind) :
    BlankRow (Code.tidyLines 0 ls) (Code.tidyLines 0 before)
      (List.replicate (min row.length blankLimit) "") (Code.tidyLines 0 behind) where
  split := by
    rw [h.split, tidyLines_of_last h.first, tidyLines_row h.blank (Nat.zero_le _),
      tidyLines_of_head h.last]
    rfl
  blank l hl := by
    rw [List.eq_of_mem_replicate hl]
    exact not_visible_empty
  first := getLast?_tidyLines h.first
  last := head?_tidyLines h.last

theorem getLast?_of_mem_tidyLines {blanks : Nat} {ls : List String} {l : String}
    (h : l ∈ tidyLines blanks ls) : ∀ c ∈ l.toList.getLast?, isBlank c = false := by
  rcases mem_tidyLines h with rfl | ⟨m, -, rfl⟩
  · simp
  · exact getLast?_trimEnd m

/-- In front stand no more empty lines than may follow those just kept. -/
theorem le_of_prefix_tidyLines {n blanks : Nat} {ls : List String}
    (h : List.replicate n "" <+: tidyLines blanks ls) : n ≤ blankLimit - blanks := by
  induction ls generalizing n blanks with
  | nil =>
    have hnil := List.prefix_nil.mp h
    simp_all
  | cons l r ih =>
    by_cases hl : Visible l
    · rw [tidyLines_shown hl] at h
      cases n with
      | zero => exact Nat.zero_le _
      | succ n =>
        rw [List.replicate_succ, List.cons_prefix_cons] at h
        exact absurd h.1.symm hl.trimEnd.ne_empty
    · rw [tidyLines_blank hl] at h
      split at h
      · cases n with
        | zero => exact Nat.zero_le _
        | succ n =>
          rw [List.replicate_succ, List.cons_prefix_cons] at h
          have hrest := ih h.2
          omega
      · exact ih h

/-- So no more than the limit stand in a row anywhere. -/
theorem le_of_infix_tidyLines {n blanks : Nat} {ls : List String}
    (h : List.replicate n "" <:+: tidyLines blanks ls) : n ≤ blankLimit := by
  induction ls generalizing blanks with
  | nil =>
    have hnil := List.infix_nil.mp h
    simp_all
  | cons l r ih =>
    by_cases hfront : List.replicate n "" <+: tidyLines blanks (l :: r)
    · exact (le_of_prefix_tidyLines hfront).trans (Nat.sub_le _ _)
    · by_cases hl : Visible l
      · rw [tidyLines_shown hl] at h hfront
        exact ih ((List.infix_cons_iff.mp h).resolve_left hfront)
      · rw [tidyLines_blank hl] at h hfront
        split at h
        · rename_i hlt
          rw [if_pos hlt] at hfront
          exact ih ((List.infix_cons_iff.mp h).resolve_left hfront)
        · exact ih h

/-- A text is tidy after the last touch. -/
theorem isTidy_tidy (s : String) : IsTidy (tidy s) where
  noBlankEnd l hl := by
    have hline := oneLine_of_mem_lines hl
    rw [lines_tidy] at hl
    cases hlast : l.toList.getLast? with
    | none =>
      have hempty : l = "" := by simpa using hlast
      rw [hempty]
      decide
    | some c => exact Solid.trimEnd ⟨hline, c, hlast, getLast?_of_mem_tidyLines hl c hlast⟩
  noLongGap h := by
    rw [lines_tidy] at h
    exact absurd (le_of_infix_tidyLines (n := 3) h) (by decide)

/-! ## The law -/

/-- For every text: after the last touch no line of it ends in a blank, and no three lines in a row
are empty. The lines that show something are those of the text, without the blanks behind them, and
of every row of blank lines, between the same two lines as before, as many empty lines are left as
it had, but two at most. The last touch leaves a text as it is that had it already. -/
theorem the_last_touch_keeps_what_is_shown_and_two_empty_lines (s : String) :
    (∀ l ∈ lines (tidy s), ∀ c ∈ l.toList.getLast?, isBlank c = false) ∧
      ¬ ["", "", ""] <:+: lines (tidy s) ∧
      shown (lines (tidy s)) = (shown (lines s)).map trimEnd ∧
      (∀ before row behind, BlankRow (lines s) before row behind →
        ∃ before' behind',
          BlankRow (lines (tidy s)) before' (List.replicate (min row.length 2) "") behind' ∧
            shown before' = (shown before).map trimEnd ∧
            shown behind' = (shown behind).map trimEnd) ∧
      tidy (tidy s) = tidy s := by
  have htidy := isTidy_tidy s
  refine ⟨?_, htidy.noLongGap, ?_, fun before row behind h => ?_, htidy.tidy⟩
  · intro l hl
    rw [lines_tidy] at hl
    exact getLast?_of_mem_tidyLines hl
  · rw [lines_tidy, shown_tidyLines]
  · rw [lines_tidy]
    exact ⟨_, _, h.tidyLines, shown_tidyLines 0 before, shown_tidyLines 0 behind⟩

/-- Of three blank lines, with a tab, with a space of fixed width and with nothing in them, two are
left. -/
theorem of_three_blank_lines_two_are_left :
    let s := "a \n\t\n\u00A0\n\nb"
    BlankRow (lines s) ["a "] ["\t", "\u00A0", ""] ["b"] ∧
      ∃ before' behind', BlankRow (lines (tidy s)) before' ["", ""] behind' ∧
        shown before' = ["a"] ∧ shown behind' = ["b"] := by
  intro s
  have hrow : BlankRow (lines s) ["a "] ["\t", "\u00A0", ""] ["b"] :=
    ⟨by decide, by decide, by decide, by decide⟩
  obtain ⟨-, -, -, hrows, -⟩ := the_last_touch_keeps_what_is_shown_and_two_empty_lines s
  exact ⟨hrow, hrows _ _ _ hrow⟩

end TypeSketch.Code
