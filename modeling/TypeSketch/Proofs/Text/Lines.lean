-- Texts made of lines, cut into their lines again. The lines of a text that was
-- put together are the lines of its parts, and a text that neither begins nor
-- ends with a line break is not trimmed.
import TypeSketch.Text.Blank
import TypeSketch.Text.Lines

namespace TypeSketch.Text

/-! ## Characters -/

/-- What holds of all characters of a text is decided on these characters alone, not on all that
there are. -/
instance decidableForallChar (p : Char → Prop) [DecidablePred p] (s : List Char) :
    Decidable (∀ c ∈ s, p c) := List.decidableBAll p s

/-- What holds of some character of a text is decided on its characters alone. -/
instance decidableExistsChar (p : Char → Prop) [DecidablePred p] (s : List Char) :
    Decidable (∃ c ∈ s, p c) := List.decidableBEx p s

/-! ## Pieces -/

theorem piecesBy_append {α : Type} {p : α → Bool} {c : α} (hc : p c = true) (a b : List α) :
    piecesBy p (a ++ c :: b) = piecesBy p a ++ piecesBy p b := by
  induction a with
  | nil => simp [piecesBy, hc]
  | cons x a ih =>
    rw [List.cons_append, piecesBy, piecesBy, ih]
    split
    · rfl
    · cases h : piecesBy p a with
      | nil => exact absurd h (piecesBy_ne_nil p a)
      | cons w ws => rfl

/-- A list without separators is one piece. -/
theorem piecesBy_eq_singleton {α : Type} {p : α → Bool} {a : List α} (h : ∀ x ∈ a, p x = false) :
    piecesBy p a = [a] := by
  induction a with
  | nil => rfl
  | cons x a ih =>
    rw [piecesBy, h x List.mem_cons_self, ih fun y hy => h y (List.mem_cons_of_mem _ hy)]
    rfl

/-- A piece holds what was there and is no separator. -/
theorem mem_of_mem_piecesBy {α : Type} {p : α → Bool} {a w : List α} (hw : w ∈ piecesBy p a)
    {x : α} (hx : x ∈ w) : x ∈ a ∧ p x = false := by
  induction a generalizing w with
  | nil =>
    rw [piecesBy, List.mem_singleton] at hw
    simp [hw] at hx
  | cons y a ih =>
    obtain ⟨v, vs, hv⟩ := List.exists_cons_of_ne_nil (piecesBy_ne_nil p a)
    have hlater {u : List α} (hu : u ∈ v :: vs) (hxu : x ∈ u) : x ∈ y :: a ∧ p x = false :=
      (ih (hv ▸ hu) hxu).imp_left (List.mem_cons_of_mem y)
    rw [piecesBy, hv] at hw
    by_cases hy : p y = true
    · rw [if_pos hy, List.mem_cons] at hw
      rcases hw with rfl | hw
      · cases hx
      · exact hlater hw hx
    · simp only [if_neg hy, List.mem_cons] at hw
      rcases hw with rfl | hw
      · rcases List.mem_cons.mp hx with rfl | hx
        · exact ⟨List.mem_cons_self, Bool.eq_false_iff.mpr hy⟩
        · exact hlater List.mem_cons_self hx
      · exact hlater (List.mem_cons_of_mem v hw) hx

/-- No piece holds a separator. -/
theorem eq_false_of_mem_piecesBy {α : Type} {p : α → Bool} {a w : List α}
    (hw : w ∈ piecesBy p a) {x : α} (hx : x ∈ w) : p x = false := (mem_of_mem_piecesBy hw hx).2

/-- The pieces of a list are the list without its separators. -/
theorem flatten_piecesBy {α : Type} (p : α → Bool) (s : List α) :
    (piecesBy p s).flatten = s.filter (!p ·) := by
  induction s with
  | nil => rfl
  | cons x s ih =>
    obtain ⟨w, ws, hw⟩ := List.exists_cons_of_ne_nil (piecesBy_ne_nil p s)
    rw [hw] at ih
    rw [piecesBy, hw]
    cases hx : p x with
    | true =>
      rw [if_pos rfl, List.filter_cons_of_neg (by simp [hx]), ← ih]
      rfl
    | false =>
      rw [if_neg Bool.false_ne_true, List.filter_cons_of_pos (by simp [hx]), ← ih]
      rfl

/-- The first piece goes up to the first separator. -/
theorem head?_piecesBy {α : Type} (p : α → Bool) (s : List α) :
    (piecesBy p s).head? = some (s.takeWhile (!p ·)) := by
  induction s with
  | nil => rfl
  | cons x s ih =>
    obtain ⟨w, ws, hw⟩ := List.exists_cons_of_ne_nil (piecesBy_ne_nil p s)
    rw [hw, List.head?_cons] at ih
    rw [piecesBy, hw]
    cases hx : p x with
    | true => rw [if_pos rfl, List.takeWhile_cons_of_neg (by simp [hx]), List.head?_cons]
    | false =>
      rw [if_neg Bool.false_ne_true, List.takeWhile_cons_of_pos (by simp [hx]),
        ← Option.some.inj ih, List.head?_cons]

/-! ## Lines -/

/-- A text without a line break is a line. -/
def OneLine (s : String) : Prop := '\n' ∉ s.toList

instance (s : String) : Decidable (OneLine s) := inferInstanceAs (Decidable ('\n' ∉ s.toList))

@[simp]
theorem oneLine_append {s t : String} : OneLine (s ++ t) ↔ OneLine s ∧ OneLine t := by
  rw [OneLine, String.toList_append, List.mem_append, not_or]
  rfl

/-- A character of a text that was put together stands in a part or between parts. -/
theorem mem_of_mem_intercalate {sep : String} {c : Char} {parts : List String}
    (h : c ∈ (sep.intercalate parts).toList) : c ∈ sep.toList ∨ ∃ s ∈ parts, c ∈ s.toList := by
  induction parts with
  | nil => simp at h
  | cons s r ih =>
    cases r with
    | nil => exact .inr ⟨s, List.mem_cons_self, by simpa using h⟩
    | cons t r =>
      rw [String.intercalate_cons_cons, String.toList_append, List.mem_append,
        String.toList_append, List.mem_append] at h
      rcases h with (h | h) | h
      · exact .inr ⟨s, List.mem_cons_self, h⟩
      · exact .inl h
      · exact (ih h).imp_right fun ⟨u, hu, hc⟩ => ⟨u, List.mem_cons_of_mem s hu, hc⟩

theorem mem_intercalate {sep s : String} {c : Char} {parts : List String} (hs : s ∈ parts)
    (hc : c ∈ s.toList) : c ∈ (sep.intercalate parts).toList := by
  induction parts with
  | nil => cases hs
  | cons t r ih =>
    cases r with
    | nil =>
      obtain rfl := List.mem_singleton.mp hs
      simpa using hc
    | cons u r =>
      rw [String.intercalate_cons_cons, String.toList_append, List.mem_append,
        String.toList_append, List.mem_append]
      rcases List.mem_cons.mp hs with rfl | hs
      · exact .inl (.inl hc)
      · exact .inr (ih hs)

theorem oneLine_listed {items : List String} (h : ∀ s ∈ items, OneLine s) :
    OneLine (listed items) := by
  intro hm
  rcases mem_of_mem_intercalate hm with hm | ⟨s, hs, hm⟩
  · exact absurd hm (by decide)
  · exact h s hs hm

theorem lines_oneLine {s : String} (h : OneLine s) : lines s = [s] := by
  have hpieces : piecesBy (· == '\n') s.toList = [s.toList] := by
    apply piecesBy_eq_singleton
    intro c hc
    rw [beq_eq_false_iff_ne]
    rintro rfl
    exact h hc
  rw [lines, hpieces, List.map_singleton, String.ofList_toList]

/-- A line of a text holds no line break. -/
theorem oneLine_of_mem_lines {s l : String} (h : l ∈ lines s) : OneLine l := by
  obtain ⟨w, hw, rfl⟩ := List.mem_map.mp h
  intro hm
  rw [String.toList_ofList] at hm
  exact absurd (eq_false_of_mem_piecesBy hw hm) (by decide)

theorem lines_ne_nil (s : String) : lines s ≠ [] := by
  simp [lines, piecesBy_ne_nil]

theorem lines_append (s t : String) : lines (s ++ "\n" ++ t) = lines s ++ lines t := by
  have htext : (s ++ "\n" ++ t).toList = s.toList ++ '\n' :: t.toList := by
    simp [String.toList_append]
  rw [lines, htext, piecesBy_append (by rfl), List.map_append]
  rfl

theorem unlines_cons (l : String) {ls : List String} (h : ls ≠ []) :
    unlines (l :: ls) = l ++ "\n" ++ unlines ls := by
  obtain ⟨m, r, rfl⟩ := List.exists_cons_of_ne_nil h
  apply String.toList_inj.mp
  simp [unlines, String.toList_intercalate, List.intercalate]

theorem unlines_append {ls ms : List String} (hl : ls ≠ []) (hm : ms ≠ []) :
    unlines (ls ++ ms) = unlines ls ++ "\n" ++ unlines ms := by
  induction ls with
  | nil => exact absurd rfl hl
  | cons l r ih =>
    cases r with
    | nil =>
      rw [List.singleton_append, unlines_cons l hm]
      simp [unlines]
    | cons l' r =>
      rw [List.cons_append, unlines_cons l (by simp), ih (by simp),
        unlines_cons l (List.cons_ne_nil l' r)]
      simp only [String.append_assoc]

/-- With a line break at the end of the text there is one behind each of its lines. -/
theorem unlines_break {ls : List String} (h : ls ≠ []) :
    unlines ls ++ "\n" = String.join (ls.map (· ++ "\n")) := by
  induction ls with
  | nil => exact absurd rfl h
  | cons l r ih =>
    cases r with
    | nil =>
      apply String.toList_inj.mp
      simp [unlines]
    | cons m r =>
      rw [unlines_cons l (List.cons_ne_nil m r), String.append_assoc, ih (List.cons_ne_nil m r)]
      apply String.toList_inj.mp
      simp [String.toList_join]

/-- The lines of a text made of some texts are the lines of these. -/
theorem lines_unlines {ls : List String} (h : ls ≠ []) : lines (unlines ls) = ls.flatMap lines := by
  induction ls with
  | nil => exact absurd rfl h
  | cons l r ih =>
    cases r with
    | nil => simp [unlines]
    | cons m r =>
      rw [unlines_cons l (List.cons_ne_nil m r), lines_append, ih (List.cons_ne_nil m r)]
      rfl

theorem flatMap_lines {ls : List String} (h : ∀ l ∈ ls, OneLine l) : ls.flatMap lines = ls := by
  induction ls with
  | nil => rfl
  | cons l r ih =>
    rw [List.flatMap_cons, lines_oneLine (h l List.mem_cons_self),
      ih fun m hm => h m (List.mem_cons_of_mem _ hm)]
    rfl

/-! ## Trimming -/

/-- The first of some lines begins with a character that is no line break. -/
def Opens (ls : List String) : Prop :=
  (ls.head?.any fun l => l.toList.head?.any (· != '\n')) = true

/-- The last of some lines is a line that is not empty. -/
def Closes (ls : List String) : Prop := ∃ l, ls.getLast? = some l ∧ OneLine l ∧ l ≠ ""

theorem Opens.ne_nil {ls : List String} (h : Opens ls) : ls ≠ [] := by
  rintro rfl
  cases h

theorem Closes.ne_nil {ls : List String} (h : Closes ls) : ls ≠ [] := by
  rintro rfl
  obtain ⟨l, hl, _⟩ := h
  cases hl

theorem Opens.append {ls : List String} (h : Opens ls) (ms : List String) : Opens (ls ++ ms) := by
  obtain ⟨l, r, rfl⟩ := List.exists_cons_of_ne_nil h.ne_nil
  exact h

theorem Closes.append {ms : List String} (h : Closes ms) (ls : List String) :
    Closes (ls ++ ms) := by
  obtain ⟨l, hl, hline⟩ := h
  exact ⟨l, by rw [List.getLast?_append, hl, Option.some_or], hline⟩

theorem closes_concat {l : String} (h : OneLine l) (hne : l ≠ "") (ls : List String) :
    Closes (ls ++ [l]) := ⟨l, by simp, h, hne⟩

/-- Trimming takes what is around a list whose ends are kept, and nothing of the list. -/
theorem dropAround_append {α : Type} {p : α → Bool} {b s a : List α} (hb : ∀ x ∈ b, p x = true)
    (ha : ∀ x ∈ a, p x = true) {x y : α} (hfirst : s.head? = some x) (hx : p x = false)
    (hlast : s.getLast? = some y) (hy : p y = false) : dropAround p (b ++ s ++ a) = s := by
  have hdrop {x : α} {s : List α} (h : s.head? = some x) (hx : p x = false) (a : List α) :
      (s ++ a).dropWhile p = s ++ a := by
    obtain ⟨r, rfl⟩ := List.head?_eq_some_iff.mp h
    exact List.dropWhile_cons_of_neg (by simp [hx])
  rw [dropAround, List.append_assoc, List.dropWhile_append_of_pos hb, hdrop hfirst hx, dropTrailing,
    List.reverse_append, List.dropWhile_append_of_pos (by simpa using ha)]
  have hreverse := hdrop (s := s.reverse) (by rw [List.head?_reverse, hlast]) hy []
  rw [List.append_nil] at hreverse
  rw [hreverse, List.reverse_reverse]

theorem head?_unlines (l : String) (r : List String) {c : Char} (h : l.toList.head? = some c) :
    (unlines (l :: r)).toList.head? = some c := by
  cases r with
  | nil => simpa [unlines] using h
  | cons m r =>
    rw [unlines_cons l (List.cons_ne_nil m r), String.toList_append, String.toList_append]
    simp [List.head?_append, h]

theorem getLast?_unlines (r : List String) {l : String} {c : Char}
    (h : l.toList.getLast? = some c) : (unlines (r ++ [l])).toList.getLast? = some c := by
  cases r with
  | nil => simpa [unlines] using h
  | cons m r =>
    have hl : unlines [l] = l := by simp [unlines]
    rw [unlines_append (List.cons_ne_nil m r) (List.cons_ne_nil l []), String.toList_append, hl,
      List.getLast?_append, h, Option.some_or]

/-- A text between a line that is begun and a line that is not empty stays as it is. -/
theorem trimBreaks_unlines {ls : List String} (hfirst : Opens ls) (hlast : Closes ls) :
    trimBreaks (unlines ls) = unlines ls := by
  obtain ⟨l, hl, hline, hne⟩ := hlast
  obtain ⟨d, hd⟩ : ∃ d, l.toList.getLast? = some d := by
    cases h : l.toList.getLast? with
    | none => exact absurd (by simpa using h) hne
    | some d => exact ⟨d, rfl⟩
  have hdne : d ≠ '\n' := by
    rintro rfl
    exact hline (List.mem_of_getLast? hd)
  obtain ⟨m, r, hm⟩ := List.exists_cons_of_ne_nil hfirst.ne_nil
  rw [Opens, hm, List.head?_cons, Option.any_some, Option.any_eq_true] at hfirst
  obtain ⟨c, hc, hcne⟩ := hfirst
  apply String.toList_inj.mp
  rw [trimBreaks, String.toList_ofList]
  have hfirst : (unlines ls).toList.head? = some c := hm ▸ head?_unlines m r hc
  have hlast : (unlines ls).toList.getLast? = some d := by
    obtain ⟨r', rfl⟩ := List.getLast?_eq_some_iff.mp hl
    exact getLast?_unlines r' hd
  simpa using dropAround_append (p := (· == '\n')) (b := []) (a := []) (by simp) (by simp) hfirst
    (by simpa using hcne) hlast (by simpa using hdne)

theorem lines_trimBreaks {ls : List String} (hfirst : Opens ls) (hlast : Closes ls) :
    lines (trimBreaks (unlines ls)) = ls.flatMap lines := by
  rw [trimBreaks_unlines hfirst hlast, lines_unlines hfirst.ne_nil]

/-- A line among texts that are put together is a line of the whole. -/
theorem mem_lines_trimBreaks {ls : List String} (hfirst : Opens ls) (hlast : Closes ls)
    {l : String} (hl : l ∈ ls) (hline : OneLine l) : l ∈ lines (trimBreaks (unlines ls)) := by
  rw [lines_trimBreaks hfirst hlast, List.mem_flatMap]
  exact ⟨l, hl, by rw [lines_oneLine hline]; exact List.mem_cons_self⟩

end TypeSketch.Text
