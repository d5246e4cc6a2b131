-- Tidy texts. A text is tidy if no line of it ends in a blank and no three lines
-- in a row are empty, and the last touch leaves such a text as it is. A text of
-- full lines with at most one empty line between them is tidy.
import TypeSketch.Code.Tidy
import TypeSketch.Proofs.Text.Lines
import Mathlib.Data.List.Infix

namespace TypeSketch.Text

/-! ## The last touch -/

/-- No line ends in a blank, and no three lines in a row are empty. -/
structure IsTidy (s : String) : Prop where
  noBlankEnd : ∀ l ∈ lines s, trimEnd l = l
  noLongGap : ¬ ["", "", ""] <:+: lines s

/-- Lines stay as they are if none ends in a blank and no row of empty lines is too long, where
those just before the lines are counted with the first row. -/
theorem tidyLines_eq_self {blanks : Nat} {ls : List String} (hend : ∀ l ∈ ls, trimEnd l = l)
    (hblanks : blanks ≤ Code.blankLimit)
    (hfirst : ¬ List.replicate (Code.blankLimit + 1 - blanks) "" <+: ls)
    (hrow : ¬ List.replicate (Code.blankLimit + 1) "" <:+: ls) :
    Code.tidyLines blanks ls = ls := by
  induction ls generalizing blanks with
  | nil => rfl
  | cons l r ih =>
    rw [List.forall_mem_cons] at hend
    have hrowr : ¬ List.replicate (Code.blankLimit + 1) "" <:+: r :=
      fun h => hrow (h.trans (List.suffix_cons l r).isInfix)
    rw [Code.tidyLines, hend.1]
    by_cases hl : l = ""
    · subst hl
      have hlt : blanks < Code.blankLimit := by
        by_contra hge
        have hone : Code.blankLimit + 1 - blanks = 1 := by omega
        exact hfirst (by simp [hone])
      have hnext : Code.blankLimit + 1 - blanks = Code.blankLimit + 1 - (blanks + 1) + 1 := by
        omega
      rw [if_pos rfl, if_pos hlt, ih hend.2 hlt _ hrowr]
      intro h
      apply hfirst
      rw [hnext, List.replicate_succ]
      exact List.prefix_cons_inj "" |>.mpr h
    · rw [if_neg hl, ih hend.2 (Nat.zero_le _) (fun h => hrowr h.isInfix) hrowr]

theorem unlines_lines (s : String) : unlines (lines s) = s := by
  have hpieces (l : List Char) : ['\n'].intercalate (piecesBy (· == '\n') l) = l := by
    induction l with
    | nil => rfl
    | cons c l ih =>
      obtain ⟨w, ws, hw⟩ := List.exists_cons_of_ne_nil (piecesBy_ne_nil (· == '\n') l)
      rw [hw] at ih
      rw [piecesBy, hw]
      by_cases hc : c = '\n'
      · subst hc
        simpa using ih
      · cases ws <;> simp_all
  apply String.toList_inj.mp
  rw [unlines, String.toList_intercalate, lines, List.map_map]
  simpa [Function.comp_def] using hpieces s.toList

/-- A tidy text is left as it is. -/
theorem IsTidy.tidy {s : String} (h : IsTidy s) : Code.tidy s = s := by
  rw [Code.tidy, tidyLines_eq_self h.noBlankEnd (Nat.zero_le _) (fun hp => h.noLongGap hp.isInfix)
    h.noLongGap, unlines_lines]

/-! ## Full lines -/

/-- A line that ends in a character that is no blank. -/
def Solid (l : String) : Prop := OneLine l ∧ ∃ c ∈ l.toList.getLast?, isBlank c = false

instance (l : String) : Decidable (Solid l) :=
  decidable_of_iff (OneLine l ∧ l.toList.getLast?.any (!isBlank ·) = true) <| by
    simp [Solid, Option.any_eq_true]

theorem solid_append {s t : String} (hs : OneLine s) (ht : Solid t) : Solid (s ++ t) := by
  obtain ⟨hline, c, hc, hblank⟩ := ht
  refine ⟨oneLine_append.mpr ⟨hs, hline⟩, c, ?_, hblank⟩
  rw [String.toList_append, List.getLast?_append, hc, Option.some_or]
  rfl

/-- A line between two texts that are known in most cases. -/
theorem solid_between {before s behind : String} (hs : OneLine s)
    (hbefore : OneLine before := by decide) (hbehind : Solid behind := by decide) :
    Solid (before ++ s ++ behind) :=
  solid_append (oneLine_append.mpr ⟨hbefore, hs⟩) hbehind

/-- A line is solid if its end is. -/
theorem OneLine.solid {s t : String} (h : OneLine (s ++ t)) (ht : Solid t := by decide) :
    Solid (s ++ t) :=
  solid_append (oneLine_append.mp h).1 ht

theorem solid_listed {items : List String} (hne : items ≠ []) (h : ∀ s ∈ items, Solid s) :
    Solid (listed items) := by
  induction items with
  | nil => exact absurd rfl hne
  | cons s r ih =>
    rw [List.forall_mem_cons] at h
    cases r with
    | nil => simpa [listed] using h.1
    | cons t r =>
      rw [listed, String.intercalate_cons_cons]
      refine solid_append ?_ (ih (List.cons_ne_nil t r) h.2)
      exact oneLine_append.mpr ⟨h.1.1, by decide⟩

theorem Solid.trimEnd {l : String} (h : Solid l) : trimEnd l = l := by
  obtain ⟨_, c, hc, hblank⟩ := h
  obtain ⟨r, hr⟩ := List.getLast?_eq_some_iff.mp hc
  apply String.toList_inj.mp
  rw [Text.trimEnd, String.toList_ofList, dropTrailing, hr, List.reverse_append,
    List.reverse_singleton, List.singleton_append,
    List.dropWhile_cons_of_neg (by simpa using hblank), List.reverse_cons, List.reverse_reverse]

theorem solid_of_forall {l : String} (hne : l ≠ "") (h : ∀ c ∈ l.toList, isBlank c = false) :
    Solid l := by
  refine ⟨fun hm => absurd (h '\n' hm) (by decide), ?_⟩
  obtain ⟨c, hc⟩ : ∃ c, l.toList.getLast? = some c := by
    cases hlast : l.toList.getLast? with
    | none => exact absurd (by simpa using hlast) hne
    | some c => exact ⟨c, rfl⟩
  exact ⟨c, hc, h c (List.mem_of_getLast? hc)⟩

/-- A text whose lines are all solid. -/
def Full (s : String) : Prop := ∀ l ∈ lines s, Solid l

theorem Solid.full {l : String} (h : Solid l := by decide) : Full l := by
  rw [Full, lines_oneLine h.1]
  simpa using h

theorem Full.newline {s t : String} (hs : Full s) (ht : Full t) : Full (s ++ "\n" ++ t) := by
  intro l hl
  rw [lines_append, List.mem_append] at hl
  exact hl.elim (hs l) (ht l)

theorem not_full_of_mem {s : String} (h : "" ∈ lines s) : ¬ Full s := by
  intro hs
  exact absurd (hs "" h) (by decide)

theorem Full.ne_empty {s : String} (h : Full s) : s ≠ "" := by
  rintro rfl
  exact not_full_of_mem (by decide) h

/-- A full text begins with a character that is no line break. -/
theorem Full.head? {s : String} (h : Full s) : ∃ c, s.toList.head? = some c ∧ c ≠ '\n' := by
  cases hs : s.toList with
  | nil => exact absurd (String.toList_inj.mp hs) h.ne_empty
  | cons c r =>
    refine ⟨c, rfl, ?_⟩
    rintro rfl
    refine not_full_of_mem ?_ h
    simp [lines, hs, piecesBy]

/-- A full text ends with a character that is no line break. -/
theorem Full.getLast? {s : String} (h : Full s) :
    ∃ c, s.toList.getLast? = some c ∧ c ≠ '\n' := by
  rcases List.eq_nil_or_concat s.toList with hs | ⟨r, c, hs⟩
  · exact absurd (String.toList_inj.mp hs) h.ne_empty
  · refine ⟨c, by simp [hs], ?_⟩
    rintro rfl
    refine not_full_of_mem ?_ h
    have hlines := lines_append (String.ofList r) ""
    have hsplit : String.ofList r ++ "\n" ++ "" = s := by
      apply String.toList_inj.mp
      simp [hs]
    rw [hsplit] at hlines
    rw [hlines, List.mem_append]
    exact .inr (by decide)

/-- A text that is a line up to a line break at its end. -/
def NearLine (s : String) : Prop := OneLine s ∨ ∃ l, Solid l ∧ s = l ++ "\n"

/-- The break of such a text cuts the line it stands in, and both parts are solid. -/
theorem NearLine.full {before s behind : String} (h : NearLine s) (hbefore : OneLine before)
    (hbehind : Solid behind) : Full (before ++ s ++ behind) := by
  rcases h with hline | ⟨l, hl, rfl⟩
  · exact (solid_append (oneLine_append.mpr ⟨hbefore, hline⟩) hbehind).full
  · rw [← String.append_assoc]
    exact (solid_append hbefore hl).full.newline hbehind.full

/-! ## Neat lines -/

/-- Full texts one after the other, or with one empty line between neighbours. -/
inductive Neat : List String → Prop
  | last {l : String} : Full l → Neat [l]
  | next {l : String} {r : List String} : Full l → Neat r → Neat (l :: r)
  | gap {l : String} {r : List String} : Full l → Neat r → Neat (l :: "" :: r)

theorem neat_of_full {ls : List String} (hne : ls ≠ []) (h : ∀ l ∈ ls, Full l) : Neat ls := by
  induction ls with
  | nil => exact absurd rfl hne
  | cons l r ih =>
    rw [List.forall_mem_cons] at h
    cases r with
    | nil => exact .last h.1
    | cons m r => exact .next h.1 (ih (List.cons_ne_nil m r) h.2)

namespace Neat

variable {ls ms : List String}

theorem append (hls : Neat ls) (hms : Neat ms) : Neat (ls ++ ms) := by
  induction hls with
  | last h => exact .next h hms
  | next h _ ih => exact .next h ih
  | gap h _ ih => exact .gap h ih

/-- The same with an empty line between the two. -/
theorem append_gap (hls : Neat ls) (hms : Neat ms) : Neat (ls ++ "" :: ms) := by
  induction hls with
  | last h => exact .gap h hms
  | next h _ ih => exact .next h ih
  | gap h _ ih => exact .gap h ih

/-- The same where what follows is there on a condition. -/
theorem append_gap_if (hls : Neat ls) {p : Prop} [Decidable p] (hms : p → Neat ms) :
    Neat (ls ++ if p then "" :: ms else []) := by
  by_cases hp : p
  · rw [if_pos hp]
    exact hls.append_gap (hms hp)
  · rw [if_neg hp, List.append_nil]
    exact hls

theorem append_full (hls : Neat ls) (hms : ∀ l ∈ ms, Full l) : Neat (ls ++ ms) := by
  cases ms with
  | nil => rwa [List.append_nil]
  | cons m r => exact hls.append (neat_of_full (List.cons_ne_nil m r) hms)

theorem concat (hls : Neat ls) (l : String) (hl : Solid l := by decide) : Neat (ls ++ [l]) :=
  hls.append (.last hl.full)

theorem ne_nil (h : Neat ls) : ls ≠ [] := by
  cases h <;> exact List.cons_ne_nil _ _

theorem exists_first (h : Neat ls) : ∃ l r, ls = l :: r ∧ Full l := by
  cases h with
  | last h => exact ⟨_, _, rfl, h⟩
  | next h _ => exact ⟨_, _, rfl, h⟩
  | gap h _ => exact ⟨_, _, rfl, h⟩

theorem exists_last (h : Neat ls) : ∃ r l, ls = r ++ [l] ∧ Full l := by
  induction h with
  | last h => exact ⟨[], _, rfl, h⟩
  | @next l r _ _ ih =>
    obtain ⟨r', m, rfl, hm⟩ := ih
    exact ⟨l :: r', m, rfl, hm⟩
  | @gap l r _ _ ih =>
    obtain ⟨r', m, rfl, hm⟩ := ih
    exact ⟨l :: "" :: r', m, rfl, hm⟩

/-- Neat texts one after the other with one empty line between neighbours. -/
theorem intercalate {lss : List (List String)} (hne : lss ≠ []) (h : ∀ ls ∈ lss, Neat ls) :
    Neat ([""].intercalate lss) := by
  induction lss with
  | nil => exact absurd rfl hne
  | cons ls r ih =>
    rw [List.forall_mem_cons] at h
    cases r with
    | nil => simpa using h.1
    | cons ms r =>
      rw [List.intercalate_cons_cons, List.append_assoc, List.singleton_append]
      exact h.1.append_gap (ih (List.cons_ne_nil ms r) h.2)

/-- Behind neat lines, groups of neat lines with one empty line between neighbours. -/
theorem append_intercalate (hls : Neat ls) {lss : List (List String)}
    (h : ∀ ms ∈ lss, Neat ms) : Neat (ls ++ [""].intercalate lss) := by
  cases lss with
  | nil => simpa using hls
  | cons ms r => exact hls.append (intercalate (List.cons_ne_nil ms r) h)

/-- Cut into their lines, neat texts stay neat. -/
theorem cut (h : Neat ls) : Neat (ls.flatMap lines) := by
  have hfull {l : String} (hl : Full l) : Neat (lines l) :=
    neat_of_full (lines_ne_nil l) fun m hm => (hl m hm).full
  induction h with
  | last h => simpa using hfull h
  | next h _ ih => exact (hfull h).append ih
  | gap h _ ih => exact (hfull h).append_gap ih

theorem mem (h : Neat ls) {l : String} (hl : l ∈ ls) : l = "" ∨ Full l := by
  induction h with
  | last h => exact .inr (List.mem_singleton.mp hl ▸ h)
  | next h _ ih =>
    rcases List.mem_cons.mp hl with rfl | hl
    · exact .inr h
    · exact ih hl
  | gap h _ ih =>
    rcases List.mem_cons.mp hl with rfl | hl
    · exact .inr h
    · rcases List.mem_cons.mp hl with rfl | hl
      · exact .inl rfl
      · exact ih hl

/-- No two lines side by side are empty. -/
theorem not_infix (h : Neat ls) : ¬ ["", ""] <:+: ls := by
  have hstart {l : String} {r : List String} (hl : Full l) : ¬ ["", ""] <+: l :: r :=
    fun hp => hl.ne_empty (List.cons_prefix_cons.mp hp).1.symm
  induction h with
  | last h =>
    intro hi
    simpa using hi.length_le
  | next h _ ih =>
    rw [List.infix_cons_iff]
    exact not_or.mpr ⟨hstart h, ih⟩
  | gap h hr ih =>
    rw [List.infix_cons_iff, List.infix_cons_iff]
    refine not_or.mpr ⟨hstart h, not_or.mpr ⟨fun hp => ?_, ih⟩⟩
    obtain ⟨m, r, rfl, hm⟩ := hr.exists_first
    rw [List.cons_prefix_cons, List.cons_prefix_cons] at hp
    exact hm.ne_empty hp.2.1.symm

theorem isTidy (h : Neat ls) : IsTidy (unlines ls) := by
  constructor
  · intro l hl
    rw [lines_unlines h.ne_nil, List.mem_flatMap] at hl
    obtain ⟨m, hm, hl⟩ := hl
    rcases h.mem hm with rfl | hm
    · have hempty : lines "" = [""] := by decide
      rw [hempty, List.mem_singleton] at hl
      rw [hl]
      decide
    · exact (hm l hl).trimEnd
  · rw [lines_unlines h.ne_nil]
    exact fun hrow => h.cut.not_infix ((List.prefix_append ["", ""] [""]).isInfix.trans hrow)

/-- Line breaks behind neat lines are trimmed, and nothing else. -/
theorem trimBreaks_append (h : Neat ls) {behind : String}
    (hbehind : ∀ c ∈ behind.toList, c = '\n') : trimBreaks (unlines ls ++ behind) = unlines ls := by
  obtain ⟨first, r, hr, hfirst⟩ := h.exists_first
  obtain ⟨r', last, hr', hlast⟩ := h.exists_last
  obtain ⟨c, hc, hcne⟩ := hfirst.head?
  obtain ⟨d, hd, hdne⟩ := hlast.getLast?
  have hhead : (unlines ls).toList.head? = some c := hr ▸ head?_unlines first r hc
  have hend : (unlines ls).toList.getLast? = some d := hr' ▸ getLast?_unlines r' hd
  apply String.toList_inj.mp
  rw [trimBreaks, String.toList_ofList, String.toList_append, ← List.nil_append (unlines ls).toList]
  exact dropAround_append (by simp) (by simpa using hbehind) hhead (by simpa using hcne) hend
    (by simpa using hdne)

theorem trimBreaks_unlines (h : Neat ls) : trimBreaks (unlines ls) = unlines ls := by
  have hempty : ∀ c ∈ "".toList, c = '\n' := by simp
  simpa using h.trimBreaks_append hempty

end Neat

/-- Texts put together with one empty line between neighbours, as lines. -/
theorem paragraphs_map_unlines {lss : List (List String)} (h : ∀ ls ∈ lss, ls ≠ []) :
    paragraphs (lss.map unlines) = unlines ([""].intercalate lss) := by
  have hparagraphs (a b : String) (r : List String) :
      paragraphs (a :: b :: r) = a ++ "\n\n" ++ paragraphs (b :: r) := by
    apply String.toList_inj.mp
    simp [paragraphs, String.toList_intercalate]
  induction lss with
  | nil => rfl
  | cons ls r ih =>
    rw [List.forall_mem_cons] at h
    cases r with
    | nil => simp [paragraphs]
    | cons ms r =>
      have hms : ms ≠ [] := h.2 ms List.mem_cons_self
      have hrest : [""].intercalate (ms :: r) ≠ [] := by
        cases r <;> simp [hms]
      rw [List.map_cons, List.map_cons, hparagraphs, ← List.map_cons, ih h.2,
        List.intercalate_cons_cons, List.append_assoc, List.singleton_append,
        unlines_append h.1 (by simp), unlines_cons "" hrest]
      apply String.toList_inj.mp
      simp

/-! ## Neat texts -/

/-- A text of neat lines. -/
def NeatText (s : String) : Prop := ∃ ls, Neat ls ∧ s = unlines ls

theorem Neat.neatText {ls : List String} (h : Neat ls) : NeatText (unlines ls) := ⟨ls, h, rfl⟩

/-- What stays of neat lines and line breaks behind them is neat. -/
theorem Neat.neatText_trimBreaks {ls : List String} (h : Neat ls) {behind : String}
    (hbehind : ∀ c ∈ behind.toList, c = '\n') : NeatText (trimBreaks (unlines ls ++ behind)) := by
  rw [h.trimBreaks_append hbehind]
  exact h.neatText

theorem NeatText.isTidy {s : String} (h : NeatText s) : IsTidy s := by
  obtain ⟨ls, hls, rfl⟩ := h
  exact hls.isTidy

theorem NeatText.trimBreaks {s : String} (h : NeatText s) : NeatText (trimBreaks s) := by
  obtain ⟨ls, hls, rfl⟩ := h
  rw [hls.trimBreaks_unlines]
  exact hls.neatText

theorem neatText_of_solid {s : String} (h : Solid s) : NeatText s :=
  ⟨[s], .last h.full, by simp [unlines]⟩

/-- Neat texts with one empty line between neighbours are a neat text. -/
theorem neatText_paragraphs {parts : List String} (hne : parts ≠ [])
    (h : ∀ s ∈ parts, NeatText s) : NeatText (paragraphs parts) := by
  obtain ⟨lss, hlss, rfl⟩ : ∃ lss : List (List String), (∀ ls ∈ lss, Neat ls) ∧
      parts = lss.map unlines := by
    clear hne
    induction parts with
    | nil => exact ⟨[], by simp, rfl⟩
    | cons s r ih =>
      rw [List.forall_mem_cons] at h
      obtain ⟨lss, hlss, rfl⟩ := ih h.2
      obtain ⟨ls, hls, rfl⟩ := h.1
      exact ⟨ls :: lss, List.forall_mem_cons.mpr ⟨hls, hlss⟩, rfl⟩
  rw [paragraphs_map_unlines fun ls hls => (hlss ls hls).ne_nil]
  exact (Neat.intercalate (by simpa using hne) hlss).neatText

/-! ## What is seen -/

/-- A text with a character that is no blank. -/
def Visible (s : String) : Prop := ∃ c ∈ s.toList, isBlank c = false

instance (s : String) : Decidable (Visible s) :=
  inferInstanceAs (Decidable (∃ c ∈ s.toList, isBlank c = false))

theorem Visible.ne_empty {s : String} (h : Visible s) : s ≠ "" := by
  rintro rfl
  exact absurd h (by decide)

theorem visible_append {s : String} (h : Visible s) (t : String) : Visible (s ++ t) := by
  obtain ⟨c, hc, hblank⟩ := h
  exact ⟨c, by simp [hc], hblank⟩

/-- What is seen of a part is seen of the whole. -/
theorem visible_intercalate {sep s : String} {parts : List String} (hs : s ∈ parts)
    (h : Visible s) : Visible (sep.intercalate parts) := by
  obtain ⟨c, hc, hblank⟩ := h
  exact ⟨c, mem_intercalate hs hc, hblank⟩

/-- What does not satisfy `p` is not dropped from the front. -/
theorem mem_dropWhile {p : Char → Bool} {c : Char} {s : List Char} (hc : c ∈ s)
    (hp : p c = false) : c ∈ s.dropWhile p := by
  induction s with
  | nil => cases hc
  | cons d r ih =>
    rw [List.dropWhile_cons]
    split
    · rename_i hd
      rcases List.mem_cons.mp hc with rfl | hc
      · rw [hp] at hd
        cases hd
      · exact ih hc
    · exact hc

theorem mem_dropTrailing {p : Char → Bool} {c : Char} {s : List Char} (hc : c ∈ s)
    (hp : p c = false) : c ∈ dropTrailing p s := by
  rw [dropTrailing, List.mem_reverse]
  exact mem_dropWhile (List.mem_reverse.mpr hc) hp

theorem Visible.trimEnd {s : String} (h : Visible s) : Visible (trimEnd s) := by
  obtain ⟨c, hc, hblank⟩ := h
  refine ⟨c, ?_, hblank⟩
  rw [Text.trimEnd, String.toList_ofList]
  exact mem_dropTrailing hc hblank

theorem Visible.trimBreaks {s : String} (h : Visible s) : Visible (trimBreaks s) := by
  obtain ⟨c, hc, hblank⟩ := h
  have hne : (c == '\n') = false := by
    rw [beq_eq_false_iff_ne]
    rintro rfl
    exact absurd hblank (by decide)
  refine ⟨c, ?_, hblank⟩
  rw [Text.trimBreaks, String.toList_ofList, dropAround]
  exact mem_dropTrailing (mem_dropWhile hc hne) hne

/-! ## Lines after the last touch -/

/-- A line that stays was there, or it is empty. -/
theorem mem_tidyLines {blanks : Nat} {ls : List String} {l : String}
    (h : l ∈ Code.tidyLines blanks ls) : l = "" ∨ ∃ m ∈ ls, l = trimEnd m := by
  induction ls generalizing blanks with
  | nil => cases h
  | cons m r ih =>
    have hlater {blanks : Nat} (h : l ∈ Code.tidyLines blanks r) :
        l = "" ∨ ∃ n ∈ m :: r, l = trimEnd n :=
      (ih h).imp_right fun ⟨n, hn, hl⟩ => ⟨n, List.mem_cons_of_mem m hn, hl⟩
    rw [Code.tidyLines] at h
    split at h
    · split at h
      · rcases List.mem_cons.mp h with h | h
        · exact .inl h
        · exact hlater h
      · exact hlater h
    · rcases List.mem_cons.mp h with h | h
      · exact .inr ⟨m, List.mem_cons_self, h⟩
      · exact hlater h

/-- A line that shows something stays, and what is before it and behind it is made tidy alone. -/
theorem tidyLines_append {m : String} (hm : Visible m) (blanks : Nat) (ls ms : List String) :
    Code.tidyLines blanks (ls ++ m :: ms) =
      Code.tidyLines blanks ls ++ trimEnd m :: Code.tidyLines 0 ms := by
  induction ls generalizing blanks with
  | nil =>
    rw [List.nil_append, Code.tidyLines.eq_2, if_neg hm.trimEnd.ne_empty]
    rfl
  | cons l r ih =>
    rw [List.cons_append, Code.tidyLines, Code.tidyLines]
    split
    · split
      · exact congrArg ("" :: ·) (ih (blanks + 1))
      · exact ih blanks
    · exact congrArg (Text.trimEnd l :: ·) (ih 0)

theorem Visible.mem_tidyLines {l : String} (hl : Visible l) {ls : List String} (hm : l ∈ ls)
    (blanks : Nat) : Text.trimEnd l ∈ Code.tidyLines blanks ls := by
  obtain ⟨before, behind, rfl⟩ := List.append_of_mem hm
  rw [tidyLines_append hl]
  simp

theorem prefix_of_trimEnd (s : String) : (trimEnd s).toList <+: s.toList := by
  rw [trimEnd, String.toList_ofList, dropTrailing, ← List.reverse_suffix, List.reverse_reverse]
  exact List.dropWhile_suffix _

theorem oneLine_trimEnd {l : String} (h : OneLine l) : OneLine (trimEnd l) :=
  fun hm => h ((prefix_of_trimEnd l).mem hm)

/-- The last touch leaves the lines of a kind, if it does not change them and makes no other line
one of them. -/
theorem filter_tidyLines {p : String → Bool} (hempty : p "" = false) {ls : List String}
    (hkept : ∀ l ∈ ls, p l = true → trimEnd l = l)
    (hnew : ∀ l ∈ ls, p (trimEnd l) = true → p l = true) (blanks : Nat) :
    (Code.tidyLines blanks ls).filter p = ls.filter p := by
  have hblank : ¬ p "" = true := by simp [hempty]
  induction ls generalizing blanks with
  | nil => rfl
  | cons l r ih =>
    rw [List.forall_mem_cons] at hkept hnew
    have ih := ih hkept.2 hnew.2
    rw [Code.tidyLines]
    by_cases hl : p l = true
    · have hne : l ≠ "" := by
        rintro rfl
        exact hblank hl
      rw [hkept.1 hl, if_neg hne, List.filter_cons_of_pos hl, List.filter_cons_of_pos hl, ih]
    · have hnot : ¬ p (trimEnd l) = true := fun h => hl (hnew.1 h)
      rw [List.filter_cons_of_neg hl]
      split
      · split
        · rw [List.filter_cons_of_neg hblank, ih]
        · exact ih blanks
      · rw [List.filter_cons_of_neg hnot, ih]

theorem tidyLines_ne_nil {blanks : Nat} (hblanks : blanks < Code.blankLimit) {ls : List String}
    (h : ls ≠ []) : Code.tidyLines blanks ls ≠ [] := by
  obtain ⟨l, r, rfl⟩ := List.exists_cons_of_ne_nil h
  rw [Code.tidyLines.eq_2, if_pos hblanks]
  split <;> exact List.cons_ne_nil _ _

/-- The last touch is one to the lines of a text. -/
theorem lines_tidy (s : String) : lines (Code.tidy s) = Code.tidyLines 0 (lines s) := by
  rw [Code.tidy, lines_unlines (tidyLines_ne_nil (by decide) (lines_ne_nil s)), flatMap_lines]
  intro l hl
  rcases Text.mem_tidyLines hl with rfl | ⟨m, hm, rfl⟩
  · decide
  · exact oneLine_trimEnd (oneLine_of_mem_lines hm)

/-- The last touch leaves what is seen. -/
theorem Visible.tidy {s : String} (h : Visible s) : Visible (Code.tidy s) := by
  obtain ⟨c, hc, hblank⟩ := h
  rw [← unlines_lines s] at hc
  rcases mem_of_mem_intercalate hc with hc | ⟨l, hl, hc⟩
  · have hbreak : c = '\n' := by simpa using hc
    rw [hbreak] at hblank
    exact absurd hblank (by decide)
  · have hvisible : Visible l := ⟨c, hc, hblank⟩
    exact visible_intercalate (hvisible.mem_tidyLines hl 0) hvisible.trimEnd

theorem Solid.visible {l : String} (h : Solid l) : Visible l := by
  obtain ⟨_, c, hc, hblank⟩ := h
  exact ⟨c, List.mem_of_getLast? hc, hblank⟩

/-- A line that ends in no blank stays as it is. -/
theorem Solid.mem_lines_tidy {l s : String} (h : Solid l) (hl : l ∈ lines s) :
    l ∈ lines (Code.tidy s) := by
  have hkept := h.visible.mem_tidyLines hl 0
  rwa [h.trimEnd, ← lines_tidy] at hkept

/-- Between the lines of a part and those of the next there is an empty one. -/
theorem lines_paragraphs_cons (s : String) {parts : List String} (h : parts ≠ []) :
    lines (paragraphs (s :: parts)) = lines s ++ "" :: lines (paragraphs parts) := by
  obtain ⟨t, r, rfl⟩ := List.exists_cons_of_ne_nil h
  have hparagraphs : paragraphs (s :: t :: r) =
      s ++ "\n" ++ ("" ++ "\n" ++ paragraphs (t :: r)) := by
    apply String.toList_inj.mp
    simp [paragraphs, String.toList_intercalate]
  have hempty : lines "" = [""] := by decide
  rw [hparagraphs, lines_append, lines_append, hempty, List.singleton_append]

theorem filter_lines_paragraphs {p : String → Bool} (hempty : p "" = false) {parts : List String}
    (hne : parts ≠ []) :
    (lines (paragraphs parts)).filter p = parts.flatMap fun s => (lines s).filter p := by
  induction parts with
  | nil => exact absurd rfl hne
  | cons s r ih =>
    cases r with
    | nil => simp [paragraphs]
    | cons t r =>
      have hblank : ¬ p "" = true := by simp [hempty]
      rw [lines_paragraphs_cons s (List.cons_ne_nil t r), List.filter_append,
        List.filter_cons_of_neg hblank, ih (List.cons_ne_nil t r)]
      rfl

theorem mem_lines_paragraphs {l s : String} {parts : List String} (hs : s ∈ parts)
    (hl : l ∈ lines s) : l ∈ lines (paragraphs parts) := by
  induction parts with
  | nil => cases hs
  | cons t r ih =>
    cases r with
    | nil =>
      obtain rfl := List.mem_singleton.mp hs
      simpa [paragraphs] using hl
    | cons u r =>
      rw [lines_paragraphs_cons t (List.cons_ne_nil u r), List.mem_append]
      rcases List.mem_cons.mp hs with rfl | hs
      · exact .inl hl
      · exact .inr (List.mem_cons_of_mem _ (ih hs))

/-- Neat lines stay as they are where an empty line follows, whatever comes behind it. -/
theorem Neat.tidyLines_append {ls : List String} (h : Neat ls) (hlines : ∀ l ∈ ls, OneLine l)
    (blanks : Nat) (r : List String) :
    Code.tidyLines blanks (ls ++ "" :: r) = ls ++ "" :: Code.tidyLines 1 r := by
  have hkept {l : String} (hl : Full l) (hline : OneLine l) (blanks : Nat) (r : List String) :
      Code.tidyLines blanks (l :: r) = l :: Code.tidyLines 0 r := by
    have hsolid : Solid l := hl l (by rw [lines_oneLine hline]; exact List.mem_cons_self)
    rw [Code.tidyLines.eq_2, hsolid.trimEnd, if_neg hl.ne_empty]
  have hgap {blanks : Nat} (hblanks : blanks < Code.blankLimit) (r : List String) :
      Code.tidyLines blanks ("" :: r) = "" :: Code.tidyLines (blanks + 1) r := by
    have hempty : Text.trimEnd "" = "" := by decide
    rw [Code.tidyLines.eq_2, hempty, if_pos rfl, if_pos hblanks]
  induction h generalizing blanks with
  | last hl =>
    rw [List.singleton_append, hkept hl (hlines _ List.mem_cons_self), hgap (by decide)]
    rfl
  | next hl _ ih =>
    rw [List.forall_mem_cons] at hlines
    rw [List.cons_append, hkept hl hlines.1, ih hlines.2]
    rfl
  | gap hl _ ih =>
    rw [List.forall_mem_cons, List.forall_mem_cons] at hlines
    rw [List.cons_append, List.cons_append, hkept hl hlines.1, hgap (by decide), ih hlines.2.2]
    rfl

/-- A neat text in front of other parts stays as it is. -/
theorem NeatText.tidy_paragraphs {s : String} (h : NeatText s) {parts : List String}
    (hparts : parts ≠ []) :
    ∃ rest, Code.tidy (paragraphs (s :: parts)) = s ++ "\n\n" ++ rest := by
  obtain ⟨ls, hls, rfl⟩ := h
  have hcut := hls.cut
  rw [← lines_unlines hls.ne_nil] at hcut
  have hrest : Code.tidyLines 1 (lines (paragraphs parts)) ≠ [] :=
    tidyLines_ne_nil (by decide) (lines_ne_nil _)
  refine ⟨unlines (Code.tidyLines 1 (lines (paragraphs parts))), ?_⟩
  rw [Code.tidy, lines_paragraphs_cons _ hparts,
    hcut.tidyLines_append (fun l hl => oneLine_of_mem_lines hl),
    unlines_append (lines_ne_nil _) (List.cons_ne_nil _ _), unlines_lines, unlines_cons "" hrest]
  apply String.toList_inj.mp
  simp

end TypeSketch.Text
