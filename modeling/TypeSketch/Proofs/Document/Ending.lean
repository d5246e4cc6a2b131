-- How lines of a document end. A parenthesis can stand only in a string, and no string goes on over
-- the end of a line, so no line of a document ends in a closing parenthesis. That can be seen from
-- the bytes of a file already.
import TypeSketch.Json.Reader
import TypeSketch.Proofs.Text.Pair
import TypeSketch.Proofs.Work
import TypeSketch.Storage.Utf8
import Mathlib.Data.List.TakeWhile

namespace TypeSketch

open Text

/-! ## Texts that are passed -/

/-- A text without a closing parenthesis at the end of a line or at its own end. -/
structure Unclosed (s : List Char) : Prop where
  lacks : ¬ [')', '\n'] <:+: s
  last : s.getLast? ≠ some ')'

theorem unclosed_of_free {s : List Char} (h : ')' ∉ s) : Unclosed s where
  lacks hpair := h (hpair.subset (by simp))
  last hlast := h (List.mem_of_getLast? hlast)

theorem Unclosed.append {s t : List Char} (hs : Unclosed s) (ht : Unclosed t) :
    Unclosed (s ++ t) where
  lacks := by
    rw [← isChain_iff_lacks]
    refine (isChain_iff_lacks.mpr hs.lacks).append (isChain_iff_lacks.mpr ht.lacks) ?_
    rintro c hc d - rfl
    exact absurd hc hs.last
  last := by
    rw [List.getLast?_append]
    cases hlast : t.getLast? with
    | none => exact hs.last
    | some c => simpa [hlast] using ht.last

namespace Json

/-- A reader that has come from one place to the other passed such a text. -/
def Passes (c after : Cursor) : Prop := ∃ used, Unclosed used ∧ c.rest = used ++ after.rest

theorem Passes.refl (c : Cursor) : Passes c c := ⟨[], unclosed_of_free (by simp), rfl⟩

theorem Passes.trans {c d e : Cursor} (hcd : Passes c d) (hde : Passes d e) : Passes c e := by
  obtain ⟨s, hs, hc⟩ := hcd
  obtain ⟨t, ht, hd⟩ := hde
  exact ⟨s ++ t, hs.append ht, by rw [hc, hd, List.append_assoc]⟩

/-- A word without a parenthesis at the front is passed. -/
theorem passes_advance {c : Cursor} {w : List Char} (hw : w <+: c.rest) (hfree : ')' ∉ w) {n : Nat}
    (hn : n = w.length) : Passes c (c.advance n) := by
  obtain ⟨r, hr⟩ := hw
  refine ⟨w, unclosed_of_free hfree, ?_⟩
  rw [Cursor.advance, hn, ← hr, List.drop_left]

/-- So is a single character. -/
theorem passes_one {c : Cursor} {d : Char} (hhead : c.rest.head? = some d) (hd : d ≠ ')') :
    Passes c (c.advance 1) := by
  obtain ⟨r, hr⟩ := List.head?_eq_some_iff.mp hhead
  exact passes_advance (w := [d]) ⟨r, hr.symm⟩ (by simpa using hd.symm) rfl

theorem passes_skipSpacing (c : Cursor) : Passes c c.skipSpacing := by
  refine passes_advance (List.takeWhile_prefix isSpacing) (fun hm => ?_) rfl
  exact absurd (List.mem_takeWhile_imp hm) (by decide)

/-! ## Strings -/

theorem ne_break_of_hexUnit? {a b c d : Char} {n : Nat} (h : hexUnit? a b c d = some n) :
    '\n' ∉ [a, b, c, d] := by
  have hbreak : hexDigit? '\n' = none := by decide
  intro hm
  simp only [List.mem_cons, List.not_mem_nil, or_false] at hm
  rcases hm with rfl | rfl | rfl | rfl
  all_goals
    rw [hexUnit?, hbreak] at h
    split at h
    · simp_all
    · cases h

theorem ne_break_of_shortEscape? {e c : Char} (h : shortEscape? e = some c) : e ≠ '\n' := by
  rintro rfl
  cases h

/-- What a string takes up to its closing quote holds no end of a line. -/
theorem stringUnits_eq_ok {start position : Nat} {s : List Char} {ns : List Nat} {after : Cursor}
    (h : stringUnits start position s = .ok (ns, after)) :
    ∃ body, s = body ++ '"' :: after.rest ∧ '\n' ∉ body := by
  fun_induction stringUnits start position s generalizing ns with
  | case2 position r =>
    cases h
    exact ⟨[], rfl, by simp⟩
  | case5 position a b c d e r n hunit ih =>
    obtain ⟨⟨ms, last⟩, hrest, hlast⟩ := Except.map_eq_ok.mp h
    cases hlast
    obtain ⟨body, hbody, hfree⟩ := ih hrest
    refine ⟨'\\' :: 'u' :: a :: b :: c :: d :: body, by simp [hbody], ?_⟩
    have hhex := ne_break_of_hexUnit? hunit
    simp_all
  | case8 position e r _ _ c hescape ih =>
    obtain ⟨⟨ms, last⟩, hrest, hlast⟩ := Except.map_eq_ok.mp h
    cases hlast
    obtain ⟨body, hbody, hfree⟩ := ih hrest
    refine ⟨'\\' :: e :: body, by simp [hbody], ?_⟩
    have hne := ne_break_of_shortEscape? hescape
    simp [hfree, hne.symm]
  | case10 position c r _ _ _ _ _ hcontrol ih =>
    obtain ⟨⟨ms, last⟩, hrest, hlast⟩ := Except.map_eq_ok.mp h
    cases hlast
    obtain ⟨body, hbody, hfree⟩ := ih hrest
    refine ⟨c :: body, by simp [hbody], ?_⟩
    have hne : '\n' ≠ c := by
      rintro rfl
      exact hcontrol (by decide)
    simp [hfree, hne]
  | _ => cases h

/-- So a string is passed. -/
theorem passes_readString {half : Nat → Char} {start : Nat} {c after : Cursor} {text : String}
    (h : readString half start c = .ok (text, after)) : Passes c after := by
  obtain ⟨⟨ns, last⟩, hunits, hlast⟩ := Except.map_eq_ok.mp h
  cases hlast
  obtain ⟨body, hbody, hfree⟩ := stringUnits_eq_ok hunits
  have hbreak : '\n' ∉ body ++ ['"'] := by simp [hfree]
  refine ⟨body ++ ['"'], ⟨fun hpair => hbreak (hpair.subset (by simp)), by simp⟩, ?_⟩
  rw [hbody, List.append_assoc, List.singleton_append]

/-! ## Numbers -/

theorem free_digits {ds : List Char} (h : ∀ c ∈ ds, isDigit c = true) : ')' ∉ ds :=
  fun hm => absurd (h _ hm) (by decide)

theorem isDigit_of_mem_takeWhile (s : List Char) : ∀ c ∈ s.takeWhile isDigit, isDigit c = true :=
  fun _ => List.mem_takeWhile_imp

theorem wholeDigits_front (s : List Char) :
    wholeDigits s <+: s ∧ ∀ c ∈ wholeDigits s, isDigit c = true := by
  unfold wholeDigits
  split
  · simp
  · rename_i c r
    split
    · rename_i hzero
      subst hzero
      exact ⟨⟨r, rfl⟩, by decide⟩
    · exact ⟨List.takeWhile_prefix _, isDigit_of_mem_takeWhile _⟩

theorem fractionDigits_front {s : List Char} (h : fractionDigits s ≠ []) :
    '.' :: fractionDigits s <+: s ∧ ∀ c ∈ fractionDigits s, isDigit c = true := by
  unfold fractionDigits at h ⊢
  split at h
  · exact ⟨List.prefix_cons_inj _ |>.mpr (List.takeWhile_prefix _), isDigit_of_mem_takeWhile _⟩
  · exact absurd rfl h

/-- An exponent is a letter, a sign or none, and digits. -/
theorem exponentPart_eq_some {s sign ds : List Char} (h : exponentPart s = some (sign, ds)) :
    ∃ e, e :: (sign ++ ds) <+: s ∧ ')' ∉ e :: (sign ++ ds) := by
  unfold exponentPart at h
  split at h
  · rename_i e r
    split at h
    · rename_i he
      have hletter : ')' ≠ e := by
        rintro rfl
        exact absurd he (by decide)
      split at h
      · rename_i x r'
        split at h
        rename_i sign' ds' hparts
        split at h
        · cases h
        · cases h
          split at hparts
          · rename_i hsign
            cases hparts
            have hx : ')' ≠ x := by
              rintro rfl
              exact absurd hsign (by decide)
            have hdigits := free_digits (isDigit_of_mem_takeWhile r')
            refine ⟨e, ?_, by simp [hletter, hx, hdigits]⟩
            exact (List.prefix_cons_inj e).mpr
              ((List.prefix_cons_inj x).mpr (List.takeWhile_prefix _))
          · cases hparts
            have hdigits := free_digits (isDigit_of_mem_takeWhile (x :: r'))
            refine ⟨e, (List.prefix_cons_inj e).mpr (List.takeWhile_prefix _), ?_⟩
            rw [List.nil_append, List.mem_cons, not_or]
            exact ⟨hletter, hdigits⟩
      · cases h
    · cases h
  · cases h

theorem passes_readNumber {l : Limits} {c after : Cursor} {n : Number}
    (h : readNumber l c = .ok (n, after)) : Passes c after := by
  unfold readNumber at h
  extract_lets negative afterSign whole afterWhole fraction afterFraction at h
  have hsign : Passes c afterSign := by
    unfold afterSign
    split
    · rename_i hnegative
      exact passes_one (beq_iff_eq.mp hnegative) (by decide)
    · exact .refl c
  have hwhole : Passes afterSign afterWhole := by
    obtain ⟨hfront, hdigits⟩ := wholeDigits_front afterSign.rest
    exact passes_advance hfront (free_digits hdigits) rfl
  have hfraction : Passes afterWhole afterFraction := by
    unfold afterFraction
    split
    · exact .refl afterWhole
    · rename_i hne
      obtain ⟨hfront, hdigits⟩ := fractionDigits_front (s := afterWhole.rest) (by
        simpa [fraction] using hne)
      refine passes_advance hfront ?_ rfl
      simpa using free_digits hdigits
  have hplain := (hsign.trans hwhole).trans hfraction
  split at h
  · cases h
  · split at h
    · rename_i sign ds hexponent
      cases h
      obtain ⟨e, hfront, hfree⟩ := exponentPart_eq_some hexponent
      refine hplain.trans (passes_advance hfront hfree ?_)
      simp
      omega
    · split at h
      · split at h
        · cases h
        · exact (Prod.mk.inj (Except.ok.inj h)).2 ▸ hplain
      · exact (Prod.mk.inj (Except.ok.inj h)).2 ▸ hplain

/-! ## Values -/

theorem passes_constant {c : Cursor} {word : String} {v : Json}
    (h : constantAt? c.rest = some (word, v)) : Passes c (c.advance word.length) := by
  have hfree : ∀ w ∈ constants, ')' ∉ w.1.toList := by decide
  have hfront : word.toList.isPrefixOf c.rest = true :=
    List.find?_some (p := fun w : String × Json => w.1.toList.isPrefixOf c.rest) h
  exact passes_advance (List.isPrefixOf_iff_prefix.mp hfront)
    (hfree _ (List.mem_of_find?_eq_some h)) String.length_toList.symm

/-- A reader passes such a text whatever it reads. -/
def PassesAll {α : Type} (reader : Cursor → Except Stop (α × Cursor)) : Prop :=
  ∀ c a after, reader c = .ok (a, after) → Passes c after

/-- A mark is passed with the spacing behind it. -/
theorem passes_mark {c : Cursor} {d : Char} (hhead : c.rest.head? = some d) (hd : d ≠ ')') :
    Passes c (c.advance 1).skipSpacing :=
  (passes_one hhead hd).trans (passes_skipSpacing _)

/-- Behind an opening bracket stands the closing one, or what is read up to it. -/
theorem passes_enclosed {α : Type} {reader : Cursor → Except Stop (α × Cursor)}
    (hreader : PassesAll reader) {close : Char} (hclose : close ≠ ')') {c after : Cursor}
    {empty v : Json} {f : α × Cursor → Json × Cursor} (hf : ∀ a last, (f (a, last)).2 = last)
    (h : (if c.rest.head? = some close then .ok (empty, c.advance 1) else (reader c).map f) =
      .ok (v, after)) : Passes c after := by
  split at h
  · rename_i hhead
    cases h
    exact passes_one hhead hclose
  · obtain ⟨⟨a, last⟩, hread, hlast⟩ := Except.map_eq_ok.mp h
    obtain rfl : last = after := (hf a last).symm.trans (congrArg Prod.snd hlast)
    exact hreader _ _ _ hread

section

variable {l : Limits} {fuel depth : Nat}

theorem passes_readValue (hitems : ∀ depth, PassesAll (readItems l fuel depth))
    (hentries : ∀ depth, PassesAll (readEntries l fuel depth)) :
    PassesAll (readValue l (fuel + 1) depth) := by
  intro c v after h
  rw [readValue] at h
  split at h
  · rename_i r hrest
    obtain ⟨⟨text, last⟩, hstring, hlast⟩ := Except.map_eq_ok.mp h
    cases hlast
    exact (passes_one (by rw [hrest]; rfl) (by decide)).trans (passes_readString hstring)
  · rename_i r hrest
    dsimp only at h
    split at h
    · cases h
    · exact (passes_mark (by rw [hrest]; rfl) (by decide)).trans
        (passes_enclosed (hentries _) (show '}' ≠ ')' by decide) (fun _ _ => rfl) h)
  · rename_i r hrest
    dsimp only at h
    split at h
    · cases h
    · exact (passes_mark (by rw [hrest]; rfl) (by decide)).trans
        (passes_enclosed (hitems _) (show ']' ≠ ')' by decide) (fun _ _ => rfl) h)
  · split at h
    · rename_i word w hword
      cases h
      exact passes_constant hword
    · obtain ⟨⟨n, last⟩, hread, hlast⟩ := Except.map_eq_ok.mp h
      cases hlast
      exact passes_readNumber hread

theorem passes_readItems (hvalue : PassesAll (readValue l fuel depth))
    (hitems : PassesAll (readItems l fuel depth)) :
    PassesAll (readItems l (fuel + 1) depth) := by
  intro c vs after h
  rw [readItems] at h
  obtain ⟨⟨v, afterValue⟩, hread, h⟩ := Except.bind_eq_ok.mp h
  have hnext := (hvalue _ _ _ hread).trans (passes_skipSpacing afterValue)
  dsimp only at h
  split at h
  · rename_i r hrest
    cases h
    exact hnext.trans (passes_one (by rw [hrest]; rfl) (by decide))
  · rename_i r hrest
    obtain ⟨⟨ws, last⟩, hmore, h⟩ := Except.bind_eq_ok.mp h
    cases h
    exact (hnext.trans (passes_mark (by rw [hrest]; rfl) (by decide))).trans (hitems _ _ _ hmore)
  · cases h

theorem passes_readEntries (hvalue : PassesAll (readValue l fuel depth))
    (hentries : PassesAll (readEntries l fuel depth)) :
    PassesAll (readEntries l (fuel + 1) depth) := by
  intro c es after h
  rw [readEntries] at h
  split at h
  · cases h
  · rename_i hquote
    obtain ⟨⟨key, afterKey⟩, hkey, h⟩ := Except.bind_eq_ok.mp h
    have hcolon := ((passes_one (not_not.mp hquote) (by decide)).trans
      (passes_readString hkey)).trans (passes_skipSpacing afterKey)
    dsimp only at h
    split at h
    · cases h
    · rename_i hmark
      obtain ⟨⟨v, afterValue⟩, hread, h⟩ := Except.bind_eq_ok.mp h
      have hnext := ((hcolon.trans (passes_mark (not_not.mp hmark) (by decide))).trans
        (hvalue _ _ _ hread)).trans (passes_skipSpacing afterValue)
      dsimp only at h
      split at h
      · rename_i r hrest
        cases h
        exact hnext.trans (passes_one (by rw [hrest]; rfl) (by decide))
      · rename_i r hrest
        obtain ⟨⟨fs, last⟩, hmore, h⟩ := Except.bind_eq_ok.mp h
        cases h
        exact (hnext.trans (passes_mark (by rw [hrest]; rfl) (by decide))).trans
          (hentries _ _ _ hmore)
      · cases h

end

/-- Every reader passes such a text, however deep it may go. -/
theorem passes_read (l : Limits) (fuel depth : Nat) : PassesAll (readValue l fuel depth) ∧
    PassesAll (readItems l fuel depth) ∧ PassesAll (readEntries l fuel depth) := by
  induction fuel generalizing depth with
  | zero =>
    refine ⟨fun c v after h => ?_, fun c vs after h => ?_, fun c es after h => ?_⟩
    all_goals cases h
  | succ fuel ih =>
    obtain ⟨hvalue, hitems, hentries⟩ := ih depth
    exact ⟨passes_readValue (fun inner => (ih inner).2.1) fun inner => (ih inner).2.2,
      passes_readItems hvalue hitems, passes_readEntries hvalue hentries⟩

/-- No line of a document ends in a closing parenthesis. -/
theorem lacks_of_read {l : Limits} {text : String} {v : Json} (h : read l text = .ok v) :
    Lacks ')' '\n' text := by
  rw [read] at h
  split at h
  · rename_i w hw
    rw [readChars] at hw
    split at hw
    · cases hw
    · obtain ⟨⟨u, after⟩, hvalue, hw⟩ := Except.bind_eq_ok.mp hw
      have hpasses := ((passes_skipSpacing ⟨0, text.toList⟩).trans
        ((passes_read l _ _).1 _ _ _ hvalue)).trans (passes_skipSpacing after)
      dsimp only at hw
      split at hw
      · rename_i hend
        obtain ⟨used, hused, hrest⟩ := hpasses
        have hall : text.toList = used := by
          rw [List.isEmpty_iff.mp hend, List.append_nil] at hrest
          exact hrest
        rw [Lacks, hall]
        exact hused.lacks
      · cases hw
  · cases h
  · cases h

end Json

end TypeSketch
