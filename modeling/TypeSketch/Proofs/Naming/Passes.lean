-- The words of a name, found in four passes over it: a space is put between a small
-- letter and a capital one, then before the last capital of a run, then in the place
-- of punctuation and at last in that of blanks. One look from left to right finds the
-- same words, since no pass undoes or hides what another one looks for.
import TypeSketch.Naming.Words
import TypeSketch.Proofs.Text.Lines
import Mathlib.Data.List.TakeWhile

namespace TypeSketch.Naming

open Text

/-! ## Passes -/

/-- A text in which what a rule finds is written anew. The rule looks at the head of a text: it
gives the new text and how many characters it takes besides the first one. The search goes from
left to right and on behind what was found. -/
def substitute (rule : List Char → Option (List Char × Nat)) : List Char → List Char
  | [] => []
  | c :: r =>
    match rule (c :: r) with
    | some (new, n) => new ++ substitute rule (r.drop n)
    | none => c :: substitute rule r
termination_by s => s.length
decreasing_by
  all_goals
    simp only [List.length_drop, List.length_cons]
    omega

/-- A space between a small letter and a capital one. -/
def smallBeforeCapital : List Char → Option (List Char × Nat)
  | a :: b :: _ => if isLower a && isUpper b then some ([a, ' ', b], 1) else none
  | _ => none

/-- A space before the last of two or more capitals that a small letter follows. All capitals up to
the next other character are taken, and it. -/
def capitalsBeforeSmall (s : List Char) : Option (List Char × Nat) :=
  match (s.takeWhile isUpper).reverse, s.dropWhile isUpper with
  | x :: y :: u, d :: _ =>
    if isLower d then some ((y :: u).reverse ++ [' ', x, d], (y :: u).length + 1) else none
  | _, _ => none

/-- One space for all neighbours of some class. -/
def runsOf (p : Char → Bool) : List Char → Option (List Char × Nat)
  | c :: r => if p c then some ([' '], (r.takeWhile p).length) else none
  | [] => none

/-- Whether a character is punctuation that separates words. -/
def isSeparator (c : Char) : Bool := c == '-' || c == '_' || c == '.' || c == '/' || c == '\\'

/-- What is left of a text between the characters of some class, but for nothing. -/
def piecesLeft (p : Char → Bool) (s : List Char) : List (List Char) :=
  (piecesBy p s).filter (!·.isEmpty)

/-- The words of a name after four passes. The blanks around the outcome are dropped before it is
cut at its spaces. -/
def passedWords (s : List Char) : List (List Char) :=
  piecesLeft (· == ' ') (dropAround isBlank
    (substitute (runsOf isBlank) (substitute (runsOf isSeparator)
      (substitute capitalsBeforeSmall (substitute smallBeforeCapital s)))))

/-! ## Letters -/

/-- A text with a space between two neighbours wherever a test on them, and on what follows,
says so. -/
def spacedAt (f : Char → Char → List Char → Bool) : List Char → List Char
  | a :: b :: r => if f a b r then a :: ' ' :: spacedAt f (b :: r) else a :: spacedAt f (b :: r)
  | s => s

theorem spacedAt_cons {f : Char → Char → List Char → Bool} {a : Char}
    (h : ∀ b r, f a b r = false) (r : List Char) : spacedAt f (a :: r) = a :: spacedAt f r := by
  cases r with
  | nil => rfl
  | cons b r => rw [spacedAt, h b r, if_neg Bool.false_ne_true]

theorem head?_spacedAt (f : Char → Char → List Char → Bool) (s : List Char) :
    (spacedAt f s).head? = s.head? := by
  match s with
  | [] => rfl
  | [a] => rfl
  | a :: b :: r =>
    rw [spacedAt]
    split <;> rfl

theorem isLower_of_isUpper {c : Char} (h : isUpper c = true) : isLower c = false := by
  have hZ : 'Z'.val.toNat = 90 := rfl
  have ha : 'a'.val.toNat = 97 := rfl
  simp only [isUpper, isLower, Bool.and_eq_true, Bool.and_eq_false_iff, decide_eq_true_eq,
    decide_eq_false_iff_not, Char.le_def, UInt32.le_iff_toNat_le] at h ⊢
  omega

theorem isUpper_of_isLower {c : Char} (h : isLower c = true) : isUpper c = false := by
  rw [← Bool.not_eq_true]
  intro hc
  rw [isLower_of_isUpper hc] at h
  cases h

/-- The test of the first pass. -/
def isRise (a b : Char) (_ : List Char) : Bool := isLower a && isUpper b

/-- The test of the second pass, at two neighbours. -/
def isLastCapital (a b : Char) (r : List Char) : Bool :=
  isUpper a && isUpper b && r.head?.any isLower

/-- A capital that was taken is no small letter, so no place is missed behind it. -/
theorem substitute_smallBeforeCapital :
    ∀ s : List Char, substitute smallBeforeCapital s = spacedAt isRise s
  | [] => by rw [substitute, spacedAt]; simp
  | [a] => by simp [substitute, smallBeforeCapital, spacedAt]
  | a :: b :: r => by
    have hr := substitute_smallBeforeCapital r
    have hbr := substitute_smallBeforeCapital (b :: r)
    rw [substitute, smallBeforeCapital, spacedAt, isRise]
    by_cases h : (isLower a && isUpper b) = true
    · have hb : ∀ c t, isRise b c t = false := fun c t => by
        rw [isRise, isLower_of_isUpper (Bool.and_eq_true_iff.mp h).2, Bool.false_and]
      rw [if_pos h, if_pos h, spacedAt_cons hb]
      simp [hr]
    · rw [if_neg h, if_neg h]
      simp [hbr]

/-- A run of capitals before a small letter is parted before its last one, and nowhere else. -/
theorem spacedAt_capitals {u : List Char} (hne : u ≠ []) (hu : ∀ c ∈ u, isUpper c = true)
    {x d : Char} (hx : isUpper x = true) (hd : isLower d = true) (t : List Char) :
    spacedAt isLastCapital (u ++ x :: d :: t) =
      u ++ ' ' :: x :: d :: spacedAt isLastCapital t := by
  have hsmall := isUpper_of_isLower hd
  induction u with
  | nil => exact absurd rfl hne
  | cons a u ih =>
    rw [List.forall_mem_cons] at hu
    cases u with
    | nil =>
      have hafter : spacedAt isLastCapital (x :: d :: t) =
          x :: d :: spacedAt isLastCapital t := by
        rw [spacedAt, isLastCapital, hsmall, Bool.and_false, Bool.false_and,
          if_neg Bool.false_ne_true, spacedAt_cons fun b r => by simp [isLastCapital, hsmall]]
      rw [List.singleton_append, spacedAt, hafter]
      simp [isLastCapital, hu.1, hx, hd]
    | cons b u =>
      have hnext : (u ++ x :: d :: t).head?.any isLower = false := by
        cases u with
        | nil => simpa using isLower_of_isUpper hx
        | cons c u => simpa using isLower_of_isUpper (hu.2 c (by simp))
      rw [List.cons_append, List.cons_append, spacedAt, isLastCapital, hnext, Bool.and_false,
        if_neg Bool.false_ne_true, ← List.cons_append, ih (List.cons_ne_nil b u) hu.2]
      rfl

/-- What the second pass finds is a run of two or more capitals before a small letter. -/
theorem capitalsBeforeSmall_eq_some {s new : List Char} {n : Nat}
    (h : capitalsBeforeSmall s = some (new, n)) :
    ∃ (u : List Char) (x d : Char) (t : List Char), s = u ++ x :: d :: t ∧ u ≠ [] ∧
      (∀ c ∈ u, isUpper c = true) ∧ isUpper x = true ∧ isLower d = true ∧
      new = u ++ [' ', x, d] ∧ n = u.length + 1 := by
  rw [capitalsBeforeSmall] at h
  split at h
  · rename_i x y u d t hrun hrest
    split at h
    · rename_i hd
      obtain ⟨rfl, rfl⟩ := Prod.mk.inj (Option.some.inj h)
      have hrun : s.takeWhile isUpper = (y :: u).reverse ++ [x] := by
        rw [← List.reverse_cons, ← hrun, List.reverse_reverse]
      have hs : s = (y :: u).reverse ++ x :: d :: t := by
        rw [← List.takeWhile_append_dropWhile (p := isUpper) (l := s), hrun, hrest,
          List.append_assoc]
        rfl
      have hupper : ∀ c ∈ (y :: u).reverse ++ [x], isUpper c = true := fun c hc =>
        List.mem_takeWhile_imp (hrun ▸ hc)
      exact ⟨_, x, d, t, hs, by simp, fun c hc => hupper c (List.mem_append_left _ hc),
        hupper x (by simp), hd, rfl, by simp⟩
    · cases h
  · cases h

/-- The capitals of a run are taken at once or not at all, so one look at each place does. -/
theorem substitute_capitalsBeforeSmall (s : List Char) :
    substitute capitalsBeforeSmall s = spacedAt isLastCapital s := by
  induction hlen : s.length using Nat.strongRecOn generalizing s with
  | ind n ih =>
    cases s with
    | nil => rw [substitute, spacedAt]; simp
    | cons c r =>
      rw [substitute]
      cases hfound : capitalsBeforeSmall (c :: r) with
      | some found =>
        obtain ⟨new, k⟩ := found
        obtain ⟨u, x, d, t, hs, hne, hu, hx, hd, rfl, rfl⟩ := capitalsBeforeSmall_eq_some hfound
        have hrest : r.drop (u.length + 1) = t := by
          rw [← List.drop_succ_cons (a := c), hs, List.append_cons, List.append_cons]
          exact List.drop_left' (by simp)
        have ht := ih t.length (by rw [← hlen, hs]; simp; omega) t rfl
        rw [hs, spacedAt_capitals hne hu hx hd]
        simp [hrest, ht]
      | none =>
        have hr := ih r.length (by rw [← hlen]; simp) r rfl
        simp only [hr]
        cases r with
        | nil => rfl
        | cons b t =>
          have hnot : isLastCapital c b t = false := by
            rw [← Bool.not_eq_true]
            intro h
            simp only [isLastCapital, Bool.and_eq_true, Option.any_eq_true] at h
            obtain ⟨⟨hc, hb⟩, d, hd, hlower⟩ := h
            obtain ⟨t, rfl⟩ := List.head?_eq_some_iff.mp hd
            have hsmall : isUpper d = false := isUpper_of_isLower hlower
            simp [capitalsBeforeSmall, hc, hb, hsmall, hlower] at hfound
          rw [spacedAt, hnot, if_neg Bool.false_ne_true]

/-- After the first pass the second one parts a name where one look does. -/
theorem spacedAt_spacedAt (s : List Char) :
    spacedAt isLastCapital (spacedAt isRise s) = spaced s := by
  have hplain {a : Char} (ha : isUpper a = false) (r : List Char) :
      spacedAt isLastCapital (a :: r) = a :: spacedAt isLastCapital r :=
    spacedAt_cons (fun b t => by rw [isLastCapital, ha, Bool.false_and, Bool.false_and]) r
  match s with
  | [] => rfl
  | [a] => rfl
  | a :: b :: r =>
    have ih := spacedAt_spacedAt (b :: r)
    rw [spaced, spacedAt]
    by_cases hrise : isRise a b r = true
    · obtain ⟨ha, hb⟩ := Bool.and_eq_true_iff.mp hrise
      rw [if_pos hrise, hplain (isUpper_of_isLower ha), hplain (by decide), ih, isBoundary, ha, hb]
      rfl
    · -- nothing has been put behind a capital, so what follows it is what followed before
      obtain ⟨x, hx, hhead⟩ : ∃ x, spacedAt isRise (b :: r) = b :: x ∧
          (isUpper b = true → x.head? = r.head?) := by
        by_cases hb : isUpper b = true
        · refine ⟨_, spacedAt_cons (fun c t => ?_) r, fun _ => head?_spacedAt _ _⟩
          rw [isRise, isLower_of_isUpper hb, Bool.false_and]
        · obtain ⟨x, hx⟩ := List.head?_eq_some_iff.mp (head?_spacedAt isRise (b :: r))
          exact ⟨x, hx, fun h => absurd h hb⟩
      have htest : isLastCapital a b x = isBoundary a b r := by
        rw [isLastCapital, isBoundary, show (isLower a && isUpper b) = false from
          Bool.eq_false_iff.mpr hrise, Bool.false_or]
        by_cases hb : isUpper b = true
        · rw [hhead hb]
        · rw [Bool.eq_false_iff.mpr hb, Bool.and_false, Bool.false_and, Bool.false_and]
      rw [hx] at ih
      rw [if_neg hrise, hx, spacedAt, ih, htest]

/-! ## Gaps -/

@[simp]
theorem piecesLeft_nil (p : Char → Bool) : piecesLeft p [] = [] := rfl

theorem piecesLeft_append {p : Char → Bool} {c : Char} (hc : p c = true) (s t : List Char) :
    piecesLeft p (s ++ c :: t) = piecesLeft p s ++ piecesLeft p t := by
  rw [piecesLeft, piecesBy_append hc, List.filter_append, piecesLeft, piecesLeft]

theorem piecesLeft_cons {p : Char → Bool} {c : Char} (hc : p c = true) (s : List Char) :
    piecesLeft p (c :: s) = piecesLeft p s :=
  piecesLeft_append hc [] s

/-- Nothing is left of what stands before the first character that is left, if any is. -/
theorem piecesLeft_dropWhile {p q : Char → Bool} {s : List Char}
    (h : ∀ c ∈ s, q c = true → p c = true) : piecesLeft p (s.dropWhile q) = piecesLeft p s := by
  induction s with
  | nil => rfl
  | cons c r ih =>
    rw [List.forall_mem_cons] at h
    by_cases hc : q c = true
    · rw [List.dropWhile_cons_of_pos hc, ih h.2, piecesLeft_cons (h.1 hc)]
    · rw [List.dropWhile_cons_of_neg hc]

theorem piecesLeft_append_of_all {p : Char → Bool} (s : List Char) {t : List Char}
    (h : ∀ c ∈ t, p c = true) : piecesLeft p (s ++ t) = piecesLeft p s := by
  cases t with
  | nil => rw [List.append_nil]
  | cons c t =>
    rw [List.forall_mem_cons] at h
    have ht : piecesLeft p t = [] := by
      rw [← piecesLeft_dropWhile (q := p) fun _ _ hc => hc, List.dropWhile_eq_nil_iff.mpr h.2]
      rfl
    rw [piecesLeft_append h.1, ht, List.append_nil]

theorem piecesLeft_dropAround {p q : Char → Bool} {s : List Char}
    (h : ∀ c ∈ s, q c = true → p c = true) : piecesLeft p (dropAround q s) = piecesLeft p s := by
  have hfront := piecesLeft_dropWhile h
  have hall : ∀ c ∈ (s.dropWhile q).reverse.takeWhile q, p c = true := fun c hc =>
    h c ((List.dropWhile_suffix q).mem (List.mem_reverse.mp ((List.takeWhile_sublist q).mem hc)))
      (List.mem_takeWhile_imp hc)
  have hsplit : s.dropWhile q =
      dropAround q s ++ ((s.dropWhile q).reverse.takeWhile q).reverse := by
    rw [dropAround, dropTrailing, ← List.reverse_append, List.takeWhile_append_dropWhile,
      List.reverse_reverse]
  rw [← hfront, hsplit, piecesLeft_append_of_all _ (by simpa using hall)]

theorem substitute_runsOf_pos {p : Char → Bool} {c : Char} (hc : p c = true) (r : List Char) :
    substitute (runsOf p) (c :: r) = ' ' :: substitute (runsOf p) (r.dropWhile p) := by
  have hdrop : r.drop (r.takeWhile p).length = r.dropWhile p :=
    (congrArg (List.drop _) List.takeWhile_append_dropWhile).symm.trans (List.drop_left' rfl)
  rw [substitute, runsOf, if_pos hc]
  simp [hdrop]

theorem substitute_runsOf_neg {p : Char → Bool} {c : Char} (hc : ¬ p c = true) (r : List Char) :
    substitute (runsOf p) (c :: r) = c :: substitute (runsOf p) r := by
  rw [substitute, runsOf, if_neg hc]

/-- One space for a run of characters parts a text where each of them would. The pieces are the
same but for empty ones behind the first. -/
theorem exists_piecesBy_runsOf {p q : Char → Bool} (hq : q ' ' = true) (s : List Char) :
    ∃ w ws vs, piecesBy q (substitute (runsOf p) s) = w :: ws ∧
      piecesBy (fun c => p c || q c) s = w :: vs ∧
      ws.filter (!·.isEmpty) = vs.filter (!·.isEmpty) := by
  induction hlen : s.length using Nat.strongRecOn generalizing s with
  | ind n ih =>
    cases s with
    | nil => exact ⟨[], [], [], by rw [substitute]; rfl, rfl, rfl⟩
    | cons c r =>
      have hleft (t : List Char) (ht : t.length < n) :
          piecesLeft q (substitute (runsOf p) t) = piecesLeft (fun c => p c || q c) t := by
        obtain ⟨w, ws, vs, hws, hvs, hfilter⟩ := ih t.length ht t rfl
        rw [piecesLeft, piecesLeft, hws, hvs, List.filter_cons, List.filter_cons, hfilter]
      have hlength : r.length < n := by
        rw [← hlen]
        exact Nat.lt_succ_self _
      by_cases hc : p c = true
      · have hdrop := (List.dropWhile_suffix p (l := r)).length_le
        refine ⟨[], _, _, by rw [substitute_runsOf_pos hc, piecesBy, if_pos hq],
          by rw [piecesBy, if_pos (by rw [hc]; rfl)], ?_⟩
        have hrest := hleft (r.dropWhile p) (Nat.lt_of_le_of_lt hdrop hlength)
        rwa [piecesLeft_dropWhile fun c _ hc => by rw [hc]; rfl] at hrest
      · rw [substitute_runsOf_neg hc]
        by_cases hsep : q c = true
        · exact ⟨[], _, _, by rw [piecesBy, if_pos hsep],
            by rw [piecesBy, if_pos (by rw [hsep, Bool.or_true])], hleft r hlength⟩
        · obtain ⟨w, ws, vs, hws, hvs, hfilter⟩ := ih r.length hlength r rfl
          refine ⟨c :: w, ws, vs, ?_, ?_, hfilter⟩
          · rw [piecesBy, if_neg hsep, hws]
          · rw [piecesBy, if_neg (by simp [hc, hsep]), hvs]

theorem piecesLeft_runsOf {p q : Char → Bool} (hq : q ' ' = true) (s : List Char) :
    piecesLeft q (substitute (runsOf p) s) = piecesLeft (fun c => p c || q c) s := by
  obtain ⟨w, ws, vs, hws, hvs, hfilter⟩ := exists_piecesBy_runsOf (p := p) hq s
  rw [piecesLeft, piecesLeft, hws, hvs, List.filter_cons, List.filter_cons, hfilter]

theorem mem_substitute_runsOf {p : Char → Bool} {s : List Char} {c : Char}
    (h : c ∈ substitute (runsOf p) s) : p c = false ∨ c = ' ' := by
  induction hlen : s.length using Nat.strongRecOn generalizing s with
  | ind n ih =>
    cases s with
    | nil => rw [substitute] at h; cases h
    | cons d r =>
      by_cases hd : p d = true
      · rw [substitute_runsOf_pos hd] at h
        rcases List.mem_cons.mp h with h | h
        · exact .inr h
        · have hdrop := (List.dropWhile_suffix p (l := r)).length_le
          exact ih _ (by rw [← hlen]; exact Nat.lt_succ_of_le hdrop) h rfl
      · rw [substitute_runsOf_neg hd] at h
        rcases List.mem_cons.mp h with rfl | h
        · exact .inl (Bool.eq_false_iff.mpr hd)
        · exact ih _ (by rw [← hlen]; exact Nat.lt_succ_self _) h rfl

/-- The four passes find the words that one look finds. -/
theorem wordChars_eq_passedWords (s : List Char) : wordChars s = passedWords s := by
  have hgap : isGap = fun c => isSeparator c || (isBlank c || c == ' ') := by
    funext c
    have hspace : (isBlank c || c == ' ') = isBlank c := by
      by_cases hc : c = ' '
      · rw [hc]
        rfl
      · rw [beq_eq_false_iff_ne.mpr hc, Bool.or_false]
    rw [hspace]
    rfl
  have hblanks : ∀ (t : List Char), ∀ c ∈ substitute (runsOf isBlank) t, isBlank c = true →
      (c == ' ') = true := by
    intro t c hc hblank
    rcases mem_substitute_runsOf hc with hc | hc
    · rw [hblank] at hc
      cases hc
    · exact beq_iff_eq.mpr hc
  rw [passedWords, piecesLeft_dropAround (hblanks _), piecesLeft_runsOf (by rfl),
    piecesLeft_runsOf (by rfl), substitute_smallBeforeCapital, substitute_capitalsBeforeSmall,
    spacedAt_spacedAt, ← hgap]
  rfl

end TypeSketch.Naming
