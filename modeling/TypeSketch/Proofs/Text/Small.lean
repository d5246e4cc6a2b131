-- The small form of a text is its own small form. Every letter that a capital one
-- becomes is a small one, so there is nothing left to change, in the text or in any
-- part of it. What comes before the letters of ASCII is in the small form only if it
-- was in the text.
import TypeSketch.Text.CaseMap

namespace TypeSketch.Text

/-! ## Runs of letters -/

/-- The runs of all characters that have a small form of their own: those of ASCII, the dotted
capital `İ`, whose small form is two characters, and the runs of single letters. -/
def changedRuns : List CaseRun := ⟨0x41, 0x5A, 1, 32⟩ :: ⟨0x130, 0x130, 1, 0⟩ :: smallRuns

/-- Whether a run gives no letter that another one holds: they lie apart, or every second code
point counts in both and they never meet. -/
def CaseRun.misses (r q : CaseRun) : Bool :=
  Nat.blt (r.last + r.distance).toNat q.first || Nat.blt q.last (r.first + r.distance).toNat ||
    (q.step == 2 && (r.step == 2 || r.first == r.last) &&
      (r.first + r.distance).toNat % 2 != q.first % 2)

/-- A run whose letters all have an image among the characters. -/
structure CaseRun.Proper (r : CaseRun) : Prop where
  nonneg : 0 ≤ r.first + r.distance
  valid : (r.last + r.distance).toNat < 0xD800 ∨
    0xDFFF < (r.first + r.distance).toNat ∧ (r.last + r.distance).toNat < 0x110000

theorem misses_smallRuns : ∀ r ∈ smallRuns, ∀ q ∈ changedRuns, r.misses q = true := by
  have hall : smallRuns.all (fun r => changedRuns.all r.misses) = true := by decide +kernel
  simpa using hall

theorem proper_smallRuns : ∀ r ∈ smallRuns, r.Proper := by
  have hall : ∀ r ∈ smallRuns, 0 ≤ r.first + r.distance ∧
      ((r.last + r.distance).toNat < 0xD800 ∨
        0xDFFF < (r.first + r.distance).toNat ∧ (r.last + r.distance).toNat < 0x110000) := by
    decide +kernel
  exact fun r hr => ⟨(hall r hr).1, (hall r hr).2⟩

theorem CaseRun.image?_eq_some {r : CaseRun} {n m : Nat} (h : r.image? n = some m) :
    r.first ≤ n ∧ n ≤ r.last ∧ (n - r.first) % r.step = 0 ∧ (n + r.distance).toNat = m := by
  rw [image?] at h
  split at h
  · rename_i hn
    exact ⟨hn.1, hn.2.1, hn.2.2, Option.some.inj h⟩
  · cases h

theorem CaseRun.Proper.isValidChar {r : CaseRun} (hr : r.Proper) {n m : Nat}
    (h : r.image? n = some m) : m.isValidChar := by
  obtain ⟨hfirst, hlast, _, rfl⟩ := image?_eq_some h
  have hnonneg := hr.nonneg
  rcases hr.valid with hvalid | hvalid
  · exact .inl (by omega)
  · exact .inr (by omega)

/-- What a run gives is not held by one that it misses. -/
theorem CaseRun.Proper.image?_of_misses {r q : CaseRun} (hr : r.Proper)
    (hmisses : r.misses q = true) {n m : Nat} (h : r.image? n = some m) : q.image? m = none := by
  obtain ⟨hfirst, hlast, hstep, rfl⟩ := image?_eq_some h
  have hnonneg := hr.nonneg
  rw [image?, if_neg]
  rintro ⟨hqfirst, hqlast, hqstep⟩
  simp only [misses, Bool.or_eq_true, Nat.blt_eq, Bool.and_eq_true, beq_iff_eq, bne_iff_ne]
    at hmisses
  rcases hmisses with (hbelow | habove) | ⟨⟨htwo, hevery⟩, hparity⟩
  · omega
  · omega
  · rw [htwo] at hqstep
    rcases hevery with hevery | hsingle
    · rw [hevery] at hstep
      omega
    · omega

/-! ## Characters -/

/-- A character that is its own small form, wherever it stands. -/
def StaysSmall (c : Char) : Prop := c ≠ 'Σ' ∧ smallChar c = [c]

instance (c : Char) : Decidable (StaysSmall c) :=
  inferInstanceAs (Decidable (c ≠ 'Σ' ∧ smallChar c = [c]))

theorem staysSmall_of_changedRuns {c : Char} (h : ∀ q ∈ changedRuns, q.image? c.toNat = none) :
    StaysSmall c := by
  rw [changedRuns, List.forall_mem_cons, List.forall_mem_cons] at h
  obtain ⟨hascii, hdotted, hruns⟩ := h
  rw [← List.findSome?_eq_none_iff] at hruns
  refine ⟨?_, ?_⟩
  · rintro rfl
    exact absurd hruns (by decide +kernel)
  · have hlower : lowerChar c = c := by
      have hupper : ¬ isUpper c = true := by
        intro hc
        simp only [isUpper, Bool.and_eq_true, decide_eq_true_eq, Char.le_def,
          UInt32.le_iff_toNat_le] at hc
        rw [CaseRun.image?, if_pos ⟨hc.1, hc.2, Nat.mod_one _⟩] at hascii
        cases hascii
      rw [lowerChar, if_neg hupper]
    have hne : c.toNat ≠ 0x130 := by
      intro hc
      rw [hc] at hdotted
      cases hdotted
    rw [smallChar, hlower, if_neg hne, alongRuns, hruns]
    exact ite_self _

/-- The small form of a character stays as it is. -/
theorem staysSmall_of_mem_smallChar {c d : Char} (hc : c ≠ 'Σ') (h : d ∈ smallChar c) :
    StaysSmall d := by
  rw [smallChar] at h
  split at h
  · rename_i hascii
    have hall : ∀ n < 0x80, StaysSmall (lowerChar (Char.ofNat n)) := by decide +kernel
    rw [List.mem_singleton.mp h, ← Char.ofNat_toNat c]
    exact hall c.toNat hascii
  · rename_i hascii
    split at h
    · have hall : ∀ d ∈ ['i', Char.ofNat 0x307], StaysSmall d := by
        decide +kernel
      exact hall d h
    · rename_i hdotted
      rw [List.mem_singleton] at h
      subst h
      rw [alongRuns]
      cases hm : smallRuns.findSome? (·.image? c.toNat) with
      | none =>
        exact ⟨hc, by rw [smallChar, if_neg hascii, if_neg hdotted, alongRuns, hm]⟩
      | some m =>
        obtain ⟨r, hr, hrm⟩ := List.exists_of_findSome?_eq_some hm
        have hproper := proper_smallRuns r hr
        have hcode : (Char.ofNat m).toNat = m := by
          rw [Char.ofNat, dif_pos (hproper.isValidChar hrm)]
          rfl
        apply staysSmall_of_changedRuns
        intro q hq
        rw [hcode]
        exact hproper.image?_of_misses (misses_smallRuns r hr q hq) hrm

/-! ## Texts -/

theorem staysSmall_of_mem_smallChars {before s : List Char} {d : Char}
    (h : d ∈ smallChars before s) : StaysSmall d := by
  induction s generalizing before with
  | nil => cases h
  | cons c r ih =>
    rw [smallChars, List.mem_append] at h
    rcases h with h | h
    · split at h
      · have hall : StaysSmall 'ς' ∧ StaysSmall 'σ' := by decide +kernel
        rw [List.mem_singleton.mp h]
        split
        · exact hall.1
        · exact hall.2
      · exact staysSmall_of_mem_smallChar ‹_› h
    · exact ih h

theorem smallChars_eq_self {s : List Char} (h : ∀ c ∈ s, StaysSmall c) (before : List Char) :
    smallChars before s = s := by
  induction s generalizing before with
  | nil => rfl
  | cons c r ih =>
    rw [List.forall_mem_cons] at h
    rw [smallChars, if_neg h.1.1, h.1.2, ih h.2, List.singleton_append]

/-- A text made of characters of a small form is its own small form. -/
theorem toSmall_eq_self {s t : String} (h : ∀ c ∈ t.toList, c ∈ (toSmall s).toList) :
    toSmall t = t := by
  have hall : ∀ c ∈ t.toList, StaysSmall c := by
    intro c hc
    have hsmall := h c hc
    rw [toSmall, String.toList_ofList] at hsmall
    exact staysSmall_of_mem_smallChars hsmall
  rw [toSmall, smallChars_eq_self hall, String.ofList_toList]

theorem toSmall_toSmall (s : String) : toSmall (toSmall s) = toSmall s :=
  toSmall_eq_self fun _ hc => hc

/-! ## Marks -/

/-- The first of the characters that small letters are made of or become. -/
def firstLetter : Nat := 0x41

theorem firstLetter_le_smallRuns :
    ∀ r ∈ smallRuns, (firstLetter : Int) ≤ r.first + r.distance := by
  decide +kernel

/-- A mark below the letters is the small form of itself alone. -/
theorem eq_of_mem_smallChar {c d : Char} (hd : d.toNat < firstLetter) (h : d ∈ smallChar c) :
    d = c := by
  have hascii : ∀ n < 0x80, (lowerChar (Char.ofNat n)).toNat < firstLetter →
      lowerChar (Char.ofNat n) = Char.ofNat n := by
    decide +kernel
  rw [smallChar] at h
  split at h
  · rename_i hc
    obtain rfl := List.mem_singleton.mp h
    rw [← Char.ofNat_toNat c] at hd ⊢
    exact hascii c.toNat hc hd
  · split at h
    · have hall : ∀ d ∈ ['i', Char.ofNat 0x307], ¬ d.toNat < firstLetter := by decide
      exact absurd hd (hall d h)
    · rw [List.mem_singleton, alongRuns] at h
      cases hm : smallRuns.findSome? (·.image? c.toNat) with
      | none => rwa [hm] at h
      | some m =>
        obtain ⟨r, hr, hrm⟩ := List.exists_of_findSome?_eq_some hm
        obtain ⟨hfirst, _, _, himage⟩ := CaseRun.image?_eq_some hrm
        have hcode : (Char.ofNat m).toNat = m := by
          rw [Char.ofNat, dif_pos ((proper_smallRuns r hr).isValidChar hrm)]
          rfl
        have hletter := firstLetter_le_smallRuns r hr
        rw [hm] at h
        simp only [h, hcode] at hd
        omega

/-- A mark in the small form of a text is one in the text. -/
theorem mem_of_mem_toSmall {s : String} {c : Char} (hc : c.toNat < firstLetter)
    (h : c ∈ (toSmall s).toList) : c ∈ s.toList := by
  have hall (before r : List Char) (h : c ∈ smallChars before r) : c ∈ r := by
    induction r generalizing before with
    | nil => exact h
    | cons d r ih =>
      rw [smallChars, List.mem_append] at h
      rcases h with h | h
      · split at h
        · have hsigma : ∀ d ∈ ['ς', 'σ'], ¬ d.toNat < firstLetter := by decide
          refine absurd hc (hsigma c ?_)
          split at h <;> simp [List.mem_singleton.mp h]
        · exact List.mem_cons.mpr (.inl (eq_of_mem_smallChar hc h))
      · exact List.mem_cons_of_mem d (ih (d :: before) h)
  rw [toSmall, String.toList_ofList] at h
  exact hall [] s.toList h

end TypeSketch.Text
