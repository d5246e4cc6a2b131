-- Bytes of texts. Texts that follow one another are encoded one after the other, and a byte of
-- ASCII is a character of its own wherever it stands among bytes that can be decoded. A text with a
-- lone half of a surrogate pair has no bytes, and what stands for such halves tells them apart.
import TypeSketch.Proofs.Text.Pair
import TypeSketch.Proofs.Work
import TypeSketch.Storage.Utf8

namespace TypeSketch.Utf8

open Text

/-! ## Encoding -/

theorem toList_loop (b : ByteArray) (i : Nat) (r : List UInt8) :
    ByteArray.toList.loop b i r = r.reverse ++ b.data.toList.drop i := by
  fun_induction ByteArray.toList.loop b i r with
  | case1 i r h ih =>
    have hi : i < b.data.toList.length := by simpa using h
    have hget : b.get! i = b.data.toList[i] := by
      rw [ByteArray.get!, getElem!_pos b.data i h, Array.getElem_toList]
    rw [ih, List.drop_eq_getElem_cons hi, hget, List.reverse_cons, List.append_assoc]
    rfl
  | case2 i r h =>
    have hi : b.data.toList.length ≤ i := by simpa using h
    rw [List.drop_eq_nil_of_le hi, List.append_nil]

theorem encode_eq (s : String) : encode s = s.toByteArray.data.toList := by
  rw [encode, ByteArray.toList, toList_loop]
  rfl

theorem encode_append (s t : String) : encode (s ++ t) = encode s ++ encode t := by
  rw [encode_eq, encode_eq, encode_eq, ← ByteArray.toList_data_append]
  exact congrArg (·.data.toList) String.toByteArray_append

/-- Bytes tell their text. -/
theorem encode_inj {s t : String} : encode s = encode t ↔ s = t := by
  rw [encode_eq, encode_eq, Array.toList_inj, ← ByteArray.ext_iff, String.toByteArray_inj]

/-- A text that has bytes has those that encode it. -/
theorem bytes_eq_ok [Machine] {s : String} {b : List UInt8} (h : bytes s = .ok b) :
    b = encode s := by
  rw [bytes] at h
  split at h
  · exact (Except.ok.inj h).symm
  · cases h

/-! ## Lone halves -/

/-- A unit that is half of a surrogate pair. -/
def IsHalf (unit : Nat) : Prop := 0xD800 ≤ unit ∧ unit < 0xE000

theorem toNat_half [Machine] {place : Reading} {unit : Nat} (h : IsHalf unit) :
    ((Machine.limits place).half unit).toNat = Machine.halves + (unit - 0xD800) := by
  have hvalid : (Machine.halves + (unit - 0xD800)).isValidChar := by
    have hroom := Machine.halves_valid
    have hunit := h.2
    exact .inr (by omega)
  rw [Json.Limits.half, Machine.limits, Char.ofNat, dif_pos hvalid]
  rfl

theorem isHalf_half [Machine] {place : Reading} {unit : Nat} (h : IsHalf unit) :
    Machine.isHalf ((Machine.limits place).half unit) = true := by
  have hunit := h.2
  rw [Machine.isHalf, toNat_half h, Bool.and_eq_true, decide_eq_true_eq, decide_eq_true_eq]
  omega

theorem half_inj [Machine] {place : Reading} {unit unit' : Nat} (h : IsHalf unit)
    (h' : IsHalf unit') :
    (Machine.limits place).half unit = (Machine.limits place).half unit' ↔ unit = unit' := by
  refine ⟨fun heq => ?_, congrArg _⟩
  have hcodes := congrArg Char.toNat heq
  rw [toNat_half h, toNat_half h'] at hcodes
  have hunit := h.1
  have hunit' := h'.1
  omega

/-- What may not stand in a text, of the lone halves, is found there. -/
theorem halves?_eq_none [Machine] {mayNot : Char → Bool}
    (hhalf : ∀ c, mayNot c = true → Machine.isHalf c = true) {s : String} :
    halves? mayNot s = none ↔ ∀ c ∈ s.toList, mayNot c = false := by
  rw [halves?, Option.map_eq_none_iff]
  induction s.toList with
  | nil => simp
  | cons c r ih => cases hc : mayNot c <;> simp_all

theorem encodeFault?_eq_none [Machine] {s : String} :
    encodeFault? s = none ↔ ∀ c ∈ s.toList, Machine.isHalf c = false :=
  halves?_eq_none fun _ => id

/-- A text has no bytes exactly if a lone half stands in it. -/
theorem bytes_eq_error_iff [Machine] {s : String} :
    (∃ e, bytes s = .error e) ↔ ∃ c ∈ s.toList, Machine.isHalf c = true := by
  have hhalf : (∃ c ∈ s.toList, Machine.isHalf c = true) ↔ encodeFault? s ≠ none := by
    simp [encodeFault?_eq_none]
  rw [hhalf, bytes]
  cases encodeFault? s <;> simp

/-- The system does not take a path exactly if a lone half that is no byte stands in it. -/
theorem asPath_eq_error_iff [Machine] {s : String} :
    (∃ e, asPath s = .error e) ↔
      ∃ c ∈ s.toList, Machine.isHalf c = true ∧ Machine.isByte c = false := by
  rw [asPath]
  generalize hmayNot : (fun c => Machine.isHalf c && !Machine.isByte c) = mayNot
  have hiff (c : Char) : mayNot c = true ↔ Machine.isHalf c = true ∧ Machine.isByte c = false := by
    rw [← hmayNot, Bool.and_eq_true, Bool.not_eq_true']
  have hfound : (∃ c ∈ s.toList, Machine.isHalf c = true ∧ Machine.isByte c = false) ↔
      halves? mayNot s ≠ none := by
    simp only [Ne, halves?_eq_none fun c hc => ((hiff c).mp hc).1, ← hiff, not_forall,
      Bool.not_eq_false, exists_prop]
  rw [hfound]
  cases halves? mayNot s <;> simp

theorem isByte_half [Machine] {place : Reading} {unit : Nat} (h : IsHalf unit) :
    Machine.isByte ((Machine.limits place).half unit) = true ↔ 0xDC80 ≤ unit ∧ unit < 0xDD00 := by
  have hunit := h.1
  rw [Machine.isByte, toNat_half h, Bool.and_eq_true, decide_eq_true_eq, decide_eq_true_eq]
  omega

/-- A lone half that is read, wherever the text comes from, stands for itself alone. No text with it
can be written, and no path with it is taken, unless it is one of those that are bytes. -/
theorem lone_halves_are_told_apart_and_not_written [Machine] {place : Reading} {unit : Nat}
    (h : IsHalf unit) :
    (∀ unit', IsHalf unit' →
      ((Machine.limits place).half unit = (Machine.limits place).half unit' ↔ unit = unit')) ∧
      ∀ s : String, (Machine.limits place).half unit ∈ s.toList →
        (∃ e, bytes s = .error e) ∧
          ((∃ e, asPath s = .error e) ∨ (0xDC80 ≤ unit ∧ unit < 0xDD00)) := by
  have hhalf : Machine.isHalf ((Machine.limits place).half unit) = true := isHalf_half h
  have hbyte : Machine.isByte ((Machine.limits place).half unit) = true ↔
      0xDC80 ≤ unit ∧ unit < 0xDD00 := isByte_half h
  refine ⟨fun _ h' => half_inj h h', fun s hs => ⟨bytes_eq_error_iff.mpr ⟨_, hs, hhalf⟩, ?_⟩⟩
  rw [← hbyte, or_iff_not_imp_right, Bool.not_eq_true]
  exact fun hother => asPath_eq_error_iff.mpr ⟨_, hs, hhalf, hother⟩

/-! ## Decoding -/

/-- The bytes that may go on with a character are none of ASCII. -/
theorem wanted_of_leadOf {b bits : Nat} {wanted : List (Nat × Nat)}
    (h : leadOf b = some (bits, wanted)) : ∀ w ∈ wanted, 0x80 ≤ w.1 := by
  unfold leadOf at h
  split_ifs at h
  all_goals
    obtain ⟨-, rfl⟩ := Prod.mk.inj (Option.some.inj h)
    decide

/-- A character that has begun and waits for other bytes than those of ASCII. -/
def Waits (c : Option Begun) : Prop := ∀ b ∈ c, ∀ w ∈ b.wanted, 0x80 ≤ w.1

theorem decodeFrom_cons_ascii {x : UInt8} (hx : x.toNat < 0x80) (position : Nat) (r : List UInt8) :
    decodeFrom position none (x :: r) =
      (decodeFrom (position + 1) none r).map (Char.ofNat x.toNat :: ·) := by
  rw [decodeFrom, leadOf, if_pos hx]

/-- Among other bytes one of ASCII is decoded to its character, and what follows it is decoded
anew. -/
theorem decodeFrom_ascii {x : UInt8} (hx : x.toNat < 0x80) {before behind : List UInt8}
    {position : Nat} {c : Option Begun} {chars : List Char} (hc : Waits c)
    (h : decodeFrom position c (before ++ x :: behind) = .ok chars) :
    ∃ cs ds next, chars = cs ++ Char.ofNat x.toNat :: ds ∧
      decodeFrom next none behind = .ok ds := by
  induction before generalizing position c chars with
  | nil =>
    rw [List.nil_append] at h
    cases c with
    | none =>
      rw [decodeFrom_cons_ascii hx] at h
      obtain ⟨ds, hds, rfl⟩ := Except.map_eq_ok.mp h
      exact ⟨[], ds, _, rfl, hds⟩
    | some b =>
      rw [decodeFrom] at h
      split at h
      · cases h
      · rename_i low high wanted hwanted
        have hlow := hc b rfl (low, high) (hwanted ▸ List.mem_cons_self)
        rw [if_neg (by omega)] at h
        cases h
  | cons y before ih =>
    rw [List.cons_append] at h
    cases c with
    | none =>
      rw [decodeFrom] at h
      split at h
      · cases h
      · obtain ⟨ds, hds, rfl⟩ := Except.map_eq_ok.mp h
        obtain ⟨cs, es, next, rfl, hes⟩ := ih (by simp [Waits]) hds
        exact ⟨_ :: cs, es, next, rfl, hes⟩
      · rename_i bits wanted _ hlead
        refine ih ?_ h
        rintro b ⟨rfl⟩
        exact wanted_of_leadOf hlead
    | some b =>
      rw [decodeFrom] at h
      split at h
      · cases h
      · rename_i low high wanted hwanted
        split at h
        · dsimp only at h
          split at h
          · obtain ⟨ds, hds, rfl⟩ := Except.map_eq_ok.mp h
            obtain ⟨cs, es, next, rfl, hes⟩ := ih (by simp [Waits]) hds
            exact ⟨_ :: cs, es, next, rfl, hes⟩
          · refine ih ?_ h
            rintro b' ⟨rfl⟩ w hw
            exact hc b rfl w (hwanted ▸ List.mem_cons_of_mem _ hw)
        · cases h

/-- A character that is no part of a line end stays where it is. -/
theorem plainBreaks_append {c : Char} (hc : c ≠ '\n') (t s : List Char) :
    plainBreaks (s ++ c :: t) = plainBreaks s ++ plainBreaks (c :: t) := by
  fun_induction plainBreaks s with
  | case1 r ih => rw [List.cons_append, List.cons_append, plainBreaks, ih, List.cons_append]
  | case2 r hr ih =>
    rw [List.cons_append, List.cons_append, plainBreaks, ih]
    rintro r' hr'
    cases r with
    | nil => exact hc (List.cons.inj hr').1
    | cons d r => exact hr r (by rw [(List.cons.inj hr').1])
  | case3 d r hr hr' ih =>
    rw [List.cons_append, List.cons_append, plainBreaks, ih]
    · exact fun r' hd _ => hr' hd
    · exact hr'
  | case4 => rfl

/-- Bytes with a closing parenthesis at the end of a line are decoded to a text with one. -/
theorem not_lacks_of_decodeLines {bytes : List UInt8} {text : String}
    (h : decodeLines bytes = .ok text) (hpair : [0x29, 0x0A] <:+: bytes) :
    ¬ Lacks ')' '\n' text := by
  obtain ⟨before, behind, rfl⟩ := hpair
  obtain ⟨decoded, hdecode, rfl⟩ := Except.map_eq_ok.mp h
  obtain ⟨chars, hchars, rfl⟩ := Except.map_eq_ok.mp hdecode
  rw [List.append_assoc, List.cons_append, List.singleton_append] at hchars
  obtain ⟨cs, ds, next, rfl, hds⟩ := decodeFrom_ascii (by decide) (by simp [Waits]) hchars
  rw [decodeFrom_cons_ascii (by decide)] at hds
  obtain ⟨es, -, rfl⟩ := Except.map_eq_ok.mp hds
  have hplain : plainBreaks (cs ++ ')' :: '\n' :: es) =
      plainBreaks cs ++ [')', '\n'] ++ plainBreaks es := by
    rw [plainBreaks_append (by decide)]
    simp [plainBreaks]
  intro hlacks
  rw [Lacks, String.toList_ofList, String.toList_ofList] at hlacks
  exact hlacks ⟨_, _, hplain.symm⟩

end TypeSketch.Utf8
