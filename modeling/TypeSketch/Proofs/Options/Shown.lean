-- Which values a message can show. Showing goes down through arrays and objects, so it stops at a
-- part that lies too deep, and at a whole number with too many digits; everything else is shown.
import TypeSketch.Options.Build

namespace TypeSketch

namespace Json

/-! ## Parts -/

/-- The first value lies in the second one, so many levels below it: it is the value itself, or it
lies in an item of an array or in the value of an entry of an object. -/
inductive Lies (part : Json) : Nat → Json → Prop
  | here : Lies part 0 part
  | item {n : Nat} {vs : List Json} {v : Json} (hv : v ∈ vs) : Lies part n v →
      Lies part (n + 1) (arr vs)
  | value {n : Nat} {es : List (String × Json)} {e : String × Json} (he : e ∈ es) :
      Lies part n e.2 → Lies part (n + 1) (obj es)

/-- A value all of whose parts lie above a depth, and whose whole numbers have no more digits than a
limit; zero sets none. -/
def ShownWithin (limit depth : Nat) (v : Json) : Prop :=
  ∀ part n, Lies part n v → n < depth ∧
    ∀ k, part = num (.whole k) → limit = 0 ∨ k.natAbs < Nat.pow 10 limit

/-- A value that a message can show. -/
def Showable [Machine] (v : Json) : Prop := v.ShownWithin Machine.digits Machine.shownDepth

/-! ## What stops the showing -/

variable {limit depth : Nat}

theorem numberFault?_eq_none {n : Number} :
    numberFault? limit n = none ↔ ∀ k, n = .whole k → limit = 0 ∨ k.natAbs < Nat.pow 10 limit := by
  cases n with
  | whole k => simp [numberFault?, Nat.pos_iff_ne_zero, Decidable.or_iff_not_imp_left]
  | _ => simp [numberFault?]

theorem itemsFault?_eq_none {vs : List Json} :
    itemsFault? limit vs depth = none ↔ ∀ v ∈ vs, v.shownFault? limit depth = none := by
  induction vs with
  | nil => simp [itemsFault?]
  | cons v vs ih => simp [itemsFault?, ih]

theorem entriesFault?_eq_none {es : List (String × Json)} :
    entriesFault? limit es depth = none ↔ ∀ e ∈ es, e.2.shownFault? limit depth = none := by
  induction es with
  | nil => simp [entriesFault?]
  | cons e es ih => simp [entriesFault?, ih]

theorem not_shownWithin_zero (v : Json) : ¬ v.ShownWithin limit 0 :=
  fun h => Nat.not_lt_zero _ (h v 0 .here).1

/-- In a value without parts there is but itself. -/
theorem shownWithin_leaf {v : Json} (harr : ∀ vs, v ≠ arr vs) (hobj : ∀ es, v ≠ obj es) :
    v.ShownWithin limit (depth + 1) ↔
      ∀ k, v = num (.whole k) → limit = 0 ∨ k.natAbs < Nat.pow 10 limit := by
  constructor
  · exact fun h => (h v 0 .here).2
  · rintro h part n (_ | _ | _)
    · exact ⟨Nat.succ_pos _, h⟩
    · exact absurd rfl (harr _)
    · exact absurd rfl (hobj _)

theorem shownWithin_arr {vs : List Json} :
    (arr vs).ShownWithin limit (depth + 1) ↔ ∀ v ∈ vs, v.ShownWithin limit depth := by
  constructor
  · intro h v hv part n hlies
    obtain ⟨hn, hpart⟩ := h part (n + 1) (.item hv hlies)
    exact ⟨Nat.lt_of_succ_lt_succ hn, hpart⟩
  · rintro h part n (_ | ⟨hv, hlies⟩)
    · exact ⟨Nat.succ_pos _, nofun⟩
    · obtain ⟨hn, hpart⟩ := h _ hv part _ hlies
      exact ⟨Nat.succ_lt_succ hn, hpart⟩

theorem shownWithin_obj {es : List (String × Json)} :
    (obj es).ShownWithin limit (depth + 1) ↔ ∀ e ∈ es, e.2.ShownWithin limit depth := by
  constructor
  · intro h e he part n hlies
    obtain ⟨hn, hpart⟩ := h part (n + 1) (.value he hlies)
    exact ⟨Nat.lt_of_succ_lt_succ hn, hpart⟩
  · rintro h part n (_ | _ | ⟨he, hlies⟩)
    · exact ⟨Nat.succ_pos _, nofun⟩
    · obtain ⟨hn, hpart⟩ := h _ he part _ hlies
      exact ⟨Nat.succ_lt_succ hn, hpart⟩

/-- Nothing stops the showing of a value exactly if its parts lie above the depth and its whole
numbers are short. -/
theorem shownFault?_eq_none {v : Json} :
    v.shownFault? limit depth = none ↔ v.ShownWithin limit depth := by
  -- With every level the depth goes down by one, so the induction can be on it.
  induction depth generalizing v with
  | zero =>
    rw [shownFault?]
    exact iff_of_false nofun (not_shownWithin_zero v)
  | succ depth ih =>
    cases v with
    | num n =>
      rw [shownFault?, numberFault?_eq_none, shownWithin_leaf (by simp) (by simp)]
      simp
    | arr vs =>
      rw [shownFault?, itemsFault?_eq_none, shownWithin_arr]
      exact forall₂_congr fun v _ => ih
    | obj es =>
      rw [shownFault?, entriesFault?_eq_none, shownWithin_obj]
      exact forall₂_congr fun e _ => ih
    | _ => exact iff_of_true rfl ((shownWithin_leaf (by simp) (by simp)).mpr (by simp))

/-- A power of ten as high as the limit is a number with one digit too many. -/
theorem shownFault?_pow (hlimit : 0 < limit) :
    (num (.whole (Int.ofNat (Nat.pow 10 limit)))).shownFault? limit (depth + 1) =
      some (.digits limit) := by
  rw [shownFault?, numberFault?, if_pos ⟨hlimit, Nat.le_refl _⟩]

end Json

/-- Whether entries that make up no record are told by an error of the kind that is promised. -/
def OptionError.isOwn : OptionError → Bool
  | unshown _ => false
  | unknown .. | badValue .. => true

/-- A value that does not fit is told so as long as it can be shown. -/
theorem OptionError.isOwn_ofMisfit [Machine] {setting : String} {kind : SettingKind} {v : Json} :
    (ofMisfit setting kind v).isOwn = true ↔ v.Showable := by
  rw [Json.Showable, ← Json.shownFault?_eq_none, ofMisfit]
  cases v.shownFault? Machine.digits Machine.shownDepth <;> simp [isOwn]

end TypeSketch
