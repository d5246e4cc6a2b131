-- Work that can fail, and work that changes a state besides, looked at from the
-- state in which it begins: one equation for each way to put it together, and
-- how two steps come to a value or to an error.
import TypeSketch.Journal

namespace TypeSketch

variable {ε σ α β : Type}

/-! ## Values -/

namespace Except

/-- An outcome that is seen to be a value is one. -/
theorem eq_ok_of_toOption {r : Except ε α} {a : α} (h : r.toOption = some a) :
    r = .ok a := by
  cases r with
  | error e => cases h
  | ok b => exact congrArg _ (Option.some.inj h)

@[simp]
theorem mapError_ok {δ : Type} (f : ε → δ) (a : α) : (Except.ok a).mapError f = .ok a := rfl

theorem mapError_eq_ok {δ : Type} {r : Except ε α} {f : ε → δ} {a : α} :
    r.mapError f = .ok a ↔ r = .ok a := by
  cases r with
  | error e => exact ⟨nofun, nofun⟩
  | ok b => exact ⟨fun h => congrArg _ (Except.ok.inj h), fun h => congrArg _ (Except.ok.inj h)⟩

theorem mapError_eq_error {δ : Type} {r : Except ε α} {f : ε → δ} {e : δ} :
    r.mapError f = .error e ↔ ∃ e', r = .error e' ∧ f e' = e := by
  cases r with
  | ok a => exact ⟨nofun, nofun⟩
  | error e' =>
    constructor
    · exact fun h => ⟨e', rfl, Except.error.inj h⟩
    · rintro ⟨_, he, rfl⟩
      rw [Except.error.inj he]
      rfl

theorem map_eq_ok {r : Except ε α} {f : α → β} {b : β} :
    r.map f = .ok b ↔ ∃ a, r = .ok a ∧ f a = b := by
  cases r with
  | error e => exact ⟨nofun, nofun⟩
  | ok a => simp [Except.map]

/-- Two steps give a value if the first one does and the second one does with this. -/
theorem bind_eq_ok {r : Except ε α} {f : α → Except ε β} {b : β} :
    r >>= f = .ok b ↔ ∃ a, r = .ok a ∧ f a = .ok b := by
  cases r with
  | error e => exact ⟨nofun, nofun⟩
  | ok a =>
    constructor
    · exact fun h => ⟨a, rfl, h⟩
    · rintro ⟨c, hc, h⟩
      obtain rfl := Except.ok.inj hc
      exact h

end Except

/-- What work comes to from a state on: a value or an error, and the state after it. -/
def runFrom (w : ExceptT ε (StateM σ) α) (s : σ) : Except ε α × σ := w.run.run s

/-! ## Equations -/

@[simp]
theorem runFrom_pure (a : α) (s : σ) :
    runFrom (pure a : ExceptT ε (StateM σ) α) s = (.ok a, s) := rfl

@[simp]
theorem runFrom_throw (e : ε) (s : σ) :
    runFrom (throw e : ExceptT ε (StateM σ) α) s = (.error e, s) := rfl

@[simp]
theorem runFrom_get (s : σ) : runFrom (get : ExceptT ε (StateM σ) σ) s = (.ok s, s) := rfl

@[simp]
theorem runFrom_set (s t : σ) :
    runFrom (set t : ExceptT ε (StateM σ) PUnit) s = (.ok ⟨⟩, t) := rfl

@[simp]
theorem runFrom_modify (f : σ → σ) (s : σ) :
    runFrom (modify f : ExceptT ε (StateM σ) PUnit) s = (.ok ⟨⟩, f s) := rfl

theorem runFrom_bind (w : ExceptT ε (StateM σ) α) (f : α → ExceptT ε (StateM σ) β) (s : σ) :
    runFrom (w >>= f) s =
      match runFrom w s with
      | (.ok a, t) => runFrom (f a) t
      | (.error e, t) => (.error e, t) := by
  rw [runFrom, ExceptT.run_bind, StateT.run_bind, runFrom]
  rcases w.run.run s with ⟨_ | _, t⟩ <;> rfl

theorem runFrom_tryCatch (w : ExceptT ε (StateM σ) α) (f : ε → ExceptT ε (StateM σ) α) (s : σ) :
    runFrom (tryCatch w f) s =
      match runFrom w s with
      | (.ok a, t) => (.ok a, t)
      | (.error e, t) => runFrom (f e) t := by
  rw [runFrom, ExceptT.run_tryCatch, StateT.run_bind, runFrom]
  rcases w.run.run s with ⟨_ | _, t⟩ <;> rfl

@[simp]
theorem runFrom_adapt {δ : Type} (f : ε → δ) (w : ExceptT ε (StateM σ) α) (s : σ) :
    runFrom (w.adapt f) s = ((runFrom w s).1.mapError f, (runFrom w s).2) := rfl

/-! ## Two steps -/

/-- Two steps give a value if both do, one after the other. -/
theorem runFrom_bind_eq_ok {w : ExceptT ε (StateM σ) α} {f : α → ExceptT ε (StateM σ) β}
    {s t : σ} {b : β} :
    runFrom (w >>= f) s = (.ok b, t) ↔
      ∃ a u, runFrom w s = (.ok a, u) ∧ runFrom (f a) u = (.ok b, t) := by
  rw [runFrom_bind]
  rcases runFrom w s with ⟨_ | a, u⟩ <;> simp [and_assoc]

/-- Two steps fail where the first one does or the second one after it. -/
theorem runFrom_bind_eq_error {w : ExceptT ε (StateM σ) α} {f : α → ExceptT ε (StateM σ) β}
    {s t : σ} {e : ε} :
    runFrom (w >>= f) s = (.error e, t) ↔
      runFrom w s = (.error e, t) ∨
        ∃ a u, runFrom w s = (.ok a, u) ∧ runFrom (f a) u = (.error e, t) := by
  rw [runFrom_bind]
  rcases runFrom w s with ⟨_ | a, u⟩ <;> simp [and_assoc]

/-! ## Work that makes notes -/

namespace Noted

variable {δ : Type}

theorem outcome_eq (w : Noted ε α) : w.outcome = runFrom w [] := rfl

@[simp]
theorem runFrom_note (level : Level) (part : Part) (text : String) (j : Journal) :
    runFrom (note level part text : Noted ε Unit) j = (.ok ⟨⟩, j ++ [⟨level, part, text⟩]) := rfl

@[simp]
theorem runFrom_ofExcept (wrap : δ → ε) (r : Except δ α) (j : Journal) :
    runFrom (ofExcept wrap r) j = (r.mapError wrap, j) := by
  cases r <;> rfl

end Noted

end TypeSketch
