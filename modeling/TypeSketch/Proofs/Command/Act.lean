-- The acts of a run, one by one: what each leaves of a session.
import TypeSketch.Command.Run
import TypeSketch.Proofs.Work

namespace TypeSketch

namespace Act

variable {ε α : Type}

@[simp]
theorem runFrom_note (level : Level) (part : Part) (text : String) (s : Session) :
    runFrom (note level part text) s = (.ok ⟨⟩, s.keep ⟨level, part, text⟩) := rfl

@[simp]
theorem runFrom_write (text : String) (s : Session) :
    runFrom (write text) s = (.ok ⟨⟩, { s with output := s.output ++ text }) := rfl

@[simp]
theorem runFrom_writeError (text : String) (s : Session) :
    runFrom (writeError text) s = (.ok ⟨⟩, { s with errors := s.errors ++ text }) := rfl

@[simp]
theorem runFrom_of (wrap : ε → CommandError) (r : Except ε α) (s : Session) :
    runFrom (of wrap r) s = (r.mapError wrap, s) := by
  cases r <;> rfl

@[simp]
theorem runFrom_perform (wrap : ε → CommandError) (w : Noted ε α) (s : Session) :
    runFrom (perform wrap w) s = (w.outcome.1.mapError wrap, s.keepAll w.outcome.2) := by
  rw [perform]
  rcases w.outcome with ⟨_ | _, ns⟩ <;> rfl

/-- Several notes that are made one after the other are all kept. -/
theorem runFrom_forIn_note (level : Level) (part : Part) (texts : List String) (s : Session) :
    runFrom (ForIn.forIn texts PUnit.unit fun text _ => do
        note level part text
        pure (ForInStep.yield PUnit.unit)) s =
      (.ok ⟨⟩, s.keepAll (texts.map fun text => ⟨level, part, text⟩)) := by
  induction texts generalizing s with
  | nil => rfl
  | cons text texts ih =>
    rw [List.forIn_cons, runFrom_bind, runFrom_bind, runFrom_note]
    exact ih _

/-- A text is written to a file, or nothing changes, or the file is there without the text, which
has no bytes; the first errors tell of a path that the system cannot even take. -/
theorem runFrom_writeFile [Machine] (p : Path) (text : String) (s : Session) :
    runFrom (Command.writeFile p text) s =
      match Utf8.asPath p.text with
      | .error e => (.error (.encoding e), s)
      | .ok _ =>
        match s.disk.write p ((Utf8.bytes text).toOption.getD []) with
        | .error .nullByte => (.error (.unreachable p .nullByte), s)
        | .error f => (.error (.unwritable p f), s)
        | .ok d =>
          (((Utf8.bytes text).map fun _ => ⟨⟩).mapError .encoding, { s with disk := d }) := by
  rw [Command.writeFile, runFrom_bind, runFrom_of]
  cases Utf8.asPath p.text with
  | error e => rfl
  | ok _ =>
    dsimp only [Except.mapError]
    rw [runFrom_bind, runFrom_get]
    dsimp only
    rcases s.disk.write p ((Utf8.bytes text).toOption.getD []) with f | d
    · cases f <;> rfl
    · cases Utf8.bytes text <;> rfl

/-! ## Showing -/

/-- Work that is put together from texts written to the error output and from errors that break the
run off. -/
inductive Telling : {α : Type} → Act α → Prop where
  | pure {α : Type} (a : α) : Telling (Pure.pure a : Act α)
  | fail {α : Type} {e : CommandError} (h : e.isTold = false) : Telling (throw e : Act α)
  | writeError (text : String) : Telling (Act.writeError text)
  | bind {α β : Type} {w : Act α} {f : α → Act β} (hw : Telling w) (hf : ∀ a, Telling (f a)) :
      Telling (w >>= f)

/-- Work that does nothing but write to the error output, and whose errors break the run off. -/
def OnlyShows (w : Act α) : Prop :=
  ∀ s, (∃ errors, (runFrom w s).2 = { s with errors := errors }) ∧
    ∀ e, (runFrom w s).1 = .error e → e.isTold = false

/-- Work whose result does not depend on the session. -/
def Steady (w : Act α) : Prop := ∀ s t, (runFrom w s).1 = (runFrom w t).1

namespace Telling

variable {β : Type}

theorem of {wrap : ε → CommandError} (hwrap : ∀ e, (wrap e).isTold = false) (r : Except ε α) :
    Telling (Act.of wrap r) := by
  cases r with
  | ok a => exact .pure a
  | error e => exact .fail (hwrap e)

theorem forIn {f : α → β → Act (ForInStep β)} (hf : ∀ a b, Telling (f a b)) (xs : List α)
    (b : β) : Telling (ForIn.forIn xs b f) := by
  induction xs generalizing b with
  | nil => exact .pure _
  | cons x xs ih =>
    rw [List.forIn_cons]
    refine (hf x b).bind fun step => ?_
    cases step with
    | done b => exact .pure b
    | yield b => exact ih b

theorem tell (c : Console) (marked : String) : Telling (Act.tell c marked) :=
  (of (fun _ => rfl) _).bind fun text => .writeError text

theorem onlyShows {w : Act α} (h : Telling w) : OnlyShows w := by
  induction h with
  | pure a => exact fun s => ⟨⟨s.errors, rfl⟩, fun _ h => by cases h⟩
  | fail htold =>
    refine fun s => ⟨⟨s.errors, rfl⟩, fun e h => ?_⟩
    cases h
    exact htold
  | writeError text =>
    intro s
    rw [runFrom_writeError]
    exact ⟨⟨_, rfl⟩, fun _ h => by cases h⟩
  | @bind α β w f _ _ hw hf =>
    intro s
    obtain ⟨⟨errors, hstate⟩, herror⟩ := hw s
    rw [runFrom_bind]
    generalize runFrom w s = out at hstate herror
    obtain ⟨r, t⟩ := out
    obtain rfl : t = { s with errors := errors } := hstate
    cases r with
    | error e =>
      refine ⟨⟨errors, rfl⟩, fun e' h => ?_⟩
      cases h
      exact herror e rfl
    | ok a =>
      obtain ⟨⟨more, hmore⟩, hlast⟩ := hf a { s with errors := errors }
      exact ⟨⟨more, hmore⟩, hlast⟩

theorem steady {w : Act α} (h : Telling w) : Steady w := by
  induction h with
  | pure a => exact fun _ _ => rfl
  | fail _ => exact fun _ _ => rfl
  | writeError text => exact fun _ _ => rfl
  | @bind α β w f _ _ hw hf =>
    intro s t
    have hfirst := hw s t
    rw [runFrom_bind, runFrom_bind]
    generalize runFrom w s = out at hfirst
    generalize runFrom w t = out' at hfirst
    obtain ⟨r, u⟩ := out
    obtain ⟨r', u'⟩ := out'
    obtain rfl : r = r' := hfirst
    cases r with
    | error e => rfl
    | ok a => exact hf a u u'

end Telling

end Act

namespace Command

theorem telling_showFacts (c : Console) (g : Generation) : Act.Telling (showFacts c g) := by
  unfold showFacts
  refine (Act.Telling.of (fun _ => rfl) _).bind fun _ =>
    (Act.Telling.writeError _).bind fun _ => ?_
  split
  · refine (Act.Telling.tell c _).bind fun _ => ?_
    exact (Act.Telling.forIn (fun _ _ => (Act.Telling.tell c _).bind fun _ => .pure _) _ _).bind
      fun _ => .pure _
  · exact .pure _

/-- The options under the arguments: from the entries that the arguments give, over those of the
file that the disk holds just then. -/
theorem runFrom_optionsFor [Machine] (a : Arguments) (l : Language) (s : Session) :
    runFrom (optionsFor a l) s =
      match givenEntries a with
      | .error e => (.error e, s)
      | .ok es =>
        let built := (OptionRecord.buildFrom s.disk (.of l) (Operand.text? a.config) es).outcome
        ((built.1.bind fun r => r.give (.of l)).mapError .setup, s.keepAll built.2) := by
  rw [optionsFor, runFrom_bind, Act.runFrom_of]
  cases givenEntries a with
  | error e => rfl
  | ok es =>
    simp only [Except.mapError_ok, runFrom_bind, runFrom_get, Act.runFrom_perform, Act.runFrom_of]
    rcases (OptionRecord.buildFrom s.disk (.of l) (Operand.text? a.config) es).outcome with
      ⟨_ | r, ns⟩
    · rfl
    · rfl

end Command

end TypeSketch
