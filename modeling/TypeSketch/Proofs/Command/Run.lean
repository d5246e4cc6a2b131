-- What a run leaves behind. It tells the user about a failure only as long as it
-- has done nothing but log, so then the standard output is empty and every file
-- but the log file is as it was. A run that succeeds prints the code that the
-- library gives for the same language, options and document, in colours where
-- the standard output is a terminal.
import TypeSketch.Proofs.Command.Act
import TypeSketch.Proofs.Options.Precedence
import TypeSketch.Proofs.Storage.Disk
import TypeSketch.Screen.Plain

namespace TypeSketch

/-! ## Notes -/

namespace Session

/-- Notes are not written to the standard output. -/
@[simp]
theorem output_keep (s : Session) (n : Note) : (s.keep n).output = s.output := by
  unfold keep
  split <;> rfl

@[simp]
theorem output_keepAll (s : Session) (ns : Journal) : (s.keepAll ns).output = s.output := by
  induction ns generalizing s with
  | nil => rfl
  | cons n ns ih => exact (ih _).trans (output_keep s n)

end Session

namespace Command

/-! ## Nothing but logging -/

/-- The place of the log file that the arguments ask for, if it can be written. -/
def logPlace? (a : Arguments) (d : Disk) : Option Place :=
  (Operand.text? a.logFile).bind fun name =>
    (d.writable (Path.ofString name).collapsed).toOption

/-- A session under the arguments in which nothing has happened yet but logging, and what was shown
on the error output. -/
structure Quiet (env : Environment) (a : Arguments) (s : Session) : Prop where
  log : (s.log.file.bind fun p => (env.disk.writable p).toOption) = logPlace? a env.disk
  reply : s.reply = env.reply
  input : s.input = env.input
  output : s.output = ""
  disk : Disk.ChangedAt (logPlace? a env.disk) env.disk s.disk

variable {env : Environment} {a : Arguments} {s : Session}

theorem Quiet.keep (h : Quiet env a s) (n : Note) : Quiet env a (s.keep n) := by
  unfold Session.keep
  split
  · refine ⟨h.log, h.reply, h.input, h.output, ?_⟩
    dsimp only
    split
    · exact h.disk
    · rename_i p hfile
      -- The log is never exchanged, so its file stands where it could be written at first.
      have hplace : (env.disk.writable p).toOption = logPlace? a env.disk := by
        rw [← h.log, hfile, Option.bind_some]
      have hdisk := h.disk
      cases happend : s.disk.append p (Utf8.encode (s.log.line n)) with
      | error f => exact hdisk
      | ok d =>
        rw [← hplace] at hdisk ⊢
        exact hdisk.append happend
  · exact h

theorem Quiet.keepAll (h : Quiet env a s) (ns : Journal) : Quiet env a (s.keepAll ns) := by
  induction ns generalizing s with
  | nil => exact h
  | cons n ns ih => exact ih (h.keep n)

theorem Quiet.errors (h : Quiet env a s) (errors : String) :
    Quiet env a { s with errors := errors } :=
  ⟨h.log, h.reply, h.input, h.output, h.disk⟩

/-- A log that is set up leaves its file on the disk, at the place that can be written. -/
theorem setUpLog_eq_ok [Machine] {level? : Option String} {stamp : String} {d d' : Disk}
    {log : Log} (h : setUpLog a level? stamp d = .ok (log, d')) :
    (log.file.bind fun p => (d.writable p).toOption) = logPlace? a d ∧
      Disk.ChangedAt (logPlace? a d) d d' := by
  unfold setUpLog at h
  -- However the least level is found, what follows is the same.
  extract_lets rest at h
  have hrest : ∃ least, rest least = .ok (log, d') := by
    split at h
    · exact ⟨_, h⟩
    · cases h
    · obtain ⟨least, -, h⟩ := Except.bind_eq_ok.mp h
      exact ⟨least, h⟩
  obtain ⟨least, h⟩ := hrest
  unfold rest at h
  unfold logPlace?
  cases hname : Operand.text? a.logFile with
  | none =>
    rw [hname] at h
    cases h
    exact ⟨rfl, .inl rfl⟩
  | some name =>
    rw [hname] at h
    obtain ⟨_, -, h⟩ := Except.bind_eq_ok.mp h
    obtain ⟨d₁, happend, h⟩ := Except.bind_eq_ok.mp h
    cases h
    exact ⟨rfl, Disk.ChangedAt.append (.inl rfl) (Except.mapError_eq_ok.mp happend)⟩

/-- The session before the first note is quiet. -/
theorem Quiet.start [Machine] {env : Environment} {log : Log} {d : Disk}
    (hlog : setUpLog a env.level? env.stamp env.disk = .ok (log, d)) :
    Quiet env a { env.session with log := log, disk := d } := by
  obtain ⟨hfile, hdisk⟩ := setUpLog_eq_ok hlog
  exact ⟨hfile, rfl, rfl, rfl, hdisk⟩

/-! ## The acts of a run -/

theorem quiet_optionsFor [Machine] (h : Quiet env a s) (l : Language) :
    Quiet env a (runFrom (optionsFor a l) s).2 := by
  rw [runFrom_optionsFor]
  split
  · exact h
  · exact h.keepAll _

/-- A file that cannot be written leaves the session as it is, if the user is told. -/
theorem session_of_writeFile [Machine] {p : Path} {text : String} {e : CommandError} {t : Session}
    (h : runFrom (writeFile p text) s = (.error e, t)) (htold : e.isTold = true) : t = s := by
  rw [Act.runFrom_writeFile] at h
  split at h
  · exact (Prod.mk.inj h).2.symm
  · split at h
    · exact (Prod.mk.inj h).2.symm
    · exact (Prod.mk.inj h).2.symm
    -- The file is written, so it can only be the text that has no bytes.
    · obtain ⟨_, -, rfl⟩ := Except.mapError_eq_error.mp (Prod.mk.inj h).1
      cases htold

/-- Once the code is in its file, no failure is told to the user any more. -/
theorem session_of_saveCode [Machine] {c : Console} {o : LanguageOptions} {output code : String}
    {e : CommandError} {t : Session} (h : runFrom (saveCode c o output code) s = (.error e, t))
    (htold : e.isTold = true) : t = s := by
  unfold saveCode at h
  rw [runFrom_bind, runFrom_get] at h
  rcases runFrom_bind_eq_error.mp h with h | ⟨p, u, hpath, h⟩
  · rw [Act.runFrom_of] at h
    exact (Prod.mk.inj h).2.symm
  · rw [Act.runFrom_of] at hpath
    obtain rfl := (Prod.mk.inj hpath).2
    rcases runFrom_bind_eq_error.mp h with h | ⟨_, u, -, h⟩
    · exact session_of_writeFile h htold
    -- The file is written by now, but what can still go wrong with the message is never told.
    · have hshown := ((Act.Telling.tell c _).onlyShows u).2 e (congrArg Prod.fst h)
      rw [htold] at hshown
      cases hshown

/-- The session in which generated code is written. -/
def noted (o : LanguageOptions) (v : Json) (s : Session) : Session :=
  (s.keepAll (o.generationNotes v)).keepAll
    ((o.generation v).warnings.map fun w => ⟨.warning, .command, w⟩)

theorem quiet_noted (h : Quiet env a s) (o : LanguageOptions) (v : Json) :
    Quiet env a (noted o v s) := (h.keepAll _).keepAll _

/-- Where the arguments want the code: in a file, or on the standard output. -/
def place [Machine] (c : Console) (a : Arguments) (o : LanguageOptions) (code : String) :
    Act Unit :=
  match Operand.text? a.output with
  | some output => saveCode c o output code
  | none => printCode c o.language code

/-- The facts about code, if they are wanted. -/
def showWanted (c : Console) (a : Arguments) (g : Generation) : Act Unit :=
  if a.verbose then showFacts c g else pure ⟨⟩

theorem telling_showWanted (c : Console) (a : Arguments) (g : Generation) :
    Act.Telling (showWanted c a g) := by
  unfold showWanted
  split
  · exact telling_showFacts c g
  · exact .pure _

/-- If the interpreter does not give up, code is noted first, then placed, and its facts are shown
in the end. -/
theorem runFrom_generate [Machine] (env : Environment) (a : Arguments) (o : LanguageOptions)
    (v : Json) (s : Session) :
    runFrom (generate env a o v) s =
      match env.exhaustion? o v with
      | some x => (.error (.exhausted x.words), s.keepAll x.notes)
      | none =>
        runFrom (place env.console a o (o.generation v).code >>= fun _ =>
          showWanted env.console a (o.generation v)) (noted o v s) := by
  unfold generate
  cases env.exhaustion? o v with
  | some x => rfl
  | none =>
    dsimp only
    rw [runFrom_bind, runFrom_modify]
    dsimp only
    rw [runFrom_bind, Act.runFrom_forIn_note]
    unfold place
    cases Operand.text? a.output <;> rfl

/-- Code that is generated with success: the interpreter did not give up. -/
theorem generate_eq_ok [Machine] {env : Environment} {o : LanguageOptions} {v : Json}
    {t : Session} (h : runFrom (generate env a o v) s = (.ok ⟨⟩, t)) :
    env.exhaustion? o v = none ∧
      ∃ u, runFrom (place env.console a o (o.generation v).code) (noted o v s) = (.ok ⟨⟩, u) ∧
        runFrom (showWanted env.console a (o.generation v)) u = (.ok ⟨⟩, t) := by
  rw [runFrom_generate] at h
  split at h
  · cases h
  · rename_i hgoes
    obtain ⟨_, u, hplaced, hshown⟩ := runFrom_bind_eq_ok.mp h
    exact ⟨hgoes, u, hplaced, hshown⟩

/-- Code is written to the standard output as the screen prints it, if it can, and of empty code
there is only a note. -/
theorem runFrom_printCode (c : Console) (l : Language) (code : String) (s : Session) :
    runFrom (printCode c l code) s =
      if code = "" then
        (.ok ⟨⟩, s.keep ⟨.info, .command, "No object types found; nothing generated"⟩)
      else match c.printed l.lexer code with
        | .error f => (.error (.screen f), s)
        | .ok text => (.ok ⟨⟩, { s with output := s.output ++ text }) := by
  unfold printCode
  split
  · exact Act.runFrom_note ..
  · rw [runFrom_bind, Act.runFrom_of]
    cases c.printed l.lexer code <;> rfl

/-- A failure to generate code that the user is told of comes before anything but logging. -/
theorem quiet_generate [Machine] (hs : Quiet env a s) {o : LanguageOptions} {v : Json}
    {e : CommandError} {t : Session} (h : runFrom (generate env a o v) s = (.error e, t))
    (htold : e.isTold = true) : Quiet env a t := by
  rw [runFrom_generate] at h
  split at h
  · rw [← (Prod.mk.inj h).2]
    exact hs.keepAll _
  · rcases runFrom_bind_eq_error.mp h with h | ⟨_, u, -, h⟩
    · unfold place at h
      split at h
      · rw [session_of_saveCode h htold]
        exact quiet_noted hs o v
      · rw [runFrom_printCode] at h
        split at h
        · cases h
        · split at h
          · cases h
            cases htold
          · cases h
    · have hshown := ((telling_showWanted env.console a _).onlyShows u).2 e (congrArg Prod.fst h)
      rw [htold] at hshown
      cases hshown

/-- A text is what stands on the standard output for code: nothing if the code is empty, the code in
the colours of its language on a terminal, and elsewhere the code with a line end after it. -/
def Shows (c : Console) (l : Language) (code text : String) : Prop :=
  if code = "" then text = ""
  else match c.highlight? with
    | none => text = code ++ "\n"
    | some highlight => highlight l.lexer code = .ok text

/-- What is printed of code, if it can be: nothing if it is empty. -/
def printedCode (c : Console) (l : Language) (code : String) : Except ScreenFault String :=
  if code = "" then .ok "" else c.printed l.lexer code

theorem shows_of_printedCode {c : Console} {l : Language} {code text : String}
    (h : printedCode c l code = .ok text) : Shows c l code text := by
  rw [printedCode, Console.printed] at h
  rw [Shows]
  split at h
  · rename_i hcode
    rw [if_pos hcode, Except.ok.inj h]
  · rename_i hcode
    rw [if_neg hcode]
    split at h
    · rename_i highlight hhighlight
      simpa [hhighlight] using h
    · rename_i hhighlight
      rw [Console.plain] at h
      split at h
      · simpa [hhighlight, eq_comm] using h
      · cases h

/-- Without an output file the code is printed on the standard output. -/
theorem output_generate [Machine] {env : Environment} (hs : s.output = "")
    (houtput : Operand.text? a.output = none) {o : LanguageOptions} {v : Json} {t : Session}
    (h : runFrom (generate env a o v) s = (.ok ⟨⟩, t)) :
    printedCode env.console o.language (o.generation v).code = .ok t.output := by
  obtain ⟨-, u, hplaced, h⟩ := generate_eq_ok h
  unfold place at hplaced
  rw [houtput] at hplaced
  rw [runFrom_printCode] at hplaced
  have hnoted : (noted o v s).output = "" := by
    rw [noted, Session.output_keepAll, Session.output_keepAll, hs]
  obtain ⟨⟨errors, ht⟩, -⟩ := (telling_showWanted env.console a (o.generation v)).onlyShows u
  rw [h] at ht
  obtain rfl : t = { u with errors := errors } := ht
  rw [printedCode]
  split
  · rename_i hcode
    rw [if_pos hcode] at hplaced
    rw [← (Prod.mk.inj hplaced).2]
    exact congrArg _ ((Session.output_keep _ _).trans hnoted).symm
  · rename_i hcode
    rw [if_neg hcode] at hplaced
    split at hplaced
    · cases hplaced
    · rename_i text htext
      rw [htext, ← (Prod.mk.inj hplaced).2]
      dsimp only
      rw [hnoted, String.empty_append]

/-! ## What the arguments come to -/

/-- Options that the arguments give, together with the config file as it stands; only the log file
may have changed by then. -/
def Merges [Machine] (env : Environment) (a : Arguments) (l : Language) (o : LanguageOptions) :
    Prop :=
  ∃ d es, Disk.ChangedAt (logPlace? a env.disk) env.disk d ∧ givenEntries a = .ok es ∧
    (OptionRecord.buildFrom d (.of l) (Operand.text? a.config) es).outcome.1 = .ok (.of o)

/-- A document that is loaded from the source which the arguments name; only the log file may
change meanwhile. -/
def Loads [Machine] (env : Environment) (a : Arguments) (loaded : Loaded) : Prop :=
  ∃ disk : Journal → Disk,
    (∀ ns, Disk.ChangedAt (logPlace? a env.disk) env.disk (disk ns)) ∧
    (load ⟨disk, env.reply, env.input⟩ a.file (Operand.text? a.url) a.stdin).outcome.1 = .ok loaded

/-- A text is what stands on the standard output for the code that the library gives for the
language, the options and the document under the arguments. -/
def Prints [Machine] (env : Environment) (a : Arguments) (text : String) : Prop :=
  ∃ name l o loaded code, Operand.text? a.language = some name ∧
    Registry.builtin.language name = .ok l ∧ Merges env a l o ∧ Loads env a loaded ∧
    Registry.builtin.generate name (some (.of o)) loaded.document = .ok code ∧
    Shows env.console l code text

theorem merges_of_optionsFor [Machine] (hs : Quiet env a s) {l : Language} {o : LanguageOptions}
    {t : Session} (h : runFrom (optionsFor a l) s = (.ok o, t)) : Merges env a l o := by
  obtain ⟨es, hgiven, hbuilt⟩ := buildFrom_of_optionsFor (congrArg Prod.fst h)
  exact ⟨s.disk, es, hs.disk, hgiven, hbuilt⟩

/-- Options that the arguments give for a language are options of this language. -/
theorem Merges.language [Machine] {l : Language} {o : LanguageOptions} (h : Merges env a l o) :
    o.language = l := by
  obtain ⟨d, es, -, -, hbuilt⟩ := h
  obtain ⟨members, hfile⟩ := OptionRecord.exists_members hbuilt
  obtain ⟨built, hbuilt, hlanguage⟩ :=
    OptionRecord.exists_of_build (OptionRecord.build_written hfile hbuilt)
  obtain rfl := OptionRecord.of.inj hbuilt
  exact hlanguage

theorem loads_of_load [Machine] (hs : Quiet env a s) {loaded : Loaded}
    (h : (load s.surroundings a.file (Operand.text? a.url) a.stdin).outcome.1 = .ok loaded) :
    Loads env a loaded := by
  refine ⟨fun ns => (s.keepAll ns).disk, fun ns => (hs.keepAll ns).disk, ?_⟩
  rw [← hs.reply, ← hs.input]
  exact h

/-! ## Runs -/

/-- The note on where the document comes from. -/
def sourceNote (l : Language) (loaded : Loaded) : Note :=
  ⟨.info, .command, s!"Generating {l.tag} code from {loaded.source}"⟩

/-- The note on the arguments, with which a run begins. -/
def argumentsNote (a : Arguments) : Note := ⟨.debug, .main, "Arguments: " ++ a.describe⟩

/-- Only what succeeds ends with the code of success. -/
theorem attempt_eq_ok_zero [Machine] {env : Environment} {t : Session} :
    runFrom (attempt env a) s = (.ok 0, t) ↔ runFrom (execute env a) s = (.ok ⟨⟩, t) := by
  unfold attempt
  rw [runFrom_tryCatch, runFrom_bind]
  rcases runFrom (execute env a) s with ⟨e | ⟨⟩, u⟩
  · refine iff_of_false (fun h => ?_) (by simp)
    dsimp only at h
    split at h
    · obtain ⟨_, _, _, h⟩ := runFrom_bind_eq_ok.mp h
      cases h
    · cases h
  · simp

/-- Once the log is set up, a run makes a note on its arguments and does what they ask for. -/
theorem runWith_eq [Machine] {log : Log} {d : Disk}
    (hlog : setUpLog a env.level? env.stamp env.disk = .ok (log, d)) :
    ((runWith env a).exit, (runWith env a).session) =
      runFrom (attempt env a)
        (Session.keep { env.session with log := log, disk := d } (argumentsNote a)) := by
  rw [runWith, hlog]
  rfl

section

variable (hlist : a.listLanguages = false) (hshow : a.showDefaults = false)
include hlist hshow

/-- What the arguments ask for, step by step: the language, its options, the document and the
code. -/
theorem runFrom_execute [Machine] (env : Environment) (s : Session) :
    runFrom (execute env a) s =
      match Operand.text? a.language with
      | none => (.error .noLanguage, s)
      | some name =>
        match Registry.builtin.language name with
        | .error e => (.error (.registry e), s)
        | .ok l =>
          match runFrom (optionsFor a l) s with
          | (.error e, t) => (.error e, t)
          | (.ok o, t) =>
            match (load t.surroundings a.file (Operand.text? a.url) a.stdin).outcome with
            | (.error e, ns) => (.error (.load e), t.keepAll ns)
            | (.ok loaded, ns) =>
              runFrom (generate env a o loaded.document)
                ((t.keepAll ns).keep (sourceNote l loaded)) := by
  unfold execute
  rw [if_neg (by simp [hlist])]
  cases Operand.text? a.language with
  | none => rfl
  | some name =>
    dsimp only
    rw [runFrom_bind, Act.runFrom_of]
    cases Registry.builtin.language name with
    | error e => rfl
    | ok l =>
      dsimp only [Except.mapError]
      rw [if_neg (by simp [hshow]), runFrom_bind]
      rcases runFrom (optionsFor a l) s with ⟨e | o, t⟩
      · rfl
      · dsimp only
        rw [runFrom_bind, runFrom_get]
        dsimp only
        rw [runFrom_bind, Act.runFrom_perform]
        rcases (load t.surroundings a.file (Operand.text? a.url) a.stdin).outcome with
          ⟨e | loaded, ns⟩
        · rfl
        · dsimp only [Except.mapError]
          rw [runFrom_bind, Act.runFrom_note]
          rfl

/-- What the arguments ask for fails with nothing done but logging, or it comes to the generation of
code for their language, options and document. -/
theorem execute_cases [Machine] (hs : Quiet env a s) :
    (∃ e t, runFrom (execute env a) s = (.error e, t) ∧ Quiet env a t) ∨
      ∃ name l o loaded t, Operand.text? a.language = some name ∧
        Registry.builtin.language name = .ok l ∧ Merges env a l o ∧ Loads env a loaded ∧
        Quiet env a t ∧
        runFrom (execute env a) s = runFrom (generate env a o loaded.document) t := by
  rw [runFrom_execute hlist hshow]
  cases hname : Operand.text? a.language with
  | none => exact .inl ⟨_, s, rfl, hs⟩
  | some name =>
    dsimp only
    cases hl : Registry.builtin.language name with
    | error e => exact .inl ⟨_, s, rfl, hs⟩
    | ok l =>
      dsimp only
      have hoptions := quiet_optionsFor hs l
      rcases ho : runFrom (optionsFor a l) s with ⟨e | o, t⟩
      · rw [ho] at hoptions
        exact .inl ⟨e, t, rfl, hoptions⟩
      · rw [ho] at hoptions
        dsimp only
        rcases hload : (load t.surroundings a.file (Operand.text? a.url) a.stdin).outcome with
          ⟨e | loaded, ns⟩
        · exact .inl ⟨_, _, rfl, hoptions.keepAll ns⟩
        · exact .inr ⟨name, l, o, loaded, _, rfl, hl, merges_of_optionsFor hs ho,
            loads_of_load hoptions (congrArg Prod.fst hload), (hoptions.keepAll ns).keep _, rfl⟩

/-- What the arguments ask for fails with nothing done but logging, if the user is told. -/
theorem quiet_execute [Machine] (hs : Quiet env a s) {e : CommandError} {t : Session}
    (h : runFrom (execute env a) s = (.error e, t)) (htold : e.isTold = true) : Quiet env a t := by
  rcases execute_cases hlist hshow hs with
    ⟨e', u, hfailed, hu⟩ | ⟨_, _, o, loaded, u, -, -, -, -, hu, hrun⟩
  · rw [h] at hfailed
    rw [(Prod.mk.inj hfailed).2]
    exact hu
  · rw [h] at hrun
    exact quiet_generate hu hrun.symm htold

/-- What the arguments ask for is printed if it succeeds and no output file is named. -/
theorem prints_execute [Machine] (hs : Quiet env a s)
    (houtput : Operand.text? a.output = none) {t : Session}
    (h : runFrom (execute env a) s = (.ok ⟨⟩, t)) : Prints env a t.output := by
  rcases execute_cases hlist hshow hs with
    ⟨e, u, hfailed, -⟩ | ⟨name, l, o, loaded, u, hname, hl, hmerges, hloads, hu, hrun⟩
  · rw [h] at hfailed
    cases hfailed
  · rw [h] at hrun
    have hshows := shows_of_printedCode (output_generate hu.output houtput hrun.symm)
    rw [hmerges.language] at hshows
    exact ⟨name, l, o, loaded, _, hname, hl, hmerges, hloads,
      Registry.generate_some (Registry.emitter_of_language hl) hmerges.language _, hshows⟩

/-- A run that is told to have failed has done nothing but log, and one that succeeds without an
output file prints the code. -/
theorem attempt_cases [Machine] (hs : Quiet env a s) {code : Nat} {t : Session}
    (h : runFrom (attempt env a) s = (.ok code, t)) :
    (code = 1 ∧ Quiet env a t) ∨
      code = 0 ∧ (Operand.text? a.output = none → Prints env a t.output) := by
  unfold attempt at h
  rw [runFrom_tryCatch, runFrom_bind] at h
  rcases hrun : runFrom (execute env a) s with ⟨e | ⟨⟩, u⟩
  · rw [hrun] at h
    dsimp only at h
    split at h
    · rename_i htold
      obtain ⟨_, w, hshown, h⟩ := runFrom_bind_eq_ok.mp h
      obtain ⟨⟨errors, hw⟩, -⟩ := (Act.Telling.tell env.console _).onlyShows u
      rw [hshown] at hw
      obtain rfl : w = { u with errors := errors } := hw
      cases h
      exact .inl ⟨rfl, (quiet_execute hlist hshow hs hrun htold).errors errors⟩
    · cases h
  · rw [hrun] at h
    cases h
    exact .inr ⟨rfl, fun houtput => prints_execute hlist hshow hs houtput hrun⟩

theorem runWith_cases [Machine] {code : Nat} (h : (runWith env a).exit = .ok code) :
    (code = 1 ∧ Quiet env a (runWith env a).session) ∨
      code = 0 ∧ (Operand.text? a.output = none → Prints env a (runWith env a).session.output) := by
  cases hlog : setUpLog a env.level? env.stamp env.disk with
  | error e =>
    rw [runWith, hlog] at h
    cases h
  | ok set =>
    have hrun := runWith_eq hlog
    rw [h] at hrun
    exact attempt_cases hlist hshow ((Quiet.start hlog).keep _) hrun.symm

end

/-- A run of arguments that ask for no listing. If it has success and no output file is named, the
standard output holds what the library gives for the document and the options under the arguments,
with a line end after it or, on a terminal, in colours, and nothing where that is empty. If the run
tells of a failure, the standard output is empty, and of all files only the log file that the
arguments name may have changed. -/
theorem a_run_prints_the_code_or_leaves_all_files [Machine] {env : Environment}
    {args : List String} {a : Arguments} (hargs : Arguments.read args = .ok a)
    (hlist : a.listLanguages = false) (hshow : a.showDefaults = false) :
    ((run env args).exit = .ok 0 → Operand.text? a.output = none →
        Prints env a (run env args).session.output) ∧
      ((run env args).exit = .ok 1 → (run env args).session.output = "" ∧
        Disk.ChangedAt (logPlace? a env.disk) env.disk (run env args).session.disk) := by
  have hrun : run env args = runWith env a := by rw [run, hargs]
  rw [hrun]
  constructor
  · intro hexit houtput
    rcases runWith_cases hlist hshow hexit with ⟨hcode, -⟩ | ⟨-, hprints⟩
    · cases hcode
    · exact hprints houtput
  · intro hexit
    rcases runWith_cases hlist hshow hexit with ⟨-, hquiet⟩ | ⟨hcode, -⟩
    · exact ⟨hquiet.output, hquiet.disk⟩
    · cases hcode

/-- Code for a sample on the standard input is printed, and a run on a file that is not there
fails. -/
theorem a_run_prints_a_struct :
    let env : Environment := { console := Screen.plain 80, input := "\x7b\"x\": 1\x7d" }
    let args := ["--stdin", "-l", "go"]
    let a : Arguments := { stdin := true, language := some (.given "go") }
    let failing := ["a", "-l", "go"]
    let b : Arguments := { file := some "a", language := some (.given "go") }
    (Arguments.read args = .ok a ∧ a.listLanguages = false ∧ a.showDefaults = false ∧
        (run env args).exit = .ok 0 ∧ Prints env a (run env args).session.output) ∧
      Arguments.read failing = .ok b ∧ b.listLanguages = false ∧ b.showDefaults = false ∧
        (run env failing).exit = .ok 1 ∧ (run env failing).session.output = "" ∧
        (run env failing).session.disk = env.disk := by
  intro env args a failing b
  have hargs : Arguments.read args = .ok a := Except.eq_ok_of_toOption (by decide +kernel)
  have hfailing : Arguments.read failing = .ok b := Except.eq_ok_of_toOption (by decide +kernel)
  have hprinted : (run env args).exit = .ok 0 := Except.eq_ok_of_toOption (by decide +kernel)
  have hfailed : (run env failing).exit = .ok 1 := Except.eq_ok_of_toOption (by decide +kernel)
  have hprints : Prints env a (run env args).session.output :=
    (a_run_prints_the_code_or_leaves_all_files hargs rfl rfl).1 hprinted rfl
  obtain ⟨houtput, hdisk⟩ :=
    (a_run_prints_the_code_or_leaves_all_files hfailing rfl rfl).2 hfailed
  have hsame : (run env failing).session.disk = env.disk := Disk.changedAt_none.mp hdisk
  exact ⟨⟨hargs, rfl, rfl, hprinted, hprints⟩, hfailing, rfl, rfl, hfailed, houtput, hsame⟩

/-- A run that fails leaves a log file with a line in it, which was not there before; and a run that
succeeds on a terminal shows more than the code with a line end after it. -/
theorem a_failure_is_logged_and_a_terminal_shows_colours :
    let env : Environment :=
      { console := Screen.plain 80, disk := { nodes := [(["a"], .file [])] } }
    let out := run env ["a", "-l", "go", "--log-file", "b"]
    let highlight (_ code : String) : Except ScreenFault String :=
      .ok ("\x1b[97;48;2;39;40;34m" ++ code ++ "\x1b[0m\n")
    let terminal : Environment :=
      { console := { Screen.plain 80 with highlight? := some highlight }
        input := "\x7b\"x\": 1\x7d" }
    let shown := run terminal ["--stdin", "-l", "go"]
    let v : Json := .obj [("x", .num (.whole 1))]
    (out.exit = .ok 1 ∧ env.disk.nodes.lookup ["b"] = none ∧
        ∃ byte bytes, out.session.disk.nodes.lookup ["b"] = some (.file (byte :: bytes))) ∧
      shown.exit = .ok 0 ∧ ∃ code, Registry.builtin.generate "go" none v = .ok code ∧
        code ≠ "" ∧ shown.session.output ≠ code ++ "\n" := by
  intro env out highlight terminal shown v
  have hout : (out.exit.toOption, (out.session.disk.nodes.lookup ["b"]).map
      fun n => decide (n ≠ .file [] ∧ n ≠ .directory)) = (some 1, some true) := by decide +kernel
  have hshown : (shown.exit.toOption, (Registry.builtin.generate "go" none v).toOption.map
      fun code => decide (code ≠ "" ∧ shown.session.output ≠ code ++ "\n")) =
        (some 0, some true) := by decide +kernel
  constructor
  · refine ⟨Except.eq_ok_of_toOption (congrArg Prod.fst hout), rfl, ?_⟩
    obtain ⟨node, hnode, hwritten⟩ := Option.map_eq_some_iff.mp (congrArg Prod.snd hout)
    have ⟨hbytes, hfile⟩ := of_decide_eq_true hwritten
    rw [hnode]
    cases node with
    | directory => exact absurd rfl hfile
    | file bytes =>
      cases bytes with
      | nil => exact absurd rfl hbytes
      | cons byte bytes => exact ⟨byte, bytes, rfl⟩
  · refine ⟨Except.eq_ok_of_toOption (congrArg Prod.fst hshown), ?_⟩
    have hcode : (Registry.builtin.generate "go" none v).toOption.map
        (fun code => decide (code ≠ "" ∧ shown.session.output ≠ code ++ "\n")) = some true :=
      congrArg Prod.snd hshown
    obtain ⟨code, hcode, hdiffers⟩ := Option.map_eq_some_iff.mp hcode
    exact ⟨code, Except.eq_ok_of_toOption hcode, of_decide_eq_true hdiffers⟩

end Command

end TypeSketch
