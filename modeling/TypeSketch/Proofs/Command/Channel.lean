-- The two ways on which code leaves a run, into a file or on the standard output. A run that has
-- saved its code prints it as well, without the output file, if the screen can show it. The file
-- holds the code with a line end after it, and so does a standard output that is no terminal, but
-- for a document without objects: nothing is printed for it, and its file gets the lone line end.
import TypeSketch.Proofs.Code.Emitted
import TypeSketch.Proofs.Command.Twin
import TypeSketch.Proofs.Storage.Utf8

namespace TypeSketch

open Text

namespace Command

variable {env : Environment} {a : Arguments} {s t : Session}

/-! ## Saving -/

theorem writeFile_eq_ok [Machine] {p : Path} {text : String}
    (h : runFrom (writeFile p text) s = (.ok ⟨⟩, t)) :
    ∃ d, s.disk.write p (Utf8.encode text) = .ok d ∧ t = { s with disk := d } := by
  rw [Act.runFrom_writeFile] at h
  split at h
  · cases h
  · split at h
    · cases h
    · cases h
    · rename_i d hwrite
      obtain ⟨hbytes, rfl⟩ := Prod.mk.inj h
      obtain ⟨bytes, hbytes, -⟩ := Except.map_eq_ok.mp (Except.mapError_eq_ok.mp hbytes)
      obtain rfl := Utf8.bytes_eq_ok hbytes
      rw [hbytes] at hwrite
      exact ⟨d, hwrite, rfl⟩

/-- Code that is saved is written with a line end after it, and nothing else is done but to tell
so. -/
theorem saveCode_eq_ok [Machine] {c : Console} {o : LanguageOptions} {output code : String}
    (h : runFrom (saveCode c o output code) s = (.ok ⟨⟩, t)) :
    ∃ p d errors, outputPath s.disk o.language o.shared.rootName output = .ok p ∧
      s.disk.write p (Utf8.encode (code ++ "\n")) = .ok d ∧
      t = { s with disk := d, errors := errors } := by
  unfold saveCode at h
  rw [runFrom_bind, runFrom_get] at h
  obtain ⟨p, u, hfound, hrest⟩ := runFrom_bind_eq_ok.mp h
  rw [Act.runFrom_of] at hfound
  obtain ⟨hpath, rfl⟩ := Prod.mk.inj hfound
  obtain ⟨_, u, hwritten, htold⟩ := runFrom_bind_eq_ok.mp hrest
  obtain ⟨d, hwrite, rfl⟩ := writeFile_eq_ok hwritten
  obtain ⟨⟨errors, ht⟩, -⟩ := (Act.Telling.tell c _).onlyShows { s with disk := d }
  rw [htold] at ht
  exact ⟨p, d, errors, Except.mapError_eq_ok.mp hpath, hwrite, ht⟩

/-- With an output file the code stands in it, with a line end after it, and nothing on the standard
output. -/
theorem saved_of_generate [Machine] {output : String}
    (houtput : Operand.text? a.output = some output) {o : LanguageOptions} {v : Json}
    (h : runFrom (generate env a o v) s = (.ok ⟨⟩, t)) :
    t.output = s.output ∧
      ∃ p, outputPath (noted o v s).disk o.language o.shared.rootName output = .ok p ∧
        t.disk.bytesOf? p = some (Utf8.encode ((o.generation v).code ++ "\n")) := by
  obtain ⟨-, u, hplaced, h⟩ := generate_eq_ok h
  unfold place at hplaced
  rw [houtput] at hplaced
  obtain ⟨p, d, errors, hpath, hwrite, rfl⟩ := saveCode_eq_ok hplaced
  obtain ⟨⟨more, ht⟩, -⟩ := (telling_showWanted env.console a (o.generation v)).onlyShows
    { noted o v s with disk := d, errors := errors }
  rw [h] at ht
  obtain rfl : t = { noted o v s with disk := d, errors := more } := ht
  refine ⟨?_, p, hpath, Disk.bytesOf?_of_write hwrite⟩
  exact (Session.output_keepAll _ _).trans (Session.output_keepAll _ _)

/-! ## Printing instead -/

/-- Code that can be saved in one session is printed in every other one as the screen prints it; if
it cannot be, that is what breaks the run off. -/
theorem generate_without_output [Machine] {o : LanguageOptions} {v : Json}
    (h : runFrom (generate env a o v) s = (.ok ⟨⟩, t)) (s' : Session) :
    (runFrom (generate env { a with output := none } o v) s').1 =
      ((printedCode env.console o.language (o.generation v).code).map fun _ => ⟨⟩).mapError
        .screen := by
  obtain ⟨hgoes, u, -, h⟩ := generate_eq_ok h
  have hshown (u' : Session) :
      (runFrom (showWanted env.console a (o.generation v)) u').1 = .ok ⟨⟩ := by
    rw [(telling_showWanted env.console a (o.generation v)).steady u' u, h]
  have hplaced : runFrom (place env.console { a with output := none } o (o.generation v).code)
      (noted o v s') = runFrom (printCode env.console o.language (o.generation v).code)
        (noted o v s') := rfl
  rw [runFrom_generate, hgoes]
  dsimp only
  rw [runFrom_bind, hplaced, runFrom_printCode, printedCode]
  by_cases hcode : (o.generation v).code = ""
  · rw [if_pos hcode, if_pos hcode]
    exact hshown _
  · rw [if_neg hcode, if_neg hcode]
    cases env.console.printed o.language.lexer (o.generation v).code with
    | error f => rfl
    | ok text => exact hshown _

/-- What the screen cannot show breaks a run off. -/
theorem attempt_of_execute [Machine] {r : Except ScreenFault Unit}
    (h : (runFrom (execute env a) s).1 = r.mapError .screen) :
    (runFrom (attempt env a) s).1 = (r.map fun _ => 0).mapError .screen := by
  unfold attempt
  rw [runFrom_tryCatch, runFrom_bind]
  rcases hrun : runFrom (execute env a) s with ⟨r', u⟩
  rw [hrun] at h
  obtain rfl : r' = r.mapError .screen := h
  cases r <;> rfl

/-- A run that saves its code with success. With the same arguments but without an output file it
prints the code that the file holds, or nothing, if the screen can show it. -/
theorem runWith_without_output [Machine] {output : String}
    (hlist : a.listLanguages = false) (hshow : a.showDefaults = false)
    (houtput : Operand.text? a.output = some output) (hexit : (runWith env a).exit = .ok 0) :
    ∃ name l o loaded d p, Operand.text? a.language = some name ∧
      Registry.builtin.language name = .ok l ∧ Merges env a l o ∧ Loads env a loaded ∧
      Disk.ChangedAt (logPlace? a env.disk) env.disk d ∧
      outputPath d o.language o.shared.rootName output = .ok p ∧
      (runWith env a).session.output = "" ∧
      (runWith env a).session.disk.bytesOf? p =
        some (Utf8.encode (o.generate loaded.document ++ "\n")) ∧
      match printedCode env.console l (o.generate loaded.document) with
      | .ok text => (runWith env { a with output := none }).exit = .ok 0 ∧
          (runWith env { a with output := none }).session.output = text
      | .error f => (runWith env { a with output := none }).exit = .error (.screen f) := by
  cases hlog : setUpLog a env.level? env.stamp env.disk with
  | error e =>
    rw [runWith, hlog] at hexit
    cases hexit
  | ok set =>
    obtain ⟨log, d⟩ := set
    -- The log is set up in the same way, so the sessions differ in their first note only.
    have hrun := runWith_eq hlog
    have hrun' := runWith_eq (a := { a with output := none }) hlog
    rw [hexit] at hrun
    have hstart := (Quiet.start hlog).keep (argumentsNote a)
    obtain ⟨name, l, o, loaded, u, u', hname, hl, hmerges, hloads, hu, htwin, hsaved, hsame⟩ :=
      execute_twin hlist hshow (twin_start _ a _) hstart (attempt_eq_ok_zero.mp hrun.symm)
    obtain ⟨hnone, p, hpath, hbytes⟩ := saved_of_generate houtput hsaved
    refine ⟨name, l, o, loaded, _, p, hname, hl, hmerges, hloads,
      (quiet_noted hu o loaded.document).disk, hpath, hnone.trans hu.output, hbytes, ?_⟩
    have hexecuted := generate_without_output hsaved u'
    rw [← hsame, hmerges.language] at hexecuted
    have hattempted := attempt_of_execute hexecuted
    rw [← hrun'] at hattempted
    change match printedCode env.console l (o.generation loaded.document).code with
      | .ok text => _
      | .error f => _
    split
    · rename_i text htext
      rw [htext] at hattempted
      have hexit' : (runWith env { a with output := none }).exit = .ok 0 := hattempted
      rw [hexit'] at hrun'
      have hprinted := output_generate (htwin.output.trans hu.output) rfl
        (hsame.symm.trans (attempt_eq_ok_zero.mp hrun'.symm))
      rw [hmerges.language, htext] at hprinted
      exact ⟨hexit', (Except.ok.inj hprinted).symm⟩
    · rename_i f hf
      rw [hf] at hattempted
      exact hattempted

/-! ## The law -/

/-- A line is no empty text, also in bytes. -/
theorem encode_line_ne (code : String) : Utf8.encode (code ++ "\n") ≠ Utf8.encode "" := by
  rw [Ne, Utf8.encode_inj]
  exact fun h => absurd (congrArg String.length h) (by simp)

/-- A standard output that is no terminal gets the code with a line end after it, or nothing. -/
theorem printed_of_plain {c : Console} (hplain : c.highlight? = none) {lexer code text : String}
    (h : c.printed lexer code = .ok text) : text = code ++ "\n" := by
  rw [Console.printed, hplain] at h
  dsimp only [Console.plain] at h
  split at h
  · exact (Except.ok.inj h).symm
  · cases h

/-- A run that saves its code with success, and a run with the same arguments but without an output
file, where the arguments ask for no listing. Both come to the same options and the same document.
The file holds the code with a line end after it, whatever the document is. If the document reaches
no object then there is no code, and the second run has success and prints nothing. If it does, the
second run prints the code as the screen prints it, or is broken off by what the screen cannot show.
So where the second run has success, the file holds what is printed exactly if there is an object to
generate code for and the screen prints this code as it stands with a line end; and the screen does
so whenever the standard output is no terminal. -/
theorem a_file_holds_what_is_printed_if_an_object_is_reached [Machine] {env : Environment}
    {args args' : List String} {a : Arguments} {output : String}
    (hargs : Arguments.read args = .ok a)
    (hargs' : Arguments.read args' = .ok { a with output := none })
    (houtput : Operand.text? a.output = some output) (hlist : a.listLanguages = false)
    (hshow : a.showDefaults = false) (hexit : (run env args).exit = .ok 0) :
    ∃ name l o loaded d p, Operand.text? a.language = some name ∧
      Registry.builtin.language name = .ok l ∧ Merges env a l o ∧ Loads env a loaded ∧
      Disk.ChangedAt (logPlace? a env.disk) env.disk d ∧
      outputPath d o.language o.shared.rootName output = .ok p ∧
      (run env args).session.output = "" ∧
      (run env args).session.disk.bytesOf? p =
        some (Utf8.encode (o.generate loaded.document ++ "\n")) ∧
      (¬ loaded.document.ReachesObject → o.generate loaded.document = "" ∧
        (run env args').exit = .ok 0 ∧ (run env args').session.output = "") ∧
      (loaded.document.ReachesObject →
        match env.console.printed l.lexer (o.generate loaded.document) with
        | .ok text => (run env args').exit = .ok 0 ∧ (run env args').session.output = text
        | .error f => (run env args').exit = .error (.screen f)) ∧
      ((run env args').exit = .ok 0 →
        ((run env args).session.disk.bytesOf? p =
            some (Utf8.encode (run env args').session.output) ↔
          loaded.document.ReachesObject ∧ env.console.printed l.lexer (o.generate loaded.document) =
            .ok (o.generate loaded.document ++ "\n")) ∧
        (env.console.highlight? = none →
          ((run env args).session.disk.bytesOf? p =
              some (Utf8.encode (run env args').session.output) ↔
            loaded.document.ReachesObject))) := by
  have hrun : run env args = runWith env a := by rw [run, hargs]
  have hrun' : run env args' = runWith env { a with output := none } := by rw [run, hargs']
  rw [hrun] at hexit ⊢
  rw [hrun']
  obtain ⟨name, l, o, loaded, d, p, hname, hl, hmerges, hloads, hd, hpath, hnone, hbytes,
    hprinted⟩ := runWith_without_output hlist hshow houtput hexit
  have hunreached (h : ¬ loaded.document.ReachesObject) : o.generate loaded.document = "" ∧
      (runWith env { a with output := none }).exit = .ok 0 ∧
      (runWith env { a with output := none }).session.output = "" := by
    have hempty : o.generate loaded.document = "" := LanguageOptions.generate_eq_empty.mpr h
    rw [printedCode, if_pos hempty] at hprinted
    exact ⟨hempty, hprinted⟩
  have hreached (h : loaded.document.ReachesObject) :
      match env.console.printed l.lexer (o.generate loaded.document) with
      | .ok text => (runWith env { a with output := none }).exit = .ok 0 ∧
          (runWith env { a with output := none }).session.output = text
      | .error f => (runWith env { a with output := none }).exit = .error (.screen f) := by
    rwa [printedCode, if_neg fun hempty => LanguageOptions.generate_eq_empty.mp hempty h]
      at hprinted
  refine ⟨name, l, o, loaded, d, p, hname, hl, hmerges, hloads, hd, hpath, hnone, hbytes,
    hunreached, hreached, fun hexit' => ?_⟩
  -- With success, the screen has printed the code of a document that reaches an object.
  have hsuccess (h : loaded.document.ReachesObject) :
      env.console.printed l.lexer (o.generate loaded.document) =
        .ok (runWith env { a with output := none }).session.output := by
    have hmatch := hreached h
    split at hmatch
    · rename_i text htext
      rw [htext, hmatch.2]
    · rw [hexit'] at hmatch
      cases hmatch
  have hobject (hsame : (runWith env a).session.disk.bytesOf? p =
      some (Utf8.encode (runWith env { a with output := none }).session.output)) :
      loaded.document.ReachesObject := by
    by_contra h
    rw [hbytes, (hunreached h).2.2] at hsame
    exact encode_line_ne _ (Option.some.inj hsame)
  refine ⟨⟨fun hsame => ⟨hobject hsame, ?_⟩, ?_⟩, fun hplain => ⟨hobject, fun h => ?_⟩⟩
  · rw [hsuccess (hobject hsame)]
    rw [hbytes, Option.some.injEq, Utf8.encode_inj] at hsame
    rw [hsame]
  · rintro ⟨h, hline⟩
    rw [hsuccess h] at hline
    rw [hbytes, Except.ok.inj hline]
  · rw [hbytes, printed_of_plain hplain (hsuccess h)]

/-- Code for a sample on the standard input is printed as it is saved. -/
theorem a_struct_is_printed_as_it_is_saved :
    let env : Environment := { console := Screen.plain 80, input := "\x7b\"x\": 1\x7d" }
    let args := ["--stdin", "-l", "go", "-o", "out"]
    let args' := ["--stdin", "-l", "go"]
    let a : Arguments :=
      { stdin := true, language := some (.given "go"), output := some (.given "out") }
    (Arguments.read args = .ok a ∧ Arguments.read args' = .ok { a with output := none } ∧
        Operand.text? a.output = some "out" ∧ a.listLanguages = false ∧ a.showDefaults = false ∧
        (run env args).exit = .ok 0) ∧
      (run env args').exit = .ok 0 ∧ (run env args).session.output = "" ∧
      (run env args).session.disk.bytesOf? (Path.ofString "out") =
        some (Utf8.encode (run env args').session.output) ∧
      ∃ loaded, Loads env a loaded ∧ loaded.document.ReachesObject := by
  intro env args args' a
  have hargs : Arguments.read args = .ok a := Except.eq_ok_of_toOption (by decide +kernel)
  have hargs' : Arguments.read args' = .ok { a with output := none } :=
    Except.eq_ok_of_toOption (by decide +kernel)
  have hout : ((run env args).exit.toOption, (run env args').exit.toOption,
      (run env args).session.disk.bytesOf? (Path.ofString "out")) =
        (some 0, some 0, some (Utf8.encode (run env args').session.output)) := by decide +kernel
  have hexit : (run env args).exit = .ok 0 := Except.eq_ok_of_toOption (congrArg Prod.fst hout)
  have hexit' : (run env args').exit = .ok 0 :=
    Except.eq_ok_of_toOption (congrArg (·.2.1) hout)
  have hsaved : (run env args).session.disk.bytesOf? (Path.ofString "out") =
      some (Utf8.encode (run env args').session.output) := congrArg (·.2.2) hout
  obtain ⟨_, _, o, loaded, d, p, -, -, -, hloads, hd, hpath, hnone, -, -, -, hsuccess⟩ :=
    a_file_holds_what_is_printed_if_an_object_is_reached hargs hargs' rfl rfl rfl hexit
  obtain rfl : d = env.disk := Disk.changedAt_none.mp hd
  have hlook : env.disk.look (Path.ofString "out") = .ok none := rfl
  rw [outputPath, hlook] at hpath
  obtain rfl : Path.ofString "out" = p := Except.ok.inj hpath
  have hsame := (hsuccess hexit').2 rfl
  exact ⟨⟨hargs, hargs', rfl, rfl, rfl, hexit⟩, hexit', hnone, hsaved, loaded, hloads,
    hsame.mp hsaved⟩

/-- A number has no code, so nothing is printed for it; but its file gets a line end. -/
theorem a_number_is_saved_as_a_line_end :
    ¬ ∀ (env : Environment) (args args' : List String) (a : Arguments) (output : String),
      Arguments.read args = .ok a → Arguments.read args' = .ok { a with output := none } →
      Operand.text? a.output = some output → a.listLanguages = false → a.showDefaults = false →
      env.console.highlight? = none → env.disk.look (Path.ofString output) = .ok none →
      (run env args).exit = .ok 0 → (run env args').exit = .ok 0 →
      (run env args).session.disk.bytesOf? (Path.ofString output) =
        some (Utf8.encode (run env args').session.output) := by
  intro hall
  let env : Environment :=
    { console := Screen.plain 80, disk := { nodes := [(["a.json"], .file (Utf8.encode "42"))] } }
  let a : Arguments :=
    { file := some "a.json", language := some (.given "go"), output := some (.given "out") }
  let args := ["a.json", "-l", "go", "-o", "out"]
  let args' := ["a.json", "-l", "go"]
  have hargs : Arguments.read args = .ok a := Except.eq_ok_of_toOption (by decide +kernel)
  have hargs' : Arguments.read args' = .ok { a with output := none } :=
    Except.eq_ok_of_toOption (by decide +kernel)
  have hout : ((run env args).exit.toOption, (run env args').exit.toOption,
      (run env args).session.disk.bytesOf? (Path.ofString "out"),
      Utf8.encode (run env args').session.output) = (some 0, some 0, some [0x0A], []) := by
    decide +kernel
  have hexit : (run env args).exit = .ok 0 := Except.eq_ok_of_toOption (congrArg Prod.fst hout)
  have hexit' : (run env args').exit = .ok 0 :=
    Except.eq_ok_of_toOption (congrArg (·.2.1) hout)
  have hsaved : (run env args).session.disk.bytesOf? (Path.ofString "out") = some [0x0A] :=
    congrArg (·.2.2.1) hout
  have hprinted : Utf8.encode (run env args').session.output = [] := congrArg (·.2.2.2) hout
  have hsame := hall env args args' a "out" hargs hargs' rfl rfl rfl rfl rfl hexit hexit'
  rw [hsaved, hprinted] at hsame
  cases hsame

end Command

end TypeSketch
