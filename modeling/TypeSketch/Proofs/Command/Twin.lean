-- Sessions that differ in what was logged. The first note of a run shows its arguments and ends in
-- a closing parenthesis, so two runs whose arguments differ in the output alone have logs that
-- differ there, and disks that are alike; both come to the same options and to the same document.
import TypeSketch.Proofs.Command.Run
import TypeSketch.Proofs.Document.Failure
import TypeSketch.Proofs.Storage.Alike

namespace TypeSketch

open Text

/-! ## Documents from alike disks -/

theorem read_of_parseDocument [Machine] {text source : String} {j : Journal} {v : Json}
    (h : (runFrom (parseDocument text source) j).1 = .ok v) :
    Json.read (Machine.limits .document) text = .ok v := by
  rw [outcome_parseDocument] at h
  split at h
  · cases h
  · split at h
    · rename_i w hw
      rw [hw, Except.ok.inj h]
    · cases h
    · cases h

section

variable {disk disk' : Journal → Disk} (h : ∀ ns, Disk.Alike (disk ns) (disk' ns))
include h

/-- The text of a file that holds a document is the same on both disks. -/
theorem readFound_alike [Machine] {p : Path} {j : Journal} {loaded : Loaded}
    (hloaded : (runFrom (readFound disk p) j).1 = .ok loaded) :
    runFrom (readFound disk' p) j = runFrom (readFound disk p) j := by
  obtain ⟨_, _, hget, hrest⟩ := runFrom_bind_eq_ok.mp (Prod.ext hloaded rfl)
  cases hget
  obtain ⟨text, _, htext, hrest⟩ := runFrom_bind_eq_ok.mp hrest
  rw [Noted.runFrom_ofExcept] at htext
  have htext := Except.mapError_eq_ok.mp (congrArg Prod.fst htext)
  obtain ⟨v, _, hparse, -⟩ := runFrom_bind_eq_ok.mp hrest
  have htext' := (h j).readText htext (read_of_parseDocument (congrArg Prod.fst hparse))
  simp only [readFound, runFrom_bind, runFrom_get, htext, htext']

/-- A document that one disk gives is given by the other one, with the same notes. -/
theorem loadFile_alike [Machine] {p : Path} {loaded : Loaded}
    (hloaded : (loadFile disk p).outcome.1 = .ok loaded) :
    (loadFile disk' p).outcome = (loadFile disk p).outcome := by
  have hfile {bytes : List UInt8} (hlook : (disk [tryNote p]).look p = .ok (some (.file bytes))) :
      ∃ bytes', (disk' [tryNote p]).look p = .ok (some (.file bytes')) := by
    rcases (h [tryNote p]).look p with hsame | ⟨_, bytes', -, hd'⟩
    · exact ⟨bytes, hsame.trans hlook⟩
    · exact ⟨bytes', hd'⟩
  rw [Noted.outcome_eq, loadFile, runFrom_bind, Noted.runFrom_note] at hloaded ⊢
  rw [Noted.outcome_eq, loadFile, runFrom_bind, Noted.runFrom_note]
  dsimp only at hloaded ⊢
  rw [runFrom_bind, runFrom_get] at hloaded ⊢
  rw [runFrom_bind, runFrom_get]
  dsimp only [List.nil_append] at hloaded ⊢
  rw [← tryNote] at hloaded ⊢
  cases hlook : (disk [tryNote p]).look p with
  | error f =>
    rw [hlook] at hloaded
    cases hloaded
  | ok found =>
    rw [hlook] at hloaded
    rcases found with _ | bytes | _
    · cases hloaded
    · obtain ⟨bytes', hlook'⟩ := hfile hlook
      rw [hlook']
      dsimp only at hloaded ⊢
      by_cases hjson : (!p.isJson) = true
      · rw [if_pos hjson, runFrom_bind, Noted.runFrom_note] at hloaded
        rw [if_pos hjson, if_pos hjson, runFrom_bind, runFrom_bind, Noted.runFrom_note]
        exact readFound_alike h hloaded
      · rw [if_neg hjson] at hloaded
        rw [if_neg hjson, if_neg hjson]
        exact readFound_alike h hloaded
    · cases hloaded

theorem load_alike [Machine] {reply : Reply} {input : String} {file url : Option String}
    {stdin : Bool} {loaded : Loaded}
    (hloaded : (load ⟨disk, reply, input⟩ file url stdin).outcome.1 = .ok loaded) :
    (load ⟨disk', reply, input⟩ file url stdin).outcome =
      (load ⟨disk, reply, input⟩ file url stdin).outcome := by
  unfold load at hloaded ⊢
  split at hloaded
  · rfl
  · exact loadFile_alike h hloaded
  · rfl
  · rfl
  · rfl

end

/-! ## Sessions with alike disks -/

namespace Command

/-- Two sessions with the same log, of which the disks are alike; their journals may differ. -/
structure Twin (s s' : Session) : Prop where
  log : s'.log = s.log
  reply : s'.reply = s.reply
  input : s'.input = s.input
  output : s'.output = s.output
  disk : Disk.Alike s.disk s'.disk

variable {a : Arguments} {s s' : Session}

theorem Twin.refl (s : Session) : Twin s s := ⟨rfl, rfl, rfl, rfl, .refl s.disk⟩

/-- They stay so if the same is noted in both, or what makes a line in the log file that ends in a
closing parenthesis. -/
theorem Twin.keep (h : Twin s s') {n n' : Note} (hlevel : n'.level = n.level)
    (hline : AlikeBytes (Utf8.encode (s.log.line n)) (Utf8.encode (s.log.line n'))) :
    Twin (s.keep n) (s'.keep n') := by
  unfold Session.keep
  rw [h.log, hlevel]
  split
  · refine ⟨rfl, h.reply, h.input, h.output, ?_⟩
    dsimp only
    split
    · exact h.disk
    · exact h.disk.append _ hline
  · exact h

theorem Twin.keepAll (h : Twin s s') (ns : Journal) : Twin (s.keepAll ns) (s'.keepAll ns) := by
  induction ns generalizing s s' with
  | nil => exact h
  | cons n ns ih => exact ih (h.keep rfl (.inl rfl))

/-- Arguments are shown in parentheses. -/
theorem shut_argumentsNote (l : Log) (a : Arguments) :
    Shut (Utf8.encode (l.line (argumentsNote a))) := by
  obtain ⟨inner, hdescribe⟩ : ∃ inner, a.describe = inner ++ ")" := ⟨_, rfl⟩
  let before := s!"{l.stamp} - {Part.main.name} - {Level.debug.name} - "
  have hline : l.line (argumentsNote a) = before ++ ("Arguments: " ++ inner) ++ (")" ++ "\n") := by
    simp [before, Log.line, argumentsNote, hdescribe, toString, String.append_assoc]
  have hend : Utf8.encode (")" ++ "\n") = [0x29, 0x0A] := by decide +kernel
  rw [hline, Utf8.encode_append, hend]
  exact (List.suffix_append _ _).isInfix

/-- So two runs whose logs are the same begin as twins. -/
theorem twin_start (s : Session) (a a' : Arguments) :
    Twin (s.keep (argumentsNote a)) (s.keep (argumentsNote a')) :=
  (Twin.refl s).keep rfl (.inr ⟨shut_argumentsNote _ a, shut_argumentsNote _ a'⟩)

/-! ## Twin runs -/

/-- Options that are found in one session are found in the other. -/
theorem optionsFor_twin [Machine] (h : Twin s s') {l : Language} {o : LanguageOptions}
    {t : Session} (hok : runFrom (optionsFor a l) s = (.ok o, t)) :
    ∃ t', runFrom (optionsFor { a with output := none } l) s' = (.ok o, t') ∧ Twin t t' := by
  have hgiven : givenEntries { a with output := none } = givenEntries a := rfl
  rw [runFrom_optionsFor] at hok
  rw [runFrom_optionsFor, hgiven]
  cases hes : givenEntries a with
  | error e =>
    rw [hes] at hok
    cases hok
  | ok es =>
    rw [hes] at hok
    dsimp only at hok ⊢
    obtain ⟨hresult, rfl⟩ := Prod.mk.inj hok
    obtain ⟨r, hbuilt, -⟩ := Except.bind_eq_ok.mp (Except.mapError_eq_ok.mp hresult)
    rw [h.disk.buildFrom hbuilt, hresult]
    exact ⟨_, rfl, h.keepAll _⟩

/-- A document that is loaded in one session is loaded in the other. -/
theorem load_twin [Machine] (h : Twin s s') {file url : Option String} {stdin : Bool}
    {loaded : Loaded} {ns : Journal}
    (hok : (load s.surroundings file url stdin).outcome = (.ok loaded, ns)) :
    (load s'.surroundings file url stdin).outcome = (.ok loaded, ns) := by
  have hdisk : ∀ ns, Disk.Alike (s.keepAll ns).disk (s'.keepAll ns).disk :=
    fun ns => (h.keepAll ns).disk
  rw [← hok, Session.surroundings, Session.surroundings, h.reply, h.input]
  exact load_alike hdisk (congrArg Prod.fst hok)

section

variable (hlist : a.listLanguages = false) (hshow : a.showDefaults = false)
include hlist hshow

/-- What the arguments ask for, if it succeeds in one session, comes to the generation of code for
some options and a document; and so it does in the other session without an output file. -/
theorem execute_twin [Machine] {env : Environment} (h : Twin s s') (hs : Quiet env a s)
    {t : Session} (hok : runFrom (execute env a) s = (.ok ⟨⟩, t)) :
    ∃ name l o loaded u u', Operand.text? a.language = some name ∧
      Registry.builtin.language name = .ok l ∧ Merges env a l o ∧ Loads env a loaded ∧
      Quiet env a u ∧ Twin u u' ∧ runFrom (generate env a o loaded.document) u = (.ok ⟨⟩, t) ∧
      runFrom (execute env { a with output := none }) s' =
        runFrom (generate env { a with output := none } o loaded.document) u' := by
  rw [runFrom_execute hlist hshow] at hok
  rw [runFrom_execute (a := { a with output := none }) hlist hshow]
  dsimp only at hok ⊢
  cases hname : Operand.text? a.language with
  | none =>
    rw [hname] at hok
    cases hok
  | some name =>
    rw [hname] at hok
    dsimp only at hok ⊢
    cases hl : Registry.builtin.language name with
    | error e =>
      rw [hl] at hok
      cases hok
    | ok l =>
      rw [hl] at hok
      dsimp only at hok ⊢
      have hoptions := quiet_optionsFor hs l
      rcases ho : runFrom (optionsFor a l) s with ⟨e | o, u⟩
      · rw [ho] at hok
        cases hok
      · obtain ⟨u', ho', hu⟩ := optionsFor_twin h ho
        rw [ho] at hok hoptions
        rw [ho']
        dsimp only at hok ⊢
        rcases hload : (load u.surroundings a.file (Operand.text? a.url) a.stdin).outcome with
          ⟨e | loaded, ns⟩
        · rw [hload] at hok
          cases hok
        · rw [hload] at hok
          rw [load_twin hu hload]
          dsimp only at hok ⊢
          exact ⟨name, l, o, loaded, _, _, rfl, hl, merges_of_optionsFor hs ho,
            loads_of_load hoptions (congrArg Prod.fst hload), (hoptions.keepAll ns).keep _,
            (hu.keepAll ns).keep rfl (.inl rfl), hok, rfl⟩

end

end Command

end TypeSketch
