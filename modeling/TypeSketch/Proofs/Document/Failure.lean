-- Which failures get past the kind of error that loading promises. Nearly all are
-- put into words of one kind, but a path that the system refuses, an address that
-- cannot be read at all and a text that goes beyond the limits of the reader come
-- out as they are. So do, in options, the bytes of a config file that are no text
-- and a value which does not fit and cannot be shown.
import TypeSketch.Proofs.Options.Accepted
import TypeSketch.Proofs.Options.File
import TypeSketch.Proofs.Storage.Disk

namespace TypeSketch

open Text

/-! ## Failures of the promised kind -/

/-- Whether a failure to load a document is of the kind that loading promises. -/
def LoadError.isOwn : LoadError → Bool
  | malformedUrl _ | excess _ | unreachable .. => false
  | _ => true

/-- Whether a failure to read a config file is of the kind that the building of options promises. -/
def OptionFileError.isOwn : OptionFileError → Bool
  | undecodable _ | excess _ | unreachable .. => false
  | _ => true

/-- Whether a failure is of the kind that the building of options promises. -/
def SetupError.isOwn : SetupError → Bool
  | option e => e.isOwn
  | file e => e.isOwn
  | registry _ | generation _ | mismatched .. | plainEmitter => false

section

variable {ε α β : Type}

/-- An outcome is a value, or an error of some kind. -/
def KeepsTo (kind : ε → Bool) (r : Except ε α) : Prop :=
  (∃ a, r = .ok a) ∨ ∃ e, r = .error e ∧ kind e = true

@[simp]
theorem keepsTo_ok (kind : ε → Bool) (a : α) : KeepsTo kind (.ok a) := .inl ⟨a, rfl⟩

@[simp]
theorem keepsTo_error {kind : ε → Bool} {e : ε} :
    KeepsTo kind (.error e : Except ε α) ↔ kind e = true := by
  simp [KeepsTo]

theorem keepsTo_mapError {δ : Type} {kind : δ → Bool} {f : ε → δ} {r : Except ε α} :
    KeepsTo kind (r.mapError f) ↔ KeepsTo (fun e => kind (f e)) r := by
  cases r <;> simp [Except.mapError]

/-- What cannot fail may follow. -/
theorem keepsTo_bind {σ : Type} {kind : ε → Bool} {w : ExceptT ε (StateM σ) α}
    {f : α → ExceptT ε (StateM σ) β} (hf : ∀ a t, ∃ b, (runFrom (f a) t).1 = .ok b) (s : σ) :
    KeepsTo kind (runFrom (w >>= f) s).1 ↔ KeepsTo kind (runFrom w s).1 := by
  rw [runFrom_bind]
  rcases runFrom w s with ⟨e | a, t⟩
  · rw [keepsTo_error, keepsTo_error]
  · obtain ⟨b, hb⟩ := hf a t
    dsimp only
    rw [hb]
    exact ⟨fun _ => keepsTo_ok kind a, fun _ => keepsTo_ok kind b⟩

end

/-! ## Documents -/

/-- The system refuses to look at a path, and not because nothing is there. -/
def Disk.Refuses (d : Disk) (p : Path) : Prop :=
  ∃ f, d.find .look p = .error f ∧ f.isAbsence = false

theorem Disk.refuses_iff {d : Disk} {p : Path} : d.Refuses p ↔ ∃ f, d.look p = .error f := by
  rw [Refuses, look]
  cases d.find .look p with
  | ok n => simp
  | error f => cases hf : f.isAbsence <;> simp [hf]

/-- A text which is not blank, and whose reading goes beyond the limits: at a whole number with too
many digits, or at an array or an object that is nested too deep. -/
def ExceedsLimits [Machine] (text : String) : Prop :=
  trim text ≠ "" ∧ ∃ e, Json.read (Machine.limits .document) text = .error (.excess e)

/-- What the text of a document comes to, whatever was noted before. -/
theorem outcome_parseDocument [Machine] (text source : String) (j : Journal) :
    (runFrom (parseDocument text source) j).1 =
      if trim text = "" then .error (.emptyText source)
      else match Json.read (Machine.limits .document) text with
        | .ok v => .ok v
        | .error (.excess e) => .error (.excess e)
        | .error e => .error (.badText source e) := by
  unfold parseDocument
  by_cases hblank : trim text = ""
  · rw [if_pos hblank]
    split <;> simp [hblank]
  · rw [if_neg hblank]
    cases Json.read (Machine.limits .document) text with
    | ok v => simp [hblank]
    | error e => cases e <;> simp [hblank, runFrom_bind]

theorem keepsTo_parseDocument [Machine] (text source : String) (j : Journal) :
    KeepsTo LoadError.isOwn (runFrom (parseDocument text source) j).1 ↔ ¬ ExceedsLimits text := by
  rw [outcome_parseDocument, ExceedsLimits]
  split
  · rename_i hblank
    simp [hblank, LoadError.isOwn]
  · rename_i hblank
    split
    · rename_i v hv
      simp [hv]
    · rename_i e he
      simp [he, hblank, LoadError.isOwn]
    · rename_i e hexcess he
      have hother : ∀ x, e ≠ .excess x := fun x hx => hexcess x hx
      simp [he, hother, LoadError.isOwn]

/-- The note that the loading of a file begins with. -/
def tryNote (p : Path) : Note :=
  ⟨.debug, .loading, s!"Attempting to load JSON from file: {p.text}"⟩

/-- The notes before a file is read. -/
def readNotes (p : Path) : Journal :=
  if p.isJson then [tryNote p]
  else [tryNote p, ⟨.warning, .loading, s!"File does not have .json extension: {p.text}"⟩]

/-- A file whose path the system refuses, or whose text goes beyond the limits. -/
def FileSlips [Machine] (disk : Journal → Disk) (p : Path) : Prop :=
  (disk [tryNote p]).Refuses p ∨
    ∃ bytes text, (disk [tryNote p]).look p = .ok (some (.file bytes)) ∧
      readText (disk (readNotes p)) p = .ok text ∧ ExceedsLimits text

/-- The text of a file is either there or the failure is put into words. -/
theorem isOwn_of_readText {d : Disk} {p : Path} {e : LoadError} (h : readText d p = .error e) :
    e.isOwn = true := by
  rw [readText] at h
  split at h
  · cases h
    rfl
  · split at h
    · cases h
      rfl
    · cases h

/-- What is left to do once the file of a document is found. -/
def readFound [Machine] (disk : Journal → Disk) (p : Path) : Noted LoadError Loaded := do
  let text ← Noted.ofExcept id (readText (disk (← get)) p)
  let v ← parseDocument text p.text
  Noted.note .info .loading s!"Successfully loaded JSON from {p.text}"
  return ⟨"📄 " ++ p.text, v⟩

theorem keepsTo_readFound [Machine] (disk : Journal → Disk) (p : Path) (j : Journal) :
    KeepsTo LoadError.isOwn (runFrom (readFound disk p) j).1 ↔
      ¬ ∃ text, readText (disk j) p = .ok text ∧ ExceedsLimits text := by
  rw [readFound, runFrom_bind, runFrom_get]
  dsimp only
  rw [runFrom_bind, Noted.runFrom_ofExcept]
  cases htext : readText (disk j) p with
  | error e => simp [Except.mapError, isOwn_of_readText htext]
  | ok text =>
    dsimp only [Except.mapError]
    rw [keepsTo_bind (fun v t => ⟨_, rfl⟩), keepsTo_parseDocument]
    simp

theorem keepsTo_loadFile [Machine] (disk : Journal → Disk) (p : Path) :
    KeepsTo LoadError.isOwn (loadFile disk p).outcome.1 ↔ ¬ FileSlips disk p := by
  rw [FileSlips, Disk.refuses_iff, Noted.outcome_eq, loadFile, runFrom_bind, Noted.runFrom_note]
  dsimp only
  rw [runFrom_bind, runFrom_get]
  dsimp only [List.nil_append]
  rw [← tryNote]
  cases hlook : (disk [tryNote p]).look p with
  | error f => simp [LoadError.isOwn]
  | ok found =>
    cases found with
    | none => simp [LoadError.isOwn, runFrom_bind]
    | some node =>
      cases node with
      | directory => simp [LoadError.isOwn, runFrom_bind]
      | file bytes =>
        dsimp only
        -- With the warning or without it, the reading goes on from the notes made by then.
        unfold readNotes
        split
        · rename_i hjson
          rw [runFrom_bind, Noted.runFrom_note]
          refine (keepsTo_readFound disk p _).trans ?_
          rw [if_neg (by simpa using hjson)]
          simp
        · rename_i hjson
          refine (keepsTo_readFound disk p _).trans ?_
          rw [if_pos (by simpa using hjson)]
          simp

/-- An address that cannot be read, or one behind which there is a page whose text goes beyond the
limits. -/
def UrlSlips [Machine] (reply : Reply) (url : String) : Prop :=
  (∃ e, Url.parse url = .error e) ∨
    ∃ parsed status headers body, Url.parse url = .ok parsed ∧ parsed.isWeb = true ∧
      reply = .page status headers body ∧ Reply.isFailure status = false ∧ ExceedsLimits body

/-- A request is given up with the error that is named. -/
theorem runFrom_refuseUrl {α : Type} (note : String) (e : LoadError) (j : Journal) :
    (runFrom (refuseUrl note e : Noted LoadError α) j).1 = .error e := rfl

theorem keepsTo_loadUrl [Machine] (reply : Reply) (url : String) :
    KeepsTo LoadError.isOwn (loadUrl reply url).outcome.1 ↔ ¬ UrlSlips reply url := by
  unfold UrlSlips
  rw [Noted.outcome_eq, loadUrl, runFrom_bind, Noted.runFrom_note]
  dsimp only
  rw [runFrom_bind, Noted.runFrom_ofExcept]
  cases hurl : Url.parse url with
  | error e => simp [Except.mapError, LoadError.isOwn]
  | ok parsed =>
    dsimp only [Except.mapError]
    cases hweb : parsed.isWeb with
    | false => simp [refuseUrl, runFrom_bind, LoadError.isOwn, hweb]
    | true =>
      rw [if_neg (by simp)]
      cases reply with
      | page status headers body =>
        dsimp only
        cases hstatus : Reply.isFailure status with
        | true =>
          rw [if_pos rfl, runFrom_bind, ← Prod.eta (runFrom _ _), runFrom_refuseUrl]
          simp [LoadError.isOwn, hstatus]
        | false =>
          have hbody (j : Journal) :
              KeepsTo LoadError.isOwn (runFrom (do
                let v ← parseDocument body url
                Noted.note .info .loading s!"Successfully loaded JSON from {url}"
                return (⟨"🌐 " ++ url, v⟩ : Loaded)) j).1 ↔ ¬ ExceedsLimits body := by
            rw [keepsTo_bind (fun v t => ⟨_, rfl⟩), keepsTo_parseDocument]
          rw [if_neg Bool.false_ne_true]
          split
          · rw [runFrom_bind, Noted.runFrom_note]
            refine (hbody _).trans ?_
            simp [hweb, hstatus]
          · refine (hbody _).trans ?_
            simp [hweb, hstatus]
      | _ => simp [runFrom_refuseUrl, LoadError.isOwn]

/-- The one source that is named has a path that the system refuses, an address that cannot be read,
or a text that goes beyond the limits. -/
def LoadSlips [Machine] (s : Surroundings) (file url : Option String) (stdin : Bool) : Prop :=
  match file.filter (· ≠ ""), url.filter (· ≠ ""), stdin with
  | some f, none, false => FileSlips s.disk (Path.ofString f)
  | none, some u, false => UrlSlips s.reply u
  | none, none, true => ExceedsLimits s.input
  | _, _, _ => False

theorem keepsTo_load [Machine] (s : Surroundings) (file url : Option String) (stdin : Bool) :
    KeepsTo LoadError.isOwn (load s file url stdin).outcome.1 ↔ ¬ LoadSlips s file url stdin := by
  unfold load LoadSlips
  generalize file.filter (· ≠ "") = f
  generalize url.filter (· ≠ "") = u
  match f, u, stdin with
  | some f, none, false => exact keepsTo_loadFile s.disk _
  | none, some u, false => exact keepsTo_loadUrl s.reply u
  | none, none, true =>
    dsimp only
    rw [Noted.outcome_eq, loadInput, runFrom_bind, Noted.runFrom_note]
    dsimp only
    rw [keepsTo_bind (fun v t => ⟨_, rfl⟩), keepsTo_parseDocument]
  | none, none, false => simp [Noted.outcome_eq, LoadError.isOwn]
  | some _, some _, _ => simp [Noted.outcome_eq, LoadError.isOwn]
  | some _, none, true => simp [Noted.outcome_eq, LoadError.isOwn]
  | none, some _, true => simp [Noted.outcome_eq, LoadError.isOwn]

/-! ## Options -/

/-- A config file whose path the system refuses, whose bytes are no text, or whose text goes beyond
the limits. -/
def OptionFileSlips [Machine] (d : Disk) (p : Path) : Prop :=
  d.Refuses p ∨
    ∃ node bytes, d.look p = .ok (some node) ∧ p.isJson = true ∧ d.read p = .ok bytes ∧
      ((∃ e, Utf8.decodeLines bytes = .error e) ∨
        ∃ text e, Utf8.decodeLines bytes = .ok text ∧
          Json.read (Machine.limits .optionFile) text = .error (.excess e))

/-- The config file, if one is named, slips, or its entries with those given written over them stop
at one whose value cannot be shown. -/
def OptionsSlip [Machine] (d : Disk) (e : Emitter) (file : Option String)
    (custom : List (String × Json)) : Prop :=
  (∃ f ∈ file.filter (· ≠ ""), OptionFileSlips d (Path.ofString f)) ∨
    ∃ base, optionEntries d file = .ok base ∧ e.StopsUnshown (OptionRecord.merged base custom)

theorem keepsTo_readOptionFile [Machine] (d : Disk) (p : Path) :
    KeepsTo OptionFileError.isOwn (readOptionFile d p) ↔ ¬ OptionFileSlips d p := by
  rw [OptionFileSlips, Disk.refuses_iff, readOptionFile]
  cases hlook : d.look p with
  | error f => simp [OptionFileError.isOwn]
  | ok found =>
    cases found with
    | none => simp [OptionFileError.isOwn]
    | some node =>
      dsimp only
      cases hjson : p.isJson with
      | false => simp [OptionFileError.isOwn]
      | true =>
        rw [if_neg (by simp)]
        cases hread : d.read p with
        | error f => simp [OptionFileError.isOwn]
        | ok bytes =>
          dsimp only
          cases htext : Utf8.decodeLines bytes with
          | error e => simp [OptionFileError.isOwn, htext]
          | ok text =>
            dsimp only
            cases hvalue : Json.read (Machine.limits .optionFile) text with
            | error e => cases e <;> simp [OptionFileError.isOwn, htext, hvalue]
            | ok v =>
              dsimp only
              cases v.entries? <;> simp [OptionFileError.isOwn, htext, hvalue]

/-- The entries of the file are there or the failure is of the promised kind, unless it slips. -/
theorem keepsTo_optionEntries [Machine] (d : Disk) (file : Option String) :
    KeepsTo OptionFileError.isOwn (optionEntries d file) ↔
      ¬ ∃ f ∈ file.filter (· ≠ ""), OptionFileSlips d (Path.ofString f) := by
  rw [optionEntries]
  cases file.filter (· ≠ "") with
  | none => simp
  | some f => simpa using keepsTo_readOptionFile d (Path.ofString f)

theorem keepsTo_build [Machine] (e : Emitter) (es : List (String × Json)) :
    KeepsTo OptionError.isOwn (OptionRecord.build e es) ↔ ¬ e.StopsUnshown es := by
  simp only [Emitter.stopsUnshown_iff, ← Emitter.build_eq_error_iff]
  cases OptionRecord.build e es <;> simp

theorem keepsTo_buildFrom [Machine] (d : Disk) (e : Emitter) (file : Option String)
    (custom : List (String × Json)) :
    KeepsTo SetupError.isOwn (OptionRecord.buildFrom d e file custom).outcome.1 ↔
      ¬ OptionsSlip d e file custom := by
  rw [OptionsSlip, not_or, ← keepsTo_optionEntries, OptionRecord.outcome_buildFrom]
  cases optionEntries d file with
  | error err => simp [SetupError.isOwn]
  | ok base =>
    refine keepsTo_mapError.trans ((keepsTo_build e (OptionRecord.merged base custom)).trans ?_)
    simp

/-! ## The law -/

/-- Whatever a document is loaded from, it is there or the failure is of the kind that loading
promises, unless the one source that is named slips; and a record of options is built or the failure
is of the kind that building promises, whatever dictionary is given, unless the config file slips or
the entries stop at a value that cannot be shown. -/
theorem a_failure_is_of_its_kind_unless_the_source_slips [Machine] (s : Surroundings)
    (file url : Option String) (stdin : Bool) (d : Disk) (e : Emitter) (config : Option String)
    (custom : List (String × Json)) :
    (KeepsTo LoadError.isOwn (load s file url stdin).outcome.1 ↔ ¬ LoadSlips s file url stdin) ∧
      (KeepsTo SetupError.isOwn (OptionRecord.buildFrom d e config custom).outcome.1 ↔
        ¬ OptionsSlip d e config custom) :=
  ⟨keepsTo_load s file url stdin, keepsTo_buildFrom d e config custom⟩

/-- An address with half a pair of brackets slips, and so does a config file with a byte that stands
in no text. -/
theorem half_a_pair_of_brackets_slips :
    let s : Surroundings := ⟨fun _ => {}, .timeout, ""⟩
    let d : Disk := { nodes := [(["c.json"], .file [0xff])] }
    ¬ KeepsTo LoadError.isOwn (load s none (some "http://[") false).outcome.1 ∧
      ¬ KeepsTo SetupError.isOwn
        (OptionRecord.buildFrom d (.of .go) (some "c.json") []).outcome.1 := by
  intro s d
  constructor
  · rw [keepsTo_load]
    have hslips : LoadSlips s none (some "http://[") false := .inl ⟨.unbalancedBrackets, by rfl⟩
    exact not_not_intro hslips
  · rw [keepsTo_buildFrom]
    have hslips : OptionFileSlips d (Path.ofString "c.json") :=
      .inr ⟨.file [0xff], [0xff], by rfl, by rfl, by rfl, .inl ⟨_, rfl⟩⟩
    exact not_not_intro (.inl ⟨"c.json", rfl, hslips⟩)

end TypeSketch
