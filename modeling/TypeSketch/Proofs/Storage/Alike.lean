-- Disks that differ in log files only. A line of a log that ends in a closing parenthesis makes a
-- file that is no document any more, so two disks whose files are the same, or have both such a
-- line, give the same documents, and they stay so if both get the same further lines.
import TypeSketch.Document.Load
import TypeSketch.Proofs.Document.Ending
import TypeSketch.Proofs.Options.File
import TypeSketch.Proofs.Storage.Disk
import TypeSketch.Proofs.Storage.Utf8

namespace TypeSketch

open Text

/-- A line of a file ends in a closing parenthesis. -/
def Shut (bytes : List UInt8) : Prop := [0x29, 0x0A] <:+: bytes

theorem Shut.append_left {bytes : List UInt8} (h : Shut bytes) (old : List UInt8) :
    Shut (old ++ bytes) := h.trans (List.suffix_append old bytes).isInfix

theorem Shut.append_right {bytes : List UInt8} (h : Shut bytes) (more : List UInt8) :
    Shut (bytes ++ more) := h.trans (List.prefix_append bytes more).isInfix

/-- Bytes that are the same or have both such a line. -/
def AlikeBytes (bytes bytes' : List UInt8) : Prop :=
  bytes' = bytes ∨ Shut bytes ∧ Shut bytes'

theorem AlikeBytes.append {old old' more more' : List UInt8} (hold : AlikeBytes old old')
    (hmore : AlikeBytes more more') : AlikeBytes (old ++ more) (old' ++ more') := by
  rcases hmore with rfl | ⟨hmore, hmore'⟩
  · rcases hold with rfl | ⟨hold, hold'⟩
    · exact .inl rfl
    · exact .inr ⟨hold.append_right more', hold'.append_right more'⟩
  · exact .inr ⟨hmore.append_left old, hmore'.append_left old'⟩

/-- No document has such a line, so its bytes are not exchanged. -/
theorem AlikeBytes.eq_of_read {bytes bytes' : List UInt8} {text : String} {l : Json.Limits}
    {v : Json} (h : AlikeBytes bytes bytes') (htext : Utf8.decodeLines bytes = .ok text)
    (hread : Json.read l text = .ok v) : bytes' = bytes := by
  rcases h with h | ⟨hshut, -⟩
  · exact h
  · exact absurd (Json.lacks_of_read hread) (Utf8.not_lacks_of_decodeLines htext hshut)

namespace Disk

/-- Disks with the same refusals, and with the same files and directories up to the bytes of files
that have such lines. -/
structure Alike (d d' : Disk) : Prop where
  refusal : d'.refusal? = d.refusal?
  nodes : ∀ here, d'.node? here = d.node? here ∨
    ∃ bytes bytes', d.node? here = some (.file bytes) ∧ d'.node? here = some (.file bytes') ∧
      AlikeBytes bytes bytes'

theorem Alike.refl (d : Disk) : Alike d d := ⟨rfl, fun _ => .inl rfl⟩

variable {d d' : Disk}

/-! ## Looking and reading -/

section

variable (h : Alike d d')
include h

theorem Alike.walk (names : List String) (here : Place) :
    d'.walk here names = d.walk here names := by
  induction names generalizing here with
  | nil => rfl
  | cons name names ih =>
    rw [Disk.walk, Disk.walk]
    rcases h.nodes here with hsame | ⟨bytes, bytes', hd, hd', -⟩
    · rw [hsame]
      split
      · rfl
      · rfl
      · split
        · rfl
        · exact ih _
    · rw [hd, hd']

theorem Alike.locate (a : Access) (p : Path) : d'.locate a p = d.locate a p := by
  rw [Disk.locate, Disk.locate, h.walk, h.refusal]

/-- A path leads to the same, or to two files with such lines. -/
theorem Alike.find (a : Access) (p : Path) : d'.find a p = d.find a p ∨
    ∃ bytes bytes', d.find a p = .ok (.file bytes) ∧ d'.find a p = .ok (.file bytes') ∧
      AlikeBytes bytes bytes' := by
  rw [Disk.find, Disk.find, h.locate]
  cases d.locate a p with
  | error f => exact .inl rfl
  | ok here =>
    rcases h.nodes here with hsame | ⟨bytes, bytes', hd, hd', halike⟩
    · simp only [bind, Except.bind, hsame]
      exact .inl trivial
    · simp only [bind, Except.bind, hd, hd']
      exact .inr ⟨bytes, bytes', rfl, rfl, halike⟩

theorem Alike.look (p : Path) : d'.look p = d.look p ∨
    ∃ bytes bytes', d.look p = .ok (some (.file bytes)) ∧
      d'.look p = .ok (some (.file bytes')) := by
  rw [Disk.look, Disk.look]
  rcases h.find .look p with hsame | ⟨bytes, bytes', hd, hd', -⟩
  · rw [hsame]
    exact .inl rfl
  · rw [hd, hd']
    exact .inr ⟨bytes, bytes', rfl, rfl⟩

/-- The bytes of a document are the same. -/
theorem Alike.read {p : Path} {bytes : List UInt8} {text : String} {l : Json.Limits} {v : Json}
    (hbytes : d.read p = .ok bytes) (htext : Utf8.decodeLines bytes = .ok text)
    (hread : Json.read l text = .ok v) : d'.read p = .ok bytes := by
  rw [Disk.read] at hbytes ⊢
  rcases h.find .read p with hsame | ⟨old, new, hd, hd', halike⟩
  · rw [hsame]
    exact hbytes
  · rw [hd] at hbytes
    obtain rfl : old = bytes := Except.ok.inj hbytes
    rw [hd', halike.eq_of_read htext hread]
    rfl

end

/-! ## Writing -/

/-- The bytes of the file at a place, if there is one. -/
def bytesAt (d : Disk) (here : Place) : List UInt8 :=
  match d.node? here with
  | some (.file bytes) => bytes
  | _ => []

theorem append_eq (d : Disk) (p : Path) (bytes : List UInt8) :
    d.append p bytes =
      (d.writable p).map fun here => d.set here (.file (d.bytesAt here ++ bytes)) := by
  rw [append]
  cases d.writable p with
  | error f => rfl
  | ok here =>
    simp only [bind, Except.bind, Except.map, bytesAt]
    rcases d.node? here with _ | bytes | _ <;> rfl

theorem Alike.writable (h : Alike d d') (p : Path) : d'.writable p = d.writable p := by
  rw [Disk.writable, Disk.writable, h.locate]
  cases d.locate .write p with
  | error f => rfl
  | ok here =>
    simp only [bind, Except.bind]
    rcases h.nodes here with hsame | ⟨bytes, bytes', hd, hd', -⟩
    · rw [hsame]
      rcases h.nodes here.dropLast with habove | ⟨bytes, bytes', hd, hd', -⟩
      · rw [habove]
      · rw [hd, hd']
    · rw [hd, hd']

theorem Alike.bytesAt (h : Alike d d') (here : Place) :
    AlikeBytes (d.bytesAt here) (d'.bytesAt here) := by
  rw [Disk.bytesAt, Disk.bytesAt]
  rcases h.nodes here with hsame | ⟨bytes, bytes', hd, hd', halike⟩
  · rw [hsame]
    exact .inl rfl
  · rw [hd, hd']
    exact halike

theorem Alike.set (h : Alike d d') {here : Place} (hd : d.node? here ≠ some .directory)
    {bytes bytes' : List UInt8} (hbytes : AlikeBytes bytes bytes') :
    Alike (d.set here (.file bytes)) (d'.set here (.file bytes')) := by
  have hd' : d'.node? here ≠ some .directory := by
    rcases h.nodes here with hsame | ⟨old, new, -, hnew, -⟩
    · rwa [hsame]
    · simp [hnew]
  refine ⟨h.refusal, fun there => ?_⟩
  by_cases hthere : there = here
  · subst hthere
    rw [node?_set_self d _ hd, node?_set_self d' _ hd']
    exact .inr ⟨bytes, bytes', rfl, rfl, hbytes⟩
  · rw [node?_set_of_ne d _ hthere, node?_set_of_ne d' _ hthere]
    exact h.nodes there

/-- Disks stay alike where both get the same bytes behind a file, or such a line each. A file that
cannot be written stays as it is. -/
theorem Alike.append (h : Alike d d') (p : Path) {bytes bytes' : List UInt8}
    (hbytes : AlikeBytes bytes bytes') :
    Alike ((d.append p bytes).toOption.getD d) ((d'.append p bytes').toOption.getD d') := by
  rw [append_eq, append_eq, h.writable]
  cases hplace : d.writable p with
  | error f => exact h
  | ok here => exact h.set (writable_eq_ok hplace).2 ((h.bytesAt here).append hbytes)

end Disk

/-! ## Option files and documents -/

variable {d d' : Disk} (h : Disk.Alike d d')
include h

theorem Disk.Alike.readOptionFile [Machine] {p : Path} {es : List (String × Json)}
    (hread : TypeSketch.readOptionFile d p = .ok es) : TypeSketch.readOptionFile d' p = .ok es := by
  obtain ⟨bytes, text, hbytes, htext, hjson⟩ := readOptionFile_eq_ok hread
  have hbytes' := h.read hbytes htext hjson
  rw [TypeSketch.readOptionFile] at hread ⊢
  rcases h.look p with hsame | ⟨old, new, hd, hd'⟩
  · rw [hsame, hbytes', ← hbytes]
    exact hread
  · rw [hd, hbytes] at hread
    rw [hd', hbytes']
    exact hread

/-- Options from a file and from entries are built with the same notes. -/
theorem Disk.Alike.buildFrom [Machine] {e : Emitter} {file : Option String}
    {es : List (String × Json)} {r : OptionRecord} (hbuilt : (OptionRecord.buildFrom d e file es).outcome.1 = .ok r) :
    (OptionRecord.buildFrom d' e file es).outcome =
      (OptionRecord.buildFrom d e file es).outcome := by
  rw [OptionRecord.outcome_buildFrom, optionEntries] at hbuilt
  unfold OptionRecord.buildFrom
  cases hfile : file.filter (· ≠ "") with
  | none => rfl
  | some f =>
    rw [hfile] at hbuilt
    dsimp only at hbuilt ⊢
    cases hread : TypeSketch.readOptionFile d (Path.ofString f) with
    | error err =>
      rw [hread] at hbuilt
      cases hbuilt
    | ok base => rw [loadOptionFile, loadOptionFile, h.readOptionFile hread, hread]

theorem Disk.Alike.readText {p : Path} {text : String} {l : Json.Limits} {v : Json}
    (htext : TypeSketch.readText d p = .ok text) (hjson : Json.read l text = .ok v) :
    TypeSketch.readText d' p = .ok text := by
  rw [TypeSketch.readText] at htext ⊢
  cases hbytes : d.read p with
  | error f =>
    rw [hbytes] at htext
    cases htext
  | ok bytes =>
    rw [hbytes] at htext
    dsimp only at htext
    cases hdecode : Utf8.decodeLines bytes with
    | error f =>
      rw [hdecode] at htext
      cases htext
    | ok decoded =>
      rw [hdecode] at htext
      obtain rfl := Except.ok.inj htext
      rw [h.read hbytes hdecode hjson]
      dsimp only
      rw [hdecode]

end TypeSketch
