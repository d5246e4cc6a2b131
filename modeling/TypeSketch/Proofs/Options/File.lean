-- Option entries that come from a file: what the file adds to a record that is
-- built, and that its entries are a table, in which no key stands twice.
import TypeSketch.Code.Setup
import TypeSketch.Proofs.Work

namespace TypeSketch

/-! ## The entries of an object -/

namespace Json

/-- No word stands for an object. -/
theorem ne_obj_of_constantAt? {s : List Char} {word : String} {v : Json}
    (h : constantAt? s = some (word, v)) (es : List (String × Json)) : v ≠ .obj es := by
  have hmem := List.mem_of_find?_eq_some h
  rintro rfl
  simp [constants] at hmem

/-- The entries of an object are written to a table as they are read. -/
theorem table_of_readValue {l : Limits} {fuel depth : Nat} {c after : Cursor}
    {es : List (String × Json)} (h : readValue l fuel depth c = .ok (.obj es, after)) :
    ∃ members, es = Entries.ofList members := by
  cases fuel with
  | zero => cases h
  | succ fuel =>
    rw [readValue] at h
    split at h
    · obtain ⟨_, _, ha⟩ := Except.map_eq_ok.mp h
      cases ha
    · dsimp only at h
      split at h
      · cases h
      · split at h
        · cases h
          exact ⟨[], rfl⟩
        · obtain ⟨a, _, ha⟩ := Except.map_eq_ok.mp h
          cases ha
          exact ⟨a.1, rfl⟩
    · dsimp only at h
      split at h
      · cases h
      · split at h
        · cases h
        · obtain ⟨_, _, ha⟩ := Except.map_eq_ok.mp h
          cases ha
    · split at h
      · rename_i hword
        cases h
        exact absurd rfl (ne_obj_of_constantAt? hword es)
      · obtain ⟨_, _, ha⟩ := Except.map_eq_ok.mp h
        cases ha

theorem table_of_read {l : Limits} {text : String} {es : List (String × Json)}
    (h : read l text = .ok (.obj es)) : ∃ members, es = Entries.ofList members := by
  rw [read] at h
  split at h
  · rename_i v hv
    cases h
    rw [readChars] at hv
    split at hv
    · cases hv
    · obtain ⟨⟨w, after⟩, hvalue, hv⟩ := Except.bind_eq_ok.mp hv
      dsimp only at hv
      split at hv
      · cases hv
        exact table_of_readValue hvalue
      · cases hv
  · cases h
  · cases h

end Json

/-! ## The entries of a file -/

/-- A file that gives entries holds the text of an object. -/
theorem readOptionFile_eq_ok [Machine] {d : Disk} {p : Path} {es : List (String × Json)}
    (h : readOptionFile d p = .ok es) :
    ∃ bytes text, d.read p = .ok bytes ∧ Utf8.decodeLines bytes = .ok text ∧
      Json.read (Machine.limits .optionFile) text = .ok (.obj es) := by
  rw [readOptionFile] at h
  split at h
  · cases h
  · cases h
  · split at h
    · cases h
    · split at h
      · cases h
      · rename_i bytes hbytes
        split at h
        · cases h
        · rename_i text htext
          split at h
          · cases h
          · cases h
          · rename_i v hv
            split at h
            · rename_i fs hfs
              cases h
              cases v with
              | obj fs => exact ⟨bytes, text, hbytes, htext, by rw [hv, Option.some.inj hfs]⟩
              | _ => cases hfs
            · cases h

/-- The entries that a file gives, where none, and an empty path, give no entries. -/
def optionEntries [Machine] (d : Disk) (file : Option String) :
    Except OptionFileError (List (String × Json)) :=
  match file.filter (· ≠ "") with
  | none => .ok []
  | some p => readOptionFile d (Path.ofString p)

theorem table_of_optionEntries [Machine] {d : Disk} {file : Option String}
    {es : List (String × Json)} (h : optionEntries d file = .ok es) : ∃ members, es = Entries.ofList members := by
  rw [optionEntries] at h
  split at h
  · cases h
    exact ⟨[], rfl⟩
  · obtain ⟨_, _, _, _, hread⟩ := readOptionFile_eq_ok h
    exact Json.table_of_read hread

/-- A record is built from the entries of the file with those given written over them. -/
theorem OptionRecord.outcome_buildFrom [Machine] (d : Disk) (e : Emitter)
    (file : Option String) (es : List (String × Json)) :
    (buildFrom d e file es).outcome.1 =
      match optionEntries d file with
      | .error err => .error (.file err)
      | .ok base => (build e (merged base es)).mapError .option := by
  rw [Noted.outcome_eq, buildFrom, optionEntries]
  cases file.filter (· ≠ "") with
  | none => simp
  | some p =>
    simp only [loadOptionFile, runFrom_bind, runFrom_adapt, Noted.runFrom_ofExcept]
    cases readOptionFile d (Path.ofString p) with
    | error err => rfl
    | ok base => rfl

end TypeSketch
