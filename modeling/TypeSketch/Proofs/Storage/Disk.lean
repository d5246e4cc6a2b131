-- What a write leaves of a disk: one place holds the new file, and all others
-- hold what they held. So the same path leads to the same place again, and of
-- two writes to a place the second one counts.
import TypeSketch.Proofs.Work
import TypeSketch.Storage.Disk
import Mathlib.Data.List.Basic

namespace TypeSketch.Disk

/-! ## Places -/

theorem lookup_filter_ne {β : Type} (here there : Place) (l : List (Place × β)) :
    (l.filter fun e => e.1 ≠ here).lookup there =
      if there = here then none else l.lookup there := by
  induction l with
  | nil => simp
  | cons e l ih =>
    rw [List.filter_cons, List.lookup_cons]
    by_cases he : e.1 = here
    · rw [if_neg (by simpa using he), ih]
      split
      · rfl
      · rename_i hthere
        rw [he, beq_false_of_ne hthere]
    · rw [if_pos (by simpa using he), List.lookup_cons, ih]
      by_cases hthere : there = e.1
      · simp only [hthere, beq_self_eq_true, if_neg he]
      · rw [beq_false_of_ne hthere]

/-- A place holds what was put there, and every other place what it held. -/
theorem lookup_set (d : Disk) (here there : Place) (n : Node) :
    (d.set here n).nodes.lookup there = if there = here then some n else d.nodes.lookup there := by
  rw [set, List.lookup_append, lookup_filter_ne, List.lookup_cons, List.lookup_nil]
  by_cases h : there = here
  · simp only [h, beq_self_eq_true, if_true, Option.none_or]
  · rw [if_neg h, if_neg h, beq_false_of_ne h, Option.or_none]

theorem node?_set_of_ne (d : Disk) {here there : Place} (n : Node) (h : there ≠ here) :
    (d.set here n).node? there = d.node? there := by
  rw [node?, node?, lookup_set, if_neg h]

/-- A place that is no directory holds what is put there. -/
theorem node?_set_self (d : Disk) {here : Place} (n : Node) (h : d.node? here ≠ some .directory) :
    (d.set here n).node? here = some n := by
  rw [node?] at h ⊢
  split
  · rename_i hground
    rw [if_pos hground] at h
    exact absurd rfl h
  · rw [lookup_set, if_pos rfl]

theorem set_set (d : Disk) (here : Place) (n m : Node) :
    (d.set here n).set here m = d.set here m := by
  simp [set, List.filter_append, List.filter_filter]

/-! ## Paths -/

/-- The walk along a path does not meet the place where it ends, if this is no directory. -/
theorem walk_set {d : Disk} {start here : Place} {names : List String} (n : Node)
    (hhere : d.node? here ≠ some .directory) (h : d.walk start names = .ok here) :
    (d.set here n).walk start names = .ok here := by
  induction names generalizing start with
  | nil => exact h
  | cons name names ih =>
    rw [walk] at h
    split at h
    · cases h
    · cases h
    · rename_i hstart
      -- A walk goes on from directories only, and `here` is none.
      have hne : start ≠ here := by
        rintro rfl
        exact hhere hstart
      rw [walk, node?_set_of_ne d n hne, hstart]
      split at h
      · cases h
      · rename_i hlimit
        dsimp only
        rw [if_neg hlimit]
        exact ih h

theorem locate_set {d : Disk} {a : Access} {p : Path} {here : Place} (n : Node)
    (hhere : d.node? here ≠ some .directory) (h : d.locate a p = .ok here) :
    (d.set here n).locate a p = .ok here := by
  have hrefusal : (d.set here n).refusal? a p = d.refusal? a p := rfl
  rw [locate] at h ⊢
  rw [hrefusal]
  split at h
  · cases h
  · rename_i hnull
    rw [if_neg hnull]
    split at h
    · cases h
    · rename_i hlimit
      rw [if_neg hlimit]
      split at h
      · cases h
      · exact walk_set n hhere h

/-- Where a path is not refused, its place is found by a walk. -/
theorem walk_of_locate {d : Disk} {a : Access} {p : Path} {here : Place}
    (h : d.locate a p = .ok here) : d.walk (start p) p.parts = .ok here := by
  rw [locate] at h
  split at h
  · cases h
  · split at h
    · cases h
    · split at h
      · cases h
      · exact h

/-- A place can be written where a path leads to it and no directory is there. -/
theorem writable_eq_ok {d : Disk} {p : Path} {here : Place} (h : d.writable p = .ok here) :
    d.locate .write p = .ok here ∧ d.node? here ≠ some .directory := by
  rw [writable] at h
  simp only [bind, Except.bind] at h
  split at h
  · cases h
  · rename_i there hlocate
    split at h
    · cases h
    · rename_i bytes hfile
      obtain rfl := Except.ok.inj h
      exact ⟨hlocate, by simp [hfile]⟩
    · rename_i hnone
      split at h
      · obtain rfl := Except.ok.inj h
        exact ⟨hlocate, by simp [hnone]⟩
      · cases h
      · cases h

/-- A file that has been written can be written again. -/
theorem writable_set {d : Disk} {p : Path} {here : Place} (h : d.writable p = .ok here)
    (bytes : List UInt8) : (d.set here (.file bytes)).writable p = .ok here := by
  obtain ⟨hlocate, hhere⟩ := writable_eq_ok h
  rw [writable, locate_set _ hhere hlocate]
  simp only [bind, Except.bind, node?_set_self d _ hhere]
  rfl

/-- The bytes of the file at the end of a path, whoever may read it. -/
def bytesOf? (d : Disk) (p : Path) : Option (List UInt8) :=
  match d.walk (start p) p.parts with
  | .error _ => none
  | .ok here =>
    match d.node? here with
    | some (.file bytes) => some bytes
    | _ => none

/-- What is written to a file stands in it. -/
theorem bytesOf?_of_write {d d' : Disk} {p : Path} {bytes : List UInt8}
    (h : d.write p bytes = .ok d') : d'.bytesOf? p = some bytes := by
  obtain ⟨here, hplace, h⟩ := Except.bind_eq_ok.mp h
  obtain rfl : d.set here (.file bytes) = d' := Except.ok.inj h
  obtain ⟨hlocate, hhere⟩ := writable_eq_ok hplace
  rw [bytesOf?, walk_of_locate (locate_set _ hhere hlocate)]
  simp only [node?_set_self d _ hhere]

/-! ## Changes -/

/-- A disk after files have been written to a place that is known, if one is. Nothing else has
changed. -/
def ChangedAt (place? : Option Place) (d d' : Disk) : Prop :=
  d' = d ∨ ∃ place bytes, place? = some place ∧ d' = d.set place (.file bytes)

theorem changedAt_none {d d' : Disk} : ChangedAt none d d' ↔ d' = d := by
  simp [ChangedAt]

/-- Every other place holds what it held. -/
theorem ChangedAt.lookup {place? : Option Place} {d d' : Disk} (h : ChangedAt place? d d')
    {there : Place} (hthere : place? ≠ some there) :
    d'.nodes.lookup there = d.nodes.lookup there := by
  rcases h with rfl | ⟨place, bytes, rfl, rfl⟩
  · rfl
  · rw [lookup_set, if_neg]
    rintro rfl
    exact hthere rfl

theorem append_eq_ok {d d' : Disk} {p : Path} {bytes : List UInt8}
    (h : d.append p bytes = .ok d') :
    ∃ place file, d.writable p = .ok place ∧ d' = d.set place (.file file) := by
  rw [append] at h
  simp only [bind, Except.bind] at h
  split at h
  · cases h
  · rename_i place hplace
    split at h
    · exact ⟨place, _, hplace, (Except.ok.inj h).symm⟩
    · exact ⟨place, _, hplace, (Except.ok.inj h).symm⟩

/-- Adding to a file again and again changes one place. -/
theorem ChangedAt.append {d d' d'' : Disk} {p : Path} {bytes : List UInt8}
    (h : ChangedAt (d.writable p).toOption d d') (happend : d'.append p bytes = .ok d'') :
    ChangedAt (d.writable p).toOption d d'' := by
  obtain ⟨place, file, hplace, rfl⟩ := append_eq_ok happend
  rcases h with rfl | ⟨first, old, hfirst, rfl⟩
  · exact .inr ⟨place, file, by rw [hplace]; rfl, rfl⟩
  · have hwritable : d.writable p = .ok first := by
      cases hd : d.writable p with
      | error f =>
        rw [hd] at hfirst
        cases hfirst
      | ok found =>
        rw [hd] at hfirst
        exact congrArg _ (Option.some.inj hfirst)
    rw [writable_set hwritable] at hplace
    obtain rfl := Except.ok.inj hplace
    exact .inr ⟨first, file, hfirst, set_set d first _ _⟩

end TypeSketch.Disk
