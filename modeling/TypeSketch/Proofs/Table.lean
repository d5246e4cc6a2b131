-- Tables whose keys keep their first place: no key stands twice in a table that
-- is filled by writing, so that a look-up finds all that the table holds. The
-- last entry for a key gives its value, the first one its place. Entries that were
-- added and are taken away leave the table as it was.
import TypeSketch.Entries
import Mathlib.Data.List.Basic
import Mathlib.Data.List.Induction

namespace TypeSketch.Entries

variable {α : Type}

/-- A key that is written comes to the end if it is new. -/
theorem keys_put (k : String) (v : α) (t : List (String × α)) :
    (put k v t).map Prod.fst =
      t.map Prod.fst ++ if k ∈ t.map Prod.fst then [] else [k] := by
  induction t with
  | nil => rfl
  | cons e r ih =>
    rw [put]
    by_cases hk : e.1 = k
    · simp [hk]
    · simp only [if_neg hk, List.map_cons, ih, List.cons_append, List.mem_cons, Ne.symm hk,
        false_or]

theorem mem_keys_put {k k' : String} {v : α} {t : List (String × α)} :
    k' ∈ (put k v t).map Prod.fst ↔ k' = k ∨ k' ∈ t.map Prod.fst := by
  rw [keys_put]
  by_cases hk : k ∈ t.map Prod.fst
  · rw [if_pos hk, List.append_nil]
    constructor
    · exact .inr
    · rintro (rfl | h)
      · exact hk
      · exact h
  · rw [if_neg hk, List.mem_append, List.mem_singleton, or_comm]

theorem nodup_put {k : String} {v : α} {t : List (String × α)} (h : (t.map Prod.fst).Nodup) :
    ((put k v t).map Prod.fst).Nodup := by
  rw [keys_put]
  by_cases hk : k ∈ t.map Prod.fst
  · rw [if_pos hk, List.append_nil]
    exact h
  · rw [if_neg hk]
    refine List.nodup_append.mpr ⟨h, List.pairwise_singleton _ _, ?_⟩
    rintro a ha b hb rfl
    rw [List.mem_singleton] at hb
    exact hk (hb ▸ ha)

/-- A new key comes to the end of a table. -/
theorem put_of_get?_eq_none {k : String} {v : α} {t : List (String × α)} (h : get? k t = none) :
    put k v t = t ++ [(k, v)] := by
  induction t with
  | nil => rfl
  | cons e r ih =>
    rw [get?] at h
    split at h
    · cases h
    · rename_i hk
      rw [put, if_neg hk, ih h, List.cons_append]

theorem mem_of_get? {k : String} {v : α} {t : List (String × α)} (h : get? k t = some v) :
    (k, v) ∈ t := by
  induction t with
  | nil => cases h
  | cons e r ih =>
    rw [get?] at h
    split at h
    · rename_i hk
      subst hk
      cases h
      exact List.mem_cons_self
    · exact List.mem_cons_of_mem _ (ih h)

theorem mem_put {e : String × α} {k : String} {v : α} {t : List (String × α)}
    (h : e ∈ put k v t) : e = (k, v) ∨ e ∈ t := by
  induction t with
  | nil => exact .inl (List.mem_singleton.mp h)
  | cons d r ih =>
    rw [put] at h
    split at h
    · exact (List.mem_cons.mp h).imp_right (List.mem_cons_of_mem _)
    · rcases List.mem_cons.mp h with rfl | h
      · exact .inr List.mem_cons_self
      · exact (ih h).imp_right (List.mem_cons_of_mem _)

theorem putAll_cons (t : List (String × α)) (e : String × α) (es : List (String × α)) :
    putAll t (e :: es) = putAll (put e.1 e.2 t) es := rfl

/-- What stands in a table was there or was written to it. -/
theorem mem_putAll {e : String × α} {t es : List (String × α)} (h : e ∈ putAll t es) :
    e ∈ t ∨ e ∈ es := by
  induction es generalizing t with
  | nil => exact .inl h
  | cons d es ih =>
    rcases ih h with h | h
    · rcases mem_put h with rfl | h
      · exact .inr List.mem_cons_self
      · exact .inl h
    · exact .inr (List.mem_cons_of_mem _ h)

/-- A value stays if nothing else is written under its key. -/
theorem get?_putAll_of_agree {k : String} {v : α} {t es : List (String × α)}
    (h : get? k t = some v) (hes : ∀ e ∈ es, e.1 = k → e.2 = v) :
    get? k (putAll t es) = some v := by
  induction es generalizing t with
  | nil => exact h
  | cons e es ih =>
    rw [putAll_cons]
    refine ih ?_ fun d hd => hes d (List.mem_cons_of_mem _ hd)
    rw [get?_put]
    split
    · rename_i hk
      rw [hes e List.mem_cons_self hk]
    · exact h

/-- In a table without repeated keys the look-up finds every entry. -/
theorem mem_iff_get? {k : String} {v : α} {t : List (String × α)} (h : (t.map Prod.fst).Nodup) :
    (k, v) ∈ t ↔ get? k t = some v := by
  induction t with
  | nil => simp [get?]
  | cons e r ih =>
    rw [List.map_cons, List.nodup_cons] at h
    obtain ⟨k', v'⟩ := e
    rw [get?, List.mem_cons]
    split
    · rename_i hk
      subst hk
      constructor
      · rintro (he | he)
        · exact congrArg some (Prod.mk.inj he).2.symm
        · exact absurd (List.mem_map.mpr ⟨_, he, rfl⟩) h.1
      · intro he
        exact .inl (by rw [Option.some.inj he])
    · rename_i hk
      rw [← ih h.2]
      constructor
      · rintro (he | he)
        · exact absurd (Prod.mk.inj he).1.symm hk
        · exact he
      · exact .inr

/-! ## Values and places -/

/-- The last value under a key in a list of entries. -/
def last? (k : String) (es : List (String × α)) : Option α :=
  (es.findRev? fun e => e.1 == k).map Prod.snd

theorem last?_concat (k : String) (es : List (String × α)) (e : String × α) :
    last? k (es ++ [e]) = if e.1 = k then some e.2 else last? k es := by
  rw [last?, last?, List.findRev?_eq_find?_reverse, List.findRev?_eq_find?_reverse,
    List.reverse_concat]
  split
  · rename_i hk
    rw [List.find?_cons_of_pos (by simpa using hk), Option.map_some]
  · rename_i hk
    rw [List.find?_cons_of_neg (by simpa using hk)]

theorem putAll_concat (t es : List (String × α)) (e : String × α) :
    putAll t (es ++ [e]) = put e.1 e.2 (putAll t es) := by
  rw [putAll, List.foldl_concat, putAll]

/-- Of several entries that are written under one key the last one counts. -/
theorem get?_putAll (k : String) (t es : List (String × α)) :
    get? k (putAll t es) = (last? k es).or (get? k t) := by
  induction es using List.reverseRecOn with
  | nil => rfl
  | append_singleton es e ih =>
    rw [putAll_concat, get?_put, last?_concat, ih]
    split <;> rfl

theorem get?_ofList (k : String) (es : List (String × α)) : get? k (ofList es) = last? k es := by
  rw [ofList, get?_putAll, get?, Option.or_none]

/-- A key has the place where it first came. -/
theorem keys_ofList (es : List (String × α)) :
    (ofList es).map Prod.fst = (es.map Prod.fst).eraseDups := by
  induction es using List.reverseRecOn with
  | nil => rfl
  | append_singleton es e ih =>
    rw [ofList, putAll_concat, keys_put, List.map_append, List.eraseDups_append,
      show putAll [] es = ofList es from rfl, ih]
    congr 1
    by_cases he : e.1 ∈ es.map Prod.fst
    · simp_all [List.removeAll]
    · simp_all [List.removeAll, List.eraseDups_cons]

theorem nodup_keys_ofList (es : List (String × α)) : ((ofList es).map Prod.fst).Nodup := by
  induction es using List.reverseRecOn with
  | nil => exact List.nodup_nil
  | append_singleton es e ih =>
    rw [ofList, putAll_concat]
    exact nodup_put ih

/-- Entries of which no two have one key are a table as they stand. -/
theorem ofList_of_nodup {es : List (String × α)} (h : (es.map Prod.fst).Nodup) :
    ofList es = es := by
  induction es using List.reverseRecOn with
  | nil => rfl
  | append_singleton es e ih =>
    rw [List.map_append, List.nodup_append] at h
    obtain ⟨hes, -, hnew⟩ := h
    have hnone : get? e.1 es = none := by
      rw [Option.eq_none_iff_forall_ne_some]
      intro v hv
      exact hnew e.1 (List.mem_map.mpr ⟨_, mem_of_get? hv, rfl⟩) e.1 (by simp) rfl
    have hsame : putAll [] es = es := ih hes
    rw [ofList, putAll_concat, hsame, put_of_get?_eq_none hnone]

/-! ## Writing a table over another one -/

theorem put_put (k : String) (v w : α) (t : List (String × α)) :
    put k v (put k w t) = put k v t := by
  induction t with
  | nil => simp [put]
  | cons e r ih =>
    by_cases hk : e.1 = k
    · simp [put, hk]
    · simp [put, hk, ih]

/-- A key that has its place can be written before or after another one. -/
theorem put_comm {k l : String} (hkl : k ≠ l) (v w : α) {t : List (String × α)}
    (h : k ∈ t.map Prod.fst) : put k v (put l w t) = put l w (put k v t) := by
  induction t with
  | nil => exact absurd h List.not_mem_nil
  | cons e r ih =>
    by_cases hk : e.1 = k
    · subst hk
      simp [put, hkl]
    · have hr : k ∈ r.map Prod.fst := by simpa [Ne.symm hk] using h
      by_cases hl : e.1 = l
      · subst hl
        simp [put, hk]
      · simp [put, hk, hl, ih hr]

theorem put_putAll {k : String} (v : α) {t es : List (String × α)} (ht : k ∈ t.map Prod.fst)
    (hes : k ∉ es.map Prod.fst) : put k v (putAll t es) = putAll (put k v t) es := by
  induction es generalizing t with
  | nil => rfl
  | cons e es ih =>
    rw [List.map_cons, List.mem_cons, not_or] at hes
    rw [putAll_cons, putAll_cons, ← put_comm hes.1 _ _ ht]
    exact ih (mem_keys_put.mpr (.inr ht)) hes.2

/-- An entry is written last to a table or to what is written over it; the outcome is one. -/
theorem putAll_put (k : String) (v : α) {t u : List (String × α)}
    (hu : (u.map Prod.fst).Nodup) : putAll t (put k v u) = put k v (putAll t u) := by
  induction u generalizing t with
  | nil => rfl
  | cons e r ih =>
    rw [List.map_cons, List.nodup_cons] at hu
    rw [put]
    split
    · rename_i hk
      subst hk
      rw [putAll_cons, putAll_cons, put_putAll v (mem_keys_put.mpr (.inl rfl)) hu.1, put_put]
    · rw [putAll_cons, putAll_cons, ih hu.2]

/-- Writing a table over another one is writing the entries that made it. -/
theorem putAll_ofList (t es : List (String × α)) : putAll t (ofList es) = putAll t es := by
  induction es using List.reverseRecOn with
  | nil => rfl
  | append_singleton es e ih =>
    rw [putAll_concat, ← ih, ← putAll_put _ _ (nodup_keys_ofList es), ofList, putAll_concat]
    rfl

theorem putAll_append (t es fs : List (String × α)) :
    putAll t (es ++ fs) = putAll (putAll t es) fs := List.foldl_append

/-! ## Taking entries away -/

theorem has_iff {k : String} {t : List (String × α)} :
    has k t = true ↔ k ∈ t.map Prod.fst := by
  induction t with
  | nil => simp [has, get?]
  | cons e r ih =>
    rw [has, get?, List.map_cons, List.mem_cons]
    split
    · rename_i hk
      exact iff_of_true rfl (.inl hk.symm)
    · rename_i hk
      exact ih.trans (or_iff_right (Ne.symm hk)).symm

/-- A new key is written and erased again. -/
theorem erase_put {k : String} {t : List (String × α)} (v : α) (h : has k t = false) :
    erase k (put k v t) = t := by
  have hnone : get? k t = none := by simpa [has] using h
  rw [put_of_get?_eq_none hnone, erase, List.filter_append, List.filter_cons_of_neg (by simp),
    List.filter_nil, List.append_nil]
  refine List.filter_eq_self.mpr fun e he => ?_
  have hne : e.1 ≠ k := by
    rintro rfl
    rw [has_iff.mpr (List.mem_map_of_mem he)] at h
    cases h
  simpa using hne

/-- An entry that is taken away for its value leaves no trace, if what it was written over, if
anything, is taken away as well. -/
theorem filter_put {q : α → Bool} {k : String} {v : α} {t : List (String × α)} (hv : q v = false)
    (ht : ∀ w, get? k t = some w → q w = false) :
    (put k v t).filter (fun e => q e.2) = t.filter fun e => q e.2 := by
  induction t with
  | nil => simp [put, hv]
  | cons e r ih =>
    rw [put]
    split
    · rename_i hk
      have he : q e.2 = false := ht e.2 (by rw [get?, if_pos hk])
      rw [List.filter_cons_of_neg (by simp [hv]), List.filter_cons_of_neg (by simp [he])]
    · rename_i hk
      have hr := ih fun w hw => ht w (by rw [get?, if_neg hk, hw])
      rw [List.filter_cons, List.filter_cons, hr]

theorem filter_putAll {q : α → Bool} {t es : List (String × α)} (hes : ∀ e ∈ es, q e.2 = false)
    (ht : ∀ e ∈ es, ∀ w, get? e.1 t = some w → q w = false) :
    (putAll t es).filter (fun e => q e.2) = t.filter fun e => q e.2 := by
  induction es generalizing t with
  | nil => rfl
  | cons e es ih =>
    rw [List.forall_mem_cons] at hes ht
    rw [putAll_cons, ih hes.2, filter_put hes.1 ht.1]
    intro d hd w hw
    rw [get?_put] at hw
    split at hw
    · exact Option.some.inj hw ▸ hes.1
    · exact ht.2 d hd w hw

end TypeSketch.Entries
