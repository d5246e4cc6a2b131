-- Tables whose keys keep the order in which they first came. Writing to a key
-- that is there already changes its value and not its place.

namespace TypeSketch.Entries

variable {α : Type}

/-- A table with `v` under `k`: in the place of the old value, else at the end. -/
def put (k : String) (v : α) : List (String × α) → List (String × α)
  | [] => [(k, v)]
  | (k', v') :: r => if k' = k then (k, v) :: r else (k', v') :: put k v r

/-- A table without the key `k`. -/
def erase (k : String) (t : List (String × α)) : List (String × α) :=
  t.filter fun e => e.1 ≠ k

/-- The value under `k`. -/
def get? (k : String) : List (String × α) → Option α
  | [] => none
  | (k', v) :: r => if k' = k then some v else get? k r

/-- Whether `k` is a key of the table. -/
def has (k : String) (t : List (String × α)) : Bool := (get? k t).isSome

/-- A table with all entries of a list written to it, one after the other. -/
def putAll (t : List (String × α)) (es : List (String × α)) : List (String × α) :=
  es.foldl (fun acc e => put e.1 e.2 acc) t

/-- The table that a list of entries describes: of two entries with one key the later value
counts, in the earlier place. -/
def ofList (es : List (String × α)) : List (String × α) := putAll [] es

theorem get?_put (k k' : String) (v : α) (t : List (String × α)) :
    get? k' (put k v t) = if k = k' then some v else get? k' t := by
  induction t with
  | nil => simp [put, get?]
  | cons e r ih =>
    simp only [put]
    split
    · next h => subst h; by_cases hk : e.1 = k' <;> simp [get?, hk]
    · next h => by_cases hk : k = k' <;> simp_all [get?]

theorem get?_erase (k k' : String) (t : List (String × α)) :
    get? k' (erase k t) = if k = k' then none else get? k' t := by
  induction t with
  | nil => simp [erase, get?]
  | cons e r ih =>
    simp only [erase, List.filter_cons] at ih ⊢
    by_cases h : e.1 = k <;> by_cases hk : k = k' <;> simp_all [get?]

end TypeSketch.Entries
