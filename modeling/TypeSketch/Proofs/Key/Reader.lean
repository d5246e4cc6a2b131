-- Keys read back from the text of a definition. A reader passes the opening of
-- the definition and goes through the lines behind it: a line holds the mark of
-- a key, or a member, or neither. A mark belongs to the next member.
import TypeSketch.Proofs.Key.Word
import TypeSketch.Proofs.Text.Lines

namespace TypeSketch.Key

open Text

/-! ## Members -/

/-- What a definition tells of a member: its identifier, and the key in its mark if it has
one. -/
structure Told where
  identifier : String
  mark : Option String
  deriving DecidableEq, Repr

namespace Told

/-- The key of a member: a mark tells it, and without a mark it is the identifier. -/
def key (t : Told) : String := t.mark.getD t.identifier

/-- What has to be told of a member for a key: its identifier, and the key exactly where the
identifier is another text. -/
def of (identifier key : String) : Told := ⟨identifier, if identifier = key then none else some key⟩

theorem of_same {identifier key : String} (h : identifier = key) :
    of identifier key = ⟨identifier, none⟩ := by
  rw [of, if_pos h]

theorem of_renamed {identifier key : String} (h : identifier ≠ key) :
    of identifier key = ⟨identifier, some key⟩ := by
  rw [of, if_neg h]

theorem key_of (identifier key : String) : (of identifier key).key = key := by
  by_cases h : identifier = key
  · rw [of_same h]
    exact h
  · rw [of_renamed h]
    rfl

end Told

/-! ## Lines -/

/-- What a line holds. -/
inductive Line where
  | mark (key : String)
  | member (told : Told)
  | other
  deriving DecidableEq, Repr

/-- The members that lines tell of, where `pending` is the key of the last mark before them. A
member's own mark comes first. -/
def collect (line : String → Line) (pending : Option String) : List String → List Told
  | [] => []
  | l :: r =>
    match line l with
    | .mark key => collect line (some key) r
    | .member t => ⟨t.identifier, t.mark <|> pending⟩ :: collect line none r
    | .other => collect line pending r

/-- Some lines tell of some members, whatever lines follow. -/
def Tells (line : String → Line) (ls : List String) (told : List Told) : Prop :=
  ∀ r, collect line none (ls ++ r) = told ++ collect line none r

section

variable {line : String → Line}

theorem collect_others {ls : List String} (h : ∀ l ∈ ls, line l = .other)
    (pending : Option String) (r : List String) :
    collect line pending (ls ++ r) = collect line pending r := by
  induction ls with
  | nil => rfl
  | cons l ls ih =>
    rw [List.cons_append, collect, h l List.mem_cons_self]
    exact ih fun m hm => h m (List.mem_cons_of_mem _ hm)

theorem tells_others {ls : List String} (h : ∀ l ∈ ls, line l = .other) : Tells line ls [] :=
  collect_others h none

theorem tells_member {l : String} {t : Told} (h : line l = .member t) : Tells line [l] [t] := by
  intro r
  rw [List.singleton_append, collect, h]
  simp

theorem Tells.append {ls ms : List String} {s t : List Told} (hs : Tells line ls s)
    (ht : Tells line ms t) : Tells line (ls ++ ms) (s ++ t) := by
  intro r
  rw [List.append_assoc, hs, ht, List.append_assoc]

/-- A key that is marked before a member stays pending, also across other lines. -/
theorem collect_marks {ls : List String} {key : String}
    (h : ∀ l ∈ ls, line l = .mark key ∨ line l = .other) (pending : Option String)
    (r : List String) : collect line pending (ls ++ r) =
      collect line (if .mark key ∈ ls.map line then some key else pending) r := by
  induction ls generalizing pending with
  | nil => rfl
  | cons l ls ih =>
    have htail := ih fun m hm => h m (List.mem_cons_of_mem _ hm)
    rcases h l List.mem_cons_self with hl | hl
    · rw [List.cons_append, collect, hl]
      simp only [htail, List.map_cons, hl, List.mem_cons_self, if_true]
      split <;> rfl
    · rw [List.cons_append, collect, hl]
      simp [htail, hl]

/-- Lines of which one marks the key exactly where it is not the identifier, then a member. -/
theorem tells_block {ls : List String} {l key identifier : String}
    (hls : ∀ l ∈ ls, line l = .mark key ∨ line l = .other)
    (hmark : .mark key ∈ ls.map line ↔ identifier ≠ key)
    (hl : line l = .member ⟨identifier, none⟩) :
    Tells line (ls ++ [l]) [Told.of identifier key] := by
  intro r
  rw [List.append_assoc, collect_marks hls, List.singleton_append, collect, hl]
  by_cases h : identifier = key
  · rw [if_neg (fun hm => hmark.mp hm h), Told.of_same h]
    rfl
  · rw [if_pos (hmark.mpr h), Told.of_renamed h]
    rfl

/-- Lines with a mark exactly where the identifier is not the key, then others, then a member. -/
theorem tells_of {marks ls : List String} {l key identifier : String}
    (hsame : identifier = key → marks = [])
    (hrenamed : identifier ≠ key → ∃ m, marks = [m] ∧ line m = .mark key)
    (hls : ∀ l ∈ ls, line l = .other) (hl : line l = .member ⟨identifier, none⟩) :
    Tells line (marks ++ (ls ++ [l])) [Told.of identifier key] := by
  have hother : .mark key ∉ ls.map line := by
    intro hm
    obtain ⟨m, hm, hline⟩ := List.mem_map.mp hm
    rw [hls m hm] at hline
    cases hline
  rw [← List.append_assoc]
  by_cases h : identifier = key
  · rw [hsame h, List.nil_append]
    exact tells_block (fun l hl => .inr (hls l hl))
      ⟨fun hm => absurd hm hother, fun hne => absurd h hne⟩ hl
  · obtain ⟨m, hmarks, hm⟩ := hrenamed h
    rw [hmarks]
    refine tells_block ?_ ⟨fun _ => h, fun _ => by simp [hm]⟩ hl
    intro l hl
    rcases List.mem_append.mp hl with hl | hl
    · exact .inl (List.mem_singleton.mp hl ▸ hm)
    · exact .inr (hls l hl)

end

/-! ## Lines of many members -/

/-- A way to write the lines of members one after the other: those of the last member as `last`
has them, those of all members before it as `next` has them. -/
structure Sequenced {α : Type} (join : List α → List String) (last next : α → List String) :
    Prop where
  nil : join [] = []
  one : ∀ a, join [a] = last a
  more : ∀ a b r, join (a :: b :: r) = next a ++ join (b :: r)

theorem sequenced_flatMap {α : Type} (ls : α → List String) :
    Sequenced (fun as => as.flatMap ls) ls ls where
  nil := rfl
  one a := by simp
  more a b r := by simp

theorem sequenced_map {α : Type} (l : α → String) :
    Sequenced (fun as => as.map l) (fun a => [l a]) (fun a => [l a]) where
  nil := rfl
  one _ := rfl
  more _ _ _ := rfl

theorem sequenced_intercalate {α : Type} (ls : α → List String) (gap : String) :
    Sequenced (fun as => [gap].intercalate (as.map ls)) ls (fun a => ls a ++ [gap]) where
  nil := rfl
  one a := by simp
  more a b r := by simp

namespace Sequenced

variable {α : Type} {join : List α → List String} {last next : α → List String}

/-- Members that are made from something else. -/
theorem map (h : Sequenced join last next) {β : Type} (make : β → α) :
    Sequenced (fun bs => join (bs.map make)) (fun b => last (make b)) fun b => next (make b) where
  nil := h.nil
  one b := h.one (make b)
  more b c r := h.more (make b) (make c) (r.map make)

theorem tells (h : Sequenced join last next) {line : String → Line} {told : α → Told}
    {as : List α} (hlast : ∀ a ∈ as, Tells line (last a) [told a])
    (hnext : ∀ a ∈ as, Tells line (next a) [told a]) : Tells line (join as) (as.map told) := by
  induction as with
  | nil =>
    rw [h.nil]
    exact fun r => rfl
  | cons a as ih =>
    cases as with
    | nil =>
      rw [h.one]
      exact hlast a List.mem_cons_self
    | cons b as =>
      rw [h.more, List.map_cons]
      exact (hnext a List.mem_cons_self).append
        (ih (fun c hc => hlast c (List.mem_cons_of_mem _ hc))
          fun c hc => hnext c (List.mem_cons_of_mem _ hc))

/-- What holds of the lines of each member holds of all lines. -/
theorem forall_mem (h : Sequenced join last next) {P : String → Prop} {as : List α}
    (hlast : ∀ a ∈ as, ∀ l ∈ last a, P l) (hnext : ∀ a ∈ as, ∀ l ∈ next a, P l) :
    ∀ l ∈ join as, P l := by
  induction as with
  | nil =>
    rw [h.nil]
    simp
  | cons a as ih =>
    cases as with
    | nil =>
      rw [h.one]
      exact hlast a List.mem_cons_self
    | cons b as =>
      intro l hl
      rw [h.more, List.mem_append] at hl
      rcases hl with hl | hl
      · exact hnext a List.mem_cons_self l hl
      · exact ih (fun c hc => hlast c (List.mem_cons_of_mem _ hc))
          (fun c hc => hnext c (List.mem_cons_of_mem _ hc)) l hl

/-- What some line of a member is, however the member stands, some line of them all is. -/
theorem exists_mem (h : Sequenced join last next) {P : String → Prop} {as : List α} {a : α}
    (ha : a ∈ as) (hlast : ∃ l ∈ last a, P l) (hnext : ∃ l ∈ next a, P l) :
    ∃ l ∈ join as, P l := by
  induction as with
  | nil => cases ha
  | cons b as ih =>
    cases as with
    | nil =>
      rw [List.mem_singleton.mp ha] at hlast
      rw [h.one]
      exact hlast
    | cons c as =>
      rw [h.more]
      rcases List.mem_cons.mp ha with rfl | ha
      · obtain ⟨l, hl, hP⟩ := hnext
        exact ⟨l, List.mem_append_left _ hl, hP⟩
      · obtain ⟨l, hl, hP⟩ := ih ha
        exact ⟨l, List.mem_append_right _ hl, hP⟩

end Sequenced

/-! ## Marks before members -/

/-- The line of a language whose marks stand on lines of their own: `mark` is what such a line
begins with, and `member?` finds the identifier in the line of a member. -/
def markedLine (mark : String) (member? : List Char → Option String) (l : String) : Line :=
  match literalAfter? mark l.toList with
  | some (key, _) => .mark key
  | none =>
    match member? l.toList with
    | some identifier => .member ⟨identifier, none⟩
    | none => .other

section

variable {mark : String} {member? : List Char → Option String} {l : String}

theorem markedLine_mark (key r : String) :
    markedLine mark member? (mark ++ quote key ++ r) = .mark key := by
  rw [markedLine, String.toList_append, String.toList_append, List.append_assoc,
    literalAfter?_append]

theorem markedLine_member {identifier : String} (hmark : literalAfter? mark l.toList = none)
    (h : member? l.toList = some identifier) :
    markedLine mark member? l = .member ⟨identifier, none⟩ := by
  rw [markedLine, hmark]
  simp only
  rw [h]

theorem markedLine_other (hmark : literalAfter? mark l.toList = none)
    (h : member? l.toList = none) : markedLine mark member? l = .other := by
  rw [markedLine, hmark]
  simp only
  rw [h]

end

/-! ## Marks behind members -/

/-- The line of a language whose marks stand in the lines of the members. -/
def inlineLine (member? : List Char → Option Told) (l : String) : Line :=
  match member? l.toList with
  | some t => .member t
  | none => .other

theorem inlineLine_member {member? : List Char → Option Told} {l : String} {t : Told}
    (h : member? l.toList = some t) : inlineLine member? l = .member t := by
  rw [inlineLine, h]

/-! ## Readers -/

/-- A way to read the keys in the definitions of a language: the identifier of a member for a key,
the lines before the members of a type, and the members that the lines behind these tell of. -/
structure Reader where
  identifier : String → String
  opening : String → List String
  told : List String → List Told

namespace Reader

/-- The lines behind the opening of a definition. -/
def linesBehind (r : Reader) (name definition : String) : List String :=
  match after? (unlines (r.opening name) ++ "\n") definition.toList with
  | some s => lines (String.ofList s)
  | none => []

/-- The members in the definition of a type. -/
def read (r : Reader) (name definition : String) : List Told :=
  r.told (r.linesBehind name definition)

/-- The reader that looks at one line after the other, up to one that ends the members. -/
def ofLines (identifier : String → String) (opening : String → List String)
    (ends : String → Bool) (line : String → Line) : Reader where
  identifier
  opening
  told ls := collect line none (ls.takeWhile (!ends ·))

/-- Behind the opening of a definition the reader finds its other lines. -/
theorem linesBehind_trimBreaks (r : Reader) {name : String} {body : List String}
    (hopens : Opens (r.opening name)) (hcloses : Closes body) :
    r.linesBehind name (trimBreaks (unlines (r.opening name ++ body))) = body.flatMap lines := by
  rw [trimBreaks_unlines (hopens.append body) (hcloses.append (r.opening name)), linesBehind,
    unlines_append hopens.ne_nil hcloses.ne_nil, String.toList_append, after?_append]
  simp only [String.ofList_toList]
  rw [lines_unlines hcloses.ne_nil]

/-- A definition whose lines are an opening, the lines of the members and a closing that tells
nothing is read as its members. -/
theorem read_ofLines {identifier : String → String} {opening : String → List String}
    {ends : String → Bool} {line : String → Line} {name : String} {members closing : List String}
    {told : List Told}
    (hopens : Opens (opening name)) (hcloses : Closes (members ++ closing))
    (hmembers : Tells line members told) (honeLine : ∀ l ∈ members, OneLine l)
    (hends : ∀ l ∈ members, ends l = false)
    (hclosing : collect line none ((closing.flatMap lines).takeWhile (!ends ·)) = []) :
    (ofLines identifier opening ends line).read name
      (trimBreaks (unlines (opening name ++ (members ++ closing)))) = told := by
  have hkept : ∀ l ∈ members, (!ends l) = true := by
    intro l hl
    rw [hends l hl, Bool.not_false]
  have hbehind := (ofLines identifier opening ends line).linesBehind_trimBreaks hopens hcloses
  rw [List.flatMap_append, flatMap_lines honeLine] at hbehind
  rw [read]
  refine (congrArg _ hbehind).trans ?_
  simp only [ofLines]
  rw [List.takeWhile_append_of_pos hkept, hmembers, hclosing, List.append_nil]

end Reader

end TypeSketch.Key
