-- Words told by capitals alone. Without a gap between them the end of a word shows only
-- where a small letter meets a capital one or an acronym ends, so a name whose words are
-- capitalised has them all again exactly when each of its joints shows.
import Mathlib.Data.List.Chain
import TypeSketch.Proofs.Naming.Recased

namespace TypeSketch.Naming

open Text

/-! ## Joints -/

/-- Whether the joint shows where `v` is written behind `w` without a gap. -/
def shows (w v : List Char) : Bool :=
  match v with
  | [] => false
  | b :: r => w.getLast?.any (isBoundary · b r)

/-- A text that does not go on with a small letter. -/
def StartsAnew (s : List Char) : Prop := ∀ c ∈ s.head?, isLower c = false

/-- What starts anew behind a word changes nothing inside it. -/
theorem isBoundary_append {a b : Char} {w s : List Char} (hs : StartsAnew s) :
    isBoundary a b (w ++ s) = isBoundary a b w := by
  cases w with
  | nil =>
    have hnext : s.head?.any isLower = false := by
      cases s with
      | nil => rfl
      | cons c s => exact hs c rfl
    rw [List.nil_append, isBoundary, isBoundary, hnext]
    rfl
  | cons c w => rfl

theorem shows_append {w v s : List Char} (hv : v ≠ []) (hs : StartsAnew s) :
    shows w (v ++ s) = shows w v := by
  obtain ⟨b, v, rfl⟩ := List.exists_cons_of_ne_nil hv
  simp only [List.cons_append, shows, isBoundary_append hs]

theorem head?_spaced (s : List Char) : (spaced s).head? = s.head? := by
  rcases s with _ | ⟨a, _ | ⟨b, r⟩⟩
  · rfl
  · rfl
  · rw [spaced]
    split <;> rfl

/-- A word ends before what follows it exactly when the joint shows. -/
theorem spaced_append_joint {s : List Char} (hs : StartsAnew s) :
    ∀ {w : List Char}, w ≠ [] → Unbroken w →
      spaced (w ++ s) = w ++ if shows w s = true then ' ' :: spaced s else spaced s
  | [], hne, _ => absurd rfl hne
  | [a], _, _ => by
    cases s with
    | nil => rfl
    | cons b r =>
      rw [List.singleton_append, spaced, shows, List.getLast?_singleton, Option.any_some]
      split <;> rfl
  | a :: b :: w, _, hw => by
    have hrest := spaced_append_joint hs (List.cons_ne_nil b w) hw.2
    have hlast : shows (a :: b :: w) s = shows (b :: w) s := by
      cases s with
      | nil => rfl
      | cons c s => rw [shows, shows, List.getLast?_cons_cons]
    rw [List.cons_append] at hrest
    rw [List.cons_append, List.cons_append, spaced, isBoundary_append hs, hw.1,
      if_neg Bool.false_ne_true, hrest, hlast]
    rfl

theorem startsAnew_flatten {ws : List (List Char)} (hne : ∀ w ∈ ws, w ≠ [])
    (hws : ∀ w ∈ ws, StartsAnew w) : StartsAnew ws.flatten := by
  cases ws with
  | nil => simp [StartsAnew]
  | cons w r =>
    obtain ⟨c, w, rfl⟩ := List.exists_cons_of_ne_nil (hne w List.mem_cons_self)
    exact hws (c :: w) List.mem_cons_self

/-- The first piece of a text that begins with a word goes on to the next gap. -/
theorem head?_pieces_word {w : List Char} (hw : OneWord w) (s : List Char) :
    ((piecesBy isGap (w ++ s)).filter (!·.isEmpty)).head? = some (w ++ s.takeWhile (!isGap ·)) := by
  obtain ⟨v, vs, hv⟩ := List.exists_cons_of_ne_nil (piecesBy_ne_nil isGap (w ++ s))
  have hfirst := head?_piecesBy isGap (w ++ s)
  have hgapless : ∀ c ∈ w, (!isGap c) = true := by
    intro c hc
    simp [hw.gapless c hc]
  rw [hv, List.head?_cons, Option.some.injEq, List.takeWhile_append_of_pos hgapless] at hfirst
  rw [hv, hfirst, List.filter_cons_of_pos (by simp [hw.ne_nil]), List.head?_cons]

/-- Words of which only the first may begin with a small letter are found again in what is written
of them without gaps if and only if every joint shows. -/
theorem wordChars_flatten_iff {ws : List (List Char)} (hws : ∀ w ∈ ws, OneWord w)
    (hanew : ∀ w ∈ ws.tail, StartsAnew w) :
    wordChars ws.flatten = ws ↔ ws.IsChain (shows · · = true) := by
  induction ws with
  | nil => exact iff_of_true rfl List.isChain_nil
  | cons w r ih =>
    rw [List.forall_mem_cons] at hws
    cases r with
    | nil =>
      rw [List.flatten_singleton]
      exact iff_of_true hws.1.wordChars_eq (List.isChain_singleton w)
    | cons v r =>
      rw [List.tail_cons, List.forall_mem_cons] at hanew
      have hne : ∀ u ∈ v :: r, u ≠ [] := fun u hu => (hws.2 u hu).ne_nil
      have hbehind : StartsAnew (v :: r).flatten :=
        startsAnew_flatten hne (List.forall_mem_cons.mpr hanew)
      have hjoint : shows w (v :: r).flatten = shows w v :=
        shows_append (hne v List.mem_cons_self)
          (startsAnew_flatten (fun u hu => hne u (List.mem_cons_of_mem v hu)) hanew.2)
      have hspaced := spaced_append_joint hbehind hws.1.ne_nil hws.1.unbroken
      rw [List.isChain_cons_cons, List.flatten_cons, wordChars, hspaced, hjoint]
      by_cases hshows : shows w v = true
      · have hword : (piecesBy isGap w).filter (!·.isEmpty) = [w] := by
          rw [← hws.1.wordChars_eq, wordChars, spaced_of_unbroken hws.1.unbroken]
        rw [if_pos hshows, piecesBy_append (by rfl), List.filter_append, hword,
          List.singleton_append, ← wordChars, List.cons.injEq, ih hws.2 hanew.2]
        exact and_congr_left fun _ => iff_of_true rfl hshows
      · -- the first word goes on beyond the joint
        rw [if_neg hshows]
        refine iff_of_false (fun h => ?_) fun h => hshows h.1
        obtain ⟨c, v, rfl⟩ := List.exists_cons_of_ne_nil (hne v List.mem_cons_self)
        obtain ⟨x, hx⟩ := List.head?_eq_some_iff.mp (head?_spaced ((c :: v) :: r).flatten)
        have hgap : isGap c = false := (hws.2 _ List.mem_cons_self).gapless c List.mem_cons_self
        have hfirst := head?_pieces_word hws.1 (spaced ((c :: v) :: r).flatten)
        rw [h, hx] at hfirst
        simp [hgap] at hfirst

/-! ## Capitalised words -/

theorem lowerWord_capitalWord (w : List Char) : lowerWord (capitalWord w) = lowerWord w := by
  cases w with
  | nil => rfl
  | cons c w =>
    have hrest : lowerWord (lowerWord w) = lowerWord w := keepsForms_lowerWord.lower w
    unfold lowerWord at hrest
    simp [capitalWord, lowerWord, (upperChar_upperChar c).2, hrest]

theorem startsAnew_capitalWord (w : List Char) : StartsAnew (capitalWord w) := by
  cases w with
  | nil => simp [StartsAnew, capitalWord]
  | cons c w => simp [StartsAnew, capitalWord, isLower_upperChar]

theorem oneWord_capitalWord {w : List Char} (h : OneWord w) : OneWord (capitalWord w) := by
  obtain ⟨c, w, rfl⟩ := List.exists_cons_of_ne_nil h.ne_nil
  have hsmall : ∀ d ∈ lowerWord w, isUpper d = false := by
    intro d hd
    obtain ⟨e, _, rfl⟩ := List.mem_map.mp hd
    exact isUpper_lowerChar e
  refine ⟨List.cons_ne_nil _ _, ?_, ?_⟩
  · intro d hd
    rcases List.mem_cons.mp hd with rfl | hd
    · rw [isGap_upperChar]
      exact h.gapless c List.mem_cons_self
    · obtain ⟨e, he, rfl⟩ := List.mem_map.mp hd
      rw [isGap_lowerChar]
      exact h.gapless e (List.mem_cons_of_mem c he)
  · rw [capitalWord]
    cases hw : lowerWord w with
    | nil => trivial
    | cons d r =>
      rw [hw] at hsmall
      have hd : isUpper d = false := hsmall d List.mem_cons_self
      exact ⟨by simp [isBoundary, hd], unbroken_of_no_capital hsmall⟩

namespace NameCase

/-- The cases in which capitals alone part words. -/
def capitalized : List NameCase := [.camel, .pascal]

/-- Words as such a case writes them. -/
def written : NameCase → List (List Char) → List (List Char)
  | camel, ws => camelWords ws
  | _, ws => ws.map capitalWord

theorem joinChars_capitalized {k : NameCase} (hk : k ∈ capitalized) (ws : List (List Char)) :
    k.joinChars ws = (k.written ws).flatten := by
  simp only [capitalized, List.mem_cons, List.not_mem_nil, or_false] at hk
  rcases hk with rfl | rfl <;> rfl

theorem map_lowerWord_written (k : NameCase) (ws : List (List Char)) :
    (k.written ws).map lowerWord = ws.map lowerWord := by
  have hcapital (ws : List (List Char)) :
      (ws.map capitalWord).map lowerWord = ws.map lowerWord := by
    simp [lowerWord_capitalWord]
  cases k with
  | camel =>
    cases ws with
    | nil => rfl
    | cons w r =>
      simp only [written, camelWords, List.map_cons, hcapital, keepsForms_lowerWord.lower]
  | _ => exact hcapital ws

/-- Each of them still is one word. -/
theorem oneWord_written (k : NameCase) {ws : List (List Char)} (h : ∀ w ∈ ws, OneWord w) :
    ∀ w ∈ k.written ws, OneWord w := by
  have hcapital {ws : List (List Char)} (h : ∀ w ∈ ws, OneWord w) :
      ∀ w ∈ ws.map capitalWord, OneWord w := by
    intro v hv
    obtain ⟨w, hw, rfl⟩ := List.mem_map.mp hv
    exact oneWord_capitalWord (h w hw)
  cases k with
  | camel =>
    cases ws with
    | nil => exact h
    | cons w r =>
      rw [List.forall_mem_cons] at h
      exact List.forall_mem_cons.mpr ⟨keepsWords_lowerWord.oneWord w h.1, hcapital h.2⟩
  | _ => exact hcapital h

theorem startsAnew_written (k : NameCase) (ws : List (List Char)) :
    ∀ w ∈ (k.written ws).tail, StartsAnew w := by
  have htail : ∀ v ∈ ws.tail.map capitalWord, StartsAnew v := by
    intro v hv
    obtain ⟨w, _, rfl⟩ := List.mem_map.mp hv
    exact startsAnew_capitalWord w
  cases ws with
  | nil => cases k <;> simp [written, camelWords]
  | cons w r => cases k <;> exact htail

/-- A delimited name tells the small forms of its words. -/
theorem joinChars_delimited_inj {g : NameCase} (hg : g ∈ delimited) {ws vs : List (List Char)}
    (hws : ∀ w ∈ ws, OneWord w) (hvs : ∀ v ∈ vs, OneWord v)
    (h : g.joinChars ws = g.joinChars vs) : ws.map lowerWord = vs.map lowerWord := by
  obtain ⟨change, c, hchange, hc, hjoin⟩ := exists_joinChars_delimited hg
  have hwords {us : List (List Char)} (hus : ∀ u ∈ us, OneWord u) :
      wordChars (g.joinChars us) = us.map change := by
    rw [hjoin, wordChars_joined hc]
    intro v hv
    obtain ⟨u, hu, rfl⟩ := List.mem_map.mp hv
    exact hchange.oneWord u (hus u hu)
  have hlower (us : List (List Char)) : (us.map change).map lowerWord = us.map lowerWord := by
    simp [hchange.lower]
  rw [← hlower ws, ← hlower vs, ← hwords hws, ← hwords hvs, h]

/-- A name that is written without gaps still tells the words of a delimited one if and only if
every joint shows. -/
theorem convert_capitalized_iff {k g : NameCase} (hk : k ∈ capitalized) (hg : g ∈ delimited)
    (name : String) : g.convert (k.convert name) = g.convert name ↔
      (k.written (wordChars name.toList)).IsChain (shows · · = true) := by
  have hwords : ∀ w ∈ wordChars name.toList, OneWord w := fun w => oneWord_of_mem
  have hlower := map_lowerWord_written k (wordChars name.toList)
  have hwritten := oneWord_written k hwords
  rw [← wordChars_flatten_iff hwritten (startsAnew_written k _), convert, convert, convert,
    String.ofList_inj, String.toList_ofList, convertChars, convertChars, convertChars,
    joinChars_capitalized hk]
  generalize k.written (wordChars name.toList) = ws at *
  constructor
  · intro h
    have hsmall := joinChars_delimited_inj hg (fun w => oneWord_of_mem) hwords h
    rw [← hlower] at hsmall
    -- the characters are the same, and so are the lengths of the words
    rw [List.eq_iff_flatten_eq, flatten_wordChars]
    constructor
    · rw [List.filter_eq_self]
      intro c hc
      obtain ⟨w, hw, hc⟩ := List.mem_flatten.mp hc
      simp [(hwritten w hw).gapless c hc]
    · simpa [lowerWord, Function.comp_def] using congrArg (List.map List.length) hsmall
  · intro h
    rw [h, ← joinChars_map keepsForms_lowerWord, hlower, joinChars_map keepsForms_lowerWord]

end NameCase

/-! ## Names that come back -/

/-- A word of a name that comes back: two or more small letters and digits, of which the first is a
letter. -/
structure SteadyWord (w : List Char) : Prop extends SmallWord w where
  long : 2 ≤ w.length
  letter : w.head?.any isLower = true

instance (w : List Char) : Decidable (SteadyWord w) :=
  decidable_of_iff (SmallWord w ∧ 2 ≤ w.length ∧ w.head?.any isLower = true)
    ⟨fun h => ⟨h.1, h.2.1, h.2.2⟩, fun h => ⟨h.toSmallWord, h.long, h.letter⟩⟩

theorem SmallWord.oneWord {w : List Char} (h : SmallWord w) : OneWord w := by
  refine ⟨h.ne_nil, fun c hc => ?_, unbroken_of_no_capital fun c hc => ?_⟩
  · exact of_isSmall (P := fun c => isGap c = false) (by decide) (h.small c hc)
  · exact isUpper_of_isSmall (h.small c hc)

/-- A small letter before a capital one shows. -/
theorem shows_capitalWord {w v : List Char} (hw : w.getLast?.any isLower = true)
    (hv : v.head?.any isLower = true) : shows w (capitalWord v) = true := by
  cases v with
  | nil => cases hv
  | cons c v =>
    have hupper : isUpper (upperChar c) = true := (isUpper_upperChar_of_isLower hv).1
    rw [capitalWord, shows]
    obtain ⟨a, ha, hlower⟩ := (Option.any_eq_true _ _).mp hw
    rw [ha, Option.any_some, isBoundary, hlower, hupper]
    rfl

theorem SteadyWord.getLast?_capitalWord {w : List Char} (h : SteadyWord w) :
    (capitalWord w).getLast? = w.getLast? := by
  have hlong := h.long
  rcases w with _ | ⟨c, _ | ⟨d, w⟩⟩
  · simp at hlong
  · simp at hlong
  · rw [capitalWord_cons h.toSmallWord, List.getLast?_cons_cons, List.getLast?_cons_cons]

/-- Where all words but the last end in a letter, every joint shows. -/
theorem isChain_capitalWord {ws : List (List Char)} (hws : ∀ w ∈ ws, SteadyWord w)
    (hends : ∀ w ∈ ws.dropLast, w.getLast?.any isLower = true) :
    (ws.map capitalWord).IsChain (shows · · = true) := by
  induction ws with
  | nil => exact List.isChain_nil
  | cons w r ih =>
    cases r with
    | nil => exact List.isChain_singleton _
    | cons v r =>
      rw [List.forall_mem_cons] at hws
      rw [List.dropLast_cons_cons, List.forall_mem_cons] at hends
      rw [List.map_cons, List.map_cons, List.isChain_cons_cons]
      refine ⟨shows_capitalWord ?_ (hws.2 v List.mem_cons_self).letter, ih hws.2 hends.2⟩
      rw [hws.1.getLast?_capitalWord]
      exact hends.1

theorem isChain_written {k : NameCase} (hk : k ∈ NameCase.capitalized) {ws : List (List Char)}
    (hws : ∀ w ∈ ws, SteadyWord w) (hends : ∀ w ∈ ws.dropLast, w.getLast?.any isLower = true) :
    (k.written ws).IsChain (shows · · = true) := by
  have hall := isChain_capitalWord hws hends
  simp only [NameCase.capitalized, List.mem_cons, List.not_mem_nil, or_false] at hk
  rcases hk with rfl | rfl
  · rcases ws with _ | ⟨w, _ | ⟨v, r⟩⟩
    · exact List.isChain_nil
    · exact List.isChain_singleton _
    · -- the first word has no capital, but its last character counts
      rw [List.map_cons, List.map_cons, List.isChain_cons_cons] at hall
      rw [NameCase.written, camelWords, List.map_cons, List.isChain_cons_cons]
      refine ⟨shows_capitalWord ?_ (hws v (by simp)).letter, hall.2⟩
      rw [lowerWord_of_small (hws w List.mem_cons_self).small]
      exact hends w (by simp)
  · exact hall

/-- The words of a name made of small words. -/
theorem wordChars_joinedWords {ws : List String} (hws : ∀ w ∈ ws, SmallWord w.toList) :
    wordChars ("_".intercalate ws).toList = ws.map String.toList := by
  rw [String.toList_intercalate]
  apply wordChars_joined (c := '_') rfl
  intro w hw
  obtain ⟨s, hs, rfl⟩ := List.mem_map.mp hw
  exact (hws s hs).oneWord

theorem convert_snake_joinedWords {ws : List String} (hws : ∀ w ∈ ws, SmallWord w.toList) :
    NameCase.snake.convert ("_".intercalate ws) = "_".intercalate ws := by
  have hlower : (ws.map String.toList).map lowerWord = ws.map String.toList := by
    apply map_lowerWord_of_small
    simpa using hws
  rw [NameCase.convert, NameCase.convertChars, wordChars_joinedWords hws, NameCase.joinChars,
    hlower, ← String.toList_inj, String.toList_ofList, String.toList_intercalate]
  rfl

/-- A name in small letters comes back from camel case and from Pascal case, if each of its words
has two or more letters and digits, begins with a letter and, unless it is the last, ends with one.
For names of any kind: written without gaps and then with them, a name is what it is with gaps at
once if and only if every joint of the words shows where they are capitalised. -/
theorem a_name_comes_back_if_its_joints_show :
    (∀ ws : List String, (∀ w ∈ ws, SteadyWord w.toList) →
      (∀ w ∈ ws.dropLast, w.toList.getLast?.any isLower = true) →
        let name := "_".intercalate ws
        NameCase.snake.convert (NameCase.camel.convert name) = name ∧
          NameCase.snake.convert (NameCase.pascal.convert name) = name) ∧
      ∀ k ∈ NameCase.capitalized, ∀ g ∈ NameCase.delimited, ∀ name,
        g.convert (k.convert name) = g.convert name ↔
          (k.written (wordChars name.toList)).IsChain (shows · · = true) := by
  refine ⟨fun ws hws hends => ?_, fun k hk g hg => NameCase.convert_capitalized_iff hk hg⟩
  intro name
  have hsmall : ∀ w ∈ ws, SmallWord w.toList := fun w hw => (hws w hw).toSmallWord
  have hback (k : NameCase) (hk : k ∈ NameCase.capitalized) :
      NameCase.snake.convert (k.convert name) = name := by
    have hchain : (k.written (wordChars name.toList)).IsChain (shows · · = true) := by
      rw [wordChars_joinedWords hsmall]
      apply isChain_written hk
      · simpa using hws
      · simpa [← List.map_dropLast] using hends
    rw [(NameCase.convert_capitalized_iff hk (by decide) name).mpr hchain]
    exact convert_snake_joinedWords hsmall
  exact ⟨hback .camel (by decide), hback .pascal (by decide)⟩

/-- A digit inside a word or at the end of the last one does no harm. -/
theorem a_name_with_digits_comes_back :
    let ws := ["x2y", "sha", "v256"]
    (∀ w ∈ ws, SteadyWord w.toList) ∧ (∀ w ∈ ws.dropLast, w.toList.getLast?.any isLower = true) ∧
      NameCase.camel.convert "x2y_sha_v256" = "x2yShaV256" ∧
      NameCase.snake.convert "x2yShaV256" = "x2y_sha_v256" ∧
      NameCase.snake.convert (NameCase.pascal.convert "x2y_sha_v256") = "x2y_sha_v256" := by
  intro ws
  have hws : ∀ w ∈ ws, SteadyWord w.toList := by decide
  have hends : ∀ w ∈ ws.dropLast, w.toList.getLast?.any isLower = true := by decide
  have hname : "_".intercalate ws = "x2y_sha_v256" := by decide
  have hcamel : NameCase.camel.convert "x2y_sha_v256" = "x2yShaV256" := by decide +kernel
  obtain ⟨hback, hback'⟩ := a_name_comes_back_if_its_joints_show.1 ws hws hends
  rw [hname, hcamel] at hback
  rw [hname] at hback'
  exact ⟨hws, hends, hcamel, hback, hback'⟩

/-- A word of one letter goes over to the next, and so does a word that ends in a digit. -/
example :
    NameCase.snake.convert (NameCase.camel.convert "is_a_b") = "is_ab" ∧
      NameCase.snake.convert (NameCase.pascal.convert "line2_end") = "line2end" := by
  decide +kernel

end TypeSketch.Naming
