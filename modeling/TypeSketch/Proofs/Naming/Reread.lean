-- Names that are read again. A name in camel case has the letters of its words, but where a
-- joint does not show two of them are read as one. So a second name that is made from it tells
-- only the words between the joints that show.
import Mathlib.Data.List.SplitBy
import TypeSketch.Proofs.Naming.Capitals
import TypeSketch.Proofs.Naming.Convention

namespace TypeSketch.Naming

open Text

/-! ## Words between joints that show -/

/-- Words with those in one that no joint parts where they are written without gaps. -/
def fused (ws : List (List Char)) : List (List Char) :=
  (ws.splitBy fun w v => !shows w v).map List.flatten

theorem flatten_fused (ws : List (List Char)) : (fused ws).flatten = ws.flatten := by
  rw [fused, ← List.flatten_flatten, List.flatten_splitBy]

/-- The first of all members is the first of the first group; every other one comes behind it. -/
theorem mem_tail_of_groups {α : Type} {gs : List (List α)} {g : List α} {a : α} (hne : [] ∉ gs)
    (h : g ∈ gs ∧ a ∈ g.tail ∨ g ∈ gs.tail ∧ a ∈ g) : a ∈ gs.flatten.tail := by
  rcases gs with _ | ⟨_ | ⟨b, first⟩, gs⟩
  · simp at h
  · exact absurd List.mem_cons_self hne
  · rw [List.flatten_cons, List.cons_append, List.tail_cons, List.mem_append, List.mem_flatten]
    rcases h with ⟨hg, ha⟩ | ⟨hg, ha⟩
    · rcases List.mem_cons.mp hg with rfl | hg
      · exact .inl ha
      · exact .inr ⟨g, hg, List.mem_of_mem_tail ha⟩
    · exact .inr ⟨g, hg, ha⟩

theorem mem_tail_of_splitBy {α : Type} {r : α → α → Bool} {l g : List α} {a : α}
    (h : g ∈ l.splitBy r ∧ a ∈ g.tail ∨ g ∈ (l.splitBy r).tail ∧ a ∈ g) : a ∈ l.tail := by
  have hmem := mem_tail_of_groups (List.nil_notMem_splitBy r l) h
  rwa [List.flatten_splitBy] at hmem

/-- A word is not broken by one behind it if their joint does not show. -/
theorem unbroken_append {s : List Char} (hs : StartsAnew s) (hunbroken : Unbroken s) :
    ∀ {w : List Char}, w ≠ [] → Unbroken w → shows w s = false → Unbroken (w ++ s)
  | [], hne, _, _ => absurd rfl hne
  | [a], _, _, hjoint => by
    cases s with
    | nil => trivial
    | cons b r => exact ⟨by simpa [shows] using hjoint, hunbroken⟩
  | a :: b :: w, _, hw, hjoint => by
    have hlast : shows (b :: w) s = false := by
      cases s with
      | nil => rfl
      | cons c s => rwa [shows, List.getLast?_cons_cons] at hjoint
    refine ⟨?_, unbroken_append hs hunbroken (List.cons_ne_nil b w) hw.2 hlast⟩
    exact (isBoundary_append hs).trans hw.1

/-- Words in a row of which no joint shows are one word. -/
theorem oneWord_flatten {g : List (List Char)} (hne : g ≠ []) (hg : ∀ w ∈ g, OneWord w)
    (hanew : ∀ w ∈ g.tail, StartsAnew w) (hjoints : g.IsChain fun w v => (!shows w v) = true) :
    OneWord g.flatten := by
  induction g with
  | nil => exact absurd rfl hne
  | cons w r ih =>
    rw [List.forall_mem_cons] at hg
    cases r with
    | nil =>
      rw [List.flatten_singleton]
      exact hg.1
    | cons v r =>
      rw [List.tail_cons] at hanew
      rw [List.isChain_cons_cons] at hjoints
      have hwords : ∀ u ∈ v :: r, u ≠ [] := fun u hu => (hg.2 u hu).ne_nil
      have hrest : OneWord (v :: r).flatten :=
        ih (List.cons_ne_nil v r) hg.2 (fun u hu => hanew u (List.mem_cons_of_mem v hu)) hjoints.2
      have hbehind : StartsAnew (v :: r).flatten := startsAnew_flatten hwords hanew
      have hjoint : shows w (v :: r).flatten = false := by
        rw [List.forall_mem_cons] at hanew hwords
        rw [List.flatten_cons, shows_append hwords.1 (startsAnew_flatten hwords.2 hanew.2)]
        simpa using hjoints.1
      rw [List.flatten_cons]
      refine ⟨List.append_ne_nil_of_left_ne_nil hg.1.ne_nil _, ?_,
        unbroken_append hbehind hrest.unbroken hg.1.ne_nil hg.1.unbroken hjoint⟩
      rw [List.forall_mem_append]
      exact ⟨hg.1.gapless, hrest.gapless⟩

theorem getLast?_flatten {g : List (List Char)} (hne : g ≠ []) (hlast : g.getLast hne ≠ []) :
    g.flatten.getLast? = (g.getLast hne).getLast? := by
  conv_lhs => rw [← List.dropLast_concat_getLast hne]
  rw [List.flatten_append, List.flatten_singleton, List.getLast?_append,
    List.getLast?_eq_some_getLast hlast, Option.some_or]

/-- Between rows of words the joint is that of the last word and the first one. -/
theorem shows_flatten {g h : List (List Char)} (hg : g ≠ []) (hh : h ≠ [])
    (hgne : ∀ w ∈ g, w ≠ []) (hhne : ∀ w ∈ h, w ≠ []) (hanew : ∀ w ∈ h.tail, StartsAnew w) :
    shows g.flatten h.flatten = shows (g.getLast hg) (h.head hh) := by
  obtain ⟨v, r, rfl⟩ := List.exists_cons_of_ne_nil hh
  rw [List.forall_mem_cons] at hhne
  have hlast := getLast?_flatten hg (hgne _ (List.getLast_mem hg))
  rw [List.flatten_cons, shows_append hhne.1 (startsAnew_flatten hhne.2 hanew), List.head_cons]
  obtain ⟨c, v, rfl⟩ := List.exists_cons_of_ne_nil hhne.1
  rw [shows, hlast, shows]

/-- Words of which only the first may begin with a small letter are read again, where they are
written without gaps, as those between the joints that show. -/
theorem wordChars_flatten {ws : List (List Char)} (hws : ∀ w ∈ ws, OneWord w)
    (hanew : ∀ w ∈ ws.tail, StartsAnew w) : wordChars ws.flatten = fused ws := by
  have hne : ∀ g ∈ ws.splitBy fun w v => !shows w v, ∀ w ∈ g, w ≠ [] := by
    intro g hg w hw
    refine (hws w ?_).ne_nil
    rw [← List.flatten_splitBy (fun w v => !shows w v) ws]
    exact List.mem_flatten_of_mem hg hw
  have hinside : ∀ g ∈ ws.splitBy fun w v => !shows w v, ∀ w ∈ g.tail, StartsAnew w :=
    fun g hg w hw => hanew w (mem_tail_of_splitBy (.inl ⟨hg, hw⟩))
  rw [← flatten_fused, wordChars_flatten_iff]
  · -- the joints between the rows are those that show
    rw [fused, List.isChain_map]
    refine (List.isChain_getLast_head_splitBy _ ws).imp_of_mem_imp ?_
    rintro g h hg hh ⟨hgne, hhne, hjoint⟩
    rw [shows_flatten hgne hhne (hne g hg) (hne h hh) (hinside h hh)]
    simpa using hjoint
  · intro w hw
    obtain ⟨g, hg, rfl⟩ := List.mem_map.mp hw
    refine oneWord_flatten (List.ne_nil_of_mem_splitBy hg) (fun v hv => hws v ?_) (hinside g hg)
      (List.isChain_of_mem_splitBy hg)
    rw [← List.flatten_splitBy (fun w v => !shows w v) ws]
    exact List.mem_flatten_of_mem hg hv
  · intro w hw
    rw [fused, ← List.map_tail] at hw
    obtain ⟨g, hg, rfl⟩ := List.mem_map.mp hw
    exact startsAnew_flatten (hne g (List.mem_of_mem_tail hg)) fun v hv =>
      hanew v (mem_tail_of_splitBy (.inr ⟨hg, hv⟩))

/-! ## Names in camel case -/

/-- Words as they are told by their name in camel case, in small letters: those that no joint parts
in the name are one. -/
def reread (ws : List String) : List String :=
  (fused (camelWords (ws.map String.toList))).map fun w => String.ofList (lowerWord w)

theorem map_toList_reread (ws : List String) : (reread ws).map String.toList =
    (fused (camelWords (ws.map String.toList))).map lowerWord := by
  rw [reread, List.map_map]
  exact List.map_congr_left fun w _ => String.toList_ofList

/-- The name of some words in camel case shows all their joints. -/
def Clear (ws : List String) : Prop :=
  (camelWords (ws.map String.toList)).IsChain (shows · · = true)

section

variable {ws : List (List Char)} (h : Tellable .camel ws)
include h

theorem oneWord_camelWords : ∀ w ∈ camelWords ws, OneWord w :=
  NameCase.oneWord_written .camel fun w hw => (h.small w hw).oneWord

theorem map_lowerWord_camelWords : (camelWords ws).map lowerWord = ws := by
  rw [← NameCase.written, NameCase.map_lowerWord_written, map_lowerWord_of_small h.small]

theorem wordChars_camel : wordChars (NameCase.camel.joinChars ws) = fused (camelWords ws) :=
  wordChars_flatten (oneWord_camelWords h) (NameCase.startsAnew_written .camel ws)

/-- Only the first word that is read again may begin with a digit. -/
theorem glued_fused : Glued ((fused (camelWords ws)).map lowerWord) := by
  constructor
  · intro w hw
    obtain ⟨v, hv, rfl⟩ := List.mem_map.mp hw
    have hword : OneWord v := oneWord_of_mem (s := NameCase.camel.joinChars ws)
      (wordChars_camel h ▸ hv)
    refine ⟨by simpa [lowerWord] using hword.ne_nil, fun c hc => ?_⟩
    have hmem : c ∈ lowerWord (camelWords ws).flatten := by
      rw [← flatten_fused, lowerWord, List.map_flatten]
      exact List.mem_flatten_of_mem (List.mem_map_of_mem hv) hc
    rw [lowerWord, List.map_flatten] at hmem
    obtain ⟨u, hu, hcu⟩ := List.mem_flatten.mp hmem
    have hall : u ∈ ws := map_lowerWord_camelWords h ▸ hu
    exact (h.small u hall).small c hcu
  · intro w hw
    rw [fused, ← List.map_tail, ← List.map_tail, List.map_map] at hw
    obtain ⟨g, hg, rfl⟩ := List.mem_map.mp hw
    obtain ⟨v, r, rfl⟩ := List.exists_cons_of_ne_nil
      (List.ne_nil_of_mem_splitBy (List.mem_of_mem_tail hg))
    have hv : v ∈ (camelWords ws).tail := mem_tail_of_splitBy (.inr ⟨hg, List.mem_cons_self⟩)
    -- a row that is not the first one begins with a capitalised word
    obtain ⟨first, others, rfl⟩ := List.exists_cons_of_ne_nil h.ne_nil
    rw [camelWords, List.tail_cons] at hv
    obtain ⟨u, hu, rfl⟩ := List.mem_map.mp hv
    have hletter := h.letters (by decide) u hu
    have hsmall := h.small u (List.mem_cons_of_mem first hu)
    obtain ⟨c, u, rfl⟩ := List.exists_cons_of_ne_nil hsmall.ne_nil
    rw [digitFirst, List.head?_cons, Option.any_some] at hletter
    simpa [digitFirst, lowerWord, capitalWord,
      lowerChar_upperChar (hsmall.small c List.mem_cons_self)] using hletter

theorem fused_camelWords_iff :
    fused (camelWords ws) = camelWords ws ↔ (camelWords ws).IsChain (shows · · = true) := by
  rw [← wordChars_camel h]
  exact wordChars_flatten_iff (oneWord_camelWords h) (NameCase.startsAnew_written .camel ws)

end

/-- A mark before a digit is a gap. -/
theorem wordChars_marked (ws : List (List Char)) (s : List Char) :
    wordChars (marked ws s) = wordChars s := by
  rw [marked]
  split
  · exact wordChars_append (by rfl) [] s
  · rfl

theorem map_toList_told (c : Convention) (key : String) :
    (c.told key).map String.toList = c.parted (c.filled (smallWords key)) := by
  rw [Convention.told, List.map_map]
  exact List.map_id'' (fun w => String.toList_ofList) _

theorem filled_camel_ne_nil (key : String) : Convention.camel.filled (smallWords key) ≠ [] := by
  intro h
  cases (Convention.governs_camel.identifier_of_nil h).1

theorem tellable_told (key : String) :
    Tellable .camel ((Convention.camel.told key).map String.toList) := by
  rw [map_toList_told]
  exact Convention.governs_camel.tellable (Convention.governs_camel.small_told key)
    (filled_camel_ne_nil key)

/-- The name of a key in camel case, once more in Pascal case, is made of the words that are read
again. -/
theorem convert_pascal_fieldName (key : String) :
    (NameCase.pascal.convert (fieldName .camel key)).toList =
      NameCase.pascal.joinChars ((reread (Convention.camel.told key)).map String.toList) := by
  rw [map_toList_reread, joinChars_map keepsForms_lowerWord,
    ← wordChars_camel (tellable_told key), map_toList_told, NameCase.convert, String.toList_ofList,
    NameCase.convertChars, fieldName,
    Convention.governs_camel.identifier_eq (filled_camel_ne_nil key), wordChars_marked]

/-- Such names are the same exactly when the same words are read again. -/
theorem convert_pascal_fieldName_inj (key key' : String) :
    NameCase.pascal.convert (fieldName .camel key) =
        NameCase.pascal.convert (fieldName .camel key') ↔
      reread (Convention.camel.told key) = reread (Convention.camel.told key') := by
  have hglued (key : String) : Glued ((reread (Convention.camel.told key)).map String.toList) := by
    rw [map_toList_reread]
    exact glued_fused (tellable_told key)
  rw [← String.toList_inj, convert_pascal_fieldName, convert_pascal_fieldName]
  constructor
  · intro h
    exact (List.map_inj_right fun _ _ => String.toList_inj.mp).mp
      (joinChars_pascal_inj (hglued key) (hglued key') h)
  · intro h
    rw [h]

/-- Words whose joints all show are the words that are read again. -/
theorem reread_of_clear {key : String} (h : Clear (Convention.camel.told key)) :
    reread (Convention.camel.told key) = Convention.camel.told key := by
  have htellable := tellable_told key
  refine (List.map_inj_right fun _ _ => String.toList_inj.mp).mp ?_
  rw [map_toList_reread, (fused_camelWords_iff htellable).mpr h,
    map_lowerWord_camelWords htellable]

end TypeSketch.Naming
