-- Keys that are written as they stand. A property of TypeScript and a member of a typed
-- dictionary in the form of a class hold the key itself, if it is taken for a name. A name
-- with a line break behind it is taken for one too, and then the line breaks there; no
-- other key breaks a line.
import TypeSketch.Proofs.Target.Python
import TypeSketch.Proofs.Target.TypeScript

namespace TypeSketch

open Text Naming

/-! ## The quotes of a key -/

namespace Text

/-- Where every character is written with as many `x` as it is one, so is a text. -/
theorem count_flatMap_eq {α : Type} [DecidableEq α] {x : α} {f : α → List α}
    (h : ∀ c, (f c).count x = [c].count x) (s : List α) : (s.flatMap f).count x = s.count x := by
  induction s with
  | nil => rfl
  | cons c s ih =>
    rw [List.flatMap_cons, List.count_append, h, ih, ← List.count_append, List.singleton_append]

/-- No escape holds a single quote. -/
theorem count_literalBody (s : List Char) : (literalBody s).count '\'' = s.count '\'' := by
  refine count_flatMap_eq (fun c => ?_) s
  by_cases hc : c = '\''
  · subst hc
    decide
  · have hnone : '\'' ∉ literalChar c := fun h =>
      hc (eq_of_mem_literalChar (by decide) h).1.symm
    rw [List.count_eq_zero_of_not_mem hnone]
    simp [hc]

end Text

/-! ## Properties of TypeScript -/

namespace TypeScript

/-- A bare name in which dollars count as letters. -/
def BareKey (s : String) : Prop := Headed isKeyStart isKeyChar s.toList

/-- Inside its quotes a key has the single quotes that it had, so it differs from itself in
quotes. -/
theorem propertyKey_eq_iff (key : String) : propertyKey key = key ↔ isBareKey key = true := by
  unfold propertyKey
  split
  · rename_i h
    exact iff_of_true rfl h
  · rename_i h
    refine iff_of_false (fun heq => ?_) h
    have hcount : (keyBody key.toList).count '\'' = key.toList.count '\'' := by
      rw [keyBody, replaceOne, count_flatMap_eq, count_replacePair (by decide), count_literalBody]
      intro c
      split
      · rename_i hc
        subst hc
        decide
      · rfl
    have hquotes := congrArg (fun s : String => s.toList.count '\'') heq
    simp only [String.toList_ofList, List.cons_append, List.count_cons, List.count_append,
      hcount] at hquotes
    simp only [List.count_nil, beq_self_eq_true, if_true] at hquotes
    omega

/-- The only control character of a property is the break behind a name. -/
theorem control_propertyKey {key : String} {c : Char} (hc : c ∈ (propertyKey key).toList)
    (hcontrol : c.toNat < 0x20) : c = '\n' ∧ BrokenName isKeyStart isKeyChar key := by
  unfold propertyKey at hc
  split at hc
  · rename_i h
    have hchar {d : Char} (hd : isKeyChar d = true) : ¬ d.toNat < 0x20 := by
      rcases Bool.or_eq_true_iff.mp hd with hd | hd
      · exact of_isWordChar (P := fun d => ¬ d.toNat < 0x20) (by decide) hd
      · rw [beq_iff_eq.mp hd]
        decide
    have hstart {d : Char} (hd : isKeyStart d = true) : isKeyChar d = true := by
      simp only [isKeyStart, isKeyChar, Bool.or_eq_true, isStartChar_iff] at hd ⊢
      exact hd.imp_left And.left
    have hname {t : List Char} (ht : Headed isKeyStart isKeyChar t) : c ∉ t := by
      obtain ⟨d, r, rfl, hd, hr⟩ := ht
      intro hmem
      rcases List.mem_cons.mp hmem with rfl | hmem
      · exact hchar (hstart hd) hcontrol
      · exact hchar (hr c hmem) hcontrol
    rcases matchesName_toList_iff.mp h with hkey | ⟨t, ht, rfl⟩
    · exact absurd hc (hname hkey)
    · refine ⟨?_, t, ht, rfl⟩
      rw [String.toList_append, List.mem_append] at hc
      exact List.mem_singleton.mp (hc.resolve_left (hname ht))
  · exact absurd hcontrol (control_quotedKey hc)

theorem oneLine_propertyKey_iff (key : String) :
    OneLine (propertyKey key) ↔ ¬ BrokenName isKeyStart isKeyChar key := by
  unfold propertyKey
  split
  · rename_i h
    exact oneLine_iff_of_matchesName (by decide) (by decide) h
  · rename_i h
    refine iff_of_true (oneLine_quotedKey key) fun hbroken => h ?_
    exact matchesName_toList_iff.mpr (.inr hbroken)

theorem oneLine_line_iff (o : Options) {f : Field} (hf : f.2.NamedByWord) :
    OneLine (member o f).line ↔ ¬ BrokenName isKeyStart isKeyChar f.1 := by
  have hreadonly : OneLine (if (member o f).readonly then "readonly " else "") := by
    split <;> decide
  have hoptional : OneLine (if (member o f).optional then "?" else "") := by
    split <;> decide
  have htype : OneLine (member o f).type := by
    refine oneLine_append.mpr ⟨(solid_typeOf o hf).1, ?_⟩
    split <;> decide
  have hmarks : OneLine "  " ∧ OneLine ": " ∧ OneLine ";" := by decide
  simp only [Member.line, oneLine_append, hreadonly, hoptional, htype, hmarks, and_true, true_and]
  exact oneLine_propertyKey_iff f.1

/-- The lines of a type are lines, if its name is one and no key has a break behind a name. -/
theorem oneLine_definition_iff (o : Options) {t : ObjectType}
    (ht : ∀ f ∈ t.fields, f.2.NamedByWord) :
    (∀ l ∈ definition o t, OneLine l) ↔
      OneLine t.name ∧ ∀ f ∈ t.fields, ¬ BrokenName isKeyStart isKeyChar f.1 := by
  have hexport : OneLine (if o.useExport then "export " else "") := by split <;> decide
  have hopen : OneLine ((if o.useExport then "export " else "") ++
      (if o.useInterface then "interface " ++ t.name else "type " ++ t.name ++ " =") ++ " \x7b") ↔
        OneLine t.name := by
    rw [oneLine_append, oneLine_append]
    by_cases hinterface : o.useInterface = true
    · rw [if_pos hinterface]
      simp +decide [hexport]
    · rw [if_neg hinterface]
      simp +decide [hexport]
  have hproperties : (∀ f ∈ t.fields, OneLine (member o f).line) ↔
      ∀ f ∈ t.fields, ¬ BrokenName isKeyStart isKeyChar f.1 :=
    forall₂_congr fun f hf => oneLine_line_iff o (ht f hf)
  have hclose : OneLine "\x7d" := by decide
  unfold definition layout
  rw [List.cons_append, List.forall_mem_cons, List.forall_mem_append, hopen]
  simp only [List.forall_mem_map, List.forall_mem_singleton, hproperties, hclose, and_true]

end TypeScript

/-! ## Typed dictionaries of Python -/

namespace Python

theorem oneLine_dictLine_iff (o : Options) {f : Field} (hkey : isAttributeName f.1 = true)
    (hf : f.2.NamedByWord) :
    OneLine (dictMember o f).line ↔ ¬ BrokenName isStartChar isWordChar f.1 := by
  have hname : isIdentifier f.1 = true := by
    rw [isAttributeName, Bool.and_eq_true] at hkey
    exact hkey.1
  rw [← oneLine_iff_of_matchesName (by decide) (by decide) hname, Member.line, name_dictMember,
    value_dictMember]
  simp +decide [(solid_dictType o hf).1]

/-- The body of a class is made of its members' lines, or of one of its own. -/
theorem oneLine_body_iff (ms : List Member) :
    (∀ l ∈ body ms, OneLine l) ↔ ∀ m ∈ ms, OneLine m.line := by
  unfold body
  cases ms with
  | nil => simp +decide
  | cons m ms => exact List.forall_mem_map

/-- In the form of a call the keys are literals. -/
theorem oneLine_callLine (o : Options) {f : Field} (hf : f.2.NamedByWord) :
    OneLine ("    " ++ quote (dictMember o f).name ++ ": " ++ (dictMember o f).type ++ ",") := by
  simp +decide [oneLine_quote, (solid_dictType o hf).1]

/-- Only in the form of a class do the keys stand bare. -/
theorem oneLine_definition_iff {o : Options} (h : o.style = .typedDict) {t : ObjectType}
    (ht : ∀ f ∈ t.fields, f.2.NamedByWord) :
    (∀ l ∈ definition o t, OneLine l) ↔
      OneLine t.name ∧ ((∃ f ∈ t.fields, isAttributeName f.1 = false) ∨
        ∀ f ∈ t.fields, ¬ BrokenName isStartChar isWordChar f.1) := by
  have htotal : OneLine (if o.useTotal then "" else ", total=False") := by split <;> decide
  have hneeds : needsCall (t.fields.map (dictMember o)) = true ↔
      ∃ f ∈ t.fields, isAttributeName f.1 = false := by
    simp [needsCall, name_dictMember]
  rw [← hneeds]
  unfold definition layout
  simp only [h, member_of_dict h, dictLines]
  by_cases hcall : needsCall (t.fields.map (dictMember o)) = true
  · have hopen : OneLine (t.name ++ " = TypedDict(" ++ quote t.name ++ ", \x7b") ↔
        OneLine t.name := by
      simp +decide [oneLine_quote]
    have hmembers : ∀ l ∈ (t.fields.map (dictMember o)).map fun m =>
        "    " ++ quote m.name ++ ": " ++ m.type ++ ",", OneLine l := by
      simp only [List.forall_mem_map]
      exact fun f hf => oneLine_callLine o (ht f hf)
    have hclose : OneLine ("\x7d" ++ (if o.useTotal then "" else ", total=False") ++ ")") := by
      simp +decide [htotal]
    rw [if_pos hcall, List.cons_append, List.forall_mem_cons, List.forall_mem_append, hopen,
      List.forall_mem_singleton]
    exact and_congr_right' (iff_of_true ⟨hmembers, hclose⟩ (.inl hcall))
  · have hopen : OneLine ("class " ++ t.name ++ "(TypedDict" ++
        (if o.useTotal then "" else ", total=False") ++ "):") ↔ OneLine t.name := by
      simp +decide [htotal]
    have hbare : ∀ f ∈ t.fields, isAttributeName f.1 = true := by
      simpa [hneeds] using hcall
    rw [if_neg hcall, List.forall_mem_cons, hopen, oneLine_body_iff, List.forall_mem_map,
      or_iff_right hcall]
    exact and_congr_right' (forall₂_congr fun f hf => oneLine_dictLine_iff o (hbare f hf) (ht f hf))

end Python

/-! ## The law -/

/-- For every key: it is taken for an identifier, and in TypeScript written without quotes, if and
only if it is a bare name or one with a line break behind it, where TypeScript counts a dollar as a
letter; and that break is the only control character of a property. For every object of a document:
its definition in TypeScript is made of whole lines unless a key is a name with a break behind it,
and as a typed dictionary of Python unless one is and all keys can be written as attributes. Every
other key keeps its line, whatever it holds. -/
theorem a_bare_key_may_have_a_break_behind_it (key rootName : String) (v : Json) (t : ObjectType)
    (ht : t.shape.Within (Shape.infer rootName v)) :
    (isIdentifier key = true ↔ BareName key ∨ BrokenName isStartChar isWordChar key) ∧
      (TypeScript.propertyKey key = key ↔
        TypeScript.BareKey key ∨ BrokenName TypeScript.isKeyStart TypeScript.isKeyChar key) ∧
      (∀ c ∈ (TypeScript.propertyKey key).toList, c.toNat < 0x20 →
        c = '\n' ∧ BrokenName TypeScript.isKeyStart TypeScript.isKeyChar key) ∧
      (∀ o : TypeScript.Options, (∀ l ∈ TypeScript.definition o t, OneLine l) ↔
        OneLine t.name ∧ ∀ f ∈ t.fields,
          ¬ BrokenName TypeScript.isKeyStart TypeScript.isKeyChar f.1) ∧
      ∀ o : Python.Options, o.style = .typedDict →
        ((∀ l ∈ Python.definition o t, OneLine l) ↔
          OneLine t.name ∧ ((∃ f ∈ t.fields, Python.isAttributeName f.1 = false) ∨
            ∀ f ∈ t.fields, ¬ BrokenName isStartChar isWordChar f.1)) := by
  have hnamed : ∀ f ∈ t.fields, f.2.NamedByWord := fun f hf => Shape.namedByWord_of_within ht hf
  refine ⟨matchesName_toList_iff, ?_, fun c hc => ?_, fun o => ?_, fun o ho => ?_⟩
  · rw [TypeScript.propertyKey_eq_iff]
    exact matchesName_toList_iff
  · exact TypeScript.control_propertyKey hc
  · exact TypeScript.oneLine_definition_iff o hnamed
  · exact Python.oneLine_definition_iff ho hnamed

/-- A name with a break behind it breaks the line of its property, but not the call of a typed
dictionary that another key makes necessary. -/
theorem a_break_shows_in_a_property_and_not_in_a_call :
    let v : Json := .obj [("a\n", .null), ("b c", .null)]
    let t : ObjectType := ⟨"Root", [("a\n", .scalar .null), ("b c", .scalar .null)]⟩
    let o : Python.Options := { style := .typedDict }
    t.shape.Within (Shape.infer "Root" v) ∧ o.style = .typedDict ∧
      TypeScript.propertyKey "$ref" = "$ref" ∧ isIdentifier "$ref" = false ∧
      (∀ l ∈ Python.definition o t, OneLine l) ∧ ¬ ∀ l ∈ TypeScript.definition {} t, OneLine l := by
  intro v t o
  have hwithin : t.shape.Within (Shape.infer "Root" v) := .here _
  have hstyle : o.style = .typedDict := rfl
  have hname : OneLine t.name := by decide
  obtain ⟨-, hbare, -, htypescript, hpython⟩ :=
    a_bare_key_may_have_a_break_behind_it "$ref" "Root" v t hwithin
  have hcall : ∃ f ∈ t.fields, Python.isAttributeName f.1 = false :=
    ⟨("b c", .scalar .null), by simp [t], by decide⟩
  have hbroken : BrokenName TypeScript.isKeyStart TypeScript.isKeyChar "a\n" :=
    ⟨"a", by decide, by decide⟩
  have hdollar : TypeScript.BareKey "$ref" := by
    unfold TypeScript.BareKey
    decide
  refine ⟨hwithin, hstyle, hbare.mpr (.inl hdollar), by decide,
    (hpython o hstyle).mpr ⟨hname, .inl hcall⟩, fun h => ?_⟩
  exact ((htypescript {}).mp h).2 ("a\n", .scalar .null) (by simp [t]) hbroken

/-- A letter with a break behind it is taken for an identifier and stands bare in both languages. -/
theorem a_letter_with_a_break_is_no_name :
    let t : ObjectType := ⟨"Root", [("a\n", .scalar .null)]⟩
    let o : Python.Options := { style := .typedDict }
    isIdentifier "a\n" = true ∧ ¬ BareName "a\n" ∧
      TypeScript.propertyKey "a\n" = "a\n" ∧ ¬ TypeScript.BareKey "a\n" ∧
      t.shape.Within (Shape.infer "Root" (.obj [("a\n", .null)])) ∧
      "  a\n: null;" ∈ TypeScript.definition {} t ∧ "    a\n: None" ∈ Python.definition o t := by
  intro t o
  have hkey : ¬ TypeScript.BareKey "a\n" := by
    unfold TypeScript.BareKey
    decide
  exact ⟨by decide, by decide, by decide, hkey, .here _, by decide, by decide⟩

end TypeSketch
