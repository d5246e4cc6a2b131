-- Keys in Python: an argument of the value behind a member tells a key that is
-- not the attribute's name. A data class keeps it as metadata, a model as an
-- alias.
import TypeSketch.Proofs.Key.Reader
import TypeSketch.Proofs.Shape.Expression
import TypeSketch.Target.Python

namespace TypeSketch.Python

open Text Naming Key

/-! ## Members -/

theorem isWord_memberName (key : String) : IsWord (memberName key) := by
  have hname : IsWord (convertKey .snake "field_" "field" key) :=
    isWord_convertKey .snake (by decide) ⟨by decide, by decide⟩ key
  rw [memberName]
  split
  · exact hname.append ⟨by decide, by decide⟩
  · exact hname

theorem spelled_typeOf {s : Shape} (h : s.NamedByWord) :
    Shape.Spelled ['[', ']', ' ', '|'] (typeOf s) := by
  apply Shape.spelled_wrapped (fun _ _ => rfl) (fun _ _ => rfl) _ _ _ h
  · intro k
    cases k <;> decide
  · decide
  · decide

/-- Outside typed dictionaries, members are those of a class. -/
theorem member_of_class {o : Options} (h : o.style ≠ .typedDict) : member o = classMember o := by
  funext f
  unfold member
  split
  · rename_i hdict
    exact absurd hdict h
  · rfl

theorem name_of (o : Options) (f : Field) : (classMember o f).name = memberName f.1 := by
  by_cases h : memberName f.1 = f.1
  · simp [classMember, h]
  · cases hstyle : o.style <;> simp [classMember, h, hstyle]

theorem type_of (o : Options) (f : Field) : (classMember o f).type =
    if o.optionalProperties && typeOf f.2 != "None" then typeOf f.2 ++ " | None"
    else typeOf f.2 := by
  by_cases h : memberName f.1 = f.1
  · simp [classMember, h]
  · cases hstyle : o.style <;> simp [classMember, h, hstyle]

theorem spelled_type (o : Options) {f : Field} (hf : f.2.NamedByWord) :
    Shape.Spelled ['[', ']', ' ', '|'] (classMember o f).type := by
  rw [type_of]
  split
  · exact (spelled_typeOf hf).append (by decide)
  · exact spelled_typeOf hf

/-! ## Lines -/

/-- The call behind the equality sign of a member with a key. -/
def Style.call : Style → String
  | pydantic => "Field("
  | _ => "field("

/-- The argument of this call that holds the key. -/
def Style.argument : Style → String
  | pydantic => "alias="
  | _ => "metadata=\x7b\"json_key\": "

/-- The key behind the equality sign, if there is one. -/
def keyAt? (style : Style) (s : List Char) : Option String :=
  (after? ("= " ++ style.call) s).bind fun r =>
    (literalAfter? style.argument ((after? "default=None, " r).getD r)).map (·.1)

/-- The member in a line. -/
def memberAt? (style : Style) (s : List Char) : Option Told :=
  (after? "    " s).bind fun r =>
    (after? ": " (r.dropWhile isWordChar)).map fun r' =>
      ⟨firstWord r, keyAt? style (r'.dropWhile (· != '='))⟩

/-- What follows the type in the line of a member. -/
def Member.tail (m : Member) : String :=
  match m.value with
  | some v => " = " ++ v
  | none => ""

theorem line_eq (m : Member) : m.line = "    " ++ (m.name ++ (": " ++ (m.type ++ m.tail))) := by
  have hline : m.line = "    " ++ m.name ++ ": " ++ m.type ++ m.tail := rfl
  rw [hline]
  simp only [String.append_assoc]

theorem tail_same (o : Options) {f : Field} (h : memberName f.1 = f.1) :
    (classMember o f).tail = "" ∨ (classMember o f).tail = " = None" := by
  simp only [classMember, h, if_true, Member.tail]
  cases o.optionalProperties
  · exact .inl rfl
  · exact .inr rfl

/-- A renamed member has the call with the key, behind the default where the value may be
missing. -/
theorem tail_renamed (o : Options) {f : Field} (h : memberName f.1 ≠ f.1) :
    ∃ before behind, (classMember o f).tail =
      " = " ++ (o.style.call ++ (before ++ (o.style.argument ++ (quote f.1 ++ behind)))) ∧
        (before = "" ∨ before = "default=None, ") ∧ OneLine behind := by
  refine ⟨if o.optionalProperties then "default=None, " else "",
    if o.style = .pydantic then ")" else "\x7d)", ?_, ?_, ?_⟩
  · cases hstyle : o.style <;> cases hopt : o.optionalProperties <;>
      simp [classMember, h, Member.tail, hstyle, hopt, Style.call, Style.argument, listed,
        String.append_assoc]
  · split
    · exact .inr rfl
    · exact .inl rfl
  · split <;> decide

theorem keyAt?_same (o : Options) {f : Field} (h : memberName f.1 = f.1) :
    keyAt? o.style ((classMember o f).tail.toList.dropWhile (· != '=')) = none := by
  rcases tail_same o h with htail | htail
  · rw [htail]
    cases o.style <;> decide
  · rw [htail]
    cases o.style <;> decide

theorem keyAt?_renamed (o : Options) {f : Field} (h : memberName f.1 ≠ f.1) :
    keyAt? o.style ((classMember o f).tail.toList.dropWhile (· != '=')) = some f.1 := by
  obtain ⟨before, behind, htail, hbefore, _⟩ := tail_renamed o h
  have hdrop : (classMember o f).tail.toList.dropWhile (· != '=') = "= ".toList ++
      (o.style.call.toList ++ (before.toList ++
        (o.style.argument.toList ++ ((quote f.1).toList ++ behind.toList)))) := by
    simp [htail]
  rw [hdrop, keyAt?, after?_append_append, after?_append, Option.bind_some]
  rcases hbefore with rfl | rfl
  · have hnone (r : List Char) : after? "default=None, " (o.style.argument.toList ++ r) = none := by
      cases o.style <;> exact after?_append_ne (by decide) (by decide) r
    rw [String.toList_empty, List.nil_append, hnone, Option.getD_none, literalAfter?_append]
    rfl
  · rw [after?_append, Option.getD_some, literalAfter?_append]
    rfl

/-- The line of a member tells its attribute, and the key where it is another text. -/
theorem memberAt?_line (o : Options) {f : Field} (hf : f.2.NamedByWord) :
    memberAt? o.style (classMember o f).line.toList = some (Told.of (memberName f.1) f.1) := by
  have hword := isWord_memberName f.1
  have htype : ∀ c ∈ (classMember o f).type.toList, (c != '=') = true := by
    intro c hc
    rw [bne_iff_ne]
    rintro rfl
    exact (spelled_type o hf).not_mem (by decide) (by decide) hc
  have hline : (classMember o f).line.toList = "    ".toList ++ ((memberName f.1).toList ++
      ':' :: ' ' :: ((classMember o f).type.toList ++ (classMember o f).tail.toList)) := by
    simp [line_eq, name_of]
  have hcolon (r : List Char) : after? ": " (':' :: ' ' :: r) = some r := after?_append ": " r
  rw [hline, memberAt?, after?_append, Option.bind_some, dropWhile_word hword (by decide), hcolon,
    Option.map_some, firstWord_append hword (by decide), List.dropWhile_append_of_pos htype]
  by_cases h : memberName f.1 = f.1
  · rw [keyAt?_same o h, Told.of_same h]
  · rw [keyAt?_renamed o h, Told.of_renamed h]

theorem oneLine_line (o : Options) {f : Field} (hf : f.2.NamedByWord) :
    OneLine (classMember o f).line := by
  have hname : OneLine (memberName f.1) := (isWord_memberName f.1).oneLine
  have htype : OneLine (classMember o f).type := (spelled_type o hf).oneLine (by decide)
  have htail : OneLine (classMember o f).tail := by
    by_cases h : memberName f.1 = f.1
    · rcases tail_same o h with htail | htail
      · rw [htail]
        decide
      · rw [htail]
        decide
    · obtain ⟨before, behind, htail, hbefore, hbehind⟩ := tail_renamed o h
      have hcall : OneLine o.style.call := by cases o.style <;> decide
      have hargument : OneLine o.style.argument := by cases o.style <;> decide
      have hdefault : OneLine before := by rcases hbefore with rfl | rfl <;> decide
      rw [htail]
      simp +decide [hcall, hargument, hdefault, oneLine_quote, hbehind]
  rw [line_eq, name_of]
  simp +decide [hname, htype, htail]

/-! ## Definitions -/

/-- The lines before the members of a class. -/
def opening (o : Options) (name : String) : List String :=
  match o.style with
  | .pydantic => ["class " ++ name ++ "(BaseModel):"]
  | _ => [decorator o, "class " ++ name ++ ":"]

/-- The reader of Python definitions. -/
def reader (o : Options) : Reader :=
  .ofLines memberName (opening o) (fun _ => false) (inlineLine (memberAt? o.style))

theorem identifier_reader (o : Options) : (reader o).identifier = memberName := by
  simp only [reader, Reader.ofLines]

theorem head_decorator (o : Options) : (decorator o).toList.head? = some '@' := by
  cases hf : o.useFrozen <;> cases hs : o.useSlots <;> cases hk : o.useKwOnly <;>
    simp [decorator, hf, hs, hk]

theorem opens_opening (o : Options) (name : String) : Opens (opening o name) := by
  rw [opening]
  split
  · simp [Opens]
  · simp [Opens, head_decorator]

theorem body_eq (o : Options) (fs : List Field) : body (fs.map (classMember o)) =
    (fs.map fun f => (classMember o f).line) ++ if fs.isEmpty then ["    pass"] else [] := by
  cases fs with
  | nil => rfl
  | cons f r => simp [body, Function.comp_def]

theorem closes_body (o : Options) {fs : List Field} (hfs : ∀ f ∈ fs, f.2.NamedByWord) :
    Closes (body (fs.map (classMember o))) := by
  rcases List.eq_nil_or_concat fs with rfl | ⟨r, f, rfl⟩
  · exact closes_concat (by decide) (by decide) []
  · have hne : (classMember o f).line ≠ "" := by
      intro h
      rw [line_eq] at h
      simpa using congrArg String.toList h
    rw [body_eq]
    have hlast := closes_concat (oneLine_line o (hfs f (by simp))) hne
    simpa using hlast _

/-- The definition of a data class or a model tells every key. -/
theorem read_definition (o : Options) (hstyle : o.style ≠ .typedDict) (t : ObjectType)
    (ht : ∀ f ∈ t.fields, f.2.NamedByWord) :
    (reader o).read t.name (trimBreaks (unlines (definition o t))) =
      t.fields.map fun f => Told.of (memberName f.1) f.1 := by
  have hlines := sequenced_map fun f => (classMember o f).line
  have hdefinition : definition o t =
      opening o t.name ++ body (t.fields.map (classMember o)) := by
    cases h : o.style with
    | typedDict => exact absurd h hstyle
    | _ => simp [definition, layout, member_of_class hstyle, opening, h]
  have hcloses := closes_body o ht
  rw [body_eq] at hdefinition hcloses
  have htells : ∀ f ∈ t.fields, Tells (inlineLine (memberAt? o.style)) [(classMember o f).line]
      [Told.of (memberName f.1) f.1] :=
    fun f hf => tells_member (inlineLine_member (memberAt?_line o (ht f hf)))
  have honeLine : ∀ f ∈ t.fields, ∀ l ∈ [(classMember o f).line], OneLine l := by
    intro f hf l hl
    rw [List.mem_singleton.mp hl]
    exact oneLine_line o (ht f hf)
  rw [hdefinition]
  apply Reader.read_ofLines (opens_opening o t.name) hcloses
  · exact hlines.tells htells htells
  · exact hlines.forall_mem honeLine honeLine
  · exact fun l _ => rfl
  · split
    · cases o.style <;> decide
    · rfl

end TypeSketch.Python
