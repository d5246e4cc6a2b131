-- Object templates in JavaScript. The constant that holds one is named after the type in small
-- letters, so two types share it where their names are told apart by capitals alone.
import TypeSketch.Proofs.Code.Documented
import TypeSketch.Proofs.Naming.Case
import TypeSketch.Proofs.Naming.Convention
import TypeSketch.Proofs.Shape.Expression
import TypeSketch.Proofs.Shape.Named
import TypeSketch.Proofs.Shape.Order

namespace TypeSketch

open Text Naming

/-- A type that is kept stands somewhere in the shape. -/
theorem Shape.exists_at?_of_mem_types {t : ObjectType} {root : Shape} (h : t ∈ root.types) :
    ∃ p, root.at? p = some t.shape := by
  rw [types_eq] at h
  have hobject : t.shape ∈ root.objects := by
    rw [objects_eq]
    exact List.mem_map_of_mem (mem_of_mem_firstsBy h)
  have hsome : some t.shape ∈ root.objectPositions.map root.at? := by
    rw [← objects_at]
    exact List.mem_map_of_mem hobject
  obtain ⟨p, -, hp⟩ := List.mem_map.mp hsome
  exact ⟨p, hp⟩

/-! ## Names in small letters -/

/-- A text of word characters has no letters but those of ASCII. -/
theorem toSmall_word {s : String} (h : ∀ c ∈ s.toList, isWordChar c = true) :
    toSmall s = String.ofList (lowerWord s.toList) := by
  have hsmall (before : List Char) : ∀ {s : List Char}, (∀ c ∈ s, isWordChar c = true) →
      smallChars before s = lowerWord s := by
    intro s hs
    induction s generalizing before with
    | nil => rfl
    | cons c r ih =>
      rw [List.forall_mem_cons] at hs
      have hascii := toNat_lt_of_isWordChar hs.1
      have hsigma : c ≠ 'Σ' := by
        rintro rfl
        exact absurd hascii (by decide)
      rw [smallChars, if_neg hsigma, smallChar, if_pos hascii, ih (c :: before) hs.2]
      rfl
  rw [toSmall, hsmall [] h]

/-- The name that a type gets from a key, in small letters: the letters and digits of the key. -/
def smallTypeName (key : String) : String :=
  match lettersAndDigits key with
  | [] => "object"
  | c :: r => (if isDigit c then "_" else "") ++ String.ofList (lowerWord (c :: r))

/-- The marks of an item in small letters. -/
def smallMarks : Nat → String
  | 0 => ""
  | m + 1 => "item" ++ smallMarks m

theorem lowerWord_append (s t : List Char) : lowerWord (s ++ t) = lowerWord s ++ lowerWord t :=
  List.map_append

theorem lowerWord_itemMarks (m : Nat) : lowerWord (itemMarks m).toList = (smallMarks m).toList := by
  induction m with
  | zero => decide
  | succ m ih =>
    rw [itemMarks, smallMarks, String.toList_append, String.toList_append, lowerWord_append, ih]
    rfl

/-- Words joined in Pascal case are told by their letters alone. -/
theorem lowerWord_pascal {ws : List (List Char)} (h : ∀ w ∈ ws, SmallWord w) :
    lowerWord (NameCase.pascal.joinChars ws) = ws.flatten := by
  rw [NameCase.joinChars_capitalized (by decide), lowerWord, List.map_flatten]
  exact congrArg List.flatten
    ((NameCase.map_lowerWord_written .pascal ws).trans (map_lowerWord_of_small h))

theorem lowerWord_typeName (key : String) :
    lowerWord (typeName key).toList = (smallTypeName key).toList := by
  have hletters := flatten_smallWords key
  cases h : lettersAndDigits key with
  | nil =>
    rw [typeName, convertKey_of_none .pascal _ _ h, smallTypeName, h]
    decide
  | cons c r =>
    rw [h] at hletters
    have hsmall : ∀ w ∈ smallWords key, SmallWord w := fun _ => smallWord_of_mem
    obtain ⟨w, ws, hws⟩ : ∃ w ws, smallWords key = w :: ws := by
      refine List.exists_cons_of_ne_nil fun hnil => ?_
      rw [hnil] at hletters
      cases hletters
    have hfilled : Convention.typeNames.filled (smallWords key) = smallWords key := by
      rw [Convention.filled, if_neg (by simp [hws])]
      exact ite_self _
    have hdigit : (smallWords key).head?.any digitFirst = isDigit c := by
      have hw := (hsmall w (hws ▸ List.mem_cons_self)).ne_nil
      obtain ⟨d, w, rfl⟩ := List.exists_cons_of_ne_nil hw
      rw [hws] at hletters ⊢
      have hd : d = lowerChar c := (List.cons.inj hletters).1
      rw [← isDigit_lowerChar c, ← hd]
      rfl
    have hne : Convention.typeNames.filled (smallWords key) ≠ [] := by
      rw [hfilled, hws]
      exact List.cons_ne_nil w ws
    have hsplit : lowerWord (marked (smallWords key) (NameCase.pascal.joinChars (smallWords key))) =
        marked (smallWords key) (smallWords key).flatten := by
      rw [← lowerWord_pascal hsmall, marked, marked]
      split <;> rfl
    rw [typeName, Convention.governs_typeNames.identifier_eq hne,
      Convention.governs_typeNames.joinChars_parted (Convention.governs_typeNames.small_told key),
      hfilled, hsplit, hletters, marked, hdigit, smallTypeName, h]
    by_cases hc : isDigit c = true <;> simp [hc]

/-- The name of what is nested below a key, in small letters. -/
theorem toSmall_nested (key : String) (m : Nat) :
    toSmall (typeName key ++ itemMarks m) = smallTypeName key ++ smallMarks m := by
  have hword : ∀ c ∈ (typeName key ++ itemMarks m).toList, isWordChar c = true := by
    rw [String.toList_append, List.forall_mem_append]
    exact ⟨(isWord_typeName key).chars, isWordChar_of_mem_itemMarks m⟩
  rw [toSmall_word hword, ← String.toList_inj, String.toList_ofList, String.toList_append,
    lowerWord_append, lowerWord_typeName, lowerWord_itemMarks, String.toList_append]

namespace JavaScript

/-! ## Declarations -/

/-- The word that declares the variable of a template. -/
def Options.keyword (o : Options) : String := if o.useEs6 then "const " else "var "

/-- The line that declares the variable for the template of a type. -/
def Options.declaration (o : Options) (name : String) : String :=
  o.keyword ++ templateName name ++ " = \x7b"

/-- Whether a line declares a variable. -/
def Options.declares (o : Options) (l : String) : Bool := o.keyword.toList.isPrefixOf l.toList

theorem head?_append {s : String} {c : Char} (h : s.toList.head? = some c) (t : String) :
    (s ++ t).toList.head? = some c := by
  rw [String.toList_append, List.head?_append, h, Option.some_or]

theorem head?_keyword (o : Options) : o.keyword.toList.head? ∈ [some 'c', some 'v'] := by
  rw [Options.keyword]
  split <;> decide

/-- A line that is empty or begins with a blank or a mark declares nothing. -/
theorem not_declares (o : Options) {l : String}
    (h : l.toList.head? ∈ [none, some ' ', some '/', some '\x7d']) : o.declares l = false := by
  have hne : ∀ c ∈ [some 'c', some 'v'], ∀ d ∈ [none, some ' ', some '/', some '\x7d'], c ≠ d := by
    decide
  have hheads := hne _ (head?_keyword o) _ h
  rw [Bool.eq_false_iff, Options.declares, Ne, List.isPrefixOf_iff_prefix]
  rintro ⟨r, hr⟩
  rw [← hr, List.head?_append] at hheads
  cases hkeyword : o.keyword.toList.head? with
  | none => exact absurd (hkeyword ▸ head?_keyword o) (by decide)
  | some c => simp [hkeyword] at hheads

theorem declares_declaration (o : Options) (name : String) :
    o.declares (o.declaration name) = true := by
  rw [Options.declares, Options.declaration, String.append_assoc, String.toList_append,
    List.isPrefixOf_iff_prefix]
  exact List.prefix_append _ _

theorem filter_docBlock (o : Options) {body : List String}
    (h : ∀ l ∈ body, l.toList.head? = some ' ') :
    (docBlock o body).filter o.declares = [] := by
  rw [List.filter_eq_nil_iff]
  intro l hl
  rw [Bool.not_eq_true]
  apply not_declares
  rw [docBlock] at hl
  split at hl
  · rw [List.cons_append, List.mem_cons, List.mem_append, List.mem_singleton] at hl
    rcases hl with rfl | hl | rfl
    · decide
    · rw [h l hl]
      decide
    · decide
  · cases hl

/-- A template is one declaration. -/
theorem filter_templateLines (o : Options) (name : String) (ms : List Member) :
    (templateLines o name ms).filter o.declares = [o.declaration name] := by
  have hdoc : ∀ l ∈ (" * @typedef \x7bObject\x7d " ++ name) :: ms.map Member.docLine,
      l.toList.head? = some ' ' := by
    rw [List.forall_mem_cons, List.forall_mem_map]
    refine ⟨head?_append (by decide) name, fun m _ => ?_⟩
    exact head?_append (head?_append (head?_append (head?_append (by decide) _) _) _) _
  have hmembers : (ms.map fun m => "  " ++ m.name ++ ": " ++ templateValue m.shape ++ ",").filter
      o.declares = [] := by
    rw [List.filter_eq_nil_iff, List.forall_mem_map]
    intro m _
    have hhead : ("  " ++ m.name ++ ": " ++ templateValue m.shape ++ ",").toList.head? = some ' ' :=
      head?_append (head?_append (head?_append (head?_append (by decide) _) _) _) _
    rw [Bool.not_eq_true]
    apply not_declares
    rw [hhead]
    decide
  have hdeclares : o.declares ((if o.useEs6 = true then "const " else "var ") ++
      templateName name ++ " = \x7b") = true := declares_declaration o name
  have hlast : ["\x7d;"].filter o.declares = [] :=
    List.filter_cons_of_neg (by rw [not_declares o (by decide)]; decide)
  rw [templateLines, List.filter_append, List.filter_append, filter_docBlock o hdoc,
    List.filter_cons_of_pos hdeclares, hmembers, hlast]
  rfl

theorem definition_template {o : Options} (h : o.useClass = false) (t : ObjectType) :
    definition o t = templateLines o t.name (t.fields.map member) := by
  rw [definition, h]
  rfl

theorem filter_definitions {o : Options} (h : o.useClass = false) (types : List ObjectType) :
    (types.flatMap (definition o)).filter o.declares =
      types.map fun t => o.declaration t.name := by
  have hone (t : ObjectType) : (definition o t).filter o.declares = [o.declaration t.name] := by
    rw [definition_template h, filter_templateLines]
  rw [List.filter_flatMap, funext hone]
  exact (List.map_eq_flatMap ..).symm

/-! ## Declarations in the code -/

theorem solid_declaration (o : Options) {name : String} (h : OneLine name) :
    Solid (o.declaration name) := by
  have hkeyword : OneLine o.keyword := by
    rw [Options.keyword]
    split <;> decide
  have hsmall : OneLine (toSmall name) := fun hm => h (mem_of_mem_toSmall (by decide) hm)
  have htemplate : OneLine (templateName name) := oneLine_append.mpr ⟨hsmall, by decide⟩
  rw [Options.declaration]
  exact solid_append (oneLine_append.mpr ⟨hkeyword, htemplate⟩) (by decide)

theorem oneLine_templateLines (o : Options) {name : String} (hname : OneLine name)
    {fs : List Field} (hfs : ∀ f ∈ fs, f.2.NamedByWord) :
    ∀ l ∈ templateLines o name (fs.map member), OneLine l := by
  have hdescription : OneLine (" * @typedef \x7bObject\x7d " ++ name) :=
    oneLine_append.mpr ⟨by decide, hname⟩
  have hdoc : ∀ l ∈ docBlock o ((" * @typedef \x7bObject\x7d " ++ name) ::
      (fs.map member).map Member.docLine), OneLine l := by
    rw [docBlock]
    split
    · simp only [List.cons_append, List.forall_mem_cons, List.forall_mem_append,
        List.forall_mem_map]
      exact ⟨by decide, hdescription, fun f hf => oneLine_docLine (hfs f hf), by decide⟩
    · simp
  have hdeclaration : OneLine ((if o.useEs6 = true then "const " else "var ") ++
      templateName name ++ " = \x7b") := (solid_declaration o hname).1
  have hmembers : ∀ l ∈ (fs.map member).map fun m =>
      "  " ++ m.name ++ ": " ++ templateValue m.shape ++ ",", OneLine l := by
    simp only [List.forall_mem_map]
    intro f _
    simp +decide [(isWord_name f).oneLine, oneLine_templateValue]
  simp only [templateLines, List.forall_mem_append, List.forall_mem_cons]
  exact ⟨⟨hdoc, hdeclaration, hmembers⟩, by decide⟩

theorem declares_of_trimEnd {o : Options} {l : String} (h : o.declares (trimEnd l) = true) :
    o.declares l = true := by
  rw [Options.declares, List.isPrefixOf_iff_prefix] at h ⊢
  exact h.trans (prefix_of_trimEnd l)

section

variable {o : Options} (h : o.useClass = false) (hroot : OneLine o.rootName) {v : Json}
include hroot

theorem oneLine_name {t : ObjectType}
    (ht : t ∈ ((LanguageOptions.javascript o).rootShape v).types) : OneLine t.name :=
  Shape.not_mem_name_of_within (by decide) hroot (Shape.within_of_mem_types ht)

include h

/-- The text of a definition is cut into its lines again. -/
theorem filter_lines_definition {t : ObjectType}
    (ht : t ∈ ((LanguageOptions.javascript o).rootShape v).types) :
    (lines (trimBreaks (unlines (definition o t)))).filter o.declares =
      [o.declaration t.name] := by
  have hlines := oneLine_templateLines o (oneLine_name hroot ht) fun f hf =>
    Shape.namedByWord_of_within (Shape.within_of_mem_types ht) hf
  rw [lines_trimBreaks (opens_definition o t) (closes_definition o t), definition_template h,
    flatMap_lines hlines, filter_templateLines]

/-- Under a root that is named in one line, so is every declaration in the code. -/
theorem filter_lines_generate :
    (lines ((LanguageOptions.javascript o).generate v)).filter o.declares =
      ((LanguageOptions.javascript o).rootShape v).types.map fun t => o.declaration t.name := by
  have hempty : o.declares "" = false := not_declares o (by decide)
  by_cases htypes : ((LanguageOptions.javascript o).rootShape v).types = []
  · have hcode : (LanguageOptions.javascript o).generate v = "" :=
      LanguageOptions.code_eq_empty.mpr htypes
    rw [hcode, htypes, lines_oneLine (by decide), List.filter_cons_of_neg (by simp [hempty])]
    rfl
  have hparts : (lines (paragraphs ((LanguageOptions.javascript o).parts
      ((LanguageOptions.javascript o).rootShape v).types))).filter o.declares =
        ((LanguageOptions.javascript o).rootShape v).types.map fun t => o.declaration t.name := by
    rw [parts_eq, filter_lines_paragraphs hempty (by simpa using htypes), List.flatMap_map,
      List.map_eq_flatMap]
    exact List.flatMap_congr fun t ht => filter_lines_definition h hroot ht
  rw [LanguageOptions.generate_eq htypes, lines_tidy, filter_tidyLines hempty ?_ ?_, hparts]
  · intro l hl hdeclares
    have hmem := List.mem_filter.mpr ⟨hl, hdeclares⟩
    rw [hparts] at hmem
    obtain ⟨t, ht, rfl⟩ := List.mem_map.mp hmem
    exact (solid_declaration o (oneLine_name hroot ht)).trimEnd
  · exact fun l _ => declares_of_trimEnd

end

theorem templateName_eq_iff {s t : String} :
    templateName s = templateName t ↔ toSmall s = toSmall t :=
  String.append_left_inj "Template"

theorem declaration_eq_iff (o : Options) {s t : String} :
    o.declaration s = o.declaration t ↔ toSmall s = toSmall t := by
  rw [Options.declaration, Options.declaration, String.append_left_inj, String.append_right_inj,
    templateName_eq_iff]

/-! ## The law -/

/-- Without classes the definitions for a document declare one variable for each of its types, in
order, and nothing else; and under a root that is named in one line, so do the lines of the code.
The types have names of their own, and two of them share a variable if and only if their names are
the same in small letters. A type below the root is named after the nearest key, and of that name
only the letters and digits of the key are left, in small letters, with a mark for every array in
between; so the words of a key, and where they part, do not count. -/
theorem templates_are_told_apart_by_small_letters (o : Options) (h : o.useClass = false)
    (v : Json) :
    let types := ((LanguageOptions.javascript o).rootShape v).types
    (types.map ObjectType.name).Nodup ∧
      (types.flatMap (definition o)).filter o.declares =
        types.map (fun t => o.declaration t.name) ∧
      (OneLine o.rootName →
        (lines ((LanguageOptions.javascript o).generate v)).filter o.declares =
          types.map fun t => o.declaration t.name) ∧
      (∀ t ∈ types, ∀ u ∈ types,
        o.declaration t.name = o.declaration u.name ↔ toSmall t.name = toSmall u.name) ∧
      ((types.map fun t => o.declaration t.name).Nodup ↔
        (types.map fun t => toSmall t.name).Nodup) ∧
      ∀ t ∈ types, (∃ m, t.name = o.rootName ++ itemMarks m) ∨
        ∃ q es, ∃ i : Nat, ∃ key w m, v.at? q = some (.obj es) ∧ es[i]? = some (key, w) ∧
          t.name = typeName key ++ itemMarks m ∧
            toSmall t.name = smallTypeName key ++ smallMarks m := by
  intro types
  have hnames : (types.map ObjectType.name).Nodup := by
    simp only [types, Shape.types_eq]
    exact nodup_firstsBy _
  refine ⟨hnames, filter_definitions h types, fun hroot => filter_lines_generate h hroot,
    fun t _ u _ => declaration_eq_iff o, ?_, ?_⟩
  · simp only [List.Nodup, List.pairwise_map, Ne, declaration_eq_iff]
  · intro t ht
    obtain ⟨p, hp⟩ := Shape.exists_at?_of_mem_types ht
    rcases Shape.name_of_at? hp (by intro k hk; cases hk) with
      ⟨m, -, hname⟩ | ⟨q, es, i, key, w, m, -, hq, hi, hname⟩
    · exact .inl ⟨m, hname⟩
    · refine .inr ⟨q, es, i, key, w, m, hq, hi, hname, ?_⟩
      rw [← toSmall_nested, ← hname]
      rfl

/-- An item of an array and an object have types with names of their own, and one variable, which
the code declares twice. -/
theorem an_item_and_an_object_share_a_template :
    let o : Options := { useClass := false, useEs6 := false }
    let v : Json := .obj [("items", .arr [.obj []]), ("itemsitem", .obj [])]
    let types := ((LanguageOptions.javascript o).rootShape v).types
    o.useClass = false ∧ OneLine o.rootName ∧
      types.map ObjectType.name = ["ItemsItem", "Itemsitem", "Root"] ∧
      (lines ((LanguageOptions.javascript o).generate v)).filter o.declares =
        ["var itemsitemTemplate = \x7b", "var itemsitemTemplate = \x7b",
          "var rootTemplate = \x7b"] ∧
      ¬ (types.map fun t => o.declaration t.name).Nodup := by
  intro o v types
  obtain ⟨-, -, hlines, -, hnodup, -⟩ := templates_are_told_apart_by_small_letters o rfl v
  have hroot : OneLine o.rootName := by decide
  have hnames : types.map ObjectType.name = ["ItemsItem", "Itemsitem", "Root"] := by
    decide +kernel
  refine ⟨rfl, hroot, hnames, ?_, ?_⟩
  · rw [hlines hroot]
    decide +kernel
  · rw [hnodup]
    decide +kernel

/-- Two keys whose types differ in one capital. -/
theorem two_types_share_a_template :
    ¬ ∀ o : Options, o.useClass = false → ∀ v : Json,
      let types := ((LanguageOptions.javascript o).rootShape v).types
      (types.map ObjectType.name).Nodup → (types.map fun t => templateName t.name).Nodup := by
  intro h
  have hnodup := h { useClass := false } rfl (.obj [("ab", .obj []), ("a_b", .obj [])])
    (by decide +kernel)
  revert hnodup
  decide +kernel

end JavaScript

end TypeSketch
