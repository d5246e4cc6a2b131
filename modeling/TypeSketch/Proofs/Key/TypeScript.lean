-- Properties of TypeScript read back. A key stands bare or between single quotes, and no
-- key reaches over the mark behind it. So the text of a definition tells the name of its
-- object, and the keys and the type expressions of its fields in order.
import TypeSketch.Code.Emit
import TypeSketch.Proofs.Key.Word
import TypeSketch.Proofs.Target.TypeScript
import TypeSketch.Proofs.Text.Lexicon

namespace TypeSketch

open Text Naming Key

namespace TypeScript

/-! ## Keys in single quotes -/

/-- The escapes of TypeScript. -/
def escapes : Escapes where
  short := [('\'', '\''), ('"', '"'), ('\\', '\\'), ('b', '\x08'), ('f', '\x0c'), ('n', '\n'),
    ('r', '\r'), ('t', '\t'), ('v', '\x0b'), ('0', '\x00')]
  numerals := [{ letter := 'x', braced := false, least := 2, most := 2 },
    { letter := 'u', braced := false, least := 4, most := 4 }]

/-- The text of a single-quoted literal behind its opening quote and some characters that are read
already, and what stands behind the closing quote. -/
def readQuoted : Nat → List Char → Option (List Char × List Char)
  | _, [] => none
  | n + 1, _ :: r => readQuoted n r
  | 0, c :: r =>
    if c = '\'' then some ([], r)
    else if c = '\\' then
      (escapes.unescape? r).bind fun (d, n) => (readQuoted n r).map (Prod.map (d :: ·) id)
    else if c = '\n' ∨ c = '\r' then none
    else (readQuoted 0 r).map (Prod.map (c :: ·) id)

/-- The text of a single-quoted literal. -/
def unquoted? (s : String) : Option String :=
  match s.toList with
  | '\'' :: r =>
    match readQuoted 0 r with
    | some (t, []) => some (String.ofList t)
    | _ => none
  | _ => none

/-- A character between single quotes. -/
def quotedChar (c : Char) : List Char :=
  if c = '\'' then ['\\', '\''] else if c = '"' then ['"'] else literalChar c

/-- The double quotes lose their backslashes and no other character does. -/
theorem replacePair_literalBody (s : List Char) :
    replacePair '\\' '"' ['"'] (literalBody s) =
      s.flatMap fun c => if c = '"' then ['"'] else literalChar c := by
  induction s with
  | nil => rfl
  | cons c s ih =>
    rw [literalBody, List.flatMap_cons, ← literalBody, List.flatMap_cons, ← ih]
    by_cases hc : c = '"'
    · subst hc
      rfl
    · rw [if_neg hc, replacePair_append_of_head? (quote_notMem_literalChar hc)
        (head?_literalBody s)]

/-- Both replacements work on each character of a key alone. -/
theorem keyBody_eq (s : List Char) : keyBody s = s.flatMap quotedChar := by
  rw [keyBody, replacePair_literalBody, replaceOne, List.flatMap_assoc]
  congr 1
  funext c
  by_cases hsingle : c = '\''
  · subst hsingle
    decide
  by_cases hdouble : c = '"'
  · subst hdouble
    decide
  have hkept : ∀ d ∈ literalChar c, d ≠ '\'' := by
    rintro d hd rfl
    exact hsingle (eq_of_mem_literalChar (by decide) hd).1.symm
  rw [if_neg hdouble, quotedChar, if_neg hsingle, if_neg hdouble,
    List.flatMap_congr fun d hd => if_neg (hkept d hd), List.flatMap_singleton']

theorem readQuoted_passed (s r : List Char) : readQuoted s.length (s ++ r) = readQuoted 0 r := by
  induction s with
  | nil => rfl
  | cons c s ih => exact ih

/-- What stands for a character between single quotes is read as that character. -/
theorem readQuoted_quotedChar (c : Char) (r : List Char) :
    readQuoted 0 (quotedChar c ++ r) = (readQuoted 0 r).map (Prod.map (c :: ·) id) := by
  by_cases hsingle : c = '\''
  · subst hsingle
    rfl
  by_cases hdouble : c = '"'
  · subst hdouble
    rfl
  rw [quotedChar, if_neg hsingle, if_neg hdouble, literalChar_eq]
  by_cases hc : isEscaped c = true
  · have hknown : escapes.knows c = true :=
      of_isEscaped (P := fun c => escapes.knows c = true) (by decide) (by decide) (by decide) hc
    have hagrees : escapes.Agrees := by decide
    rw [if_pos hc, List.cons_append, readQuoted, if_neg (by decide), if_pos rfl,
      Escapes.unescape?_escapeOf hagrees hc, if_pos hknown]
    simp only [Option.bind_some, readQuoted_passed]
  · have hne {d : Char} (hd : isEscaped d = true) : c ≠ d := ne_of_not_isEscaped hc hd
    rw [if_neg hc, List.singleton_append, readQuoted, if_neg hsingle, if_neg (hne (by decide)),
      if_neg (not_or.mpr ⟨hne (by decide), hne (by decide)⟩)]

theorem readQuoted_keyBody (s r : List Char) :
    readQuoted 0 (keyBody s ++ '\'' :: r) = some (s, r) := by
  rw [keyBody_eq]
  induction s with
  | nil => rfl
  | cons c s ih =>
    rw [List.flatMap_cons, List.append_assoc, readQuoted_quotedChar, ih]
    rfl

theorem unquoted?_propertyKey {key : String} (h : isBareKey key = false) :
    unquoted? (propertyKey key) = some key := by
  have hchars : (propertyKey key).toList = '\'' :: (keyBody key.toList ++ ['\'']) := by
    simp [propertyKey, h]
  rw [unquoted?, hchars]
  simp only [readQuoted_keyBody, String.ofList_toList]

/-! ## Keys of properties -/

/-- The key of the property at the front of a text, and what stands behind it. A line break
directly behind a bare key is a part of it. -/
def keyAt? : List Char → Option (String × List Char)
  | '\'' :: r => (readQuoted 0 r).map (Prod.map String.ofList id)
  | s =>
    match s.dropWhile isKeyChar with
    | '\n' :: r => some (String.ofList (s.takeWhile isKeyChar ++ ['\n']), r)
    | r => some (String.ofList (s.takeWhile isKeyChar), r)

/-- Where no quote is, a key is read as a bare one. -/
theorem keyAt?_bare {s : List Char} (h : s.head? ≠ some '\'') :
    keyAt? s = match s.dropWhile isKeyChar with
      | '\n' :: r => some (String.ofList (s.takeWhile isKeyChar ++ ['\n']), r)
      | r => some (String.ofList (s.takeWhile isKeyChar), r) := by
  unfold keyAt?
  split
  · exact absurd rfl h
  · rfl

theorem isKeyChar_of_isKeyStart {c : Char} (h : isKeyStart c = true) : isKeyChar c = true := by
  simp only [isKeyStart, isKeyChar, Bool.or_eq_true, isStartChar_iff] at h ⊢
  exact h.imp_left And.left

/-- A key is read from its property, if a mark stands behind it. -/
theorem keyAt?_propertyKey (key : String) {c : Char} (hc : isKeyChar c = false) (hne : c ≠ '\n')
    (r : List Char) : keyAt? ((propertyKey key).toList ++ c :: r) = some (key, c :: r) := by
  by_cases h : isBareKey key = true
  · have hname {s : List Char} (hs : Headed isKeyStart isKeyChar s) :
        (∀ d ∈ s, isKeyChar d = true) ∧ ∀ t, (s ++ t).head? ≠ some '\'' := by
      obtain ⟨d, s, rfl, hd, hs⟩ := hs
      refine ⟨List.forall_mem_cons.mpr ⟨isKeyChar_of_isKeyStart hd, hs⟩, fun t ht => ?_⟩
      rw [Option.some.inj ht] at hd
      revert hd
      decide
    rw [propertyKey, if_pos h]
    rcases matchesName_toList_iff.mp h with hkey | ⟨t, ht, rfl⟩
    · obtain ⟨hchars, hhead⟩ := hname hkey
      rw [keyAt?_bare (hhead _), List.dropWhile_append_of_pos hchars,
        List.takeWhile_append_of_pos hchars, List.dropWhile_cons_of_neg (by simp [hc]),
        List.takeWhile_cons_of_neg (by simp [hc]), List.append_nil, String.ofList_toList]
      split
      · rename_i heq
        exact absurd (List.cons.inj heq).1 hne
      · rfl
    · obtain ⟨hchars, hhead⟩ := hname ht
      have hbreak : (t ++ "\n").toList ++ c :: r = t.toList ++ '\n' :: c :: r := by simp
      have hnot : ¬ isKeyChar '\n' = true := by decide
      rw [hbreak, keyAt?_bare (hhead _), List.dropWhile_append_of_pos hchars,
        List.takeWhile_append_of_pos hchars, List.dropWhile_cons_of_neg hnot,
        List.takeWhile_cons_of_neg hnot, List.append_nil]
      simp
  · rw [propertyKey, if_neg h, String.toList_ofList, List.cons_append, List.cons_append,
      List.append_assoc, List.singleton_append, keyAt?, readQuoted_keyBody]
    simp

theorem propertyKey_injective : Function.Injective propertyKey := by
  intro j k h
  have hj := keyAt?_propertyKey j (c := ':') (by decide) (by decide) []
  have hk := keyAt?_propertyKey k (c := ':') (by decide) (by decide) []
  rw [h, hk] at hj
  exact (congrArg Prod.fst (Option.some.inj hj)).symm

/-! ## Properties -/

/-- What stands before the key of a property. -/
def keyLead (o : Options) : String := "  " ++ if o.useReadonly then "readonly " else ""

/-- What stands between the key of a property and its type. -/
def keyMark (o : Options) : String := (if o.optionalProperties then "?" else "") ++ ": "

/-- The key and the type expression of the property at the front of a text, and what stands behind
them. -/
def propertyAt? (o : Options) (s : List Char) : Option ((String × String) × List Char) :=
  (after? (keyLead o) s).bind fun r =>
    (keyAt? r).bind fun (key, r) =>
      (after? (keyMark o) r).map fun r =>
        ((key, String.ofList (r.takeWhile (· != ';'))), r.dropWhile (· != ';'))

theorem spelled_typeOf (o : Options) {s : Shape} (h : s.NamedByWord) :
    Shape.Spelled ['[', ']'] (typeOf o s) := by
  have harray (n : String) (e : Shape) : typeOf o (.array n e) = "" ++ typeOf o e ++ "[]" := by
    rw [typeOf, String.empty_append]
  refine Shape.spelled_wrapped harray (fun _ _ => rfl) (fun k => ?_) (by decide) (by decide) h
  rw [typeOf]
  cases k with
  | null =>
    rw [scalarType]
    split <;> decide
  | _ => simp only [scalarType]; decide

theorem semicolon_notMem_type (o : Options) {f : Field} (hf : f.2.NamedByWord) :
    ';' ∉ (member o f).type.toList := by
  have htype : ';' ∉ (typeOf o f.2).toList := (spelled_typeOf o hf).not_mem (by decide) (by decide)
  rw [member, String.toList_append, List.mem_append, not_or]
  refine ⟨htype, ?_⟩
  split <;> decide

/-- The line of a property tells its key and its type expression. -/
theorem propertyAt?_line (o : Options) {f : Field} (hf : f.2.NamedByWord) (r : List Char) :
    propertyAt? o ((member o f).line.toList ++ r) =
      some ((f.1, (member o f).type), ';' :: r) := by
  have htype : ∀ c ∈ (member o f).type.toList, (c != ';') = true := fun c hc =>
    bne_iff_ne.mpr (ne_of_mem_of_not_mem hc (semicolon_notMem_type o hf))
  have hline : (member o f).line.toList ++ r =
      (keyLead o).toList ++ ((propertyKey f.1).toList ++
        ((keyMark o).toList ++ ((member o f).type.toList ++ ';' :: r))) := by
    have hline : (member o f).line =
        keyLead o ++ propertyKey f.1 ++ keyMark o ++ (member o f).type ++ ";" := by
      simp only [Member.line, keyLead, keyMark, String.append_assoc]
      rfl
    simp [hline]
  obtain ⟨c, m, hmark, hc, hne⟩ : ∃ c m, (keyMark o).toList = c :: m ∧ isKeyChar c = false ∧
      c ≠ '\n' := by
    unfold keyMark
    split
    · exact ⟨'?', [':', ' '], by decide, by decide, by decide⟩
    · exact ⟨':', [' '], by decide, by decide, by decide⟩
  have hkey := keyAt?_propertyKey f.1 hc hne (m ++ ((member o f).type.toList ++ ';' :: r))
  rw [← List.cons_append, ← hmark] at hkey
  rw [hline, propertyAt?, after?_append, Option.bind_some, hkey]
  simp only [Option.bind_some, after?_append, Option.map_some,
    List.takeWhile_append_of_pos htype, List.dropWhile_append_of_pos htype]
  simp

/-- What the lines of a definition tell of a field. -/
def told (o : Options) (f : Field) : String × String := (f.1, typeOf o f.2)

/-- The property that tells a key and a type expression. -/
def toldMember (o : Options) (p : String × String) : Member where
  key := propertyKey p.1
  type := p.2 ++ if o.optionalProperties && o.strictNullChecks then " | undefined" else ""
  optional := o.optionalProperties
  readonly := o.useReadonly

/-- The switches add the same text to all type expressions. -/
theorem told_eq_iff (o : Options) (f g : Field) :
    (f.1, (member o f).type) = (g.1, (member o g).type) ↔ told o f = told o g := by
  simp [told, member]

/-! ## Definitions -/

/-- The lines of properties with a line break behind each, then the end of the definition. -/
def written (o : Options) (fs : List Field) : List Char :=
  fs.flatMap (fun f => (member o f).line.toList ++ ['\n']) ++ ['\x7d', '\n']

theorem head?_line (o : Options) (f : Field) : (member o f).line.toList.head? = some ' ' := by
  simp [Member.line]

/-- Properties that are written alike tell the same. -/
theorem told_eq_of_written_eq (o : Options) {fs gs : List Field}
    (hfs : ∀ f ∈ fs, f.2.NamedByWord) (hgs : ∀ g ∈ gs, g.2.NamedByWord)
    (h : written o fs = written o gs) : fs.map (told o) = gs.map (told o) := by
  have hne (f : Field) (r : List Field) : written o (f :: r) ≠ ['\x7d', '\n'] := by
    intro heq
    have hhead := congrArg List.head? heq
    simp [written, head?_line] at hhead
  have hcons (f : Field) (r : List Field) :
      written o (f :: r) = (member o f).line.toList ++ '\n' :: written o r := by
    simp [written]
  induction fs generalizing gs with
  | nil =>
    cases gs with
    | nil => rfl
    | cons g gs => exact absurd h.symm (hne g gs)
  | cons f fs ih =>
    cases gs with
    | nil => exact absurd h (hne f fs)
    | cons g gs =>
      rw [List.forall_mem_cons] at hfs hgs
      have hread := congrArg (propertyAt? o) h
      rw [hcons, hcons, propertyAt?_line o hfs.1, propertyAt?_line o hgs.1] at hread
      obtain ⟨hfirst, hrest⟩ := Prod.mk.inj (Option.some.inj hread)
      rw [List.map_cons, List.map_cons, (told_eq_iff o f g).mp hfirst,
        ih hfs.2 hgs.2 (List.cons.inj (List.cons.inj hrest).2).2]

/-- What stands before the name of a type. -/
def nameLead (o : Options) : String :=
  (if o.useExport then "export " else "") ++ if o.useInterface then "interface " else "type "

/-- What stands behind the name of a type. -/
def nameMark (o : Options) : String := if o.useInterface then " \x7b" else " = \x7b"

theorem toList_definition (o : Options) {t : ObjectType} :
    (trimBreaks (unlines (definition o t))).toList ++ ['\n'] =
      (nameLead o).toList ++
        (t.name.toList ++ ((nameMark o).toList ++ '\n' :: written o t.fields)) := by
  have hopens : Opens (definition o t) := by
    unfold definition layout Opens
    cases o.useExport <;> cases o.useInterface <;> simp
  have hcloses : Closes (definition o t) := closes_concat (by decide) (by decide) _
  have hbreak := congrArg String.toList (unlines_break hopens.ne_nil)
  rw [trimBreaks_unlines hopens hcloses]
  rw [String.toList_append] at hbreak
  refine hbreak.trans ?_
  unfold definition layout nameLead nameMark written
  cases o.useExport <;> cases o.useInterface <;> simp [String.toList_join, List.flatMap_map]

/-- A definition tells the name of its type and all its properties. -/
theorem definition_eq_iff (o : Options) {t u : ObjectType} (htname : IsWord t.name)
    (huname : IsWord u.name) (ht : ∀ f ∈ t.fields, f.2.NamedByWord)
    (hu : ∀ f ∈ u.fields, f.2.NamedByWord) :
    trimBreaks (unlines (definition o t)) = trimBreaks (unlines (definition o u)) ↔
      t.name = u.name ∧ t.fields.map (told o) = u.fields.map (told o) := by
  constructor
  · intro h
    obtain ⟨c, m, hmark, hc⟩ : ∃ c m, (nameMark o).toList = c :: m ∧ isWordChar c = false := by
      unfold nameMark
      split
      · exact ⟨' ', ['\x7b'], by decide, by decide⟩
      · exact ⟨' ', ['=', ' ', '\x7b'], by decide, by decide⟩
    have hchars := congrArg (fun s => s.toList ++ ['\n']) h
    simp only [toList_definition, hmark, List.cons_append] at hchars
    have hbehind := List.append_cancel_left hchars
    have hname := congrArg firstWord hbehind
    rw [firstWord_append htname hc, firstWord_append huname hc] at hname
    rw [hname] at hbehind
    have hmarked := (List.cons.inj (List.append_cancel_left hbehind)).2
    have hwritten := (List.cons.inj (List.append_cancel_left hmarked)).2
    exact ⟨hname, told_eq_of_written_eq o ht hu hwritten⟩
  · rintro ⟨hname, hfields⟩
    have hmember (fs : List Field) : fs.map (member o) = (fs.map (told o)).map (toldMember o) := by
      rw [List.map_map]
      rfl
    rw [definition, definition, hname, hmember, hmember, hfields]

/-- For all options, any two documents and an object in each whose name is a word: their definitions
are the same text if and only if the two have the same name, the same keys in the same order and
the same type expression for each key. So no two keys are written alike, and undoing the escapes
between the quotes gives back every key that is not bare. -/
theorem a_definition_determines_its_object (o : Options) (rootName rootName' : String) (v w : Json)
    (t u : ObjectType) (ht : t.shape.Within (Shape.infer rootName v))
    (hu : u.shape.Within (Shape.infer rootName' w)) (htname : IsWord t.name)
    (huname : IsWord u.name) :
    ((LanguageOptions.typescript o).definition t = (LanguageOptions.typescript o).definition u ↔
        t.name = u.name ∧ (t.fields.map fun f => (f.1, typeOf o f.2)) =
          u.fields.map fun f => (f.1, typeOf o f.2)) ∧
      Function.Injective propertyKey ∧
      ∀ key, isBareKey key = false → unquoted? (propertyKey key) = some key :=
  ⟨definition_eq_iff o htname huname (fun _ hf => Shape.namedByWord_of_within ht hf)
      fun _ hf => Shape.namedByWord_of_within hu hf,
    propertyKey_injective, fun _ h => unquoted?_propertyKey h⟩

/-- Two keys of quotes and backslashes, in objects of one name, are told apart. -/
theorem quotes_and_backslashes_are_told_apart :
    let v : Json := .obj [("it's \"\\", .null)]
    let w : Json := .obj [("it's \\\"", .null)]
    let t : ObjectType := ⟨"Root", [("it's \"\\", .scalar .null)]⟩
    let u : ObjectType := ⟨"Root", [("it's \\\"", .scalar .null)]⟩
    t.shape.Within (Shape.infer "Root" v) ∧ u.shape.Within (Shape.infer "Root" w) ∧
      IsWord t.name ∧ IsWord u.name ∧
      isBareKey "it's \"\\" = false ∧ propertyKey "it's \"\\" = "'it\\'s \"\\\\'" ∧
      unquoted? "'it\\'s \"\\\\'" = some "it's \"\\" ∧
      (LanguageOptions.typescript {}).definition t ≠
        (LanguageOptions.typescript {}).definition u := by
  intro v w t u
  have ht : t.shape.Within (Shape.infer "Root" v) := .here _
  have hu : u.shape.Within (Shape.infer "Root" w) := .here _
  have hname : IsWord "Root" := ⟨by decide, by decide⟩
  have hbare : isBareKey "it's \"\\" = false := by decide
  have hkey : propertyKey "it's \"\\" = "'it\\'s \"\\\\'" := by decide
  obtain ⟨hdefinition, -, hquoted⟩ :=
    a_definition_determines_its_object {} "Root" "Root" v w t u ht hu hname hname
  refine ⟨ht, hu, hname, hname, hbare, hkey, hkey ▸ hquoted _ hbare, fun h => ?_⟩
  have hfields := (hdefinition.mp h).2
  revert hfields
  decide

end TypeScript

end TypeSketch
