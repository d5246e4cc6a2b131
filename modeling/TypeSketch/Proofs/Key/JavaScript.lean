-- Keys in JavaScript: the description of a property in the documentation block
-- tells a key that is not the property's name. The literal may hold a backslash
-- that keeps the block open, and it is read as if it were not there.
import TypeSketch.Proofs.Key.Reader
import TypeSketch.Proofs.Shape.Expression
import TypeSketch.Proofs.Text.Pair
import TypeSketch.Target.JavaScript

namespace TypeSketch.JavaScript

open Text Naming Json Key

/-! ## Literals in documentation blocks -/

/-- The inside of a literal, and its closing quote, where the end of a block is broken up. -/
def blockBody (s : List Char) : List Char :=
  replacePair '*' '/' ['*', '\\', '/'] (literalBody s ++ ['"'])

theorem blockBody_ne_nil (s : List Char) : blockBody s ≠ [] :=
  replacePair_ne_nil (by simp) (by simp)

theorem breakable_end : Breakable '*' '/' := ⟨by decide, by decide, by decide⟩

/-- A star before a slash is followed by a backslash. -/
theorem blockBody_end (s : List Char) :
    blockBody ('*' :: '/' :: s) = '*' :: '\\' :: '/' :: blockBody s :=
  brokenBody_pair breakable_end s

/-- Everything else is written as in any literal. -/
theorem blockBody_cons {c : Char} {s : List Char} (h : ∀ r, c :: s ≠ '*' :: '/' :: r) :
    blockBody (c :: s) = literalChar c ++ blockBody s :=
  brokenBody_cons breakable_end h

/-- A literal inside a block is read up to its closing quote. -/
theorem stringUnits_blockBody (start : Nat) (rest s : List Char) (pos : Nat) :
    ∃ at?, stringUnits start pos (blockBody s ++ rest) = .ok (s.map Char.toNat, ⟨at?, rest⟩) := by
  induction s using pairs_ind (a := '*') (b := '/') generalizing pos with
  | nil => exact ⟨_, rfl⟩
  | pair s ih =>
    obtain ⟨p, hp⟩ := ih (pos + 3)
    refine ⟨p, ?_⟩
    have hslash : stringUnits start (pos + 1) ('\\' :: '/' :: (blockBody s ++ rest)) =
        (stringUnits start (pos + 3) (blockBody s ++ rest)).map
          fun read => ('/'.toNat :: read.1, read.2) := rfl
    rw [blockBody_end, List.cons_append, stringUnits_plain (by decide) (by decide) (by decide)]
    rw [List.cons_append, List.cons_append, hslash, hp]
    rfl
  | cons c s hpair ih =>
    obtain ⟨p, hp⟩ := ih (pos + (literalChar c).length)
    refine ⟨p, ?_⟩
    rw [blockBody_cons hpair, List.append_assoc,
      stringUnits_literalChar c start pos (by simp [blockBody_ne_nil]), hp]
    rfl

theorem toList_commentLiteral (key : String) :
    (commentLiteral key).toList = '"' :: blockBody key.toList := by
  rw [commentLiteral, String.toList_ofList, toList_quote, replacePair_cons (by decide)]
  rfl

/-- A key in a block is read back, and the reading stops behind it. -/
theorem literalAt_commentLiteral (key : String) (rest : List Char) :
    literalAt ((commentLiteral key).toList ++ rest) = some (key, rest) := by
  obtain ⟨p, hp⟩ := stringUnits_blockBody 0 rest key.toList 1
  rw [toList_commentLiteral]
  simp only [List.cons_append, literalAt, readString, hp]
  simp [Except.map, joinUnits_toNat]

theorem oneLine_commentLiteral (key : String) : OneLine (commentLiteral key) := by
  rw [OneLine, commentLiteral, String.toList_ofList]
  intro h
  rcases mem_replacePair h with h | h
  · revert h
    decide
  · exact oneLine_quote key h

/-! ## Properties -/

theorem spelled_typeOf {s : Shape} (h : s.NamedByWord) :
    Shape.Spelled ['<', '>', '*'] (typeOf s) := by
  apply Shape.spelled_wrapped (fun _ _ => rfl) (fun _ _ => rfl) _ _ _ h
  · intro k
    cases k <;> decide
  · decide
  · decide

/-! ## Lines -/

/-- The property in a line of a documentation block. -/
def memberAt? (s : List Char) : Option Told :=
  (after? " * @property \x7b" s).bind fun r =>
    (after? "\x7d " (r.dropWhile (· != '\x7d'))).map fun r' =>
      ⟨firstWord r', (literalAfter? " - JSON key " (r'.dropWhile isWordChar)).map (·.1)⟩

/-- What follows the name in the description of a property. -/
def Member.tail (m : Member) : String :=
  match m.renamed with
  | some literal => " - JSON key " ++ literal
  | none => ""

theorem docLine_tail (m : Member) :
    m.docLine = " * @property \x7b" ++ m.type ++ "\x7d " ++ m.name ++ m.tail := rfl

theorem docLine_eq (m : Member) :
    m.docLine = " * @property \x7b" ++ (m.type ++ ("\x7d " ++ (m.name ++ m.tail))) := by
  rw [docLine_tail]
  simp only [String.append_assoc]

theorem tail_of (f : Field) : (member f).tail =
    if fieldName .camel f.1 = f.1 then "" else " - JSON key " ++ commentLiteral f.1 := by
  unfold fieldName
  by_cases h : convertKey .camel "_" "field" f.1 = f.1
  · simp [Member.tail, member, h]
  · simp [Member.tail, member, h]

/-- The description of a property tells its name, and the key where it is another text. -/
theorem memberAt?_docLine {f : Field} (hf : f.2.NamedByWord) :
    memberAt? (member f).docLine.toList = some (Told.of (fieldName .camel f.1) f.1) := by
  have hword := isWord_fieldName .camel f.1
  have htype : ∀ c ∈ (typeOf f.2).toList, (c != '\x7d') = true := by
    intro c hc
    rw [bne_iff_ne]
    rintro rfl
    exact (spelled_typeOf hf).not_mem (by decide) (by decide) hc
  have hline : (member f).docLine.toList = " * @property \x7b".toList ++ ((typeOf f.2).toList ++
      ("\x7d ".toList ++ ((fieldName .camel f.1).toList ++ (member f).tail.toList))) := by
    simp only [docLine_eq, String.toList_append]
    rfl
  have hdrop (r : List Char) :
      ("\x7d ".toList ++ r).dropWhile (· != '\x7d') = "\x7d ".toList ++ r := by
    simp
  rw [hline, memberAt?, after?_append, Option.bind_some, List.dropWhile_append_of_pos htype, hdrop,
    after?_append, Option.map_some, tail_of]
  by_cases h : fieldName .camel f.1 = f.1
  · rw [if_pos h, String.toList_empty, List.append_nil, firstWord_word hword,
      dropWhile_onlyWord hword, Told.of_same h]
    rfl
  · have htail : (" - JSON key " ++ commentLiteral f.1).toList =
        " - JSON key ".toList ++ ((commentLiteral f.1).toList ++ []) := by
      simp
    have hspace (r : List Char) : " - JSON key ".toList ++ r = ' ' :: ("- JSON key ".toList ++ r) :=
      rfl
    rw [if_neg h, htail, hspace, firstWord_append hword (by decide),
      dropWhile_word hword (by decide), ← hspace, literalAfter?, after?_append, Option.bind_some,
      literalAt_commentLiteral, Told.of_renamed h]
    rfl

theorem oneLine_docLine {f : Field} (hf : f.2.NamedByWord) : OneLine (member f).docLine := by
  have hname : OneLine (member f).name := (isWord_fieldName .camel f.1).oneLine
  have htype : OneLine (member f).type := (spelled_typeOf hf).oneLine (by decide)
  have htail : OneLine (member f).tail := by
    rw [tail_of]
    split
    · decide
    · simp +decide [oneLine_commentLiteral]
  rw [docLine_eq]
  simp +decide [hname, htype, htail]

/-- The end of a block describes no property. -/
theorem docLine_ne (m : Member) : (m.docLine == " */") = false := by
  rw [beq_eq_false_iff_ne, docLine_eq]
  intro h
  simpa using congrArg String.toList h

/-! ## Definitions -/

/-- The lines before the properties in the documentation of a type. -/
def opening (o : Options) (name : String) : List String :=
  ["/**", if o.useClass then " * @class " ++ name else " * @typedef \x7bObject\x7d " ++ name]

/-- The reader of JavaScript definitions. -/
def reader (o : Options) : Reader :=
  .ofLines (fieldName .camel) (opening o) (· == " */") (inlineLine memberAt?)

theorem identifier_reader (o : Options) : (reader o).identifier = fieldName .camel := by
  simp only [reader, Reader.ofLines]

theorem opens_opening (o : Options) (name : String) : Opens (opening o name) := by
  simp [opening, Opens]

theorem closes_brace {l : String} (h : l ∈ ["\x7d", "\x7d;"]) (ls : List String) :
    Closes (ls ++ [l]) := by
  have hall : ∀ l ∈ ["\x7d", "\x7d;"], OneLine l ∧ l ≠ "" := by decide
  exact closes_concat (hall l h).1 (hall l h).2 ls

theorem classLines_eq (o : Options) (name : String) (ms : List Member) :
    ∃ code, Closes code ∧ classLines o name ms =
      docBlock o ((" * @class " ++ name) :: ms.map Member.docLine) ++ code := by
  refine ⟨_, ?_, rfl⟩
  split
  · exact (closes_brace List.mem_cons_self ["  \x7d"]).append _
  · exact closes_brace List.mem_cons_self _

theorem templateLines_eq (o : Options) (name : String) (ms : List Member) :
    ∃ code, Closes code ∧ templateLines o name ms =
      docBlock o ((" * @typedef \x7bObject\x7d " ++ name) :: ms.map Member.docLine) ++ code := by
  refine ⟨_, ?_, List.append_assoc _ _ _⟩
  exact closes_brace (List.mem_cons_of_mem _ List.mem_cons_self) _

theorem closes_factoryLines (o : Options) (name : String) (ms : List Member) :
    Closes (factoryLines o name ms) :=
  (closes_brace List.mem_cons_self [_, _]).append _

theorem closes_validatorLines (o : Options) (name : String) (ms : List Member) :
    Closes (validatorLines o name ms) :=
  (closes_brace List.mem_cons_self [_]).append _

/-- A function may follow behind an empty line. -/
theorem closes_followed {ls ms : List String} (hls : Closes ls) (hms : Closes ms) (b : Bool) :
    Closes (ls ++ if b then "" :: ms else []) := by
  split
  · exact (hms.append [""]).append ls
  · rw [List.append_nil]
    exact hls

/-- With documentation a definition begins with the descriptions of all properties. -/
theorem definition_eq (o : Options) (hdoc : o.useJsDoc = true) (t : ObjectType) :
    ∃ code, Closes code ∧ definition o t =
      opening o t.name ++ ((t.fields.map fun f => (member f).docLine) ++ (" */" :: code)) := by
  by_cases h : o.useClass = true
  · obtain ⟨code, hcode, hlines⟩ := classLines_eq o t.name (t.fields.map member)
    have hfactory := closes_followed hcode (closes_factoryLines o t.name (t.fields.map member))
      o.generateFactory
    refine ⟨_, closes_followed hfactory (closes_validatorLines o t.name (t.fields.map member))
      o.generateValidator, ?_⟩
    simp [definition, h, hlines, docBlock, hdoc, opening]
  · obtain ⟨code, hcode, hlines⟩ := templateLines_eq o t.name (t.fields.map member)
    refine ⟨code, hcode, ?_⟩
    simp [definition, h, hlines, docBlock, hdoc, opening]

/-- With documentation a definition tells every key. -/
theorem read_definition (o : Options) (hdoc : o.useJsDoc = true) (t : ObjectType)
    (ht : ∀ f ∈ t.fields, f.2.NamedByWord) :
    (reader o).read t.name (trimBreaks (unlines (definition o t))) =
      t.fields.map fun f => Told.of (fieldName .camel f.1) f.1 := by
  obtain ⟨code, hcloses, hdefinition⟩ := definition_eq o hdoc t
  have hlines := sequenced_map fun f => (member f).docLine
  have htells : ∀ f ∈ t.fields, Tells (inlineLine memberAt?) [(member f).docLine]
      [Told.of (fieldName .camel f.1) f.1] :=
    fun f hf => tells_member (inlineLine_member (memberAt?_docLine (ht f hf)))
  have hall : ∀ f ∈ t.fields, ∀ l ∈ [(member f).docLine], OneLine l ∧ (l == " */") = false := by
    intro f hf l hl
    rw [List.mem_singleton.mp hl]
    exact ⟨oneLine_docLine (ht f hf), docLine_ne (member f)⟩
  rw [hdefinition]
  apply Reader.read_ofLines (opens_opening o t.name)
  · exact (hcloses.append [" */"]).append _
  · exact hlines.tells htells htells
  · exact fun l hl => (hlines.forall_mem hall hall l hl).1
  · exact fun l hl => (hlines.forall_mem hall hall l hl).2
  · rw [List.flatMap_cons, lines_oneLine (by decide), List.singleton_append,
      List.takeWhile_cons_of_neg (by decide)]
    rfl

end TypeSketch.JavaScript
