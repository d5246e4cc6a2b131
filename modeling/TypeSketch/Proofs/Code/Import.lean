-- Imports of Python code, read back from the header. They are the names that the emitted
-- definitions use, each once, in the order of their modules and of the alphabet.
import TypeSketch.Proofs.Code.Emitted
import TypeSketch.Proofs.Target.Python

namespace TypeSketch.Python

open Text Naming Key

/-! ## Reading -/

/-- The items of an enumeration. -/
def itemsOf (s : List Char) : List String :=
  (piecesBy (· == ',') s).map fun w => String.ofList (w.dropWhile (· == ' '))

/-- The names that an import line takes from a module, with the module before each. -/
def importsAt (l : String) : List (String × String) :=
  ((after? "from " l.toList).bind fun r =>
    (after? " import " (r.dropWhile isWordChar)).map fun names =>
      (itemsOf names).map (firstWord r, ·)).getD []

/-- The names that the import lines of a text take from modules, in order. -/
def importsIn (s : String) : List (String × String) := (lines s).flatMap importsAt

theorem itemsOf_word {n : String} (h : IsWord n) : itemsOf n.toList = [n] := by
  obtain ⟨c, r, hn⟩ := List.exists_cons_of_ne_nil h.ne_nil
  have hpieces : piecesBy (· == ',') n.toList = [n.toList] := by
    apply piecesBy_eq_singleton
    intro d hd
    rw [beq_eq_false_iff_ne]
    rintro rfl
    exact h.not_mem (by decide) hd
  have hc : c ≠ ' ' := by
    rintro rfl
    exact h.not_mem (by decide) (hn ▸ List.mem_cons_self)
  rw [itemsOf, hpieces, List.map_singleton, hn, List.dropWhile_cons_of_neg (by simpa using hc),
    ← hn, String.ofList_toList]

theorem itemsOf_append {n : String} (h : IsWord n) (s : List Char) :
    itemsOf (n.toList ++ ',' :: ' ' :: s) = n :: itemsOf s := by
  have hspace : itemsOf (' ' :: s) = itemsOf s := by
    obtain ⟨w, ws, hw⟩ := List.exists_cons_of_ne_nil (piecesBy_ne_nil (· == ',') s)
    rw [itemsOf, itemsOf, piecesBy, hw]
    rfl
  have hword := itemsOf_word h
  rw [← hspace]
  rw [itemsOf] at hword ⊢
  rw [piecesBy_append (by rfl), List.map_append, hword]
  rfl

/-- Words with commas between them are the items. -/
theorem itemsOf_listed {names : List String} (hne : names ≠ []) (h : ∀ n ∈ names, IsWord n) :
    itemsOf (listed names).toList = names := by
  induction names with
  | nil => exact absurd rfl hne
  | cons n r ih =>
    rw [List.forall_mem_cons] at h
    cases r with
    | nil => simpa [listed] using itemsOf_word h.1
    | cons m r =>
      have hlisted : (listed (n :: m :: r)).toList =
          n.toList ++ ',' :: ' ' :: (listed (m :: r)).toList := by
        rw [listed, String.intercalate_cons_cons]
        simp [listed]
      rw [hlisted, itemsOf_append h.1, ih (List.cons_ne_nil m r) h.2]

theorem importsAt_line {source : String} (hsource : IsWord source) {names : List String}
    (hne : names ≠ []) (h : ∀ n ∈ names, IsWord n) :
    importsAt ("from " ++ source ++ " import " ++ listed names) = names.map (source, ·) := by
  have hline : ("from " ++ source ++ " import " ++ listed names).toList =
      "from ".toList ++ (source.toList ++ (" import ".toList ++ (listed names).toList)) := by
    simp
  have hspace (r : List Char) : " import ".toList ++ r = ' ' :: ("import ".toList ++ r) := rfl
  rw [importsAt, hline, after?_append, Option.bind_some, hspace,
    dropWhile_word hsource (by decide), firstWord_append hsource (by decide), ← hspace,
    after?_append, Option.map_some, Option.getD_some, itemsOf_listed hne h]

/-! ## Import lines -/

/-- The module and the name that stand for an import. -/
def Import.spelled : Import → String × String
  | dataclass => ("dataclasses", "dataclass")
  | field => ("dataclasses", "field")
  | any => ("typing", "Any")
  | notRequired => ("typing", "NotRequired")
  | typedDict => ("typing", "TypedDict")
  | baseModel => ("pydantic", "BaseModel")
  | modelField => ("pydantic", "Field")

/-- All imports, in the order in which the header has them. -/
def importOrder : List Import := importGroups.flatten.flatMap fun source => source.2.map Prod.fst

theorem mem_importOrder (i : Import) : i ∈ importOrder := by
  cases i <;> decide

/-- The modules and their names are words, and spelled as the imports are. -/
theorem importGroups_words : ∀ source ∈ importGroups.flatten, IsWord source.1 ∧
    ∀ n ∈ source.2, IsWord n.2 ∧ n.1.spelled = (source.1, n.2) := by
  have hall : ∀ source ∈ importGroups.flatten,
      (source.1.toList ≠ [] ∧ ∀ c ∈ source.1.toList, isWordChar c = true) ∧
        ∀ n ∈ source.2, (n.2.toList ≠ [] ∧ ∀ c ∈ n.2.toList, isWordChar c = true) ∧
          n.1.spelled = (source.1, n.2) := by
    decide
  exact fun source h => ⟨⟨(hall source h).1.1, (hall source h).1.2⟩, fun n hn =>
    ⟨⟨((hall source h).2 n hn).1.1, ((hall source h).2 n hn).1.2⟩, ((hall source h).2 n hn).2⟩⟩

/-- A line of the header tells the names of a module that are used, and there are some. -/
theorem importsAt_importLine? {used : List Import} {source : String × List (Import × String)}
    (h : source ∈ importGroups.flatten) {l : String} (hl : importLine? used source = some l) :
    OneLine l ∧ importsAt l ≠ [] ∧
      importsAt l = ((source.2.map Prod.fst).filter (· ∈ used)).map Import.spelled := by
  obtain ⟨hsource, hnames⟩ := importGroups_words source h
  have hspelled : ((source.2.map Prod.fst).filter (· ∈ used)).map Import.spelled =
      ((source.2.filter (·.1 ∈ used)).map (·.2)).map (source.1, ·) := by
    rw [List.filter_map, List.map_map, List.map_map]
    exact List.map_congr_left fun n hn => (hnames n (List.mem_filter.mp hn).1).2
  have hwords : ∀ name ∈ (source.2.filter (·.1 ∈ used)).map (·.2), IsWord name := by
    intro name hname
    obtain ⟨n, hn, rfl⟩ := List.mem_map.mp hname
    exact (hnames n (List.mem_filter.mp hn).1).1
  unfold importLine? at hl
  split at hl
  · cases hl
  · rename_i hne
    have hread := importsAt_line hsource hne hwords
    rw [← Option.some.inj hl]
    refine ⟨?_, ?_, hread.trans hspelled.symm⟩
    · have hlisted := oneLine_listed fun name hname => (hwords name hname).oneLine
      simp +decide [hsource.oneLine, hlisted]
    · rw [hread]
      exact mt List.map_eq_nil_iff.mp hne

/-- What is read from the line of a module, if there is one, are its names that are used. -/
theorem flatMap_importLine? (used : List Import) {source : String × List (Import × String)}
    (h : source ∈ importGroups.flatten) :
    (importLine? used source).toList.flatMap importsAt =
      ((source.2.map Prod.fst).filter (· ∈ used)).map Import.spelled := by
  cases hl : importLine? used source with
  | some l => rw [Option.toList_some, List.flatMap_singleton, (importsAt_importLine? h hl).2.2]
  | none =>
    unfold importLine? at hl
    split at hl
    · rename_i hnil
      have hfilter : (source.2.map Prod.fst).filter (· ∈ used) = [] := by
        rw [List.filter_map, List.map_eq_nil_iff]
        exact List.map_eq_nil_iff.mp hnil
      rw [hfilter]
      rfl
    · cases hl

theorem flatMap_importBlocks (used : List Import) : (importBlocks used).flatten.flatMap importsAt =
    (importOrder.filter (· ∈ used)).map Import.spelled := by
  rw [importBlocks, List.flatten_filter_not_isEmpty, ← List.filterMap_flatten,
    List.filterMap_eq_flatMap_toList, List.flatMap_assoc,
    List.flatMap_congr fun source h => flatMap_importLine? used h, importOrder,
    List.filter_flatMap, List.map_flatMap]

/-- Nothing is read from the empty lines between groups. -/
theorem flatMap_importsAt_intercalate (lss : List (List String)) :
    ([""].intercalate lss).flatMap importsAt = lss.flatten.flatMap importsAt := by
  have hempty : importsAt "" = [] := by decide
  induction lss with
  | nil => rfl
  | cons ls r ih =>
    cases r with
    | nil => simp
    | cons ms r =>
      rw [List.intercalate_cons_cons, List.flatMap_append, List.flatMap_append, ih,
        List.flatMap_singleton, hempty, List.append_nil, ← List.flatMap_append,
        ← List.flatten_cons]

theorem mem_intercalate_gap {l : String} {lss : List (List String)}
    (h : l ∈ [""].intercalate lss) : l = "" ∨ ∃ ls ∈ lss, l ∈ ls := by
  induction lss with
  | nil => cases h
  | cons ls r ih =>
    cases r with
    | nil => exact .inr ⟨ls, List.mem_cons_self, by simpa using h⟩
    | cons ms r =>
      rw [List.intercalate_cons_cons, List.mem_append, List.mem_append,
        List.mem_singleton] at h
      rcases h with (h | h) | h
      · exact .inr ⟨ls, List.mem_cons_self, h⟩
      · exact .inl h
      · exact (ih h).imp_right fun ⟨ks, hks, hl⟩ => ⟨ks, List.mem_cons_of_mem ls hks, hl⟩

/-! ## The header -/

section

variable (o : Options) (types : List ObjectType)

/-- The import of the style is always among those used. -/
theorem filter_importOrder_ne_nil : importOrder.filter (· ∈ usedImports o types) ≠ [] := by
  have hbase : o.style.base ∈ usedImports o types := List.mem_cons_self
  exact List.ne_nil_of_mem (List.mem_filter.mpr ⟨mem_importOrder _, by simpa using hbase⟩)

theorem importBlocks_ne_nil : importBlocks (usedImports o types) ≠ [] := by
  intro h
  have hread := flatMap_importBlocks (usedImports o types)
  rw [h, List.flatten_nil, List.flatMap_nil, eq_comm, List.map_eq_nil_iff] at hread
  exact filter_importOrder_ne_nil o types hread

/-- The header without the line breaks around it, as a neat text. -/
theorem trimBreaks_header : Neat ([""].intercalate (importBlocks (usedImports o types))) ∧
    trimBreaks (header o types) =
      unlines ([""].intercalate (importBlocks (usedImports o types))) := by
  have hblocks := neat_importBlocks (usedImports o types)
  have hneat := Neat.intercalate (importBlocks_ne_nil o types) hblocks
  rw [header, paragraphs_map_unlines fun ls hls => (hblocks ls hls).ne_nil]
  exact ⟨hneat, hneat.trimBreaks_append (by simp)⟩

theorem mem_importBlocks {l : String} {ls : List String} {used : List Import}
    (hls : ls ∈ importBlocks used) (hl : l ∈ ls) : OneLine l ∧ importsAt l ≠ [] := by
  obtain ⟨g, hg, rfl⟩ := List.mem_map.mp (List.mem_filter.mp hls).1
  obtain ⟨source, hsource, hl⟩ := List.mem_filterMap.mp hl
  have hread := importsAt_importLine? (List.mem_flatten.mpr ⟨g, hg, hsource⟩) hl
  exact ⟨hread.1, hread.2.1⟩

theorem lines_header : lines (trimBreaks (header o types)) =
    [""].intercalate (importBlocks (usedImports o types)) := by
  obtain ⟨hneat, hheader⟩ := trimBreaks_header o types
  rw [hheader, lines_unlines hneat.ne_nil, flatMap_lines]
  intro l hl
  rcases mem_intercalate_gap hl with rfl | ⟨ls, hls, hl⟩
  · decide
  · exact (mem_importBlocks hls hl).1

/-- Read back, the header is made of the names that are used, in order. -/
theorem importsIn_header : importsIn (trimBreaks (header o types)) =
    (importOrder.filter (· ∈ usedImports o types)).map Import.spelled := by
  rw [importsIn, lines_header, flatMap_importsAt_intercalate, flatMap_importBlocks]

theorem header_ne_empty : trimBreaks (header o types) ≠ "" := by
  have hempty : importsIn "" = [] := by decide
  intro h
  have hread := importsIn_header o types
  rw [h, hempty, eq_comm, List.map_eq_nil_iff] at hread
  exact filter_importOrder_ne_nil o types hread

/-- Every line of the header that is not empty is an import line. -/
theorem importsAt_of_mem_header {l : String} (h : l ∈ lines (trimBreaks (header o types))) :
    l = "" ∨ importsAt l ≠ [] := by
  rw [lines_header] at h
  exact (mem_intercalate_gap h).imp_right fun ⟨ls, hls, hl⟩ => (mem_importBlocks hls hl).2

end

/-! ## Use -/

/-- What the definitions of some types take from other modules. -/
inductive Needs (o : Options) (types : List ObjectType) : String × String → Prop
  | dataclass : o.style = .dataclass → Needs o types ("dataclasses", "dataclass")
  | typedDict : o.style = .typedDict → Needs o types ("typing", "TypedDict")
  | baseModel : o.style = .pydantic → Needs o types ("pydantic", "BaseModel")
  | any {t : ObjectType} {f : Field} : t ∈ types → f ∈ t.fields → f.2.innermost = .scalar .any →
      Needs o types ("typing", "Any")
  | notRequired {t : ObjectType} : o.style = .typedDict → o.optionalProperties = true →
      t ∈ types → t.fields ≠ [] → Needs o types ("typing", "NotRequired")
  | field {t : ObjectType} {f : Field} : o.style = .dataclass → t ∈ types → f ∈ t.fields →
      (member o f).Calls "field" → Needs o types ("dataclasses", "field")
  | modelField {t : ObjectType} {f : Field} : o.style = .pydantic → t ∈ types → f ∈ t.fields →
      (member o f).Calls "Field" → Needs o types ("pydantic", "Field")

/-- What is needed is what is used. -/
theorem needs_iff {o : Options} {types : List ObjectType} {n : String × String} :
    Needs o types n ↔ ∃ i ∈ usedImports o types, i.spelled = n := by
  constructor
  · have hmember {t : ObjectType} {f : Field} {i : Import} (ht : t ∈ types) (hf : f ∈ t.fields)
        (hi : i ∈ (member o f).imports) : i ∈ usedImports o types :=
      mem_usedImports_iff.mpr (.inr ⟨t, ht, f, hf, hi⟩)
    have hbase {i : Import} (hi : o.style.base = i) : i ∈ usedImports o types :=
      mem_usedImports_iff.mpr (.inl hi.symm)
    rintro (h | h | h | ⟨ht, hf, h⟩ | ⟨hs, ho, ht, hne⟩ | ⟨hs, ht, hf, h⟩ | ⟨hs, ht, hf, h⟩)
    · exact ⟨.dataclass, hbase (by rw [h]; rfl), rfl⟩
    · exact ⟨.typedDict, hbase (by rw [h]; rfl), rfl⟩
    · exact ⟨.baseModel, hbase (by rw [h]; rfl), rfl⟩
    · exact ⟨.any, hmember ht hf (mem_imports.mpr (.inl ⟨rfl, h⟩)), rfl⟩
    · obtain ⟨f, r, hf⟩ := List.exists_cons_of_ne_nil hne
      exact ⟨.notRequired, hmember ht (hf ▸ List.mem_cons_self)
        (mem_imports.mpr (.inr (.inl ⟨rfl, hs, ho⟩))), rfl⟩
    · exact ⟨.field, hmember ht hf (mem_imports.mpr (.inr (.inr (.inl ⟨rfl, hs, h⟩)))), rfl⟩
    · exact ⟨.modelField, hmember ht hf (mem_imports.mpr (.inr (.inr (.inr ⟨rfl, hs, h⟩)))), rfl⟩
  · rintro ⟨i, hi, rfl⟩
    rcases mem_usedImports_iff.mp hi with rfl | ⟨t, ht, f, hf, hi⟩
    · cases hs : o.style with
      | dataclass => exact .dataclass hs
      | typedDict => exact .typedDict hs
      | pydantic => exact .baseModel hs
    · rcases mem_imports.mp hi with ⟨rfl, h⟩ | ⟨rfl, hs, ho⟩ | ⟨rfl, hs, h⟩ | ⟨rfl, hs, h⟩
      · exact .any ht hf h
      · exact .notRequired hs ho ht (List.ne_nil_of_mem hf)
      · exact .field hs ht hf h
      · exact .modelField hs ht hf h

/-! ## The law -/

/-- The modules that come with the language. -/
def standardModules : List String := ["dataclasses", "typing"]

/-- The order of the imports is that of modules and names. -/
theorem importOrder_sorted : (importOrder.map Import.spelled).Nodup ∧
    (importOrder.map Import.spelled).Pairwise (fun a b =>
      (b.1 ∈ standardModules → a.1 ∈ standardModules) ∧ (a.1 = b.1 → a.2 < b.2)) := by
  decide

/-- Where some type is emitted, the code begins with the header and an empty line, and every line
of the header that is not empty is an import line. The header imports exactly what the emitted
definitions need, each name once: the class or the decorator of the style; the placeholder's type,
if a field's type ends in it; what marks a member as not required, if some typed dictionary has an
optional member; and the function that keeps keys, if some member calls it. Modules that come with
the language stand before the others, and the names of a module are sorted. -/
theorem the_header_imports_what_the_definitions_need (o : Options) (v : Json)
    (htypes : (LanguageOptions.python o).emitted v ≠ []) :
    let types := (LanguageOptions.python o).emitted v
    let head := trimBreaks (header o types)
    (∃ rest, (LanguageOptions.python o).generate v = head ++ "\n\n" ++ rest) ∧
      (∀ l ∈ lines head, l = "" ∨ importsAt l ≠ []) ∧
      (∀ n, n ∈ importsIn head ↔ Needs o types n) ∧ (importsIn head).Nodup ∧
      (importsIn head).Pairwise (fun a b => b.1 ∈ standardModules → a.1 ∈ standardModules) ∧
      (importsIn head).Pairwise fun a b => a.1 = b.1 → a.2 < b.2 := by
  intro types head
  have hsub : (importsIn head).Sublist (importOrder.map Import.spelled) := by
    rw [importsIn_header]
    exact List.filter_sublist.map _
  have hsorted := importOrder_sorted.2.sublist hsub
  refine ⟨?_, fun l hl => importsAt_of_mem_header o types hl, fun n => ?_,
    importOrder_sorted.1.sublist hsub, hsorted.imp fun h => h.1, hsorted.imp fun h => h.2⟩
  · obtain ⟨hneat, hheader⟩ := trimBreaks_header o types
    have hne : head ≠ "" := header_ne_empty o types
    have htypes' : ((LanguageOptions.python o).rootShape v).types = types :=
      (LanguageOptions.emitted_eq _ v).symm
    have hhead : trimBreaks ((LanguageOptions.python o).header types) = head := rfl
    have hdefinitions : types.map (LanguageOptions.python o).definition ≠ [] := by
      simpa using htypes
    rw [LanguageOptions.generate_eq (htypes' ▸ htypes), htypes', LanguageOptions.parts, hhead,
      if_neg hne, List.singleton_append, LanguageOptions.definitions_eq]
    exact NeatText.tidy_paragraphs ⟨_, hneat, hheader⟩ hdefinitions
  · rw [needs_iff, importsIn_header]
    simp [mem_importOrder]

/-- A model with an empty array and a renamed key: the placeholder's type comes first, and the
class and the function of the other module behind an empty line. -/
theorem an_empty_array_and_a_renamed_key_are_imported :
    let o : Options := { style := .pydantic }
    let v : Json := .obj [("userId", .null), ("items", .arr [.arr []])]
    let types := (LanguageOptions.python o).emitted v
    types ≠ [] ∧ ("typing", "Any") ∈ importsIn (trimBreaks (header o types)) ∧
      ("pydantic", "Field") ∈ importsIn (trimBreaks (header o types)) ∧
      ("dataclasses", "field") ∉ importsIn (trimBreaks (header o types)) := by
  intro o v types
  have hemitted : types =
      [⟨"Root", [("userId", .scalar .null),
        ("items", .array "Items" (.array "ItemsItem" (.scalar .any)))]⟩] :=
    (LanguageOptions.emitted_eq _ v).trans rfl
  have hne : types ≠ [] := by simp [hemitted]
  obtain ⟨-, -, hneeds, -⟩ := the_header_imports_what_the_definitions_need o v hne
  have hroot : ⟨"Root", [("userId", .scalar .null),
      ("items", .array "Items" (.array "ItemsItem" (.scalar .any)))]⟩ ∈ types := by
    rw [hemitted]
    exact List.mem_cons_self
  refine ⟨hne, (hneeds _).mpr ?_, (hneeds _).mpr ?_, fun h => ?_⟩
  · exact .any hroot (List.mem_cons_of_mem _ List.mem_cons_self) rfl
  · exact .modelField rfl hroot List.mem_cons_self ⟨"alias=\"userId\"", by decide +kernel⟩
  · have hneed := (hneeds _).mp h
    generalize hn : ("dataclasses", "field") = n at hneed
    cases hneed with
    | field hstyle => cases hstyle
    | _ => simp at hn

end TypeSketch.Python
