-- Which value an option gets. Entries come from the config file, from pairs or a
-- dictionary, and from the switches for the root name and for optional
-- properties, and an option may be spelled in several ways. One would want the
-- last entry for an option to count. What counts is the spelling that came up
-- last, with the last value under it; so a weaker source wins where it brought
-- up a spelling that the stronger ones had used before.
import TypeSketch.Proofs.Command.Act
import TypeSketch.Proofs.Options.File
import TypeSketch.Proofs.Options.Record
import TypeSketch.Proofs.Registry.ByName

namespace TypeSketch

open Setting

/-! ## Sources -/

/-- What decides the options of a record, the weaker first: the members of the config file, the
pairs or the entries of a dictionary, the name that one switch gives to the root type, and the
switch that makes properties optional. -/
structure OptionSources where
  file : List (String × Json) := []
  pairs : List (String × Json) := []
  rootName : Option String := none
  optional : Bool := false

namespace OptionSources

/-- The entries that the two switches make. -/
def switched (s : OptionSources) : List (String × Json) :=
  (s.rootName.toList.map fun n => ("root_name", .str n)) ++
    if s.optional then [("optional_properties", .bool true)] else []

/-- All entries in the order in which they are written. -/
def written (s : OptionSources) : List (String × Json) := s.file ++ s.pairs ++ s.switched

/-- The value that one of the two switches gives to an option. -/
def switch? (s : OptionSources) (name : String) : Option Json :=
  if name = "root_name" then s.rootName.map .str
  else if name = "optional_properties" ∧ s.optional = true then some (.bool true)
  else none

/-- The value for an option by precedence, in whatever spelling it is given: that of its switch,
else the last one of the pairs, else the last one of the file. -/
def preferred? (s : OptionSources) (name : String) : Option Json :=
  (s.switch? name).or ((lastFor name s.pairs).or (lastFor name s.file))

/-- The spelling of an option that is used last. -/
def lastSpelling? (s : OptionSources) (name : String) : Option String :=
  (s.written.map Prod.fst).findRev? fun k => keyName k == name

/-- The spelling of an option that comes up last: after it no new one is used. -/
def newestSpelling? (s : OptionSources) (name : String) : Option String :=
  (s.written.map Prod.fst).eraseDups.findRev? fun k => keyName k == name

/-- The last value under the newest spelling of an option. -/
def decisive? (s : OptionSources) (name : String) : Option Json :=
  (s.newestSpelling? name).bind fun k => Entries.last? k s.written

/-! ## Two ways to choose -/

/-- The last entry for an option has the last value under its spelling. -/
theorem lastFor_eq (name : String) (es : List (String × Json)) :
    lastFor name es =
      ((es.map Prod.fst).findRev? fun k => keyName k == name).bind fun k =>
        Entries.last? k es := by
  induction es using List.reverseRecOn with
  | nil => rfl
  | append_singleton es e ih =>
    rw [lastFor_append, lastFor_cons, List.map_append, List.findRev?_eq_find?_reverse,
      List.map_singleton, List.reverse_concat]
    by_cases he : keyName e.1 = name
    · rw [if_pos he, List.find?_cons_of_pos (by simpa using he), Option.bind_some,
        Entries.last?_concat, if_pos rfl]
      rfl
    · rw [if_neg he, List.find?_cons_of_neg (by simpa using he), ih,
        ← List.findRev?_eq_find?_reverse]
      refine Option.bind_congr fun k hk => ?_
      have hkey : keyName k = name := by
        rw [List.findRev?_eq_find?_reverse] at hk
        simpa using List.find?_some hk
      rw [Entries.last?_concat, if_neg]
      rintro rfl
      exact he hkey

/-- A switch gives one entry, in the spelling of the record. -/
theorem lastFor_switched (s : OptionSources) (name : String) :
    lastFor name s.switched = s.switch? name := by
  have hroot : keyName "root_name" = "root_name" := by decide +kernel
  have hoptional : keyName "optional_properties" = "optional_properties" := by decide +kernel
  have hname : lastFor name (s.rootName.toList.map fun n => ("root_name", .str n)) =
      if name = "root_name" then s.rootName.map .str else none := by
    cases s.rootName with
    | none => split <;> rfl
    | some n =>
      rw [Option.toList_some, List.map_singleton, lastFor_cons, hroot]
      simp only [eq_comm (a := name)]
      rfl
  have hflag : lastFor name (if s.optional then [("optional_properties", .bool true)] else []) =
      if name = "optional_properties" ∧ s.optional = true then some (.bool true) else none := by
    cases s.optional with
    | false => rw [if_neg (by simp), if_neg (by simp)]; rfl
    | true =>
      rw [if_pos rfl, lastFor_cons, hoptional]
      simp only [eq_comm (a := name), and_true]
      rfl
  rw [switched, lastFor_append, hname, hflag, switch?]
  by_cases h : name = "root_name"
  · subst h
    rw [if_neg (fun hopt => absurd hopt.1 (by decide)), if_pos rfl, Option.none_or]
  · rw [if_neg h, if_neg h, Option.or_none]

/-- The value by precedence is that of the last entry for the option. -/
theorem lastFor_written (s : OptionSources) (name : String) :
    lastFor name s.written = s.preferred? name := by
  rw [written, lastFor_append, lastFor_append, lastFor_switched, preferred?]

theorem preferred?_eq (s : OptionSources) (name : String) :
    s.preferred? name = (s.lastSpelling? name).bind fun k => Entries.last? k s.written := by
  rw [← lastFor_written, lastFor_eq, lastSpelling?]

/-- A table holds the decisive value of an option as the last one for it. -/
theorem lastFor_table (s : OptionSources) (name : String) :
    lastFor name (Entries.ofList s.written) = s.decisive? name := by
  rw [lastFor_eq, Entries.keys_ofList, decisive?, newestSpelling?]
  refine Option.bind_congr fun k _ => ?_
  rw [← Entries.get?_ofList, ← Entries.get?_ofList, Entries.ofList, Entries.putAll_ofList,
    Entries.ofList]

/-- The newest spelling is as good as the last one where it is used last. -/
theorem decisive?_eq_preferred? {s : OptionSources} {name : String}
    (h : s.newestSpelling? name = s.lastSpelling? name) :
    s.decisive? name = s.preferred? name := by
  rw [decisive?, preferred?_eq, h]

/-- Both ways choose a value for the same options. -/
theorem isSome_decisive? (s : OptionSources) (name : String) :
    (s.decisive? name).isSome = (s.preferred? name).isSome := by
  have hsome (es : List (String × Json)) :
      (lastFor name es).isSome = true ↔ ∃ k ∈ es.map Prod.fst, keyName k = name := by
    rw [lastFor, Option.isSome_map, List.findRev?_eq_find?_reverse, List.find?_isSome]
    simp
  rw [← lastFor_table, ← lastFor_written, Bool.eq_iff_iff, hsome, hsome, Entries.keys_ofList]
  simp only [List.mem_eraseDups]

end OptionSources

/-! ## Records -/

namespace OptionRecord

/-- The value of an option as a value of a document. -/
def value? (r : OptionRecord) (name : String) : Option Json :=
  (Entries.get? name r.values).map SettingValue.toJson

/-- A record that was built has the last value given for an option, or else the standard one. -/
theorem value?_build [Machine] {e : Emitter} {es : List (String × Json)} {r : OptionRecord}
    (h : build e es = .ok r) (name : String) :
    r.value? name = (lastFor name es).or ((default e).value? name) := by
  obtain ⟨R, settings, start, wrap, hmade⟩ := e.exists_madeOf
  rw [hmade.build] at h
  obtain ⟨built, hassigned, rfl⟩ := Except.map_eq_ok.mp h
  rw [value?, value?, ← hmade.default, hmade.values, hmade.values]
  exact hmade.independent.get?_values_assignAll hassigned name

theorem merged_ofList (members es : List (String × Json)) :
    merged (Entries.ofList members) es = Entries.ofList (members ++ es) :=
  (Entries.putAll_append [] members es).symm

/-- A record of an emitter follows its sources: an option has its decisive value, or else the
standard one. This is the value by precedence just where the two ways to choose agree, and they do
where the newest spelling is used last. -/
structure Follows (r : OptionRecord) (e : Emitter) (s : OptionSources) : Prop where
  decisive : ∀ name, r.value? name = (s.decisive? name).or ((default e).value? name)
  preferred_iff : ∀ name, r.value? name = (s.preferred? name).or ((default e).value? name) ↔
    s.decisive? name = s.preferred? name
  preferred : ∀ name, s.newestSpelling? name = s.lastSpelling? name →
    r.value? name = (s.preferred? name).or ((default e).value? name)

theorem follows_of_build [Machine] {e : Emitter} {s : OptionSources} {r : OptionRecord}
    (h : build e (Entries.ofList s.written) = .ok r) : r.Follows e s := by
  have hdecisive (name : String) :
      r.value? name = (s.decisive? name).or ((default e).value? name) := by
    rw [value?_build h, OptionSources.lastFor_table]
  refine ⟨hdecisive, fun name => ?_, fun name hname => ?_⟩
  · rw [hdecisive]
    have hsome := s.isSome_decisive? name
    -- Both choices are made or neither is, so the standard value comes in on both sides or none.
    cases hd : s.decisive? name <;> cases hp : s.preferred? name <;> simp_all
  · rw [hdecisive, OptionSources.decisive?_eq_preferred? hname]

end OptionRecord

/-! ## Entries from the command line -/

/-- The sources of the options under the arguments, with the members of their config file and the
entries of their pairs. -/
def Arguments.sources (a : Arguments) (file pairs : List (String × Json)) : OptionSources :=
  ⟨file, pairs, Operand.text? a.rootName, a.optional⟩

namespace Command

/-- Where no pair is nothing the texts are those of all pairs. -/
theorem given_pairTexts {ps : List (Operand String)} (h : ps.contains .nothing = false) :
    ps = (pairTexts ps).map .given := by
  induction ps with
  | nil => rfl
  | cons p ps ih =>
    cases p with
    | nothing => simp at h
    | given pair =>
      rw [pairTexts, List.map_cons, ← ih (by simpa using h)]

/-- Entries of pairs are those of the texts that were given, one after the other. -/
theorem pairEntries_eq_ok [Machine] {ps : List (Operand String)} {es : List (String × Json)}
    (h : pairEntries ps = .ok es) :
    ∃ (texts : List String) (pairs : List (String × Json)), ps = texts.map .given ∧
      texts.mapM overrideEntry = .ok pairs ∧ es = Entries.ofList pairs := by
  obtain ⟨entries, hentries, h⟩ := Except.bind_eq_ok.mp h
  obtain ⟨pairs, hpairs, hentries⟩ := Except.bind_eq_ok.mp (Except.mapError_eq_ok.mp hentries)
  cases hentries
  cases hnothing : ps.contains .nothing with
  | true =>
    rw [if_pos hnothing] at h
    cases h
  | false =>
    rw [hnothing, if_neg Bool.false_ne_true] at h
    exact ⟨pairTexts ps, pairs, given_pairTexts hnothing, hpairs, (Except.ok.inj h).symm⟩

/-- The entries that the arguments give are those of the pairs, and over them those of the two
switches. -/
theorem givenEntries_eq_ok [Machine] {a : Arguments} {es : List (String × Json)}
    (h : givenEntries a = .ok es) :
    ∃ (texts : List String) (pairs : List (String × Json)), a.overrides = texts.map .given ∧
      texts.mapM overrideEntry = .ok pairs ∧
      es = Entries.ofList (pairs ++ (a.sources [] pairs).switched) := by
  obtain ⟨table, htable, h⟩ := Except.bind_eq_ok.mp h
  obtain ⟨texts, pairs, htexts, hpairs, rfl⟩ := pairEntries_eq_ok htable
  refine ⟨texts, pairs, htexts, hpairs, ?_⟩
  have hover : Entries.ofList (pairs ++ (a.sources [] pairs).switched) =
      Entries.putAll (Entries.ofList pairs) (a.sources [] pairs).switched :=
    Entries.putAll_append [] _ _
  rw [hover, ← Except.ok.inj h, OptionSources.switched, Arguments.sources]
  cases Operand.text? a.rootName <;> cases a.optional <;> rfl

end Command

/-! ## The law -/

/-- A record from a file and further entries is built from the table of all of them. -/
theorem OptionRecord.build_written [Machine] {d : Disk} {e : Emitter} {file : Option String}
    {members es : List (String × Json)} {r : OptionRecord}
    (hfile : optionEntries d file = .ok (Entries.ofList members))
    (h : (buildFrom d e file es).outcome.1 = .ok r) :
    build e (Entries.ofList (members ++ es)) = .ok r := by
  rw [outcome_buildFrom, hfile] at h
  dsimp only at h
  rw [merged_ofList] at h
  exact Except.mapError_eq_ok.mp h

/-- A record can only be built where the file, if there is one, holds an object. -/
theorem OptionRecord.exists_members [Machine] {d : Disk} {e : Emitter} {file : Option String}
    {es : List (String × Json)} {r : OptionRecord}
    (h : (buildFrom d e file es).outcome.1 = .ok r) :
    ∃ members, optionEntries d file = .ok (Entries.ofList members) := by
  rw [outcome_buildFrom] at h
  cases hfile : optionEntries d file with
  | error err =>
    rw [hfile] at h
    cases h
  | ok base =>
    obtain ⟨members, rfl⟩ := table_of_optionEntries hfile
    exact ⟨members, rfl⟩

/-- Options under the arguments are a record built from the entries that the arguments give. -/
theorem Command.buildFrom_of_optionsFor [Machine] {a : Arguments} {l : Language} {s : Session}
    {o : LanguageOptions} (h : (runFrom (optionsFor a l) s).1 = .ok o) :
    ∃ es, givenEntries a = .ok es ∧
      (OptionRecord.buildFrom s.disk (.of l) (Operand.text? a.config) es).outcome.1 =
        .ok (.of o) := by
  rw [runFrom_optionsFor] at h
  cases hgiven : givenEntries a with
  | error e =>
    rw [hgiven] at h
    cases h
  | ok es =>
    rw [hgiven] at h
    obtain ⟨r, hbuilt, hgive⟩ := Except.bind_eq_ok.mp (Except.mapError_eq_ok.mp h)
    obtain ⟨members, hfile⟩ := OptionRecord.exists_members hbuilt
    obtain ⟨built, rfl, rfl⟩ :=
      OptionRecord.exists_of_build (OptionRecord.build_written hfile hbuilt)
    rw [OptionRecord.give_of] at hgive
    obtain rfl := Except.ok.inj hgive
    exact ⟨es, rfl, hbuilt⟩

/-- Whenever a record is built, from a file and a dictionary or under the arguments of the command
line, each of its options has the last value under the spelling of it that came up last, or else
the standard value. This is the value by precedence just where the two ways to choose agree. -/
theorem an_option_takes_its_newest_spelling [Machine] (d : Disk) (e : Emitter)
    (file : Option String) (custom : List (String × Json)) (a : Arguments) (l : Language) (s : Session) :
    (∀ r, (OptionRecord.buildFrom d e file custom).outcome.1 = .ok r →
      (∃ members, optionEntries d file = .ok (Entries.ofList members)) ∧
        ∀ members, optionEntries d file = .ok (Entries.ofList members) →
          r.Follows e { file := members, pairs := custom }) ∧
    ∀ o, (runFrom (Command.optionsFor a l) s).1 = .ok o →
      ∃ (texts : List String) (pairs : List (String × Json)),
        a.overrides = texts.map .given ∧ texts.mapM overrideEntry = .ok pairs ∧
        (∃ members, optionEntries s.disk (Operand.text? a.config) = .ok (Entries.ofList members)) ∧
        ∀ members, optionEntries s.disk (Operand.text? a.config) = .ok (Entries.ofList members) →
          (OptionRecord.of o).Follows (.of l) (a.sources members pairs) := by
  constructor
  · intro r h
    refine ⟨OptionRecord.exists_members h, fun members hfile => ?_⟩
    apply OptionRecord.follows_of_build
    simpa [OptionSources.written, OptionSources.switched] using
      OptionRecord.build_written hfile h
  · intro o h
    obtain ⟨es, hgiven, hbuilt⟩ := Command.buildFrom_of_optionsFor h
    obtain ⟨texts, pairs, htexts, hpairs, rfl⟩ := Command.givenEntries_eq_ok hgiven
    refine ⟨texts, pairs, htexts, hpairs, OptionRecord.exists_members hbuilt,
      fun members hfile => ?_⟩
    apply OptionRecord.follows_of_build
    have hbuild := OptionRecord.build_written hfile hbuilt
    rw [Entries.ofList, Entries.putAll_append, Entries.putAll_ofList] at hbuild
    rw [Entries.ofList, OptionSources.written, List.append_assoc, Entries.putAll_append]
    exact hbuild

/-- A record is built from a file and a dictionary, and one under the arguments of the command line;
both sources spell the name of the root type in their own way. -/
theorem a_new_spelling_wins_over_the_file :
    let d : Disk := { nodes := [(["c.json"], .file (Utf8.encode "\x7b\"root_name\": \"A\"\x7d"))] }
    let custom : List (String × Json) := [("rootName", .str "B")]
    let a : Arguments := { config := some (.given "c.json"), overrides := [.given "rootName=B"],
                           optional := true }
    let s : Session := { log := { least := .warning }, disk := d, reply := .timeout, input := "" }
    let r : OptionRecord := .of (.go { rootName := "B" })
    let o : LanguageOptions := .swift { rootName := "B", optionalProperties := true }
    (OptionRecord.buildFrom d (.of .go) (some "c.json") custom).outcome.1 = .ok r ∧
      (∃ members, optionEntries d (some "c.json") = .ok (Entries.ofList members) ∧
        r.Follows (.of .go) { file := members, pairs := custom }) ∧
      (runFrom (Command.optionsFor a .swift) s).1 = .ok o ∧
      ∃ members pairs, ["rootName=B"].mapM overrideEntry = .ok pairs ∧
        (OptionRecord.of o).Follows (.of .swift) (a.sources members pairs) := by
  intro d custom a s r o
  have hbuilt : (OptionRecord.buildFrom d (.of .go) (some "c.json") custom).outcome.1 = .ok r :=
    Except.eq_ok_of_toOption (by decide +kernel)
  have hoptions : (runFrom (Command.optionsFor a .swift) s).1 = .ok o :=
    Except.eq_ok_of_toOption (by decide +kernel)
  obtain ⟨⟨members, hmembers⟩, hfollows⟩ :=
    (an_option_takes_its_newest_spelling d (.of .go) (some "c.json") custom a .swift s).1 r hbuilt
  obtain ⟨texts, pairs, htexts, hpairs, ⟨found, hfound⟩, hgiven⟩ :=
    (an_option_takes_its_newest_spelling d (.of .go) (some "c.json") custom a .swift s).2 o hoptions
  obtain rfl : texts = ["rootName=B"] := by
    cases texts with
    | nil => cases htexts
    | cons text rest => cases rest <;> simp_all [a]
  exact ⟨hbuilt, ⟨members, hmembers, hfollows members hmembers⟩, hoptions, found, pairs, hpairs,
    hgiven found hfound⟩

/-- The root type gets its name from the file, though the switch gives one, where the file brings up
a spelling of its own behind that of the switch. -/
theorem a_switch_loses_to_the_file :
    let file := Utf8.encode "\x7b\"root_name\": \"A\", \"rootName\": \"B\"\x7d"
    let a : Arguments := { config := some (.given "c.json"), rootName := some (.given "C") }
    let d : Disk := { nodes := [(["c.json"], .file file)] }
    let s : Session := { log := { least := .warning }, disk := d, reply := .timeout, input := "" }
    let o : LanguageOptions := .typescript { rootName := "B" }
    (runFrom (Command.optionsFor a .typescript) s).1 = .ok o ∧
      (OptionRecord.of o).value? "root_name" = some (.str "B") ∧
      ∀ members pairs,
        (a.sources members pairs).preferred? "root_name" = some (.str "C") := by
  intro file a d s o
  exact ⟨Except.eq_ok_of_toOption (by decide +kernel), rfl, fun _ _ => rfl⟩

end TypeSketch
