-- Code by name. There are five ways to ask for the code of a document in some
-- language: at once, for a pair of language and record, from an emitter that was
-- set up, from one that tells warnings and facts as well, and for a sample text.
-- They agree.
import TypeSketch.Code.Setup
import TypeSketch.Proofs.Registry.Builtin

namespace TypeSketch

/-! ## Records of a language -/

theorem LanguageOptions.language_build [Machine] {l : Language} {es : List (String × Json)}
    {o : LanguageOptions} (h : LanguageOptions.build l es = .ok o) : o.language = l := by
  have of_map {R : Type} {wrap : R → LanguageOptions} {built : Except OptionError R}
      (h : wrap <$> built = .ok o) (hwrap : ∀ x, (wrap x).language = l) : o.language = l := by
    cases built with
    | error e => cases h
    | ok x => exact Except.ok.inj h ▸ hwrap x
  cases l <;> exact of_map h fun _ => rfl

namespace OptionRecord

/-- A record that is built for a language is one of its own. -/
theorem exists_of_build [Machine] {l : Language} {es : List (String × Json)} {given : OptionRecord}
    (h : OptionRecord.build (.of l) es = .ok given) :
    ∃ o : LanguageOptions, given = .of o ∧ o.language = l := by
  rw [OptionRecord.build] at h
  cases hbuilt : LanguageOptions.build l es with
  | error e =>
    rw [hbuilt] at h
    cases h
  | ok o =>
    rw [hbuilt] at h
    exact ⟨o, (Except.ok.inj h).symm, LanguageOptions.language_build hbuilt⟩

theorem forLanguage_of (o : LanguageOptions) :
    (OptionRecord.of o).forLanguage o.language = .ok o := by
  rw [forLanguage, if_pos rfl]

theorem give_of (o : LanguageOptions) : (OptionRecord.of o).give (.of o.language) = .ok o := by
  rw [give, forLanguage_of]
  rfl

theorem give_default (l : Language) :
    (OptionRecord.default (.of l)).give (.of l) = .ok (.default l) := by
  have h := give_of (.default l)
  rwa [LanguageOptions.language_default] at h

/-- Without entries the default record is built. -/
theorem build_nil [Machine] (e : Emitter) :
    OptionRecord.build e (merged [] []) = .ok (.default e) := by
  cases e with
  | plain => rfl
  | of l => cases l <;> rfl

theorem buildFrom_none [Machine] (d : Disk) (e : Emitter) (es : List (String × Json)) :
    buildFrom d e none es = Noted.ofExcept .option (build e (merged [] es)) := by
  simp [buildFrom]

/-- A record that is built from entries alone does not depend on the disk. -/
theorem build_of_buildFrom [Machine] {d : Disk} {e : Emitter} {es : List (String × Json)}
    {given : OptionRecord} (h : (buildFrom d e none es).outcome.1 = .ok given) :
    build e (merged [] es) = .ok given := by
  rw [buildFrom_none] at h
  cases hbuilt : build e (merged [] es) with
  | error err =>
    rw [hbuilt] at h
    cases h
  | ok r =>
    rw [hbuilt] at h
    exact congrArg _ (Except.ok.inj h)

end OptionRecord

theorem generateWith_of (o : LanguageOptions) (v : Json) :
    (generateWith o.language (.of o) v).outcome.1 = .ok (o.generation v) := by
  rw [generateWith, OptionRecord.forLanguage_of]
  rfl

namespace Registry

/-! ## Each way on its own -/

section

variable {r : Registry} {l : Language} {name : String} (h : r.emitter name = .ok (.of l))
include h

theorem setUp_defaults [Machine] (d : Disk) :
    r.setUp d name .defaults = pure (LanguageOptions.default l) := by
  simp [setUp, Noted.ofExcept, h, OptionRecord.give_default]

theorem setUp_record [Machine] (d : Disk) {o : LanguageOptions} (ho : o.language = l) :
    r.setUp d name (.record (.of o)) = pure o := by
  subst ho
  simp [setUp, Noted.ofExcept, h, OptionRecord.give_of]

theorem setUp_entries [Machine] (d : Disk) {es : List (String × Json)} {o : LanguageOptions}
    (hbuilt : OptionRecord.build (.of l) (OptionRecord.merged [] es) = .ok (.of o))
    (ho : o.language = l) : r.setUp d name (.entries es) = pure o := by
  subst ho
  simp [setUp, Noted.ofExcept, h, OptionRecord.buildFrom_none, hbuilt, OptionRecord.give_of]

theorem generate_none (v : Json) :
    r.generate name none v = .ok ((LanguageOptions.default l).generate v) := by
  simp [generate, h, bind, Except.bind, Except.mapError, OptionRecord.give_default,
    LanguageOptions.replacedBy, pure, Except.pure]

theorem generate_some {o : LanguageOptions} (ho : o.language = l) (v : Json) :
    r.generate name (some (.of o)) v = .ok (o.generate v) := by
  subst ho
  simp [generate, h, bind, Except.bind, Except.mapError, OptionRecord.give_default,
    LanguageOptions.replacedBy, LanguageOptions.language_default, OptionRecord.give_of, pure,
    Except.pure]

theorem generateSample_eq [Machine] {es : List (String × Json)} {o : LanguageOptions}
    (hbuilt : OptionRecord.build (.of l) (OptionRecord.merged [] es) = .ok (.of o))
    (ho : o.language = l) {text : String} {v : Json}
    (hv : Json.read (Machine.limits .sample) text = .ok v) :
    r.generateSample name es (.text text) = .ok (o.generate v) := by
  have hsetUp : (r.setUp {} name (.entries es)).outcome.1 = .ok o := by
    rw [setUp_entries h _ hbuilt ho]
    rfl
  simp [generateSample, Sample.read, hv, hsetUp, bind, Except.bind, Except.mapError, pure,
    Except.pure, LanguageOptions.generation]

end

/-- A pair holds the record that was given, if it is one of the language, or else the default
one. -/
theorem pair_eq {r : Registry} {l : Language} {name : String} (h : r.language name = .ok l)
    (htag : r.emitter l.tag = .ok (.of l)) (given : Option OptionRecord)
    (hgiven : ∀ x ∈ given, x.emitter = .of l) :
    r.pair name given = .ok (l, given.getD (.default (.of l))) := by
  have hown : (given.getD (.default (.of l))).emitter = .of l := by
    cases given with
    | none => simp [OptionRecord.default, OptionRecord.emitter, LanguageOptions.language_default]
    | some x => exact hgiven x rfl
  simp [pair, h, htag, bind, Except.bind, Except.mapError, hown, pure, Except.pure]

/-- A name leads to a language and to its own emitter, and so does the language's tag. -/
structure Serves (r : Registry) (l : Language) (name : String) : Prop where
  emitter : r.emitter name = .ok (.of l)
  language : r.language name = .ok l
  emitterOfTag : r.emitter l.tag = .ok (.of l)

theorem builtin_serves {l : Language} {name : String} (h : l.AskedBy name) :
    builtin.Serves l name :=
  ⟨emitter_builtin h, language_builtin h, emitter_builtin (askedBy_tag l)⟩

/-! ## The law -/

/-- All ways to ask for the code of a document succeed and give one text: at once and for a pair,
both with a record; from an emitter that is set up with entries; together with the warnings, from
one that is set up with a record; and for a sample text, with entries. The record and the entries
may be missing. -/
structure AllGive [Machine] (r : Registry) (d : Disk) (name : String)
    (entries : Option (List (String × Json))) (given : Option OptionRecord) (v : Json)
    (code : String) : Prop where
  atOnce : r.generate name given v = .ok code
  forPair : (do r.generateFor (← r.pair name given) v) = .ok code
  fromEmitter : ∃ o, (r.setUp d name (entries.elim .defaults .entries)).outcome.1 = .ok o ∧
    o.generate v = code
  withWarnings : ∃ o g, (r.setUp d name (given.elim .defaults .record)).outcome.1 = .ok o ∧
    (generateWith o.language (.of o) v).outcome.1 = .ok g ∧ g.code = code
  fromSample : ∀ text, Json.read (Machine.limits .sample) text = .ok v →
    r.generateSample name (entries.getD []) (.text text) = .ok code

section

variable {r : Registry} {l : Language} {name : String} (h : r.Serves l name) (d : Disk)
include h

theorem Serves.allGive [Machine] {es : List (String × Json)} {o : LanguageOptions}
    (hbuilt : OptionRecord.build (.of l) (OptionRecord.merged [] es) = .ok (.of o))
    (ho : o.language = l) (v : Json) :
    r.AllGive d name (some es) (some (.of o)) v (o.generate v) where
  atOnce := generate_some h.emitter ho v
  forPair := by
    have hpair := pair_eq h.language h.emitterOfTag (some (.of o))
      (by simp [OptionRecord.emitter, ho])
    simp only [hpair, bind, Except.bind]
    exact generate_some h.emitterOfTag ho v
  fromEmitter := ⟨o, congrArg (·.outcome.1) (setUp_entries h.emitter d hbuilt ho), rfl⟩
  withWarnings :=
    ⟨o, _, congrArg (·.outcome.1) (setUp_record h.emitter d ho), generateWith_of o v, rfl⟩
  fromSample _ hv := generateSample_eq h.emitter hbuilt ho hv

theorem Serves.allGive_defaults [Machine] (v : Json) :
    r.AllGive d name none none v ((LanguageOptions.default l).generate v) where
  atOnce := generate_none h.emitter v
  forPair := by
    have hpair := pair_eq h.language h.emitterOfTag none (by simp)
    simp only [hpair, bind, Except.bind]
    exact generate_some h.emitterOfTag (LanguageOptions.language_default l) v
  fromEmitter := ⟨_, congrArg (·.outcome.1) (setUp_defaults h.emitter d), rfl⟩
  withWarnings :=
    ⟨_, _, congrArg (·.outcome.1) (setUp_defaults h.emitter d), generateWith_of _ v, rfl⟩
  fromSample _ hv :=
    generateSample_eq h.emitter (o := .default l) (OptionRecord.build_nil (.of l))
      (LanguageOptions.language_default l) hv

end

/-- For every name of a language, in letters of any case and with blanks around it, every document
and all option entries from which a record is built: all ways to ask for code succeed and give the
same text. Without options they do so too, and the text is the one under the default record. -/
theorem every_way_to_ask_gives_the_same_code [Machine] {l : Language} {name : String}
    (h : l.AskedBy name) (d : Disk) {es : List (String × Json)} {given : OptionRecord}
    (hgiven : (OptionRecord.buildFrom d (.of l) none es).outcome.1 = .ok given) (v : Json) :
    (∃ code, builtin.AllGive d name (some es) (some given) v code) ∧
      ∃ code, builtin.AllGive d name none none v code ∧
        builtin.AllGive d name (some []) (some (.default (.of l))) v code := by
  have hserves := builtin_serves h
  have hbuilt := OptionRecord.build_of_buildFrom hgiven
  obtain ⟨o, rfl, ho⟩ := OptionRecord.exists_of_build hbuilt
  exact ⟨⟨_, hserves.allGive d hbuilt ho v⟩, _, hserves.allGive_defaults d v,
    hserves.allGive d (o := .default l) (OptionRecord.build_nil (.of l))
      (LanguageOptions.language_default l) v⟩

/-- One asks for Python in capital letters with blanks around them, and for one of its styles. -/
theorem the_ways_agree_on_a_pydantic_model :
    let name := " PY\n"
    let es : List (String × Json) := [("rootName", .str "Item"), ("style", .str "pydantic")]
    let given : OptionRecord := .of (.python { rootName := "Item", style := .pydantic })
    let v : Json := .obj [("is-active", .bool true)]
    Language.python.AskedBy name ∧
      (OptionRecord.buildFrom {} (.of .python) none es).outcome.1 = .ok given ∧
      (∃ code, builtin.AllGive {} name (some es) (some given) v code) ∧
      ∃ code, builtin.AllGive {} name none none v code ∧
        builtin.AllGive {} name (some []) (some (.default (.of .python))) v code := by
  intro name es given v
  have hname : Language.python.AskedBy name :=
    ⟨" ", "PY", "\n", by decide +kernel, by decide +kernel, by decide +kernel, by decide +kernel⟩
  have hgiven : (OptionRecord.buildFrom {} (.of .python) none es).outcome.1 = .ok given := by
    rfl
  exact ⟨hname, hgiven, every_way_to_ask_gives_the_same_code hname {} hgiven v⟩

end Registry

end TypeSketch
