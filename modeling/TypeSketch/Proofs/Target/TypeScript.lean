-- TypeScript: the lines of an interface end in marks, also where a key without
-- quotes breaks its line. Optional properties have a question mark behind the key,
-- and with strict checks a type that holds the missing value too.
import TypeSketch.Proofs.Target.Line
import TypeSketch.Target.TypeScript

namespace TypeSketch.TypeScript

open Text Naming

/-! ## Lines -/

theorem solid_typeOf (o : Options) {s : Shape} (h : s.NamedByWord) : Solid (typeOf o s) := by
  have harray (n : String) (e : Shape) : typeOf o (.array n e) = "" ++ typeOf o e ++ "[]" := by
    rw [typeOf, String.empty_append]
  refine Shape.solid_wrapped harray (fun _ _ => rfl) (fun k => ?_) (by decide) (.inr (by decide)) h
  rw [typeOf]
  cases k with
  | null =>
    rw [scalarType]
    split <;> decide
  | _ => simp only [scalarType]; decide

/-- A key in quotes holds no control character, as they all are escaped. -/
theorem control_quotedKey {key : String} {c : Char}
    (h : c ∈ (String.ofList ('\'' :: keyBody key.toList ++ ['\''])).toList) : ¬ c.toNat < 0x20 := by
  rw [String.toList_ofList, keyBody, replaceOne] at h
  simp only [List.cons_append, List.mem_cons, List.mem_append, List.mem_flatMap, List.not_mem_nil,
    or_false] at h
  rcases h with rfl | ⟨d, hd, hc⟩ | rfl
  · decide
  · split at hc
    · rcases List.mem_pair.mp hc with rfl | rfl <;> decide
    · obtain rfl := List.mem_singleton.mp hc
      rcases mem_replacePair hd with hd | hd
      · rw [List.mem_singleton.mp hd]
        decide
      · exact not_control_of_mem_literalBody hd
  · decide

theorem oneLine_quotedKey (key : String) :
    OneLine (String.ofList ('\'' :: keyBody key.toList ++ ['\''])) :=
  fun h => control_quotedKey h (by decide)

theorem nearLine_propertyKey (key : String) : NearLine (propertyKey key) := by
  rw [propertyKey]
  split
  · rename_i h
    have hdollar (p : Char → Bool) (hp : ∀ c, p c = true → isBlank c = false) (c : Char)
        (hc : (p c || c == '$') = true) : isBlank c = false := by
      rw [Bool.or_eq_true, beq_iff_eq] at hc
      rcases hc with hc | rfl
      · exact hp c hc
      · decide
    apply nearLine_of_matchesName _ _ h
    · apply hdollar
      intro c hc
      exact isBlank_of_isWordChar ((isStartChar_iff c).mp hc).1
    · exact hdollar isWordChar fun c hc => isBlank_of_isWordChar hc
  · exact .inl (oneLine_quotedKey key)

theorem full_line (o : Options) {f : Field} (hf : f.2.NamedByWord) : Full (member o f).line := by
  have htype : OneLine (member o f).type := by
    rw [member, oneLine_append]
    refine ⟨(solid_typeOf o hf).1, ?_⟩
    split <;> decide
  have hbefore : OneLine ("  " ++ if (member o f).readonly then "readonly " else "") := by
    split <;> decide
  have hbehind : Solid ((if (member o f).optional then "?" else "") ++ ": " ++
      (member o f).type ++ ";") := by
    refine solid_append ?_ (by decide)
    rw [oneLine_append, oneLine_append]
    refine ⟨⟨?_, by decide⟩, htype⟩
    split <;> decide
  have hline := (nearLine_propertyKey f.1).full hbefore hbehind
  simp only [← String.append_assoc] at hline
  exact hline

theorem neat_definition (o : Options) {t : ObjectType} (hname : IsWord t.name)
    (ht : ∀ f ∈ t.fields, f.2.NamedByWord) : Neat (definition o t) := by
  have hexport : OneLine (if o.useExport then "export " else "") := by
    split <;> decide
  have hkeyword : OneLine
      (if o.useInterface then "interface " ++ t.name else "type " ++ t.name ++ " =") := by
    split <;> simp +decide [hname.oneLine]
  have hproperties : ∀ l ∈ (t.fields.map (member o)).map Member.line, Full l := by
    simp only [List.forall_mem_map]
    intro f hf
    exact full_line o (ht f hf)
  have hopen := Neat.last (solid_append (oneLine_append.mpr ⟨hexport, hkeyword⟩)
    (show Solid " \x7b" by decide)).full
  exact (hopen.append_full hproperties).concat _

/-! ## Optional properties -/

/-- The type of a property that may be missing. -/
def optionalType (o : Options) (type : String) : String :=
  if o.strictNullChecks then type ++ " | undefined" else type

/-- A property that may be missing. -/
def Member.optionally (o : Options) (m : Member) : Member :=
  { m with type := optionalType o m.type, optional := true }

theorem typeOf_optional (o : Options) (b : Bool) (s : Shape) :
    typeOf { o with optionalProperties := b } s = typeOf o s := by
  induction s with
  | scalar k => rfl
  | array n e ih => rw [typeOf, typeOf, ih]
  | object n fs => rfl

theorem member_optional (o : Options) (f : Field) :
    member { o with optionalProperties := true } f =
      (member { o with optionalProperties := false } f).optionally o := by
  simp only [member, Member.optionally, optionalType, typeOf_optional, Bool.true_and,
    Bool.false_and]
  split <;> simp

end TypeSketch.TypeScript
