-- The structure of a shape and the text that stands for it. Shapes of one
-- structure have one text. The other way round this holds as long as the text
-- can be cut at the right places, which a key with a colon in it, or a first
-- key that begins with a closing brace, can spoil.
import TypeSketch.Proofs.Shape.Tree
import Mathlib.Data.List.Basic

namespace TypeSketch.Shape

/-! ## Likeness -/

mutual

/-- Whether two shapes have the same structure: scalars of one kind, arrays of items of one
structure, or objects with the same keys in the same order and fields of one structure. -/
def alike : Shape → Shape → Bool
  | scalar k, scalar l => k == l
  | array _ e, array _ e' => e.alike e'
  | object _ fs, object _ gs => alikeFields fs gs
  | _, _ => false

/-- Whether the fields of two objects have the same keys and structures in order. -/
def alikeFields : List Field → List Field → Bool
  | [], [] => true
  | (k, s) :: r, (l, t) :: r' => k == l && s.alike t && alikeFields r r'
  | _, _ => false

end

@[simp]
theorem alike_scalar {k l : Scalar} : (scalar k).alike (scalar l) = true ↔ k = l := by
  rw [alike, beq_iff_eq]

@[simp]
theorem alike_array {n m : String} {e e' : Shape} :
    (array n e).alike (array m e') = true ↔ e.alike e' = true := by
  rw [alike]

@[simp]
theorem alike_object {n m : String} {fs gs : List Field} :
    (object n fs).alike (object m gs) = true ↔ alikeFields fs gs = true := by
  rw [alike]

@[simp]
theorem alikeFields_cons {f g : Field} {fs gs : List Field} :
    alikeFields (f :: fs) (g :: gs) = true ↔
      (f.1 = g.1 ∧ f.2.alike g.2 = true) ∧ alikeFields fs gs = true := by
  rw [alikeFields, Bool.and_eq_true, Bool.and_eq_true, beq_iff_eq]

/-! ## One structure, one text -/

/-- The text of the fields that follow the first one, up to the closing brace. -/
def laterFields : List Field → List Char
  | [] => ['\x7d']
  | f :: r => ',' :: (f.1.toList ++ ':' :: (f.2.signature.toList ++ laterFields r))

/-- The text of all fields, up to the closing brace. -/
def allFields : List Field → List Char
  | [] => ['\x7d']
  | f :: r => f.1.toList ++ ':' :: (f.2.signature.toList ++ laterFields r)

theorem toList_signature_array (n : String) (e : Shape) :
    (array n e).signature.toList = '[' :: (e.signature.toList ++ [']']) := by
  simp [signature]

theorem toList_signature_object (n : String) (fs : List Field) :
    (object n fs).signature.toList = '\x7b' :: allFields fs := by
  have hlater (f : Field) (r : List Field) :
      (",".intercalate (signatures (f :: r))).toList ++ ['\x7d'] = allFields (f :: r) := by
    induction r generalizing f with
    | nil => simp [signatures, allFields, laterFields]
    | cons g r ih =>
      have := ih g
      simp only [signatures, String.toList_intercalate, List.map_cons,
        List.intercalate_cons_cons] at this ⊢
      simp_all [allFields, laterFields]
  cases fs with
  | nil => simp [signature, signatures, allFields]
  | cons f r =>
    rw [← hlater]
    simp [signature]

theorem signature_eq_of_alike {s t : Shape} (h : s.alike t = true) :
    s.signature = t.signature := by
  induction s generalizing t with
  | scalar k =>
    cases t with
    | scalar l => rw [alike_scalar.mp h]
    | _ => simp [alike] at h
  | array n e ih =>
    cases t with
    | array m e' => rw [signature, signature, ih (alike_array.mp h)]
    | _ => simp [alike] at h
  | object n fs ih =>
    cases t with
    | object m gs =>
      have hfields : signatures fs = signatures gs := by
        rw [alike_object] at h
        clear n m
        induction fs generalizing gs with
        | nil =>
          cases gs with
          | nil => rfl
          | cons g r' => simp [alikeFields] at h
        | cons f r ihr =>
          cases gs with
          | nil => simp [alikeFields] at h
          | cons g r' =>
            obtain ⟨⟨hk, hs⟩, hr⟩ := alikeFields_cons.mp h
            rw [signatures, signatures, hk, ih f List.mem_cons_self hs,
              ihr (fun f hf => ih f (List.mem_cons_of_mem _ hf)) _ hr]
      rw [signature, signature, hfields]
    | _ => simp [alike] at h

/-! ## One text, one structure -/

end TypeSketch.Shape

namespace TypeSketch

/-- Keys that let the text of an object be read back: none holds a colon, and the first one does
not begin with a closing brace. -/
structure ObjectType.ReadableKeys (t : ObjectType) : Prop where
  noColon : ∀ f ∈ t.fields, ':' ∉ f.1.toList
  noBrace : ∀ f ∈ t.fields.head?, f.1.toList.head? ≠ some '\x7d'

namespace Shape

/-- Every object in a shape has readable keys. -/
def Readable (s : Shape) : Prop := ∀ t : ObjectType, t.shape.Within s → t.ReadableKeys

theorem Readable.within {s e : Shape} (h : s.Readable) (he : e.Within s) : e.Readable :=
  fun t ht => h t (ht.trans he)

theorem Readable.item {n : String} {e : Shape} (h : (array n e).Readable) : e.Readable :=
  h.within (.item n (.here e))

theorem Readable.value {n : String} {fs : List Field} {f : Field} (h : (object n fs).Readable)
    (hf : f ∈ fs) : f.2.Readable :=
  h.within (.value n hf (.here f.2))

theorem Readable.keys {n : String} {fs : List Field} (h : (object n fs).Readable) :
    ObjectType.ReadableKeys ⟨n, fs⟩ := h ⟨n, fs⟩ (.here _)

/-- No tag is the beginning of another one, or of the text of an array or an object. -/
theorem tag_append_inj {k l : Scalar} {r r' : List Char}
    (h : k.tag.toList ++ r = l.tag.toList ++ r') : k = l ∧ r = r' := by
  cases k <;> cases l <;> simp_all [Scalar.tag]

theorem tag_append_ne {k : Scalar} {c : Char} {r r' : List Char} (hc : c = '[' ∨ c = '\x7b') :
    k.tag.toList ++ r ≠ c :: r' := by
  rcases hc with rfl | rfl <;> cases k <;> simp [Scalar.tag]

/-- Two texts that are one text up to the first colon are so also behind it. -/
theorem append_colon_inj {a b x y : List Char} (ha : ':' ∉ a) (hb : ':' ∉ b)
    (h : a ++ ':' :: x = b ++ ':' :: y) : a = b ∧ x = y := by
  induction a generalizing b with
  | nil =>
    cases b with
    | nil => exact ⟨rfl, (List.cons.inj h).2⟩
    | cons d b => exact absurd (List.cons.inj h).1 (fun hd => hb (hd ▸ List.mem_cons_self))
  | cons c a ih =>
    cases b with
    | nil => exact absurd (List.cons.inj h).1 (fun hc => ha (hc ▸ List.mem_cons_self))
    | cons d b =>
      obtain ⟨hcd, hrest⟩ := List.cons.inj h
      obtain ⟨hab, hxy⟩ := ih (fun hm => ha (List.mem_cons_of_mem _ hm))
        (fun hm => hb (List.mem_cons_of_mem _ hm)) hrest
      exact ⟨by rw [hcd, hab], hxy⟩

/-- The text of a shape ends where it ends: at the front of any text it determines the structure,
and the rest is the rest. -/
def SelfDelimiting (s : Shape) : Prop :=
  ∀ ⦃t : Shape⦄, t.Readable → ∀ ⦃r r' : List Char⦄,
    s.signature.toList ++ r = t.signature.toList ++ r' → s.alike t = true ∧ r = r'

/-- A field ends where its text ends, since its key ends at the first colon. -/
theorem field_cut {f g : Field} (hf : ':' ∉ f.1.toList) (hfs : f.2.SelfDelimiting)
    (hg : ':' ∉ g.1.toList) (hgs : g.2.Readable) {x y : List Char}
    (h : f.1.toList ++ ':' :: (f.2.signature.toList ++ x) =
      g.1.toList ++ ':' :: (g.2.signature.toList ++ y)) :
    (f.1 = g.1 ∧ f.2.alike g.2 = true) ∧ x = y := by
  obtain ⟨hk, hrest⟩ := append_colon_inj hf hg h
  obtain ⟨halike, hxy⟩ := hfs hgs hrest
  exact ⟨⟨String.toList_inj.mp hk, halike⟩, hxy⟩

theorem laterFields_cut {fs gs : List Field}
    (hfs : ∀ f ∈ fs, ':' ∉ f.1.toList ∧ f.2.SelfDelimiting)
    (hgs : ∀ g ∈ gs, ':' ∉ g.1.toList ∧ g.2.Readable) {r r' : List Char}
    (h : laterFields fs ++ r = laterFields gs ++ r') :
    alikeFields fs gs = true ∧ r = r' := by
  induction fs generalizing gs with
  | nil =>
    cases gs with
    | nil => exact ⟨by rw [alikeFields], (List.cons.inj h).2⟩
    | cons g gs => simp [laterFields] at h
  | cons f fs ih =>
    cases gs with
    | nil => simp [laterFields] at h
    | cons g gs =>
      rw [List.forall_mem_cons] at hfs hgs
      simp only [laterFields, List.cons_append, List.append_assoc, List.cons.injEq, true_and] at h
      obtain ⟨hfg, hrest⟩ := field_cut hfs.1.1 hfs.1.2 hgs.1.1 hgs.1.2 h
      obtain ⟨hfields, hr⟩ := ih hfs.2 hgs.2 hrest
      exact ⟨alikeFields_cons.mpr ⟨hfg, hfields⟩, hr⟩

/-- The text of an object without fields is not the beginning of one with a readable key. -/
theorem brace_ne_field {k r x : List Char} (hk : k.head? ≠ some '\x7d') :
    '\x7d' :: r ≠ k ++ ':' :: x := by
  cases k with
  | nil => simp
  | cons c k =>
    intro h
    exact hk (congrArg some (List.cons.inj h).1.symm)

theorem allFields_cut {fs gs : List Field}
    (hfs : ∀ f ∈ fs, ':' ∉ f.1.toList ∧ f.2.SelfDelimiting)
    (hgs : ∀ g ∈ gs, ':' ∉ g.1.toList ∧ g.2.Readable)
    (hf : ∀ f ∈ fs.head?, f.1.toList.head? ≠ some '\x7d')
    (hg : ∀ g ∈ gs.head?, g.1.toList.head? ≠ some '\x7d') {r r' : List Char}
    (h : allFields fs ++ r = allFields gs ++ r') :
    alikeFields fs gs = true ∧ r = r' := by
  cases fs with
  | nil =>
    cases gs with
    | nil => exact ⟨by rw [alikeFields], (List.cons.inj h).2⟩
    | cons g gs =>
      simp only [allFields, List.cons_append, List.append_assoc] at h
      exact absurd h (brace_ne_field (hg g rfl))
  | cons f fs =>
    cases gs with
    | nil =>
      simp only [allFields, List.cons_append, List.append_assoc] at h
      exact absurd h.symm (brace_ne_field (hf f rfl))
    | cons g gs =>
      rw [List.forall_mem_cons] at hfs hgs
      simp only [allFields, List.cons_append, List.append_assoc] at h
      obtain ⟨hfg, hrest⟩ := field_cut hfs.1.1 hfs.1.2 hgs.1.1 hgs.1.2 h
      obtain ⟨hfields, hr⟩ := laterFields_cut hfs.2 hgs.2 hrest
      exact ⟨alikeFields_cons.mpr ⟨hfg, hfields⟩, hr⟩

theorem selfDelimiting_of_readable {s : Shape} (hs : s.Readable) : s.SelfDelimiting := by
  induction s with
  | scalar k =>
    intro t ht r r' h
    cases t with
    | scalar l =>
      obtain ⟨hk, hr⟩ := tag_append_inj h
      exact ⟨alike_scalar.mpr hk, hr⟩
    | array m e' =>
      rw [toList_signature_array] at h
      exact absurd h (tag_append_ne (.inl rfl))
    | object m gs =>
      rw [toList_signature_object] at h
      exact absurd h (tag_append_ne (.inr rfl))
  | array n e ih =>
    intro t ht r r' h
    cases t with
    | scalar l =>
      rw [toList_signature_array] at h
      exact absurd h.symm (tag_append_ne (.inl rfl))
    | array m e' =>
      simp only [toList_signature_array, List.cons_append, List.append_assoc, List.cons.injEq,
        true_and] at h
      obtain ⟨he, hr⟩ := ih hs.item ht.item h
      exact ⟨alike_array.mpr he, (List.cons.inj hr).2⟩
    | object m gs => simp [toList_signature_array, toList_signature_object] at h
  | object n fs ih =>
    intro t ht r r' h
    cases t with
    | scalar l =>
      rw [toList_signature_object] at h
      exact absurd h.symm (tag_append_ne (.inr rfl))
    | array m e' => simp [toList_signature_array, toList_signature_object] at h
    | object m gs =>
      simp only [toList_signature_object, List.cons_append, List.cons.injEq, true_and] at h
      rw [alike_object]
      exact allFields_cut (fun f hf => ⟨hs.keys.noColon f hf, ih f hf (hs.value hf)⟩)
        (fun g hg => ⟨ht.keys.noColon g hg, ht.value hg⟩) hs.keys.noBrace ht.keys.noBrace h

/-- Among shapes with readable keys the text tells the structure exactly. -/
theorem signature_eq_iff_alike {s t : Shape} (hs : s.Readable) (ht : t.Readable) :
    s.signature = t.signature ↔ s.alike t = true :=
  ⟨fun h => (selfDelimiting_of_readable hs ht (congrArg (·.toList ++ []) h)).1,
    signature_eq_of_alike⟩

end Shape

end TypeSketch
