/-
  What it means that a value conforms to a type.

  `conforms_of_satisfies` is the soundness of the slot check: a value of a type that satisfies
  another belongs to that other type, too.  `conforms_unionOf` reads the flattened and sorted
  unions member by member.  The last part says which form a value has that conforms to the type of
  a slot; the conversions of `Draw/Convert` succeed on exactly these forms.
-/
import SyntheticTables.Proofs.Checks
import SyntheticTables.Draw.Convert

namespace SyntheticTables

/-- Kinds below kinds below a kind are below it; there is only one proper step, from integers to
    floats. -/
theorem Nominal.isBelow_trans {a b c : Nominal} (hab : a.isBelow b = true)
    (hbc : b.isBelow c = true) : a.isBelow c = true := by
  simp only [isBelow, Bool.or_eq_true, decide_eq_true_eq, Bool.and_eq_true] at *
  rcases hab with rfl | ⟨rfl, rfl⟩
  · exact hbc
  · rcases hbc with rfl | ⟨h, -⟩
    · exact .inr ⟨rfl, rfl⟩
    · cases h

/-! ## The members of a union -/

namespace TypeDesc

/-- Putting a type into a sorted list adds it, if it was not there. -/
theorem mem_insert {a x : TypeDesc} {ts : List TypeDesc} :
    x ∈ insert a ts ↔ x = a ∨ x ∈ ts := by
  induction ts with
  | nil => simp [insert]
  | cons b rest ih =>
    unfold insert
    split
    · simp
    · rename_i heq
      rw [compare_eq_iff] at heq
      subst heq
      simp
    · simp only [List.mem_cons, ih]
      exact or_left_comm

/-- Sorting the members of a union loses none and adds none. -/
theorem mem_foldr_insert {x : TypeDesc} {ts : List TypeDesc} :
    x ∈ ts.foldr insert [] ↔ x ∈ ts := by
  induction ts with
  | nil => simp
  | cons a rest ih => simp [mem_insert, ih]

end TypeDesc

namespace Value

open TypeDesc

/-- A value conforms to some of several types if there is one it conforms to. -/
theorem conformsSome_iff {v : Value} {ts : List TypeDesc} :
    v.conformsSome ts = true ↔ ∃ t ∈ ts, v.conforms t = true := by
  induction ts with
  | nil => simp [conformsSome]
  | cons t rest ih => simp [conformsSome, ih]

/-- Every value belongs to `any`. -/
@[simp] theorem conforms_any (v : Value) : v.conforms .any = true := by simp [conforms]

/-- A value belongs to a union when it belongs to one of its members. -/
theorem conforms_union {v : Value} {ts : List TypeDesc} :
    v.conforms (.union ts) = true ↔ ∃ t ∈ ts, v.conforms t = true := by
  simp [conforms, conformsSome_iff]

/-- A value belongs to a kind when its own kind is that or below it. -/
theorem conforms_prim {v : Value} {n : Nominal} :
    v.conforms (.prim n) = true ↔ ∃ m, v.nominal? = some m ∧ m.isBelow n = true := by
  unfold conforms
  cases v.nominal? <;> simp

/-- A value belongs to the type of a sequence when it is one whose items belong to the type of
    items. -/
theorem conforms_seq {v : Value} {t : TypeDesc} :
    v.conforms (.seq t) = true ↔ ∃ items, v = .seq items ∧ ∀ i ∈ items, i.conforms t = true := by
  cases v <;> simp [conforms]

/-- A value belongs to a type when it belongs to one of its alternatives. -/
theorem conforms_iff_alternatives {v : Value} {t : TypeDesc} :
    v.conforms t = true ↔ ∃ a ∈ t.alternatives, v.conforms a = true := by
  cases t <;> simp [alternatives, conforms_union]

/-- A value belongs to the union of some types exactly when it belongs to one of them.  That the
    union is flat and sorted makes no difference for values. -/
theorem conforms_unionOf {v : Value} {ts : List TypeDesc} :
    v.conforms (unionOf ts) = true ↔ ∃ t ∈ ts, v.conforms t = true := by
  have hmembers : (∃ a ∈ (ts.flatMap alternatives).foldr insert [], v.conforms a = true)
      ↔ ∃ t ∈ ts, v.conforms t = true := by
    constructor
    · rintro ⟨a, ha, hv⟩
      obtain ⟨t, ht, hat⟩ := List.mem_flatMap.mp (mem_foldr_insert.mp ha)
      exact ⟨t, ht, conforms_iff_alternatives.mpr ⟨a, hat, hv⟩⟩
    · rintro ⟨t, ht, hv⟩
      obtain ⟨a, ha, hav⟩ := conforms_iff_alternatives.mp hv
      exact ⟨a, mem_foldr_insert.mpr (List.mem_flatMap.mpr ⟨t, ht, ha⟩), hav⟩
  rw [← hmembers]
  unfold unionOf
  split
  · rename_i a h
    rw [h]
    simp
  · exact conforms_union

/-! ## The slot check is sound -/

mutual

/-- What fits a type conforms to it.  By induction on the expected type; a sequence fits only the
    same sequence, so its items need not be looked at. -/
theorem conforms_of_fits {v : Value} {a : TypeDesc} (hv : v.conforms a = true) :
    ∀ b : TypeDesc, fits a b = true → v.conforms b = true
  | .any, _ => conforms_any v
  | .prim n, h => by
    cases a with
    | prim m =>
      obtain ⟨k, hk, hkm⟩ := conforms_prim.mp hv
      exact conforms_prim.mpr ⟨k, hk, Nominal.isBelow_trans hkm (by simpa [fits] using h)⟩
    | _ => simp [fits] at h
  | .union ts, h => by
    rw [conforms_union]
    exact conforms_of_fitsSome hv ts (by simpa [fits] using h)
  | .seq t, h => by
    have hat : a = .seq t := by simpa [fits] using h
    exact hat ▸ hv

/-- What fits one of several types conforms to one of them. -/
theorem conforms_of_fitsSome {v : Value} {a : TypeDesc} (hv : v.conforms a = true) :
    ∀ ts : List TypeDesc, fitsSome a ts = true → ∃ t ∈ ts, v.conforms t = true
  | [], h => by simp [fitsSome] at h
  | t :: rest, h => by
    simp only [fitsSome, Bool.or_eq_true] at h
    rcases h with h | h
    · exact ⟨t, List.mem_cons_self, conforms_of_fits hv t h⟩
    · obtain ⟨u, hu, huv⟩ := conforms_of_fitsSome hv rest h
      exact ⟨u, List.mem_cons_of_mem _ hu, huv⟩

end

mutual

/-- What a value of a type may stand for, it is.  By induction on the type that satisfies; a union
    hands its value on to the member it belongs to. -/
theorem conforms_of_satisfies {v : Value} : ∀ {a b : TypeDesc},
    v.conforms a = true → a.satisfies b = true → v.conforms b = true
  | .union ts, b, hv, h => by
    simp only [satisfies, Bool.or_eq_true, decide_eq_true_eq] at h
    rcases h with (rfl | rfl) | h
    · exact conforms_any v
    · exact hv
    · exact conforms_of_allSatisfy (conforms_union.mp hv) h
  | .any, b, hv, h => conforms_of_fits hv b (by simpa [satisfies] using h)
  | .prim _, b, hv, h => conforms_of_fits hv b (by simpa [satisfies] using h)
  | .seq _, b, hv, h => conforms_of_fits hv b (by simpa [satisfies] using h)

/-- The same for a value of one of several types that all satisfy a type. -/
theorem conforms_of_allSatisfy {v : Value} : ∀ {ts : List TypeDesc} {b : TypeDesc},
    (∃ t ∈ ts, v.conforms t = true) → allSatisfy ts b = true → v.conforms b = true
  | [], _, hv, _ => by simp at hv
  | t :: rest, b, hv, h => by
    simp only [allSatisfy, Bool.and_eq_true] at h
    obtain ⟨u, hu, huv⟩ := hv
    rcases List.mem_cons.mp hu with heq | hu
    · exact conforms_of_satisfies (heq ▸ huv) h.1
    · exact conforms_of_allSatisfy ⟨u, hu, huv⟩ h.2

end

/-! ## The forms of the slots -/

/-- What the values of a kind look like. -/
def HasForm (v : Value) : Nominal → Prop
  | .none => v = .absent
  | .bool => ∃ b, v = .bool b
  | .int => ∃ i, v = .int i
  | .float => ∃ x, v = .float x
  | .str => ∃ s, v = .text s
  | .interval => ∃ first last, v = .interval first last
  | .fieldMeta => ∃ m, v = .fieldMeta m
  | .integerFieldType => ∃ t, v = .fieldType (.integer t)
  | .enumIntegerFieldType => ∃ t, v = .fieldType (.enumInteger t)
  | .numberFieldType => ∃ t, v = .fieldType (.number t)
  | .stringFieldType => ∃ t, v = .fieldType (.string t)
  | .enumStringFieldType => ∃ t, v = .fieldType (.enumString t)
  | .field => ∃ f, v = .field f
  | .tableSchema => ∃ s, v = .tableSchema s
  | .tableResource => ∃ r, v = .tableResource r
  | .package => ∃ p, v = .package p

/-- The kind of a value says what it looks like. -/
theorem hasForm_of_nominal {v : Value} {n : Nominal} (h : v.nominal? = some n) : v.HasForm n := by
  cases v with
  | seq items => cases h
  | fieldType t => cases t <;> cases h <;> exact ⟨_, rfl⟩
  | absent => cases h; rfl
  | interval first last => cases h; exact ⟨first, last, rfl⟩
  | _ => cases h; exact ⟨_, rfl⟩

/-- Only floats have another kind below their own. -/
theorem hasForm_of_conforms {v : Value} {n : Nominal} (hn : n ≠ .float)
    (h : v.conforms (.prim n) = true) : v.HasForm n := by
  obtain ⟨m, hm, hb⟩ := conforms_prim.mp h
  simp only [Nominal.isBelow, Bool.or_eq_true, decide_eq_true_eq, Bool.and_eq_true] at hb
  rcases hb with rfl | ⟨-, hfloat⟩
  · exact hasForm_of_nominal hm
  · exact absurd hfloat hn

/-- A value in a slot for texts is a text. -/
theorem eq_text {v : Value} (h : v.conforms Check.text = true) : ∃ s, v = .text s :=
  hasForm_of_conforms (by decide) h

/-- A value in a slot for optional texts is a text or absent. -/
theorem eq_optionalText {v : Value} (h : v.conforms Check.optionalText = true) :
    v = .absent ∨ ∃ s, v = .text s := by
  rw [Check.optionalText, TypeDesc.optional, conforms_unionOf] at h
  obtain ⟨t, ht, hv⟩ := h
  simp only [List.mem_cons, List.not_mem_nil, or_false] at ht
  rcases ht with rfl | rfl
  · exact .inr (eq_text hv)
  · exact .inl (hasForm_of_conforms (by decide) hv)

/-- A value in a slot for column types is one, of whatever kind. -/
theorem eq_fieldType {v : Value} (h : v.conforms .fieldType = true) : ∃ t, v = .fieldType t := by
  rw [TypeDesc.fieldType, conforms_unionOf] at h
  obtain ⟨t, ht, hv⟩ := h
  obtain ⟨n, hn, rfl⟩ := List.mem_map.mp ht
  simp only [Nominal.fieldTypes, List.mem_cons, List.not_mem_nil, or_false] at hn
  rcases hn with rfl | rfl | rfl | rfl | rfl <;>
    obtain ⟨t, rfl⟩ := hasForm_of_conforms (by decide) hv <;> exact ⟨_, rfl⟩

/-- Values of one form each are the images of what they hold. -/
theorem exists_eq_map {α : Type} {form : α → Value} {items : List Value}
    (h : ∀ v ∈ items, ∃ a, v = form a) : ∃ as : List α, items = as.map form := by
  induction items with
  | nil => exact ⟨[], rfl⟩
  | cons v rest ih =>
    obtain ⟨a, ha⟩ := h v List.mem_cons_self
    obtain ⟨as, has⟩ := ih fun u hu => h u (List.mem_cons_of_mem _ hu)
    exact ⟨a :: as, by rw [ha, has, List.map_cons]⟩

/-- A value in a slot for metadata is a sequence of metadata. -/
theorem eq_metaSeq {v : Value} (h : v.conforms Check.metaSeq = true) :
    ∃ ms : List FieldMeta, v = .seq (ms.map .fieldMeta) := by
  obtain ⟨items, rfl, hitems⟩ := conforms_seq.mp h
  obtain ⟨ms, hms⟩ := exists_eq_map fun v hv => hasForm_of_conforms (by decide) (hitems v hv)
  exact ⟨ms, congrArg Value.seq hms⟩

/-- A value in a slot for columns is a sequence of columns. -/
theorem eq_fieldSeq {v : Value} (h : v.conforms Check.fieldSeq = true) :
    ∃ fs : List Field, v = .seq (fs.map .field) := by
  obtain ⟨items, rfl, hitems⟩ := conforms_seq.mp h
  obtain ⟨fs, hfs⟩ := exists_eq_map fun v hv => hasForm_of_conforms (by decide) (hitems v hv)
  exact ⟨fs, congrArg Value.seq hfs⟩

/-! ## Conversions -/

/-- Each conversion succeeds on exactly one form of value; this one on texts. -/
theorem toText_eq_ok {v : Value} {s : String} : v.toText = .ok s ↔ v = .text s := by
  cases v <;> simp [toText, unexpected]

/-- The conversion to an optional text takes texts and absent values. -/
theorem toOptionalText_eq_ok {v : Value} {o : Option String} :
    v.toOptionalText = .ok o ↔ v = .ofOption (o.map .text) := by
  cases v <;> cases o <;> simp [toOptionalText, unexpected, ofOption, eq_comm]

/-- The conversion to a column type takes column types. -/
theorem toFieldType_eq_ok {v : Value} {t : FieldType} : v.toFieldType = .ok t ↔ v = .fieldType t := by
  cases v <;> simp [toFieldType, unexpected]

/-- The conversion to a schema takes schemas. -/
theorem toTableSchema_eq_ok {v : Value} {s : TableSchema} :
    v.toTableSchema = .ok s ↔ v = .tableSchema s := by
  cases v <;> simp [toTableSchema, unexpected]

/-- The conversion to a table takes tables. -/
theorem toTableResource_eq_ok {v : Value} {r : TableResource} :
    v.toTableResource = .ok r ↔ v = .tableResource r := by
  cases v <;> simp [toTableResource, unexpected]

/-- Items are converted together when each has the form, and the results are what they were made
    from, in order. -/
theorem mapM_eq_ok {α : Type} {f : Value → Except GenError α} {form : α → Value}
    (hf : ∀ v a, f v = .ok a ↔ v = form a) {vs : List Value} {as : List α} :
    vs.mapM f = .ok as ↔ vs = as.map form := by
  induction vs generalizing as with
  | nil => cases as <;> simp [pure_eq_ok_iff]
  | cons v rest ih =>
    simp only [List.mapM_cons, bind_eq_ok_iff, pure_eq_ok_iff, hf, ih]
    constructor
    · rintro ⟨a, rfl, as, rfl, rfl⟩
      rfl
    · intro h
      cases as with
      | nil => cases h
      | cons a as =>
        obtain ⟨hv, hrest⟩ := List.cons.inj h
        exact ⟨a, hv, as, hrest, rfl⟩

/-- The conversion to items takes sequences. -/
theorem toItems_eq_ok {v : Value} {items : List Value} : v.toItems = .ok items ↔ v = .seq items := by
  cases v <;> simp [toItems, unexpected]

/-- A sequence is converted when each of its items has the form. -/
theorem mapM_toItems_eq_ok {α : Type} {f : Value → Except GenError α} (form : α → Value)
    (hf : ∀ v a, f v = .ok a ↔ v = form a) {v : Value} {as : List α} :
    (do (← v.toItems).mapM f) = .ok as ↔ v = .seq (as.map form) := by
  simp only [bind_eq_ok_iff, toItems_eq_ok, mapM_eq_ok hf]
  constructor
  · rintro ⟨items, rfl, rfl⟩
    rfl
  · rintro rfl
    exact ⟨_, rfl, rfl⟩

/-- The conversion to metadata takes sequences of metadata. -/
theorem toFieldMetas_eq_ok {v : Value} {ms : List FieldMeta} :
    v.toFieldMetas = .ok ms ↔ v = .seq (ms.map .fieldMeta) :=
  mapM_toItems_eq_ok .fieldMeta fun v a => by cases v <;> simp [unexpected]

/-- The conversion to columns takes sequences of columns. -/
theorem toFields_eq_ok {v : Value} {fs : List Field} :
    v.toFields = .ok fs ↔ v = .seq (fs.map .field) :=
  mapM_toItems_eq_ok .field fun v a => by cases v <;> simp [unexpected]

end Value

end SyntheticTables
