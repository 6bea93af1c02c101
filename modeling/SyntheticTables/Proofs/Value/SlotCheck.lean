/-
  The slot check is sound, and exact on types made of kinds and unions.

  A value belongs to its own type, and to whatever that type satisfies; both hold for all types.  The
  converse needs values that tell types apart.  Each kind has one (`Nominal.sample`), so a type that
  is made of kinds and unions satisfies every such type that all its values belong to.  Sequences
  have none: the empty sequence belongs to the type of every sequence, and `any` takes all values
  without being a union of kinds.
-/
import SyntheticTables.Proofs.Value.Typing

namespace SyntheticTables

/-! ## A value belongs to its own type -/

namespace Value

open TypeDesc

/-- A value belongs to its kind. -/
theorem conforms_of_nominal {v : Value} {n : Nominal} (h : v.nominal? = some n) :
    v.conforms (.prim n) = true :=
  conforms_prim.mpr ⟨n, h, by simp [Nominal.isBelow]⟩

mutual

/-- A value belongs to its own type.  By induction on the value: an item of a sequence belongs to
    the member of the union that is its own type. -/
theorem conforms_type : ∀ v : Value, v.conforms v.type = true
  | .seq items => by
    have hitems := conforms_types items
    cases items with
    | nil => exact conforms_seq.mpr ⟨[], rfl, by simp⟩
    | cons v rest =>
      -- an item belongs to the member of the union that is its own type
      exact conforms_seq.mpr ⟨v :: rest, rfl, fun i hi => conforms_unionOf.mpr (hitems i hi)⟩
  | .absent => conforms_of_nominal rfl
  | .bool _ => conforms_of_nominal rfl
  | .int _ => conforms_of_nominal rfl
  | .float _ => conforms_of_nominal rfl
  | .text _ => conforms_of_nominal rfl
  | .interval .. => conforms_of_nominal rfl
  | .fieldMeta _ => conforms_of_nominal rfl
  | .fieldType _ => conforms_of_nominal rfl
  | .field _ => conforms_of_nominal rfl
  | .tableSchema _ => conforms_of_nominal rfl
  | .tableResource _ => conforms_of_nominal rfl
  | .package _ => conforms_of_nominal rfl

/-- Each of several values belongs to one of their types. -/
theorem conforms_types : ∀ vs : List Value, ∀ v ∈ vs, ∃ t ∈ types vs, v.conforms t = true
  | [], _, hu => by simp at hu
  | v :: rest, u, hu => by
    rcases List.mem_cons.mp hu with heq | hu
    · exact ⟨v.type, List.mem_cons_self, heq ▸ conforms_type v⟩
    · obtain ⟨t, ht, hut⟩ := conforms_types rest u hu
      exact ⟨t, List.mem_cons_of_mem _ ht, hut⟩

end

end Value

/-! ## Types that values tell apart -/

/-- A value of a kind that is of no kind below it. -/
def Nominal.sample : Nominal → Value
  | .none => .absent
  | .bool => .bool false
  | .int => .int 0
  | .float => .float 0.0
  | .str => .text ""
  | .interval => .interval 0 0
  | .fieldMeta => .fieldMeta default
  | .integerFieldType => .fieldType (.integer default)
  | .enumIntegerFieldType => .fieldType (.enumInteger default)
  | .numberFieldType => .fieldType (.number default)
  | .stringFieldType => .fieldType (.string default)
  | .enumStringFieldType => .fieldType (.enumString default)
  | .field => .field default
  | .tableSchema => .tableSchema default
  | .tableResource => .tableResource default
  | .package => .package default

/-- The sample of a kind is of that kind. -/
@[simp] theorem Nominal.nominal?_sample (n : Nominal) : n.sample.nominal? = some n := by
  cases n <;> rfl

namespace TypeDesc

mutual

/-- Whether a type is made of kinds and unions alone: it contains neither `any` nor a sequence. -/
def isPlain : TypeDesc → Bool
  | .any => false
  | .prim _ => true
  | .union members => allPlain members
  | .seq _ => false
  termination_by structural a => a

/-- Whether several types are made of kinds and unions alone. -/
def allPlain : List TypeDesc → Bool
  | [] => true
  | a :: rest => isPlain a && allPlain rest
  termination_by structural as => as

end

mutual

/-- Where the sample of a kind belongs, the kind itself fits.  By induction on the type; plain types
    have no other cases than kinds and unions. -/
theorem fits_of_sample {n : Nominal} : ∀ b : TypeDesc, b.isPlain = true →
    n.sample.conforms b = true → fits (.prim n) b = true
  | .any, hb, _ => by simp [isPlain] at hb
  | .prim m, _, h => by
    obtain ⟨k, hk, hkm⟩ := Value.conforms_prim.mp h
    rw [Nominal.nominal?_sample] at hk
    cases hk
    simpa [fits] using hkm
  | .union ts, hb, h => by
    have hsome : fitsSome (.prim n) ts = true :=
      fitsSome_of_sample ts (by simpa [isPlain] using hb) (Value.conforms_union.mp h)
    simpa [fits] using hsome
  | .seq _, hb, _ => by simp [isPlain] at hb

/-- Where the sample belongs to one of several types, the kind fits one of them. -/
theorem fitsSome_of_sample {n : Nominal} : ∀ ts : List TypeDesc, allPlain ts = true →
    (∃ t ∈ ts, n.sample.conforms t = true) → fitsSome (.prim n) ts = true
  | [], _, h => by simp at h
  | t :: rest, hts, h => by
    simp only [allPlain, Bool.and_eq_true] at hts
    rw [fitsSome, Bool.or_eq_true]
    obtain ⟨u, hu, hun⟩ := h
    rcases List.mem_cons.mp hu with heq | hu
    · exact .inl (fits_of_sample t hts.1 (heq ▸ hun))
    · exact .inr (fitsSome_of_sample rest hts.2 ⟨u, hu, hun⟩)

end

mutual

/-- Among plain types, the check accepts every type whose values all belong to the expected one.
    One sample value of each nominal type is enough to see where it may stand. -/
theorem satisfies_of_conforms : ∀ a b : TypeDesc, a.isPlain = true → b.isPlain = true →
    (∀ v : Value, v.conforms a = true → v.conforms b = true) → a.satisfies b = true
  | .any, _, ha, _, _ => by simp [isPlain] at ha
  | .prim n, b, _, hb, h => by
    have hsample : n.sample.conforms b = true :=
      h n.sample (Value.conforms_of_nominal n.nominal?_sample)
    simpa [satisfies] using fits_of_sample b hb hsample
  | .union ts, b, ha, hb, h => by
    have hall : allSatisfy ts b = true :=
      allSatisfy_of_conforms ts b (by simpa [isPlain] using ha) hb
        fun t ht v hv => h v (Value.conforms_union.mpr ⟨t, ht, hv⟩)
    simp [satisfies, hall]
  | .seq _, _, ha, _, _ => by simp [isPlain] at ha

/-- The same for the members of a union, each of which has its own values. -/
theorem allSatisfy_of_conforms : ∀ (ts : List TypeDesc) (b : TypeDesc), allPlain ts = true →
    b.isPlain = true → (∀ t ∈ ts, ∀ v : Value, v.conforms t = true → v.conforms b = true) →
    allSatisfy ts b = true
  | [], _, _, _, _ => by simp [allSatisfy]
  | t :: rest, b, hts, hb, h => by
    simp only [allPlain, Bool.and_eq_true] at hts
    rw [allSatisfy, Bool.and_eq_true]
    constructor
    · exact satisfies_of_conforms t b hts.1 hb (h t List.mem_cons_self)
    · exact allSatisfy_of_conforms rest b hts.2 hb fun u hu => h u (List.mem_cons_of_mem _ hu)

end

end TypeDesc

/-! ## The slot check -/

/-- A value belongs to its own type; the slot check keeps it in the types it belongs to; and between
    plain types the check holds wherever no value contradicts it.  The last needs plain types: the
    empty sequence belongs to the type of every sequence. -/
theorem Value.slot_check_sound_exact (v : Value) (a b : TypeDesc) :
    v.conforms v.type = true
    ∧ (v.conforms a = true → a.satisfies b = true → v.conforms b = true)
    ∧ (a.isPlain = true → b.isPlain = true →
        (∀ w : Value, w.conforms a = true → w.conforms b = true) → a.satisfies b = true) := by
  refine ⟨conforms_type v, ?_, ?_⟩
  · intro hv hab
    exact conforms_of_satisfies hv hab
  · intro ha hb h
    exact TypeDesc.satisfies_of_conforms a b ha hb h

/-- A sequence of the integer 3 and an absent item belongs to its own type and so to sequences of
    optional integers; and since every integer or absent value is a float or absent one, that type
    may stand in for this one. -/
theorem Value.slot_check_sound_exact_optional :
    (Value.seq [.int 3, .absent]).conforms (.seq (.union [.prim .none, .prim .int])) = true
    ∧ (TypeDesc.union [.prim .none, .prim .int]).satisfies (.union [.prim .none, .prim .float])
      = true := by
  constructor
  · have hsound := (slot_check_sound_exact (.seq [.int 3, .absent])
      (.seq (.union [.prim .none, .prim .int])) (.seq (.union [.prim .none, .prim .int]))).2.1
    exact hsound (by decide) (by decide)
  · have hexact := (slot_check_sound_exact .absent
      (.union [.prim .none, .prim .int]) (.union [.prim .none, .prim .float])).2.2
    refine hexact (by decide) (by decide) ?_
    intro w hw
    -- nothing is nothing, and integers are below floats
    obtain ⟨t, ht, hwt⟩ := conforms_union.mp hw
    simp only [List.mem_cons, List.not_mem_nil, or_false] at ht
    rcases ht with rfl | rfl
    · exact conforms_union.mpr ⟨.prim .none, by simp, hwt⟩
    · obtain ⟨i, rfl⟩ := hasForm_of_conforms (by decide) hwt
      rfl

end SyntheticTables
