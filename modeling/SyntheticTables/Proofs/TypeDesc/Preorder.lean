/-
  Standing in for another type is a preorder.

  The check compares a union with the expected type as a whole before it goes through the
  alternatives.  Since every type stands in for itself, that shortcut decides nothing of its own: a
  union stands in for a type exactly when each of its alternatives does (`satisfies_union_iff`), and a
  type that is no union stands in for a union exactly when it does for one of the alternatives
  (`satisfies_of_union_iff`).  Both hold for unions of any shape, and transitivity needs nothing else
  about them.

  All inductions on types go by `members_induction`, which hands the hypothesis on to every member of
  a union.
-/
import SyntheticTables.Proofs.Value.Typing

namespace SyntheticTables.TypeDesc

/-! ## Induction -/

mutual

/-- What holds of `any` and of kinds, of a sequence when of its items, and of a union when of its
    members, holds of all types. -/
theorem members_induction {P : TypeDesc → Prop} (any : P .any) (prim : ∀ n, P (.prim n))
    (seq : ∀ item, P item → P (.seq item)) (union : ∀ ms, (∀ m ∈ ms, P m) → P (.union ms)) :
    ∀ a : TypeDesc, P a
  | .any => any
  | .prim n => prim n
  | .seq item => seq item (members_induction any prim seq union item)
  | .union ms => union ms (members_induction_list any prim seq union ms)

/-- The same for all types in a list. -/
theorem members_induction_list {P : TypeDesc → Prop} (any : P .any) (prim : ∀ n, P (.prim n))
    (seq : ∀ item, P item → P (.seq item)) (union : ∀ ms, (∀ m ∈ ms, P m) → P (.union ms)) :
    ∀ ms : List TypeDesc, ∀ m ∈ ms, P m
  | [] => fun _ hm => absurd hm List.not_mem_nil
  | a :: rest => List.forall_mem_cons.mpr
      ⟨members_induction any prim seq union a, members_induction_list any prim seq union rest⟩

end

/-! ## The two sides of the check -/

/-- Where anything is expected, every type may stand. -/
@[simp] theorem satisfies_any (a : TypeDesc) : a.satisfies .any = true := by
  cases a <;> simp [satisfies, fits]

/-- Every type may stand where it is expected itself. -/
theorem satisfies_self (a : TypeDesc) : a.satisfies a = true := by
  cases a <;> simp [satisfies, fits, Nominal.isBelow]

/-- What is no union stands where it fits. -/
theorem satisfies_eq_fits {a : TypeDesc} (ha : a.isUnion = false) (b : TypeDesc) :
    a.satisfies b = a.fits b := by
  cases a with
  | union ms => simp [isUnion] at ha
  | _ => rw [satisfies]

/-- A type fits some of several types if there is one it fits. -/
theorem fitsSome_iff {a : TypeDesc} {ts : List TypeDesc} :
    fitsSome a ts = true ↔ ∃ t ∈ ts, a.fits t = true := by
  induction ts with
  | nil => simp [fitsSome]
  | cons t rest ih => simp [fitsSome, ih]

/-- A type fits a union when it fits one of its members. -/
theorem fits_union_iff {a : TypeDesc} {ts : List TypeDesc} :
    a.fits (.union ts) = true ↔ ∃ t ∈ ts, a.fits t = true := by
  rw [fits, fitsSome_iff]

/-- All of several types stand in for a type when each does. -/
theorem allSatisfy_iff {ms : List TypeDesc} {b : TypeDesc} :
    allSatisfy ms b = true ↔ ∀ m ∈ ms, m.satisfies b = true := by
  induction ms with
  | nil => simp [allSatisfy]
  | cons m rest ih => simp [allSatisfy, ih]

/-- What is no union stands where a union is expected exactly as one of the alternatives. -/
theorem satisfies_of_union_iff {a : TypeDesc} (ha : a.isUnion = false) {ts : List TypeDesc} :
    a.satisfies (.union ts) = true ↔ ∃ t ∈ ts, a.satisfies t = true := by
  simp only [satisfies_eq_fits ha, fits_union_iff]

/-! ## Unions stand where their alternatives do -/

/-- What stands for an alternative stands for the union.  By induction on the type that stands in:
    the members of a union do so one by one, also when the union was the alternative itself. -/
theorem satisfies_union_of_mem {a t : TypeDesc} {ts : List TypeDesc} (ht : t ∈ ts)
    (h : a.satisfies t = true) : a.satisfies (.union ts) = true := by
  induction a using members_induction generalizing t ts with
  | any => exact (satisfies_of_union_iff rfl).mpr ⟨t, ht, h⟩
  | prim n => exact (satisfies_of_union_iff rfl).mpr ⟨t, ht, h⟩
  | seq item _ => exact (satisfies_of_union_iff rfl).mpr ⟨t, ht, h⟩
  | union ms ih =>
    have heach : ∀ m ∈ ms, m.satisfies t = true := by
      simp only [satisfies, Bool.or_eq_true, decide_eq_true_eq] at h
      rcases h with (rfl | rfl) | h
      · exact fun m _ => satisfies_any m
      · exact fun m hm => ih m hm hm (satisfies_self m)
      · exact allSatisfy_iff.mp h
    have hall : allSatisfy ms (.union ts) = true :=
      allSatisfy_iff.mpr fun m hm => ih m hm ht (heach m hm)
    simp [satisfies, hall]

/-- A union stands in for a type exactly when each of its alternatives does. -/
theorem satisfies_union_iff {ms : List TypeDesc} {b : TypeDesc} :
    (union ms).satisfies b = true ↔ ∀ m ∈ ms, m.satisfies b = true := by
  constructor
  · intro h
    simp only [satisfies, Bool.or_eq_true, decide_eq_true_eq] at h
    rcases h with (rfl | rfl) | h
    · exact fun m _ => satisfies_any m
    · exact fun m hm => satisfies_union_of_mem hm (satisfies_self m)
    · exact allSatisfy_iff.mp h
  · intro h
    simp [satisfies, allSatisfy_iff.mpr h]

/-! ## Transitivity -/

/-- Where `any` fits, everything fits. -/
theorem fits_of_fits_any {a c : TypeDesc} (h : fits .any c = true) : a.fits c = true := by
  induction c using members_induction with
  | any => simp [fits]
  | prim n => simp [fits] at h
  | seq item _ => simp [fits] at h
  | union ts ih =>
    obtain ⟨t, ht, hany⟩ := fits_union_iff.mp h
    exact fits_union_iff.mpr ⟨t, ht, ih t ht hany⟩

/-- Where a kind fits, every kind below it fits. -/
theorem fits_of_isBelow {m n : Nominal} (hmn : m.isBelow n = true) {c : TypeDesc}
    (h : fits (.prim n) c = true) : fits (.prim m) c = true := by
  induction c using members_induction with
  | any => simp [fits]
  | prim k =>
    simp only [fits] at h ⊢
    exact Nominal.isBelow_trans hmn h
  | seq item _ => simp [fits] at h
  | union ts ih =>
    obtain ⟨t, ht, hn⟩ := fits_union_iff.mp h
    exact fits_union_iff.mpr ⟨t, ht, ih t ht hn⟩

/-- What is no union passes through the type in the middle.  By induction on that type: if it is a
    union, then one of its alternatives can be put in its place. -/
theorem satisfies_trans_of_not_union {a b c : TypeDesc} (ha : a.isUnion = false)
    (hab : a.satisfies b = true) (hbc : b.satisfies c = true) : a.satisfies c = true := by
  induction b using members_induction with
  | any =>
    rw [satisfies_eq_fits rfl] at hbc
    rw [satisfies_eq_fits ha]
    exact fits_of_fits_any hbc
  | prim n =>
    rw [satisfies_eq_fits ha] at hab ⊢
    rw [satisfies_eq_fits rfl] at hbc
    cases a with
    | prim m =>
      have hmn : m.isBelow n = true := by simpa [fits] using hab
      exact fits_of_isBelow hmn hbc
    | _ => simp [fits] at hab
  | seq item _ =>
    rw [satisfies_eq_fits ha, fits, decide_eq_true_eq] at hab
    rwa [hab]
  | union ts ih =>
    -- the alternative that the first type stands for stands for the last type itself
    obtain ⟨t, ht, hat⟩ := (satisfies_of_union_iff ha).mp hab
    exact ih t ht hat (satisfies_union_iff.mp hbc t ht)

/-- The general case: a union passes through member by member. -/
theorem satisfies_trans {a b c : TypeDesc} (hab : a.satisfies b = true)
    (hbc : b.satisfies c = true) : a.satisfies c = true := by
  induction a using members_induction with
  | any => exact satisfies_trans_of_not_union rfl hab hbc
  | prim n => exact satisfies_trans_of_not_union rfl hab hbc
  | seq item _ => exact satisfies_trans_of_not_union rfl hab hbc
  | union ms ih =>
    have heach := satisfies_union_iff.mp hab
    exact satisfies_union_iff.mpr fun m hm => ih m hm (heach m hm)

/-- Every type may stand where it is expected itself, and what may stand for a type may stand wherever
    that type may, whatever shape the unions in them have. -/
theorem satisfies_preorder (a b c : TypeDesc) : a.satisfies a = true ∧
    (a.satisfies b = true → b.satisfies c = true → a.satisfies c = true) :=
  ⟨satisfies_self a, satisfies_trans⟩

/-- From a union of nothing and integers, over a union of anything and floats, to a union nested in
    a union that takes texts and anything: each step holds, and so does the way from the first to
    the last. -/
theorem satisfies_preorder_nested :
    (union [.union [], .prim .int]).satisfies (union [.any, .prim .float]) = true ∧
    (union [.any, .prim .float]).satisfies (union [.union [.prim .str, .any]]) = true ∧
    (union [.union [], .prim .int]).satisfies (union [.union [.prim .str, .any]]) = true := by
  have hab : (union [.union [], .prim .int]).satisfies (union [.any, .prim .float]) = true := by
    decide
  have hbc : (union [.any, .prim .float]).satisfies (union [.union [.prim .str, .any]]) = true := by
    decide
  exact ⟨hab, hbc, (satisfies_preorder _ _ _).2 hab hbc⟩

end SyntheticTables.TypeDesc
