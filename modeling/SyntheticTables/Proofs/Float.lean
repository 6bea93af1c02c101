/-
  The order of floats.

  Comparing two floats the other way round gives the mirrored answer, and none where there was none;
  a float that is below another is therefore not above it.  What lies between finite floats is finite.
-/

namespace SyntheticTables

open Float.Model (UnpackedFloat)

/-- Exponents decide first, then mantissas; the other way round, each of the two comparisons is
    mirrored. -/
theorem swap_magnitudes (e₁ e₂ : Int) (m₁ m₂ : Nat) :
    (compare e₂ e₁).then (compare m₂ m₁) = ((compare e₁ e₂).then (compare m₁ m₂)).swap := by
  rw [Ordering.swap_then, ← Std.OrientedCmp.eq_swap, ← Std.OrientedCmp.eq_swap]

/-- Comparing two floats the other way round mirrors the answer.  Floats that are no numbers have no
    answer either way, so the cases go over the kinds of float and their signs. -/
theorem compare_swap (a b : UnpackedFloat) :
    UnpackedFloat.compare b a = (UnpackedFloat.compare a b).map Ordering.swap := by
  cases a <;> cases b <;> try rfl
  case infinity.infinity s t => cases s <;> cases t <;> rfl
  case infinity.zero s t => cases s <;> rfl
  case infinity.finite s t m e hm => cases s <;> rfl
  case zero.infinity s t => cases t <;> rfl
  case zero.finite s t m e hm => cases t <;> rfl
  case finite.infinity s m e hm t => cases t <;> rfl
  case finite.zero s m e hm t => cases s <;> rfl
  case finite.finite s m e hm t m' e' hm' =>
    cases s <;> cases t <;> try rfl
    · exact congrArg (fun o : Ordering => some o.swap) (swap_magnitudes e e' m m')
    · exact congrArg some (swap_magnitudes e e' m m')

/-- No float is below and above another. -/
theorem float_lt_asymm {a b : Float} (h : a < b) : ¬ b < a := by
  intro h'
  have hab : UnpackedFloat.compare a.toModel.unpack b.toModel.unpack = some .lt := by
    have h : UnpackedFloat.lt a.toModel.unpack b.toModel.unpack = true := of_decide_eq_true h
    exact eq_of_beq h
  have hba : UnpackedFloat.compare b.toModel.unpack a.toModel.unpack = some .lt := by
    have h' : UnpackedFloat.lt b.toModel.unpack a.toModel.unpack = true := of_decide_eq_true h'
    exact eq_of_beq h'
  rw [compare_swap, hab] at hba
  cases hba

/-! ## Numbers -/

/-- The float is no `NaN`. -/
def IsNumber (x : Float) : Prop := x.toModel.unpack ≠ .notANumber

/-- A finite float is a number. -/
theorem isNumber_of_isFinite {x : Float} (h : x.isFinite = true) : IsNumber x := by
  have h : x.toModel.unpack.isFinite = true := h
  intro hnan
  rw [hnan] at h
  cases h

/-- Numbers can be compared; only `NaN` has no place in the order. -/
theorem compare_eq_some {a b : UnpackedFloat} (ha : a ≠ .notANumber) (hb : b ≠ .notANumber) :
    ∃ o, UnpackedFloat.compare a b = some o := by
  unfold UnpackedFloat.compare
  split
  · exact absurd rfl ha
  · exact absurd rfl hb
  all_goals exact ⟨_, rfl⟩

/-- Of two numbers, one is below the other or they are in order. -/
theorem float_not_lt {a b : Float} (ha : IsNumber a) (hb : IsNumber b) : ¬ b < a ↔ a ≤ b := by
  obtain ⟨o, ho⟩ := compare_eq_some ha hb
  have hlt : b < a ↔ UnpackedFloat.lt b.toModel.unpack a.toModel.unpack = true :=
    ⟨fun h => of_decide_eq_true h, fun h => decide_eq_true h⟩
  have hle : a ≤ b ↔ UnpackedFloat.le a.toModel.unpack b.toModel.unpack = true :=
    ⟨fun h => of_decide_eq_true h, fun h => decide_eq_true h⟩
  rw [hlt, hle, UnpackedFloat.lt, UnpackedFloat.le, compare_swap, ho]
  cases o <;> decide

/-- A number is at most itself.  For `NaN` this would be false. -/
theorem float_le_refl {a : Float} (h : IsNumber a) : a ≤ a :=
  (float_not_lt h h).mp fun hlt => float_lt_asymm hlt hlt

/-- A number below another is at most that other. -/
theorem float_le_of_lt {a b : Float} (ha : IsNumber a) (hb : IsNumber b) (h : a < b) : a ≤ b :=
  (float_not_lt ha hb).mp (float_lt_asymm h)

/-! ## Finite floats -/

/-- Between finite floats there are finite floats only: an infinity is beyond one of the ends, and
    `NaN` is on no side of either. -/
theorem isFinite_of_le {a b x : Float} (ha : a.isFinite = true) (hb : b.isFinite = true)
    (hax : a ≤ x) (hxb : x ≤ b) : x.isFinite = true := by
  have hax : UnpackedFloat.le a.toModel.unpack x.toModel.unpack = true := of_decide_eq_true hax
  have hxb : UnpackedFloat.le x.toModel.unpack b.toModel.unpack = true := of_decide_eq_true hxb
  have ha : a.toModel.unpack.isFinite = true := ha
  have hb : b.toModel.unpack.isFinite = true := hb
  show x.toModel.unpack.isFinite = true
  -- the bit patterns play no part any more, only the kinds of the three floats
  generalize a.toModel.unpack = a at hax ha
  generalize b.toModel.unpack = b at hxb hb
  generalize x.toModel.unpack = x at hax hxb ⊢
  cases x with
  | zero s => rfl
  | finite s m e hm => rfl
  | notANumber => cases a <;> cases hax
  | infinity s =>
    cases s with
    | positive =>
      cases b with
      | zero => cases hxb
      | finite => cases hxb
      | infinity => cases hb
      | notANumber => cases hb
    | negative =>
      cases a with
      | zero => cases hax
      | finite => cases hax
      | infinity => cases ha
      | notANumber => cases ha

end SyntheticTables
