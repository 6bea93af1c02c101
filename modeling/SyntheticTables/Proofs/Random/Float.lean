/-
  Floats drawn between two others stay between them.

  The weight that is drawn is at most 1, so one part of the weighted mean is finite and the other is a
  number; so is their sum, and cutting it to the ends of the range leaves nothing outside.  Without
  this the sum might be no number at all, which no cut brings back.
-/
import SyntheticTables.Proofs.Float.Bounds
import SyntheticTables.Random.Sample

namespace SyntheticTables

open Float.Model Float.Model.UnpackedFloat

/-! ## Operations on doubles -/

section Operations

variable {a b : Float} {q : ℚ}

/-- What is bounded by a number is finite. -/
theorem isFinite_of_within (h : Within q a.toModel.unpack) : a.isFinite = true := by
  show a.toModel.unpack.isFinite = true
  generalize a.toModel.unpack = f at h ⊢
  cases f with
  | zero => rfl
  | finite => rfl
  | notANumber => exact h.elim
  | infinity => exact h.elim

/-- A product of finite doubles may be infinite, but it is a number. -/
theorem isNumber_mul (ha : a.isFinite = true) (hb : b.isFinite = true) : IsNumber (a * b) :=
  unpack_pack_ne_notANumber (mul_ne_notANumber ha hb)

/-- A number plus a finite double is a number: infinities of both signs cannot meet. -/
theorem isNumber_add (ha : IsNumber a) (hb : b.isFinite = true) : IsNumber (a + b) :=
  unpack_pack_ne_notANumber (add_ne_notANumber ha hb)

/-- A finite float times one of at most 1 is finite: it is bounded by the largest double, as the
    first factor is. -/
theorem isFinite_mul (ha : a.isFinite = true) (hb : Within 1 b.toModel.unpack) :
    (a * b).isFinite = true := by
  have hproduct := within_mul isBound_largest (within_largest ha) hb
  have hunpack : (a * b).toModel.unpack = UnpackedFloat.mul .binary64 a.toModel.unpack b.toModel.unpack :=
    unpack_pack isBound_largest hproduct
  exact isFinite_of_within (q := largest) (by rwa [hunpack])

/-- What is left of 1 is finite, being at most 2 away from zero. -/
theorem isFinite_one_sub (hb : Within 1 b.toModel.unpack) : (1.0 - b).isFinite = true := by
  have hone : Within 1 (1.0 : Float).toModel.unpack := by
    have hunpack : (1.0 : Float).toModel.unpack = .finite .positive (2 ^ 52) (-52) (by decide) := rfl
    rw [hunpack]
    exact ⟨⟨by norm_num, by norm_num, .inl le_rfl⟩, by norm_num⟩
  have htwo : IsBound 2 := ⟨1, 1, by norm_num, by norm_num, by norm_num, by norm_num⟩
  have hdiff := within_sub htwo (by norm_num) hone hb
  have hunpack : (1.0 - b).toModel.unpack
      = UnpackedFloat.sub .binary64 (1.0 : Float).toModel.unpack b.toModel.unpack :=
    unpack_pack htwo hdiff
  exact isFinite_of_within (q := 2) (by rwa [hunpack])

end Operations

namespace Sample

/-! ## Weights -/

/-- The weight that is drawn is at most 1: it is a quotient of 53 bits by `2 ^ 53`.  Both are
    doubles, so only the quotient could have been rounded, and it is not rounded beyond 1. -/
theorem within_unit (s : Stream) : Within 1 (unit s).1.toModel.unpack := by
  -- the upper 53 bits of a word, hence at most the divisor
  have hword : ((s.next64.1 >>> 11).toNat : ℚ) ≤ 2 ^ (53 : Int) := by
    have hlt := s.next64.1.toNat_lt
    have hshift : (s.next64.1 >>> 11).toNat = s.next64.1.toNat / 2 ^ 11 := by
      simp [UInt64.toNat_shiftRight, Nat.shiftRight_eq_div_pow]
    have hle : (s.next64.1 >>> 11).toNat ≤ 2 ^ 53 := by omega
    exact_mod_cast hle
  have hbound : IsBound (2 ^ (53 : Int)) := ⟨1, 53, by norm_num, by norm_num, by norm_num, by norm_num⟩
  have hfloat := within_ofUInt64 hbound hword
  have hunpack : (s.next64.1 >>> 11).toFloat.toModel.unpack
      = UnpackedFloat.ofUInt64 .binary64 (s.next64.1 >>> 11) := unpack_pack hbound hfloat
  have hdivisor : (9007199254740992.0 : Float).toModel.unpack
      = .finite .positive (2 ^ 52) 1 (by decide) := rfl
  -- so the quotient is at most one, and rounding does not pass over it
  have hquotient : Within 1 (UnpackedFloat.div .binary64
      (s.next64.1 >>> 11).toFloat.toModel.unpack (9007199254740992.0 : Float).toModel.unpack) := by
    rw [hunpack, hdivisor]
    generalize UnpackedFloat.ofUInt64 .binary64 (s.next64.1 >>> 11) = f at hfloat
    cases f with
    | zero => exact zero_le_one
    | finite _ m e _ =>
      refine within_div (hfloat.2.trans (le_of_eq ?_))
      norm_num
    | infinity => exact hfloat.elim
    | notANumber => exact hfloat.elim
  show Within 1 ((s.next64.1 >>> 11).toFloat / 9007199254740992.0).toModel.unpack
  rwa [show ((s.next64.1 >>> 11).toFloat / 9007199254740992.0).toModel.unpack = _ from
    unpack_pack isBound_one hquotient]

/-! ## Means -/

/-- Cutting a number to a range leaves it in the range, on whichever side it was.  All three have to
    be numbers, because a NaN is on no side. -/
theorem clamp_mem {x low high : Float} (hx : IsNumber x) (hlow : IsNumber low)
    (hhigh : IsNumber high) (h : low ≤ high) : low ≤ clamp x low high ∧ clamp x low high ≤ high := by
  have hbelow : ¬ high < low := (float_not_lt hlow hhigh).mpr h
  unfold clamp
  by_cases hxlow : x < low
  · simp only [if_pos hxlow, gt_iff_lt, if_neg hbelow]
    exact ⟨float_le_refl hlow, h⟩
  · simp only [if_neg hxlow]
    split
    · exact ⟨h, float_le_refl hhigh⟩
    · rename_i hxhigh
      exact ⟨(float_not_lt hlow hx).mp hxlow, (float_not_lt hx hhigh).mp hxhigh⟩

/-- The weighted mean of finite floats is a number, even where one of its parts is too large to be
    finite. -/
theorem isNumber_mean {low high u : Float} (hlow : low.isFinite = true) (hhigh : high.isFinite = true)
    (hu : Within 1 u.toModel.unpack) : IsNumber (low * (1.0 - u) + high * u) :=
  isNumber_add (isNumber_mul hlow (isFinite_one_sub hu)) (isFinite_mul hhigh hu)

/-- A float drawn between finite ones lies between them.  If the ends are equal there is nothing to
    draw; otherwise the mean is cut to the range, which helps only if it is a number. -/
theorem float_mem {low high : Float} (hlow : low.isFinite = true) (hhigh : high.isFinite = true)
    (h : low ≤ high) (s : Stream) : low ≤ (float low high s).1 ∧ (float low high s).1 ≤ high := by
  have hlow' := isNumber_of_isFinite hlow
  unfold float
  split
  · exact ⟨float_le_refl hlow', h⟩
  · exact clamp_mem (isNumber_mean hlow hhigh (within_unit s)) hlow' (isNumber_of_isFinite hhigh) h

end Sample

end SyntheticTables
