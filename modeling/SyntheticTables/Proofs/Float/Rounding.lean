/-
  Rounding does not pass a float.

  A finite float stands for its mantissa times a power of two.  Rounding drops bits of a mantissa and
  may round what is left up by one; if the exact number is no further from zero than some float, then
  neither is what it is rounded to (`within_roundWithAccuracy`).  What is rounded this way keeps its
  value when it is packed (`unpack_pack`), so the bounds hold of the doubles themselves.
-/
import SyntheticTables.Proofs.Float
import Mathlib.Algebra.Order.Field.Power
import Mathlib.Tactic.Linarith
import Mathlib.Tactic.NormNum
import Mathlib.Tactic.Positivity
import Mathlib.Tactic.Ring

namespace SyntheticTables

open Float.Model Float.Model.UnpackedFloat

/-! ## Dropping bits -/

/-- The mantissa, rounded up if any bit was dropped.  Rounding to nearest gives this or less, and
    unlike it this is monotone under further shifts. -/
def roundedUp (em : ExtendedMantissa) : Nat :=
  em.mantissa + if em.roundBit || em.stickyBit then 1 else 0

/-- Rounding to nearest gives no more than rounding up. -/
theorem roundedMantissa_le (em : ExtendedMantissa) : em.roundedMantissa ≤ roundedUp em := by
  rcases em with ⟨m, r, s⟩
  cases r <;> cases s <;> simp [ExtendedMantissa.roundedMantissa, ExtendedMantissa.accuracy,
    Accuracy.roundToNearestEven, roundedUp]
  omega

/-- Rounding to nearest gives no less than the bits that are left. -/
theorem mantissa_le_roundedMantissa (em : ExtendedMantissa) :
    em.mantissa ≤ em.roundedMantissa := by
  rcases em with ⟨m, r, s⟩
  cases r <;> cases s <;> simp [ExtendedMantissa.roundedMantissa, ExtendedMantissa.accuracy,
    Accuracy.roundToNearestEven]

/-- Dropping one more bit halves what is rounded up, and rounds that up. -/
theorem roundedUp_shiftRightOne (em : ExtendedMantissa) :
    roundedUp em.shiftRightOne = (roundedUp em + 1) / 2 := by
  rcases em with ⟨m, r, s⟩
  rcases Nat.mod_two_eq_zero_or_one m with h | h <;>
    cases r <;> cases s <;> simp [roundedUp, ExtendedMantissa.shiftRightOne, h] <;> omega

/-- A multiple of the bits to be dropped stays above.  By induction on how many there are, halving
    the multiple along with the mantissa. -/
theorem roundedUp_shift_le {em : ExtendedMantissa} (k : Nat) :
    ∀ {n : Nat}, roundedUp em ≤ n * 2 ^ k → roundedUp (em >>> k) ≤ n := by
  induction k with
  | zero => exact fun h => by rwa [Nat.pow_zero, Nat.mul_one] at h
  | succ k ih =>
    intro n h
    have hhalf := ih (n := n * 2) (by rwa [Nat.pow_succ', ← Nat.mul_assoc] at h)
    show roundedUp (em >>> k).shiftRightOne ≤ n
    rw [roundedUp_shiftRightOne]
    omega

/-- The bits that are left after a shift are the quotient. -/
theorem mantissa_shift (em : ExtendedMantissa) (k : Nat) :
    (em >>> k).mantissa = em.mantissa / 2 ^ k := by
  induction k with
  | zero => exact (Nat.div_one _).symm
  | succ k ih =>
    show (em >>> k).mantissa / 2 = _
    rw [ih, Nat.div_div_eq_div_mul, Nat.pow_succ]

/-- What is known of the bits dropped before does not touch the mantissa. -/
theorem mantissa_ofMantissaAndAccuracy (m : Nat) (acc : Accuracy) :
    (ExtendedMantissa.ofMantissaAndAccuracy m acc).mantissa = m := by
  rcases acc with _ | o
  · rfl
  · cases o <;> rfl

/-- Before any shift, rounding up adds at most one. -/
theorem roundedUp_bounds (m : Nat) (acc : Accuracy) :
    m ≤ roundedUp (.ofMantissaAndAccuracy m acc) ∧
      roundedUp (.ofMantissaAndAccuracy m acc) ≤ m + 1 := by
  rcases acc with _ | o
  · exact ⟨Nat.le_refl m, Nat.le_succ m⟩
  · cases o <;> exact ⟨Nat.le_succ m, Nat.le_refl _⟩

/-! ## Floats within a bound -/

/-- Mantissa and exponent as doubles have them: all bits are in use unless the exponent is the
    least one. -/
structure Stored (m : Nat) (e : Int) : Prop where
  mantissa : m < 2 ^ 53
  exponent : -1074 ≤ e
  full : 2 ^ 52 ≤ m ∨ e = -1074

/-- Finite, in the form of a double, and no further from zero than a number. -/
def Within (q : ℚ) : UnpackedFloat → Prop
  | .zero _ => 0 ≤ q
  | .finite _ m e _ => Stored m e ∧ (m : ℚ) * 2 ^ e ≤ q
  | _ => False

/-- A number that is a double, zero included, and so can bound what rounding gives. -/
def IsBound (q : ℚ) : Prop :=
  ∃ (b : Nat) (k : Int), b < 2 ^ 53 ∧ -1074 ≤ k ∧ k ≤ 971 ∧ q = b * 2 ^ k

/-- Bounds are distances from zero. -/
theorem IsBound.nonneg {q : ℚ} (h : IsBound q) : 0 ≤ q := by
  obtain ⟨b, k, -, -, -, rfl⟩ := h
  positivity

/-- There is something within a bound only if the bound is not negative. -/
theorem Within.nonneg {q : ℚ} : ∀ {f : UnpackedFloat}, Within q f → 0 ≤ q
  | .zero _, h => h
  | .finite _ m e _, h => le_trans (by positivity) h.2

/-- A number, counted in a smaller unit, of which there are `2 ^ (k - e)` in its own. -/
theorem scale (b : Nat) {e k : Int} (h : e ≤ k) :
    (b : ℚ) * 2 ^ k = ((b * 2 ^ (k - e).toNat : Nat) : ℚ) * 2 ^ e := by
  push_cast
  rw [mul_assoc, ← zpow_natCast, ← zpow_add₀ two_ne_zero]
  congr 2
  omega

/-- Comparing two numbers in the unit of the smaller one. -/
theorem le_of_scaled {a b : Nat} {e k : Int} (h : e ≤ k) :
    (a : ℚ) * 2 ^ e ≤ b * 2 ^ k ↔ a ≤ b * 2 ^ (k - e).toNat := by
  rw [scale b h, mul_le_mul_iff_of_pos_right (by positivity)]
  exact_mod_cast Iff.rfl

/-- Appending `k` zeros makes a number `k` digits longer. -/
theorem log2_shiftLeft {m : Nat} (hm : m ≠ 0) (k : Nat) : (m <<< k).log2 = m.log2 + k := by
  rw [Nat.shiftLeft_eq, Nat.log2_eq_iff (Nat.mul_ne_zero hm (by positivity))]
  have hlow := Nat.log2_self_le hm
  have hhigh := Nat.lt_log2_self (n := m)
  constructor
  · rw [Nat.pow_add]
    exact Nat.mul_le_mul_right _ hlow
  · rw [Nat.add_right_comm, Nat.pow_add]
    exact Nat.mul_lt_mul_of_pos_right hhigh (by positivity)

/-! ## Rounding -/

/-- The exponent that rounding aims at leaves 53 bits of the mantissa, or is the least one. -/
theorem targetExponent_eq (m : Nat) (e : Int) :
    Format.binary64.targetExponent (totalExponent m e) = max (m.log2 + e - 52) (-1074) := by
  have hmin : Format.binary64.minExponent = -1074 := rfl
  have hbits : Format.binary64.mantissaBits = 53 := rfl
  unfold Format.targetExponent totalExponent
  rw [hmin, hbits]
  omega

/-- A mantissa that has few enough bits stays as it is, with its exponent.  This is the last step of
    rounding, after which nothing is left to be shifted out. -/
theorem shift_small {m : Nat} {e : Int} (hm : m < 2 ^ 53) (he : -1074 ≤ e) :
    shiftToTargetExponent .binary64 m e .exact = (⟨m, false, false⟩, e) := by
  have hlog : m.log2 ≤ 52 := by
    by_cases h : m = 0
    · simp [h]
    · have := (Nat.log2_lt h).mpr hm
      omega
  have hshift : (Format.binary64.targetExponent (totalExponent m e) - e).toNat = 0 := by
    rw [targetExponent_eq]
    omega
  unfold shiftToTargetExponent shiftToExponent
  simp only [hshift]
  exact Prod.ext rfl (Int.add_zero e)

/-- One that rounding made a bit too long drops its last bit, which is zero. -/
theorem shift_full {e : Int} (he : -1074 ≤ e) :
    shiftToTargetExponent .binary64 (2 ^ 53) e .exact = (⟨2 ^ 52, false, false⟩, e + 1) := by
  have hshift : (Format.binary64.targetExponent (totalExponent (2 ^ 53) e) - e).toNat = 1 := by
    rw [targetExponent_eq, Nat.log2_two_pow]
    omega
  unfold shiftToTargetExponent shiftToExponent
  simp only [hshift]
  rfl

section Rounding

variable {s : Sign} {m : Nat} {e : Int} {acc : Accuracy} {q : ℚ}

/-- The bits that are left have the length of a mantissa: no more than 53, and no fewer unless the
    exponent is the least. -/
theorem stored_shift {k : Nat} (hbits : 52 ≤ m.log2 ∨ e ≤ -1074)
    (hk : e + k = max (m.log2 + e - 52) (-1074)) :
    m < 2 ^ (53 + k) ∧ (2 ^ (52 + k) ≤ m ∨ e + k = -1074) := by
  have hlow : m.log2 ≤ 52 + k := by omega
  refine ⟨Nat.lt_of_lt_of_le Nat.lt_log2_self (Nat.pow_le_pow_right (by decide) (by omega)), ?_⟩
  by_cases hmin : e + k = -1074
  · exact .inr hmin
  · refine .inl ?_
    have hlog : m.log2 = 52 + k := by omega
    have hm : m ≠ 0 := by
      rintro rfl
      rw [Nat.log2_zero] at hlog
      omega
    rw [← hlog]
    exact Nat.log2_self_le hm

/-- A float has no finer unit than a number below it that fills a mantissa; otherwise it would have
    fewer than 53 bits before that number's last. -/
theorem unit_le {b k : Nat} {j : Int} (hb : b < 2 ^ 53) (hfull : 2 ^ (52 + k) ≤ m)
    (h : (m : ℚ) * 2 ^ e ≤ b * 2 ^ j) : e + k ≤ j := by
  by_contra hlt
  have hb : (b : ℚ) < 2 ^ (53 : Int) := by exact_mod_cast hb
  have hfull : (2 : ℚ) ^ (52 + k) ≤ m := by exact_mod_cast hfull
  have hlarge : (2 : ℚ) ^ (53 + j) ≤ m * 2 ^ e := by
    calc (2 : ℚ) ^ (53 + j) ≤ 2 ^ (((52 + k : Nat) : Int) + e) :=
          zpow_le_zpow_right₀ (by norm_num) (by omega)
      _ = 2 ^ (52 + k) * 2 ^ e := by rw [zpow_add₀ two_ne_zero, zpow_natCast]
      _ ≤ m * 2 ^ e := mul_le_mul_of_nonneg_right hfull (by positivity)
  have hsmall : (b : ℚ) * 2 ^ j < 2 ^ (53 + j) := by
    rw [zpow_add₀ two_ne_zero]
    exact mul_lt_mul_of_pos_right hb (by positivity)
  linarith

/-- Once it is shifted to the exponent it gets, a number is still below each float above it, because
    that float is a whole number of its units. -/
theorem rounded_le {k : Nat} (hq : IsBound q) (hfull : 2 ^ (52 + k) ≤ m ∨ e + k = -1074)
    (h : (roundedUp (.ofMantissaAndAccuracy m acc) : ℚ) * 2 ^ e ≤ q) :
    (((ExtendedMantissa.ofMantissaAndAccuracy m acc) >>> k).roundedMantissa : ℚ) * 2 ^ (e + k)
      ≤ q := by
  obtain ⟨b, j, hb, hj, -, rfl⟩ := hq
  have hm : (m : ℚ) * 2 ^ e ≤ b * 2 ^ j := by
    have hup : (m : ℚ) ≤ roundedUp (.ofMantissaAndAccuracy m acc) := by
      exact_mod_cast (roundedUp_bounds m acc).1
    exact le_trans (mul_le_mul_of_nonneg_right hup (by positivity)) h
  have hunit : e + k ≤ j := by
    rcases hfull with hfull | hmin
    · exact unit_le hb hfull hm
    · omega
  -- the float is a whole number of the units that the number is rounded to
  have hnat := (le_of_scaled (show e ≤ j by omega)).mp h
  have hsplit : (j - e).toNat = (j - (e + k)).toNat + k := by omega
  rw [hsplit, Nat.pow_add, ← Nat.mul_assoc] at hnat
  rw [le_of_scaled hunit]
  exact (roundedMantissa_le _).trans (roundedUp_shift_le k hnat)

/-- Rounding gives a double, and does not pass one.  What is left of the mantissa may be rounded up
    to 53 bits and one; then it is shifted once more, by a bit that is zero. -/
theorem within_roundWithAccuracy (hq : IsBound q) (hbits : 52 ≤ m.log2 ∨ e ≤ -1074)
    (h : (roundedUp (.ofMantissaAndAccuracy m acc) : ℚ) * 2 ^ e ≤ q) :
    Within q (roundWithAccuracy .binary64 s m e acc) := by
  set k := (Format.binary64.targetExponent (totalExponent m e) - e).toNat with hkdef
  have hk : e + k = max (m.log2 + e - 52) (-1074) := by
    rw [hkdef, targetExponent_eq]
    omega
  have hfirst : shiftToTargetExponent .binary64 m e acc
      = ((ExtendedMantissa.ofMantissaAndAccuracy m acc) >>> k, e + k) := rfl
  obtain ⟨hshort, hfull⟩ := stored_shift hbits hk
  have hvalue := rounded_le hq hfull h
  have hexponent : -1074 ≤ e + k := by omega
  unfold roundWithAccuracy
  rw [hfirst]
  dsimp only
  set r := ((ExtendedMantissa.ofMantissaAndAccuracy m acc) >>> k).roundedMantissa with hrdef
  have hrhigh : r ≤ 2 ^ 53 := by
    refine (roundedMantissa_le _).trans (roundedUp_shift_le k ?_)
    have := (roundedUp_bounds m acc).2
    rw [← Nat.pow_add]
    omega
  -- rounding does not take bits away from a full mantissa
  have hrlow : 2 ^ 52 ≤ r ∨ e + k = -1074 := by
    refine hfull.imp_left fun hfull => ?_
    have hbelow := mantissa_le_roundedMantissa ((ExtendedMantissa.ofMantissaAndAccuracy m acc) >>> k)
    rw [mantissa_shift, mantissa_ofMantissaAndAccuracy] at hbelow
    refine le_trans ?_ hbelow
    rwa [Nat.le_div_iff_mul_le (by positivity), ← Nat.pow_add]
  -- either the mantissa has its length now, or it is the one power of two beyond
  rcases Nat.lt_or_eq_of_le hrhigh with hlt | heq
  · rw [shift_small hlt hexponent]
    by_cases hzero : r = 0
    · rw [dif_pos hzero]
      exact hq.nonneg
    · rw [dif_neg hzero]
      exact ⟨⟨hlt, hexponent, hrlow⟩, hvalue⟩
  · rw [heq, shift_full hexponent]
    refine ⟨⟨by norm_num, by omega, .inl le_rfl⟩, ?_⟩
    rw [heq] at hvalue
    calc ((2 ^ 52 : Nat) : ℚ) * 2 ^ (e + k + 1) = ((2 ^ 53 : Nat) : ℚ) * 2 ^ (e + k) := by
          rw [zpow_add_one₀ two_ne_zero]
          push_cast
          ring
      _ ≤ q := hvalue

/-- The same when the mantissa is first filled up with zeros, which changes the exponent and not the
    value. -/
theorem within_round (hq : IsBound q) (hm : m ≠ 0) (h : (m : ℚ) * 2 ^ e ≤ q) :
    Within q (UnpackedFloat.round .binary64 s m e) := by
  unfold UnpackedFloat.round decreaseExponent
  dsimp only
  rw [targetExponent_eq]
  set k := (e - max (m.log2 + e - 52) (-1074)).toNat with hk
  refine within_roundWithAccuracy hq ?_ ?_
  · rw [log2_shiftLeft hm]
    omega
  · show ((m <<< k + 0 : Nat) : ℚ) * 2 ^ (e - k) ≤ q
    rw [Nat.add_zero, Nat.shiftLeft_eq]
    rw [scale m (show e - k ≤ e by omega), show (e - (e - k)).toNat = k by omega] at h
    exact h

/-- A whole number in some unit is rounded like its magnitude, and zero is within every bound. -/
theorem within_normalize {n : Int} (hq : IsBound q) (h : (n.natAbs : ℚ) * 2 ^ e ≤ q) :
    Within q (UnpackedFloat.normalize .binary64 n e s) := by
  unfold UnpackedFloat.normalize
  cases hn : compare n 0 with
  | lt =>
    have hneg := Int.compare_eq_lt.mp hn
    refine within_round hq (by omega) ?_
    rwa [show (-n).toNat = n.natAbs by omega]
  | eq => exact hq.nonneg
  | gt =>
    have hpos := Int.compare_eq_gt.mp hn
    refine within_round hq (by omega) ?_
    rwa [show n.toNat = n.natAbs by omega]

end Rounding

end SyntheticTables
