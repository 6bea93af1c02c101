/-
  The floats in their order, and the intervals around them.

  The bits of a float below its sign, read as a number, count the magnitudes upwards from zero
  (`place`).  The interval of each positive double ends where that of the next one begins
  (`lowerEnd_succ`); the common end belongs to the one with an even mantissa, and the mantissas of
  neighbours differ in parity.  No number therefore rounds to two floats of one sign.
-/
import SyntheticTables.Proofs.Decimal.Shortest

namespace SyntheticTables.Decimal

open Float.Model (UnpackedFloat)

/-! ## Bits -/

/-- The bits of a float without its sign, as a number. -/
def place (x : Float) : Nat := x.toBits.toNat % 2 ^ 63

/-- The positive float whose bits make a number. -/
def atPlace (n : Nat) : Binary :=
  if n / 2 ^ 52 = 0 then ⟨n % 2 ^ 52, -1074, false⟩
  else ⟨2 ^ 52 + n % 2 ^ 52, (n / 2 ^ 52 : Nat) - 1075, n % 2 ^ 52 = 0 && n / 2 ^ 52 ≠ 1⟩

/-- The sign is the highest bit. -/
theorem isNegative_iff {x : Float} : isNegative x = true ↔ 2 ^ 63 ≤ x.toBits.toNat := by
  have hbits := x.toBits.toNat_lt
  have hshift : (x.toBits >>> 63).toNat = x.toBits.toNat / 2 ^ 63 := by
    simp [UInt64.toNat_shiftRight, Nat.shiftRight_eq_div_pow]
  unfold isNegative
  rw [decide_eq_true_eq, Ne, ← UInt64.toNat_inj, hshift]
  simp only [UInt64.toNat_zero]
  omega

/-- Two floats with the same bits are the same float. -/
theorem eq_of_toBits {x y : Float} (h : x.toBits = y.toBits) : x = y := by
  rcases x with ⟨⟨_, _⟩⟩
  rcases y with ⟨⟨_, _⟩⟩
  cases h
  rfl

/-- Sign and place make up the float, since together they are its bits. -/
theorem eq_of_place {x y : Float} (hsign : isNegative x = isNegative y) (hplace : place x = place y) :
    x = y := by
  have hiff : 2 ^ 63 ≤ x.toBits.toNat ↔ 2 ^ 63 ≤ y.toBits.toNat := by
    rw [← isNegative_iff, ← isNegative_iff, hsign]
  have hx := x.toBits.toNat_lt
  have hy := y.toBits.toNat_lt
  unfold place at hplace
  exact eq_of_toBits (UInt64.toNat_inj.mp (by omega))

/-- The exponent field is the upper part of the place. -/
theorem toNat_exponentField (x : Float) :
    ((x.toBits >>> 52) &&& 0x7ff).toNat = place x / 2 ^ 52 := by
  have hshift : (x.toBits >>> 52).toNat = x.toBits.toNat / 2 ^ 52 := by
    simp [UInt64.toNat_shiftRight, Nat.shiftRight_eq_div_pow]
  have hmask : ((x.toBits >>> 52) &&& 0x7ff).toNat = (x.toBits >>> 52).toNat % 2 ^ 11 := by
    rw [UInt64.toNat_and]
    exact Nat.and_two_pow_sub_one_eq_mod _ 11
  rw [hmask, hshift]
  unfold place
  omega

/-- The fraction is the lower part of the place. -/
theorem toNat_fraction (x : Float) : (x.toBits &&& 0xfffffffffffff).toNat = place x % 2 ^ 52 := by
  have hmask : (x.toBits &&& 0xfffffffffffff).toNat = x.toBits.toNat % 2 ^ 52 := by
    rw [UInt64.toNat_and]
    exact Nat.and_two_pow_sub_one_eq_mod _ 52
  rw [hmask]
  unfold place
  omega

/-- The exponent field of a finite float is not all ones, so its place is below that of infinity. -/
theorem place_lt {x : Float} (hx : x.isFinite = true) : place x < 2047 * 2 ^ 52 := by
  -- the upper bits of the place are the exponent field
  have hfield : (@UnpackedFloat.unpackExponent .binary64 x.toBits.toBitVec).toNat
      = place x / 2 ^ 52 := by
    have hbits : x.toBits.toBitVec.toNat = x.toBits.toNat := rfl
    unfold UnpackedFloat.unpackExponent place
    simp only [BitVec.toNat_cast, BitVec.extractLsb_toNat, Nat.shiftRight_eq_div_pow, hbits]
    omega
  -- all ones there would be an infinity or no number
  have hones : @UnpackedFloat.unpackExponent .binary64 x.toBits.toBitVec ≠ -1#11 := by
    intro h
    have hinf : x.isFinite = false := by
      have h : @UnpackedFloat.unpackExponent .binary64 x.toModel.toBits.toBitVec = -1#11 := h
      unfold Float.isFinite Float.Model.isFinite Float.Model.unpack UnpackedFloat.unpack
      dsimp only
      rw [if_pos h]
      split <;> rfl
    rw [hinf] at hx
    cases hx
  have hne : place x / 2 ^ 52 ≠ 2047 := by
    intro h
    exact hones (BitVec.eq_of_toNat_eq (hfield.trans h))
  have hlt : place x < 2 ^ 63 := Nat.mod_lt _ (by decide)
  omega

/-- What the bits of a finite float say of its magnitude. -/
theorem magnitude_of_isFinite {x : Float} (hx : x.isFinite = true) :
    magnitude x = if place x = 0 then .zero else .finite (atPlace (place x)) := by
  have hlt := place_lt hx
  unfold magnitude atPlace
  simp only [toNat_exponentField, toNat_fraction]
  rw [if_neg (by omega)]
  by_cases hfield : place x / 2 ^ 52 = 0
  · rw [if_pos hfield, if_pos hfield]
    exact if_congr (by omega) rfl rfl
  · rw [if_neg hfield, if_neg hfield, if_neg (by omega)]
    rfl

/-! ## Ends -/

namespace Binary

/-- Where the interval of a float begins. -/
def lowerEnd (b : Binary) : ℚ := b.lower * b.quarter

/-- Where the interval of a float ends. -/
def upperEnd (b : Binary) : ℚ := b.upper * b.quarter

/-- The interval of a float is not empty. -/
theorem lowerEnd_lt_upperEnd (b : Binary) : b.lowerEnd < b.upperEnd := by
  have hends : b.lower < b.upper := by
    unfold lower upper
    split <;> omega
  exact mul_lt_mul_of_pos_right (Nat.cast_lt.mpr hends) b.quarter_pos

variable {b c : Binary}

/-- With the same exponent, two intervals meet when their ends are the same number of quarters. -/
theorem ends_meet (hexp : c.exponent = b.exponent) (hends : c.lower = b.upper) :
    c.lowerEnd = b.upperEnd := by
  simp only [lowerEnd, upperEnd, quarter, hexp, hends]

/-- The quarters double where the exponent goes up. -/
theorem ends_meet_above (hexp : c.exponent = b.exponent + 1) (hends : 2 * c.lower = b.upper) :
    c.lowerEnd = b.upperEnd := by
  have hquarter : c.quarter = 2 * b.quarter := by
    unfold quarter
    rw [hexp, show b.exponent + 1 - 2 = 1 + (b.exponent - 2) by omega, zpow_add₀ (by norm_num),
      zpow_one]
  rw [lowerEnd, upperEnd, hquarter, ← hends]
  push_cast
  ring

end Binary

/-- The mantissa is even at even places and odd at odd ones. -/
theorem mantissa_atPlace (n : Nat) : (atPlace n).mantissa % 2 = n % 2 := by
  unfold atPlace
  split <;> dsimp only <;> omega

/-- Places between zero and infinity are those of positive doubles. -/
theorem isDouble_atPlace {n : Nat} (hpos : 0 < n) (hlt : n < 2047 * 2 ^ 52) :
    (atPlace n).IsDouble := by
  unfold atPlace
  split <;> constructor <;> dsimp only <;> omega

/-- The interval of a float begins where that of the float before it ends.  The mantissa goes up by
    one, or it starts again with the next exponent; and the least exponent stands for two fields. -/
theorem lowerEnd_succ (n : Nat) : (atPlace (n + 1)).lowerEnd = (atPlace n).upperEnd := by
  by_cases hlast : n % 2 ^ 52 + 1 < 2 ^ 52
  -- the mantissa goes up by one
  · have hfield : (n + 1) / 2 ^ 52 = n / 2 ^ 52 := by omega
    have hfraction : (n + 1) % 2 ^ 52 = n % 2 ^ 52 + 1 := by omega
    unfold atPlace
    rw [hfield, hfraction]
    split
    · refine Binary.ends_meet rfl ?_
      simp only [Binary.lower, Binary.upper, Binary.middle, Bool.false_eq_true, if_false]
      omega
    · refine Binary.ends_meet rfl ?_
      simp only [Binary.lower, Binary.upper, Binary.middle, Nat.add_one_ne_zero, decide_false,
        Bool.false_and, Bool.false_eq_true, if_false]
      omega
  -- the mantissa starts again at a power of two
  · have hfield : (n + 1) / 2 ^ 52 = n / 2 ^ 52 + 1 := by omega
    have hfraction : (n + 1) % 2 ^ 52 = 0 := by omega
    unfold atPlace
    rw [hfield, hfraction, if_neg (Nat.succ_ne_zero _)]
    split
    · rename_i hzero
      have hwide : (decide (0 = 0) && decide (n / 2 ^ 52 + 1 ≠ 1)) = false := by
        rw [hzero]
        rfl
      rw [hwide]
      refine Binary.ends_meet (by dsimp only; omega) ?_
      simp only [Binary.lower, Binary.upper, Binary.middle, Bool.false_eq_true, if_false]
      omega
    · rename_i hzero
      have hnarrow : (decide (0 = 0) && decide (n / 2 ^ 52 + 1 ≠ 1)) = true := by
        rw [decide_eq_true rfl, decide_eq_true (by omega), Bool.and_self]
      rw [hnarrow]
      refine Binary.ends_meet_above (by dsimp only; omega) ?_
      simp only [Binary.lower, Binary.upper, Binary.middle, if_true]
      omega

/-- Intervals come in the order of their floats.  By induction on the later place, interval by
    interval. -/
theorem upperEnd_le {n m : Nat} (h : n < m) : (atPlace n).upperEnd ≤ (atPlace m).lowerEnd := by
  induction m with
  | zero => omega
  | succ m ih =>
    rcases Nat.lt_succ_iff_lt_or_eq.mp h with hlt | rfl
    · calc (atPlace n).upperEnd ≤ (atPlace m).lowerEnd := ih hlt
        _ ≤ (atPlace m).upperEnd := (atPlace m).lowerEnd_lt_upperEnd.le
        _ = (atPlace (m + 1)).lowerEnd := (lowerEnd_succ m).symm
    · exact (lowerEnd_succ n).ge

/-- A number that rounds to a float does not round to a float above it.  Their intervals are apart,
    except that neighbours share an end, and that end belongs to the one whose mantissa is even. -/
theorem not_rounds_of_lt {n m : Nat} {r : ℚ} (h : n < m) (hn : (atPlace n).Rounds r) :
    ¬ (atPlace m).Rounds r := by
  intro hm
  have hupper : r ≤ (atPlace n).upperEnd := hn.between.2
  have hlower : (atPlace m).lowerEnd ≤ r := hm.between.1
  rcases Nat.lt_or_eq_of_le (Nat.succ_le_of_lt h) with hfar | rfl
  · have hgap : (atPlace n).upperEnd < (atPlace m).lowerEnd := by
      rw [← lowerEnd_succ n]
      exact ((atPlace (n + 1)).lowerEnd_lt_upperEnd).trans_le (upperEnd_le hfar)
    exact absurd (hlower.trans hupper) (not_le.mpr hgap)
  -- of two neighbours one has an odd mantissa, and its interval is open
  · have hend : (atPlace (n + 1)).lowerEnd = (atPlace n).upperEnd := lowerEnd_succ n
    unfold Binary.Rounds at hn hm
    rw [mantissa_atPlace] at hn hm
    rcases Nat.mod_two_eq_zero_or_one n with heven | hodd
    · rw [if_neg (by omega)] at hm
      have hlt : (atPlace (n + 1)).lowerEnd < r := hm.1
      exact absurd hlt (not_lt.mpr (hend ▸ hupper))
    · rw [if_neg (by omega)] at hn
      have hlt : r < (atPlace n).upperEnd := hn.2
      exact absurd hlt (not_lt.mpr (hend ▸ hlower))

/-- A number rounds to one positive float only, of the two at hand neither the lower nor the
    higher. -/
theorem place_eq_of_rounds {n m : Nat} {r : ℚ} (hn : (atPlace n).Rounds r)
    (hm : (atPlace m).Rounds r) : n = m := by
  rcases Nat.lt_trichotomy n m with h | h | h
  · exact absurd hm (not_rounds_of_lt h hn)
  · exact h
  · exact absurd hn (not_rounds_of_lt h hm)

end SyntheticTables.Decimal
