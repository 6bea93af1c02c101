/-
  How far from zero the results of float operations are.

  The bounds of `Within` are carried from the exact results to the doubles that the operations give:
  packing changes nothing about a number that is bounded by a double (`unpack_pack`).  What a weighted
  mean needs of its parts follows: a float times one up to 1 is finite, and a finite float plus one that
  is a number is a number.
-/
import SyntheticTables.Proofs.Float.Rounding
import Mathlib

namespace SyntheticTables

open Float.Model Float.Model.UnpackedFloat

/-! ## Packing -/

section Packing

variable {s : Sign} {m : Nat} {e : Int} {q : ℚ} {f : UnpackedFloat}

/-- With all bits in use, the leading one is not stored, so unpacking puts it back. -/
theorem unpack_normal {x : BitVec 11} (y : BitVec 52) (hzero : x ≠ 0#11) (hones : x ≠ -1#11) :
    UnpackedFloat.unpack .binary64 (packComponents .binary64 s x y)
      = .finite s (2 ^ 52 + y.toNat) (x.toNat - 1075) (by positivity) := by
  have hmantissa : (1#1 ++ y).toNat = 2 ^ 52 + y.toNat := by
    rw [BitVec.toNat_append, ← Nat.shiftLeft_add_eq_or_of_lt y.isLt]
    rfl
  unfold UnpackedFloat.unpack
  simp only [unpackExponent_packComponents, unpackMantissa_packComponents,
    unpackSign_packComponents, Sign.ofBitVec_toBitVec, hmantissa]
  rw [if_neg hones, if_neg hzero]
  rfl

/-- With the least exponent the leading bit is not in use, and the stored ones are all there are. -/
theorem unpack_subnormal {y : BitVec 52} (h : y ≠ 0#52) :
    UnpackedFloat.unpack .binary64 (packComponents .binary64 s 0#11 y)
      = .finite s y.toNat (-1074) (Nat.pos_of_ne_zero fun h0 => h (BitVec.eq_of_toNat_eq h0)) := by
  have hones : (0#11 : BitVec 11) ≠ -1#11 := by decide
  unfold UnpackedFloat.unpack
  simp only [unpackExponent_packComponents, unpackMantissa_packComponents,
    unpackSign_packComponents, Sign.ofBitVec_toBitVec]
  rw [if_neg hones, if_pos trivial, dif_neg h]
  rfl

/-- Below the infinities, packing loses nothing: the exponent fits its field, and the mantissa its
    own once the leading bit is left out. -/
theorem unpack_pack_finite (hm : 0 < m) (hstored : Stored m e) (he : e ≤ 971) :
    UnpackedFloat.unpack .binary64 (UnpackedFloat.pack .binary64 (.finite s m e hm))
      = .finite s m e hm := by
  have hlow := hstored.exponent
  have hshort := hstored.mantissa
  obtain ⟨biased, hbiased⟩ : ∃ n : Nat, (n : Int) = e + 1075 := ⟨(e + 1075).toNat, by omega⟩
  have hfield : (e + Format.binary64.exponentBias
      + Format.binary64.mantissaBitsWithoutImplicit).toNat = biased := by
    show (e + (1023 : Nat) + (52 : Nat)).toNat = biased
    omega
  have hbits : Format.binary64.mantissaBits = 53 := rfl
  unfold UnpackedFloat.pack
  simp only [hfield, hbits]
  rw [if_neg (show ¬ 2 ^ 11 ≤ biased + 1 by omega)]
  -- a full mantissa is packed as a normal number, a shorter one with the exponent field zero
  by_cases hfull : 2 ^ 52 ≤ m
  · have hlog : m.log2 = 52 := (Nat.log2_eq_iff hm.ne').mpr ⟨hfull, hshort⟩
    have hexponent : (BitVec.ofNat 11 biased).toNat = biased := by
      rw [BitVec.toNat_ofNat]
      omega
    have hnot : ∀ x : BitVec 11, x.toNat ≠ biased → BitVec.ofNat 11 biased ≠ x :=
      fun x hx h => hx (by rw [← h, hexponent])
    rw [if_pos (by omega), unpack_normal _ (hnot _ (show 0 ≠ biased by omega))
      (hnot _ (show 2047 ≠ biased by omega))]
    simp only [finite.injEq, true_and, hexponent, BitVec.toNat_ofNat]
    omega
  · have hlog : m.log2 < 52 := (Nat.log2_lt hm.ne').mpr (by omega)
    have hmantissa : (BitVec.ofNat 52 m).toNat = m := by
      rw [BitVec.toNat_ofNat]
      omega
    have hpos : BitVec.ofNat 52 m ≠ 0#52 := by
      rw [ne_eq, ← BitVec.toNat_inj, hmantissa]
      exact hm.ne'
    rw [if_neg (by omega), unpack_subnormal hpos]
    simp only [finite.injEq, true_and, hmantissa]
    exact (hstored.full.resolve_left hfull).symm

/-- A number that is bounded by a double has an exponent that a double can have: with a full
    mantissa it would exceed the bound otherwise, and without one the exponent is the least. -/
theorem exponent_le (hq : IsBound q) (hstored : Stored m e) (h : (m : ℚ) * 2 ^ e ≤ q) :
    e ≤ 971 := by
  obtain ⟨b, j, hb, -, hj, rfl⟩ := hq
  rcases hstored.full with hfull | hmin
  · have := unit_le (k := 0) hb hfull h
    omega
  · omega

/-- What is bounded by a double is one. -/
theorem unpack_pack (hq : IsBound q) : ∀ {f : UnpackedFloat}, Within q f →
    (Float.Model.pack f).unpack = f
  | .zero _, _ => unpack_packedZero
  | .finite _ _ _ hm, h => unpack_pack_finite hm h.1 (exponent_le hq h.1 h.2)

end Packing

/-! ## Doubles -/

/-- The largest double. -/
def largest : ℚ := (2 ^ 53 - 1 : Nat) * 2 ^ (971 : Int)

/-- The largest double is a double. -/
theorem isBound_largest : IsBound largest := ⟨2 ^ 53 - 1, 971, by norm_num, by norm_num, by norm_num, rfl⟩

/-- So is 1. -/
theorem isBound_one : IsBound 1 := ⟨1, 0, by norm_num, by norm_num, by norm_num, by norm_num⟩

/-- No double is larger than the largest: its mantissa is at most that of the largest, in a unit
    that is no coarser. -/
theorem Stored.le_largest {m : Nat} {e : Int} (h : Stored m e) (he : e ≤ 971) :
    (m : ℚ) * 2 ^ e ≤ largest := by
  have hone : 1 ≤ 2 ^ (971 - e).toNat := Nat.one_le_two_pow
  have hm := h.mantissa
  unfold largest
  rw [le_of_scaled he]
  calc m ≤ (2 ^ 53 - 1) * 1 := by omega
    _ ≤ (2 ^ 53 - 1) * 2 ^ (971 - e).toNat := Nat.mul_le_mul_left _ hone

/-- Whatever its three fields hold, a finite double is bounded by the largest one.  The cases are
    the two ends of the exponent's range, where a double is not what it is in between. -/
theorem within_packComponents (s : Sign) (x : BitVec 11) (y : BitVec 52)
    (h : (UnpackedFloat.unpack .binary64 (packComponents .binary64 s x y)).isFinite = true) :
    Within largest (UnpackedFloat.unpack .binary64 (packComponents .binary64 s x y)) := by
  have hy : y.toNat < 2 ^ 52 := y.isLt
  by_cases hones : x = -1#11
  · -- infinities and what is no number
    unfold UnpackedFloat.unpack at h
    simp only [unpackExponent_packComponents] at h
    rw [if_pos hones] at h
    split at h <;> cases h
  · by_cases hzero : x = 0#11
    · subst hzero
      by_cases hnone : y = 0#52
      · subst hnone
        rw [show packComponents .binary64 s 0#11 0#52 = packedZero .binary64 s from rfl,
          unpack_packedZero]
        exact isBound_largest.nonneg
      · rw [unpack_subnormal hnone]
        -- below the least normal number, where the exponent is as low as it can be
        have hstored : Stored y.toNat (-1074) := ⟨by omega, by omega, .inr rfl⟩
        exact ⟨hstored, hstored.le_largest (by omega)⟩
    · rw [unpack_normal y hzero hones]
      have hx : x.toNat < 2 ^ 11 := x.isLt
      have hlow : x.toNat ≠ 0 := fun h => hzero (BitVec.eq_of_toNat_eq h)
      have hhigh : x.toNat ≠ 2047 := fun h => hones (BitVec.eq_of_toNat_eq h)
      -- a normal number has the leading bit that is not stored
      have hstored : Stored (2 ^ 52 + y.toNat) (x.toNat - 1075) :=
        ⟨by omega, by omega, .inl (by omega)⟩
      exact ⟨hstored, hstored.le_largest (by omega)⟩

/-- Every finite double is bounded by the largest one, since it is packed from its own
    components. -/
theorem within_largest {x : Float} (h : x.isFinite = true) : Within largest x.toModel.unpack := by
  have hparts := @packComponents_unpackSign_unpackExponent_unpackMantissa .binary64
    x.toModel.toBits.toBitVec
  have hfinite : (UnpackedFloat.unpack .binary64 x.toModel.toBits.toBitVec).isFinite = true := h
  show Within largest (UnpackedFloat.unpack .binary64 x.toModel.toBits.toBitVec)
  rw [← hparts] at hfinite ⊢
  exact within_packComponents _ _ _ hfinite

/-! ## Operations -/

section Operations

variable {p q r : ℚ}

/-- A product with a factor of at most 1 stays within the bound of the other factor.  The bound is a
    double itself, so rounding the product does not pass over it. -/
theorem within_mul (hq : IsBound q) : ∀ {a b : UnpackedFloat}, Within q a → Within 1 b →
    Within q (UnpackedFloat.mul .binary64 a b)
  | .zero _, .zero _, ha, _ => ha
  | .zero _, .finite .., ha, _ => ha
  | .finite .., .zero _, ha, _ => ha.nonneg
  | .finite _ m e hm, .finite _ m' e' hm', ha, hb => by
    refine within_roundWithAccuracy hq ?_ ?_
    · -- a factor with all bits in use gives a product with all bits in use
      have hlog : ∀ {n : Nat}, 2 ^ 52 ≤ n → 52 ≤ n.log2 := fun {n} hn =>
        (Nat.le_log2 (by omega)).mpr hn
      rcases ha.1.full, hb.1.full with ⟨ha | ha, hb | hb⟩
      · exact .inl (hlog (le_trans ha (Nat.le_mul_of_pos_right m hm')))
      · exact .inl (hlog (le_trans ha (Nat.le_mul_of_pos_right m hm')))
      · exact .inl (hlog (le_trans hb (Nat.le_mul_of_pos_left m' hm)))
      · omega
    -- the rational product of the two numbers is that of the mantissas, at the sum of the exponents
    · have hsplit : ((m * m' : Nat) : ℚ) * 2 ^ (e + e') = m * 2 ^ e * (m' * 2 ^ e') := by
        rw [zpow_add₀ two_ne_zero]
        push_cast
        ring
      calc ((m * m' : Nat) : ℚ) * 2 ^ (e + e') = m * 2 ^ e * (m' * 2 ^ e') := hsplit
        _ ≤ q * 1 := mul_le_mul ha.2 hb.2 (by positivity) hq.nonneg
        _ = q := mul_one q

/-- A difference of signed numbers is no further from zero than both are together. -/
theorem natAbs_apply_sub_le (s s' : Sign) (m m' : Nat) :
    (s.apply m - s'.apply m').natAbs ≤ m + m' := by
  cases s <;> cases s' <;> simp only [Sign.apply] <;> omega

/-- A difference stays within the sum of the bounds, if that is a double.  Both numbers are counted
    in the smaller of their units, where the subtraction is exact and only its result is rounded. -/
theorem within_sub (hr : IsBound r) (h : p + q ≤ r) : ∀ {a b : UnpackedFloat}, Within p a →
    Within q b → Within r (UnpackedFloat.sub .binary64 a b)
  | .zero s, .zero s', _, _ => by cases s <;> cases s' <;> exact hr.nonneg
  | .zero _, .finite .., ha, hb => ⟨hb.1, by linarith [ha.nonneg, hb.2]⟩
  | .finite .., .zero _, ha, hb => ⟨ha.1, by linarith [hb.nonneg, ha.2]⟩
  | .finite s m e _, .finite s' m' e' _, ha, hb => by
    -- both are counted in the smaller of their units, where they are subtracted as integers
    have hfirst := scale m (min_le_left e e')
    have hsecond := scale m' (min_le_right e e')
    rw [← Nat.shiftLeft_eq] at hfirst hsecond
    refine within_normalize hr ?_
    set k := m <<< (e - min e e').toNat
    set k' := m' <<< (e' - min e e').toNat
    have hsum : ((s.apply k - s'.apply k').natAbs : ℚ) ≤ k + k' := by
      exact_mod_cast natAbs_apply_sub_le s s' k k'
    calc ((s.apply k - s'.apply k').natAbs : ℚ) * 2 ^ min e e'
        ≤ (k + k') * 2 ^ min e e' := mul_le_mul_of_nonneg_right hsum (by positivity)
      _ = m * 2 ^ e + m' * 2 ^ e' := by rw [add_mul, hfirst, hsecond]
      _ ≤ r := by linarith [ha.2, hb.2]

/-- A quotient that is rounded up stays below a whole number above it.  If the division leaves a
    rest, then the quotient is below that number by one at least. -/
theorem roundedUp_quotient_le {m d n : Nat} (hd : 0 < d) (h : m ≤ d * n) :
    roundedUp (.ofMantissaAndAccuracy (m / d) (accuracyOfFraction (m % d) d)) ≤ n := by
  have hparts := Nat.div_add_mod m d
  unfold accuracyOfFraction
  split
  · rename_i hexact
    exact Nat.div_le_of_le_mul h
  · rename_i hrest
    have hlt : m / d < n := by
      rw [Nat.div_lt_iff_lt_mul hd, Nat.mul_comm]
      refine Nat.lt_of_le_of_ne h fun heq => hrest ?_
      rw [heq, Nat.mul_mod_right]
    exact (roundedUp_bounds _ _).2.trans hlt

/-- Of two numbers, the larger one has no fewer digits before the point.  Division takes its number
    of extra digits from this comparison. -/
theorem log2_add_le {m m' : Nat} {e e' : Int} (hm : m ≠ 0) (h : (m : ℚ) * 2 ^ e ≤ m' * 2 ^ e') :
    m.log2 + e ≤ m'.log2 + e' := by
  have hlow : (2 : ℚ) ^ (m.log2 : Int) ≤ m := by exact_mod_cast Nat.log2_self_le hm
  have hhigh : (m' : ℚ) < 2 ^ (m'.log2 + 1 : Int) := by exact_mod_cast Nat.lt_log2_self (n := m')
  have hlt : (2 : ℚ) ^ (m.log2 + e) < 2 ^ (m'.log2 + 1 + e') := by
    rw [zpow_add₀ two_ne_zero, zpow_add₀ two_ne_zero]
    calc (2 : ℚ) ^ (m.log2 : Int) * 2 ^ e ≤ m * 2 ^ e :=
          mul_le_mul_of_nonneg_right hlow (by positivity)
      _ ≤ m' * 2 ^ e' := h
      _ < 2 ^ (m'.log2 + 1 : Int) * 2 ^ e' := mul_lt_mul_of_pos_right hhigh (by positivity)
  have := (zpow_lt_zpow_iff_right₀ (by norm_num)).mp hlt
  omega

/-- A quotient by something that is no smaller is at most 1.  The dividend is shifted far enough for
    the quotient to have all its bits, and 1 is a whole number of the units that it is counted in,
    so rounding stops there. -/
theorem within_div {s s' : Sign} {m m' : Nat} {e e' : Int} {hm : 0 < m} {hm' : 0 < m'}
    (h : (m : ℚ) * 2 ^ e ≤ m' * 2 ^ e') :
    Within 1 (UnpackedFloat.div .binary64 (.finite s m e hm) (.finite s' m' e' hm')) := by
  have hlog := log2_add_le hm.ne' h
  have htarget : Format.binary64.targetExponent (totalExponent m e - totalExponent m' e')
      = max (m.log2 + e - (m'.log2 + e') - 53) (-1074) := by
    unfold Format.targetExponent totalExponent
    rw [show Format.binary64.minExponent = -1074 from rfl,
      show Format.binary64.mantissaBits = 53 from rfl]
    omega
  unfold UnpackedFloat.div divCore
  simp only [htarget]
  -- `t` is the exponent of the result, and the dividend is shifted by `k` digits for it
  set t := min (e - e') (max (m.log2 + e - (m'.log2 + e') - 53) (-1074)) with ht
  set k := (e - e' - t).toNat with hk
  refine within_roundWithAccuracy isBound_one ?_ ?_
  · -- enough digits were added for the quotient to have all bits in use
    by_cases hmin : t ≤ -1074
    · exact .inr hmin
    · have hfull : 2 ^ 52 ≤ m <<< k / m' := by
        rw [Nat.le_div_iff_mul_le hm']
        calc 2 ^ 52 * m' ≤ 2 ^ 52 * 2 ^ (m'.log2 + 1) :=
              Nat.mul_le_mul_left _ Nat.lt_log2_self.le
          _ = 2 ^ (m'.log2 + 53) := by
              rw [← Nat.pow_add]
              congr 1
              omega
          _ ≤ 2 ^ (m.log2 + k) := Nat.pow_le_pow_right (by decide) (by omega)
          _ ≤ m <<< k := by
              rw [← log2_shiftLeft hm.ne' k]
              exact Nat.log2_self_le (by rw [Nat.shiftLeft_eq]; positivity)
      have hpos : m <<< k / m' ≠ 0 := by
        have : 0 < 2 ^ 52 := by positivity
        omega
      exact .inl ((Nat.le_log2 hpos).mpr hfull)
  -- the quotient is at most one, counted in units of `2 ^ t`
  · have hle : m <<< k ≤ m' * 2 ^ (-t).toNat := by
      have hshift : e - (e' + t) = k := by omega
      rw [scale m (show e' + t ≤ e by omega), scale m' (show e' + t ≤ e' by omega), hshift,
        show e' - (e' + t) = -t by omega, mul_le_mul_iff_of_pos_right (by positivity)] at h
      rw [Nat.shiftLeft_eq]
      exact_mod_cast h
    -- rounding it up does not pass over one, which is a whole number of units
    have hup : (roundedUp (.ofMantissaAndAccuracy (m <<< k / m')
        (accuracyOfFraction (m <<< k % m') m')) : ℚ) ≤ 2 ^ (-t) := by
      rw [show -t = ((-t).toNat : Int) by omega, zpow_natCast]
      exact_mod_cast roundedUp_quotient_le hm' hle
    calc _ ≤ (2 : ℚ) ^ (-t) * 2 ^ t := mul_le_mul_of_nonneg_right hup (by positivity)
      _ = 1 := by rw [← zpow_add₀ two_ne_zero, neg_add_cancel, zpow_zero]

theorem within_ofUInt64 {n : UInt64} (hq : IsBound q) (h : (n.toNat : ℚ) ≤ q) :
    Within q (UnpackedFloat.ofUInt64 .binary64 n) := by
  refine within_normalize hq ?_
  simpa using h

/-! ## Numbers -/

theorem roundWithAccuracy_ne_notANumber {s : Sign} {m : Nat} {e : Int} {acc : Accuracy} :
    roundWithAccuracy .binary64 s m e acc ≠ .notANumber := by
  unfold roundWithAccuracy
  simp only
  split <;> nofun

theorem normalize_ne_notANumber {n : Int} {e : Int} {s : Sign} :
    UnpackedFloat.normalize .binary64 n e s ≠ .notANumber := by
  unfold UnpackedFloat.normalize
  split
  · exact roundWithAccuracy_ne_notANumber
  · nofun
  · exact roundWithAccuracy_ne_notANumber

/-- The product of finite floats may be infinite, but it is a number. -/
theorem mul_ne_notANumber : ∀ {a b : UnpackedFloat}, a.isFinite = true → b.isFinite = true →
    UnpackedFloat.mul .binary64 a b ≠ .notANumber
  | .zero _, .zero _, _, _ => nofun
  | .zero _, .finite .., _, _ => nofun
  | .finite .., .zero _, _, _ => nofun
  | .finite .., .finite .., _, _ => roundWithAccuracy_ne_notANumber

/-- So is the sum of a number and a finite float. -/
theorem add_ne_notANumber : ∀ {a b : UnpackedFloat}, a ≠ .notANumber → b.isFinite = true →
    UnpackedFloat.add .binary64 a b ≠ .notANumber
  | .notANumber, _, ha, _ => absurd rfl ha
  | .infinity _, .zero _, _, _ => nofun
  | .infinity _, .finite .., _, _ => nofun
  | .zero s, .zero s', _, _ => by cases s <;> cases s' <;> nofun
  | .zero _, .finite .., _, _ => nofun
  | .finite .., .zero _, _, _ => nofun
  | .finite .., .finite .., _, _ => normalize_ne_notANumber

/-- Packing a number gives a number: infinities and what is no number have the same exponent, but
    other mantissas, and everything else has another exponent. -/
theorem unpack_pack_ne_notANumber {f : UnpackedFloat} (h : f ≠ .notANumber) :
    (Float.Model.pack f).unpack ≠ .notANumber := by
  show UnpackedFloat.unpack .binary64 (UnpackedFloat.pack .binary64 f) ≠ .notANumber
  rw [ne_eq, unpack_eq_notANumber_iff_of_valid valid_pack]
  -- what is no number has the exponent of the infinities, and a mantissa unlike theirs
  have hinfinity : ∀ s, packedInfinity .binary64 s ≠ packedNaN .binary64 := fun s hs => by
    have hmantissa := congrArg unpackMantissa hs
    simp only [packedInfinity, packedNaN, unpackMantissa_packComponents] at hmantissa
    exact absurd hmantissa (by decide)
  have hexponent : ∀ s (x : BitVec 11) y, x ≠ -1#11 →
      packComponents .binary64 s x y ≠ packedNaN .binary64 := fun s x y hx hs => by
    have hs := congrArg unpackExponent hs
    simp only [packedNaN, unpackExponent_packComponents] at hs
    exact hx hs
  cases f with
  | notANumber => exact absurd rfl h
  | infinity s => exact hinfinity s
  | zero s => exact hexponent s _ _ (by decide)
  | finite s m e hm =>
    unfold UnpackedFloat.pack
    simp only
    split
    · exact hinfinity s
    · rename_i hbiased
      split
      · refine hexponent s _ _ fun heq => ?_
        have heq := congrArg BitVec.toNat heq
        rw [BitVec.toNat_ofNat, Nat.mod_eq_of_lt (by omega)] at heq
        exact hbiased (by rw [heq]; decide)
      · exact hexponent s _ _ (by decide)

end Operations

end SyntheticTables
