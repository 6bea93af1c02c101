/-
  The shortest decimal lies in the interval of its float.

  Read over the rationals, `Binary.holds` says that a grid point lies between the ends of the
  interval (`holds_iff`).  The walk of `Binary.search` may stop at any grid that has such a point; a
  grid finer than a quarter of the last binary place has one, since its point just below the value
  is close enough, and twenty-one steps down from the ceiling the grid is that fine.
-/
import SyntheticTables.Decimal.Shortest
import Mathlib.Algebra.Order.Field.Power
import Mathlib.Tactic.Linarith
import Mathlib.Tactic.Positivity
import Mathlib.Tactic.Ring
import Mathlib.Tactic.NormNum

namespace SyntheticTables.Decimal

/-- The number a decimal stands for. -/
def Scaled.value (s : Scaled) : ℚ := s.digits * 10 ^ s.exponent

namespace Binary

variable {b : Binary} {e : Int} {d : Nat}

/-- A quarter of the last binary place. -/
def quarter (b : Binary) : ℚ := 2 ^ (b.exponent - 2)

/-- A quarter of the last binary place is positive. -/
theorem quarter_pos (b : Binary) : 0 < b.quarter := by
  unfold quarter
  positivity

/-- A number rounds to the float: it lies between the ends of the interval, or at one of them when
    the mantissa is even. -/
def Rounds (b : Binary) (r : ℚ) : Prop :=
  if b.mantissa % 2 = 0 then b.lower * b.quarter ≤ r ∧ r ≤ b.upper * b.quarter
  else b.lower * b.quarter < r ∧ r < b.upper * b.quarter

/-- A number that rounds to the float lies between the ends of its interval, or at one of them. -/
theorem Rounds.between {r : ℚ} (h : b.Rounds r) :
    b.lower * b.quarter ≤ r ∧ r ≤ b.upper * b.quarter := by
  unfold Rounds at h
  split at h
  · exact h
  · exact ⟨h.1.le, h.2.le⟩

/-! ## Quarters and grid points -/

/-- The fraction that the search works with is a quarter of the last binary place, counted in
    multiples of `10^e`.  All its comparisons are between natural numbers for this reason. -/
theorem numerator_mul (b : Binary) (e : Int) :
    (b.numerator e : ℚ) * 10 ^ e = b.quarter * b.denominator e := by
  have h2 : (2 : ℚ) ^ (b.exponent - 2).toNat
      = 2 ^ (b.exponent - 2) * 2 ^ (2 - b.exponent).toNat := by
    rw [← zpow_natCast, ← zpow_natCast, ← zpow_add₀ (by norm_num)]
    congr 1
    omega
  have h10 : (10 : ℚ) ^ e.toNat = 10 ^ (-e).toNat * 10 ^ e := by
    rw [← zpow_natCast, ← zpow_natCast, ← zpow_add₀ (by norm_num)]
    congr 1
    omega
  simp only [numerator, denominator, quarter, Nat.pow_eq]
  push_cast
  rw [h2, h10]
  ring

/-- Both parts of the fraction are positive; here the lower one. -/
theorem denominator_pos (b : Binary) (e : Int) : 0 < b.denominator e := by
  simp only [denominator, Nat.pow_eq]
  positivity

/-- The upper part of the fraction is positive as well. -/
theorem numerator_pos (b : Binary) (e : Int) : 0 < b.numerator e := by
  simp only [numerator, Nat.pow_eq]
  positivity

section Grid

variable {n : Nat}

/-- A number of quarters, cleared of the denominator. -/
theorem scaled_quarters :
    (n : ℚ) * b.quarter * b.denominator e = (n * b.numerator e : ℕ) * 10 ^ e := by
  push_cast
  rw [mul_assoc, ← numerator_mul, mul_assoc]

/-- A point of the grid, cleared of the denominator. -/
theorem scaled_point :
    (d : ℚ) * 10 ^ e * b.denominator e = (d * b.denominator e : ℕ) * 10 ^ e := by
  push_cast
  ring

/-- Counting in multiples of `10^e` compares quarters with the points of that grid. -/
theorem quarters_le_iff :
    n * b.numerator e ≤ d * b.denominator e ↔ (n : ℚ) * b.quarter ≤ d * 10 ^ e := by
  have hden : (0 : ℚ) < b.denominator e := by exact_mod_cast b.denominator_pos e
  have hten : (0 : ℚ) < 10 ^ e := by positivity
  rw [← mul_le_mul_iff_of_pos_right hden, scaled_quarters, scaled_point,
    mul_le_mul_iff_of_pos_right hten, Nat.cast_le]

/-- The same comparison the other way round. -/
theorem le_quarters_iff :
    d * b.denominator e ≤ n * b.numerator e ↔ (d : ℚ) * 10 ^ e ≤ n * b.quarter := by
  have hden : (0 : ℚ) < b.denominator e := by exact_mod_cast b.denominator_pos e
  have hten : (0 : ℚ) < 10 ^ e := by positivity
  rw [← mul_le_mul_iff_of_pos_right hden, scaled_quarters, scaled_point,
    mul_le_mul_iff_of_pos_right hten, Nat.cast_le]

end Grid

/-- The search's test for a point of the grid is that it rounds to the float. -/
theorem holds_iff : b.holds e d = true ↔ b.Rounds (d * 10 ^ e) := by
  unfold holds Rounds
  split
  · simp only [Bool.and_eq_true, decide_eq_true_eq, quarters_le_iff, le_quarters_iff]
  · simp only [Bool.and_eq_true, decide_eq_true_eq, ← not_le, quarters_le_iff, le_quarters_iff]

/-! ## The walk -/

/-- A point that is chosen from a grid rounds to the float, however ties are resolved.  The
    search takes the point below, the point above or the nearer of the two, and has tested what
    it takes. -/
theorem holds_of_onGrid {tie : Tie} (h : b.onGrid? tie e = some d) : b.holds e d = true := by
  unfold onGrid? at h
  dsimp only at h
  split at h
  · cases h
  · cases h
    assumption
  · cases h
    assumption
  -- both neighbours hold; whichever the tie picks, it is one of them
  · rename_i hbelow habove
    split at h
    · cases h
      exact hbelow
    · split at h
      · cases h
        exact habove
      · split at h
        · split at h <;> cases h
          · exact hbelow
          · exact habove
        · cases h
          exact habove

/-- A grid finer than a quarter of the last binary place has a point for the float: already the
    point right below the value is one, as it is less than a quarter away. -/
theorem onGrid_of_fine {tie : Tie} (hm : 0 < b.mantissa)
    (hfine : b.denominator e ≤ b.numerator e) : ∃ d, b.onGrid? tie e = some d := by
  have hden := b.denominator_pos e
  have hnum := b.numerator_pos e
  -- the point below the value is less than a quarter away from it
  have hbelow : b.holds e (b.middle * b.numerator e / b.denominator e) = true := by
    have hle := Nat.div_mul_le_self (b.middle * b.numerator e) (b.denominator e)
    have hlt := Nat.lt_div_mul_add hden (a := b.middle * b.numerator e)
    have hlower : (b.lower + 1) * b.numerator e ≤ b.middle * b.numerator e := by
      refine Nat.mul_le_mul_right _ ?_
      unfold lower middle
      split <;> omega
    have hupper : b.middle * b.numerator e < b.upper * b.numerator e :=
      Nat.mul_lt_mul_of_pos_right (by unfold upper; omega) hnum
    rw [Nat.add_mul, Nat.one_mul] at hlower
    unfold holds
    split
    · simp only [Bool.and_eq_true, decide_eq_true_eq]
      omega
    · simp only [Bool.and_eq_true, decide_eq_true_eq]
      omega
  unfold onGrid?
  dsimp only
  rw [hbelow]
  -- with the point below at hand, any answer about the one above will do
  cases b.holds e (b.middle * b.numerator e / b.denominator e + 1) with
  | false => exact ⟨_, rfl⟩
  | true =>
    dsimp only
    split
    · exact ⟨_, rfl⟩
    · split
      · exact ⟨_, rfl⟩
      · cases tie <;> exact ⟨_, rfl⟩

/-- The walk finds a point if the last of its grids has one.  By induction on the steps that are
    left; it may stop earlier at a coarser grid. -/
theorem holds_search {tie : Tie} (steps : Nat) : ∀ {e : Int},
    (∃ d, b.onGrid? tie (e - steps) = some d) →
      b.holds (b.search tie e (steps + 1)).exponent (b.search tie e (steps + 1)).digits = true := by
  induction steps with
  | zero =>
    rintro e ⟨d, hd⟩
    have hd : b.onGrid? tie e = some d := by simpa using hd
    simp only [search, hd]
    exact holds_of_onGrid hd
  | succ steps ih =>
    rintro e hlast
    unfold search
    cases hd : b.onGrid? tie e with
    | some d => exact holds_of_onGrid hd
    | none =>
      have hshift : e - (steps + 1 : Nat) = e - 1 - steps := by omega
      exact ih (hshift ▸ hlast)

/-! ## Seventeen digits suffice -/

/-- A power of ten is at most a power of two with ten thirds of its exponent.  This rough bound is
    enough to see that the last grid of the walk is fine enough where the last place of the double
    is one or more. -/
theorem ten_pow_le (n : Nat) : 10 ^ n ≤ 2 ^ ((10 * n + 2) / 3) := by
  induction n using Nat.strongRecOn with
  | ind n ih =>
    match n with
    | 0 => decide
    | 1 => decide
    | 2 => decide
    | n + 3 =>
      have hexp : (10 * (n + 3) + 2) / 3 = (10 * n + 2) / 3 + 10 := by omega
      calc 10 ^ (n + 3) = 10 ^ n * 10 ^ 3 := by rw [pow_add]
        _ ≤ 2 ^ ((10 * n + 2) / 3) * 2 ^ 10 := Nat.mul_le_mul (ih n (by omega)) (by decide)
        _ = 2 ^ ((10 * (n + 3) + 2) / 3) := by rw [hexp, pow_add]

/-- A power of two is at most a power of ten with a little more than three tenths of its exponent;
    `28 / 93` is close enough for all doubles. -/
theorem two_pow_le (n : Nat) : 2 ^ n ≤ 10 ^ ((28 * n + 92) / 93) := by
  induction n using Nat.strongRecOn with
  | ind n ih =>
    by_cases hn : n < 93
    · have hsmall : ∀ n < 93, 2 ^ n ≤ 10 ^ ((28 * n + 92) / 93) := by decide +kernel
      exact hsmall n hn
    · obtain ⟨k, rfl⟩ : ∃ k, n = k + 93 := ⟨n - 93, by omega⟩
      have hexp : (28 * (k + 93) + 92) / 93 = (28 * k + 92) / 93 + 28 := by omega
      calc 2 ^ (k + 93) = 2 ^ k * 2 ^ 93 := by rw [pow_add]
        _ ≤ 10 ^ ((28 * k + 92) / 93) * 10 ^ 28 := Nat.mul_le_mul (ih k (by omega)) (by decide)
        _ = 10 ^ ((28 * (k + 93) + 92) / 93) := by rw [hexp, pow_add]

/-- A positive double. -/
structure IsDouble (b : Binary) : Prop where
  pos : 0 < b.mantissa
  mantissa_lt : b.mantissa < 2 ^ 53
  exponent_ge : -1074 ≤ b.exponent
  exponent_le : b.exponent ≤ 971

/-- The last grid of the walk is fine enough, because the ceiling is at most a digit too high and a
    double has at most 53 bits. -/
theorem IsDouble.fine (hb : b.IsDouble) :
    b.denominator (b.ceiling - 21) ≤ b.numerator (b.ceiling - 21) := by
  have hbits : Nat.log2 b.mantissa + 1 ≤ 53 :=
    (Nat.log2_lt hb.pos.ne').mpr hb.mantissa_lt
  have hlow := hb.exponent_ge
  have hhigh := hb.exponent_le
  have hceiling : b.ceiling - 21 ≤ (53 + b.exponent) * 30103 / 100000 - 19 := by
    unfold ceiling
    simp only [Int.fdiv_eq_ediv_of_nonneg _ (show (0 : Int) ≤ 100000 by decide)]
    omega
  simp only [denominator, numerator, Nat.pow_eq]
  by_cases hq : b.exponent < 2
  -- the last place is less than one, so the grid is that of a negative power
  · have hten : (b.ceiling - 21).toNat = 0 := by omega
    rw [hten, pow_zero, mul_one]
    refine le_trans (two_pow_le _) (le_trans (Nat.pow_le_pow_right (by decide) ?_)
      (Nat.le_mul_of_pos_left _ (by positivity)))
    omega
  · have htwo : (2 - b.exponent).toNat = 0 := by omega
    rw [htwo, pow_zero, one_mul]
    refine le_trans (ten_pow_le _) (le_trans (Nat.pow_le_pow_right (by decide) ?_)
      (Nat.le_mul_of_pos_right _ (by positivity)))
    omega

/-- The shortest decimal of a double rounds to it, so the text of a double is read back as the
    double. -/
theorem rounds_shortest (tie : Tie) (hb : b.IsDouble) : b.Rounds (b.shortest tie).value := by
  have hlast : ∃ d, b.onGrid? tie (b.ceiling - (21 : Nat)) = some d :=
    onGrid_of_fine hb.pos hb.fine
  exact holds_iff.mp (holds_search 21 hlast)

end Binary

end SyntheticTables.Decimal
