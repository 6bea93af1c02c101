/-
  Cells of columns of numbers.

  A float drawn between two finite ones lies between them, whichever is the smaller
  (`gives_float_between`).  The bounds of a column that leaves one out are completed first: without a
  lower bound the cells begin at zero, or at the upper bound if that is below zero, so they never pass
  the upper one.  Without an upper bound they end at 2⁶³.  A lower bound that stands alone beyond
  that turns the range around: the cells begin at 2⁶³ and end at the declared bound, so they lie below
  it.  In every other case they keep what the column declares (`cell_number_admitted`).
-/
import SyntheticTables.Proofs.Draw.Simple
import SyntheticTables.Proofs.Random.Float

namespace SyntheticTables

namespace Draw

variable {E : GenError → Prop} {a b : Float}

/-! ## Floats -/

/-- Between two finite floats in order, a drawn one lies between them; rounding does not carry it
    out. -/
theorem gives_float_of_le (ha : a.isFinite = true) (hb : b.isFinite = true) (h : a ≤ b) :
    Gives E (fun x => a ≤ x ∧ x ≤ b) (float a b) := by
  unfold float
  rw [if_pos h]
  exact .sample fun s => Sample.float_mem ha hb h s

/-- So it does when they are the other way round. -/
theorem gives_float_of_lt (ha : a.isFinite = true) (hb : b.isFinite = true) (h : b < a) :
    Gives E (fun x => b ≤ x ∧ x ≤ a) (float a b) := by
  have ha' := isNumber_of_isFinite ha
  have hb' := isNumber_of_isFinite hb
  unfold float
  rw [if_neg fun hab => (float_not_lt ha' hb').mpr hab h]
  exact .sample fun s => Sample.float_mem hb ha (float_le_of_lt hb' ha' h) s

end Draw

/-! ## Columns -/

namespace NumberType

/-- Bounds are finite, and in order if both are there. -/
structure Bounded (t : NumberType) : Prop where
  minimum : ∀ a ∈ t.minimum, a.isFinite = true
  maximum : ∀ b ∈ t.maximum, b.isFinite = true
  ordered : ∀ a ∈ t.minimum, ∀ b ∈ t.maximum, a ≤ b

/-- The number is within the bounds that the column declares. -/
structure Admits (t : NumberType) (x : Float) : Prop where
  minimum : ∀ a ∈ t.minimum, a ≤ x
  maximum : ∀ b ∈ t.maximum, x ≤ b

/-- Where the cells end: at the declared bound, or at 2⁶³. -/
def high (t : NumberType) : Float := t.maximum.getD 9223372036854775808.0

/-- Where they begin: at the declared bound, else at zero, or at their end if that is below zero. -/
def low (t : NumberType) : Float := t.minimum.getD (if t.high < 0.0 then t.high else 0.0)

/-- The lower bound stands alone, beyond what stands in for an upper one. -/
def Overreaches (t : NumberType) : Prop :=
  t.maximum = none ∧ ∃ a ∈ t.minimum, 9223372036854775808.0 < a

variable {t : NumberType}

/-- A lower bound alone is bounded if it is finite. -/
theorem bounded_of_minimum {a : Float} (h : a.isFinite = true) : Bounded { minimum := some a } where
  minimum _ ha := Option.mem_some.mp ha ▸ h
  maximum _ hb := absurd hb (Option.not_mem_none _)
  ordered _ _ _ hb := absurd hb (Option.not_mem_none _)

/-- A declared lower bound is where the cells begin. -/
theorem low_of_minimum {a : Float} (h : a ∈ t.minimum) : t.low = a := by
  unfold low
  rw [Option.mem_def.mp h, Option.getD_some]

/-- A declared upper bound is where they end. -/
theorem high_of_maximum {b : Float} (h : b ∈ t.maximum) : t.high = b := by
  unfold high
  rw [Option.mem_def.mp h, Option.getD_some]

/-- The end of the cells is finite, whether it is declared or not. -/
theorem Bounded.isFinite_high (ht : t.Bounded) : t.high.isFinite = true := by
  unfold high
  cases h : t.maximum with
  | none => rfl
  | some b => exact ht.maximum b h

/-- So is their beginning. -/
theorem Bounded.isFinite_low (ht : t.Bounded) : t.low.isFinite = true := by
  unfold low
  cases h : t.minimum with
  | none =>
    rw [Option.getD_none]
    split
    · exact ht.isFinite_high
    · rfl
  | some a => exact ht.minimum a h

/-- The completed bounds are in order unless a lower one stands alone beyond 2⁶³.  This is the one
    way in which completing them can go wrong. -/
theorem Bounded.low_le_high (ht : t.Bounded) (h : ¬ t.Overreaches) : t.low ≤ t.high := by
  have hhigh := isNumber_of_isFinite ht.isFinite_high
  have hlow := isNumber_of_isFinite ht.isFinite_low
  cases hmin : t.minimum with
  | none =>
    -- what stands in for a lower bound is not above the upper one
    unfold low
    rw [hmin, Option.getD_none]
    split
    · exact float_le_refl hhigh
    · rename_i hpos
      exact (float_not_lt (isNumber_of_isFinite rfl) hhigh).mp hpos
  | some a =>
    cases hmax : t.maximum with
    | some b =>
      rw [low_of_minimum hmin, high_of_maximum hmax]
      exact ht.ordered a hmin b hmax
    | none =>
      refine (float_not_lt hlow hhigh).mp fun hlt => h ⟨hmax, a, hmin, ?_⟩
      rwa [low_of_minimum hmin, high, hmax, Option.getD_none] at hlt

end NumberType

namespace Context

open Draw

variable (c : Context) {t : NumberType}

/-- The numbers of a column are within its bounds, or between what stands in for its upper bound and
    the lower one that is beyond that. -/
theorem gives_numberValue {E : GenError → Prop} (ht : t.Bounded) :
    Gives E (fun x => (¬ t.Overreaches → t.Admits x) ∧
      (t.Overreaches → ∀ a ∈ t.minimum, 9223372036854775808.0 ≤ x ∧ x ≤ a)) (c.numberValue t) := by
  show Gives E _ (float t.low t.high)
  by_cases h : t.Overreaches
  -- the bounds are the wrong way round, and the draw turns them
  · obtain ⟨hmax, a, ha, hlt⟩ := h
    have hhigh : t.high = 9223372036854775808.0 := by rw [NumberType.high, hmax, Option.getD_none]
    have hlow := NumberType.low_of_minimum ha
    rw [← hhigh, ← hlow] at hlt
    refine (gives_float_of_lt ht.isFinite_low ht.isFinite_high hlt).mono fun _ x hx =>
      ⟨fun hnot => absurd ⟨hmax, a, ha, by rwa [hhigh, hlow] at hlt⟩ hnot, fun _ a' ha' => ?_⟩
    rwa [hhigh, NumberType.low_of_minimum ha'] at hx
  · refine (gives_float_of_le ht.isFinite_low ht.isFinite_high (ht.low_le_high h)).mono fun _ x hx =>
      ⟨fun _ => ⟨fun a ha => ?_, fun b hb => ?_⟩, fun hover => absurd hover h⟩
    · exact NumberType.low_of_minimum ha ▸ hx.1
    · exact NumberType.high_of_maximum hb ▸ hx.2

/-- Every cell of a column of numbers is the text of a number.  The number is within the bounds that
    the column declares, unless the lower one stands alone beyond 2⁶³: then it is between 2⁶³ and the
    declared bound, on the wrong side of it. -/
theorem cell_number_admitted (ht : t.Bounded) (s : State) :
    ∃ x, (c.cell (.number t) s).1 = .ok (Decimal.plain.text x) ∧
      (¬ t.Overreaches → t.Admits x) ∧
      (t.Overreaches → ∀ a ∈ t.minimum, 9223372036854775808.0 ≤ x ∧ x ≤ a) := by
  have hcell : Gives (fun _ => False) (fun cell => ∃ x, cell = Decimal.plain.text x ∧
      (¬ t.Overreaches → t.Admits x) ∧
      (t.Overreaches → ∀ a ∈ t.minimum, 9223372036854775808.0 ≤ x ∧ x ≤ a))
      (c.cell (.number t)) :=
    (c.gives_numberValue ht).bind fun _ x hx => .pure ⟨x, rfl, hx⟩
  obtain ⟨new, -, hr⟩ := hcell s
  cases hresult : (c.cell (.number t) s).1 with
  | error e =>
    rw [hresult] at hr
    exact hr.elim
  | ok cell =>
    rw [hresult] at hr
    obtain ⟨x, rfl, hx⟩ := hr
    exact ⟨x, rfl, hx⟩

/-- A context with one word, which no cell of numbers asks for. -/
def sparse : Context := ⟨"en_US", #["word"], Nat.one_pos, 1000, 0.5⟩

/-- The input is a column with the lower bound 1.5 and no upper one, and the seed 8: the bound does
    not overreach, and the cell keeps it. -/
theorem cell_number_admitted_lone :
    let t : NumberType := { minimum := some 1.5 }
    t.Bounded ∧ ¬ t.Overreaches ∧
      ∃ x, (sparse.cell (.number t) (.ofSeed 8)).1 = .ok (Decimal.plain.text x) ∧ t.Admits x := by
  intro t
  have hbounded : t.Bounded := NumberType.bounded_of_minimum rfl
  have hnot : ¬ t.Overreaches := by
    rintro ⟨-, a, ha, hlt⟩
    cases ha
    exact absurd hlt (by decide)
  obtain ⟨x, hcell, hwithin, -⟩ := sparse.cell_number_admitted hbounded (.ofSeed 8)
  exact ⟨hbounded, hnot, x, hcell, hwithin hnot⟩

/-- The input is a column with the lower bound 1e20 and no upper one, and the seed 0: the cell is a
    number below the bound. -/
theorem cell_number_below_minimum :
    let t : NumberType := { minimum := some 1e20 }
    t.Bounded ∧
      ∃ x, (sparse.cell (.number t) (.ofSeed 0)).1 = .ok (Decimal.plain.text x) ∧ x < 1e20 := by
  intro t
  have hbounded : t.Bounded := NumberType.bounded_of_minimum rfl
  have hbelow : (sparse.numberValue t (.ofSeed 0)).1.toOption.any (· < 1e20) = true := by
    decide +kernel
  refine ⟨hbounded, ?_⟩
  rcases hvalue : sparse.numberValue t (.ofSeed 0) with ⟨e | x, s⟩
  · rw [hvalue] at hbelow
    cases hbelow
  · rw [hvalue] at hbelow
    refine ⟨x, ?_, of_decide_eq_true hbelow⟩
    show (sparse.numberCell t (.ofSeed 0)).1 = _
    unfold numberCell
    rw [bind_apply, hvalue]
    rfl

end Context

end SyntheticTables
