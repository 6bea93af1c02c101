/-
  Intervals.

  An interval is a start and a drawn length; its end is their sum, or the greatest integer where the
  sum lies beyond that (`saturatingAdd_toInt_of_nonneg`).  So no interval is longer than its parameters
  say, and one is shorter than they say exactly where even the least length does not fit behind its
  start (`Node.draw_interval_within`).  The check of a tree compares starts with each other and
  lengths with each other; it does not add the two.
-/
import SyntheticTables.Proofs.Domain.Part

namespace SyntheticTables

open Draw

/-! ## Ends -/

/-- A sum whose second part is not negative can only leave the range at its upper end. -/
theorem Draw.saturatingAdd_toInt_of_nonneg {a b : Int64} (h : 0 ≤ b) :
    (saturatingAdd a b).toInt = min (a.toInt + b.toInt) Int64.maxValue.toInt := by
  have hzero : (0 : Int64).toInt = 0 := by decide
  have hb := Int64.le_iff_toInt_le.mp h
  have ha := Int64.minValue_le_toInt a
  by_cases hbeyond : Int64.maxValue.toInt < a.toInt + b.toInt
  · rw [saturatingAdd, if_pos hbeyond]
    omega
  · rw [saturatingAdd_toInt (by omega) (by omega)]
    omega

/-! ## Starts and lengths -/

/-- An interval that a range of starts and a range of lengths allow.  It has the least length at least
    where that fits behind the start, and nowhere else. -/
structure IntervalWithin (start length : IntRange) (first last : Int64) : Prop where
  start : start.Holds first
  ordered : first ≤ last
  longest : last.toInt - first.toInt ≤ length.max.toInt
  shortest : length.min.toInt ≤ last.toInt - first.toInt ↔
    first.toInt + length.min.toInt ≤ Int64.maxValue.toInt
  /-- The end is the start and some length, as far as integers go. -/
  summed : ∃ n, length.Holds n ∧ last.toInt = min (first.toInt + n.toInt) Int64.maxValue.toInt

/-- Start and length drawn from their ranges give such an interval, whether or not their sum is an
    integer of the range. -/
theorem IntervalWithin.of_saturatingAdd {start length : IntRange} (hlength : length.OfLengths)
    {first n : Int64} (hfirst : start.Holds first) (hn : length.Holds n) :
    IntervalWithin start length first (saturatingAdd first n) := by
  have hpos : 0 ≤ n := Int64.le_trans hlength.2 hn.1
  have hsum := saturatingAdd_toInt_of_nonneg (a := first) hpos
  -- everything in integers, where the sum is the smaller of two numbers
  have hzero : (0 : Int64).toInt = 0 := by decide
  have hmax : Int64.maxValue.toInt = 2 ^ 63 - 1 := by decide
  have hword := Int64.toInt_lt first
  have hn0 := Int64.le_iff_toInt_le.mp hpos
  have hlow := Int64.le_iff_toInt_le.mp hn.1
  have hhigh := Int64.le_iff_toInt_le.mp hn.2
  refine ⟨hfirst, ?_, ?_, ?_, n, hn, hsum⟩
  · rw [Int64.le_iff_toInt_le]
    omega
  · omega
  · constructor
    · -- an end so far away is still an integer of the range
      intro hlong
      omega
    · intro hfits
      omega

/-! ## Draws -/

namespace Node

variable {start length : IntRange} (c : Context) (missing : Draw String) (place : Place)

/-- No draw of an interval fails, and what it gives keeps the lengths that fit. -/
theorem gives_interval_within (hstart : start.Ordered) (hlength : length.OfLengths) :
    Gives (fun _ => False)
      (fun v => ∃ first last, v = .interval first last ∧ IntervalWithin start length first last)
      ((Node.interval start length).draw c missing place) := by
  rw [Node.draw]
  refine (gives_interval hstart hlength.1).bind fun _ ends hends => ?_
  obtain ⟨n, hfirst, hn, hlast⟩ := hends
  have hwithin := IntervalWithin.of_saturatingAdd hlength hfirst hn
  rw [← hlast] at hwithin
  exact .pure ⟨ends.1, ends.2, rfl, hwithin⟩

/-- A checked interval can be drawn from every state.  It starts where it may and is never longer than
    it may be; it is as long as it has to be just when that fits between its start and the greatest
    integer. -/
theorem draw_interval_within (h : (Node.interval start length).check = .ok ()) (s : State) :
    ∃ first last s', (Node.interval start length).draw c missing place s
        = (.ok (.interval first last), s') ∧ IntervalWithin start length first last := by
  have hwell := Node.check_eq_ok_iff.mp h
  rw [Node.WellFormed] at hwell
  obtain ⟨hstart, hlength⟩ := hwell
  obtain ⟨v, s', hdraw, first, last, rfl, hwithin⟩ :=
    (gives_interval_within c missing place hstart hlength).succeeds s
  exact ⟨first, last, s', hdraw, hwithin⟩

/-- With starts from ten below the greatest integer up to it and lengths up to 20, the check accepts
    the node, and from seed 0 an interval is drawn that keeps to the bounds, though some starts have
    no room for 20. -/
theorem draw_interval_within_corner :
    let n := Node.interval ⟨9223372036854775797, 9223372036854775807⟩ ⟨0, 20⟩
    n.check = .ok () ∧ ∃ first last s',
      n.draw Context.sparse (Context.sparse.missingName .spss) [] (.ofSeed 0)
        = (.ok (.interval first last), s') ∧
      IntervalWithin ⟨9223372036854775797, 9223372036854775807⟩ ⟨0, 20⟩ first last :=
  ⟨rfl, draw_interval_within _ _ _ rfl _⟩

/-- Five is the only length and three below the greatest integer the only start.  The node passes
    its check, and the interval that is drawn is three long: there is no more room behind its
    start. -/
theorem draw_interval_shortened :
    let n := Node.interval ⟨9223372036854775804, 9223372036854775804⟩ ⟨5, 5⟩
    n.check = .ok () ∧
      (n.draw Context.sparse (Context.sparse.missingName .spss) [] (.ofSeed 0)).1
        = .ok (.interval 9223372036854775804 9223372036854775807) ∧
      (9223372036854775807 : Int64).toInt - (9223372036854775804 : Int64).toInt
        < (5 : Int64).toInt := by
  intro n
  have hstart : IntRange.Ordered ⟨9223372036854775804, 9223372036854775804⟩ := Int64.le_refl _
  have hlength : IntRange.OfLengths ⟨5, 5⟩ :=
    ⟨Int64.le_refl 5, show (0 : Int64) ≤ 5 by decide⟩
  obtain ⟨v, s', hdraw, first, last, rfl, hwithin⟩ := (gives_interval_within Context.sparse
    (Context.sparse.missingName .spss) [] hstart hlength).succeeds (.ofSeed 0)
  obtain ⟨k, hk, hsum⟩ := hwithin.summed
  -- each range holds one integer only
  have hfirst : first = 9223372036854775804 :=
    Int64.le_antisymm hwithin.start.2 hwithin.start.1
  have hfive : k = 5 := Int64.le_antisymm hk.2 hk.1
  subst hfirst hfive
  have hlast : last = 9223372036854775807 := Int64.toInt_inj.mp (hsum.trans (by decide))
  subst hlast
  exact ⟨rfl, congrArg Prod.fst hdraw, by decide⟩

end Node

end SyntheticTables
