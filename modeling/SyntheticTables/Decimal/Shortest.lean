/-
  The fewest decimal digits that name a binary float.

  A finite positive double is m · 2^q.  The reals that round to it form an interval around it; its
  ends belong to it exactly when m is even, because halves go to the even neighbour.  On the grid of
  multiples of 10^e the only candidates are the two grid points on either side of the value, so the
  search walks from a coarse grid to a finer one and stops at the first grid with a point inside the
  interval.  Of two points inside, the nearer one is taken; `Tie` says what an exact tie does.

  All comparisons are made between natural numbers, with the powers of two and ten multiplied out.
-/

namespace SyntheticTables.Decimal

/-- A decimal number `digits · 10^exponent`. -/
structure Scaled where
  digits : Nat
  exponent : Int
  deriving Repr, DecidableEq, Inhabited

/-- Where a value goes that lies midway between two candidates: to the even one, or up. -/
inductive Tie where
  | toEven
  | up
  deriving Repr, DecidableEq

/-- A positive float `mantissa · 2^exponent`.  `narrowBelow` holds when the next float below is only
    half as far away as the next one above. -/
structure Binary where
  mantissa : Nat
  exponent : Int
  narrowBelow : Bool
  deriving Repr, DecidableEq

/-! ## The interval of a float, measured in quarters of its last binary place -/

namespace Binary

/-- Four times the mantissa: the value in quarters. -/
def middle (b : Binary) : Nat := 4 * b.mantissa

/-- The lower end of the interval: halfway to the next float below, which is nearer where the
    exponent changes. -/
def lower (b : Binary) : Nat := b.middle - (if b.narrowBelow then 1 else 2)

/-- The upper end of the interval: halfway to the next float above. -/
def upper (b : Binary) : Nat := b.middle + 2

/-- The factor that turns quarters into multiples of `10^e`, as a numerator. -/
def numerator (b : Binary) (e : Int) : Nat := Nat.pow 2 (b.exponent - 2).toNat * Nat.pow 10 (-e).toNat

/-- The factor that turns quarters into multiples of `10^e`, as a denominator. -/
def denominator (b : Binary) (e : Int) : Nat := Nat.pow 2 (2 - b.exponent).toNat * Nat.pow 10 e.toNat

/-- Whether `d · 10^e` rounds to the float: it lies in the interval, whose ends count when the
    mantissa is even. -/
def holds (b : Binary) (e : Int) (d : Nat) : Bool :=
  let num := b.numerator e
  let point := d * b.denominator e
  if b.mantissa % 2 = 0 then b.lower * num ≤ point && point ≤ b.upper * num
  else b.lower * num < point && point < b.upper * num

/-- The grid point of `10^e` that names the float, if there is one. -/
def onGrid? (tie : Tie) (b : Binary) (e : Int) : Option Nat :=
  let num := b.numerator e
  let den := b.denominator e
  let below := b.middle * num / den
  match b.holds e below, b.holds e (below + 1) with
  | false, false => none
  | true, false => some below
  | false, true => some (below + 1)
  | true, true =>
    let rest := 2 * (b.middle * num - below * den)
    if rest < den then some below
    else if den < rest then some (below + 1)
    else match tie with
      | .toEven => some (if below % 2 = 0 then below else below + 1)
      | .up => some (below + 1)

/-- Walks down from the grid of `10^e`, through at most `steps` finer grids, to the first that has a
    point in the interval. -/
def search (tie : Tie) (b : Binary) (e : Int) : (steps : Nat) → Scaled
  | 0 => ⟨b.middle * b.numerator e / b.denominator e, e⟩
  | steps + 1 =>
    match b.onGrid? tie e with
    | some d => ⟨d, e⟩
    | none => search tie b (e - 1) steps

/-- A power of ten above the value: `2^10 > 10^3`, so three tenths of the binary length suffice, with
    two places to spare for the rounding. -/
def ceiling (b : Binary) : Int :=
  let bits : Int := Nat.log2 b.mantissa + 1 + b.exponent
  Int.fdiv (bits * 30103) 100000 + 2

/-- The shortest decimal that names the float.  Seventeen digits always suffice; the walk starts a
    few places above the first digit. -/
def shortest (tie : Tie) (b : Binary) : Scaled :=
  b.search tie b.ceiling 22

end Binary

/-! ## Floats -/

/-- What a float is, apart from its sign. -/
inductive Magnitude where
  | zero
  | finite (b : Binary)
  | infinite
  | nan
  deriving Repr, DecidableEq

/-- Whether the sign bit is set; it is for minus zero too. -/
def isNegative (x : Float) : Bool := x.toBits >>> 63 ≠ 0

/-- Takes a double apart: 1 bit of sign, 11 of exponent, 52 of fraction. -/
def magnitude (x : Float) : Magnitude :=
  let bits := x.toBits
  let field := ((bits >>> 52) &&& 0x7ff).toNat
  let fraction := (bits &&& 0xfffffffffffff).toNat
  if field = 0x7ff then (if fraction = 0 then .infinite else .nan)
  else if field = 0 then
    (if fraction = 0 then .zero else .finite ⟨fraction, -1074, false⟩)
  else .finite ⟨0x10000000000000 + fraction, field - 1075, fraction = 0 && field ≠ 1⟩

end SyntheticTables.Decimal
