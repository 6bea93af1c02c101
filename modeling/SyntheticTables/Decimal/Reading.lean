/-
  Floats written out in decimal.

  A numeral stands for the float nearest to it; of two equally near the even one.
-/
import SyntheticTables.Text.Integer

namespace SyntheticTables.Decimal

/-- A numeral without its sign: the value is `significand · 10^exponent`. -/
structure Spelled where
  significand : Nat
  exponent : Int
  /-- How many digits the significand was written with. -/
  digits : Nat
  deriving Repr, DecidableEq, Inhabited

/-- The exponent behind its letter, if that is all that is left; with nothing left it is zero. -/
def exponent? : List Char → Option Int
  | [] => some 0
  | c :: rest => if c = 'e' || c = 'E' then Text.int? rest else none

/-- Reads digits with an optional point among them or at either end, and an optional exponent.
    There has to be a digit somewhere. -/
def spelled? (cs : List Char) : Option Spelled :=
  let whole := cs.takeWhile Char.isDigit
  let (fraction, rest) := match cs.dropWhile Char.isDigit with
    | '.' :: rest => (rest.takeWhile Char.isDigit, rest.dropWhile Char.isDigit)
    | rest => ([], rest)
  match Text.nat? 10 (whole ++ fraction), exponent? rest with
  | some significand, some e =>
    some ⟨significand, e - fraction.length, whole.length + fraction.length⟩
  | _, _ => none

/-- The nearest float.  An exponent far outside the range of floats decides alone, so that no large
    power is ever computed. -/
def Spelled.value (s : Spelled) : Float :=
  if s.significand = 0 || s.exponent + s.digits < -400 then 0.0
  else if 400 < s.exponent then Float.ofScientific 1 false 400
  else Float.ofScientific s.significand (s.exponent < 0) s.exponent.natAbs

/-- Reads a float: an optional sign, then a numeral and nothing else.  One too large becomes
    infinite. -/
def float? (cs : List Char) : Option Float :=
  let (negative, rest) := Text.splitSign cs
  (spelled? rest).map fun s => if negative then -s.value else s.value

/-- The floats that have names instead of digits. -/
def named? (name : List Char) : Option Float :=
  let name := String.ofList (name.map Char.toLower)
  if name = "inf" || name = "infinity" then some (1.0 / 0.0)
  else if name = "nan" then some (0.0 / 0.0)
  else none

/-- Reads a float, also one that is infinite or no number; names are in letters of either case. -/
def anyFloat? (cs : List Char) : Option Float :=
  let (negative, rest) := Text.splitSign cs
  match named? rest with
  | some x => some (if negative then -x else x)
  | none => float? cs

end SyntheticTables.Decimal
