/-
  The value of a number in JSON text.

  The significand is taken from the leading digits that fit into 64 bits.  Digits past those count
  only for the exponent when they stand before the point, and not at all behind it.  An integer that
  fits keeps its value; everything else is the float that one multiplication or division by a power
  of ten gives.
-/
import SyntheticTables.Json

namespace SyntheticTables.Json

/-- A number as it is written: the digits before the point, those behind it, and the exponent. -/
structure Numeral where
  negative : Bool
  whole : List Char
  fraction : List Char
  /-- Sign and digits of the exponent; the flag is set for a minus. -/
  exponent : Option (Bool × List Char)
  deriving Repr, DecidableEq, Inhabited

/-- The value of a decimal digit. -/
def digitValue (c : Char) : Nat := c.toNat - '0'.toNat

/-- Takes digits into a significand as long as it fits, and counts those taken and those left over. -/
def absorb (significand taken : Nat) : List Char → Nat × Nat × Nat
  | [] => (significand, taken, 0)
  | c :: rest =>
    let next := significand * 10 + digitValue c
    if next < 0x10000000000000000 then absorb next (taken + 1) rest
    else (significand, taken, rest.length + 1)

/-- The decimal exponent of a long number of digits stops at the largest 32-bit word. -/
def exponentValue (digits : List Char) : Option Nat :=
  let n := digits.foldl (fun n c => n * 10 + digitValue c) 0
  if n < 0x80000000 then some n else none

/-- `f · 10^exponent`, with one multiplication or division (two below `10^-308`); nothing when the
    result is too large. -/
def scale (f : Float) (exponent : Int) : Option Float :=
  if 0 ≤ exponent then
    if 308 < exponent then (if f == 0.0 then some f else none)
    else
      let y := f * Float.ofScientific 1 false exponent.toNat
      if y.isInf then none else some y
  else
    let n := (-exponent).toNat
    if n ≤ 308 then some (f / Float.ofScientific 1 false n)
    else
      let g := f / Float.ofScientific 1 false 308
      if n ≤ 616 then some (g / Float.ofScientific 1 false (n - 308)) else some 0.0

/-- The value, or nothing when no float is large enough.  Only a numeral without point and exponent
    can be an integer, and minus zero is a float. -/
def Numeral.value (t : Numeral) : Option Number :=
  let (sigWhole, _, restWhole) := absorb 0 0 t.whole
  if t.fraction.isEmpty && t.exponent.isNone && restWhole = 0 && !(t.negative && sigWhole = 0)
      && !(t.negative && 0x8000000000000000 < sigWhole) then
    some (if t.negative then .negative (Int64.ofInt (-sigWhole)) else .unsigned sigWhole.toUInt64)
  else
    -- as many digits as fit a word: those left over in front of the point only move it, and those
    -- left over behind it are dropped
    let (significand, taken, _) := absorb sigWhole 0 t.fraction
    let start : Int := (restWhole : Int) - (taken : Int)
    let f := significand.toUInt64.toFloat
    let signed := fun (x : Float) => Number.float (if t.negative then -x else x)
    match t.exponent with
    | none => (scale f start).map signed
    | some (minus, digits) =>
      match exponentValue digits with
      | some n => (scale f (if minus then start - n else start + n)).map signed
      -- an exponent that fits no word: too large a number, unless all digits are zero or it is
      -- negative
      | none => if significand ≠ 0 && !minus then none else some (signed 0.0)

end SyntheticTables.Json
