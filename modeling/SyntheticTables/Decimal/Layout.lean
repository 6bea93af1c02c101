/-
  How a float is written down.

  Two layouts share the digits of `Decimal.Shortest`.  A JSON document always shows that a number is
  a float, by a point or an exponent, and goes over to exponents far from one.  A cell or a message
  shows plain digits, however many there are.
-/
import SyntheticTables.Decimal.Shortest

namespace SyntheticTables.Decimal

/-- The decisions that make a text of digits and an exponent. -/
structure Layout where
  /-- Whether a number whose first digit stands for `10^x` is written without an exponent. -/
  isPlain : (x : Int) → Bool
  /-- Whether a whole number keeps `.0`. -/
  keepsPoint : Bool
  tie : Tie
  nan : String
  infinity : String

/-- JSON: an exponent below `10^-5` and from `10^16` on, with its sign; there is no text for the
    numbers that are not finite. -/
def json : Layout where
  isPlain x := -5 ≤ x && x < 16
  keepsPoint := true
  tie := .toEven
  nan := "null"
  infinity := "null"

/-- Cells and messages: never an exponent, never an idle point. -/
def plain : Layout where
  isPlain _ := true
  keepsPoint := false
  tie := .up
  nan := "NaN"
  infinity := "inf"

/-- Some zeros in a row. -/
def zeros (n : Nat) : String := String.ofList (List.replicate n '0')

/-- The digits of `s` with the point in its place, and zeros where there are no digits. -/
def Layout.plainText (l : Layout) (s : Scaled) : String :=
  let digits := toString s.digits
  if 0 ≤ s.exponent then
    digits ++ zeros s.exponent.toNat ++ (if l.keepsPoint then ".0" else "")
  else
    let places := (-s.exponent).toNat
    if digits.length ≤ places then "0." ++ zeros (places - digits.length) ++ digits
    else
      let chars := digits.toList
      let whole := digits.length - places
      String.ofList (chars.take whole) ++ "." ++ String.ofList (chars.drop whole)

/-- One digit, the others after a point, and the exponent with its sign. -/
def exponentText (s : Scaled) (x : Int) : String :=
  let chars := (toString s.digits).toList
  let mark := if x < 0 then "e-" else "e+"
  let fraction := match chars.drop 1 with
    | [] => ""
    | rest => "." ++ String.ofList rest
  String.ofList (chars.take 1) ++ fraction ++ mark ++ toString x.natAbs

/-- The text of a positive number in a layout, which decides by the place of the first digit whether
    there is an exponent. -/
def Layout.scaledText (l : Layout) (s : Scaled) : String :=
  let x : Int := s.exponent + ((toString s.digits).length - 1 : Nat)
  if l.isPlain x then l.plainText s else exponentText s x

/-- The text of a float.  The sign is that of its sign bit, so minus zero has one; a number that is
    not finite may have no text of its own. -/
def Layout.text (l : Layout) (x : Float) : String :=
  let sign := if isNegative x then "-" else ""
  match magnitude x with
  | .nan => l.nan
  | .infinite => if l.infinity = "null" then l.infinity else sign ++ l.infinity
  | .zero => sign ++ (if l.keepsPoint then "0.0" else "0")
  | .finite b => sign ++ l.scaledText (b.shortest l.tie)

end SyntheticTables.Decimal
