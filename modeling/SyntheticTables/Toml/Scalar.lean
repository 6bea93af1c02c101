/-
  Numbers and truth values of TOML.

  Integers are signed 64-bit words in four radixes, floats have a fraction or an exponent, and single
  underscores may stand between digits.
-/
import SyntheticTables.Json
import SyntheticTables.Decimal.Reading

namespace SyntheticTables.Toml

/-! ## Digits -/

/-- Drops the underscores that stand between two digits; nothing if one stands elsewhere. -/
def withoutUnderscores (isDigit : Char → Bool) : List Char → Option (List Char)
  | [] => some []
  | ['_'] => none
  | [c] => some [c]
  | c :: '_' :: d :: rest =>
    if isDigit c && isDigit d then (withoutUnderscores isDigit (d :: rest)).map (c :: ·) else none
  | c :: rest => if c = '_' then none else (withoutUnderscores isDigit rest).map (c :: ·)

/-- A decimal number does not begin with an idle zero. -/
def isPadded : List Char → Bool
  | '0' :: _ :: _ => true
  | _ => false

/-- Digits to the base sixteen, in letters of either case. -/
def isHexDigit (c : Char) : Bool := (Text.digit? c).any (· < 16)

/-! ## Values -/

/-- Reads digits in a radix that is named in front of them. -/
def radixNat? (radix : Nat) (cs : List Char) : Option Int :=
  ((withoutUnderscores isHexDigit cs).bind (Text.nat? radix)).map Int.ofNat

/-- Reads an integer of any size, in one of the four radixes.  Only decimal ones have a sign. -/
def int? : List Char → Option Int
  | '0' :: 'x' :: rest => radixNat? 16 rest
  | '0' :: 'o' :: rest => radixNat? 8 rest
  | '0' :: 'b' :: rest => radixNat? 2 rest
  | cs => do
    let (negative, digits) := Text.splitSign cs
    if isPadded digits then none
    else
      let n ← Text.nat? 10 (← withoutUnderscores Char.isDigit digits)
      return if negative then -n else n

/-- A point has digits on both sides. -/
def hasBarePoint (whole rest : List Char) : Bool :=
  match rest with
  | '.' :: more => whole.isEmpty || !(more.head?.any Char.isDigit)
  | _ => whole.isEmpty

/-- Reads a float with digits.  One too large is refused if it is positive. -/
def digitsFloat? (cs : List Char) : Option Float := do
  let cs ← withoutUnderscores Char.isDigit cs
  let unsigned := (Text.splitSign cs).2
  let whole := unsigned.takeWhile Char.isDigit
  if isPadded whole || hasBarePoint whole (unsigned.drop whole.length) then none
  else
    let x ← Decimal.float? cs
    if x == 1.0 / 0.0 then none else some x

/-- Reads a float; infinity and what is no number have names, which may have a sign. -/
def float? (cs : List Char) : Option Float :=
  let (negative, rest) := Text.splitSign cs
  let signed := fun (x : Float) => if negative then -x else x
  if rest = "inf".toList then some (signed (1.0 / 0.0))
  else if rest = "nan".toList then some (0.0 / 0.0)
  else digitsFloat? cs

/-- The value of a word that is not quoted: a truth value, an integer that fits, or a float. -/
def word? (cs : List Char) : Option Json :=
  if cs = "true".toList then some (.bool true)
  else if cs = "false".toList then some (.bool false)
  else match int? cs with
    | some i => (Text.toInt64? i).map .ofInt64
    | none => (float? cs).map .ofFloat

end SyntheticTables.Toml
