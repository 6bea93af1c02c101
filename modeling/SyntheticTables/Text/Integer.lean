/-
  Integers written out.
-/

namespace SyntheticTables.Text

/-! ## Digits -/

/-- The value of a digit; letters of either case go on after nine. -/
def digit? (c : Char) : Option Nat :=
  if '0' ≤ c && c ≤ '9' then some (c.toNat - '0'.toNat)
  else if 'a' ≤ c && c ≤ 'z' then some (c.toNat - 'a'.toNat + 10)
  else if 'A' ≤ c && c ≤ 'Z' then some (c.toNat - 'A'.toNat + 10)
  else none

/-- Goes on reading digits after the number `n`; a digit that the radix does not have ends the
    reading without a result. -/
def natFrom (radix n : Nat) : List Char → Option Nat
  | [] => some n
  | c :: rest => match digit? c with
    | some d => if d < radix then natFrom radix (n * radix + d) rest else none
    | none => none

/-- Reads a number that consists of digits and nothing else, of one digit at least. -/
def nat? (radix : Nat) : List Char → Option Nat
  | [] => none
  | digits => natFrom radix 0 digits

/-- Splits a sign off; the flag is set for a minus.  What has no sign is left as it stands. -/
def splitSign : List Char → Bool × List Char
  | '-' :: rest => (true, rest)
  | '+' :: rest => (false, rest)
  | other => (false, other)

/-- Reads an integer: an optional sign, then decimal digits and nothing else.  Leading zeros are
    read over, so one integer has many spellings. -/
def int? (cs : List Char) : Option Int :=
  let (negative, digits) := splitSign cs
  (nat? 10 digits).map fun n => if negative then -n else n

/-! ## Words -/

/-- The signed word of an integer that fits, and nothing for one that does not: reading never wraps
    around. -/
def toInt64? (i : Int) : Option Int64 :=
  if -0x8000000000000000 ≤ i && i < 0x8000000000000000 then some (Int64.ofInt i) else none

/-- Reads a signed 64-bit integer in any of its spellings. -/
def int64? (s : String) : Option Int64 := (int? s.toList).bind toInt64?

/-- Reads a natural number: an optional plus sign, then decimal digits. -/
def plainNat? : List Char → Option Nat
  | '+' :: rest => nat? 10 rest
  | digits => nat? 10 digits

/-- Reads an unsigned 64-bit integer; a number that is too large is not read at all. -/
def uint64? (s : String) : Option UInt64 :=
  match plainNat? s.toList with
  | some n => if n < 0x10000000000000000 then some n.toUInt64 else none
  | none => none

end SyntheticTables.Text
