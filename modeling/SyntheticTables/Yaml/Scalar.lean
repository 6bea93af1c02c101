/-
  What a YAML scalar stands for.

  A plain scalar is read by its spelling: nothing, a truth value, an integer, a float, and a text if
  it is none of these.  A quoted scalar is a text.  A tag of the core schema asks for one of the
  readings.
-/
import SyntheticTables.Json
import SyntheticTables.Decimal.Reading
import SyntheticTables.Yaml.Error

namespace SyntheticTables.Yaml

/-! ## Readings of a plain scalar -/

/-- Whether a plain scalar is nothing: it is empty, or one of four spellings. -/
def isNull (s : String) : Bool := s = "" || ["null", "Null", "NULL", "~"].contains s

/-- The truth value that a text spells, in small letters, in capitals, or with a capital in
    front. -/
def bool? (s : String) : Option Bool :=
  if ["true", "True", "TRUE"].contains s then some true
  else if ["false", "False", "FALSE"].contains s then some false
  else none

/-- Digits behind a zero make no number. -/
def isPadded (digits : List Char) : Bool :=
  match digits with
  | '0' :: rest => !rest.isEmpty && rest.all Char.isDigit
  | _ => false

/-- Reads the digits of an integer; their radix may be named in front of them. -/
def magnitude? : List Char → Option Nat
  | '0' :: 'x' :: rest => Text.nat? 16 rest
  | '0' :: 'o' :: rest => Text.nat? 8 rest
  | '0' :: 'b' :: rest => Text.nat? 2 rest
  | digits => if isPadded digits then none else Text.nat? 10 digits

/-- The integer that a text spells, and whether it has a minus. -/
def int? (s : String) : Option (Bool × Int) :=
  let (negative, rest) := Text.splitSign s.toList
  (magnitude? rest).map fun n => (negative, if negative then -n else n)

/-- How a plain scalar spells the floats that have no digits. -/
def specialFloat? (s : String) : Option Float :=
  let infinity : Float := 1.0 / 0.0
  if [".inf", ".Inf", ".INF", "+.inf", "+.Inf", "+.INF"].contains s then some infinity
  else if ["-.inf", "-.Inf", "-.INF"].contains s then some (-infinity)
  else if [".nan", ".NaN", ".NAN"].contains s then some (0.0 / 0.0)
  else none

/-- The floats, whose digits may start with zeros. -/
def paddedFloat? (s : String) : Option Float :=
  match specialFloat? s with
  | some x => some x
  | none => match Decimal.float? s.toList with
    | some x => if x.isFinite then some x else none
    | none => none

/-- Reads a float; digits behind an idle zero make none, so that such a scalar stays a text. -/
def float? (s : String) : Option Float :=
  if isPadded (Text.splitSign s.toList).2 then none else paddedFloat? s

/-- An integer as a number; one with a minus stays a signed word, even when it is zero.  One that
    fits 128 bits but not 64 is refused; a larger one is left to the floats. -/
def number? (negative : Bool) (i : Int) : Option (Except Error Json) :=
  if !negative && 0 ≤ i && i < 0x10000000000000000 then some (.ok (.ofUInt64 i.toNat.toUInt64))
  else if -0x8000000000000000 ≤ i && i ≤ 0 then some (.ok (.num (.negative (Int64.ofInt i))))
  else if -0x80000000000000000000000000000000 ≤ i && i < 0x100000000000000000000000000000000 then
    some (.error .integerTooLarge)
  else none

/-- The value of a plain scalar: the first of the readings that fits, and a text if none does. -/
def plainValue (s : String) : Except Error Json :=
  if isNull s then .ok .null
  else match bool? s with
    | some b => .ok (.bool b)
    | none => match (int? s).bind fun (negative, i) => number? negative i with
      | some r => r
      | none => match float? s with
        | some x => .ok (.ofFloat x)
        | none => .ok (.str s)

/-! ## Tags -/

/-- What a tag asks for: one of four readings, or none that is known here. -/
inductive Tag where
  | null
  | bool
  | int
  | float
  /-- A name that is private to the document; nothing that is read here has one. -/
  | localName
  /-- Any other name. -/
  | other
  deriving Repr, DecidableEq, Inhabited

/-- The reading a tag asks for. -/
def Tag.value (t : Tag) (s : String) : Except Error Json :=
  let required (r : Option Json) : Except Error Json :=
    match r with
    | some j => .ok j
    | none => .error .tagMismatch
  match t with
  | .null => required (if s ≠ "" && isNull s then some .null else none)
  | .bool => required ((bool? s).map .bool)
  | .int =>
    match (int? s).bind fun (negative, i) => number? negative i with
    | some r => r
    | none => .error .tagMismatch
  | .float => required ((paddedFloat? s).map .ofFloat)
  | .localName => .error .tagMismatch
  | .other => .ok (.str s)

/-- The value of a scalar.  A tag goes before its style, and a quoted scalar without a tag is a
    text. -/
def scalarValue (tag : Option Tag) (plain : Bool) (s : String) : Except Error Json :=
  match tag with
  | some t => t.value s
  | none => if plain then plainValue s else .ok (.str s)

end SyntheticTables.Yaml
