/-
  Draws from a stream.

  A number below `n` is the upper half of a word times `n`.  The lower half tells whether the word
  fell into the last, incomplete share; then a second word decides by its carry whether the number
  goes up by one.  This is done with words of 64 bits for signed and unsigned words, and with words
  of 32 bits for indices and other small ranges.

  Nothing can be drawn from an empty range: a draw from a range asks for a proof that its ends are
  in order, an index for a proof that there is something to point at.
-/
import SyntheticTables.Random.Stream

namespace SyntheticTables

/-! ## The rule, on the words alone -/

namespace Sample

/-- How many words of some bits there are; written as a shift, because that is cheap to compute. -/
def wordCount (bits : Nat) : Nat := 1 <<< bits

/-- The shift is the power of two, which is the form that arithmetic has lemmas for. -/
theorem wordCount_eq (bits : Nat) : wordCount bits = Nat.pow 2 bits := Nat.one_shiftLeft bits

/-- Whether a first word leaves it open which number below `n` is meant: its share reaches into the
    next number's. -/
def isOpen (bits : Nat) (n first : Nat) : Bool := wordCount bits - n < first * n % wordCount bits

/-- The number below `n` that a first word gives when it settles the matter. -/
def settled (bits : Nat) (n first : Nat) : Nat := first * n / wordCount bits

/-- The number below `n` that two words give together: the second adds its carry. -/
def carried (bits : Nat) (n first second : Nat) : Nat :=
  settled bits n first +
    (first * n % wordCount bits + second * n / wordCount bits) / wordCount bits

/-- A number below `n`, drawn with 64-bit words; `n = 0` stands for all words.  The second word is
    taken only if the first one leaves it open. -/
def below64 (n : UInt64) (s : Stream) : UInt64 × Stream :=
  let (first, s) := s.next64
  if n = 0 then (first, s)
  else if isOpen 64 n.toNat first.toNat then
    let (second, s) := s.next64
    ((carried 64 n.toNat first.toNat second.toNat).toUInt64, s)
  else ((settled 64 n.toNat first.toNat).toUInt64, s)

/-- A number below `n`, drawn with 32-bit words; `n = 0` stands for all words.  It is `below64` with
    half the bits. -/
def below32 (n : UInt32) (s : Stream) : UInt32 × Stream :=
  let (first, s) := s.next
  if n = 0 then (first, s)
  else if isOpen 32 n.toNat first.toNat then
    let (second, s) := s.next
    ((carried 32 n.toNat first.toNat second.toNat).toUInt32, s)
  else ((settled 32 n.toNat first.toNat).toUInt32, s)

/-! ## Draws -/

/-- How many words an inclusive range holds; zero stands for all of them. -/
def width (low high : UInt64) : UInt64 := high - low + 1

/-- An integer from an inclusive range.  If the range holds all integers the word itself is taken,
    not its distance from the lower end. -/
def int64 (low high : Int64) (_ : low ≤ high) (s : Stream) : Int64 × Stream :=
  let n := width low.toUInt64 high.toUInt64
  let (r, s) := below64 n s
  (if n = 0 then r.toInt64 else (low.toUInt64 + r).toInt64, s)

/-- An unsigned number from an inclusive range: its distance from the lower end is drawn. -/
def uint64 (low high : UInt64) (_ : low ≤ high) (s : Stream) : UInt64 × Stream :=
  let (r, s) := below64 (width low high) s
  (low + r, s)

/-- An index into something of size `n`, which is not zero.  Only a size of more than 32 bits takes
    words of 64. -/
def index (n : Nat) (_ : 0 < n) (s : Stream) : Nat × Stream :=
  if n < 0x100000000 then
    let (r, s) := below32 n.toUInt32 s
    (r.toNat, s)
  else
    let (r, s) := below64 n.toUInt64 s
    (r.toNat, s)

/-- A float from 0 up to but not including 1: the upper 53 bits of a draw. -/
def unit (s : Stream) : Float × Stream :=
  let (x, s) := s.next64
  ((x >>> 11).toFloat / 9007199254740992.0, s)

/-- Cuts a float to a range.  It serves probabilities, and sums that rounding may have carried over
    an end. -/
def clamp (x low high : Float) : Float :=
  let x := if x < low then low else x
  if x > high then high else x

/-- True with the given probability.  Certainty takes nothing from the stream, impossibility does. -/
def chance (p : Float) (s : Stream) : Bool × Stream :=
  let p := clamp p 0.0 1.0
  if p == 1.0 then (true, s)
  else
    let (x, s) := s.next64
    (x < (p * 18446744073709551616.0).toUInt64, s)

/-- A float between two others.  The two parts are weighed apart, so that a span wider than the
    largest float does not overflow; a span that holds no float but its end takes nothing from the
    stream. -/
def float (low high : Float) (s : Stream) : Float × Stream :=
  if low ≥ high then (low, s)
  else
    let (u, s) := unit s
    (clamp (low * (1.0 - u) + high * u) low high, s)

end Sample

end SyntheticTables
