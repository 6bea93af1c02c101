/-
  The source of randomness: an endless stream of 32-bit words.

  The words come in blocks of sixteen.  A block is computed from a key and its number by eight rounds
  of the ChaCha permutation; the key is spread out from a seed.  `Stream.next` takes one word and
  never skips any, so a 64-bit draw is two neighbouring words, the lower half first.
-/

namespace SyntheticTables

namespace ChaCha

/-- Rotates a word to the left by `n` bits; `n` is neither 0 nor more than 31 where it is used. -/
def rotate (x : UInt32) (n : UInt32) : UInt32 := (x <<< n) ||| (x >>> (32 - n))

/-- The sixteen words of a block, one field each, so that a round is straight-line code. -/
structure Block where
  w0 : UInt32
  w1 : UInt32
  w2 : UInt32
  w3 : UInt32
  w4 : UInt32
  w5 : UInt32
  w6 : UInt32
  w7 : UInt32
  w8 : UInt32
  w9 : UInt32
  w10 : UInt32
  w11 : UInt32
  w12 : UInt32
  w13 : UInt32
  w14 : UInt32
  w15 : UInt32
  deriving DecidableEq, Inhabited

/-- Mixes four words of a block: each is added to, or combined with, another one, and rotated, four
    times over. -/
@[inline] def quarter (a b c d : UInt32) : UInt32 × UInt32 × UInt32 × UInt32 :=
  let a := a + b
  let d := rotate (d ^^^ a) 16
  let c := c + d
  let b := rotate (b ^^^ c) 12
  let a := a + b
  let d := rotate (d ^^^ a) 8
  let c := c + d
  let b := rotate (b ^^^ c) 7
  (a, b, c, d)

/-- Two rounds: four quarters down the columns of the block, then four along its diagonals. -/
def doubleRound (x : Block) : Block :=
  let (a0, b0, c0, d0) := quarter x.w0 x.w4 x.w8 x.w12
  let (a1, b1, c1, d1) := quarter x.w1 x.w5 x.w9 x.w13
  let (a2, b2, c2, d2) := quarter x.w2 x.w6 x.w10 x.w14
  let (a3, b3, c3, d3) := quarter x.w3 x.w7 x.w11 x.w15
  let (a0, b1, c2, d3) := quarter a0 b1 c2 d3
  let (a1, b2, c3, d0) := quarter a1 b2 c3 d0
  let (a2, b3, c0, d1) := quarter a2 b3 c0 d1
  let (a3, b0, c1, d2) := quarter a3 b0 c1 d2
  ⟨a0, a1, a2, a3, b0, b1, b2, b3, c0, c1, c2, c3, d0, d1, d2, d3⟩

/-- Adds two blocks word by word; what does not fit a word is lost. -/
def Block.add (x y : Block) : Block :=
  ⟨x.w0 + y.w0, x.w1 + y.w1, x.w2 + y.w2, x.w3 + y.w3, x.w4 + y.w4, x.w5 + y.w5, x.w6 + y.w6,
   x.w7 + y.w7, x.w8 + y.w8, x.w9 + y.w9, x.w10 + y.w10, x.w11 + y.w11, x.w12 + y.w12,
   x.w13 + y.w13, x.w14 + y.w14, x.w15 + y.w15⟩

/-- The words behind the first, which wait until they are taken. -/
def Block.tail (x : Block) : List UInt32 :=
  [x.w1, x.w2, x.w3, x.w4, x.w5, x.w6, x.w7, x.w8, x.w9, x.w10, x.w11, x.w12, x.w13, x.w14, x.w15]

/-- The eight words of a key.  A seed determines all of them (`keyOfSeed`). -/
structure Key where
  k0 : UInt32
  k1 : UInt32
  k2 : UInt32
  k3 : UInt32
  k4 : UInt32
  k5 : UInt32
  k6 : UInt32
  k7 : UInt32
  deriving DecidableEq, Inhabited

/-- The block of a number before it is mixed: four constants, the key, the number, zeros. -/
def start (key : Key) (number : UInt64) : Block :=
  ⟨0x61707865, 0x3320646e, 0x79622d32, 0x6b206574,
   key.k0, key.k1, key.k2, key.k3, key.k4, key.k5, key.k6, key.k7,
   number.toUInt32, (number >>> 32).toUInt32, 0, 0⟩

/-- The block of a number: eight rounds, and the start added at the end, so that the rounds cannot
    be undone. -/
def block (key : Key) (number : UInt64) : Block :=
  let s := start key number
  (doubleRound (doubleRound (doubleRound (doubleRound s)))).add s

/-! ## Keys from seeds -/

/-- One step of the sequence that spreads a seed over the words of a key. -/
def spread (state : UInt64) : UInt64 := state * 6364136223846793005 + 11634580027462260723

/-- The key word of a state: its upper bits folded and rotated. -/
def keyWord (state : UInt64) : UInt32 :=
  let x := (((state >>> 18) ^^^ state) >>> 27).toUInt32
  let r := (state >>> 59).toUInt32
  (x >>> r) ||| (x <<< ((32 - r) % 32))

/-- The key of a seed: the words of eight steps of the sequence that begins with it. -/
def keyOfSeed (seed : UInt64) : Key :=
  let s0 := spread seed
  let s1 := spread s0
  let s2 := spread s1
  let s3 := spread s2
  let s4 := spread s3
  let s5 := spread s4
  let s6 := spread s5
  let s7 := spread s6
  ⟨keyWord s0, keyWord s1, keyWord s2, keyWord s3, keyWord s4, keyWord s5, keyWord s6, keyWord s7⟩

end ChaCha

/-! ## Streams -/

/-- A stream: the words that are ready, and the number of the block that comes after them.  Nothing
    else is remembered, so two streams with the same fields go on alike. -/
structure Stream where
  key : ChaCha.Key
  number : UInt64
  ready : List UInt32
  deriving Inhabited

namespace Stream

/-- The stream of a seed, before the first of its blocks. -/
def ofSeed (seed : UInt64) : Stream := ⟨ChaCha.keyOfSeed seed, 0, []⟩

/-- Takes one word; when none is ready, the next block is computed. -/
def next (s : Stream) : UInt32 × Stream :=
  match s.ready with
  | w :: rest => (w, { s with ready := rest })
  | [] =>
    let b := ChaCha.block s.key s.number
    (b.w0, { s with number := s.number + 1, ready := b.tail })

/-- Takes two words and puts them together; the first is the lower half. -/
def next64 (s : Stream) : UInt64 × Stream :=
  let (low, s) := s.next
  let (high, s) := s.next
  (low.toUInt64 ||| (high.toUInt64 <<< 32), s)

/-- A word that is ready is taken, and nothing is computed. -/
@[simp] theorem next_cons (key : ChaCha.Key) (number : UInt64) (w : UInt32) (ready : List UInt32) :
    next ⟨key, number, w :: ready⟩ = (w, ⟨key, number, ready⟩) := rfl

end Stream

end SyntheticTables
