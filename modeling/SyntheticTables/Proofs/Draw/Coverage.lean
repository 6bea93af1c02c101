/-
  Draws reach all of their range.

  `Proofs/Random/Range` bounds what a draw gives; here is the other half.  For a number `r` below `n`
  there is a least word whose upper half, times `n`, is `r`.  Where that word lies too close to the
  next share the second word decides, and a zero adds no carry.  So each number of a range comes from
  one word or two, and since any words may stand in front of any stream, each comes before any state
  (`Draw.Spans`).
-/
import SyntheticTables.Proofs.Draw.Outcome
import SyntheticTables.Proofs.Random.Range

namespace SyntheticTables

/-! ## Streams that begin with given words -/

namespace Stream

/-- The stream with one more word in front. -/
def push (w : UInt32) (s : Stream) : Stream := { s with ready := w :: s.ready }

/-- The stream with the two halves of a word in front. -/
def push64 (w : UInt64) (s : Stream) : Stream := (s.push (w >>> 32).toUInt32).push w.toUInt32

/-- The word in front is the next one. -/
@[simp] theorem next_push (w : UInt32) (s : Stream) : (s.push w).next = (w, s) := rfl

/-- The halves of a word make the word: they have no bits in common, so joining them is adding the
    lower half to the upper one in its place. -/
theorem or_halves (w : UInt64) :
    w.toUInt32.toUInt64 ||| ((w >>> 32).toUInt32.toUInt64 <<< 32) = w := by
  apply UInt64.toNat_inj.mp
  have hw := w.toNat_lt
  have hlow : w.toNat % 2 ^ 32 < 2 ^ 32 := Nat.mod_lt _ (by decide)
  have hhigh : w.toNat / 2 ^ 32 % 2 ^ 32 = w.toNat / 2 ^ 32 := Nat.mod_eq_of_lt (by omega)
  have hshift : w.toNat / 2 ^ 32 * 2 ^ 32 % 2 ^ 64 = w.toNat / 2 ^ 32 * 2 ^ 32 :=
    Nat.mod_eq_of_lt (by omega)
  rw [UInt64.toNat_or, UInt64.toNat_shiftLeft, UInt32.toNat_toUInt64, UInt32.toNat_toUInt64,
    UInt64.toNat_toUInt32, UInt64.toNat_toUInt32, UInt64.toNat_shiftRight]
  show w.toNat % 2 ^ 32 ||| (w.toNat >>> 32 % 2 ^ 32) <<< 32 % 2 ^ 64 = w.toNat
  rw [Nat.shiftRight_eq_div_pow, hhigh, Nat.shiftLeft_eq, hshift, Nat.or_comm, ← Nat.shiftLeft_eq,
    ← Nat.shiftLeft_add_eq_or_of_lt hlow, Nat.shiftLeft_eq]
  omega

/-- So is the long word whose halves are in front: the lower half is read first. -/
@[simp] theorem next64_push64 (w : UInt64) (s : Stream) : (s.push64 w).next64 = (w, s) := by
  show (w.toUInt32.toUInt64 ||| ((w >>> 32).toUInt32.toUInt64 <<< 32), s) = (w, s)
  rw [or_halves]

end Stream

/-! ## The rule on the words -/

namespace Sample

/-- The least word that settles for `r`, when there are `n` numbers. -/
def leastWord (bits n r : Nat) : Nat := (r * wordCount bits + (n - 1)) / n

/-- The share of `r` begins at or before the least word times `n`, and less than `n` before it: this
    is what rounding up gives. -/
theorem leastWord_bounds (bits r : Nat) {n : Nat} (hn : 0 < n) :
    r * wordCount bits ≤ leastWord bits n r * n ∧
      leastWord bits n r * n < r * wordCount bits + n := by
  have hsplit := Nat.div_add_mod (r * wordCount bits + (n - 1)) n
  have hmod := Nat.mod_lt (r * wordCount bits + (n - 1)) hn
  have hcomm := Nat.mul_comm n ((r * wordCount bits + (n - 1)) / n)
  unfold leastWord
  constructor
  · omega
  · omega

/-- The least word is a word, since the share of the last number ends at the last word. -/
theorem leastWord_lt {bits n r : Nat} (hn : n ≤ wordCount bits) (hr : r < n) :
    leastWord bits n r < wordCount bits := by
  have hn0 : 0 < n := Nat.lt_of_le_of_lt (Nat.zero_le r) hr
  obtain ⟨-, hupper⟩ := leastWord_bounds bits r hn0
  -- the share of `r` ends where that of `r + 1` begins, which is not behind the last word
  have hshare : (r + 1) * wordCount bits ≤ n * wordCount bits := Nat.mul_le_mul_right _ hr
  rw [Nat.succ_mul] at hshare
  have hlt : leastWord bits n r * n < wordCount bits * n := by
    rw [Nat.mul_comm (wordCount bits)]
    omega
  exact Nat.lt_of_mul_lt_mul_right hlt

/-- Where the second word does not matter, the least word gives `r`. -/
theorem settled_leastWord {bits n r : Nat} (hn : n ≤ wordCount bits) (hr : r < n) :
    settled bits n (leastWord bits n r) = r := by
  have hn0 : 0 < n := Nat.lt_of_le_of_lt (Nat.zero_le r) hr
  obtain ⟨hlower, hupper⟩ := leastWord_bounds bits r hn0
  unfold settled
  apply Nat.div_eq_of_lt_le
  · exact hlower
  · rw [Nat.succ_mul]
    omega

/-- A second word of zero adds no carry. -/
theorem carried_zero (bits n first : Nat) : carried bits n first 0 = settled bits n first := by
  have hmod := Nat.mod_lt (first * n) (wordCount_pos bits)
  unfold carried
  rw [Nat.zero_mul, Nat.zero_div, Nat.add_zero, Nat.div_eq_of_lt hmod, Nat.add_zero]

/-! ## Draws -/

/-- Each number below `n` comes before any stream, and so does each word when `n` stands for all. -/
theorem exists_below64 {n r : UInt64} (hr : n ≠ 0 → r < n) (s : Stream) :
    ∃ t, below64 n t = (r, s) := by
  by_cases hn : n = 0
  · refine ⟨s.push64 r, ?_⟩
    simp [below64, hn]
  · have hlt := UInt64.lt_iff_toNat_lt.mp (hr hn)
    have hw : wordCount 64 = 2 ^ 64 := wordCount_eq _
    have hle : n.toNat ≤ wordCount 64 := by
      rw [hw]
      exact Nat.le_of_lt n.toNat_lt
    have hword := leastWord_lt hle hlt
    rw [hw] at hword
    have hfirst : (leastWord 64 n.toNat r.toNat).toUInt64.toNat = leastWord 64 n.toNat r.toNat :=
      UInt64.toNat_ofNat_of_lt' hword
    have hsettled := settled_leastWord hle hlt
    -- near the next share a second word is read: zero, which carries nothing
    by_cases hopen : isOpen 64 n.toNat (leastWord 64 n.toNat r.toNat) = true
    · refine ⟨(s.push64 0).push64 (leastWord 64 n.toNat r.toNat).toUInt64, ?_⟩
      simp [below64, hn, hfirst, hopen, carried_zero, hsettled]
    · refine ⟨s.push64 (leastWord 64 n.toNat r.toNat).toUInt64, ?_⟩
      simp [below64, hn, hfirst, hopen, hsettled]

/-- The same for short words, from which indices are drawn.  There is always a bound here, so no
    case stands for all words. -/
theorem exists_below32 {n r : UInt32} (hr : r < n) (s : Stream) : ∃ t, below32 n t = (r, s) := by
  have hlt := UInt32.lt_iff_toNat_lt.mp hr
  have hn : n ≠ 0 := by
    rintro rfl
    exact absurd hlt (Nat.not_lt_zero _)
  have hw : wordCount 32 = 2 ^ 32 := wordCount_eq _
  have hle : n.toNat ≤ wordCount 32 := by
    rw [hw]
    exact Nat.le_of_lt n.toNat_lt
  have hword := leastWord_lt hle hlt
  rw [hw] at hword
  have hfirst : (leastWord 32 n.toNat r.toNat).toUInt32.toNat = leastWord 32 n.toNat r.toNat :=
    UInt32.toNat_ofNat_of_lt' hword
  have hsettled := settled_leastWord hle hlt
  -- as for long words
  by_cases hopen : isOpen 32 n.toNat (leastWord 32 n.toNat r.toNat) = true
  · refine ⟨(s.push 0).push (leastWord 32 n.toNat r.toNat).toUInt32, ?_⟩
    simp [below32, hn, hfirst, hopen, carried_zero, hsettled]
  · refine ⟨s.push (leastWord 32 n.toNat r.toNat).toUInt32, ?_⟩
    simp [below32, hn, hfirst, hopen, hsettled]

/-- Each unsigned number of a range comes before any stream: the draw adds a number below the width
    to the lower end, and every such number can come. -/
theorem exists_uint64 {low high n : UInt64} (h : low ≤ high) (hlow : low ≤ n) (hhigh : n ≤ high)
    (s : Stream) : ∃ t, uint64 low high h t = (n, s) := by
  have hl := UInt64.le_iff_toNat_le.mp hlow
  have hh := UInt64.le_iff_toNat_le.mp hhigh
  have hsub : (n - low).toNat = n.toNat - low.toNat := UInt64.toNat_sub_of_le _ _ hlow
  have hdistance : width low high ≠ 0 → n - low < width low high := by
    intro hne
    rw [UInt64.lt_iff_toNat_lt, width_toNat h hne, hsub]
    omega
  obtain ⟨t, ht⟩ := exists_below64 hdistance s
  refine ⟨t, ?_⟩
  simp [uint64, ht, UInt64.add_comm low]

/-- Each integer of a range comes before any stream, whatever the signs of its ends. -/
theorem exists_int64 {low high i : Int64} (h : low ≤ high) (hlow : low ≤ i) (hhigh : i ≤ high)
    (s : Stream) : ∃ t, int64 low high h t = (i, s) := by
  by_cases hall : width low.toUInt64 high.toUInt64 = 0
  · -- all integers: the word itself is taken
    obtain ⟨t, ht⟩ := exists_below64 (n := 0) (r := i.toUInt64) (fun hne => absurd rfl hne) s
    refine ⟨t, ?_⟩
    simp [int64, hall, ht]
  · have hdistance : i.toUInt64 - low.toUInt64 < width low.toUInt64 high.toUInt64 := by
      have hli := Int64.le_iff_toInt_le.mp hlow
      have hih := Int64.le_iff_toInt_le.mp hhigh
      have hl := toInt_eq_cond low
      have hi := toInt_eq_cond i
      have hh := toInt_eq_cond high
      have hlw := low.toUInt64.toNat_lt
      have hiw := i.toUInt64.toNat_lt
      have hhw := high.toUInt64.toNat_lt
      have hwidth : (width low.toUInt64 high.toUInt64).toNat
          = (2 ^ 64 - low.toUInt64.toNat + high.toUInt64.toNat + 1) % 2 ^ 64 := by
        simp [width, UInt64.toNat_add, UInt64.toNat_sub]
      have hne : (width low.toUInt64 high.toUInt64).toNat ≠ 0 := by
        intro hzero
        exact hall (UInt64.toNat_inj.mp hzero)
      rw [UInt64.lt_iff_toNat_lt, UInt64.toNat_sub, hwidth]
      rw [hwidth] at hne
      omega
    obtain ⟨t, ht⟩ := exists_below64 (fun _ => hdistance) s
    refine ⟨t, ?_⟩
    simp [int64, ht, hall, UInt64.add_comm low.toUInt64]

/-- Each index comes before any stream. -/
theorem exists_index {n i : Nat} (hn : 0 < n) (hsmall : n < 0x100000000) (hi : i < n)
    (s : Stream) : ∃ t, index n hn t = (i, s) := by
  have hsize : n.toUInt32.toNat = n := UInt32.toNat_ofNat_of_lt' hsmall
  have hindex : i.toUInt32.toNat = i := UInt32.toNat_ofNat_of_lt' (Nat.lt_trans hi hsmall)
  have hlt : i.toUInt32 < n.toUInt32 := by
    rw [UInt32.lt_iff_toNat_lt, hsize, hindex]
    exact hi
  obtain ⟨t, ht⟩ := exists_below32 hlt s
  refine ⟨t, ?_⟩
  simp [index, hsmall, ht, hindex]

end Sample

/-! ## Draws of a run -/

/-- The draw never fails, gives nothing but these values, and gives each of them before any state. -/
structure Draw.Spans {α : Type} (P : α → Prop) (m : Draw α) : Prop where
  within : ∀ s : State, ∃ a s', m s = (.ok a, s') ∧ P a
  reaches : ∀ a, P a → ∀ s : State, ∃ stream, m { s with stream } = (.ok a, s)

namespace Draw

/-- A draw that only asks the sampler spans what the sampler gives before every stream. -/
theorem Spans.sample {α : Type} {P : α → Prop} {f : Stream → α × Stream}
    (hwithin : ∀ s, P (f s).1) (hreaches : ∀ a, P a → ∀ s, ∃ t, f t = (a, s)) :
    Spans P (sample f) where
  within s := ⟨(f s.stream).1, _, rfl, hwithin s.stream⟩
  reaches a ha s := by
    obtain ⟨t, ht⟩ := hreaches a ha s.stream
    refine ⟨t, ?_⟩
    simp [Draw.sample, ht]

/-- Two ways of saying what is spanned.  It has to be an equivalence: a weaker statement may not be
    reached, and a stronger one may be left. -/
theorem Spans.imp {α : Type} {P Q : α → Prop} {m : Draw α} (h : Spans P m)
    (hiff : ∀ a, P a ↔ Q a) : Spans Q m where
  within s := by
    obtain ⟨a, s', hrun, ha⟩ := h.within s
    exact ⟨a, s', hrun, (hiff a).mp ha⟩
  reaches a ha s := h.reaches a ((hiff a).mpr ha) s

/-- What is made of the values spans the image, if `Q` holds of nothing else. -/
theorem Spans.map {α β : Type} {P : α → Prop} {Q : β → Prop} {m : Draw α} {f : α → β}
    (h : Spans P m) (himage : ∀ b, Q b ↔ ∃ a, P a ∧ f a = b) : Spans Q (f <$> m) where
  within s := by
    obtain ⟨a, s', hrun, ha⟩ := h.within s
    refine ⟨f a, s', ?_, (himage _).mpr ⟨a, ha, rfl⟩⟩
    rw [map_eq_pure_bind, bind_eq_ok]
    exact ⟨a, s', hrun, rfl⟩
  reaches b hb s := by
    obtain ⟨a, ha, rfl⟩ := (himage b).mp hb
    obtain ⟨stream, hrun⟩ := h.reaches a ha s
    refine ⟨stream, ?_⟩
    rw [map_eq_pure_bind, bind_eq_ok]
    exact ⟨a, s, hrun, rfl⟩

/-- Between two numbers, whichever is the smaller. -/
def Between {α : Type} [LE α] (a b i : α) : Prop := (a ≤ i ∧ i ≤ b) ∨ (b ≤ i ∧ i ≤ a)

/-- The order of the ends does not matter. -/
theorem between_comm {α : Type} [LE α] {a b i : α} : Between a b i ↔ Between b a i := Or.comm

/-- With the ends in order, only one of the two ways is left. -/
theorem between_iff_of_le {a b i : Int64} (h : a ≤ b) : Between a b i ↔ a ≤ i ∧ i ≤ b := by
  constructor
  · rintro (hi | ⟨hb, ha⟩)
    · exact hi
    · exact ⟨Int64.le_trans h hb, Int64.le_trans ha h⟩
  · exact Or.inl

/-- An integer between two ends reaches every one of them, with the ends as they are given.  The
    draw swaps them if they are out of order, and this proof goes the same way. -/
theorem spans_int (a b : Int64) : Spans (Between a b) (int a b) := by
  unfold int
  split
  · rename_i h
    refine Spans.imp ?_ fun i => (between_iff_of_le h).symm
    exact .sample (Sample.int64_mem h) fun i hi => Sample.exists_int64 h hi.1 hi.2
  · rename_i h
    have hle := Int64.le_of_lt (Int64.not_le.mp h)
    refine Spans.imp ?_ fun i => (between_iff_of_le hle).symm.trans between_comm
    exact .sample (Sample.int64_mem hle) fun i hi => Sample.exists_int64 hle hi.1 hi.2

/-- A size that can only be one number takes nothing from the stream. -/
theorem size_of_eq {size : SizeSpec} (h : size.min = size.max) (s : State) :
    Draw.size size s = (.ok size.min.toNat, s) := by
  unfold Draw.size
  rw [if_pos h]
  rfl

/-- An unsigned word of a range, taken as a count. -/
theorem spans_uint64 {low high : UInt64} (h : low ≤ high) :
    Spans (fun n => low.toNat ≤ n ∧ n ≤ high.toNat)
      (UInt64.toNat <$> sample (Sample.uint64 low high h)) := by
  refine Spans.map (P := fun n => low ≤ n ∧ n ≤ high)
    (.sample (Sample.uint64_mem h) fun n hn => Sample.exists_uint64 h hn.1 hn.2) fun n => ?_
  constructor
  · intro hn
    -- a count up to the upper end is the word it is drawn as
    have hword : n.toUInt64.toNat = n :=
      UInt64.toNat_ofNat_of_lt' (Nat.lt_of_le_of_lt hn.2 high.toNat_lt)
    refine ⟨n.toUInt64, ⟨?_, ?_⟩, hword⟩
    · rw [UInt64.le_iff_toNat_le, hword]
      exact hn.1
    · rw [UInt64.le_iff_toNat_le, hword]
      exact hn.2
  · rintro ⟨m, ⟨hlow, hhigh⟩, rfl⟩
    exact ⟨UInt64.le_iff_toNat_le.mp hlow, UInt64.le_iff_toNat_le.mp hhigh⟩

/-- A size reaches every count between its ends.  When there is one count only, nothing is drawn. -/
theorem spans_size (size : SizeSpec) :
    Spans (Between size.min.toNat size.max.toNat) (Draw.size size) := by
  by_cases heq : size.min = size.max
  · -- one number only
    constructor
    · intro s
      refine ⟨size.min.toNat, s, size_of_eq heq s, Or.inl ⟨Nat.le_refl _, ?_⟩⟩
      exact Nat.le_of_eq (congrArg UInt64.toNat heq)
    · intro n hn s
      have hmin : n = size.min.toNat := by
        rw [← heq] at hn
        rcases hn with hn | hn
        · omega
        · omega
      subst hmin
      exact ⟨s.stream, size_of_eq heq s⟩
  · unfold Draw.size
    rw [if_neg heq]
    split
    · rename_i h
      have hle := UInt64.le_iff_toNat_le.mp h
      refine (spans_uint64 h).imp fun n => ?_
      unfold Between
      omega
    · rename_i h
      have hle := Nat.le_of_lt (UInt64.lt_iff_toNat_lt.mp (UInt64.not_le.mp h))
      refine (spans_uint64 _).imp fun n => ?_
      unfold Between
      omega

end Draw

namespace Context

/-- A word is the one that an index points at. -/
theorem word_of_index {c : Context} {s : State} {i : Nat} {stream : Stream}
    (h : Sample.index c.vocabulary.size c.nonempty s.stream = (i, stream))
    (hi : i < c.vocabulary.size) : c.word s = (.ok c.vocabulary[i], { s with stream }) := by
  have hget : c.vocabulary.getD i "" = c.vocabulary[i] := by
    rw [Array.getD_eq_getD_getElem?, Array.getElem?_eq_getElem hi]
    rfl
  show (Except.ok (c.vocabulary.getD (Sample.index c.vocabulary.size c.nonempty s.stream).1 ""),
      { s with stream := (Sample.index c.vocabulary.size c.nonempty s.stream).2 }) = _
  rw [h, hget]

/-- Integers and sizes are drawn from between their ends, in whichever order these are given, and
    words from the vocabulary; none of these draws fails, and nothing that may be drawn is out of
    reach: some stream gives it, whatever the state that the draw is to leave. -/
theorem draws_span (c : Context) (hsmall : c.vocabulary.size < 0x100000000) :
    (∀ a b : Int64, (Draw.int a b).Spans (Draw.Between a b)) ∧
    (∀ size : SizeSpec,
      (Draw.size size).Spans (Draw.Between size.min.toNat size.max.toNat) ∧
      (size.min = size.max → ∀ s, Draw.size size s = (.ok size.min.toNat, s))) ∧
    (∀ s : State, ∃ i, ∃ hi : i < c.vocabulary.size, ∃ s', c.word s = (.ok c.vocabulary[i], s')) ∧
    ∀ i, ∀ hi : i < c.vocabulary.size, ∀ s : State, ∃ stream,
      Sample.index c.vocabulary.size c.nonempty stream = (i, s.stream) ∧
      c.word { s with stream } = (.ok c.vocabulary[i], s) := by
  refine ⟨Draw.spans_int, ?_, ?_, ?_⟩
  · intro size
    exact ⟨Draw.spans_size size, Draw.size_of_eq⟩
  · intro s
    have hlt := Sample.index_lt c.nonempty s.stream
    exact ⟨_, hlt, _, word_of_index rfl hlt⟩
  · intro i hi s
    obtain ⟨stream, hstream⟩ := Sample.exists_index c.nonempty hsmall hi s.stream
    exact ⟨stream, hstream, word_of_index (s := { s with stream }) hstream hi⟩

/-- The greatest integer comes from all integers with their ends swapped, zero from the sizes up to
    the greatest one, and the last of two words from some stream that goes on from the seed. -/
theorem draws_span_ends :
    let c : Context := ⟨"en_US", #["alpha", "beta"], by decide, 1, 0.5⟩
    c.vocabulary.size < 0x100000000 ∧
    (∃ stream, Draw.int Int64.maxValue Int64.minValue { State.ofSeed 0 with stream } =
      (.ok Int64.maxValue, State.ofSeed 0)) ∧
    (∃ stream, Draw.size (.range 18446744073709551615 0) { State.ofSeed 0 with stream } =
      (.ok 0, State.ofSeed 0)) ∧
    ∃ stream, c.word { State.ofSeed 0 with stream } = (.ok "beta", State.ofSeed 0) := by
  intro c
  have hsmall : c.vocabulary.size < 0x100000000 := by decide
  obtain ⟨hint, hsize, -, hword⟩ := c.draws_span hsmall
  refine ⟨hsmall, ?_, ?_, ?_⟩
  · exact (hint Int64.maxValue Int64.minValue).reaches _ (by unfold Draw.Between; decide) _
  · exact (hsize (.range 18446744073709551615 0)).1.reaches 0 (by unfold Draw.Between; decide) _
  · obtain ⟨stream, -, hrun⟩ := hword 1 (by decide) (State.ofSeed 0)
    exact ⟨stream, hrun⟩

end Context

end SyntheticTables
