/-
  Draws from a range stay in the range.

  The rule on the words comes first: a number below `n` is the upper half of a word times `n`, and
  the carry that a second word may add never takes it to `n`, because the first word was too close to
  the next share for that only when the upper half is below the last one.  The draws of integers,
  sizes and indices follow.
-/
import SyntheticTables.Draw.Basic

namespace SyntheticTables.Sample

/-! ## The rule on the words -/

/-- There are words of every length. -/
theorem wordCount_pos (bits : Nat) : 0 < wordCount bits := by
  rw [wordCount_eq]
  exact Nat.pow_pos (by decide)

/-- Without a carry the number is below `n`, since it is the upper half of a word times `n`. -/
theorem settled_lt {bits n first : Nat} (hn : 0 < n) (hw : first < wordCount bits) :
    settled bits n first < n := by
  rw [settled, Nat.div_lt_iff_lt_mul (wordCount_pos bits), Nat.mul_comm n]
  exact Nat.mul_lt_mul_of_pos_right hw hn

/-- A carry is added only to a number that has room for it: the second word is looked at only where
    the first leaves the share open, and never in the last share. -/
theorem carried_lt {bits n first second : Nat} (hn : n ≤ wordCount bits)
    (h1 : first < wordCount bits) (h2 : second < wordCount bits)
    (hopen : isOpen bits n first = true) : carried bits n first second < n := by
  have hw := wordCount_pos bits
  have hopen : wordCount bits - n < first * n % wordCount bits := by simpa [isOpen] using hopen
  have hlow := Nat.mod_lt (first * n) hw
  have hsplit := Nat.div_add_mod (first * n) (wordCount bits)
  have hn0 : 0 < n := by omega
  -- the last share is complete up to `wordCount - n`, so an open word lies in a share before it
  have hroom : settled bits n first + 1 < n := by
    refine Nat.lt_of_not_le fun hge => ?_
    have hlast : n - 1 ≤ first * n / wordCount bits := by unfold settled at hge; omega
    have hprod : wordCount bits * (n - 1) ≤ wordCount bits * (first * n / wordCount bits) :=
      Nat.mul_le_mul_left _ hlast
    have hfirst : first * n ≤ (wordCount bits - 1) * n := Nat.mul_le_mul_right n (by omega)
    rw [Nat.sub_mul, Nat.one_mul] at hfirst
    rw [Nat.mul_sub, Nat.mul_one] at hprod
    have hbig : wordCount bits ≤ wordCount bits * n := Nat.le_mul_of_pos_right _ hn0
    omega
  have hsecond : second * n / wordCount bits < n := settled_lt hn0 h2
  have hcarry : (first * n % wordCount bits + second * n / wordCount bits) / wordCount bits ≤ 1 := by
    rw [Nat.div_le_iff_le_mul_add_pred hw]
    omega
  unfold carried
  omega

/-- A number below `n`, drawn from words of 64 bits, is below `n`: the first word falls into one of
    `n` shares, and the second can only carry it into the next one where there is a next one. -/
theorem below64_lt {n : UInt64} (hn : n ≠ 0) (s : Stream) : (below64 n s).1 < n := by
  have hpos : 0 < n.toNat := Nat.pos_of_ne_zero fun h => hn (UInt64.toNat_inj.mp h)
  have hw : wordCount 64 = 2 ^ 64 := wordCount_eq _
  have hword : ∀ x : UInt64, x.toNat < wordCount 64 := fun x => hw ▸ x.toNat_lt
  unfold below64
  simp only [hn, if_false]
  -- the second word is drawn only if the first leaves open which share it falls into
  split
  · rename_i hopen
    have h := carried_lt (Nat.le_of_lt (hword n)) (hword s.next64.1) (hword s.next64.2.next64.1)
      hopen
    rw [UInt64.lt_iff_toNat_lt]
    simpa [Nat.mod_eq_of_lt (Nat.lt_trans h n.toNat_lt)] using h
  · have h := settled_lt hpos (hword s.next64.1)
    rw [UInt64.lt_iff_toNat_lt]
    simpa [Nat.mod_eq_of_lt (Nat.lt_trans h n.toNat_lt)] using h

/-- The same from words of 32 bits. -/
theorem below32_lt {n : UInt32} (hn : n ≠ 0) (s : Stream) : (below32 n s).1 < n := by
  have hpos : 0 < n.toNat := Nat.pos_of_ne_zero fun h => hn (UInt32.toNat_inj.mp h)
  have hw : wordCount 32 = 2 ^ 32 := wordCount_eq _
  have hword : ∀ x : UInt32, x.toNat < wordCount 32 := fun x => hw ▸ x.toNat_lt
  unfold below32
  simp only [hn, if_false]
  split
  · rename_i hopen
    have h := carried_lt (Nat.le_of_lt (hword n)) (hword s.next.1) (hword s.next.2.next.1) hopen
    rw [UInt32.lt_iff_toNat_lt]
    simpa [Nat.mod_eq_of_lt (Nat.lt_trans h n.toNat_lt)] using h
  · have h := settled_lt hpos (hword s.next.1)
    rw [UInt32.lt_iff_toNat_lt]
    simpa [Nat.mod_eq_of_lt (Nat.lt_trans h n.toNat_lt)] using h

/-! ## Draws -/

/-- An index is below the size it was drawn for.  A size that is a multiple of all words leaves the
    word as it is, which is then below the size, too. -/
theorem index_lt {n : Nat} (hn : 0 < n) (s : Stream) : (index n hn s).1 < n := by
  unfold index
  split
  · rename_i hsmall
    have hne : n.toUInt32 ≠ 0 := by
      intro h
      have := congrArg UInt32.toNat h
      simp at this
      omega
    have h := UInt32.lt_iff_toNat_lt.mp (below32_lt hne s)
    have hmod : n.toUInt32.toNat ≤ n := by simpa using Nat.mod_le _ _
    exact Nat.lt_of_lt_of_le h hmod
  · rename_i hlarge
    -- if the length is zero as a word, it is a multiple of the number of words, and all words are
    -- below it
    by_cases hzero : n.toUInt64 = 0
    · have hword := (below64 n.toUInt64 s).1.toNat_lt
      have hmod : n % 2 ^ 64 = 0 := by simpa using congrArg UInt64.toNat hzero
      have : 2 ^ 64 ≤ n := Nat.le_of_dvd hn (Nat.dvd_of_mod_eq_zero hmod)
      exact Nat.lt_of_lt_of_le hword this
    · have h := UInt64.lt_iff_toNat_lt.mp (below64_lt hzero s)
      have hmod : n.toUInt64.toNat ≤ n := by simpa using Nat.mod_le _ _
      exact Nat.lt_of_lt_of_le h hmod

/-- A range that does not hold all words has as many numbers as its width says.  The width of the
    range of all words is zero, because their number does not fit a word. -/
theorem width_toNat {low high : UInt64} (h : low ≤ high) (hne : width low high ≠ 0) :
    (width low high).toNat = high.toNat - low.toNat + 1 := by
  have hle := UInt64.le_iff_toNat_le.mp h
  have hhigh := high.toNat_lt
  have hsub : (high - low).toNat = high.toNat - low.toNat := UInt64.toNat_sub_of_le _ _ h
  have hsum : (width low high).toNat = (high.toNat - low.toNat + 1) % 2 ^ 64 := by
    simp [width, UInt64.toNat_add, hsub]
  by_cases hall : high.toNat - low.toNat + 1 = 2 ^ 64
  · refine absurd (UInt64.toNat_inj.mp ?_) hne
    rw [hsum, hall]
    rfl
  · rw [hsum, Nat.mod_eq_of_lt (by omega)]

/-- A number drawn from a range of words lies in the range: it is the lower end and something below
    the width, and that sum does not wrap. -/
theorem uint64_mem {low high : UInt64} (h : low ≤ high) (s : Stream) :
    low ≤ (uint64 low high h s).1 ∧ (uint64 low high h s).1 ≤ high := by
  have hle := UInt64.le_iff_toNat_le.mp h
  have hhigh := high.toNat_lt
  simp only [uint64, UInt64.le_iff_toNat_le]
  by_cases hne : width low high = 0
  · -- all words: the range starts at zero and ends at the greatest word
    have hsum := congrArg UInt64.toNat hne
    simp only [width, UInt64.toNat_add, UInt64.toNat_sub_of_le _ _ h] at hsum
    have hsum : (high.toNat - low.toNat + 1) % 2 ^ 64 = 0 := hsum
    have hword := (below64 (width low high) s).1.toNat_lt
    rw [UInt64.toNat_add]
    omega
  · have hwidth := width_toNat h hne
    have hlt := UInt64.lt_iff_toNat_lt.mp (below64_lt hne s)
    rw [hwidth] at hlt
    rw [UInt64.toNat_add, Nat.mod_eq_of_lt (by omega)]
    omega

/-- A signed word as an integer, by its unsigned reading. -/
theorem toInt_eq_cond (i : Int64) :
    i.toInt = if i.toUInt64.toNat < 0x8000000000000000 then (i.toUInt64.toNat : Int)
      else (i.toUInt64.toNat : Int) - 0x10000000000000000 := by
  have hcond : i.toInt = if 2 * i.toUInt64.toNat < 2 ^ 64 then (i.toUInt64.toNat : Int)
      else (i.toUInt64.toNat : Int) - (2 ^ 64 : Nat) := BitVec.toInt_eq_toNat_cond i.toBitVec
  rw [hcond]
  split <;> split <;> omega

/-- An integer drawn from a range lies in the range.  The distance from its lower end is drawn
    without a sign and added with wrapping, which comes out right since the sum is in the range. -/
theorem int64_mem {low high : Int64} (h : low ≤ high) (s : Stream) :
    low ≤ (int64 low high h s).1 ∧ (int64 low high h s).1 ≤ high := by
  have hle := Int64.le_iff_toInt_le.mp h
  have hlow := toInt_eq_cond low
  have hhigh := toInt_eq_cond high
  have hl := low.toUInt64.toNat_lt
  have hh := high.toUInt64.toNat_lt
  simp only [int64, Int64.le_iff_toInt_le]
  have hwidth : (width low.toUInt64 high.toUInt64).toNat
      = (2 ^ 64 - low.toUInt64.toNat + high.toUInt64.toNat + 1) % 2 ^ 64 := by
    simp [width, UInt64.toNat_add, UInt64.toNat_sub]
  by_cases hne : width low.toUInt64 high.toUInt64 = 0
  · -- all integers: the ends are the least and the greatest one
    have hzero : (2 ^ 64 - low.toUInt64.toNat + high.toUInt64.toNat + 1) % 2 ^ 64 = 0 := by
      rw [← hwidth, hne]
      rfl
    have hmin := Int64.le_toInt (below64 (width low.toUInt64 high.toUInt64) s).1.toInt64
    have hmax := Int64.toInt_lt (below64 (width low.toUInt64 high.toUInt64) s).1.toInt64
    rw [if_pos hne]
    omega
  · have hlt := UInt64.lt_iff_toNat_lt.mp (below64_lt hne s)
    -- the distance from the lower end is within the width, so as a signed integer the sum lies in
    -- the range
    rw [hwidth] at hlt
    have hval := toInt_eq_cond
      (low.toUInt64 + (below64 (width low.toUInt64 high.toUInt64) s).1).toInt64
    rw [UInt64.toUInt64_toInt64, UInt64.toNat_add] at hval
    rw [if_neg hne]
    omega

end SyntheticTables.Sample
