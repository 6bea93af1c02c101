/-
  The simple draws: numbers, sizes, intervals, words and tokens.

  None of them can fail, and none hands out a key; what is left to say is where the value lies.
-/
import SyntheticTables.Proofs.Draw.Outcome
import SyntheticTables.Proofs.Random.Range

namespace SyntheticTables

namespace Draw

variable {E : GenError → Prop}

/-! ## Numbers -/

/-- A toss hands out nothing, whatever its probability. -/
theorem gives_chance (p : Float) : Gives E (fun _ => True) (chance p) := .sample fun _ => trivial

/-- A float hands out nothing; of its value nothing is said here, see `Sample.float_mem` for
    that. -/
theorem gives_float (a b : Float) : Gives E (fun _ => True) (float a b) := by
  unfold float
  split <;> exact .sample fun _ => trivial

/-- An integer lies between the two others, whichever of them is the smaller. -/
theorem gives_int (a b : Int64) :
    Gives E (fun i => (a ≤ i ∧ i ≤ b) ∨ (b ≤ i ∧ i ≤ a)) (int a b) := by
  unfold int
  split
  · rename_i h
    exact .sample fun s => .inl (Sample.int64_mem h s)
  · exact .sample fun s => .inr (Sample.int64_mem _ s)

/-- With the bounds in order there is one case left. -/
theorem gives_int_of_le {a b : Int64} (h : a ≤ b) : Gives E (fun i => a ≤ i ∧ i ≤ b) (int a b) :=
  (gives_int a b).mono fun _ _ hi => hi.elim id fun hi =>
    ⟨Int64.le_trans h hi.1, Int64.le_trans hi.2 h⟩

/-- A size lies in its range, also when that holds one number only and nothing is drawn. -/
theorem gives_size {s : SizeSpec} (h : s.min ≤ s.max) :
    Gives E (fun n => s.min.toNat ≤ n ∧ n ≤ s.max.toNat) (size s) := by
  unfold size
  split
  · rename_i heq
    exact .pure ⟨Nat.le_refl _, Nat.le_of_eq (congrArg UInt64.toNat heq)⟩
  · refine .map (.sample fun st => ?_)
    exact (Sample.uint64_mem h st).imp UInt64.le_iff_toNat_le.mp UInt64.le_iff_toNat_le.mp

/-- Whatever the range, a size is drawn. -/
theorem gives_size_any (s : SizeSpec) : Gives E (fun _ => True) (size s) := by
  unfold size
  split
  · exact .pure trivial
  · split <;> exact .map (.sample fun _ => trivial)

/-! ## Intervals -/

/-- A sum inside the range of integers is the sum; saturation matters at the ends only. -/
theorem saturatingAdd_toInt {a b : Int64} (hlow : Int64.minValue.toInt ≤ a.toInt + b.toInt)
    (hhigh : a.toInt + b.toInt ≤ Int64.maxValue.toInt) :
    (saturatingAdd a b).toInt = a.toInt + b.toInt := by
  have hmin : Int64.minValue.toInt = -2 ^ 63 := by decide
  have hmax : Int64.maxValue.toInt = 2 ^ 63 - 1 := by decide
  unfold saturatingAdd
  rw [if_neg (by omega), if_neg (by omega), Int64.toInt_ofInt_of_le (by omega) (by omega)]

/-- The first number and the length are drawn from their ranges, and the second number is their sum
    as far as there is one. -/
theorem gives_interval {start length : IntRange} (hs : start.min ≤ start.max)
    (hl : length.min ≤ length.max) :
    Gives E (fun p => ∃ n, (start.min ≤ p.1 ∧ p.1 ≤ start.max) ∧ (length.min ≤ n ∧ n ≤ length.max) ∧
      p.2 = saturatingAdd p.1 n) (interval start length) :=
  (gives_int_of_le hs).bind fun _ _ hfirst => (gives_int_of_le hl).bind fun _ n hn =>
    .pure ⟨n, hfirst, hn, rfl⟩

/-- Whatever the ranges, an interval is drawn; the check asks for more than that only for what the
    values mean. -/
theorem gives_interval_any (start length : IntRange) :
    Gives E (fun _ => True) (interval start length) :=
  (gives_int _ _).bind fun _ _ _ => (gives_int _ _).bind fun _ _ _ => .pure trivial

end Draw

namespace Context

open Draw

variable {E : GenError → Prop} (c : Context)

/-! ## Words and tokens -/

/-- A word is one of the vocabulary, which is not empty by its type. -/
theorem gives_word : Gives E (fun w => w ∈ c.vocabulary) c.word := by
  refine (Meets.sample (R := fun _ i => i < c.vocabulary.size) fun s =>
    Sample.index_lt c.nonempty s).bind fun _ i hi => .pure ?_
  rw [Array.getD_eq_getD_getElem?, Array.getElem?_eq_getElem hi]
  exact Array.getElem_mem hi

/-- So is each of several words. -/
theorem gives_timesWord (n : Nat) :
    Gives E (fun words => ∀ w ∈ words, w ∈ c.vocabulary) (times n c.word) := by
  refine (Meets.times (R := fun _ words => ∀ w ∈ words, w ∈ c.vocabulary) nofun
    (fun _ words hwords => ?_) n).mono fun _ _ h => h.1
  refine c.gives_word.mono fun _ a ha w hw => ?_
  rcases List.mem_append.mp hw with hw | hw
  · exact hwords w hw
  · exact List.mem_singleton.mp hw ▸ ha

/-- A name or sentence can always be drawn, of any number of words. -/
theorem gives_words (joiner : Joiner) (count : Nat) :
    Gives E (fun _ => True) (c.words joiner count) :=
  (c.gives_timesWord count).bind fun _ _ _ => .pure trivial

/-- So can a token, in any of the three styles. -/
theorem gives_missingName (style : MissingStyle) :
    Gives E (fun _ => True) (c.missingName style) := by
  have hsample : ∀ {α : Type} {f : Stream → α × Stream}, Gives E (fun _ => True) (sample f) :=
    .sample fun _ => trivial
  -- each style draws one number first; the last one makes words of it
  cases style with
  | spss => exact hsample.bind fun _ _ _ => .pure trivial
  | stata => exact hsample.bind fun _ _ _ => .pure trivial
  | underscore =>
    exact hsample.bind fun _ i _ => (c.gives_words _ _).bind fun _ _ _ => .pure trivial

end Context

end SyntheticTables
