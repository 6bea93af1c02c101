/-
  The levels of a column of coded integers.

  They are consecutive integers and, behind them, the tokens that stand for missing values in the same
  column (`EnumIntegerType.HasLevels`).  A reader of a table sees only the texts of the levels, so what
  matters is that no two levels look alike: integers differ in their decimal texts, tokens were drawn
  as unlike each other, and a token that any reader would take for one of the integers — with a sign or
  with zeros in front — is left out.  That the integers end where they should is what the check of a
  tree is for: it refuses a range whose last level would not be an integer any more.
-/
import SyntheticTables.Proofs.Domain.Tree
import SyntheticTables.Proofs.Text.Integer

namespace SyntheticTables

/-! ## Consecutive integers -/

/-- The integers from a start on, as many as a count says. -/
def Consecutive (start count : Int) (ints : List Int64) : Prop :=
  ints.map Int64.toInt = (List.range count.toNat).map fun k : Nat => start + (k : Int)

namespace Consecutive

variable {start count : Int} {ints : List Int64}

/-- Each of the integers lies in the range. -/
theorem bounds (h : Consecutive start count ints) {i : Int64} (hi : i ∈ ints) :
    start ≤ i.toInt ∧ i.toInt < start + count := by
  have hmem : i.toInt ∈ ints.map Int64.toInt := List.mem_map_of_mem hi
  rw [h] at hmem
  obtain ⟨k, hk, hvalue⟩ := List.mem_map.mp hmem
  have hlt := List.mem_range.mp hk
  omega

/-- No integer comes twice. -/
theorem nodup (h : Consecutive start count ints) : ints.Nodup := by
  refine List.Nodup.of_map Int64.toInt ?_
  rw [h]
  refine List.nodup_range.map fun a b hab => ?_
  have hsum : start + (a : Int) = start + b := hab
  omega

end Consecutive

namespace Context

/-- Between two words every integer is a word, so none of the sums wraps and the levels are
    consecutive.  Their number is the distance of the ends, which need not fit a signed word. -/
theorem consecutive_integersFrom {start stop : Int64} {count : Int}
    (h : stop.toInt = start.toInt + count) :
    Consecutive start.toInt count (integersFrom start stop) := by
  have hcount : stop.toInt - start.toInt = count := by omega
  unfold Consecutive integersFrom
  rw [hcount, List.map_map]
  refine List.map_congr_left fun k hk => ?_
  have hlt := List.mem_range.mp hk
  have hlow := Int64.le_toInt start
  have hhigh := Int64.toInt_lt stop
  show (Int64.ofInt (start.toInt + k)).toInt = start.toInt + k
  exact Int64.toInt_ofInt_of_le (by omega) (by omega)

/-- A token names a level if it reads as an integer of the range. -/
theorem namesLevel_eq_false_iff {start stop : Int64} {token : String} :
    namesLevel start stop token = false ↔
      ∀ i, Text.int64? token = some i → ¬ (start.toInt ≤ i.toInt ∧ i.toInt < stop.toInt) := by
  unfold namesLevel
  cases hread : Text.int64? token with
  | none => simp
  | some i =>
    simp only [Option.some.injEq, forall_eq', Bool.and_eq_false_iff, decide_eq_false_iff_not,
      Int64.le_iff_toInt_le, Int64.lt_iff_toInt_lt]
    omega

end Context

/-! ## Levels -/

/-- The levels of a column: consecutive integers, then the tokens of the column, in order.  No token
    reads as one of the integers, no two levels show the same text, and either no level has a label or
    all of them have labels unlike each other. -/
structure EnumIntegerType.HasLevels (t : EnumIntegerType) (start count : Int) : Prop where
  values : ∃ ints, Consecutive start count ints ∧
    t.levels.map (·.value) = ints.map .int ++ (t.missingValues.getD []).map .text
  tokens : ∀ token ∈ t.missingValues.getD [], ∀ i, Text.int64? token = some i →
    ¬ (start ≤ i.toInt ∧ i.toInt < start + count)
  cells : (t.levels.map fun l => l.value.cell).Nodup
  labels : (∀ l ∈ t.levels, l.label = none) ∨
    (∀ l ∈ t.levels, l.label.isSome) ∧ (t.levels.filterMap (·.label)).Nodup

/-- Different integers are written differently, since they can be read back. -/
theorem toString_int64_inj {i j : Int64} (h : toString i = toString j) : i = j := by
  have hread := congrArg Text.int64? h
  rw [Text.int64?_toString, Text.int64?_toString] at hread
  exact Option.some.inj hread

/-- Texts of integers and tokens that read as none of them are unlike each other, if the tokens are.
    A token that was written like an integer would read as that integer. -/
theorem nodup_cells {start count : Int} {ints : List Int64} {tokens : List String}
    (hints : Consecutive start count ints) (htokens : tokens.Nodup)
    (hfree : ∀ token ∈ tokens, ∀ i, Text.int64? token = some i →
      ¬ (start ≤ i.toInt ∧ i.toInt < start + count)) :
    ((ints.map LevelValue.int ++ tokens.map LevelValue.text).map LevelValue.cell).Nodup := by
  have hcells : (ints.map LevelValue.int ++ tokens.map LevelValue.text).map LevelValue.cell
      = ints.map toString ++ tokens := by
    simp [LevelValue.cell, Function.comp_def]
  rw [hcells, List.nodup_append]
  refine ⟨hints.nodup.map fun _ _ => toString_int64_inj, htokens, ?_⟩
  -- the text of an integer reads as the integer, and no token does
  rintro text htext _ htoken rfl
  obtain ⟨i, hi, rfl⟩ := List.mem_map.mp htext
  exact hfree _ htoken i (Text.int64?_toString i) (hints.bounds hi)

namespace Context

open Draw

variable (c : Context)

/-! ## Draws -/

/-- One toss decides about all labels.  By induction on the levels that still lack one; those drawn
    before are labelled or not, as the toss says. -/
theorem yields_labelsOnto_isSome {m : Draw String} (hm : Yields (fun _ => True) m) (labeled : Bool)
    (values : List LevelValue) (seen : Std.TreeSet String) (drawn : List Level)
    (hdrawn : ∀ l ∈ drawn, l.label.isSome = labeled) :
    Yields (fun ls => ∀ l ∈ ls, l.label.isSome = labeled)
      (c.labelsOnto m labeled seen drawn values) := by
  induction values generalizing seen drawn with
  | nil => exact .pure fun l hl => hdrawn l (List.mem_reverse.mp hl)
  | cons value rest ih =>
    unfold labelsOnto
    cases labeled with
    | true =>
      refine (c.yields_newText hm seen).bind fun _ p _ => ih p.2 _ ?_
      exact List.forall_mem_cons.mpr ⟨rfl, hdrawn⟩
    | false => exact ih seen _ (List.forall_mem_cons.mpr ⟨rfl, hdrawn⟩)

/-- A column that is drawn in a checked range has levels in that range: consecutive integers as many
    as were drawn, behind them the tokens that read as none of them, and labels for all levels or
    for none. -/
theorem yields_hasLevels {p : EnumIntegerTypeParams} {labelName missingName : Draw String}
    (hlabel : Yields (fun _ => True) labelName) (hmissing : Yields (fun _ => True) missingName)
    (hstart : p.levelStartRange.Ordered) (hcount : p.levelCountRange.OfLevels)
    (hfit : Check.levelsOverflow p = false) :
    Yields (fun t => ∃ start count, p.levelStartRange.Holds start ∧ p.levelCountRange.Holds count ∧
      t.HasLevels start.toInt count.toInt) (c.enumIntegerType p labelName missingName) := by
  unfold enumIntegerType
  refine (gives_levelRange hstart hcount hfit).bind fun _ range hrange => ?_
  obtain ⟨start, stop⟩ := range
  obtain ⟨count, hfirst, hn, hend⟩ := hrange
  -- the tokens are drawn before the labels, and filtered by the range that is known by then
  refine (c.yields_missingValues hmissing _ _).bind fun _ tokens htokens => ?_
  refine (gives_chance _).bind fun _ unlabeled _ => ?_
  refine (Yields.both (c.gives_labelsOnto trivial hlabel _ _ .nil)
    (c.yields_labelsOnto_isSome hlabel _ _ ∅ [] nofun)).bind fun _ levels hlevels => ?_
  obtain ⟨⟨hvalues, hnodup⟩, hsome⟩ := hlevels
  rw [List.reverse_nil, List.map_nil, List.nil_append] at hvalues
  refine (c.gives_flag _ _).bind fun _ _ _ => (c.gives_flag _ _).bind fun _ _ _ => ?_
  refine (c.gives_flag _ _).bind fun _ _ _ => .pure ⟨start, count, hfirst, hn, ?_⟩
  have hints := consecutive_integersFrom hend
  -- the tokens that were kept, unlike each other as all of them were
  generalize hkept : tokens.map (fun ts => ts.filter fun t => !namesLevel start stop t) = kept
    at hvalues ⊢
  have hdistinct : (kept.getD []).Nodup := by
    subst hkept
    cases tokens with
    | none => exact List.nodup_nil
    | some ts => exact (htokens ts rfl).1.filter _
  have hfree : ∀ token ∈ kept.getD [], ∀ i, Text.int64? token = some i →
      ¬ (start.toInt ≤ i.toInt ∧ i.toInt < start.toInt + count.toInt) := by
    subst hkept
    cases tokens with
    | none => nofun
    | some ts =>
      intro token htoken
      have hkeep := (List.mem_filter.mp htoken).2
      rw [Bool.not_eq_true', namesLevel_eq_false_iff, hend] at hkeep
      exact hkeep
  refine ⟨⟨_, hints, hvalues⟩, hfree, ?_, ?_⟩
  · have hcells : levels.map (fun l => l.value.cell)
        = (levels.map (·.value)).map LevelValue.cell := by
      rw [List.map_map]
      rfl
    show (levels.map fun l => l.value.cell).Nodup
    rw [hcells, hvalues]
    exact nodup_cells hints hdistinct hfree
  · cases unlabeled with
    | true => exact .inl fun l hl => Option.not_isSome_iff_eq_none.mp (by simp [hsome l hl])
    | false => exact .inr ⟨hsome, hnodup⟩

end Context

/-! ## Runs -/

namespace Run

open Draw

variable (r : Run)

/-- Any tree draws texts for a slot, or ends in an error. -/
theorem yields_text (n : Node) (place : Place) :
    Yields (fun _ => True) ((n.draw r.context r.defaultMissing place).as Value.toText) :=
  (r.setting False).textSlot False.elim (Node.drawsOf (r.setting False) n place False.elim)

/-- Every column of coded integers that a checked tree gives, anywhere in a run, has consecutive
    integers from its ranges as levels and then its own tokens for missing values. -/
theorem draw_hasLevels (place : Place) {p : EnumIntegerTypeParams} {labelName missingName : Node}
    (h : (Node.enumIntegerFieldType p labelName missingName).check = .ok ()) :
    Ensures (fun v => ∃ (t : EnumIntegerType) (start count : Int64),
        v = .fieldType (.enumInteger t) ∧ p.levelStartRange.Holds start ∧
        p.levelCountRange.Holds count ∧ t.HasLevels start.toInt count.toInt)
      ((Node.enumIntegerFieldType p labelName missingName).draw r.context r.defaultMissing place) := by
  have hwell := Node.check_eq_ok_iff.mp h
  rw [Node.WellFormed] at hwell
  obtain ⟨-, hstart, hcount, hfit, -⟩ := hwell
  have htype := r.context.yields_hasLevels (r.yields_text labelName (0 :: place))
    (r.yields_text missingName (1 :: place)) hstart hcount hfit
  refine Meets.ensures (E := fun _ => True) ?_
  rw [Node.draw]
  refine htype.bind fun _ t ht => .pure ?_
  obtain ⟨start, count, hfirst, hn, hlevels⟩ := ht
  exact ⟨t, start, count, rfl, hfirst, hn, hlevels⟩

/-- A run of four words: an integer, one with a plus in front, one with a zero in front, and `none`,
    which reads as no integer. -/
def numeralRun : Run :=
  ⟨⟨"en_US", #["9223372036854775805", "+9223372036854775806", "07", "none"], by decide, 1000, 0.5⟩,
    .style .spss⟩

/-- Three levels from the greatest integer less three on, labels always, and words as up to four
    tokens for missing values. -/
def numeralLevels : Node :=
  .enumIntegerFieldType
    { levelStartRange := ⟨9223372036854775804, 9223372036854775804⟩, levelCountRange := ⟨3, 3⟩,
      noLabelProb := 0, undefinedProb := 0, missingMax := 4 }
    (Node.defaultName .snakeCaseCaps) .word

/-- From seed 2 a column is drawn whose levels are the three integers and those of its tokens that
    read as none of them, unlike each other and all labelled. -/
theorem draw_hasLevels_numeralLevels : numeralLevels.check = .ok () ∧
    ∃ (t : EnumIntegerType) (start count : Int64),
      (numeralLevels.draw numeralRun.context numeralRun.defaultMissing [1] (.ofSeed 2)).1
        = .ok (.fieldType (.enumInteger t)) ∧
      IntRange.Holds ⟨9223372036854775804, 9223372036854775804⟩ start ∧
      IntRange.Holds ⟨3, 3⟩ count ∧ t.HasLevels start.toInt count.toInt := by
  have hsome : (numeralLevels.draw numeralRun.context numeralRun.defaultMissing [1]
      (.ofSeed 2)).1.isOk = true := by decide +kernel
  cases hdraw : (numeralLevels.draw numeralRun.context numeralRun.defaultMissing [1]
      (.ofSeed 2)).1 with
  | error e =>
    rw [hdraw] at hsome
    cases hsome
  | ok v =>
    obtain ⟨t, start, count, rfl, hfirst, hn, hlevels⟩ :=
      numeralRun.draw_hasLevels [1] rfl (.ofSeed 2) v hdraw
    exact ⟨rfl, t, start, count, rfl, hfirst, hn, hlevels⟩

end Run

end SyntheticTables
