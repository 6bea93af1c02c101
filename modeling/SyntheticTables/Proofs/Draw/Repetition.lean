/-
  Columns that repeat a cell.

  A column may be declared unique, and its document says so.  But no cell looks at that
  (`rows_withUnique`), nor at the rows before it.  As long as the stream holds zeros, a draw comes to
  one and the same value wherever it begins (`Draw.Settled`), so all rows are alike: from some state,
  every column of a table with two rows or more repeats a cell.  From every state one does, if there are
  more rows than cells that it admits.
-/
import SyntheticTables.Proofs.Draw.Cell
import Mathlib.Data.List.Nodup
import Mathlib.Data.List.Perm.Subperm

namespace SyntheticTables

/-! ## Zeros -/

namespace Stream

/-- The next words are zeros, at least as many as `n`. -/
def Zeros (n : Nat) (s : Stream) : Prop := ∃ rest, s.ready = List.replicate n 0 ++ rest

variable {n : Nat} {s : Stream}

/-- A word read from zeros is zero, and there is one zero less. -/
theorem next_of_zeros (h : s.Zeros (n + 1)) : ∃ s', s.next = (0, s') ∧ s'.Zeros n := by
  obtain ⟨key, number, ready⟩ := s
  obtain ⟨rest, hready⟩ := h
  have hready : ready = 0 :: (List.replicate n 0 ++ rest) := hready
  subst hready
  exact ⟨_, rfl, rest, rfl⟩

/-- A long word read from zeros is zero, and takes two of them. -/
theorem next64_of_zeros (h : s.Zeros (n + 2)) : ∃ s', s.next64 = (0, s') ∧ s'.Zeros n := by
  obtain ⟨s₁, hlow, h₁⟩ := next_of_zeros h
  obtain ⟨s₂, hhigh, h₂⟩ := next_of_zeros h₁
  refine ⟨s₂, ?_, h₂⟩
  simp only [next64, hlow, hhigh]
  rfl

/-- From enough zeros, one and the same value is drawn, and it takes as many of them. -/
def Settled {α : Type} (f : Stream → α × Stream) : Prop :=
  ∃ a cost, ∀ n (s : Stream), s.Zeros (n + cost) → ∃ s', f s = (a, s') ∧ s'.Zeros n

/-- What is made of the value is the same, too. -/
theorem Settled.map {α β : Type} {f : Stream → α × Stream} (h : Settled f) (g : α → β) :
    Settled fun s => (g (f s).1, (f s).2) := by
  obtain ⟨a, cost, hf⟩ := h
  refine ⟨g a, cost, fun n s hs => ?_⟩
  obtain ⟨s', hdrawn, hs'⟩ := hf n s hs
  refine ⟨s', ?_, hs'⟩
  show (g (f s).1, (f s).2) = _
  rw [hdrawn]

end Stream

namespace Sample

open SyntheticTables.Stream

/-- Below any bound a zero stands for the first number, and no second word is asked for, as a zero
    is never near the end of its share. -/
theorem settled_below32 (n : UInt32) : Settled (below32 n) := by
  refine ⟨if n = 0 then 0 else (settled 32 n.toNat 0).toUInt32, 1, fun k s hs => ?_⟩
  obtain ⟨s', hnext, hs'⟩ := next_of_zeros hs
  refine ⟨s', ?_, hs'⟩
  unfold below32
  rw [hnext]
  by_cases hn : n = 0
  · simp only [hn, if_true]
  -- a zero lies in the first share, so no second word is asked for
  · simp [hn, isOpen]

/-- The same with a long word, hence at the cost of two. -/
theorem settled_below64 (n : UInt64) : Settled (below64 n) := by
  refine ⟨if n = 0 then 0 else (settled 64 n.toNat 0).toUInt64, 2, fun k s hs => ?_⟩
  obtain ⟨s', hnext, hs'⟩ := next64_of_zeros hs
  refine ⟨s', ?_, hs'⟩
  unfold below64
  rw [hnext]
  by_cases hn : n = 0
  · simp only [hn, if_true]
  · simp [hn, isOpen]

/-- An integer of a range is its lowest one, because the distance from there is zero. -/
theorem settled_int64 {low high : Int64} (h : low ≤ high) : Settled (int64 low high h) :=
  (settled_below64 (width low.toUInt64 high.toUInt64)).map fun r =>
    if width low.toUInt64 high.toUInt64 = 0 then r.toInt64 else (low.toUInt64 + r).toInt64

/-- An index is the first one, whether it is drawn from a word or, in a very long list, from a long
    word. -/
theorem settled_index {n : Nat} (h : 0 < n) : Settled (index n h) := by
  unfold index
  by_cases hsmall : n < 0x100000000
  · simp only [if_pos hsmall]
    exact (settled_below32 _).map _
  · simp only [if_neg hsmall]
    exact (settled_below64 _).map _

/-- The number drawn from the unit interval is its lower end. -/
theorem settled_unit : Settled unit := by
  refine ⟨((0 : UInt64) >>> 11).toFloat / 9007199254740992.0, 2, fun n s hs => ?_⟩
  obtain ⟨s', hnext, hs'⟩ := next64_of_zeros hs
  refine ⟨s', ?_, hs'⟩
  unfold unit
  rw [hnext]

/-- A number of a range comes to one and the same value as well.  An empty range costs nothing,
    since its lower end is given without a draw. -/
theorem settled_float (low high : Float) : Settled (float low high) := by
  unfold float
  by_cases hempty : low ≥ high
  · simp only [if_pos hempty]
    exact ⟨low, 0, fun n s hs => ⟨s, rfl, hs⟩⟩
  · simp only [if_neg hempty]
    exact settled_unit.map fun u => clamp (low * (1.0 - u) + high * u) low high

end Sample

/-! ## Draws from zeros -/

namespace Draw

variable {α β : Type}

/-- From enough zeros, the draw comes to one and the same value, and takes as many of them. -/
def Settled (m : Draw α) : Prop :=
  ∃ a cost, ∀ n (s : State), s.stream.Zeros (n + cost) →
    ∃ s', m s = (.ok a, s') ∧ s'.stream.Zeros n

/-- A repeated draw that comes to an end gives as many values as it was repeated. -/
theorem length_of_times {m : Draw α} {n : Nat} {s s' : State} {as : List α}
    (h : times n m s = (.ok as, s')) : as.length = n := by
  induction n generalizing s as with
  | zero =>
    cases h
    rfl
  | succ n ih =>
    obtain ⟨a, rest, s₁, rfl, -, hothers⟩ := times_succ_eq_ok.mp h
    exact congrArg (· + 1) (ih hothers)

namespace Settled

/-- Giving a value takes no zeros. -/
theorem pure (a : α) : Settled (Pure.pure a : Draw α) := ⟨a, 0, fun _ s hs => ⟨s, rfl, hs⟩⟩

/-- What the sampler gives from zeros, the draw gives from a state whose stream holds them. -/
theorem sample {f : Stream → α × Stream} (h : Stream.Settled f) : Settled (Draw.sample f) := by
  obtain ⟨a, cost, hf⟩ := h
  refine ⟨a, cost, fun n s hs => ?_⟩
  obtain ⟨stream, hdrawn, hs'⟩ := hf n s.stream hs
  refine ⟨{ s with stream }, ?_, hs'⟩
  unfold Draw.sample
  rw [hdrawn]

/-- One after the other, the zeros of both are needed.  How many the second takes may depend on the
    first value, but from zeros there is only one such value. -/
theorem bind {m : Draw α} {f : α → Draw β} (hm : Settled m) (hf : ∀ a, Settled (f a)) :
    Settled (m >>= f) := by
  obtain ⟨a, cost, hm⟩ := hm
  obtain ⟨b, costAfter, hf⟩ := hf a
  refine ⟨b, costAfter + cost, fun n s hs => ?_⟩
  obtain ⟨s₁, hfirst, hs₁⟩ := hm (n + costAfter) s (by rwa [Nat.add_assoc])
  obtain ⟨s₂, hsecond, hs₂⟩ := hf n s₁ hs₁
  refine ⟨s₂, ?_, hs₂⟩
  rw [bind_apply, hfirst]
  exact hsecond

/-- Repeated, the draw gives that value again and again, from a state whose stream holds enough
    zeros for all repetitions.  By induction on their number; each takes its share of the zeros and
    leaves the rest. -/
theorem repeats {m : Draw α} (h : Settled m) (count : Nat) :
    ∃ a s s', times count m s = (.ok (List.replicate count a), s') := by
  obtain ⟨a, cost, hm⟩ := h
  -- each draw leaves the zeros that those after it need
  have hrun : ∀ (count : Nat) (s : State), s.stream.Zeros (count * cost) →
      ∃ s', times count m s = (.ok (List.replicate count a), s') := by
    intro count
    induction count with
    | zero => exact fun s _ => ⟨s, rfl⟩
    | succ count ih =>
      intro s hs
      obtain ⟨s₁, hfirst, hs₁⟩ := hm (count * cost) s (by rwa [← Nat.succ_mul])
      obtain ⟨s₂, hothers⟩ := ih s₁ hs₁
      exact ⟨s₂, times_succ_eq_ok.mpr ⟨a, _, s₁, rfl, hfirst, hothers⟩⟩
  obtain ⟨s', hdrawn⟩ := hrun count ⟨⟨default, 0, List.replicate (count * cost) 0⟩, ∅, ∅, []⟩
    ⟨[], (List.append_nil _).symm⟩
  exact ⟨a, _, s', hdrawn⟩

end Settled

end Draw

/-! ## Cells from zeros -/

/-- A column of levels that has none. -/
def FieldType.Levelless : FieldType → Prop
  | .enumInteger t => t.levels = []
  | .enumString t => t.levels = []
  | _ => False

namespace Context

open Draw

variable (c : Context)

/-- Also with the ends in either order, since the draw puts them right first. -/
theorem settled_int (a b : Int64) : Settled (int a b) := by
  unfold int
  by_cases hle : a ≤ b
  · rw [dif_pos hle]
    exact .sample (Sample.settled_int64 hle)
  · rw [dif_neg hle]
    exact .sample (Sample.settled_int64 _)

/-- The same for numbers. -/
theorem settled_float (a b : Float) : Settled (float a b) := by
  unfold float
  by_cases hle : a ≤ b
  · rw [if_pos hle]
    exact .sample (Sample.settled_float a b)
  · rw [if_neg hle]
    exact .sample (Sample.settled_float b a)

/-- From zeros the first word of the vocabulary is drawn. -/
theorem settled_word : Settled c.word :=
  (Settled.sample (Sample.settled_index c.nonempty)).bind fun _ => .pure _

/-- Putting words to a text until it is long enough ends after a number of words that depends on the
    text alone, so its cost is fixed.  The induction is that of `fillText`. -/
theorem settled_fillText (minLength : Nat) (text : String) (length : Nat) :
    Settled (c.fillText minLength text length) := by
  fun_induction fillText c minLength text length with
  | case1 text length hshort ih => exact c.settled_word.bind ih
  | case2 text length hlong => exact .pure _

/-- A text cell takes its words first; what is cut off afterwards needs no draw. -/
theorem settled_textCell (t : StringType) : Settled (c.textCell t) := by
  refine c.settled_word.bind fun first => (c.settled_fillText _ _ _).bind fun filled => ?_
  obtain ⟨text, length⟩ := filled
  cases t.maxLength with
  | none => exact .pure _
  | some maxLength =>
    show Settled (if maxLength.toNat < length then _ else _)
    by_cases hlong : maxLength.toNat < length
    · rw [if_pos hlong]
      exact .pure _
    · rw [if_neg hlong]
      exact .pure _

/-- From zeros the first level is drawn, if there is one. -/
theorem settled_level {α : Type} {levels : List α} (h : levels ≠ []) : Settled (c.level levels) := by
  cases levels with
  | nil => exact absurd rfl h
  | cons first rest => exact (Settled.sample (Sample.settled_index _)).bind fun _ => .pure _

/-- Every kind of column has a cell that zeros come to, except a column of levels without levels. -/
theorem settled_cell {t : FieldType} (h : ¬ t.Levelless) : Settled (c.cell t) := by
  cases t with
  | integer t => exact (settled_int _ _).bind fun _ => .pure _
  | number t => exact (settled_float _ _).bind fun _ => .pure _
  | enumInteger t => exact (c.settled_level h).bind fun _ => .pure _
  | enumString t => exact c.settled_level h
  | string t => exact c.settled_textCell t

/-- Cell by cell, so does a row. -/
theorem settled_rowOnto {fields : List Field} (h : ∀ f ∈ fields, ¬ f.type.Levelless) (row : Row) :
    Settled (c.rowOnto row fields) := by
  induction fields generalizing row with
  | nil => exact .pure row
  | cons f rest ih =>
    obtain ⟨hf, hrest⟩ := List.forall_mem_cons.mp h
    exact (c.settled_cell hf).bind fun _ => ih hrest _

/-! ## Columns without levels -/

/-- From no state is there a cell of a column of levels that has none. -/
theorem cell_of_levelless {t : FieldType} (h : t.Levelless) (s s' : State) (cell : String) :
    c.cell t s ≠ (.ok cell, s') := by
  intro hdrawn
  cases t with
  | enumInteger t =>
    have hnone : t.levels = [] := h
    rw [Context.cell, hnone] at hdrawn
    cases hdrawn
  | enumString t =>
    have hnone : t.levels = [] := h
    rw [Context.cell, hnone] at hdrawn
    cases hdrawn
  | _ => exact h

/-- There is no row with a cell of theirs, wherever the column stands among the others: the cells
    before it may be drawn, but the row never comes to its end. -/
theorem rowOnto_of_levelless {fields : List Field} (h : ∃ f ∈ fields, f.type.Levelless)
    (start row : Row) (s s' : State) : c.rowOnto start fields s ≠ (.ok row, s') := by
  intro hdrawn
  induction fields generalizing start s with
  | nil =>
    obtain ⟨f, hf, -⟩ := h
    cases hf
  | cons f rest ih =>
    obtain ⟨cell, s₁, hcell, hothers⟩ := bind_eq_ok.mp hdrawn
    obtain ⟨g, hg, hnone⟩ := h
    rcases List.mem_cons.mp hg with rfl | hg
    · exact c.cell_of_levelless hnone s s₁ cell hcell
    · exact ih ⟨g, hg, hnone⟩ _ s₁ hothers

end Context

/-! ## The flag -/

/-- The same type, declared unique, or not, or neither. -/
def FieldType.withUnique (flag : Option Bool) : FieldType → FieldType
  | .integer t => .integer { t with unique := flag }
  | .enumInteger t => .enumInteger { t with unique := flag }
  | .number t => .number { t with unique := flag }
  | .string t => .string { t with unique := flag }
  | .enumString t => .enumString { t with unique := flag }

/-- The flag that was set is the flag that is read. -/
theorem FieldType.unique_withUnique (flag : Option Bool) (t : FieldType) :
    (t.withUnique flag).unique = flag := by
  cases t <;> rfl

/-- The same column under the same name, declared as the flags say for that name. -/
def Field.withUnique (flags : String → Option Bool) (f : Field) : Field :=
  { f with type := f.type.withUnique (flags f.name) }

/-- The same schema, but for which of its columns are declared unique. -/
def TableSchema.withUnique (flags : String → Option Bool) (schema : TableSchema) : TableSchema :=
  { schema with fields := schema.fields.map (Field.withUnique flags) }

/-- Every column of the changed schema is declared as the flags say. -/
theorem TableSchema.unique_of_mem_withUnique {flags : String → Option Bool} {schema : TableSchema}
    {f : Field} (h : f ∈ (schema.withUnique flags).fields) : f.type.unique = flags f.name := by
  obtain ⟨g, -, rfl⟩ := List.mem_map.mp h
  exact g.type.unique_withUnique (flags g.name)

namespace Context

open Draw

variable (c : Context)

/-- A cell is drawn without a look at the flag: for each kind of column, the two draws are the same
    by definition. -/
theorem cell_withUnique (flag : Option Bool) (t : FieldType) :
    c.cell (t.withUnique flag) = c.cell t := by
  cases t <;> rfl

/-- Hence so is a row, by induction on its columns. -/
theorem rowOnto_withUnique (flags : String → Option Bool) (fields : List Field) (row : Row) :
    c.rowOnto row (fields.map (Field.withUnique flags)) = c.rowOnto row fields := by
  induction fields generalizing row with
  | nil => rfl
  | cons f rest ih =>
    rw [List.map_cons, rowOnto, rowOnto, Field.withUnique, cell_withUnique]
    exact congrArg (c.cell f.type >>= ·) (funext fun text => ih _)

/-- Hence so are all rows of a table, from every state and with every outcome. -/
theorem rows_withUnique (flags : String → Option Bool) (schema : TableSchema) :
    c.rows (schema.withUnique flags) = c.rows schema :=
  congrArg (times schema.rowCount.toNat) (c.rowOnto_withUnique flags schema.fields Row.empty)

/-! ## Repeated cells -/

variable {c} {schema : TableSchema} {s s' : State} {rows : List Row}

/-- Distinct cells of a column are no more than it admits.  This is the pigeonhole principle, for a
    sound schema: each row has a cell under the name of the column, and the column admits that. -/
theorem rowCount_le_of_nodup (hschema : schema.Sound) {f : Field} (hf : f ∈ schema.fields)
    {cells : List String} (hcells : ∀ cell, f.type.Admits cell → cell ∈ cells)
    (h : c.rows schema s = (.ok rows, s')) (hnodup : (rows.map (·.get? f.name)).Nodup) :
    schema.rowCount.toNat ≤ cells.length := by
  obtain ⟨hlength, hrows⟩ :=
    (c.gives_rows (E := fun _ => True) schema fun _ _ _ => trivial).ensures s rows
      (congrArg Prod.fst h) hschema
  -- every cell is one that the column admits, so distinct cells make a sublist of those
  have hsubset : rows.map (·.get? f.name) ⊆ cells.map some := by
    intro cell hcell
    obtain ⟨row, hrow, rfl⟩ := List.mem_map.mp hcell
    obtain ⟨text, hget, hadmits⟩ := (hrows row hrow).cells f hf
    rw [hget]
    exact List.mem_map_of_mem (hcells text hadmits)
  have hle := (List.subperm_of_subset hnodup hsubset).length_le
  rwa [List.length_map, List.length_map, hlength] at hle

variable (c) (schema)

/-- Unless there are no rows or one, or there is a column of which there are no cells, rows are drawn
    from some state that are all the same. -/
theorem nodup_cells_iff (column : String) :
    (∀ s rows s', c.rows schema s = (.ok rows, s') → (rows.map (·.get? column)).Nodup) ↔
      schema.rowCount.toNat ≤ 1 ∨ ∃ f ∈ schema.fields, f.type.Levelless := by
  constructor
  · intro h
    refine Classical.or_iff_not_imp_right.mpr fun hlevels => ?_
    -- from zeros, the rows are copies of one row
    have hlevels : ∀ f ∈ schema.fields, ¬ f.type.Levelless := fun f hf hnone =>
      hlevels ⟨f, hf, hnone⟩
    obtain ⟨row, s, s', hrows⟩ := (c.settled_rowOnto hlevels Row.empty).repeats schema.rowCount.toNat
    have hnodup := h s _ s' hrows
    rw [List.map_replicate] at hnodup
    exact List.nodup_replicate.mp hnodup
  · rintro (hfew | hlevelless) s rows s' hrows
    · have hlength := length_of_times hrows
      -- at most one row, and one cell repeats nothing
      rcases rows with _ | ⟨row, _ | ⟨next, rest⟩⟩
      · exact List.nodup_nil
      · exact List.nodup_singleton _
      · rw [List.length_cons, List.length_cons] at hlength
        omega
    · -- the first row would need a cell of the column without levels
      unfold Context.rows at hrows
      cases hcount : schema.rowCount.toNat with
      | zero =>
        rw [hcount] at hrows
        cases hrows
        exact List.nodup_nil
      | succ n =>
        rw [hcount] at hrows
        obtain ⟨row, rest, s₁, -, hfirst, -⟩ := times_succ_eq_ok.mp hrows
        exact absurd hfirst (c.rowOnto_of_levelless hlevelless Row.empty row s s₁)

/-- Whether columns are declared unique makes no difference to the rows.  The cells of a column,
    whatever it is declared, are distinct in the rows from every state only if there is nothing to tell
    apart: there is one row at most, or no row at all because some column has no levels.  In a sound
    schema with more rows than cells that the column admits, they are distinct from no state. -/
theorem rows_disregard_unique :
    (∀ flags : String → Option Bool,
      (∀ f ∈ (schema.withUnique flags).fields, f.type.unique = flags f.name) ∧
        c.rows (schema.withUnique flags) = c.rows schema) ∧
    (∀ column, (∀ s rows s', c.rows schema s = (.ok rows, s') →
        (rows.map (·.get? column)).Nodup) ↔
      schema.rowCount.toNat ≤ 1 ∨ ∃ f ∈ schema.fields, f.type.Levelless) ∧
    (schema.Sound → ∀ f ∈ schema.fields, ∀ cells : List String,
      (∀ cell, f.type.Admits cell → cell ∈ cells) → cells.length < schema.rowCount.toNat →
      ∀ s rows s', c.rows schema s = (.ok rows, s') → ¬ (rows.map (·.get? f.name)).Nodup) := by
  refine ⟨fun flags => ⟨fun f hf => TableSchema.unique_of_mem_withUnique hf,
    c.rows_withUnique flags schema⟩, c.nodup_cells_iff schema, ?_⟩
  intro hschema f hf cells hcells hfew s rows s' hrows hnodup
  exact Nat.not_le_of_lt hfew (rowCount_le_of_nodup hschema hf hcells hrows hnodup)

/-- A coin that is tossed some times, and should not come down twice on the same side. -/
def tosses (rowCount : UInt64) : TableSchema where
  fields := [⟨{ name := "side" }, .enumString { levels := ["heads", "tails"], unique := some true }⟩]
  rowCount := rowCount

/-- A context in which it is tossed; words are not needed. -/
def tossing : Context := ⟨"en_US", #["word"], Nat.one_pos, 1000, 0.5⟩

/-- In three tosses of a coin with the sides "heads" and "tails", declared unique, one side comes
    twice, whatever the state they begin in. -/
theorem rows_disregard_unique_tosses :
    (tosses 3).Sound ∧ ∀ s rows s', tossing.rows (tosses 3) s = (.ok rows, s') →
      ¬ (rows.map (·.get? "side")).Nodup := by
  have hsound : (tosses 3).Sound := by
    have hlevels : ["heads", "tails"].Nodup := by decide
    exact ⟨List.forall_mem_singleton.mpr ⟨by decide, ⟨nofun, hlevels⟩, trivial⟩,
      List.nodup_singleton _⟩
  refine ⟨hsound, ?_⟩
  exact (tossing.rows_disregard_unique (tosses 3)).2.2 hsound _ List.mem_cons_self
    ["heads", "tails"] (fun cell hcell => hcell) (by decide)

/-- Two tosses of the same coin, declared unique, come down on "tails" both times from the seed
    0. -/
theorem rows_repeat_unique_cell :
    (∀ f ∈ (tosses 2).fields, f.type.unique = some true) ∧
      ∃ rows s', tossing.rows (tosses 2) (.ofSeed 0) = (.ok rows, s') ∧
        ¬ (rows.map (·.get? "side")).Nodup := by
  have hcells : (tossing.rows (tosses 2) (.ofSeed 0)).1.toOption.map
      (·.map (·.get? "side")) = some [some "tails", some "tails"] := by
    decide +kernel
  refine ⟨List.forall_mem_singleton.mpr rfl, ?_⟩
  rcases hrows : tossing.rows (tosses 2) (.ofSeed 0) with ⟨e | rows, s'⟩
  · rw [hrows] at hcells
    cases hcells
  · rw [hrows] at hcells
    have hsides : rows.map (·.get? "side") = [some "tails", some "tails"] := Option.some.inj hcells
    refine ⟨rows, s', rfl, ?_⟩
    rw [hsides]
    decide

end Context

end SyntheticTables
