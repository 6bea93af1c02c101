/-
  Cells keep the constraints of their column.

  A cell can be drawn of every column but one without levels, and of a sound column it is one that
  the column admits (`gives_cell`).  A row then has a cell under the name of each column
  (`gives_rowOnto`): what an earlier column put in its place is overwritten by no later one, as long
  as the names are distinct.
-/
import SyntheticTables.Proofs.Draw.Text
import SyntheticTables.Proofs.Table.Validity
import SyntheticTables.Proofs.Text.Integer

namespace SyntheticTables

namespace Context

open Draw

variable {E : GenError → Prop} (c : Context)

/-! ## Numbers -/

/-- The defaults of absent bounds never invert them: the default minimum is zero, or the maximum if
    that is negative, and the default maximum is the greatest integer. -/
theorem integer_bounds_le {t : IntegerType} (h : (FieldType.integer t).Valid) :
    t.minimum.getD (if t.maximum.getD Int64.maxValue < 0 then t.maximum.getD Int64.maxValue else 0)
      ≤ t.maximum.getD Int64.maxValue := by
  cases hmin : t.minimum with
  | none =>
    simp only [Option.getD_none]
    split
    · exact Int64.le_refl _
    · rename_i hnot
      exact Int64.not_lt.mp hnot
  | some a =>
    cases hmax : t.maximum with
    | none => exact Int64.le_maxValue a
    | some b => exact h a hmin b hmax

/-- The text of a cell of integers is read back as the integer that was drawn, so the column admits
    it if its bounds are in order. -/
theorem gives_integerCell (t : IntegerType) : Gives E (fun cell =>
    (FieldType.integer t).Valid → (FieldType.integer t).Admits cell) (c.integerCell t) := by
  refine (gives_int _ _).bind fun _ i hi => .pure fun hvalid => ?_
  have hle := integer_bounds_le hvalid
  have hmem := hi.elim id fun h => ⟨Int64.le_trans hle h.1, Int64.le_trans h.2 hle⟩
  refine ⟨i, Text.int64?_toString i, ?_, ?_⟩
  · intro m hm
    have hlow := hmem.1
    rwa [hm] at hlow
  · intro m hm
    have hhigh := hmem.2
    rwa [hm] at hhigh

/-! ## Texts -/

/-- The same of a cell of texts, as a statement about the step: its words are all that is drawn for
    it. -/
theorem gives_textCell (t : StringType) : Gives E (fun cell =>
    (FieldType.string t).Valid → (FieldType.string t).Admits cell) (c.textCell t) := by
  intro s
  obtain ⟨words, s', hwords, -, hlong, hcell⟩ := c.textCell_apply t s
  -- the run has moved on as it does for the words
  obtain ⟨new, hstep, -⟩ := c.gives_timesWord (E := E) words.length s
  rw [hwords] at hstep
  rw [hcell]
  rw [← String.length_toList] at hlong
  exact ⟨new, hstep, fun hvalid => StringType.admits_cut hvalid hlong⟩

/-! ## Cells -/

/-- One of some levels is among them; the failure is for the column that has none. -/
theorem gives_level {α : Type} : ∀ {levels : List α},
    (levels = [] → E (.package .noLevelToDraw)) → Gives E (fun a => a ∈ levels) (c.level levels)
  | [], h => .throw (h rfl)
  | first :: rest, _ => by
    refine (Meets.sample (R := fun _ i => i < (first :: rest).length) fun s =>
      Sample.index_lt (Nat.succ_pos _) s).bind fun _ i hi => .pure ?_
    rw [List.getD_eq_getElem?_getD, List.getElem?_eq_getElem hi]
    exact List.getElem_mem hi

/-- Only a column without levels has no cells, and a cell of a sound column is admitted by it.
    Numbers are admitted without a condition, since nothing is claimed about their bounds here. -/
theorem gives_cell (t : FieldType) (hE : ¬ t.Valid → E (.package .noLevelToDraw)) :
    Gives E (fun cell => t.Sound → t.Admits cell) (c.cell t) := by
  cases t with
  | integer t => exact (c.gives_integerCell t).mono fun _ _ h hsound => h hsound.valid
  | number t =>
    refine Meets.bind (R := fun _ _ => True) ?_ fun _ _ _ => .pure fun _ => trivial
    exact gives_float _ _
  | string t => exact (c.gives_textCell t).mono fun _ _ h hsound => h hsound.valid
  | enumString t =>
    refine (c.gives_level fun h => hE fun hvalid => hvalid.1 h).mono fun _ cell hcell _ => ?_
    exact hcell
  | enumInteger t =>
    refine (c.gives_level fun h => hE fun hvalid => hvalid.1 h).bind fun _ l hl => .pure ?_
    intro hsound
    have hmem : l.value ∈ t.levels.map (·.value) := List.mem_map_of_mem hl
    cases hvalue : l.value with
    | int i =>
      rw [hvalue] at hmem
      exact .inl ⟨i, hmem, rfl⟩
    | text token =>
      rw [hvalue] at hmem
      exact .inr (hsound.declared token hmem)

/-! ## Rows -/

section Words

variable {c d : Context} (h : d.word = c.word)

include h

/-- Cells search for nothing and leave nothing to a default, so their words are all they take from
    the context. -/
theorem fillText_congr (minLength : Nat) (text : String) (length : Nat) :
    d.fillText minLength text length = c.fillText minLength text length := by
  fun_induction fillText c minLength text length with
  | case1 text length hshort ih =>
    rw [fillText, dif_pos hshort, h]
    exact congrArg (c.word >>= ·) (funext ih)
  | case2 text length hlong => rw [fillText, dif_neg hlong]

/-- So a cell depends on the words of the context and on nothing else in it. -/
theorem cell_congr (t : FieldType) : d.cell t = c.cell t := by
  cases t with
  | string t =>
    show d.textCell t = c.textCell t
    unfold textCell
    rw [h]
    refine congrArg (c.word >>= ·) (funext fun first => ?_)
    rw [fillText_congr h]
  | _ => rfl

/-- So does a row, cell by cell. -/
theorem rowOnto_congr (row : Row) (fields : List Field) :
    d.rowOnto row fields = c.rowOnto row fields := by
  induction fields generalizing row with
  | nil => rfl
  | cons f rest ih =>
    unfold rowOnto
    rw [cell_congr h]
    exact congrArg (c.cell f.type >>= ·) (funext fun text => ih _)

/-- So do the rows of a table.  Other attempts and other probabilities therefore leave the rows as
    they are, which both `Draw.KeptBy` and `Node.SameDefaults` need. -/
theorem rows_congr (schema : TableSchema) : d.rows schema = c.rows schema := by
  unfold rows
  rw [rowOnto_congr h]

end Words

/-- A row that was filled from another one: the columns' own cells stand under their names, and all
    other cells are as before. -/
structure Extends (row start : Row) (fields : List Field) : Prop where
  names : ∀ n, n ∈ row.names ↔ n ∈ fields.map Field.name ∨ n ∈ start.names
  others : ∀ n, n ∉ fields.map Field.name → row.get? n = start.get? n
  cells : (fields.map Field.name).Nodup → ∀ f ∈ fields,
    ∃ cell, row.get? f.name = some cell ∧ (f.type.Sound → f.type.Admits cell)

/-- Filling the columns of a row, by induction on those that are left.  A later column of the same
    name would overwrite the cell, so the third field asks for distinct names. -/
theorem gives_rowOnto : ∀ (fields : List Field) (start : Row),
    (∀ f ∈ fields, ¬ f.type.Valid → E (.package .noLevelToDraw)) →
    Gives E (fun row => Extends row start fields) (c.rowOnto start fields)
  | [], start, _ => .pure ⟨by simp, fun _ _ => rfl, by simp⟩
  | f :: rest, start, hE => by
    refine (c.gives_cell f.type (hE f List.mem_cons_self)).bind fun _ cell hcell => ?_
    refine (gives_rowOnto rest _ fun g hg => hE g (List.mem_cons_of_mem _ hg)).mono
      fun _ row hrow => ⟨fun n => ?_, fun n hn => ?_, fun hnodup g hg => ?_⟩
    · rw [hrow.names, Row.mem_names_insert, List.map_cons, List.mem_cons, or_left_comm, or_assoc]
    · rw [List.map_cons, List.mem_cons, not_or] at hn
      rw [hrow.others n hn.2, Row.get?_insert, if_neg hn.1]
    · rw [List.map_cons, List.nodup_cons] at hnodup
      rcases List.mem_cons.mp hg with rfl | hg
      · -- no later column has this name, so the cell is still there
        refine ⟨cell, ?_, hcell⟩
        rw [hrow.others _ hnodup.1, Row.get?_insert, if_pos rfl]
      · exact hrow.cells hnodup.2 g hg

/-- The rows of a sound schema: as many as it asks for, each filling its columns.  A row begins
    empty, so its names are those of the columns and no others. -/
theorem gives_rows (s : TableSchema) (hE : ∀ f ∈ s.fields, ¬ f.type.Valid →
    E (.package .noLevelToDraw)) :
    Gives E (fun rows => s.Sound → rows.length = s.rowCount.toNat ∧
      ∀ row ∈ rows, row.Fills s.fields) (c.rows s) := by
  have hrow := c.gives_rowOnto s.fields Row.empty hE
  have hcarries : Carries E (fun _ => []) (fun row => Extends row Row.empty s.fields)
      (c.rowOnto Row.empty s.fields) := hrow.mono fun _ _ h => ⟨List.nil_sublist _, h⟩
  refine (hcarries.times s.rowCount.toNat).mono fun _ rows h hsound => ⟨h.2.2, fun row hmem => ?_⟩
  have hext := h.2.1 row hmem
  refine ⟨fun n => ?_, fun f hf => ?_⟩
  · rw [hext.names n]
    exact or_iff_left (by simp [Row.empty, Row.names])
  · obtain ⟨cell, hget, hadmits⟩ := hext.cells hsound.distinct f hf
    exact ⟨cell, hget, hadmits (hsound.fields f hf).typed⟩

end Context

end SyntheticTables
