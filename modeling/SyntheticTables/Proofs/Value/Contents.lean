/-
  What is inside a value, and when that is sound.

  A value may hold columns, tables and packages at any depth: `columnNames`, `resources` and
  `packages` collect them.  `Sound` is what generation establishes of them: names are present, types
  contradict neither each other nor themselves, and every row has a cell that its column admits.
-/
import SyntheticTables.Table.Validity
import SyntheticTables.Text.Integer
import SyntheticTables.Value

namespace SyntheticTables

/-! ## Collecting -/

namespace Value

mutual

/-- The names of all columns, in the order of the value. -/
def columnNames : Value → List String
  | .seq items => allColumnNames items
  | .fieldMeta m => [m.name]
  | .field f => [f.name]
  | .tableSchema s => s.fieldNames
  | .tableResource r => r.schema.fieldNames
  | .package p => p.resources.flatMap (·.schema.fieldNames)
  | _ => []
  termination_by structural v => v

/-- The names of all columns in several values, in order. -/
def allColumnNames : List Value → List String
  | [] => []
  | v :: rest => columnNames v ++ allColumnNames rest
  termination_by structural vs => vs

end

mutual

/-- All tables inside the value, those of packages included. -/
def resources : Value → List TableResource
  | .seq items => allResources items
  | .tableResource r => [r]
  | .package p => p.resources
  | _ => []
  termination_by structural v => v

/-- All tables inside several values. -/
def allResources : List Value → List TableResource
  | [] => []
  | v :: rest => resources v ++ allResources rest
  termination_by structural vs => vs

end

mutual

/-- All packages inside the value. -/
def packages : Value → List Package
  | .seq items => allPackages items
  | .package p => [p]
  | _ => []
  termination_by structural v => v

/-- All packages inside several values. -/
def allPackages : List Value → List Package
  | [] => []
  | v :: rest => packages v ++ allPackages rest
  termination_by structural vs => vs

end

/-- The columns of several values are those of each. -/
theorem allColumnNames_eq (vs : List Value) : allColumnNames vs = vs.flatMap columnNames := by
  induction vs with
  | nil => rfl
  | cons v rest ih => rw [allColumnNames, ih, List.flatMap_cons]

/-- A sequence of metadata names its columns. -/
theorem columnNames_metas (ms : List FieldMeta) :
    (Value.seq (ms.map .fieldMeta)).columnNames = ms.map (·.name) := by
  rw [columnNames, allColumnNames_eq, List.flatMap_map, List.map_eq_flatMap]
  rfl

/-- A sequence of columns has their names. -/
theorem columnNames_fields (fs : List Field) :
    (Value.seq (fs.map .field)).columnNames = fs.map Field.name := by
  rw [columnNames, allColumnNames_eq, List.flatMap_map, List.map_eq_flatMap]
  rfl

mutual

/-- The tables of a package that a value holds are tables that the value holds. -/
theorem mem_resources_of_packages : ∀ {v : Value} {p : Package} {r : TableResource},
    p ∈ v.packages → r ∈ p.resources → r ∈ v.resources
  | .seq items, p, r, hp, hr => mem_allResources_of_packages hp hr
  | .package q, p, r, hp, hr => by
    simp only [packages, List.mem_singleton] at hp
    exact hp ▸ hr
  | .absent, _, _, hp, _ | .bool _, _, _, hp, _ | .int _, _, _, hp, _ | .float _, _, _, hp, _
  | .text _, _, _, hp, _ | .interval .., _, _, hp, _ | .fieldMeta _, _, _, hp, _
  | .fieldType _, _, _, hp, _ | .field _, _, _, hp, _ | .tableSchema _, _, _, hp, _
  | .tableResource _, _, _, hp, _ => by simp [packages] at hp

/-- The same for several values. -/
theorem mem_allResources_of_packages : ∀ {vs : List Value} {p : Package} {r : TableResource},
    p ∈ allPackages vs → r ∈ p.resources → r ∈ allResources vs
  | [], _, _, hp, _ => by simp [allPackages] at hp
  | v :: rest, p, r, hp, hr => by
    rw [allPackages, List.mem_append] at hp
    rw [allResources, List.mem_append]
    exact hp.imp (fun hp => mem_resources_of_packages hp hr)
      fun hp => mem_allResources_of_packages hp hr

end

end Value

/-! ## Soundness -/

/-- The cells that keep the constraints of a column. -/
def FieldType.Admits : FieldType → String → Prop
  | .integer t, cell => ∃ i, Text.int64? cell = some i ∧
      (∀ m ∈ t.minimum, m ≤ i) ∧ ∀ m ∈ t.maximum, i ≤ m
  | .number _, _ => True
  | .string t, cell =>
      (∀ m ∈ t.minLength, m.toNat ≤ cell.length) ∧ ∀ m ∈ t.maxLength, cell.length ≤ m.toNat
  | .enumInteger t, cell => (∃ i, LevelValue.int i ∈ t.levels.map (·.value) ∧ cell = toString i) ∨
      ∃ tokens, t.missingValues = some tokens ∧ cell ∈ tokens
  | .enumString t, cell => cell ∈ t.levels

/-- The levels of a column that are no integers are tokens for missing values. -/
def FieldType.TokensDeclared : FieldType → Prop
  | .enumInteger t => ∀ token, LevelValue.text token ∈ t.levels.map (·.value) →
      ∃ tokens, t.missingValues = some tokens ∧ token ∈ tokens
  | _ => True

/-- What generation establishes of a column type: it does not contradict itself, and its levels that
    are no integers are declared as missing values. -/
structure FieldType.Sound (t : FieldType) : Prop where
  valid : t.Valid
  declared : t.TokensDeclared

/-- A column with a name, whose type is sound. -/
structure Field.Sound (f : Field) : Prop where
  named : f.name ≠ ""
  typed : f.type.Sound

/-- Sound columns with different names. -/
structure TableSchema.Sound (s : TableSchema) : Prop where
  fields : ∀ f ∈ s.fields, f.Sound
  distinct : s.fieldNames.Nodup

/-- A row has exactly the names of the columns, and under each of them a cell the column admits. -/
structure Row.Fills (row : Row) (fields : List Field) : Prop where
  names : ∀ name, name ∈ row.names ↔ name ∈ fields.map Field.name
  cells : ∀ f ∈ fields, ∃ cell, row.get? f.name = some cell ∧ f.type.Admits cell

/-- A table with a sound schema, as many rows as that says, and rows that fill its columns. -/
structure TableResource.Sound (r : TableResource) : Prop where
  schema : r.schema.Sound
  count : r.rows.length = r.schema.rowCount.toNat
  rows : ∀ row ∈ r.rows, row.Fills r.schema.fields

/-- A sound schema is valid; what its levels declare is more than validity asks. -/
theorem TableSchema.Sound.valid {s : TableSchema} (h : s.Sound) : s.Valid where
  named f hf := (h.fields f hf).named
  distinct := h.distinct
  typed f hf := (h.fields f hf).typed.valid

/-- A sound table is valid; what its cells say is more than validity asks. -/
theorem TableResource.Sound.valid {r : TableResource} (h : r.Sound) : r.Valid where
  schema := h.schema.valid
  count := h.count
  rows row hrow := (h.rows row hrow).names

namespace Value

mutual

/-- Everything inside the value is sound. -/
def Sound : Value → Prop
  | .seq items => AllSound items
  | .fieldMeta m => m.name ≠ ""
  | .fieldType t => t.Sound
  | .field f => f.Sound
  | .tableSchema s => s.Sound
  | .tableResource r => r.Sound
  | .package p => ∀ r ∈ p.resources, r.Sound
  | _ => True
  termination_by structural v => v

/-- Everything inside several values is sound. -/
def AllSound : List Value → Prop
  | [] => True
  | v :: rest => Sound v ∧ AllSound rest
  termination_by structural vs => vs

end

/-- Several values are sound if each is. -/
theorem allSound_iff {vs : List Value} : AllSound vs ↔ ∀ v ∈ vs, v.Sound := by
  induction vs with
  | nil => simp [AllSound]
  | cons v rest ih => simp [AllSound, ih]

/-- A sequence of metadata is sound when every column has a name. -/
theorem sound_metas {ms : List FieldMeta} :
    (Value.seq (ms.map .fieldMeta)).Sound ↔ ∀ m ∈ ms, m.name ≠ "" := by
  rw [Sound, allSound_iff, List.forall_mem_map]
  rfl

/-- A sequence of columns is sound when each of them is. -/
theorem sound_fields {fs : List Field} :
    (Value.seq (fs.map .field)).Sound ↔ ∀ f ∈ fs, f.Sound := by
  rw [Sound, allSound_iff, List.forall_mem_map]
  rfl

mutual

/-- The tables inside a sound value are sound, also those of its packages and those inside
    sequences.  By the recursion that collects the tables. -/
theorem Sound.resources : ∀ {v : Value}, v.Sound → ∀ r ∈ v.resources, r.Sound
  | .seq items, h, r, hr => by
    simp only [Value.Sound] at h
    exact AllSound.resources h r hr
  | .tableResource t, h, r, hr => by
    simp only [Value.resources, List.mem_singleton] at hr
    rw [hr]
    exact h
  | .package p, h, r, hr => h r hr
  | .absent, _, _, hr | .bool _, _, _, hr | .int _, _, _, hr | .float _, _, _, hr
  | .text _, _, _, hr | .interval .., _, _, hr | .fieldMeta _, _, _, hr | .fieldType _, _, _, hr
  | .field _, _, _, hr | .tableSchema _, _, _, hr => by simp [Value.resources] at hr

/-- The tables inside several sound values are sound. -/
theorem AllSound.resources : ∀ {vs : List Value}, AllSound vs → ∀ r ∈ allResources vs, r.Sound
  | [], _, r, hr => by simp [allResources] at hr
  | v :: rest, h, r, hr => by
    simp only [allResources, List.mem_append] at hr
    rcases hr with hr | hr
    · exact Sound.resources h.1 r hr
    · exact AllSound.resources h.2 r hr

end

end Value

end SyntheticTables
