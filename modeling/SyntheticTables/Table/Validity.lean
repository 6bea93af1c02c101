/-
  When a package is consistent.

  `Package.check` goes through the resources in order and reports the first violation it meets;
  `Package.Valid` says the same without an order: names are present and distinct, bounds are
  ordered, levels exist and are distinct, and every row has exactly the names of the columns.
-/
import SyntheticTables.Table.Package

namespace SyntheticTables

/-! ## Causes -/

/-- What is wrong with a schema, a resource or a package: the first violation that is met, and the
    resource it is in. -/
inductive PackageError where
  | emptyFieldName
  | duplicateFieldName (name : String)
  | boundsInverted (field lower upper : String)
  | duplicateLabel (field label : String)
  | duplicateLevel (field level : String)
  | noLevels (field : String)
  /-- A cell was asked of a column without levels. -/
  | noLevelToDraw
  | wrongRowCount (expected : UInt64) (found : Nat)
  | wrongRowNames (index : Nat)
  | inResource (name : String) (cause : PackageError)
  deriving Repr, DecidableEq, Inhabited

/-- The cause in words, without saying what it is about. -/
def PackageError.detail : PackageError → String
  | .emptyFieldName => "empty field name"
  | .duplicateFieldName name => s!"duplicate field name: {name}"
  | .boundsInverted field lower upper => s!"field '{field}': {lower} must be <= {upper}"
  | .duplicateLabel field label => s!"field '{field}': duplicate level label '{label}'"
  | .duplicateLevel field level => s!"field '{field}': duplicate level '{level}'"
  | .noLevels field => s!"field '{field}': enum levels must not be empty"
  | .noLevelToDraw => "enum levels must not be empty"
  | .wrongRowCount expected found => s!"expected {expected} rows, found {found}"
  | .wrongRowNames index => s!"row {index} does not match schema fields"
  | .inResource name cause => s!"resource '{name}': {cause.detail}"

/-- The text of a violation, as a run reports it. -/
def PackageError.message (e : PackageError) : String := s!"invalid package: {e.detail}"

/-! ## Distinctness -/

/-- The first element that stands in the list a second time; `seen` holds those before. -/
def firstRepeated? (seen : List String) : List String → Option String
  | [] => none
  | x :: rest => if seen.contains x then some x else firstRepeated? (x :: seen) rest

/-- Nothing is repeated exactly when the elements are unlike each other and unlike those already
    seen.  With nothing seen that is `Nodup`, which is how the check of levels and labels is
    read. -/
theorem firstRepeated?_eq_none_iff {xs : List String} :
    ∀ {seen : List String}, firstRepeated? seen xs = none ↔
      xs.Nodup ∧ ∀ x ∈ xs, x ∉ seen := by
  induction xs with
  | nil => intro seen; simp [firstRepeated?]
  | cons x rest ih =>
    intro seen
    unfold firstRepeated?
    by_cases h : x ∈ seen
    · simp [h]
    · simp only [List.contains_eq_mem, decide_eq_true_eq, h, if_false, ih, List.nodup_cons,
        List.mem_cons, not_or, forall_eq_or_imp, not_false_eq_true, true_and]
      constructor
      · rintro ⟨nodup, sep⟩
        exact ⟨⟨fun hx => (sep x hx).1 rfl, nodup⟩, fun y hy => (sep y hy).2⟩
      · rintro ⟨⟨hx, nodup⟩, sep⟩
        exact ⟨nodup, fun y hy => ⟨fun e => hx (e ▸ hy), sep y hy⟩⟩

/-! ## Checking -/

/-- Whether two optional bounds are both there and the lower one is above the upper one.  A missing
    bound contradicts nothing. -/
def inverted {α : Type} [LT α] [DecidableLT α] (lower upper : Option α) : Bool :=
  match lower, upper with
  | some a, some b => b < a
  | _, _ => false

/-- What is wrong with the type of a column, if anything is: bounds that exclude every value, no
    levels, or a level or label that stands twice. -/
def FieldType.fault? (field : String) : FieldType → Option PackageError
  | .integer t =>
    if inverted t.minimum t.maximum then some (.boundsInverted field "minimum" "maximum") else none
  | .number t =>
    if inverted t.minimum t.maximum then some (.boundsInverted field "minimum" "maximum") else none
  | .string t =>
    if inverted t.minLength t.maxLength then some (.boundsInverted field "minLength" "maxLength")
    else none
  | .enumInteger t =>
    if t.levels.isEmpty then some (.noLevels field)
    else (firstRepeated? [] (t.levels.filterMap (·.label))).map (.duplicateLabel field)
  | .enumString t =>
    if t.levels.isEmpty then some (.noLevels field)
    else (firstRepeated? [] t.levels).map (.duplicateLevel field)

/-- Goes through the columns; `seen` holds the names of those before.  The name of a column is
    looked at before its type. -/
def checkFields (seen : List String) : List Field → Except PackageError Unit
  | [] => .ok ()
  | f :: rest =>
    if f.name = "" then .error .emptyFieldName
    else if seen.contains f.name then .error (.duplicateFieldName f.name)
    else match f.type.fault? f.name with
      | some fault => .error fault
      | none => checkFields (f.name :: seen) rest

/-- Checks the columns of a schema, from the first one on. -/
def TableSchema.check (s : TableSchema) : Except PackageError Unit := checkFields [] s.fields

/-- Names in ascending order, each once. -/
def ascendingNames (names : List String) : List String :=
  (Json.sortMembers (names.map fun name => (name, ()))).map (·.1)

/-- Looks for the first row, counted from `index`, whose names are not the given ones; rows have
    their names in order, so equal lists are equal sets. -/
def checkRows (names : List String) (index : Nat) : List Row → Except PackageError Unit
  | [] => .ok ()
  | r :: rest =>
    if r.names = names then checkRows names (index + 1) rest else .error (.wrongRowNames index)

/-- Checks the schema, the number of rows, and the names in each row, in this order; an error says
    which resource it is about. -/
def TableResource.check (r : TableResource) : Except PackageError Unit :=
  let result : Except PackageError Unit := do
    r.schema.check
    if r.rows.length ≠ r.schema.rowCount.toNat then
      throw (.wrongRowCount r.schema.rowCount r.rows.length)
    checkRows (ascendingNames r.schema.fieldNames) 0 r.rows
  result.mapError (.inResource r.name)

/-- Goes through the resources and stops at the first violation. -/
def checkResources : List TableResource → Except PackageError Unit
  | [] => .ok ()
  | r :: rest => do r.check; checkResources rest

/-- Whether a package is consistent: each of its resources is, and nothing is asked of them
    together. -/
def Package.check (p : Package) : Except PackageError Unit := checkResources p.resources

/-! ## What the check stands for -/

/-- The constraints of a column contradict neither each other nor themselves: a lower bound is not
    above the upper one, and levels are there and unlike each other. -/
def FieldType.Valid : FieldType → Prop
  | .integer t => ∀ a ∈ t.minimum, ∀ b ∈ t.maximum, a ≤ b
  | .number t => ∀ a ∈ t.minimum, ∀ b ∈ t.maximum, ¬ b < a
  | .string t => ∀ a ∈ t.minLength, ∀ b ∈ t.maxLength, a ≤ b
  | .enumInteger t => t.levels ≠ [] ∧ (t.levels.filterMap (·.label)).Nodup
  | .enumString t => t.levels ≠ [] ∧ t.levels.Nodup

/-- Columns have names of their own and valid types: no name is empty, and none stands twice. -/
structure TableSchema.Valid (s : TableSchema) : Prop where
  named : ∀ f ∈ s.fields, f.name ≠ ""
  distinct : s.fieldNames.Nodup
  typed : ∀ f ∈ s.fields, f.type.Valid

/-- The rows are those the schema speaks of: as many as it says, each with the names of the columns
    and no others. -/
structure TableResource.Valid (r : TableResource) : Prop where
  schema : r.schema.Valid
  count : r.rows.length = r.schema.rowCount.toNat
  rows : ∀ row ∈ r.rows, ∀ name, name ∈ row.names ↔ name ∈ r.schema.fieldNames

/-- All tables of the package are valid. -/
def Package.Valid (p : Package) : Prop := ∀ r ∈ p.resources, r.Valid

end SyntheticTables
