/-
  Writing a package loses nothing.

  Every field of a record is found again in its document, under its own name or, where it was left
  out, by its absence; the documents of different records are therefore different (`eq_of_toJson`,
  one for each kind of record).  All numbers in them are written as themselves as soon as the bounds
  of number columns are finite (`Finite`), the only floats a package contains.
-/
import SyntheticTables.Proofs.Json.Member
import SyntheticTables.Proofs.Json.Printer
import SyntheticTables.Table.Document

namespace SyntheticTables

attribute [ext] FieldMeta Level IntegerType EnumIntegerType NumberType StringType EnumStringType Field
  TableSchema TableResource Package

/-! ## Different records have different documents -/

/-- The three parts of a column's metadata are found under their names, an absent one by its
    absence. -/
theorem FieldMeta.eq_of_toJson {m m' : FieldMeta} (h : m.toJson = m'.toJson) : m = m' := by
  have hname : m.name = m'.name := by
    simpa [toJson] using congrArg (Json.member? "name") h
  have htitle : m.title = m'.title := by
    simpa [toJson, Option.map_inj_right] using congrArg (Json.member? "title") h
  have hdescription : m.description = m'.description := by
    simpa [toJson, Option.map_inj_right] using congrArg (Json.member? "description") h
  exact FieldMeta.ext hname htitle hdescription

/-- The integer 3 and the text of it are two values: one is written as a number, the other between
    quotes. -/
theorem LevelValue.eq_of_toJson {v v' : LevelValue} (h : v.toJson = v'.toJson) : v = v' := by
  cases v <;> cases v'
  case int.int i j => rw [Json.ofInt64_inj.mp h]
  case text.text s t => exact congrArg LevelValue.text (Json.str.inj h)
  case int.text i t => cases h
  case text.int s j => cases h

/-- A level is found in its document, its value first, then its label, if there is one. -/
theorem Level.eq_of_toJson {l l' : Level} (h : l.toJson = l'.toJson) : l = l' := by
  have hvalue : l.value.toJson = l'.value.toJson := by
    simpa [toJson] using congrArg (Json.member? "value") h
  have hlabel : l.label = l'.label := by
    simpa [toJson, Option.map_inj_right] using congrArg (Json.member? "label") h
  exact Level.ext (LevelValue.eq_of_toJson hvalue) hlabel

namespace FieldType

/-- The tag of a column type is found under `kind`, whatever its constraints. -/
theorem member?_kind (t : FieldType) : t.toJson.member? "kind" = some (.str t.kind) := by
  simp [toJson]

/-- The flags and the missing values are found under the same names for all kinds. -/
theorem member?_required (t : FieldType) :
    t.toJson.member? "required" = t.required.map .bool := by
  cases t <;> simp [toJson, members, required]

/-- Like `required`: two flags that are left out unless they are set. -/
theorem member?_unique (t : FieldType) : t.toJson.member? "unique" = t.unique.map .bool := by
  cases t <;> simp [toJson, members, unique]

/-- An empty list of missing values is written, an absent one is not. -/
theorem member?_missingValues (t : FieldType) :
    t.toJson.member? "missingValues" = t.missingValues.map Json.ofStrings := by
  cases t <;> simp [toJson, members, missingValues]

/-- Different column types have different documents.  What all kinds have in common is compared
    first; then the kind, by its tag, leaves one case in which there are constraints to compare. -/
theorem eq_of_toJson {t t' : FieldType} (h : t.toJson = t'.toJson) : t = t' := by
  have hkind : t.kind = t'.kind := by
    simpa [member?_kind] using congrArg (Json.member? "kind") h
  have hrequired : t.required = t'.required := by
    simpa [member?_required, Option.map_inj_right] using congrArg (Json.member? "required") h
  have hunique : t.unique = t'.unique := by
    simpa [member?_unique, Option.map_inj_right] using congrArg (Json.member? "unique") h
  have hmissing : t.missingValues = t'.missingValues := by
    simpa [member?_missingValues, Option.map_inj_right] using
      congrArg (Json.member? "missingValues") h
  -- what is left are the constraints of each kind
  cases t with
  | integer t =>
    cases t' with
    | integer t' =>
      have hminimum : t.minimum = t'.minimum := by
        simpa [toJson, members, Option.map_inj_right] using congrArg (Json.member? "minimum") h
      have hmaximum : t.maximum = t'.maximum := by
        simpa [toJson, members, Option.map_inj_right] using congrArg (Json.member? "maximum") h
      exact congrArg FieldType.integer
        (IntegerType.ext hrequired hunique hminimum hmaximum hmissing)
    | _ => simp [kind] at hkind
  | enumInteger t =>
    cases t' with
    | enumInteger t' =>
      have hlevels : t.levels.map Level.toJson = t'.levels.map Level.toJson := by
        simpa [toJson, members] using congrArg (Json.member? "levels") h
      have hordered : t.ordered = t'.ordered := by
        simpa [toJson, members, Option.map_inj_right] using congrArg (Json.member? "ordered") h
      exact congrArg FieldType.enumInteger
        (EnumIntegerType.ext ((List.map_inj_right fun _ _ => Level.eq_of_toJson).mp hlevels)
          hrequired hunique hordered hmissing)
    | _ => simp [kind] at hkind
  | number t =>
    cases t' with
    | number t' =>
      have hminimum : t.minimum = t'.minimum := by
        simpa [toJson, members, Option.map_inj_right] using congrArg (Json.member? "minimum") h
      have hmaximum : t.maximum = t'.maximum := by
        simpa [toJson, members, Option.map_inj_right] using congrArg (Json.member? "maximum") h
      exact congrArg FieldType.number
        (NumberType.ext hrequired hunique hminimum hmaximum hmissing)
    | _ => simp [kind] at hkind
  | string t =>
    cases t' with
    | string t' =>
      have hminLength : t.minLength = t'.minLength := by
        simpa [toJson, members, Option.map_inj_right] using congrArg (Json.member? "minLength") h
      have hmaxLength : t.maxLength = t'.maxLength := by
        simpa [toJson, members, Option.map_inj_right] using congrArg (Json.member? "maxLength") h
      have hpattern : t.pattern = t'.pattern := by
        simpa [toJson, members, Option.map_inj_right] using congrArg (Json.member? "pattern") h
      exact congrArg FieldType.string
        (StringType.ext hrequired hunique hminLength hmaxLength hpattern hmissing)
    | _ => simp [kind] at hkind
  | enumString t =>
    cases t' with
    | enumString t' =>
      have hlevels : t.levels = t'.levels := by
        simpa [toJson, members] using congrArg (Json.member? "levels") h
      have hordered : t.ordered = t'.ordered := by
        simpa [toJson, members, Option.map_inj_right] using congrArg (Json.member? "ordered") h
      exact congrArg FieldType.enumString
        (EnumStringType.ext hlevels hrequired hunique hordered hmissing)
    | _ => simp [kind] at hkind

end FieldType

/-- A column is found in its document: its metadata under `meta`, its type under `type`. -/
theorem Field.eq_of_toJson {f f' : Field} (h : f.toJson = f'.toJson) : f = f' := by
  have hinfo : f.info.toJson = f'.info.toJson := by
    simpa [toJson] using congrArg (Json.member? "meta") h
  have htype : f.type.toJson = f'.type.toJson := by
    simpa [toJson] using congrArg (Json.member? "type") h
  exact Field.ext (FieldMeta.eq_of_toJson hinfo) (FieldType.eq_of_toJson htype)

/-- So is a schema: its columns, its missing values and the number of its rows. -/
theorem TableSchema.eq_of_toJson {s s' : TableSchema} (h : s.toJson = s'.toJson) : s = s' := by
  have hfields : s.fields.map Field.toJson = s'.fields.map Field.toJson := by
    simpa [toJson] using congrArg (Json.member? "fields") h
  have hmissing : s.missingValues = s'.missingValues := by
    simpa [toJson, Option.map_inj_right] using congrArg (Json.member? "missingValues") h
  have hcount : s.rowCount = s'.rowCount := by
    simpa [toJson] using congrArg (Json.member? "rowCount") h
  exact TableSchema.ext ((List.map_inj_right fun _ _ => Field.eq_of_toJson).mp hfields) hmissing
    hcount

/-- A row is written cell by cell, so its document is the row itself. -/
theorem Row.eq_of_toJson {r r' : Row} (h : r.toJson = r'.toJson) : r = r' := by
  refine Row.ext ((List.map_inj_right ?_).mp (Json.obj.inj h))
  rintro ⟨name, cell⟩ ⟨name', cell'⟩ hcell
  simpa using hcell

/-- Different tables have different documents, whether they differ in their schema or in a single
    cell. -/
theorem TableResource.eq_of_toJson {r r' : TableResource} (h : r.toJson = r'.toJson) : r = r' := by
  have hname : r.name = r'.name := by
    simpa [toJson] using congrArg (Json.member? "name") h
  have hdescription : r.description = r'.description := by
    simpa [toJson, Option.map_inj_right] using congrArg (Json.member? "description") h
  have hschema : r.schema.toJson = r'.schema.toJson := by
    simpa [toJson] using congrArg (Json.member? "schema") h
  have hrows : r.rows.map Row.toJson = r'.rows.map Row.toJson := by
    simpa [toJson] using congrArg (Json.member? "rows") h
  exact TableResource.ext hname hdescription (TableSchema.eq_of_toJson hschema)
    ((List.map_inj_right fun _ _ => Row.eq_of_toJson).mp hrows)

/-- Different packages have different documents; nothing is lost when one is written. -/
theorem Package.eq_of_toJson {p p' : Package} (h : p.toJson = p'.toJson) : p = p' := by
  have hname : p.name = p'.name := by
    simpa [toJson] using congrArg (Json.member? "name") h
  have hdescription : p.description = p'.description := by
    simpa [toJson, Option.map_inj_right] using congrArg (Json.member? "description") h
  have hresources : p.resources.map TableResource.toJson = p'.resources.map TableResource.toJson := by
    simpa [toJson] using congrArg (Json.member? "resources") h
  exact Package.ext hname hdescription
    ((List.map_inj_right fun _ _ => TableResource.eq_of_toJson).mp hresources)

/-! ## Finite bounds -/

/-- All floats in the type of a column are finite. -/
def FieldType.Finite : FieldType → Prop
  | .number t => (∀ x ∈ t.minimum, x.isFinite = true) ∧ ∀ x ∈ t.maximum, x.isFinite = true
  | _ => True

/-- All floats in a column are finite. -/
def Field.Finite (f : Field) : Prop := f.type.Finite

/-- All floats in a schema are finite. -/
def TableSchema.Finite (s : TableSchema) : Prop := ∀ f ∈ s.fields, f.Finite

/-- All floats in a table are finite; its cells are texts, so it has them in its schema only. -/
def TableResource.Finite (r : TableResource) : Prop := r.schema.Finite

/-- All floats in a package are finite. -/
def Package.Finite (p : Package) : Prop := ∀ r ∈ p.resources, r.Finite

/-! ## Their numbers are written as themselves -/

namespace Json

/-- A list is written properly when each of its elements is. -/
theorem allProper_map {α : Type} {encode : α → Json} {as : List α}
    (h : ∀ a ∈ as, (encode a).Proper) : AllProper (as.map encode) := by
  induction as with
  | nil => trivial
  | cons a rest ih =>
    exact ⟨h a List.mem_cons_self, ih fun b hb => h b (List.mem_cons_of_mem _ hb)⟩

/-- Members are written properly when each part of them is. -/
@[simp] theorem membersProper_append {xs ys : List (String × Json)} :
    MembersProper (xs ++ ys) ↔ MembersProper xs ∧ MembersProper ys := by
  induction xs with
  | nil => simp [MembersProper]
  | cons m rest ih => simp [MembersProper, ih, and_assoc]

/-- A member that is left out has no number to write. -/
@[simp] theorem membersProper_optional {α : Type} {name : String} {encode : α → Json} {o : Option α} :
    MembersProper (optional name encode o) ↔ ∀ a ∈ o, (encode a).Proper := by
  cases o <;> simp [MembersProper]

@[simp] theorem proper_str (s : String) : (Json.str s).Proper := by simp [Proper]

@[simp] theorem proper_bool (b : Bool) : (Json.bool b).Proper := by simp [Proper]

/-- An integer is written as itself: those below zero with a minus, the others without. -/
@[simp] theorem proper_ofInt64 (i : Int64) : (ofInt64 i).Proper := by
  unfold ofInt64 Number.ofInt64
  split
  · assumption
  · trivial

@[simp] theorem proper_ofUInt64 (n : UInt64) : (ofUInt64 n).Proper := trivial

@[simp] theorem proper_ofStrings (xs : List String) : (ofStrings xs).Proper :=
  allProper_map fun s _ => proper_str s

end Json

theorem FieldMeta.proper_toJson (m : FieldMeta) : m.toJson.Proper := by
  simp [toJson, Json.Proper, Json.MembersProper]

theorem LevelValue.proper_toJson (v : LevelValue) : v.toJson.Proper := by
  cases v <;> simp [toJson]

theorem Level.proper_toJson (l : Level) : l.toJson.Proper := by
  simp [toJson, Json.Proper, Json.MembersProper, l.value.proper_toJson]

/-- The numbers in the document of a column type are written as themselves if its floats are
    finite.  Only the bounds of a number column are floats; levels and bounds of integers need no
    condition. -/
theorem FieldType.proper_toJson {t : FieldType} (h : t.Finite) : t.toJson.Proper := by
  cases t with
  | number t =>
    have hminimum : ∀ x ∈ t.minimum, (Json.ofFloat x).Proper := h.1
    have hmaximum : ∀ x ∈ t.maximum, (Json.ofFloat x).Proper := h.2
    simpa [toJson, members, Json.Proper, Json.MembersProper] using ⟨hminimum, hmaximum⟩
  | enumInteger t =>
    have hlevels : Json.AllProper (t.levels.map Level.toJson) :=
      Json.allProper_map fun l _ => l.proper_toJson
    simpa [toJson, members, Json.Proper, Json.MembersProper] using hlevels
  | _ => simp [toJson, members, Json.Proper, Json.MembersProper]

theorem Field.proper_toJson {f : Field} (h : f.Finite) : f.toJson.Proper := by
  simp [toJson, Json.Proper, Json.MembersProper, f.info.proper_toJson, FieldType.proper_toJson h]

theorem TableSchema.proper_toJson {s : TableSchema} (h : s.Finite) : s.toJson.Proper := by
  have hfields : Json.AllProper (s.fields.map Field.toJson) :=
    Json.allProper_map fun f hf => Field.proper_toJson (h f hf)
  simpa [toJson, Json.Proper, Json.MembersProper] using hfields

/-- There are no numbers in a row. -/
theorem Row.proper_toJson (r : Row) : r.toJson.Proper := by
  unfold toJson
  generalize r.cells = cells
  induction cells with
  | nil => trivial
  | cons cell rest ih => exact ⟨trivial, ih⟩

theorem TableResource.proper_toJson {r : TableResource} (h : r.Finite) : r.toJson.Proper := by
  have hrows : Json.AllProper (r.rows.map Row.toJson) :=
    Json.allProper_map fun row _ => row.proper_toJson
  simpa [toJson, Json.Proper, Json.MembersProper] using ⟨TableSchema.proper_toJson h, hrows⟩

/-- With finite bounds every number of a package is written as itself, so nothing turns into
    `null`. -/
theorem Package.proper_toJson {p : Package} (h : p.Finite) : p.toJson.Proper := by
  have hresources : Json.AllProper (p.resources.map TableResource.toJson) :=
    Json.allProper_map fun r hr => TableResource.proper_toJson (h r hr)
  simpa [toJson, Json.Proper, Json.MembersProper] using hresources

end SyntheticTables
