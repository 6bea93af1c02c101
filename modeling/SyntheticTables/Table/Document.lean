/-
  Packages and their parts as JSON documents.

  `toJson` writes the members in the order the fields are declared, with the tag of a column type in
  front, and leaves out what is absent; canonical keys depend on that order.  `ofJson` reads a
  document back, members in any order.
-/
import SyntheticTables.Table.Package
import SyntheticTables.Record

namespace SyntheticTables

open Json (optional ofStrings)

/-! ## Writing -/

/-- The names of a column; a title or description that is absent has no member. -/
def FieldMeta.toJson (m : FieldMeta) : Json :=
  .obj ([("name", .str m.name)] ++ optional "title" .str m.title
    ++ optional "description" .str m.description)

/-- The value of a level without a tag: an integer as a number, a token as a text. -/
def LevelValue.toJson : LevelValue → Json
  | .int i => .ofInt64 i
  | .text s => .str s

/-- A level with its label, if it has one. -/
def Level.toJson (l : Level) : Json :=
  .obj ([("value", l.value.toJson)] ++ optional "label" .str l.label)

namespace FieldType

/-- The members behind the tag: levels first, then the flags, bounds and tokens that are there. -/
def members : FieldType → List (String × Json)
  | .integer t =>
    optional "required" .bool t.required ++ optional "unique" .bool t.unique
      ++ optional "minimum" .ofInt64 t.minimum ++ optional "maximum" .ofInt64 t.maximum
      ++ optional "missingValues" ofStrings t.missingValues
  | .enumInteger t =>
    [("levels", .arr (t.levels.map Level.toJson))]
      ++ optional "required" .bool t.required ++ optional "unique" .bool t.unique
      ++ optional "ordered" .bool t.ordered
      ++ optional "missingValues" ofStrings t.missingValues
  | .number t =>
    optional "required" .bool t.required ++ optional "unique" .bool t.unique
      ++ optional "minimum" .ofFloat t.minimum ++ optional "maximum" .ofFloat t.maximum
      ++ optional "missingValues" ofStrings t.missingValues
  | .string t =>
    optional "required" .bool t.required ++ optional "unique" .bool t.unique
      ++ optional "minLength" .ofUInt64 t.minLength ++ optional "maxLength" .ofUInt64 t.maxLength
      ++ optional "pattern" .str t.pattern
      ++ optional "missingValues" ofStrings t.missingValues
  | .enumString t =>
    [("levels", ofStrings t.levels)]
      ++ optional "required" .bool t.required ++ optional "unique" .bool t.unique
      ++ optional "ordered" .bool t.ordered
      ++ optional "missingValues" ofStrings t.missingValues

/-- A column type with the tag of its kind in front. -/
def toJson (t : FieldType) : Json := .obj (("kind", .str t.kind) :: t.members)

end FieldType

/-- A column: its names, then its type. -/
def Field.toJson (f : Field) : Json := .obj [("meta", f.info.toJson), ("type", f.type.toJson)]

/-- The layout of a table, with the number of rows at the end. -/
def TableSchema.toJson (s : TableSchema) : Json :=
  .obj ([("fields", .arr (s.fields.map Field.toJson))]
    ++ optional "missingValues" ofStrings s.missingValues
    ++ [("rowCount", .ofUInt64 s.rowCount)])

/-- A row as an object of texts, in the order of the names. -/
def Row.toJson (r : Row) : Json := .obj (r.cells.map fun (name, cell) => (name, .str cell))

/-- A table: its names, its schema, its rows. -/
def TableResource.toJson (r : TableResource) : Json :=
  .obj ([("name", .str r.name)] ++ optional "description" .str r.description
    ++ [("schema", r.schema.toJson), ("rows", .arr (r.rows.map Row.toJson))])

/-- A package: its names, then its tables. -/
def Package.toJson (p : Package) : Json :=
  .obj ([("name", .str p.name)] ++ optional "description" .str p.description
    ++ [("resources", .arr (p.resources.map TableResource.toJson))])

/-! ## Reading -/

/-- The members that the names of a column are read from; only the name has to be there. -/
def FieldMeta.slots : List (Slot FieldMeta) := [
  .needed "name" Json.asText fun a r => { r with name := a },
  .optional "title" Json.asText fun a r => { r with title := a },
  .optional "description" Json.asText fun a r => { r with description := a }]

/-- Reads the names of a column. -/
def FieldMeta.ofJson : Json → Except DecodeError FieldMeta :=
  Record.ofJson .document "FieldMeta" FieldMeta.slots { name := "" }

/-- An integer if it can be one, else a text.  A text of digits stays a text, so writing and reading
    a token does not change it. -/
def LevelValue.ofJson (j : Json) : Except DecodeError LevelValue :=
  match j.asInt64, j.asText with
  | .ok i, _ => .ok (.int i)
  | .error _, .ok s => .ok (.text s)
  | .error _, .error _ => .error (.noAlternative "LevelValue")

/-- The members that a level is read from. -/
def Level.slots : List (Slot Level) := [
  .needed "value" LevelValue.ofJson fun a r => { r with value := a },
  .optional "label" Json.asText fun a r => { r with label := a }]

/-- Reads a level.  It always stands in a part that was set aside with the tag of its column. -/
def Level.ofJson : Json → Except DecodeError Level :=
  Record.ofJson .tagged "EnumIntegerLevel" Level.slots { value := .int 0 }

/-- The members that columns of integers are read from; none of them has to be there. -/
def IntegerType.slots : List (Slot IntegerType) := [
  .optional "required" Json.asBool fun a r => { r with required := a },
  .optional "unique" Json.asBool fun a r => { r with unique := a },
  .optional "minimum" Json.asInt64 fun a r => { r with minimum := a },
  .optional "maximum" Json.asInt64 fun a r => { r with maximum := a },
  .optional "missingValues" Json.asTexts fun a r => { r with missingValues := a }]

/-- The members that columns with levels of integers are read from; the levels have to be there,
    though there may be none. -/
def EnumIntegerType.slots : List (Slot EnumIntegerType) := [
  .needed "levels" (Json.asListOf Level.ofJson) fun a r => { r with levels := a },
  .optional "required" Json.asBool fun a r => { r with required := a },
  .optional "unique" Json.asBool fun a r => { r with unique := a },
  .optional "ordered" Json.asBool fun a r => { r with ordered := a },
  .optional "missingValues" Json.asTexts fun a r => { r with missingValues := a }]

/-- The members that columns of floats are read from. -/
def NumberType.slots : List (Slot NumberType) := [
  .optional "required" Json.asBool fun a r => { r with required := a },
  .optional "unique" Json.asBool fun a r => { r with unique := a },
  .optional "minimum" Json.asFloat fun a r => { r with minimum := a },
  .optional "maximum" Json.asFloat fun a r => { r with maximum := a },
  .optional "missingValues" Json.asTexts fun a r => { r with missingValues := a }]

/-- The members that columns of texts are read from. -/
def StringType.slots : List (Slot StringType) := [
  .optional "required" Json.asBool fun a r => { r with required := a },
  .optional "unique" Json.asBool fun a r => { r with unique := a },
  .optional "minLength" Json.asUInt64 fun a r => { r with minLength := a },
  .optional "maxLength" Json.asUInt64 fun a r => { r with maxLength := a },
  .optional "pattern" Json.asText fun a r => { r with pattern := a },
  .optional "missingValues" Json.asTexts fun a r => { r with missingValues := a }]

/-- The members that columns with levels of texts are read from. -/
def EnumStringType.slots : List (Slot EnumStringType) := [
  .needed "levels" Json.asTexts fun a r => { r with levels := a },
  .optional "required" Json.asBool fun a r => { r with required := a },
  .optional "unique" Json.asBool fun a r => { r with unique := a },
  .optional "ordered" Json.asBool fun a r => { r with ordered := a },
  .optional "missingValues" Json.asTexts fun a r => { r with missingValues := a }]

namespace FieldType

/-- The names of the kinds in the order in which a message lists them. -/
def kinds : List String := ["integer", "enum_integer", "number", "string", "enum_string"]

/-- Reads the body of a column type of a known kind, which is whatever stands beside the tag. -/
def ofBody (kind : String) (body : Json) : Except DecodeError FieldType :=
  match kind with
  | "integer" => .integer <$> Record.ofJson .tagged "IntegerFieldType" IntegerType.slots {} body
  | "enum_integer" =>
    .enumInteger <$> Record.ofJson .tagged "EnumIntegerFieldType" EnumIntegerType.slots
      { levels := [] } body
  | "number" => .number <$> Record.ofJson .tagged "NumberFieldType" NumberType.slots {} body
  | "string" => .string <$> Record.ofJson .tagged "StringFieldType" StringType.slots {} body
  | "enum_string" =>
    .enumString <$> Record.ofJson .tagged "EnumStringFieldType" EnumStringType.slots
      { levels := [] } body
  | other => .error (.unknownVariant other kinds)

/-- The kind a tag names; it has to be a text, and one of the five names. -/
def kindOfTag : Json → Except DecodeError String
  | .str kind => if kind ∈ kinds then .ok kind else .error (.unknownVariant kind kinds)
  | other => .error (.invalidType (.of other) "variant identifier")

/-- Reads a column type.  The tag is looked at first, wherever it stands. -/
def ofJson : Json → Except DecodeError FieldType
  | .obj members =>
    match members.partition (·.1 = "kind") with
    | ([], _) => .error (.missingField "kind")
    | ((_, tag) :: more, rest) => do
      let kind ← kindOfTag tag
      if more.isEmpty then ofBody kind (.obj rest) else .error (.duplicateField "kind")
  | .arr [] => .error (.missingField "kind")
  | .arr (tag :: rest) => do ofBody (← kindOfTag tag) (.arr rest)
  | other => .error (.invalidType (.of other) "internally tagged enum FieldType")

end FieldType

/-- The members that a column is read from. -/
def Field.slots : List (Slot Field) := [
  .needed "meta" FieldMeta.ofJson fun a r => { r with info := a },
  .needed "type" FieldType.ofJson fun a r => { r with type := a }]

/-- Reads a column. -/
def Field.ofJson : Json → Except DecodeError Field :=
  Record.ofJson .document "Field" Field.slots ⟨{ name := "" }, .integer {}⟩

/-- The members that the layout of a table is read from. -/
def TableSchema.slots : List (Slot TableSchema) := [
  .needed "fields" (Json.asListOf Field.ofJson) fun a r => { r with fields := a },
  .optional "missingValues" Json.asTexts fun a r => { r with missingValues := a },
  .needed "rowCount" Json.asUInt64 fun a r => { r with rowCount := a }]

/-- Reads the layout of a table. -/
def TableSchema.ofJson : Json → Except DecodeError TableSchema :=
  Record.ofJson .document "TableSchema" TableSchema.slots { fields := [], rowCount := 0 }

/-- Reads the cells of a row in the order they stand; of a repeated name the last cell stays. -/
def Row.readCells (r : Row) : List (String × Json) → Except DecodeError Row
  | [] => .ok r
  | (name, value) :: rest => do Row.readCells (r.insert name (← value.asText)) rest

/-- Reads a row from an object of texts. -/
def Row.ofJson : Json → Except DecodeError Row
  | .obj members => Row.readCells Row.empty members
  | other => .error (.invalidType (.of other) "a map")

/-- The members that a table is read from. -/
def TableResource.slots : List (Slot TableResource) := [
  .needed "name" Json.asText fun a r => { r with name := a },
  .optional "description" Json.asText fun a r => { r with description := a },
  .needed "schema" TableSchema.ofJson fun a r => { r with schema := a },
  .needed "rows" (Json.asListOf Row.ofJson) fun a r => { r with rows := a }]

/-- Reads a table with its rows; whether the rows are those of the schema is not asked here. -/
def TableResource.ofJson : Json → Except DecodeError TableResource :=
  Record.ofJson .document "TableResource" TableResource.slots
    { name := "", schema := { fields := [], rowCount := 0 }, rows := [] }

/-- The members that a package is read from. -/
def Package.slots : List (Slot Package) := [
  .needed "name" Json.asText fun a r => { r with name := a },
  .optional "description" Json.asText fun a r => { r with description := a },
  .needed "resources" (Json.asListOf TableResource.ofJson) fun a r => { r with resources := a }]

/-- Reads a whole package, without a look at whether it is consistent. -/
def Package.ofJson : Json → Except DecodeError Package :=
  Record.ofJson .document "Package" Package.slots { name := "", resources := [] }

end SyntheticTables
