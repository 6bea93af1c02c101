/-
  The schema of package documents.
-/
import SyntheticTables.Schema
import SyntheticTables.Table.Document

namespace SyntheticTables

/-! ## Properties -/

/-- A property that has to be there and may not be `null`. -/
def Property.needed (name : String) (shape : Shape) : Property where
  name := name
  shape := shape
  required := true

/-- A property that may be left out or `null`. -/
def Property.absentable (name : String) (shape : Shape) : Property where
  name := name
  shape := shape
  nullable := true

/-- The tokens for missing values, which columns and tables may both declare. -/
def missingValuesProperty : Property := .absentable "missingValues" (.list .text)

/-- The flags that columns of every kind have. -/
def columnProperties : List Property := [.absentable "required" .flag, .absentable "unique" .flag]

/-! ## Columns -/

/-- The kinds of columns: their names, what is said about them, and what they hold. -/
def FieldType.alternatives : List (String × String × List Property) := [
  ("integer", "Integer field with optional inclusive bounds.",
    columnProperties ++ [.absentable "minimum" .int, .absentable "maximum" .int]),
  ("enum_integer", "Integer field restricted to a declared set of levels.",
    [.needed "levels" (.list (.named "EnumIntegerLevel"))] ++ columnProperties
      ++ [.absentable "ordered" .flag]),
  ("number", "Floating point field with optional bounds.",
    columnProperties ++ [.absentable "minimum" .float, .absentable "maximum" .float]),
  ("string", "Free text field with optional length bounds.",
    columnProperties ++ [.absentable "minLength" .count, .absentable "maxLength" .count,
      .absentable "pattern" .text]),
  ("enum_string", "Text field restricted to a declared set of labels.",
    [.needed "levels" (.list .text)] ++ columnProperties ++ [.absentable "ordered" .flag])]

/-- The schema of column types: one alternative for each kind, told apart by the member `kind`. -/
def FieldType.schema : Json :=
  describedSchema (some "Typed constraints of a field.")
    [("oneOf", .arr (FieldType.alternatives.map fun (kind, note, properties) =>
      alternativeSchema "kind" kind (some note) (properties ++ [missingValuesProperty])))]

/-- The schema of the values of levels: an integer or a text, without a tag. -/
def LevelValue.schema : Json :=
  describedSchema
    (some ("Value carried by an enum-integer level.\n\nRegular levels are integers; missing-value "
      ++ "tokens appended to the level set keep their textual form."))
    [("anyOf", .arr [Shape.int.toJson, Shape.text.toJson])]

/-- The schema of levels with their labels. -/
def Level.schema : Json :=
  describedSchema none
    (recordMembers [.needed "value" (.named "LevelValue"), .absentable "label" .text])

/-- The schema of the names of columns. -/
def FieldMeta.schema : Json :=
  describedSchema (some "Naming metadata shared by every field.")
    (recordMembers [.needed "name" .text, .absentable "title" .text,
      .absentable "description" .text])

/-! ## Packages -/

/-- The schema of columns. -/
def Field.schema : Json :=
  describedSchema (some "A named, typed column of a table schema.")
    (recordMembers [.needed "meta" (.named "FieldMeta"), .needed "type" (.named "FieldType")])

/-- The schema of the layouts of tables. -/
def TableSchema.schema : Json :=
  describedSchema (some "Field layout of a table plus the number of rows to synthesize for it.")
    (recordMembers [.needed "fields" (.list (.named "Field")), missingValuesProperty,
      .needed "rowCount" .count])

/-- The schema of tables with their rows, each row a dictionary of texts. -/
def TableResource.jsonSchema : Json :=
  describedSchema (some "A table schema together with its synthesized rows.")
    (recordMembers [.needed "name" .text, .absentable "description" .text,
      .needed "schema" (.named "TableSchema"), .needed "rows" (.list (.dictionary .text))])

/-- The schema of whole packages, with the definitions of everything in them. -/
def Package.schema : Json :=
  schemaDocument "Package"
    (("description", .str "Top-level generated artifact handed to exporters.")
      :: recordMembers [.needed "name" .text, .absentable "description" .text,
        .needed "resources" (.list (.named "TableResource"))])
    [("EnumIntegerLevel", Level.schema), ("Field", Field.schema),
      ("FieldMeta", FieldMeta.schema), ("FieldType", FieldType.schema),
      ("LevelValue", LevelValue.schema), ("TableResource", TableResource.jsonSchema),
      ("TableSchema", TableSchema.schema)]

end SyntheticTables
