/-
  A package of tables: resources, each a schema with the rows made for it.
-/
import SyntheticTables.Table.FieldType
import SyntheticTables.Table.Row

namespace SyntheticTables

/-- How a column is named and described; the name is also what its cells are filed under. -/
structure FieldMeta where
  name : String
  title : Option String := none
  description : Option String := none
  deriving DecidableEq, Inhabited

/-- A column: how it is called, and what its cells may be. -/
structure Field where
  info : FieldMeta
  type : FieldType
  deriving Inhabited

/-- The name of a column, which its cells are filed under. -/
def Field.name (f : Field) : String := f.info.name

/-- The columns of a table and how many rows it has.  The tokens for missing values are those of the
    whole table; columns may have some of their own. -/
structure TableSchema where
  fields : List Field
  missingValues : Option (List String) := none
  rowCount : UInt64
  deriving Inhabited

/-- The names of the columns in the order they are declared. -/
def TableSchema.fieldNames (s : TableSchema) : List String := s.fields.map Field.name

/-- A schema with its rows, under a name.  Whether the rows are those of the schema is a matter of
    `TableResource.Valid`. -/
structure TableResource where
  name : String
  description : Option String := none
  schema : TableSchema
  rows : List Row
  deriving Inhabited

/-- A package of tables, which is what a run draws in the end and what exporters write. -/
structure Package where
  name : String
  description : Option String := none
  resources : List TableResource
  deriving Inhabited

/-- How many rows all resources hold together. -/
def Package.rowsTotal (p : Package) : Nat := p.resources.foldr (·.rows.length + ·) 0

end SyntheticTables
