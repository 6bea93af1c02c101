/-
  Tables as comma-separated text.

  A record ends with a line feed.  A field stands between quotes when it contains a comma, a quote, a
  line feed or a carriage return, and its quotes are then doubled.  A record without any text is
  written as an empty quoted field, so that its line is not blank.
-/
import SyntheticTables.Table.Package

namespace SyntheticTables.Csv

/-- Whether a field has to stand between quotes: a character in it would else end it, or begin
    quotes of its own. -/
def needsQuotes (field : List Char) : Bool :=
  field.any fun c => c = ',' || c = '"' || c = '\n' || c = '\r'

/-- Doubles the quotes, so that a lone quote ends the field. -/
def doubled : List Char → List Char
  | [] => []
  | c :: rest => if c = '"' then '"' :: '"' :: doubled rest else c :: doubled rest

/-- The characters of a field as they stand in a record. -/
def fieldChars (field : List Char) : List Char :=
  if needsQuotes field then '"' :: doubled field ++ ['"'] else field

/-- A field as it stands in a record. -/
def field (text : String) : String := String.ofList (fieldChars text.toList)

/-- A record and the end of its line.  A line that would be blank is written as an empty field
    between quotes. -/
def record (fields : List String) : String :=
  let line := ",".intercalate (fields.map field)
  (if line = "" then "\"\"" else line) ++ "\n"

/-- The names of the columns, then the rows with their cells in the order of the columns.  A cell
    that a row does not have is written as an empty one. -/
def table (names : List String) (rows : List Row) : String :=
  String.join (record names :: rows.map fun r => record (names.map fun n => (r.get? n).getD ""))

/-- The text of a resource's file, with the columns in the order of the schema. -/
def ofResource (r : TableResource) : String := table r.schema.fieldNames r.rows

end SyntheticTables.Csv
