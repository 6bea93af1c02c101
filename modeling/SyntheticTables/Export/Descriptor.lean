/-
  The descriptor of a package.

  It names the resources, their columns and constraints, and holds the rows themselves or the names of
  the files they are in.  A column has one of three type names; what else tells its kind is whether it
  has categories.
-/
import SyntheticTables.Table.Document
import SyntheticTables.Text.Letter

namespace SyntheticTables

open Json (optional ofStrings)

/-- Where the rows of a resource are; it decides three of its members and nothing else
    (`TableResource.location`). -/
inductive Layout where
  /-- In the descriptor. -/
  | inline
  /-- In a file beside it. -/
  | csv
  deriving DecidableEq, Inhabited

/-! ## File names -/

/-- The name of the descriptor's file. -/
def descriptorFile : String := "datapackage.json"

/-- Letters, numbers, hyphens and underscores may stand in a file name. -/
def isFileNameChar (c : Char) : Bool := Text.isLetterOrNumber c || c = '-' || c = '_'

/-- The file of the resource at some place in its package.  The place keeps names apart, and what may
    not stand in a file name becomes an underscore. -/
def resourceFile (place : Nat) (r : TableResource) : String :=
  toString place ++ "-" ++
    String.ofList (r.name.toList.map fun c => if isFileNameChar c then c else '_') ++ ".csv"

/-! ## Columns -/

/-- The name of a column type; levels do not show in it. -/
def FieldType.descriptorType : FieldType → String
  | .integer _ | .enumInteger _ => "integer"
  | .number _ => "number"
  | .string _ | .enumString _ => "string"

/-- The values of those levels that are integers. -/
def levelIntegers (levels : List Level) : List Int64 :=
  levels.filterMap fun l => match l.value with
    | .int i => some i
    | .text _ => none

/-- What a column's own kind adds to its constraints; a column with levels of integers lists the
    integers only. -/
def FieldType.ownConstraints : FieldType → List (String × Json)
  | .integer t =>
    optional "minimum" .ofInt64 t.minimum ++ optional "maximum" .ofInt64 t.maximum
  | .number t =>
    optional "minimum" .ofFloat t.minimum ++ optional "maximum" .ofFloat t.maximum
  | .string t =>
    optional "minLength" .ofUInt64 t.minLength ++ optional "maxLength" .ofUInt64 t.maxLength
      ++ optional "pattern" .str t.pattern
  | .enumInteger t => [("enum", .arr ((levelIntegers t.levels).map .ofInt64))]
  | .enumString t => [("enum", ofStrings t.levels)]

/-- The constraints of a column: the flags that are there, then what is particular to its kind. -/
def FieldType.constraints (t : FieldType) : List (String × Json) :=
  optional "required" .bool t.required ++ optional "unique" .bool t.unique ++ t.ownConstraints

/-- A level as a category: its value, together with its label if it has one. -/
def Level.category (l : Level) : Json :=
  match l.label with
  | some label => .obj [("value", l.value.toJson), ("label", .str label)]
  | none => l.value.toJson

/-- The levels of a column, with their labels if there are any, and whether they are ordered. -/
def FieldType.categories : FieldType → List (String × Json)
  | .enumInteger t =>
    [("categories", .arr (t.levels.map Level.category))]
      ++ optional "categoriesOrdered" .bool t.ordered
  | .enumString t =>
    [("categories", ofStrings t.levels)] ++ optional "categoriesOrdered" .bool t.ordered
  | _ => []

/-- A member for the constraints, if there are any. -/
def constraintsMember (constraints : List (String × Json)) : List (String × Json) :=
  if constraints.isEmpty then [] else [("constraints", .obj constraints)]

/-- The descriptor of a column: its names, its levels, its type, its constraints and its tokens, as
    far as there are any. -/
def Field.descriptor (f : Field) : Json :=
  .obj ([("name", .str f.info.name)] ++ optional "title" .str f.info.title
    ++ optional "description" .str f.info.description ++ f.type.categories
    ++ [("type", .str f.type.descriptorType)] ++ constraintsMember f.type.constraints
    ++ optional "missingValues" ofStrings f.type.missingValues)

/-! ## Packages -/

/-- The descriptor of a schema.  The number of rows is not part of it. -/
def TableSchema.descriptor (s : TableSchema) : Json :=
  .obj ([("fields", .arr (s.fields.map Field.descriptor))]
    ++ optional "missingValues" ofStrings s.missingValues)

/-- Where the rows of a resource are found, and in what form. -/
def TableResource.location (layout : Layout) (place : Nat) (r : TableResource) :
    List (String × Json) :=
  match layout with
  | .inline => [("format", .str "inline"), ("data", .arr (r.rows.map Row.toJson))]
  | .csv => [
    ("path", .str (resourceFile place r)), ("format", .str "csv"),
    ("mediatype", .str "text/csv")]

/-- The descriptor of a table: its names and profile, where its rows are, and its schema. -/
def TableResource.descriptor (layout : Layout) (place : Nat) (r : TableResource) : Json :=
  .obj ([("name", .str r.name)] ++ optional "description" .str r.description
    ++ [("profile", .str "tabular-data-resource")] ++ r.location layout place
    ++ [("schema", r.schema.descriptor)])

/-- The descriptors of resources that are counted from a place. -/
def resourceDescriptors (layout : Layout) (place : Nat) : List TableResource → List Json
  | [] => []
  | r :: rest => r.descriptor layout place :: resourceDescriptors layout (place + 1) rest

/-- The descriptor of a package, with its tables counted from zero. -/
def Package.descriptor (layout : Layout) (p : Package) : Json :=
  .obj ([("name", .str p.name)] ++ optional "description" .str p.description
    ++ [("resources", .arr (resourceDescriptors layout 0 p.resources))])

end SyntheticTables
