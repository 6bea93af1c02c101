/-
  What the cells of a column may be.

  A column holds integers, numbers or texts, freely or from a declared set of levels.  Each kind
  carries the constraints that make sense for it; an absent constraint is `none`.
-/

namespace SyntheticTables

/-! ## The five kinds -/

/-- Integers with optional inclusive bounds.  Absent bounds are not the widest ones: a document does
    not mention them. -/
structure IntegerType where
  required : Option Bool := none
  unique : Option Bool := none
  minimum : Option Int64 := none
  maximum : Option Int64 := none
  missingValues : Option (List String) := none
  deriving DecidableEq, Inhabited

/-- The value of a level: an integer, or the text of a token for a missing value. -/
inductive LevelValue where
  | int (i : Int64)
  | text (s : String)
  deriving DecidableEq, Inhabited

/-- The value as a cell shows it: an integer in decimals, a token as it is. -/
def LevelValue.cell : LevelValue → String
  | .int i => toString i
  | .text s => s

/-- A level of a column, with a label if the levels of the column have any. -/
structure Level where
  value : LevelValue
  label : Option String := none
  deriving DecidableEq, Inhabited

/-- Integers from a declared set of levels; the tokens for missing values stand among the levels,
    too. -/
structure EnumIntegerType where
  levels : List Level
  required : Option Bool := none
  unique : Option Bool := none
  ordered : Option Bool := none
  missingValues : Option (List String) := none
  deriving DecidableEq, Inhabited

/-- Whether there are levels and each carries a label. -/
def EnumIntegerType.isLabeled (t : EnumIntegerType) : Bool :=
  !t.levels.isEmpty && t.levels.all (·.label.isSome)

/-- Floats with optional bounds, which may be any floats; that they are in order is a matter of
    `FieldType.Valid`. -/
structure NumberType where
  required : Option Bool := none
  unique : Option Bool := none
  minimum : Option Float := none
  maximum : Option Float := none
  missingValues : Option (List String) := none
  deriving Inhabited

/-- Texts with optional bounds on their length, counted in characters. -/
structure StringType where
  required : Option Bool := none
  unique : Option Bool := none
  minLength : Option UInt64 := none
  maxLength : Option UInt64 := none
  pattern : Option String := none
  missingValues : Option (List String) := none
  deriving DecidableEq, Inhabited

/-- Texts from a declared set of levels, which have no labels besides. -/
structure EnumStringType where
  levels : List String
  required : Option Bool := none
  unique : Option Bool := none
  ordered : Option Bool := none
  missingValues : Option (List String) := none
  deriving DecidableEq, Inhabited

/-- What a column holds, one of five kinds.  The kind is the tag of its document. -/
inductive FieldType where
  | integer (t : IntegerType)
  | enumInteger (t : EnumIntegerType)
  | number (t : NumberType)
  | string (t : StringType)
  | enumString (t : EnumStringType)
  deriving Inhabited

namespace FieldType

/-! ## What all kinds have -/

/-- The name of the kind in documents, where it stands beside the constraints. -/
def kind : FieldType → String
  | .integer _ => "integer"
  | .enumInteger _ => "enum_integer"
  | .number _ => "number"
  | .string _ => "string"
  | .enumString _ => "enum_string"

/-- Whether every row has to have a value in the column, if the column says anything about it. -/
def required : FieldType → Option Bool
  | .integer t => t.required
  | .enumInteger t => t.required
  | .number t => t.required
  | .string t => t.required
  | .enumString t => t.required

/-- Whether the values of the column are unlike each other, if the column says anything about it. -/
def unique : FieldType → Option Bool
  | .integer t => t.unique
  | .enumInteger t => t.unique
  | .number t => t.unique
  | .string t => t.unique
  | .enumString t => t.unique

/-- The tokens that stand for a missing value in the column, if it declares any of its own. -/
def missingValues : FieldType → Option (List String)
  | .integer t => t.missingValues
  | .enumInteger t => t.missingValues
  | .number t => t.missingValues
  | .string t => t.missingValues
  | .enumString t => t.missingValues

end FieldType

end SyntheticTables
