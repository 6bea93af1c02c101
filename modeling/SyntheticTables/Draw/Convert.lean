/-
  Taking the form a slot needs out of a value.

  What does not have that form is reported with its own type.
-/
import SyntheticTables.Value
import SyntheticTables.Draw.Error

namespace SyntheticTables

namespace Value

/-- The failure of a conversion: what the slot needs, and the type of what it got. -/
def unexpected {α : Type} (expected : String) (got : Value) : Except GenError α :=
  .error (.unexpectedValue expected got.type)

/-- The flag in a value of that form. -/
def toBool : Value → Except GenError Bool
  | .bool b => .ok b
  | other => unexpected "bool" other

/-- The integer in a value of that form; a float is not turned into one. -/
def toInt : Value → Except GenError Int64
  | .int i => .ok i
  | other => unexpected "int" other

/-- The text in a value of that form.  An absent value is none; see `toOptionalText`. -/
def toText : Value → Except GenError String
  | .text s => .ok s
  | other => unexpected "str" other

/-- A text, or nothing for an absent value. -/
def toOptionalText : Value → Except GenError (Option String)
  | .absent => .ok none
  | .text s => .ok (some s)
  | other => unexpected "none | str" other

/-- The items of a sequence, whatever they are. -/
def toItems : Value → Except GenError (List Value)
  | .seq items => .ok items
  | other => unexpected "seq" other

/-- The column names in a sequence that holds nothing else; the first other item is what is
    reported. -/
def toFieldMetas (v : Value) : Except GenError (List FieldMeta) := do
  (← v.toItems).mapM fun
    | .fieldMeta m => .ok m
    | other => unexpected "field_meta" other

/-- The columns in a sequence that holds nothing else; the first other item is what is reported. -/
def toFields (v : Value) : Except GenError (List Field) := do
  (← v.toItems).mapM fun
    | .field f => .ok f
    | other => unexpected "field" other

/-- The column type in a value of that form, whichever of the five kinds it is. -/
def toFieldType : Value → Except GenError FieldType
  | .fieldType t => .ok t
  | other => unexpected "field type" other

/-- The schema in a value of that form. -/
def toTableSchema : Value → Except GenError TableSchema
  | .tableSchema s => .ok s
  | other => unexpected "table_schema" other

/-- The table in a value of that form. -/
def toTableResource : Value → Except GenError TableResource
  | .tableResource r => .ok r
  | other => unexpected "table_resource" other

/-- The package in a value of that form. -/
def toPackage : Value → Except GenError Package
  | .package p => .ok p
  | other => unexpected "package" other

/-- A value that may not have been drawn: an absent one then. -/
def ofOption : Option Value → Value
  | some v => v
  | none => .absent

end Value

end SyntheticTables
