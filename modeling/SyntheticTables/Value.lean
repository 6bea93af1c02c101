/-
  Generated values.

  A value has a type (`Value.type`), conforms to types (`Value.conforms`), and has a key: its JSON
  text, by which uniqueness is decided.  The conversions at the end take the form a slot needs out
  of a value and say what they found instead.
-/
import SyntheticTables.Config.TypeDesc
import SyntheticTables.Table.Document
import SyntheticTables.Json.Printer

namespace SyntheticTables

/-! ## Values -/

/-- Everything a tree can draw: plain values, the types and descriptions of columns, and tables of
    any size up to a whole package.  A sequence may hold values of different forms. -/
inductive Value where
  /-- Nothing was drawn. -/
  | absent
  | bool (b : Bool)
  | int (i : Int64)
  | float (x : Float)
  | text (s : String)
  | interval (first last : Int64)
  | seq (items : List Value)
  | fieldMeta (m : FieldMeta)
  | fieldType (t : FieldType)
  | field (f : Field)
  | tableSchema (s : TableSchema)
  | tableResource (r : TableResource)
  | package (p : Package)
  deriving Inhabited

/-- The kind a column type belongs to. -/
def FieldType.nominal : FieldType → Nominal
  | .integer _ => .integerFieldType
  | .enumInteger _ => .enumIntegerFieldType
  | .number _ => .numberFieldType
  | .string _ => .stringFieldType
  | .enumString _ => .enumStringFieldType

namespace Value

/-! ## Types -/

/-- The kind of a value that is no sequence.  A column type has a kind for each of its five
    forms. -/
def nominal? : Value → Option Nominal
  | .absent => some .none
  | .bool _ => some .bool
  | .int _ => some .int
  | .float _ => some .float
  | .text _ => some .str
  | .interval .. => some .interval
  | .seq _ => none
  | .fieldMeta _ => some .fieldMeta
  | .fieldType t => some t.nominal
  | .field _ => some .field
  | .tableSchema _ => some .tableSchema
  | .tableResource _ => some .tableResource
  | .package _ => some .package

mutual

/-- The type of a value: its kind, or a sequence of the union of its items' types.  Of an empty
    sequence nothing is known. -/
def type : Value → TypeDesc
  | .seq [] => .seq .any
  | .seq (v :: rest) => .seq (.unionOf (type v :: types rest))
  | .absent => .prim .none
  | .bool _ => .prim .bool
  | .int _ => .prim .int
  | .float _ => .prim .float
  | .text _ => .prim .str
  | .interval .. => .prim .interval
  | .fieldMeta _ => .prim .fieldMeta
  | .fieldType t => .prim t.nominal
  | .field _ => .prim .field
  | .tableSchema _ => .prim .tableSchema
  | .tableResource _ => .prim .tableResource
  | .package _ => .prim .package
  termination_by structural v => v

/-- The types of some values, in their order; the union over them sorts and drops those that
    repeat. -/
def types : List Value → List TypeDesc
  | [] => []
  | v :: rest => type v :: types rest
  termination_by structural vs => vs

end

/-- The kind of a value in one word, as messages show it. -/
def kind (v : Value) : String := (v.nominal?.map Nominal.name).getD "seq"

mutual

/-- Whether a value belongs to a type: to a kind at or above its own, to one of the members of a
    union, or, item by item, to a sequence type. -/
def conforms (v : Value) : TypeDesc → Bool
  | .any => true
  | .prim n => match v.nominal? with
    | some m => m.isBelow n
    | none => false
  | .union members => conformsSome v members
  | .seq item => match v with
    | .seq items => items.all fun i => conforms i item
    | _ => false
  termination_by structural t => t

/-- Whether a value belongs to one of several types. -/
def conformsSome (v : Value) : List TypeDesc → Bool
  | [] => false
  | t :: rest => conforms v t || conformsSome v rest
  termination_by structural ts => ts

end

/-! ## Documents and keys -/

mutual

/-- The value as a document: an object whose only member names the form of the value. -/
def toJson : Value → Json
  | .absent => .str "Absent"
  | .bool b => .obj [("Bool", .bool b)]
  | .int i => .obj [("Int", .ofInt64 i)]
  | .float x => .obj [("Float", .ofFloat x)]
  | .text s => .obj [("Text", .str s)]
  | .interval first last => .obj [("Interval", .arr [.ofInt64 first, .ofInt64 last])]
  | .seq items => .obj [("Seq", .arr (toJsons items))]
  | .fieldMeta m => .obj [("FieldMeta", m.toJson)]
  | .fieldType t => .obj [("FieldType", t.toJson)]
  | .field f => .obj [("Field", f.toJson)]
  | .tableSchema s => .obj [("TableSchema", s.toJson)]
  | .tableResource r => .obj [("TableResource", r.toJson)]
  | .package p => .obj [("Package", p.toJson)]
  termination_by structural v => v

/-- The documents of some values, in their order. -/
def toJsons : List Value → List Json
  | [] => []
  | v :: rest => toJson v :: toJsons rest
  termination_by structural vs => vs

end

/-- The key by which values are told apart: the text of their document.  The form of a value is part
    of that document, so an integer and a text with its digits have different keys. -/
def key (v : Value) : String := v.toJson.text

end Value

end SyntheticTables
