/-
  The cells of a table.

  A cell is the text of a value that keeps the constraints of its column.
-/
import SyntheticTables.Draw.Basic

namespace SyntheticTables

namespace Context

/-! ## Numbers -/

/-- An integer within the bounds.  Without a lower bound it starts at zero, or at the upper bound if
    that is below zero; without an upper bound it may go as far as words go. -/
def integerCell (_ : Context) (t : IntegerType) : Draw String := do
  let maximum := t.maximum.getD Int64.maxValue
  let minimum := t.minimum.getD (if maximum < 0 then maximum else 0)
  return toString (← Draw.int minimum maximum)

/-- The value of a number cell: a float within the bounds, which default as for integers. -/
def numberValue (_ : Context) (t : NumberType) : Draw Float :=
  let maximum := t.maximum.getD 9223372036854775808.0
  let minimum := t.minimum.getD (if maximum < 0.0 then maximum else 0.0)
  Draw.float minimum maximum

/-- The text of a number cell, in plain decimals without an exponent. -/
def numberCell (c : Context) (t : NumberType) : Draw String := do
  return Decimal.plain.text (← c.numberValue t)

/-! ## Texts -/

/-- Appends words, each behind a space, until a text of `length` characters has at least
    `minLength`.  Each word adds a character at least, the space. -/
def fillText (c : Context) (minLength : Nat) (text : String) (length : Nat) :
    Draw (String × Nat) :=
  if h : length < minLength then do
    let word ← c.word
    fillText c minLength (text ++ " " ++ word) (length + 1 + word.length)
  else pure (text, length)
  termination_by minLength - length

/-- Cuts a text to `maxLength` characters.  One space at the end of the cut is dropped; if that
    makes the text too short, the character behind the cut takes its place. -/
def cutText (minLength maxLength : Nat) (text : List Char) : List Char :=
  let cut := text.take maxLength
  if cut.getLast? = some ' ' then
    let short := cut.dropLast
    if short.length < minLength then short ++ (text.drop maxLength).take 1 else short
  else cut

/-- Words, as many as the lower bound needs, cut to the upper bound. -/
def textCell (c : Context) (t : StringType) : Draw String := do
  let minLength := (t.minLength.getD 0).toNat
  let first ← c.word
  let (text, length) ← c.fillText minLength first first.length
  match t.maxLength with
  | none => return text
  | some maxLength =>
    if maxLength.toNat < length then
      return String.ofList (cutText minLength maxLength.toNat text.toList)
    else return text

/-! ## Levels, cells and rows -/

/-- One of some levels, each as likely as the others; there has to be one.  The check of a package
    sees to that for columns that come from elsewhere. -/
def level {α : Type} (_ : Context) : List α → Draw α
  | [] => throw (.package .noLevelToDraw)
  | first :: rest => do
    let i ← Draw.sample (Sample.index (first :: rest).length (Nat.succ_pos _))
    return (first :: rest).getD i first

/-- A cell of a column of this type.  Of the flags of the column none is looked at: neither
    `required` nor `unique` has a part in what is drawn. -/
def cell (c : Context) : FieldType → Draw String
  | .integer t => c.integerCell t
  | .number t => c.numberCell t
  | .enumInteger t => do return (← c.level t.levels).value.cell
  | .enumString t => c.level t.levels
  | .string t => c.textCell t

/-- Fills the columns of a row, one after the other, in the order in which they are declared. -/
def rowOnto (c : Context) (row : Row) : List Field → Draw Row
  | [] => pure row
  | f :: rest => do
    let text ← c.cell f.type
    rowOnto c (row.insert f.name text) rest

/-- As many rows as the schema asks for, each drawn by itself. -/
def rows (c : Context) (schema : TableSchema) : Draw (List Row) :=
  Draw.times schema.rowCount.toNat (c.rowOnto Row.empty schema.fields)

end Context

end SyntheticTables
