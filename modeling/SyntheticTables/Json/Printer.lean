/-
  JSON text.

  `Json.text` writes a document on one line without spaces, members in the order they stand;
  uniqueness keys are texts of this kind.  `Json.pretty` spreads it over lines, two spaces per level,
  and leaves empty lists and objects closed.
-/
import SyntheticTables.Json
import SyntheticTables.Decimal.Layout
import SyntheticTables.Text.Quoted

namespace SyntheticTables.Json

/-- A control character by its number, in four hexadecimal digits. -/
def controlText (c : Char) : String :=
  let digits := Text.hexDigits c.toNat
  "\\u" ++ Decimal.zeros (4 - digits.length) ++ digits

/-- How a character stands in a text: as itself, behind a backslash, or by its number. -/
def escapedChar (c : Char) : String :=
  if c = '"' then "\\\""
  else if c = '\\' then "\\\\"
  else if c = '\x08' then "\\b"
  else if c = '\t' then "\\t"
  else if c = '\n' then "\\n"
  else if c = '\x0c' then "\\f"
  else if c = '\r' then "\\r"
  else if c.toNat < 0x20 then controlText c
  else c.toString

/-- A text between quotes; quotes, backslashes and controls are escaped, all else stands as it is. -/
def stringText (s : String) : String :=
  "\"" ++ String.join (s.toList.map escapedChar) ++ "\""

/-- A number as a document shows it: integers in decimals, floats in the layout of documents. -/
def Number.text : Number → String
  | .unsigned n => toString n
  | .negative n => toString n
  | .float x => Decimal.json.text x

/-! ## On one line -/

mutual

/-- The document on one line, without spaces between tokens. -/
def text : Json → String
  | .null => "null"
  | .bool b => if b then "true" else "false"
  | .num n => n.text
  | .str s => stringText s
  | .arr items => "[" ++ ",".intercalate (itemTexts items) ++ "]"
  | .obj members => "\x7b" ++ ",".intercalate (memberTexts members) ++ "\x7d"
  termination_by structural j => j

/-- The texts of some elements, in their order. -/
def itemTexts : List Json → List String
  | [] => []
  | item :: rest => text item :: itemTexts rest
  termination_by structural items => items

/-- The texts of some members, each behind its name and a colon. -/
def memberTexts : List (String × Json) → List String
  | [] => []
  | (name, value) :: rest => (stringText name ++ ":" ++ text value) :: memberTexts rest
  termination_by structural members => members

end

/-! ## On many lines -/

/-- Some spaces in a row. -/
def spaces (n : Nat) : String := String.ofList (List.replicate n ' ')

/-- Puts the entries of a container on lines of their own, `level` deep. -/
def block (opening closing : String) (level : Nat) (entries : List String) : String :=
  if entries.isEmpty then opening ++ closing
  else
    let inner := "\n" ++ spaces (2 * (level + 1))
    opening ++ inner ++ ("," ++ inner).intercalate entries ++ "\n" ++ spaces (2 * level) ++ closing

mutual

/-- The document over many lines, as it stands inside `level` containers. -/
def prettyAt (level : Nat) : Json → String
  | .arr items => block "[" "]" level (prettyItems (level + 1) items)
  | .obj members => block "\x7b" "\x7d" level (prettyMembers (level + 1) members)
  | .null => "null"
  | .bool b => if b then "true" else "false"
  | .num n => n.text
  | .str s => stringText s
  termination_by structural j => j

/-- Some elements as they stand on lines of their own. -/
def prettyItems (level : Nat) : List Json → List String
  | [] => []
  | item :: rest => prettyAt level item :: prettyItems level rest
  termination_by structural items => items

/-- Some members as they stand on lines of their own, with a space behind the colon. -/
def prettyMembers (level : Nat) : List (String × Json) → List String
  | [] => []
  | (name, value) :: rest =>
    (stringText name ++ ": " ++ prettyAt level value) :: prettyMembers level rest
  termination_by structural members => members

end

/-- The document over many lines. -/
def pretty (j : Json) : String := j.prettyAt 0

end SyntheticTables.Json
