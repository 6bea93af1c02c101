/-
  A text between quotes, as an error message shows it.

  Quotes and backslashes take a backslash, the four controls with a letter of their own take that,
  and a character that would not show, or would join its neighbour, is spelled by its number.
-/
import SyntheticTables.Text.Ranges
import SyntheticTables.Text.HiddenTable

namespace SyntheticTables.Text

/-- The digits of a number in base sixteen, in small letters and without leading zeros. -/
def hexDigits (n : Nat) : String := String.ofList (Nat.toDigits 16 n)

/-- How a character stands between quotes: as itself, behind a backslash, or by its number in
    braces. -/
def quotedChar (c : Char) : String :=
  if c = '\x00' then "\\0"
  else if c = '\t' then "\\t"
  else if c = '\r' then "\\r"
  else if c = '\n' then "\\n"
  else if c = '"' then "\\\""
  else if c = '\\' then "\\\\"
  else if 0x20 ≤ c.toNat && c.toNat < 0x7f then c.toString
  else if inRanges extendRanges c || inRanges hiddenRanges c then
    "\\u\x7b" ++ hexDigits c.toNat ++ "\x7d"
  else c.toString

/-- The text between quotes, character by character. -/
def quoted (s : String) : String :=
  "\"" ++ String.join (s.toList.map quotedChar) ++ "\""

end SyntheticTables.Text
