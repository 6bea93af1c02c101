/-
  Letters and numbers.
-/
import SyntheticTables.Text.Ranges
import SyntheticTables.Text.LetterTable

namespace SyntheticTables.Text

/-- Whether the character is a letter or a number in any script.  The small characters are decided
    without the table. -/
def isLetterOrNumber (c : Char) : Bool :=
  if c.toNat < 0x80 then c.isAlphanum else inRanges letterRanges c

end SyntheticTables.Text
