/-
  White space, and the operations that take it away: trimming a text, and cutting a file into lines.

  The class is the Unicode property White_Space, which holds six ASCII characters and nineteen
  others; a zero-width space is not among them.
-/
import SyntheticTables.Text.Ranges

namespace SyntheticTables.Text

/-- The characters of the class, as inclusive ranges of code points. -/
def blankRanges : List (Nat × Nat) := [
  (0x9, 0xd), (0x20, 0x20), (0x85, 0x85), (0xa0, 0xa0), (0x1680, 0x1680), (0x2000, 0x200a),
  (0x2028, 0x2029), (0x202f, 0x202f), (0x205f, 0x205f), (0x3000, 0x3000)]

/-- Whether a character is white space. -/
def isBlank (c : Char) : Bool := inRanges blankRanges c

/-- The characters without the blanks at both ends. -/
def trimChars (cs : List Char) : List Char :=
  ((cs.dropWhile isBlank).reverse.dropWhile isBlank).reverse

/-- The text without the white space at both ends; the white space inside stays. -/
def trim (s : String) : String := String.ofList (trimChars s.toList)

/-- Drops one carriage return at the end; a second one before it belongs to the line. -/
def dropReturn (line : List Char) : List Char :=
  if line.getLast? = some '\r' then line.dropLast else line

/-- Cuts characters into lines; `current` is the line that has begun, the last character first.  A
    line feed ends a line, together with one carriage return before it; what follows the last line
    feed is a line of its own unless it is empty. -/
def linesFrom (current : List Char) : List Char → List (List Char)
  | [] => if current.isEmpty then [] else [current.reverse]
  | c :: rest =>
    if c = '\n' then dropReturn current.reverse :: linesFrom [] rest
    else linesFrom (c :: current) rest

/-- The lines of a text, without the line feeds and carriage returns that end them. -/
def lines (s : String) : List String := (linesFrom [] s.toList).map String.ofList

end SyntheticTables.Text
