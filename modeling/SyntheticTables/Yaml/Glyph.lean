/-
  Characters of a YAML stream with their places.

  Indentation is a matter of columns, so each character carries the line and the column it stands
  in.  All spellings of a line break but two become line feeds here; the separators of Unicode stay
  what they are.
-/
import SyntheticTables.Yaml.Scalar
import SyntheticTables.Reading

namespace SyntheticTables.Yaml

/-! ## Characters -/

/-- Line breaks, once their other spellings have become line feeds. -/
def isBreak (c : Char) : Bool := c = '\n' || c = '\u2028' || c = '\u2029'

/-- Blanks within a line; only spaces count as indentation. -/
def isBlank (c : Char) : Bool := c = ' ' || c = '\t'

/-- Blanks and line breaks, which end most tokens. -/
def isWhite (c : Char) : Bool := isBlank c || isBreak c

/-- Characters of names and of tag handles. -/
def isNameChar (c : Char) : Bool := c.isAlphanum || c = '_' || c = '-'

/-- Control characters other than tab and line breaks may not stand in a stream. -/
def mayStand (c : Char) : Bool :=
  c = '\t' || c = '\n' || c = '\r' || ('\x20' ≤ c && c ≤ '\x7e') || c = '\u0085'
    || ('\u00a0' ≤ c && c ≤ '\ufffd') || '\uffff' < c

/-! ## Places -/

/-- A character with the line and the column it stands in, both counted from zero. -/
structure Glyph where
  char : Char
  line : Nat
  column : Nat
  deriving Inhabited

/-- Gives every character its place; a line break ends the line that it stands in. -/
def place (line column : Nat) : List Char → List Glyph
  | [] => []
  | '\r' :: '\n' :: rest => ⟨'\n', line, column⟩ :: place (line + 1) 0 rest
  | c :: rest =>
    let c := if c = '\r' || c = '\u0085' then '\n' else c
    if isBreak c then ⟨c, line, column⟩ :: place (line + 1) 0 rest
    else ⟨c, line, column⟩ :: place line (column + 1) rest

/-- The characters of a stream; a mark of the byte order in front is passed over, and a character
    that may not stand in a stream is refused wherever it is. -/
def glyphs (text : String) : Except Error (List Glyph) :=
  match text.toList.find? (!mayStand ·) with
  | some c => .error (.badCharacter c)
  | none => .ok (place 0 0 (match text.toList with
    | '\ufeff' :: rest => rest
    | other => other))

/-! ## What comes next -/

/-- Whether a blank, a line break or the end comes next. -/
def atWhite : List Glyph → Bool
  | [] => true
  | g :: _ => isWhite g.char

/-- Whether a document mark comes next: at the start of a line, three hyphens or three periods with
    nothing behind them. -/
def atDocumentMark : List Glyph → Bool
  | a :: b :: c :: rest =>
    a.column = 0 && a.char = b.char && b.char = c.char && (a.char = '-' || a.char = '.')
      && atWhite rest
  | _ => false

/-- The characters without their places. -/
def chars (gs : List Glyph) : List Char := gs.map (·.char)

/-! ## Line folding -/

/-- What the blanks and line breaks between two parts of a scalar amount to.  Within a line they are
    kept.  Otherwise the breaks alone count: a single line feed becomes a space, and the first of
    several is dropped. -/
def folded (gap : List Char) : List Char :=
  match gap.filter isBreak with
  | [] => gap
  | ['\n'] => [' ']
  | '\n' :: more => more
  | breaks => breaks

end SyntheticTables.Yaml
