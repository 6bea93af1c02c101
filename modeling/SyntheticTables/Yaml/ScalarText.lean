/-
  The text of a YAML scalar that may go over several lines.

  Quoted and plain scalars are folded: what lies between two parts of them is a gap of blanks and
  line breaks, and `folded` says what becomes of it.  Block scalars are read line by line.
-/
import SyntheticTables.Yaml.Glyph

namespace SyntheticTables.Yaml

/-- Appends the text of a gap; both the text and the gap are held with the last character first. -/
def closeGap (text gap : List Char) : List Char := (folded gap.reverse).reverse ++ text

/-! ## Quoted scalars -/

/-- Reads behind the opening single quote.  A quote inside is written twice. -/
def singleQuoted (text gap : List Char) (gs : List Glyph) : Except Error (Part String gs) :=
  match gs with
  | [] => .error .unclosedQuote
  | g :: rest =>
    if isWhite g.char then
      (singleQuoted text (g.char :: gap) rest).map (·.after g)
    -- a mark at the margin ends the document, whatever is open
    else if atDocumentMark (g :: rest) then .error .unclosedQuote
    else if g.char = '\'' then
      match rest with
      | h :: more =>
        -- two quotes are one of the text
        if h.char = '\'' then
          (singleQuoted ('\'' :: closeGap text gap) [] more).map fun p => (p.after h).after g
        else .ok (Step.one (String.ofList (closeGap text gap).reverse) g (h :: more)).part
      | [] => .ok (Step.one (String.ofList (closeGap text gap).reverse) g []).part
    else (singleQuoted (g.char :: closeGap text gap) [] rest).map (·.after g)
  termination_by gs.length

/-- The characters that an escape of one letter stands for. -/
def shortEscapes : List (Char × Char) := [
  ('0', '\x00'), ('a', '\x07'), ('b', '\x08'), ('t', '\t'), ('\t', '\t'), ('n', '\n'),
  ('v', '\x0b'), ('f', '\x0c'), ('r', '\r'), ('e', '\x1b'), (' ', ' '), ('"', '"'), ('/', '/'),
  ('\\', '\\'), ('N', '\u0085'), ('_', '\u00a0'), ('L', '\u2028'), ('P', '\u2029')]

/-- How many hexadecimal digits follow the letter of a long escape. -/
def escapeLength? (c : Char) : Option Nat :=
  if c = 'x' then some 2 else if c = 'u' then some 4 else if c = 'U' then some 8 else none

/-- The character with a code point written in hexadecimal digits. -/
def charOfHex? (digits : List Char) : Option Char :=
  match Text.nat? 16 digits with
  | some n => if n.isValidChar then some (Char.ofNat n) else none
  | none => none

/-- Reads the escape behind a backslash: a letter by itself, or one with so many digits behind
    it. -/
def escape : (gs : List Glyph) → Except Error (Step Char gs)
  | [] => .error .unclosedQuote
  | g :: rest =>
    match shortEscapes.find? (·.1 = g.char) with
    | some (_, c) => .ok (.one c g rest)
    | none => match escapeLength? g.char with
      | none => .error .badEscape
      | some n =>
        if rest.length < n then .error .badEscape
        else match charOfHex? (chars (rest.take n)) with
          | some c => .ok (.oneAnd n c g rest)
          | none => .error .badEscape

/-- The text of a gap.  Behind an escaped line break no blank counts, and every further break does. -/
def quotedGap (escaped : Bool) (gap : List Char) : List Char :=
  if escaped then gap.filter isBreak else (folded gap.reverse).reverse

/-- Reads behind the opening double quote.  `escaped` holds in a gap that an escaped line break
    began. -/
def doubleQuoted (text : List Char) (escaped : Bool) (gap : List Char) (gs : List Glyph) :
    Except Error (Part String gs) :=
  match gs with
  | [] => .error .unclosedQuote
  | g :: rest =>
    if isWhite g.char then
      (doubleQuoted text escaped (g.char :: gap) rest).map (·.after g)
    else if atDocumentMark (g :: rest) then .error .unclosedQuote
    else
      -- here the gap is over, and what counts of it is known
      let text := quotedGap escaped gap ++ text
      if g.char = '"' then .ok (Step.one (String.ofList text.reverse) g rest).part
      else if g.char = '\\' then
        match rest with
        | [] => .error .unclosedQuote
        | h :: more =>
          -- an escaped line break: the gap that it begins takes no blank over
          if isBreak h.char then
            (doubleQuoted text true [] more).map fun p => (p.after h).after g
          else match escape (h :: more) with
            | .error e => .error e
            | .ok s =>
              have := s.shorter
              (doubleQuoted (s.value :: text) false [] s.rest).map fun p =>
                (s.part.andThen p).after g
      else (doubleQuoted (g.char :: text) false [] rest).map (·.after g)
  termination_by gs.length
  decreasing_by all_goals simp only [List.length_cons] at *; omega

/-! ## Plain scalars -/

/-- The characters that end a plain scalar inside a flow collection. -/
def isFlowIndicator (c : Char) : Bool := [',', '[', ']', '\x7b', '\x7d'].contains c

/-- Whether a plain scalar ends in front of a character: at a colon with nothing behind it, and in a
    flow collection at one of its indicators. -/
def endsPlain (inFlow : Bool) (g : Glyph) (rest : List Glyph) : Bool :=
  (g.char = ':' && atWhite rest) || (inFlow && isFlowIndicator g.char)

/-- Whether a colon stands right in front of an indicator of a flow collection. -/
def isStrayColon (g : Glyph) : List Glyph → Bool
  | h :: _ => g.char = ':' && (isFlowIndicator h.char || h.char = '?')
  | [] => false

/-- Goes on reading a plain scalar.  The flag of the result tells whether a line break was passed
    last.  Lines that go on have to be indented by `indent`. -/
def plainText (inFlow : Bool) (indent : Nat) (text : List Char) (gap : List Glyph) :
    (gs : List Glyph) → Except Error (Part (String × Bool) gs)
  | [] => .ok (.ofNothing [] (String.ofList text.reverse, gap.any (isBreak ·.char)))
  | g :: rest =>
    let broke := gap.any (isBreak ·.char)
    let done := .ok (.ofNothing (g :: rest) (String.ofList text.reverse, broke))
    if isWhite g.char then
      if g.char = '\t' && g.column < indent && broke then .error .tabInIndent
      else (plainText inFlow indent text (g :: gap) rest).map fun p =>
        p.within (g :: rest) (Nat.le_succ _)
    -- behind a gap a comment may begin, or the line may belong to what stands around
    else if !gap.isEmpty && (g.char = '#' || atDocumentMark (g :: rest)
        || (!inFlow && g.column < indent)) then done
    else if inFlow && isStrayColon g rest then .error .notHere
    else if endsPlain inFlow g rest then done
    else (plainText inFlow indent (g.char :: closeGap text (chars gap)) [] rest).map fun p =>
      p.within (g :: rest) (Nat.le_succ _)

/-! ## Block scalars -/

/-- What becomes of the line breaks at the end of a block scalar: none is left, one is, or all
    are. -/
inductive Chomping where
  | strip
  | clip
  | keep
  deriving Repr, DecidableEq, Inhabited

/-- The sign of a way to treat them; without a sign one is left. -/
def chompingSign? (c : Char) : Option Chomping :=
  if c = '-' then some .strip else if c = '+' then some .keep else none

/-- An indicator of how deep the text is indented: a digit other than zero. -/
def indentDigit? (c : Char) : Option Nat :=
  if '1' ≤ c && c ≤ '9' then some (c.toNat - '0'.toNat) else none

/-- Reads what stands behind the indicator of a block scalar on its line: chomping and depth, each
    of which may be missing; depth zero stands for a depth that the text decides. -/
def blockHeader? (line : List Char) : Option (Chomping × Nat) :=
  let sign := fun (cs : List Char) => match cs with
    | c :: rest => match chompingSign? c with
      | some s => (s, rest)
      | none => (.clip, cs)
    | [] => (Chomping.clip, [])
  let digit := fun (cs : List Char) => match cs with
    | c :: rest => match indentDigit? c with
      | some n => (n, rest)
      | none => (0, cs)
    | [] => (0, [])
  -- the two may come in either order
  let (chomping, depth, rest) :=
    match sign line with
    | (.clip, _) =>
      let (n, rest) := digit line
      let (s, rest) := sign rest
      (s, n, rest)
    | (s, rest) =>
      let (n, rest) := digit rest
      (s, n, rest)
  match rest.dropWhile isBlank with
  | [] => some (chomping, depth)
  | c :: _ => if c = '#' then some (chomping, depth) else none

/-- Passes over indentation and blank lines in front of a line of text.  Gives back the line breaks
    and the widest indentation met; `indent` is zero as long as it is not known. -/
def blankLines (indent widest : Nat) (breaks : List Char) :
    (gs : List Glyph) → Except Error (Part (List Char × Nat) gs)
  | [] => .ok (.ofNothing [] (breaks.reverse, widest))
  | g :: rest =>
    -- as long as the depth is not known, every blank belongs to it
    let inside := indent = 0 || g.column < indent
    if inside && g.char = ' ' then
      (blankLines indent widest breaks rest).map fun p => p.within (g :: rest) (Nat.le_succ _)
    else
      let widest := max widest g.column
      if inside && g.char = '\t' then .error .tabInIndent
      else if isBreak g.char then
        (blankLines indent widest (g.char :: breaks) rest).map fun p =>
          p.within (g :: rest) (Nat.le_succ _)
      else .ok (.ofNothing (g :: rest) (breaks.reverse, widest))

/-- A line behind its indentation, its line break, and what is left. -/
def takeLine (gs : List Glyph) : List Glyph × List Char × List Glyph :=
  let after := gs.dropWhile (!isBreak ·.char)
  (gs.takeWhile (!isBreak ·.char), chars (after.take 1), after.drop 1)

/-- What is left behind a line is shorter than what it was taken from, so the loop over lines
    ends. -/
theorem takeLine_shorter (g : Glyph) (rest : List Glyph) :
    (takeLine (g :: rest)).2.2.length ≤ rest.length := by
  have h := (List.dropWhile_suffix (fun g : Glyph => !isBreak g.char) (l := rest)).length_le
  simp only [takeLine, List.dropWhile_cons, List.length_drop]
  split
  · omega
  · simp

/-- The text of a block scalar as far as it is read, the last character first; the line break of its
    last line, and the breaks behind that. -/
structure BlockText where
  text : List Char
  lineBreak : List Char
  blankBreaks : List Char

/-- Appends what stands between the last line and one that starts with a blank or does not. -/
def BlockText.close (b : BlockText) (literal blankBefore blankNow : Bool) : List Char :=
  let lineBreak :=
    if !literal && b.lineBreak = ['\n'] && !blankBefore && !blankNow then
      if b.blankBreaks.isEmpty then [' '] else []
    else b.lineBreak
  (lineBreak ++ b.blankBreaks).reverse ++ b.text

/-- Reads the lines of a block scalar, all of which are indented by `indent`.  In a folded scalar the
    break between two lines that both start without a blank becomes a space. -/
def blockLines (literal : Bool) (indent : Nat) (b : BlockText) (blankBefore : Bool)
    (gs : List Glyph) : Except Error (Part BlockText gs) :=
  match gs with
  | [] => .ok (.ofNothing [] b)
  | g :: rest =>
    -- a line that is indented less ends the scalar
    if g.column ≠ indent then .ok (.ofNothing (g :: rest) b)
    else
      let line := takeLine (g :: rest)
      have h : line.2.2.length ≤ rest.length := takeLine_shorter g rest
      let blankNow := isBlank g.char
      match blankLines indent 0 [] line.2.2 with
      | .error e => .error e
      | .ok p =>
        have h' := p.noLonger
        let next : BlockText := {
          text := (chars line.1).reverse ++ b.close literal blankBefore blankNow
          lineBreak := line.2.1
          blankBreaks := p.value.1 }
        (blockLines literal indent next blankNow p.rest).map fun q =>
          q.within (g :: rest) (by simp only [List.length_cons]; omega)
  termination_by gs.length

/-- Reads a block scalar behind its indicator; `outer` is the indentation around it, one more than
    the column. -/
def blockText (literal : Bool) (outer : Nat) (gs : List Glyph) : Except Error (Part String gs) :=
  let header := gs.takeWhile (!isBreak ·.char)
  let body := (gs.dropWhile (!isBreak ·.char)).drop 1
  have hb : body.length ≤ gs.length := by
    have := (List.dropWhile_suffix (fun g : Glyph => !isBreak g.char) (l := gs)).length_le
    simp only [body, List.length_drop]; omega
  match blockHeader? (chars header) with
  | none => .error .badBlockHeader
  | some (chomping, depth) =>
    -- the depth counts from the indentation around
    let given := if depth = 0 then 0 else outer - 1 + depth
    match blankLines given 0 [] body with
    | .error e => .error e
    | .ok p =>
      -- a depth that is not given is the widest indentation met up to the first line of text
      let indent := if given = 0 then max p.value.2 (max outer 1) else given
      match blockLines literal indent ⟨[], [], p.value.1⟩ false p.rest with
      | .error e => .error e
      | .ok q =>
        let text := match chomping with
          | .strip => q.value.text
          | .clip => q.value.lineBreak.reverse ++ q.value.text
          | .keep => (q.value.lineBreak ++ q.value.blankBreaks).reverse ++ q.value.text
        .ok ⟨String.ofList text.reverse, q.rest,
          Nat.le_trans q.noLonger (Nat.le_trans p.noLonger hb)⟩

end SyntheticTables.Yaml
