/-
  YAML tokens.

  Indentation and the colon behind a key have no character of their own in front of what they begin:
  that a mapping starts, or that a scalar is a key, shows only when the colon comes.  A `Lexer` keeps
  for each level of flow collections the place where a key may have begun; the tokens that announce
  it are put there later.
-/
import SyntheticTables.Yaml.ScalarText
import SyntheticTables.Yaml.Tag

namespace SyntheticTables.Yaml

/-! ## Tokens -/

/-- A token of a stream, with what is known of it when it is met: tokens that begin a block
    collection or announce a key come from the columns of others. -/
inductive Token where
  | directive (d : Directive)
  | documentStart
  | documentEnd
  | blockSequenceStart
  | blockMappingStart
  | blockEnd
  | flowSequenceStart
  | flowSequenceEnd
  | flowMappingStart
  | flowMappingEnd
  | blockEntry
  | flowEntry
  | key
  | value
  | alias (name : String)
  | anchor (name : String)
  | tag (t : WrittenTag)
  | scalar (text : String) (plain : Bool)
  deriving Repr, DecidableEq, Inhabited

/-- A place where a key may have begun. -/
structure PossibleKey where
  /-- Whether nothing but a key can stand here. -/
  required : Bool
  /-- How many tokens come before it. -/
  position : Nat
  line : Nat
  column : Nat
  deriving Inhabited

/-- The state of the reading of tokens: those found so far, the indentation, and the places where
    keys may have begun. -/
structure Lexer where
  tokens : Array Token
  /-- The column of the innermost block collection, -1 outside of all. -/
  indent : Int
  /-- The columns of the collections around it. -/
  outer : List Int
  /-- Whether a key may begin here. -/
  keyAllowed : Bool
  /-- The possible key of each level, the innermost first: the block level and those of the flow
      collections that are open. -/
  keys : List (Option PossibleKey)
  deriving Inhabited

namespace Lexer

/-- The state in front of a stream: nothing is open, and a key may begin. -/
def initial : Lexer := ⟨#[], -1, [], true, [none]⟩

/-- Whether a flow collection is open, in which indentation does not count. -/
def inFlow (s : Lexer) : Bool := 1 < s.keys.length

/-- Adds a token at the end. -/
def push (s : Lexer) (t : Token) : Lexer := { s with tokens := s.tokens.push t }

/-! ## Indentation -/

/-- Closes the innermost of the given collections as long as they lie deeper than a column. -/
def closeDeeper (column : Int) (tokens : Array Token) (indent : Int) :
    List Int → Array Token × Int × List Int
  | [] => (tokens, indent, [])
  | next :: rest =>
    if column < indent then closeDeeper column (tokens.push .blockEnd) next rest
    else (tokens, indent, next :: rest)

/-- Closes the block collections that lie deeper than a column. -/
def unroll (s : Lexer) (column : Int) : Lexer :=
  if s.inFlow then s
  else
    let (tokens, indent, outer) := closeDeeper column s.tokens s.indent s.outer
    { s with tokens, indent, outer }

/-- Opens a block collection at a column that lies deeper than the innermost one.  Its token goes to
    a position. -/
def roll (s : Lexer) (column position : Nat) (start : Token) : Lexer :=
  if s.inFlow || (column : Int) ≤ s.indent then s
  else { s with
    tokens := s.tokens.insertIdxIfInBounds position start
    indent := column
    outer := s.indent :: s.outer }

/-! ## Possible keys -/

/-- Gives up the possible key of the innermost level. -/
def removeKey (s : Lexer) : Except Error Lexer :=
  match s.keys with
  | some k :: rest => if k.required then .error .noColon else .ok { s with keys := none :: rest }
  | _ => .ok s

/-- Notes that a key may begin here. -/
def saveKey (s : Lexer) (g : Glyph) : Except Error Lexer :=
  if s.keyAllowed then do
    let s ← s.removeKey
    let required := !s.inFlow && s.indent = (g.column : Int)
    return { s with keys := some ⟨required, s.tokens.size, g.line, g.column⟩ :: s.keys.drop 1 }
  else .ok s

/-- How far a key may reach, in characters of its line. -/
def maxKeyLength : Nat := 1024

/-- A key that is not complete on its line, or too long, is none. -/
def freshKey (g : Glyph) : Option PossibleKey → Except Error (Option PossibleKey)
  | none => .ok none
  | some k =>
    if k.line < g.line || k.column + maxKeyLength < g.column then
      if k.required then .error .noColon else .ok none
    else .ok (some k)

/-- Gives up the possible keys that are none any more. -/
def dropStale (s : Lexer) (g : Glyph) : Except Error Lexer := do
  return { s with keys := ← s.keys.mapM (freshKey g) }

/-! ## Tokens of one kind -/

/-- A directive or a mark of a document at the start of a line: all block collections end. -/
def atMargin (s : Lexer) (t : Token) : Except Error Lexer := do
  let s ← (s.unroll (-1)).removeKey
  return { s with keyAllowed := false }.push t

/-- The opening bracket of a flow collection, which may itself begin a key; inside, a level of
    possible keys opens. -/
def openFlow (s : Lexer) (g : Glyph) (t : Token) : Except Error Lexer := do
  let s ← s.saveKey g
  return { s with keyAllowed := true, keys := none :: s.keys }.push t

/-- The closing bracket of a flow collection, which may be a key as a whole. -/
def closeFlow (s : Lexer) (t : Token) : Except Error Lexer := do
  let s ← s.removeKey
  return { s with keyAllowed := false, keys := if s.inFlow then s.keys.drop 1 else s.keys }.push t

/-- The comma between two entries of a flow collection. -/
def flowEntry (s : Lexer) : Except Error Lexer := do
  let s ← s.removeKey
  return { s with keyAllowed := true }.push .flowEntry

/-- The start of a block collection at a character, unless it is open there already. -/
def openBlock (s : Lexer) (g : Glyph) (start : Token) : Except Error Lexer :=
  if s.inFlow then .ok s
  else if s.keyAllowed then .ok (s.roll g.column s.tokens.size start)
  else .error .notHere

/-- The hyphen of an entry, which opens a block sequence if none is open at its column. -/
def blockEntry (s : Lexer) (g : Glyph) : Except Error Lexer := do
  let s ← (← s.openBlock g .blockSequenceStart).removeKey
  return { s with keyAllowed := true }.push .blockEntry

/-- The question mark of a key, which opens a block mapping if none is open at its column. -/
def explicitKey (s : Lexer) (g : Glyph) : Except Error Lexer := do
  let s ← (← s.openBlock g .blockMappingStart).removeKey
  return { s with keyAllowed := !s.inFlow }.push .key

/-- A colon: it makes a key of what may be one, and otherwise stands for itself. -/
def valueMark (s : Lexer) (g : Glyph) : Except Error Lexer :=
  match s.keys with
  | some k :: rest =>
    let s := { s with tokens := s.tokens.insertIdxIfInBounds k.position .key }
    let s := s.roll k.column k.position .blockMappingStart
    .ok ({ s with keyAllowed := false, keys := none :: rest }.push .value)
  | _ => do
    let s ← s.openBlock g .blockMappingStart
    return { s with keyAllowed := !s.inFlow }.push .value

/-- Something that may itself be the start of a key, behind which no other key may start. -/
def content (s : Lexer) (g : Glyph) : Except Error Lexer := do
  return { ← s.saveKey g with keyAllowed := false }

/-! ## Names -/

/-- What may stand right behind the name of an anchor or an alias. -/
def endsName : List Glyph → Bool
  | [] => true
  | g :: _ => isWhite g.char || ['?', ':', ',', ']', '\x7d', '%', '@', '\x60'].contains g.char

/-- Reads a name behind its indicator; it may not be left out, and something that ends a name has to
    follow. -/
def name (gs : List Glyph) : Except Error (Part String gs) :=
  let p := Part.takeWhile (fun g : Glyph => isNameChar g.char) gs
  if p.value.isEmpty || !endsName p.rest then .error .badName
  else .ok (p.map fun v => String.ofList (chars v))

/-! ## The next token -/

/-- Passes over what separates tokens; says whether a key is allowed behind it.  A mark of the byte
    order may start a line. -/
def skip (inFlow : Bool) (keyAllowed inComment : Bool) : (gs : List Glyph) → Part Bool gs
  | [] => .ofNothing [] keyAllowed
  | g :: rest =>
    let c := g.char
    let next := fun (p : Part Bool rest) => p.within (g :: rest) (Nat.le_succ _)
    if inComment && !isBreak c then next (skip inFlow keyAllowed true rest)
    else if c = ' ' || (c = '\t' && (inFlow || !keyAllowed)) then
      next (skip inFlow keyAllowed false rest)
    else if c = '\ufeff' && g.column = 0 then next (skip inFlow keyAllowed false rest)
    else if c = '#' then next (skip inFlow keyAllowed true rest)
    else if isBreak c then next (skip inFlow (keyAllowed || !inFlow) false rest)
    else .ofNothing (g :: rest) keyAllowed

/-- Characters that begin no plain scalar. -/
def isIndicator (c : Char) : Bool :=
  ['-', '?', ':', ',', '[', ']', '\x7b', '\x7d', '#', '&', '*', '!', '|', '>', '\'', '"', '%', '@',
    '\x60'].contains c

/-- Whether a plain scalar begins with a character: it does unless that is an indicator or white
    space, and at a hyphen, a question mark or a colon when something stands right behind it. -/
def beginsPlain (inFlow : Bool) (c : Char) (rest : List Glyph) : Bool :=
  !(isIndicator c || isWhite c) || (c = '-' && !(rest.head?.any fun g => isBlank g.char))
    || (!inFlow && (c = '?' || c = ':') && !atWhite rest)

/-- A token of the text after one that is read. -/
def scalarToken (s : Lexer) {rest : List Glyph} (plain : Bool) (p : Part String rest) :
    Part Lexer rest :=
  p.map fun text => s.push (.scalar text plain)

/-- Reads the token that begins with a character. -/
def token (s : Lexer) (g : Glyph) (rest : List Glyph) : Except Error (Part Lexer rest) := do
  let c := g.char
  let single := fun (s : Lexer) => Part.ofNothing rest s
  -- directives and marks count at the margin only
  if g.column = 0 && c = '%' then
    let p ← directive rest
    let s ← s.atMargin (.directive p.value)
    return p.map fun _ => s
  else if atDocumentMark (g :: rest) then
    let s ← s.atMargin (if c = '-' then .documentStart else .documentEnd)
    return ⟨s, rest.drop 2, by simp⟩
  else if c = '[' then return single (← s.openFlow g .flowSequenceStart)
  else if c = '\x7b' then return single (← s.openFlow g .flowMappingStart)
  else if c = ']' then return single (← s.closeFlow .flowSequenceEnd)
  else if c = '\x7d' then return single (← s.closeFlow .flowMappingEnd)
  else if c = ',' then return single (← s.flowEntry)
  -- these three are marks if nothing is joined to them, and otherwise begin a plain scalar
  else if c = '-' && atWhite rest then return single (← s.blockEntry g)
  else if c = '?' && (s.inFlow || atWhite rest) then return single (← s.explicitKey g)
  else if c = ':' && (s.inFlow || atWhite rest) then return single (← s.valueMark g)
  else if c = '*' then
    let s ← s.content g
    return (← name rest).map fun n => s.push (.alias n)
  else if c = '&' then
    let s ← s.content g
    return (← name rest).map fun n => s.push (.anchor n)
  else if c = '!' then
    let s ← s.content g
    return (← writtenTag s.inFlow rest).map fun t => s.push (.tag t)
  else if (c = '|' || c = '>') && !s.inFlow then
    -- a block scalar is no key, and behind it a line begins
    let s := { ← s.removeKey with keyAllowed := true }
    return s.scalarToken false (← blockText (c = '|') (s.indent + 1).toNat rest)
  else if c = '\'' then
    return (← s.content g).scalarToken false (← singleQuoted [] [] rest)
  else if c = '"' then
    return (← s.content g).scalarToken false (← doubleQuoted [] false [] rest)
  else if beginsPlain s.inFlow c rest then
    let s ← s.content g
    let p ← plainText s.inFlow (s.indent + 1).toNat [c] [] rest
    return p.map fun (text, broke) =>
      { s with keyAllowed := s.keyAllowed || broke }.push (.scalar text true)
  else throw (.badCharacter c)

/-- Reads all tokens that are left.  At the end all collections are closed, and no key may be owed a
    colon. -/
def run (s : Lexer) (gs : List Glyph) : Except Error (List Token) :=
  let p := skip s.inFlow s.keyAllowed false gs
  let s := { s with keyAllowed := p.value }
  match h : p.rest with
  | [] => do return (← (s.unroll (-1)).removeKey).tokens.toList
  | g :: rest =>
    have shorter : rest.length < gs.length := by
      have := p.noLonger; rw [h] at this; simp at this; omega
    match s.dropStale g with
    | .error e => .error e
    | .ok s => match (s.unroll g.column).token g rest with
      | .error e => .error e
      | .ok q => have := q.noLonger; run q.value q.rest
  termination_by gs.length

end Lexer

/-- The tokens of a stream, from its first character on. -/
def tokens (text : String) : Except Error (List Token) := do Lexer.initial.run (← glyphs text)

end SyntheticTables.Yaml
