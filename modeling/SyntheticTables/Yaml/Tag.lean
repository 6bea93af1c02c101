/-
  Tags, and the directives that give their handles a meaning.

  A tag is a name, written in full or behind a handle that stands for the front of it.  Names are
  bytes: an escape spells one byte, and those of a character follow each other.
-/
import SyntheticTables.Yaml.Glyph

namespace SyntheticTables.Yaml

/-! ## Names -/

/-- Whether a character may stand in a tag. -/
def isTagChar (c : Char) : Bool :=
  isNameChar c || [';', '/', '?', ':', '@', '&', '=', '+', '$', '.', '!', '~', '*', '\'', '(',
    ')'].contains c

/-- In a tag written in full, and in what a handle stands for, more may stand. -/
def isFullTagChar (c : Char) : Bool := isTagChar c || [',', '[', ']'].contains c

/-- The byte that two hexadecimal digits spell. -/
def byte? (a b : Char) : Option UInt8 := (Text.nat? 16 [a, b]).map (·.toUInt8)

/-- How many bytes are still to come of the character that a byte belongs to, when so many were to
    come before it. -/
def bytesToCome? (awaited : Nat) (b : UInt8) : Option Nat :=
  if 0 < awaited then if b &&& 0xc0 = 0x80 then some (awaited - 1) else none
  else if b &&& 0x80 = 0 then some 0
  else if b &&& 0xe0 = 0xc0 then some 1
  else if b &&& 0xf0 = 0xe0 then some 2
  else if b &&& 0xf8 = 0xf0 then some 3
  else none

/-- The end of a name, which may not fall inside a character. -/
def endName (awaited : Nat) (gs : List Glyph) : Except Error (Part (List UInt8) gs) :=
  if awaited = 0 then .ok (.ofNothing gs []) else .error .badTag

/-- Reads the bytes of a name while so many of its last character are still to come. -/
def nameBytes (allowed : Char → Bool) (awaited : Nat) (gs : List Glyph) :
    Except Error (Part (List UInt8) gs) :=
  match gs with
  | [] => endName awaited []
  | g :: rest =>
    if g.char = '%' then
      match rest with
      | a :: b :: more =>
        match byte? a.char b.char with
        | none => .error .badTag
        | some byte => match bytesToCome? awaited byte with
          | none => .error .badTag
          | some n => (nameBytes allowed n more).map fun p =>
              (((p.map (byte :: ·)).after b).after a).after g
      | _ => .error .badTag
    -- a character may not stand between the bytes of another one
    else if awaited = 0 && allowed g.char then
      (nameBytes allowed 0 rest).map fun p => (p.map (g.char.toNat.toUInt8 :: ·)).after g
    else endName awaited (g :: rest)
  termination_by gs.length

/-- Reads the bytes of a name, as far as no byte is zero; what follows such a byte is passed over. -/
def nameText (allowed : Char → Bool) (gs : List Glyph) : Except Error (Part (List UInt8) gs) :=
  (nameBytes allowed 0 gs).map fun p => p.map fun bytes => bytes.takeWhile (· ≠ 0)

/-- Reads a name that may not be left out. -/
def someName (allowed : Char → Bool) (gs : List Glyph) : Except Error (Part (List UInt8) gs) := do
  let p ← nameText allowed gs
  if p.rest.length = gs.length then throw .badTag else return p

/-! ## Tags as they are written -/

/-- Takes a given character, if it comes next. -/
def mark? (c : Char) : (gs : List Glyph) → Option (Step Unit gs)
  | [] => none
  | g :: rest => if g.char = c then some (.one () g rest) else none

/-- The bytes of a text, in which tags are compared. -/
def bytesOf (s : String) : List UInt8 := s.toUTF8.toList

/-- A tag as it is written, before its handle is looked up. -/
structure WrittenTag where
  /-- The handle with its exclamation marks; a tag written in full has none. -/
  handle : String
  suffix : List UInt8
  deriving Repr, DecidableEq, Inhabited

/-- A handle stands for the front of a name. -/
abbrev Handles := List (String × List UInt8)

/-- What the names of the core schema begin with. -/
def coreFront : List UInt8 := bytesOf "tag:yaml.org,2002:"

/-- The handles that need no directive. -/
def Handles.usual : Handles := [("!", bytesOf "!"), ("!!", coreFront)]

/-- The name of a tag. -/
def Handles.name (handles : Handles) (t : WrittenTag) : Except Error (List UInt8) :=
  if t.handle = "" then .ok t.suffix
  else match handles.find? (·.1 = t.handle) with
    | some (_, front) => .ok (front ++ t.suffix)
    | none => .error .badTag

/-- The names of the core schema that ask for something else than a text. -/
def coreTags : List (List UInt8 × Tag) :=
  [("null", .null), ("bool", .bool), ("int", .int), ("float", .float)].map fun (name, t) =>
    (coreFront ++ bytesOf name, t)

/-- What the tag of a name asks for.  A private name that is no text counts as none. -/
def Tag.ofName? (name : List UInt8) : Option Tag :=
  match coreTags.find? (·.1 = name) with
  | some (_, t) => some t
  | none =>
    if (bytesOf "!").isPrefixOf name then
      if (String.fromUTF8? (ByteArray.mk name.toArray)).isSome then some .localName else none
    else some .other

/-- Whether a tag may end in front of these characters. -/
def endsTag (inFlow : Bool) (gs : List Glyph) : Bool :=
  atWhite gs || (inFlow && gs.head?.any (·.char = ','))

/-- Reads a tag between angle brackets, behind the first. -/
def fullTag (gs : List Glyph) : Except Error (Part WrittenTag gs) := do
  let p ← someName isFullTagChar gs
  match mark? '>' p.rest with
  | some close => return (p.step close).part.map fun _ => ⟨"", p.value⟩
  | none => throw .badTag

/-- The letters of a handle, and whether a second exclamation mark closes it. -/
def handleName (gs : List Glyph) : Part (String × Bool) gs :=
  let p := Part.takeWhile (fun g : Glyph => isNameChar g.char) gs
  let letters := String.ofList (chars p.value)
  match mark? '!' p.rest with
  | some mark => (p.step mark).part.map fun _ => (letters, true)
  | none => p.map fun _ => (letters, false)

/-- Reads a tag with a handle, behind its exclamation mark.  Letters without a second mark are the
    start of the name; the mark alone is a name by itself. -/
def shortTag (gs : List Glyph) : Except Error (Part WrittenTag gs) := do
  let h := handleName gs
  if h.value.2 then
    let p ← someName isTagChar h.rest
    return (h.andThen p).map (⟨"!" ++ h.value.1 ++ "!", ·⟩)
  else
    let p ← nameText isTagChar gs
    return p.map fun suffix => if suffix = [] then ⟨"", bytesOf "!"⟩ else ⟨"!", suffix⟩

/-- Reads a tag of either form, behind its exclamation mark. -/
def fullOrShortTag : (gs : List Glyph) → Except Error (Part WrittenTag gs)
  | [] => shortTag []
  | g :: rest => if g.char = '<' then (fullTag rest).map (·.after g) else shortTag (g :: rest)

/-- Reads a tag behind its exclamation mark. -/
def writtenTag (inFlow : Bool) (gs : List Glyph) : Except Error (Part WrittenTag gs) := do
  let p ← fullOrShortTag gs
  if endsTag inFlow p.rest then return p else throw .badTag

/-! ## Directives -/

/-- What a line in front of a document says. -/
inductive Directive where
  /-- The stream is of a version that is read here. -/
  | version
  | handle (name : String) (front : List UInt8)
  deriving Repr, DecidableEq, Inhabited

/-- The blanks in front. -/
def blanksBefore (gs : List Glyph) : Part Unit gs :=
  (Part.takeWhile (fun g : Glyph => isBlank g.char) gs).map fun _ => ()

/-- Reads a part of a version: nine digits at most. -/
def versionNumber (gs : List Glyph) : Except Error (Part Nat gs) :=
  let p := Part.takeWhile (fun g : Glyph => g.char.isDigit) gs
  match Text.nat? 10 (chars p.value) with
  | some n => if p.value.length ≤ 9 then .ok (p.map fun _ => n) else .error .badDirective
  | none => .error .badDirective

/-- Reads a version: 1.1 and 1.2 are read here. -/
def version (gs : List Glyph) : Except Error (Part Directive gs) := do
  let major ← versionNumber gs
  match mark? '.' major.rest with
  | none => throw .badDirective
  | some period =>
    let minor ← versionNumber period.rest
    if major.value = 1 && (minor.value = 1 || minor.value = 2) then
      return major.andThen (period.followedBy (minor.map fun _ => .version)).part
    else throw .badDirective

/-- Reads a handle and what it stands for. -/
def handleDirective (gs : List Glyph) : Except Error (Part Directive gs) :=
  match mark? '!' gs with
  | none => .error .badDirective
  | some mark => do
    let h := handleName mark.rest
    let blanks := blanksBefore h.rest
    if !h.value.2 && h.value.1 ≠ "" then throw .badDirective
    if blanks.rest.length = h.rest.length then throw .badDirective
    let p ← someName isFullTagChar blanks.rest
    if !atWhite p.rest then throw .badDirective
    let name := "!" ++ h.value.1 ++ (if h.value.2 then "!" else "")
    return (mark.followedBy (h.andThen (blanks.andThen p))).part.map (.handle name)

/-- Whether nothing but blanks and a comment is left on a line. -/
def lineIsOver (gs : List Glyph) : Bool :=
  (gs.dropWhile fun g => isBlank g.char).head?.all fun g => isBreak g.char || g.char = '#'

/-- Reads a directive behind its percent sign, up to the end of its line. -/
def directive (gs : List Glyph) : Except Error (Part Directive gs) := do
  let name := Part.takeWhile (fun g : Glyph => isNameChar g.char) gs
  if !atWhite name.rest then throw .badDirective
  let blanks := blanksBefore name.rest
  let text := String.ofList (chars name.value)
  let p ← if text = "YAML" then version blanks.rest
    else if text = "TAG" then handleDirective blanks.rest
    else throw .badDirective
  if !lineIsOver p.rest then throw .badDirective
  let line := Part.takeWhile (fun g : Glyph => !isBreak g.char) p.rest
  return name.andThen (blanks.andThen (p.andThen (line.map fun _ => p.value)))

end SyntheticTables.Yaml
