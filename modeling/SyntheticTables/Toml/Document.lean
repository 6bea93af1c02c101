/-
  TOML documents.

  A document is a table of keys and values, line by line; a header opens a table inside it.  Dates,
  times and lists of tables are refused: nothing that is read from such a document holds them.
-/
import SyntheticTables.Reading
import SyntheticTables.Toml.Scalar

namespace SyntheticTables.Toml

/-! ## Causes -/

/-- How a text can fail to be a document of the kind read here, whether it is malformed or holds
    what nothing here reads. -/
inductive Error where
  | badKey
  | badValue
  | badEscape
  | unclosedString
  | unclosedContainer
  | controlCharacter
  /-- Something behind the end of an expression. -/
  | trailingCharacters
  | duplicateKey (name : String)
  | tableList
  | tooDeep
  deriving Repr, DecidableEq, Inhabited

/-- The text of a failure, without the place where it is met. -/
def Error.message : Error → String
  | .badKey => "invalid key"
  | .badValue => "invalid value"
  | .badEscape => "invalid escape sequence"
  | .unclosedString => "a string is not closed"
  | .unclosedContainer => "a list or a table is not closed"
  | .controlCharacter => "a control character"
  | .trailingCharacters => "expected the end of the line"
  | .duplicateKey name => s!"duplicate key `{name}`"
  | .tableList => "a list of tables"
  | .tooDeep => "recursion limit exceeded"

/-- A reader of one value from the front of the characters. -/
abbrev Reader (α : Type) := (cs : List Char) → Except Error (Step α cs)

/-! ## Blanks, lines and comments -/

/-- Blanks stand between the tokens of a line; a line break is none. -/
def isBlank (c : Char) : Bool := c = ' ' || c = '\t'

/-- Control characters other than the tab may not stand in comments and strings. -/
def isControl (c : Char) : Bool := (c < ' ' && c ≠ '\t') || c = '\x7f'

/-- The blanks in front. -/
def blanks (cs : List Char) : Part (List Char) cs := .takeWhile isBlank cs

/-- A line break, with or without a carriage return. -/
def lineBreak? : (cs : List Char) → Option (Step Unit cs)
  | '\n' :: rest => some (.one () '\n' rest)
  | '\r' :: '\n' :: rest => some ((Step.one () '\n' rest).after '\r')
  | _ => none

/-- Passes over a comment, as far as it may go; the value says whether there is one. -/
def comment : (cs : List Char) → Part Bool cs
  | '#' :: rest => ((Part.takeWhile (!isControl ·) rest).map fun _ => true).after '#'
  | cs => .ofNothing cs false

/-- Passes over blanks and a comment, up to a line break or the end. -/
def lineEnd (cs : List Char) : Except Error (Part Unit cs) :=
  let b := blanks cs
  let c := comment b.rest
  if c.rest.isEmpty || (lineBreak? c.rest).isSome then .ok (b.andThen (c.map fun _ => ()))
  else .error (if c.value then .controlCharacter else .trailingCharacters)

/-- Passes over blanks, comments and line breaks. -/
def skipLines (cs : List Char) : Part Unit cs :=
  match lineEnd cs with
  | .error _ => (blanks cs).map fun _ => ()
  | .ok e =>
    match lineBreak? e.rest with
    | none => e
    | some s =>
      let front := e.step s
      have := front.shorter
      front.part.andThen (skipLines front.rest)
  termination_by cs.length

/-! ## Strings -/

/-- The characters that an escape of one letter stands for. -/
def shortEscapes : List (Char × Char) := [
  ('b', '\x08'), ('t', '\t'), ('n', '\n'), ('f', '\x0c'), ('r', '\r'), ('"', '"'), ('\\', '\\')]

/-- Reads the escape behind a backslash. -/
def escape : Reader Char
  | [] => .error .unclosedString
  | c :: rest =>
    match shortEscapes.find? (·.1 = c) with
    | some (_, e) => .ok (.one e c rest)
    | none =>
      let n := if c = 'u' then 4 else if c = 'U' then 8 else 0
      let digits := rest.take n
      match Text.nat? 16 digits with
      | some code =>
        if digits.length = n && code.isValidChar then
          .ok (.oneAnd n (Char.ofNat code) c rest)
        else .error .badEscape
      | none => .error .badEscape

/-- Reads a string of one line behind its opening quote.  A backslash escapes only between double
    quotes. -/
def lineString (quote : Char) (text : List Char) (cs : List Char) : Except Error (Step String cs) :=
  match cs with
  | [] => .error .unclosedString
  | c :: rest =>
    if c = quote then .ok (.one (String.ofList text.reverse) c rest)
    else if c = '\\' && quote = '"' then
      match escape rest with
      | .error e => .error e
      | .ok s =>
        have := s.shorter
        (lineString quote (s.value :: text) s.rest).map fun t => (s.andThen t).after c
    else if isControl c then .error .controlCharacter
    else (lineString quote (c :: text) rest).map (·.after c)
  termination_by cs.length

/-- Passes over blanks and line breaks behind a backslash at the end of a line. -/
def skipFolded : (cs : List Char) → Part Unit cs
  | '\r' :: '\n' :: rest => ((skipFolded rest).after '\n').after '\r'
  | c :: rest => if isBlank c || c = '\n' then (skipFolded rest).after c else .ofNothing _ ()
  | [] => .ofNothing _ ()

/-- Whether a line ends here but for blanks. -/
def endsLine (cs : List Char) : Bool := (lineBreak? (blanks cs).rest).isSome

/-- The quotes in front, five at most: the last three close the string. -/
def closingQuotes (quote : Char) (cs : List Char) : Nat :=
  ((cs.take 5).takeWhile (· = quote)).length

/-- Reads a string of several lines behind its opening quotes and the line break that may follow
    them. -/
def textString (quote : Char) (text : List Char) (cs : List Char) : Except Error (Step String cs) :=
  match cs with
  | [] => .error .unclosedString
  | c :: rest =>
    let n := closingQuotes quote (c :: rest)
    -- up to two quotes in front of the closing three belong to the text
    if 3 ≤ n then
      .ok (.oneAnd (n - 1) (String.ofList (List.replicate (n - 3) quote ++ text).reverse) c rest)
    -- only double quotes know escapes, and a backslash at the end of a line folds it
    else if c = '\\' && quote = '"' then
      if endsLine rest then
        have := (skipFolded rest).noLonger
        (textString quote text (skipFolded rest).rest).map fun t =>
          ((skipFolded rest).step t).after c
      else match escape rest with
        | .error e => .error e
        | .ok s =>
          have := s.shorter
          (textString quote (s.value :: text) s.rest).map fun t => (s.andThen t).after c
    else match lineBreak? (c :: rest) with
      -- every line break is a line feed in the text
      | some s =>
        have := s.shorter
        (textString quote ('\n' :: text) s.rest).map s.andThen
      | none =>
        if isControl c then .error .controlCharacter
        else (textString quote (c :: text) rest).map (·.after c)
  termination_by cs.length
  decreasing_by all_goals simp only [List.length_cons] at *; omega

/-- Reads a string behind its first quote.  Two more quotes make it one of several lines; a line
    break right behind those is dropped. -/
def string (quote : Char) : Reader String := fun cs =>
  match cs with
  | a :: b :: rest =>
    if a = quote && b = quote then
      match lineBreak? rest with
      | some s => (textString quote [] s.rest).map fun t => ((s.andThen t).after b).after a
      | none => (textString quote [] rest).map fun t => (t.after b).after a
    else lineString quote [] (a :: b :: rest)
  | cs => lineString quote [] cs

/-! ## Keys -/

/-- Characters of parts of keys that are not quoted. -/
def isKeyChar (c : Char) : Bool := c.isAlphanum || c = '_' || c = '-'

/-- Reads one part of a key, quoted or not. -/
def keyPart : Reader String := fun cs =>
  match cs with
  | [] => .error .badKey
  | c :: rest =>
    if c = '"' || c = '\'' then (lineString c [] rest).map (·.after c)
    else if isKeyChar c then
      .ok ((Part.takeWhile isKeyChar rest).map fun cs => String.ofList (c :: cs)).behind
    else .error .badKey

/-- Reads a key: parts with periods between them. -/
def key (cs : List Char) : Except Error (Step (List String) cs) :=
  match keyPart cs with
  | .error e => .error e
  | .ok k =>
    let b := blanks k.rest
    match Step.element? '.' b.rest with
    | none => .ok ((k.followedBy b).map fun _ => [k.value])
    | some period =>
      let front := k.andThen (b.step (period.followedBy (blanks period.rest)))
      have := front.shorter
      (key front.rest).map fun t => (front.andThen t).map (k.value :: ·)
  termination_by cs.length

/-! ## Tables -/

/-- How a table came about. -/
inductive Making where
  /-- It has a header of its own. -/
  | headed
  /-- A header names a table inside it. -/
  | implied
  /-- A key of several parts made it. -/
  | dotted
  deriving DecidableEq, Inhabited

/-- A table under construction.  A table between braces is complete, and so a leaf. -/
inductive Tree where
  | leaf (v : Json)
  | table (making : Making) (members : List (String × Tree))
  deriving Inhabited

/-- The members of a table under construction, in the order they came about. -/
abbrev Members := List (String × Tree)

mutual

/-- The table as a document; how its parts came about is forgotten. -/
def Tree.toJson : Tree → Json
  | .leaf v => v
  | .table _ members => .obj (Tree.membersToJson members)
  termination_by structural t => t

/-- The members of a table as those of a document, in the order they came about. -/
def Tree.membersToJson : List (String × Tree) → List (String × Json)
  | [] => []
  | (name, t) :: rest => (name, t.toJson) :: Tree.membersToJson rest
  termination_by structural ms => ms

end

/-- Replaces the member of a name, which stays in its place. -/
def replace (name : String) (t : Tree) (members : Members) : Members :=
  members.map fun m => if m.1 = name then (name, t) else m

/-- Changes the table that a path leads to; tables that are missing on the way are made, and only
    some of those that are there may be entered. -/
def changeAt (made : Making) (mayEnter : Making → Bool)
    (act : Making → Members → Except Error Members) :
    (path : List String) → Making → Members → Except Error Members
  | [], making, members => act making members
  | name :: rest, _, members =>
    match members.find? (·.1 = name) with
    | none => do
      return members ++ [(name, .table made (← changeAt made mayEnter act rest made []))]
    | some (_, .table making inner) =>
      if mayEnter making then do
        let inner ← changeAt made mayEnter act rest making inner
        return replace name (.table making inner) members
      else .error (.duplicateKey name)
    | some (_, .leaf _) => .error (.duplicateKey name)

/-- Splits the last part of a key off. -/
def splitKey (key : List String) : List String × String := (key.dropLast, key.getLastD "")

/-- Puts a value under a key of a table.  A key of several parts never adds to a table that has a
    header, and it ends in a table that such a key made. -/
def putValue (v : Json) (key : List String) (making : Making) (members : Members) :
    Except Error Members :=
  let (path, name) := splitKey key
  changeAt .dotted (· ≠ .headed) (fun making members =>
    if (!path.isEmpty && making ≠ .dotted) || members.any (·.1 = name) then
      .error (.duplicateKey name)
    else .ok (members ++ [(name, .leaf v)])) path making members

/-- Opens the table of a header.  It is new, or only headers of tables inside it came before. -/
def putHeader (key : List String) (members : Members) : Except Error Members :=
  let (path, name) := splitKey key
  changeAt .implied (fun _ => true) (fun _ members =>
    match members.find? (·.1 = name) with
    | none => .ok (members ++ [(name, .table .headed [])])
    | some (_, .table .implied inner) => .ok (replace name (.table .headed inner) members)
    | some _ => .error (.duplicateKey name)) path .headed members

/-! ## Values -/

/-- Characters of words that are not quoted. -/
def isWordChar (c : Char) : Bool := c.isAlphanum || ['_', '+', '-', '.', ':'].contains c

/-- Reads a key, an equals sign and a value. -/
def pair (value : Reader Json) : Reader (List String × Json) := fun cs => do
  let k ← key cs
  match Step.element? '=' k.rest with
  | none => throw .badKey
  | some equals =>
    let b := blanks equals.rest
    let v ← value b.rest
    return (k.andThen (equals.andThen (b.step v))).map (k.value, ·)

/-- Reads the elements of a list behind its bracket; comments and line breaks may stand between
    them, and a comma behind the last. -/
def elements (value : Reader Json) (cs : List Char) : Except Error (Step (List Json) cs) :=
  let p := skipLines cs
  match Step.element? ']' p.rest with
  | some close => .ok ((p.step close).map fun _ => [])
  | none => match value p.rest with
    | .error e => .error e
    | .ok v =>
      let q := skipLines v.rest
      match Step.element? ',' q.rest, Step.element? ']' q.rest with
      -- a comma may stand behind the last element, so the bracket is looked for again
      | some comma, _ =>
        let front := p.step (v.andThen (q.step comma))
        have := front.shorter
        (elements value front.rest).map fun t => (front.andThen t).map (v.value :: ·)
      | none, some close => .ok ((p.step (v.andThen (q.step close))).map fun _ => [v.value])
      | none, none => .error .unclosedContainer
  termination_by cs.length

/-- Reads the pairs of a table between braces, behind the opening one.  A comma is followed by a
    pair. -/
def pairs (value : Reader Json) (members : Members) (cs : List Char) :
    Except Error (Step Members cs) :=
  let a := blanks cs
  match pair value a.rest with
  | .error e => .error e
  | .ok p =>
    match putValue p.value.2 p.value.1 .headed members with
    | .error e => .error e
    | .ok members =>
      let b := blanks p.rest
      match Step.element? ',' b.rest, Step.element? '\x7d' b.rest with
      -- here a comma promises a pair: the brace behind it would be read as a key
      | some comma, _ =>
        let front := a.step (p.andThen (b.step comma))
        have := front.shorter
        (pairs value members front.rest).map front.andThen
      | none, some close => .ok ((a.step (p.andThen (b.step close))).map fun _ => members)
      | none, none => .error .unclosedContainer
  termination_by cs.length

/-- Reads a value, given how those inside it are read. -/
def valueOf (inside : Option (Reader Json)) : Reader Json := fun cs =>
  match cs with
  | [] => .error .badValue
  | c :: rest =>
    if c = '"' || c = '\'' then
      (string c rest).map fun s => (s.map .str).after c
    else if c = '[' then
      match inside with
      | none => .error .tooDeep
      | some value => (elements value rest).map fun s => (s.map .arr).after c
    else if c = '\x7b' then
      match inside with
      | none => .error .tooDeep
      | some value =>
        let b := blanks rest
        match Step.element? '\x7d' b.rest with
        | some close => .ok (((b.step close).map fun _ => .obj []).after c)
        | none => (pairs value [] rest).map fun s =>
            (s.map fun ms => (Tree.table .headed ms).toJson).after c
    -- numbers, dates and truth values are told apart when the word is complete
    else if isWordChar c then
      let w := Part.takeWhile isWordChar rest
      match word? (c :: w.value) with
      | some v => .ok (w.map fun _ => v).behind
      | none => .error .badValue
    else .error .badValue

/-- Reads a value inside which lists and tables may nest `depth` deep. -/
def value : (depth : Nat) → Reader Json
  | 0 => valueOf none
  | depth + 1 => valueOf (some (value depth))

/-! ## Documents -/

/-- How deep lists and tables may nest. -/
def maxDepth : Nat := 80

/-- A document as far as it is read: the table of everything, and where in it the next keys go. -/
structure Draft where
  members : Members
  /-- The table that keys go to. -/
  current : List String

/-- Reads the header of a table behind its bracket. -/
def header (d : Draft) : Reader Draft := fun cs => do
  let b := blanks cs
  match b.rest with
  | '[' :: _ => throw .tableList
  | _ =>
    let k ← key b.rest
    match Step.element? ']' k.rest with
    | none => throw .badKey
    | some close =>
      let members ← putHeader k.value d.members
      return (b.step (k.andThen close)).map fun _ => ⟨members, k.value⟩

/-- Reads the line of a header or of a pair, and puts what it says into the document. -/
def line (d : Draft) : Reader Draft := fun cs =>
  match cs with
  | '[' :: rest => (header d rest).map (·.after '[')
  | cs => do
    let p ← pair (value maxDepth) cs
    let members ← changeAt .implied (fun _ => true) (putValue p.value.2 p.value.1) d.current .headed
      d.members
    return p.map fun _ => { d with members }

/-- Reads all lines that are left, each with nothing but a comment behind its expression. -/
def linesFrom (d : Draft) (cs : List Char) : Except Error Draft :=
  let p := skipLines cs
  if p.rest.isEmpty then .ok d
  else match line d p.rest with
    | .error e => .error e
    | .ok s => match lineEnd s.rest with
      | .error e => .error e
      | .ok e =>
        let front := p.step (s.followedBy e)
        have := front.shorter
        linesFrom s.value front.rest
  termination_by cs.length

/-- The table that a document is; a mark of the byte order in front is passed over. -/
def ofText (text : String) : Except Error Json := do
  let cs := match text.toList with
    | '\ufeff' :: rest => rest
    | other => other
  return (Tree.table .headed (← linesFrom ⟨[], []⟩ cs).members).toJson

end SyntheticTables.Toml
