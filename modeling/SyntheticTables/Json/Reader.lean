/-
  Reading JSON text.

  A reader takes the characters that are left and gives back a value together with what is left
  then, which is strictly less: `Step.shorter` is why the loops over elements and members end.
  Containers nest at most 127 deep, and that depth is what the reader of values recurses on.

  The loop over the members of an object is open in how a member is read (`MemberReader`), because a
  document whose root is tagged reads the tag in a way of its own.
-/
import SyntheticTables.Decode
import SyntheticTables.Json.Numeral
import SyntheticTables.Reading

namespace SyntheticTables

/-! ## Causes -/

/-- How a text can fail to be JSON.  The first failure decides, so a text has one cause. -/
inductive Malformed where
  | endInValue
  | endInObject
  | endInList
  | endInText
  | notALiteral
  | notAValue
  | noColon
  | noCommaInObject
  | noCommaInList
  | keyNotText
  | trailingComma
  | trailingCharacters
  | badNumber
  | numberTooLarge
  | badEscape
  | brokenSurrogatePair
  | loneSurrogate
  | controlCharacter
  | tooDeep
  deriving Repr, DecidableEq, Inhabited

/-- The text of a failure; where in the text it is met is not said. -/
def Malformed.message : Malformed → String
  | .endInValue => "EOF while parsing a value"
  | .endInObject => "EOF while parsing an object"
  | .endInList => "EOF while parsing a list"
  | .endInText => "EOF while parsing a string"
  | .notALiteral => "expected ident"
  | .notAValue => "expected value"
  | .noColon => "expected `:`"
  | .noCommaInObject => "expected `,` or `\x7d`"
  | .noCommaInList => "expected `,` or `]`"
  | .keyNotText => "key must be a string"
  | .trailingComma => "trailing comma"
  | .trailingCharacters => "trailing characters"
  | .badNumber => "invalid number"
  | .numberTooLarge => "number out of range"
  | .badEscape => "invalid escape"
  | .brokenSurrogatePair => "unexpected end of hex escape"
  | .loneSurrogate => "lone leading surrogate in hex escape"
  | .controlCharacter => "control character (\\u0000-\\u001F) found while parsing a string"
  | .tooDeep => "recursion limit exceeded"

/-- Why a text gives no value: it is not JSON, or the JSON does not fit. -/
inductive ReadError where
  | malformed (cause : Malformed)
  | decode (cause : DecodeError)
  deriving Inhabited

/-- The text of a failure of either sort. -/
def ReadError.message : ReadError → String
  | .malformed cause => cause.message
  | .decode cause => cause.message

namespace Json

/-! ## Readers -/

/-- A reader of one value. -/
abbrev Reader (α : Type) := (cs : List Char) → Except ReadError (Step α cs)

/-- The failure of reading a text that is no JSON. -/
def fail {α : Type} (cause : Malformed) : Except ReadError α := .error (.malformed cause)

/-- Space, tab, line feed and carriage return may stand between tokens. -/
def isSpace (c : Char) : Bool := c = ' ' || c = '\n' || c = '\t' || c = '\r'

/-- What is left behind the spaces in front. -/
def skip (cs : List Char) : List Char := cs.dropWhile isSpace

/-- Skipping spaces takes nothing else and adds nothing. -/
theorem skip_length_le (cs : List Char) : (skip cs).length ≤ cs.length :=
  (List.dropWhile_suffix isSpace).length_le

/-- After spaces, the rest behind the first token character is shorter.  The loops over elements and
    members end by this. -/
theorem length_lt_of_skip {cs r : List Char} {c : Char} (h : skip cs = c :: r) :
    r.length < cs.length := by
  have := skip_length_le cs
  rw [h] at this
  exact this

/-- In particular it is no longer, which is what a step seen from the whole input needs. -/
theorem length_le_of_skip {cs r : List Char} {c : Char} (h : skip cs = c :: r) :
    r.length ≤ cs.length :=
  Nat.le_of_lt (length_lt_of_skip h)

/-- Together with that character it is no longer, either; here the reader of the value starts at the
    character itself. -/
theorem length_cons_le_of_skip {cs r : List Char} {c : Char} (h : skip cs = c :: r) :
    (c :: r).length ≤ cs.length :=
  length_lt_of_skip h

/-! ## Literals and numbers -/

/-- Reads the letters that complete `true`, `false` or `null`. -/
def letters : (word : List Char) → (cs : List Char) →
    Except ReadError { r : List Char // r.length ≤ cs.length }
  | [], cs => .ok ⟨cs, Nat.le_refl _⟩
  | _ :: _, [] => fail .endInValue
  | w :: word, c :: cs =>
    if w = c then (letters word cs).map fun r => ⟨r.val, Nat.le_succ_of_le r.property⟩
    else fail .notALiteral

/-- The digits at the front, and what is left. -/
def digits (cs : List Char) : List Char × { r : List Char // r.length ≤ cs.length } :=
  (cs.takeWhile Char.isDigit, ⟨cs.dropWhile Char.isDigit, (List.dropWhile_suffix _).length_le⟩)

/-- The digits behind a point: at least one. -/
def fractionPart (cs : List Char) :
    Except ReadError (List Char × { r : List Char // r.length ≤ cs.length }) :=
  match digits cs with
  | ([], _) => match cs with
    | [] => fail .endInValue
    | _ :: _ => fail .badNumber
  | (ds, r) => .ok (ds, r)

/-- Sign and digits of an exponent: at least one digit. -/
def exponentPart (cs : List Char) :
    Except ReadError ((Bool × List Char) × { r : List Char // r.length ≤ cs.length }) :=
  let (minus, after) : Bool × { r : List Char // r.length ≤ cs.length } := match cs with
    | '+' :: r => (false, ⟨r, Nat.le_succ _⟩)
    | '-' :: r => (true, ⟨r, Nat.le_succ _⟩)
    | r => (false, ⟨r, Nat.le_refl _⟩)
  match digits after.val with
  | ([], _) => match after.val with
    | [] => fail .endInValue
    | _ :: _ => fail .badNumber
  | (ds, r) => .ok ((minus, ds), ⟨r.val, Nat.le_trans r.property after.property⟩)

/-- What may follow the digits before the point. -/
def numeralTail (negative : Bool) (whole : List Char) (cs : List Char) :
    Except ReadError (Numeral × { r : List Char // r.length ≤ cs.length }) := do
  let (fraction, r) ← show Except ReadError (List Char × { r : List Char // r.length ≤ cs.length }) from
    match cs with
    | '.' :: r => do
      let (ds, r') ← fractionPart r
      return (ds, ⟨r'.val, Nat.le_succ_of_le r'.property⟩)
    | other => return ([], ⟨other, Nat.le_refl _⟩)
  -- an exponent may follow the digits with or without a fraction between
  match h : r.val with
  | 'e' :: r' => do
    let (e, r'') ← exponentPart r'
    return (⟨negative, whole, fraction, some e⟩, ⟨r''.val, by
      have h1 := r.property; have h2 := r''.property; rw [h] at h1; simp at h1; omega⟩)
  | 'E' :: r' => do
    let (e, r'') ← exponentPart r'
    return (⟨negative, whole, fraction, some e⟩, ⟨r''.val, by
      have h1 := r.property; have h2 := r''.property; rw [h] at h1; simp at h1; omega⟩)
  | _ => return (⟨negative, whole, fraction, none⟩, r)

/-- The digits of a number, its sign already read: a leading zero stands alone. -/
def numeral (negative : Bool) : Reader Numeral
  | [] => fail .endInValue
  | c :: cs =>
    if c = '0' then
      match cs with
      | d :: r =>
        if d.isDigit then fail .badNumber
        else (numeralTail negative [c] (d :: r)).map fun (t, r) => ⟨t, r.val, Nat.lt_succ_of_le r.property⟩
      | [] => (numeralTail negative [c] []).map fun (t, r) => ⟨t, r.val, Nat.lt_succ_of_le r.property⟩
    else if c.isDigit then
      let (ds, after) := digits cs
      (numeralTail negative (c :: ds) after.val).map fun (t, r) =>
        ⟨t, r.val, Nat.lt_succ_of_le (Nat.le_trans r.property after.property)⟩
    else fail .badNumber

/-- A number, its sign already read: a numeral whose value is in range. -/
def number (negative : Bool) : Reader Number := fun cs => do
  let t ← numeral negative cs
  match t.value.value with
  | some n => return ⟨n, t.rest, t.shorter⟩
  | none => fail .numberTooLarge

/-! ## Texts -/

/-- The value of a digit to the base sixteen, in letters of either case. -/
def hexValue? (c : Char) : Option Nat :=
  if c.isDigit then some (c.toNat - '0'.toNat)
  else if 'a' ≤ c && c ≤ 'f' then some (c.toNat - 'a'.toNat + 10)
  else if 'A' ≤ c && c ≤ 'F' then some (c.toNat - 'A'.toNat + 10)
  else none

/-- Four hexadecimal digits.  A text with fewer than four bytes left has ended too early. -/
def hexUnit : Reader Nat := fun cs =>
  if String.utf8ByteSize (String.ofList (cs.take 4)) < 4 then fail .endInText
  else match cs with
    | a :: b :: c :: d :: r =>
      match hexValue? a, hexValue? b, hexValue? c, hexValue? d with
      | some a, some b, some c, some d =>
        .ok ⟨((a * 16 + b) * 16 + c) * 16 + d, r, by simp only [List.length_cons]; omega⟩
      | _, _, _, _ => fail .badEscape
    | _ => fail .badEscape

/-- What follows `\u`: a character, or two units that make one. -/
def unicodeEscape : Reader Char := fun cs => do
  let unit ← hexUnit cs
  let n := unit.value
  -- the second unit of a pair may not come first
  if 0xDC00 ≤ n ∧ n ≤ 0xDFFF then fail .loneSurrogate
  else if n < 0xD800 ∨ 0xDBFF < n then return ⟨Char.ofNat n, unit.rest, unit.shorter⟩
  else match h : unit.rest with
    | [] => fail .endInText
    | '\\' :: [] => fail .endInText
    | '\\' :: 'u' :: r => do
      let low ← hexUnit r
      if low.value < 0xDC00 ∨ 0xDFFF < low.value then fail .loneSurrogate
      else
        -- ten bits from each unit, above the characters that fit one
        let code := (n - 0xD800) * 0x400 + (low.value - 0xDC00) + 0x10000
        return ⟨Char.ofNat code, low.rest, by
          have h1 := unit.shorter; have h2 := low.shorter; rw [h] at h1; simp at h1; omega⟩
    | _ :: _ => fail .brokenSurrogatePair

/-- What follows a backslash. -/
def escape : Reader Char
  | [] => fail .endInText
  | c :: r =>
    let plain (d : Char) : Except ReadError (Step Char (c :: r)) := .ok ⟨d, r, Nat.lt_succ_self _⟩
    if c = '"' || c = '\\' || c = '/' then plain c
    else if c = 'b' then plain '\x08'
    else if c = 'f' then plain '\x0c'
    else if c = 'n' then plain '\n'
    else if c = 'r' then plain '\r'
    else if c = 't' then plain '\t'
    else if c = 'u' then (unicodeEscape r).map fun s => s.within (c :: r) (Nat.le_succ _)
    else fail .badEscape

/-- The characters of a text up to the closing quote; `read` holds those before, the last one first.
    A control character may not stand in a text as it is. -/
def textBody (read : List Char) (cs : List Char) : Except ReadError (Step String cs) :=
  match cs with
  | [] => fail .endInText
  | c :: r =>
    if c = '"' then .ok ⟨String.ofList read.reverse, r, Nat.lt_succ_self _⟩
    else if c = '\\' then
      match escape r with
      | .error e => .error e
      | .ok s =>
        (textBody (s.value :: read) s.rest).map fun t =>
          t.within (c :: r) (Nat.le_succ_of_le (Nat.le_of_lt s.shorter))
    else if c.toNat < 0x20 then fail .controlCharacter
    else (textBody (c :: read) r).map fun t => t.within (c :: r) (Nat.le_succ _)
  termination_by cs.length
  decreasing_by
    · have := s.shorter; simp only [List.length_cons]; omega
    · simp

/-! ## Containers -/

/-- The elements of a list up to the closing bracket.  `first` holds before the first element, where
    no comma may stand; behind a comma there has to be an element. -/
def elements {α : Type} (item : Reader α) (first : Bool) (cs : List Char) :
    Except ReadError (Step (List α) cs) :=
  match h : skip cs with
  | [] => fail .endInList
  | c :: r =>
    if c = ']' then .ok ⟨[], r, length_lt_of_skip h⟩
    -- behind a comma an element is due, so the bracket is refused there
    else if c = ',' && !first then
      match h' : skip r with
      | [] => fail .endInValue
      | d :: r' =>
        if d = ']' then fail .trailingComma
        else match item (d :: r') with
          | .error e => .error e
          | .ok s =>
            have shorter : s.rest.length < cs.length := by
              have h1 := length_lt_of_skip h; have h2 := skip_length_le r; have h3 := s.shorter
              rw [h'] at h2; omega
            (elements item false s.rest).map fun t =>
              (t.map (s.value :: ·)).within cs (Nat.le_of_lt shorter)
    -- the first element has no comma in front of it
    else if first then
      match item (c :: r) with
      | .error e => .error e
      | .ok s =>
        have shorter : s.rest.length < cs.length := by
          have h1 := skip_length_le cs; have h3 := s.shorter
          rw [h] at h1; omega
        (elements item false s.rest).map fun t =>
          (t.map (s.value :: ·)).within cs (Nat.le_of_lt shorter)
    else fail .noCommaInList
  termination_by cs.length

/-- How the members of an object are read. -/
structure MemberReader (α : Type) where
  /-- Whether a name may come now, given the names that came before. -/
  allow : (seen : List String) → (name : String) → Except ReadError Unit
  /-- Reads the value under a name. -/
  value : (name : String) → Reader α

/-- Any name may come at any time, and all values are read alike. -/
def MemberReader.plain {α : Type} (value : Reader α) : MemberReader α where
  allow _ _ := .ok ()
  value _ := value

/-- A name behind its opening quote, its colon, and the value.  Whether the name may come now is
    settled before the colon is looked for. -/
def member {α : Type} (m : MemberReader α) (seen : List String) : Reader (String × α) := fun cs => do
  let name ← textBody [] cs
  m.allow seen name.value
  match h : skip name.rest with
  | [] => fail .endInObject
  | c :: r =>
    if c = ':' then
      let v ← m.value name.value r
      return ⟨(name.value, v.value), v.rest, by
        have h1 := name.shorter; have h2 := length_lt_of_skip h; have h3 := v.shorter; omega⟩
    else fail .noColon

/-- The members of an object up to the closing brace.  `seen` holds the names that came before; no
    comma may stand before the first. -/
def members {α : Type} (m : MemberReader α) (seen : List String) (cs : List Char) :
    Except ReadError (Step (List (String × α)) cs) :=
  match h : skip cs with
  | [] => fail .endInObject
  | c :: r =>
    if c = '\x7d' then .ok ⟨[], r, length_lt_of_skip h⟩
    -- as in a list, but what follows has to be the quote of a name
    else if c = ',' && !seen.isEmpty then
      match h' : skip r with
      | [] => fail .endInValue
      | d :: r' =>
        if d = '"' then
          match member m seen r' with
          | .error e => .error e
          | .ok s =>
            have shorter : s.rest.length < cs.length := by
              have h1 := length_lt_of_skip h; have h2 := length_lt_of_skip h'
              have h3 := s.shorter; omega
            (members m (s.value.1 :: seen) s.rest).map fun t =>
              (t.map (s.value :: ·)).within cs (Nat.le_of_lt shorter)
        else if d = '\x7d' then fail .trailingComma
        else fail .keyNotText
    else if seen.isEmpty then
      if c = '"' then
        match member m seen r with
        | .error e => .error e
        | .ok s =>
          have shorter : s.rest.length < cs.length := by
            have h1 := length_lt_of_skip h; have h3 := s.shorter; omega
          (members m (s.value.1 :: seen) s.rest).map fun t =>
            (t.map (s.value :: ·)).within cs (Nat.le_of_lt shorter)
      else fail .keyNotText
    else fail .noCommaInObject
  termination_by cs.length

/-! ## Values -/

/-- Reads a literal or a number, whose first character is `c`. -/
def scalar (c : Char) (r : List Char) : Except ReadError (Step Json (c :: r)) :=
  let literal (word : List Char) (v : Json) : Except ReadError (Step Json (c :: r)) :=
    (letters word r).map fun rest => ⟨v, rest.val, Nat.lt_succ_of_le rest.property⟩
  if c = 'n' then literal ['u', 'l', 'l'] .null
  else if c = 't' then literal ['r', 'u', 'e'] (.bool true)
  else if c = 'f' then literal ['a', 'l', 's', 'e'] (.bool false)
  else if c = '-' then (number true r).map fun s => (s.map .num).within (c :: r) (Nat.le_succ _)
  else if c.isDigit then (number false (c :: r)).map fun s => s.map .num
  else if c = '"' then
    (textBody [] r).map fun s => (s.map .str).within (c :: r) (Nat.le_succ _)
  else fail .notAValue

/-- Reads a value inside which containers may nest `depth` deep.  The recursion is on that depth, so
    it is structural although the readers of the elements come as arguments. -/
def value : (depth : Nat) → Reader Json
  | depth, cs =>
    match h : skip cs with
    | [] => fail .endInValue
    | c :: r =>
      if c = '[' then
        match depth with
        | 0 => fail .tooDeep
        | depth + 1 => (elements (value depth) true r).map fun s =>
            (s.map .arr).within cs (length_le_of_skip h)
      else if c = '\x7b' then
        match depth with
        | 0 => fail .tooDeep
        | depth + 1 => (members (.plain (value depth)) [] r).map fun s =>
            (s.map .obj).within cs (length_le_of_skip h)
      else (scalar c r).map fun s => s.within cs (length_cons_le_of_skip h)

/-- How deep containers may nest in a document; one level more is refused. -/
def maxDepth : Nat := 127

/-- Nothing but spaces may follow a document. -/
def finish {α : Type} (a : α) (rest : List Char) : Except ReadError α :=
  if (skip rest).isEmpty then .ok a else fail .trailingCharacters

/-- Reads a whole document, members as written, with nothing but spaces behind it. -/
def ofText (s : String) : Except ReadError Json := do
  let v ← value maxDepth s.toList
  finish v.value v.rest

end Json

end SyntheticTables
