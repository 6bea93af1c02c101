/-
  Upper and lower case in all scripts.

  A character may become several: the capital of `ß` is `SS`.  In a whole text a capital sigma that
  ends a word becomes the final sigma; a single character knows nothing of its neighbours, so there
  it becomes the ordinary one.
-/
import SyntheticTables.Text.Ranges
import SyntheticTables.Text.CaseTable

namespace SyntheticTables.Text

/-! ## Single characters -/

/-- The image of a character under a table of runs, if a run holds it.  A run is a first and a last
    character, the step from one to the next, and the image of the first one. -/
def runImage? (runs : List (Nat × Nat × Nat × Nat)) (c : Char) : Option Char :=
  (runs.find? fun (first, last, step, _) =>
    first ≤ c.toNat && c.toNat ≤ last && (c.toNat - first) % step = 0).map
    fun (first, _, _, image) => Char.ofNat (image + (c.toNat - first))

/-- The small form of a character by itself.  `İ` is the only one whose small form is two characters
    long. -/
def lowerChar (c : Char) : List Char :=
  if c.toNat < 0x80 then [c.toLower]
  else if c = 'İ' then ['i', Char.ofNat 0x307]
  else [(runImage? lowerRuns c).getD c]

/-- The capital form of a character, which may be up to three characters long. -/
def upperChar (c : Char) : List Char :=
  if c.toNat < 0x80 then [c.toUpper]
  else match longUpper.find? (·.1 = c.toNat) with
    | some (_, image) => image.map Char.ofNat
    | none => [(runImage? upperRuns c).getD c]

/-- Whether a character has a case, be it capital or small. -/
def isCased (c : Char) : Bool :=
  if c.toNat < 0x80 then c.isAlpha else inRanges casedRanges c

/-- Whether a character is looked past when the neighbours of a sigma are asked for their case. -/
def isCaseIgnorable (c : Char) : Bool := inRanges caseIgnorableRanges c

/-! ## Texts -/

/-- Whether the first character that case does not ignore is cased; nothing is met at the end of a
    text. -/
def meetsCased (cs : List Char) : Bool :=
  match cs.dropWhile isCaseIgnorable with
  | [] => false
  | c :: _ => isCased c

/-- Goes through a text; `before` is what lies behind, the nearest character first.  A capital sigma
    is the only character that looks at its neighbours. -/
def lowerFrom (before : List Char) : List Char → List Char
  | [] => []
  | c :: rest =>
    let image :=
      if c = 'Σ' then (if meetsCased before && !meetsCased rest then ['ς'] else ['σ'])
      else lowerChar c
    image ++ lowerFrom (c :: before) rest

/-- The text in small letters, with final sigmas at the ends of words. -/
def lower (s : String) : String := String.ofList (lowerFrom [] s.toList)

/-- The text in capitals, which may be longer than the text. -/
def upper (s : String) : String := String.ofList (s.toList.flatMap upperChar)

/-- First character in capitals, the others small.  Each is taken by itself, so there is no final
    sigma here. -/
def title (s : String) : String :=
  match s.toList with
  | [] => ""
  | c :: rest => String.ofList (upperChar c ++ rest.flatMap lowerChar)

end SyntheticTables.Text
