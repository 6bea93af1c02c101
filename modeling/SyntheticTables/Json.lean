/-
  JSON values.

  An object keeps its members in the order they were written, repeated names included: a document
  that is read from text is interpreted in that order.  `Json.sorted` is the other view of the same
  document, the one a decoded document has: members in ascending order of their names at every
  level, and of a repeated name only the last.  `Json.decoded` is the decoded document itself, which
  has no numerals for floats that are not finite.

  A number is an unsigned word, a word with a minus or a float, so the integer 3 and the float 3.0 are
  two values.
-/
import SyntheticTables.Text.Integer

namespace SyntheticTables

/-! ## Values -/

/-- A JSON number: an integer that fits 64 bits, or a float.  Three constructors, so that the
    document says which of the three a numeral was. -/
inductive Json.Number where
  | unsigned (n : UInt64)
  | negative (n : Int64)
  | float (x : Float)
  deriving Inhabited

/-- A document.  The members of an object stand in the order they were written, and a name may be
    repeated. -/
inductive Json where
  | null
  | bool (b : Bool)
  | num (n : Json.Number)
  | str (s : String)
  | arr (items : List Json)
  | obj (members : List (String × Json))
  deriving Inhabited

namespace Json

/-- The number of a signed word: the sign decides the constructor, so each integer has one form. -/
def Number.ofInt64 (i : Int64) : Number :=
  if i < 0 then .negative i else .unsigned i.toUInt64

/-- The document of a signed word. -/
def ofInt64 (i : Int64) : Json := .num (.ofInt64 i)

/-- The document of an unsigned word. -/
def ofUInt64 (n : UInt64) : Json := .num (.unsigned n)

/-- The document of a count that is known to fit an unsigned word. -/
def ofNat (n : Nat) : Json := .num (.unsigned n.toUInt64)

/-- The document of a float, also of one that is not finite; see `Number.decoded` for what becomes
    of that. -/
def ofFloat (x : Float) : Json := .num (.float x)

/-- The document of some texts, in their order. -/
def ofStrings (xs : List String) : Json := .arr (xs.map .str)

/-- A member that is left out when there is nothing to say. -/
def optional {α : Type} (name : String) (encode : α → Json) : Option α → List (String × Json)
  | none => []
  | some a => [(name, encode a)]

/-- With nothing to say there is no member. -/
@[simp] theorem optional_none {α : Type} (name : String) (encode : α → Json) :
    optional name encode none = [] := rfl

/-- With something to say there is one member. -/
@[simp] theorem optional_some {α : Type} (name : String) (encode : α → Json) (a : α) :
    optional name encode (some a) = [(name, encode a)] := rfl

/-! ## Members in ascending order -/

/-- Puts a member in its place in a list that ascends; a member of the same name gives way.  In a
    list that does not ascend it stands before the first greater name. -/
def insertMember {α : Type} (name : String) (value : α) : List (String × α) → List (String × α)
  | [] => [(name, value)]
  | (n, v) :: rest =>
    if name < n then (name, value) :: (n, v) :: rest
    else if name = n then (name, value) :: rest
    else (n, v) :: insertMember name value rest

/-- The members in ascending order; of a repeated name the last one stays. -/
def sortMembers {α : Type} (members : List (String × α)) : List (String × α) :=
  members.foldl (fun sorted m => insertMember m.1 m.2 sorted) []

mutual

/-- The same document with the members of every object in ascending order. -/
def sorted : Json → Json
  | .arr items => .arr (sortedItems items)
  | .obj members => .obj (sortMembers (sortedValues members))
  | other => other
  termination_by structural j => j

/-- The sorted views of some elements, which stay in their order. -/
def sortedItems : List Json → List Json
  | [] => []
  | item :: rest => sorted item :: sortedItems rest
  termination_by structural items => items

/-- The sorted views of the values of some members; the members themselves stay where they are. -/
def sortedValues : List (String × Json) → List (String × Json)
  | [] => []
  | (name, value) :: rest => (name, sorted value) :: sortedValues rest
  termination_by structural members => members

end

/-! ## Decoded documents -/

/-- A number as a decoded document holds it: no number there is infinite or none at all. -/
def Number.decoded : Number → Json
  | .float x => if x.isFinite then .num (.float x) else .null
  | n => .num n

mutual

/-- What is left of a document once it is decoded: its sorted view, with `null` in the place of each
    number that is not finite. -/
def decoded : Json → Json
  | .num n => n.decoded
  | .arr items => .arr (decodedItems items)
  | .obj members => .obj (sortMembers (decodedValues members))
  | other => other
  termination_by structural j => j

/-- The decoded elements of a list, in their order. -/
def decodedItems : List Json → List Json
  | [] => []
  | item :: rest => decoded item :: decodedItems rest
  termination_by structural items => items

/-- The decoded values of some members; the members themselves stay where they are. -/
def decodedValues : List (String × Json) → List (String × Json)
  | [] => []
  | (name, value) :: rest => (name, decoded value) :: decodedValues rest
  termination_by structural members => members

end

/-! ## Looking inside -/

/-- The first member of this name, in a document that is an object. -/
def member? (name : String) : Json → Option Json
  | .obj members => (members.find? (·.1 = name)).map (·.2)
  | _ => none

/-- Reads an array index: decimal digits without a leading zero, so an element has one index
    only. -/
def index? (step : String) : Option Nat :=
  match step.toList with
  | '0' :: _ :: _ => none
  | digits => Text.nat? 10 digits

/-- What one step of a pointer leads to: an element by its index, or a member by its name. -/
def step? (step : String) : Json → Option Json
  | .arr items => (index? step).bind (items[·]?)
  | other => other.member? step

/-- What a list of steps leads to, if each of them leads somewhere. -/
def descend? : List String → Json → Option Json
  | [], j => some j
  | step :: rest, j => (j.step? step).bind (descend? rest)

/-- A step of a pointer as it is meant: `~1` stands for `/` and `~0` for `~`. -/
def unescapeStep : List Char → List Char
  | '~' :: '1' :: rest => '/' :: unescapeStep rest
  | '~' :: '0' :: rest => '~' :: unescapeStep rest
  | c :: rest => c :: unescapeStep rest
  | [] => []

/-- What a pointer such as `/a/0/b` leads to.  The empty pointer leads to the document itself;
    anything else has to begin with a slash. -/
def pointer? (pointer : String) (j : Json) : Option Json :=
  match pointer.toList.splitOn '/' with
  | [] :: steps => descend? (steps.map fun s => String.ofList (unescapeStep s)) j
  | _ => none

end Json

end SyntheticTables
