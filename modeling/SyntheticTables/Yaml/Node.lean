/-
  YAML nodes, and the values they stand for.

  A document is a tree of nodes as they are written.  An anchor gives a node a number, an alias asks
  for the node of a number.  Numbers are handed out by how many names there are so far, so two nodes
  can share one; then it belongs to the node that begins last, even for an alias in front of it.

  A value is what JSON knows, mappings with texts as keys, in the order they are written and with
  repeated keys kept.  In place of a name a key may give the place of a member; what is there is for
  the kind of document to say (`Naming`).
-/
import SyntheticTables.Yaml.Scalar

namespace SyntheticTables.Yaml

/-! ## Nodes -/

/-- What stands in front of a node: the number of its anchor, and the tag that says how its scalar
    is read. -/
structure Properties where
  anchor : Option Nat
  tag : Option Tag
  deriving Repr, DecidableEq, Inhabited

/-- A node as it is written.  A scalar keeps its text and whether it is plain; what it stands for is
    settled later. -/
inductive Node where
  | scalar (p : Properties) (text : String) (plain : Bool)
  | sequence (p : Properties) (items : List Node)
  | mapping (p : Properties) (pairs : List (Node × Node))
  | alias (number : Nat)
  deriving Inhabited

namespace Node

/-- What stands in front of a node; an alias has nothing there. -/
def properties? : Node → Option Properties
  | .scalar p _ _ | .sequence p _ | .mapping p _ => some p
  | .alias _ => none

mutual

/-- The size of a node: a collection begins and ends, anything else is one event. -/
def eventCount : Node → Nat
  | .scalar _ _ _ | .alias _ => 1
  | .sequence _ items => 2 + itemsEventCount items
  | .mapping _ pairs => 2 + pairsEventCount pairs
  termination_by structural n => n

/-- The size of the items of a sequence together. -/
def itemsEventCount : List Node → Nat
  | [] => 0
  | n :: rest => n.eventCount + itemsEventCount rest
  termination_by structural items => items

/-- The size of the pairs of a mapping together, keys and values alike. -/
def pairsEventCount : List (Node × Node) → Nat
  | [] => 0
  | (key, value) :: rest => key.eventCount + value.eventCount + pairsEventCount rest
  termination_by structural pairs => pairs

end

/-- A node under its number, if it has one. -/
def numbered (n : Node) : List (Nat × Node) :=
  match n.properties?.bind Properties.anchor with
  | some number => [(number, n)]
  | none => []

mutual

/-- The nodes with a number, in the order they begin. -/
def anchored : Node → List (Nat × Node)
  | .sequence p items => numbered (.sequence p items) ++ itemsAnchored items
  | .mapping p pairs => numbered (.mapping p pairs) ++ pairsAnchored pairs
  | other => numbered other
  termination_by structural n => n

/-- The nodes with a number among some items and inside them. -/
def itemsAnchored : List Node → List (Nat × Node)
  | [] => []
  | n :: rest => n.anchored ++ itemsAnchored rest
  termination_by structural items => items

/-- The nodes with a number among some pairs and inside them, the key of a pair before its value. -/
def pairsAnchored : List (Node × Node) → List (Nat × Node)
  | [] => []
  | (key, value) :: rest => key.anchored ++ value.anchored ++ pairsAnchored rest
  termination_by structural pairs => pairs

end

end Node

/-! ## Keys -/

/-- What a key names: a member, by its name or by its place. -/
inductive Key where
  | name (s : String)
  /-- The place of a member among those that its mapping can have. -/
  | place (n : UInt64)
  deriving Repr, DecidableEq, Inhabited

/-- The key that a value is: a text or a number that is no negative one and no float. -/
def Key.ofJson : Json → Except Error Key
  | .str s => .ok (.name s)
  | .num (.unsigned n) => .ok (.place n)
  | _ => .error .badKey

/-- Says which member is at a place, by the members of the mapping that have a name. -/
abbrev Naming := (named : List (String × Json)) → (place : UInt64) → Option String

/-- The members with a name, in their order; they decide what a place means. -/
def namedMembers (members : List (Key × Json)) : List (String × Json) :=
  members.filterMap fun
    | (.name s, v) => some (s, v)
    | (.place _, _) => none

/-- The name of a key beside the members that have one. -/
def Key.toName (naming : Naming) (named : List (String × Json)) : Key → Except Error String
  | .name s => .ok s
  | .place n => match naming named n with
    | some s => .ok s
    | none => .error .badKey

/-- Gives every member a name. -/
def nameMembers (naming : Naming) (members : List (Key × Json)) :
    Except Error (List (String × Json)) :=
  members.mapM fun (k, v) => do return (← k.toName naming (namedMembers members), v)

/-! ## Aliases -/

/-- A reading that may still follow so many aliases. -/
abbrev Following (α : Type) := StateT Nat (Except Error) α

/-- How often all aliases of a document may be followed for each of its events. -/
def followsPerEvent : Nat := 100

/-- The nodes that aliases lead to, under their numbers. -/
abbrev Targets := List (Nat × Node)

/-- The node itself, or the one that an alias leads to; each alias that is followed is counted. -/
def Targets.follow (targets : Targets) : Node → Following Node
  | .alias number => fun left =>
    if left = 0 then .error .tooManyAliases
    else match targets.findRev? (·.1 = number) with
      | some (_, n) => .ok (n, left - 1)
      | none => .error .unknownAlias
  | n => pure n

/-! ## Values -/

/-- A tag that a collection can have. -/
def Properties.fitsCollection (p : Properties) : Bool := p.tag ≠ some .localName

namespace Node

/-- What the reading of all nodes of a document goes by: the nodes that aliases lead to, and what
    places mean. -/
structure Setting where
  targets : Targets
  naming : Naming

variable (s : Setting)

/-- Reads a collection, unless it nests too deep. -/
def collection (p : Properties) (inside : Option (Node → Following Json))
    (read : (Node → Following Json) → Following Json) : Following Json :=
  match inside with
  | none => throw .tooDeep
  | some item => if p.fitsCollection then read item else throw .tagMismatch

/-- Reads the pairs of a mapping, each value by its key. -/
def members (key : Node → Following Json) (value : Key → Node → Following Json)
    (pairs : List (Node × Node)) : Following Json := do
  let members ← pairs.mapM fun (k, v) => do
    let k ← Key.ofJson (← key k)
    return (k, ← value k v)
  return .obj (← nameMembers s.naming members)

/-- The value of a node, given how those inside it are read. -/
def valueIn (inside : Option (Node → Following Json)) (n : Node) : Following Json := do
  match ← s.targets.follow n with
  | .scalar p text plain => scalarValue p.tag plain text
  | .sequence p items => collection p inside fun item => return .arr (← items.mapM item)
  | .mapping p pairs => collection p inside fun item => members s item (fun _ => item) pairs
  | .alias _ => throw .unknownAlias

/-- The value of a node inside which collections may nest `depth` deep; an alias counts by where it
    stands. -/
def value : (depth : Nat) → Node → Following Json
  | 0 => valueIn s none
  | depth + 1 => valueIn s (some (value depth))

/-- The text of a scalar, whatever its tag and its spelling ask for.  It is how the tag of a
    configuration is read, so `true` there is a name. -/
def text (n : Node) : Following Json := do
  match ← s.targets.follow n with
  | .scalar _ text _ => return .str text
  | _ => throw .notText

/-- The value of a root.  Its first item, or the member with the given name, is a text. -/
def rootValue (textMember : String) (depth : Nat) (n : Node) : Following Json :=
  match n with
  | .sequence p (first :: items) => collection p (some (value s depth)) fun item =>
    return .arr ((← text s first) :: (← items.mapM item))
  | .mapping p pairs => collection p (some (value s depth)) fun item =>
    members s item (fun k => if k = .name textMember then text s else item) pairs
  | n => value s depth n

/-- How deep collections may nest, aliases followed. -/
def maxDepth : Nat := 128

/-- The value of a document, given by its root. -/
def toJson (naming : Naming) (textMember : String) (root : Node) : Except Error Json :=
  (rootValue ⟨root.anchored, naming⟩ textMember (maxDepth - 1) root).run'
    (followsPerEvent * root.eventCount)

end Node

end SyntheticTables.Yaml
