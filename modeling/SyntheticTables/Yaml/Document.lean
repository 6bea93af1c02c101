/-
  YAML documents.

  A stream holds one document, which is read from tokens into a tree of nodes.  What the tree stands
  for is another matter: `Node.toJson`.
-/
import SyntheticTables.Yaml.Node
import SyntheticTables.Yaml.Token

namespace SyntheticTables.Yaml

/-! ## Anchors -/

/-- The names that anchors gave so far, with the numbers they stand for. -/
abbrev Anchors := List (String × Nat)

/-- The number of a name; an alias to a name that no anchor has given is refused. -/
def Anchors.number (anchors : Anchors) (name : String) : Except Error Nat :=
  match anchors.find? (·.1 = name) with
  | some (_, number) => .ok number
  | none => .error .unknownAlias

/-- Gives a name the next number; if it had one, that is gone. -/
def Anchors.add (anchors : Anchors) (name : String) : Anchors :=
  (name, anchors.length) :: anchors.filter (·.1 ≠ name)

/-- A node, and the anchors known behind it. -/
abbrev Known := Node × Anchors

/-- A reader of one node. -/
abbrev NodeReader := (anchors : Anchors) → (ts : List Token) → Except Error (Step Known ts)

/-! ## Properties of a node -/

/-- An anchor and a tag as they are written, before the name has a number and the handle a
    meaning. -/
structure Front where
  anchor : Option String
  tag : Option WrittenTag

/-- The anchor and the tag in front of a node, in either order, if it has any. -/
def front? (ts : List Token) : Option (Step Front ts) :=
  match ts with
  | .anchor a :: .tag t :: rest => some ((Step.one ⟨some a, some t⟩ _ rest).after _)
  | .tag t :: .anchor a :: rest => some ((Step.one ⟨some a, some t⟩ _ rest).after _)
  | .anchor a :: rest => some ⟨⟨some a, none⟩, rest, Nat.lt_succ_self _⟩
  | .tag t :: rest => some ⟨⟨none, some t⟩, rest, Nat.lt_succ_self _⟩
  | _ => none

/-- What an anchor and a tag amount to, and the anchors known behind them. -/
def Front.properties (f : Front) (handles : Handles) (anchors : Anchors) :
    Except Error (Properties × Anchors) := do
  let tag ← match f.tag with
    | some t => do pure (Tag.ofName? (← handles.name t))
    | none => pure none
  match f.anchor with
  | some name => return (⟨some anchors.length, tag⟩, anchors.add name)
  | none => return (⟨none, tag⟩, anchors)

/-- The node that is left out: an empty plain scalar, which stands for nothing. -/
def Node.missing : Node := .scalar ⟨none, none⟩ "" true

/-! ## Entries -/

/-- A node, which is left out in front of certain tokens. -/
def nodeUnless (stops : Token → Bool) (item : NodeReader) (anchors : Anchors) (ts : List Token) :
    Except Error (Part Known ts) :=
  match ts with
  | [] => (item anchors []).map Step.part
  | t :: rest =>
    if stops t then .ok (.ofNothing (t :: rest) (.missing, anchors))
    else (item anchors (t :: rest)).map Step.part

/-- The tokens in front of which the node of an entry is left out. -/
def endsBlockEntry : Token → Bool
  | .blockEntry | .blockEnd => true
  | _ => false

/-- The tokens in front of which the key or the value of a pair is left out. -/
def endsBlockPair : Token → Bool
  | .key | .value | .blockEnd => true
  | _ => false

/-- The tokens in front of which a part of a pair is left out inside a flow collection. -/
def endsFlowPair (close : Token) (t : Token) : Bool := t = .flowEntry || t = close

/-- The entries of a block sequence.  Indented ones end with a token of their own; those that are not
    end in front of anything else than an entry. -/
def blockEntries (item : NodeReader) (indented : Bool) (anchors : Anchors) (ts : List Token) :
    Except Error (Part (List Node × Anchors) ts) :=
  match ts with
  | .blockEntry :: rest =>
    match nodeUnless (fun t => endsBlockEntry t || (!indented && endsBlockPair t)) item anchors
        rest with
    | .error e => .error e
    | .ok p =>
      have := p.noLonger
      (blockEntries item indented p.value.2 p.rest).map fun q =>
        (q.map fun (vs, anchors) => (p.value.1 :: vs, anchors)).within (.blockEntry :: rest)
          (by simp only [List.length_cons]; omega)
  | .blockEnd :: rest =>
    -- entries without an indentation of their own end where something around them does, so the
    -- token is left for that
    if indented then .ok ⟨([], anchors), rest, Nat.le_succ _⟩
    else .ok (.ofNothing _ ([], anchors))
  | ts => if indented then .error .unexpectedToken else .ok (.ofNothing ts ([], anchors))
  termination_by ts.length

/-- The entries of a block sequence that is not indented, behind the mark of the first. -/
def entriesFromFirst (item : NodeReader) (anchors : Anchors) (ts : List Token) :
    Except Error (Part (List Node × Anchors) ts) := do
  let p ← nodeUnless (fun t => endsBlockEntry t || endsBlockPair t) item anchors ts
  let q ← blockEntries item false p.value.2 p.rest
  return (q.map fun (vs, anchors) => (p.value.1 :: vs, anchors)).within ts p.noLonger

/-- The value behind a key, if there is one; without a colon it is left out. -/
def pairValue (stops : Token → Bool) (item : NodeReader) (anchors : Anchors) (ts : List Token) :
    Except Error (Part Known ts) :=
  match ts with
  | .value :: rest =>
    (nodeUnless stops item anchors rest).map fun p => p.within (.value :: rest) (Nat.le_succ _)
  | ts => .ok (.ofNothing ts (.missing, anchors))

/-- A key and its value, either of which may be left out. -/
def pair (keyStops stops : Token → Bool) (item : NodeReader) (anchors : Anchors)
    (ts : List Token) : Except Error (Part ((Node × Node) × Anchors) ts) := do
  let k ← nodeUnless keyStops item anchors ts
  let v ← pairValue stops item k.value.2 k.rest
  return ⟨((k.value.1, v.value.1), v.value.2), v.rest, Nat.le_trans v.noLonger k.noLonger⟩

/-- The pairs of a block mapping, up to its end. -/
def blockPairs (item : NodeReader) (anchors : Anchors) (ts : List Token) :
    Except Error (Part (List (Node × Node) × Anchors) ts) :=
  match ts with
  | .key :: rest =>
    match pair endsBlockPair endsBlockPair item anchors rest with
    | .error e => .error e
    | .ok p =>
      have := p.noLonger
      (blockPairs item p.value.2 p.rest).map fun q =>
        (q.map fun (ms, anchors) => (p.value.1 :: ms, anchors)).within (.key :: rest)
          (by simp only [List.length_cons]; omega)
  | .blockEnd :: rest => .ok ⟨([], anchors), rest, Nat.le_succ _⟩
  | _ => .error .unexpectedToken
  termination_by ts.length

/-- Passes over the comma between two entries; in front of the first there is none. -/
def comma (first : Bool) (ts : List Token) : Except Error (Part Unit ts) :=
  if first then .ok (.ofNothing ts ())
  else match ts with
    | .flowEntry :: rest => .ok ⟨(), rest, Nat.le_succ _⟩
    | _ => .error .unexpectedToken

/-- An entry of a flow sequence: a node, or a mapping of one pair. -/
def flowItem (item : NodeReader) (anchors : Anchors) (ts : List Token) :
    Except Error (Step Known ts) :=
  match ts with
  | .key :: rest =>
    (pair (fun t => t = .value || endsFlowPair .flowSequenceEnd t) (endsFlowPair .flowSequenceEnd)
      item anchors rest).map fun p => (p.map fun (m, anchors) => (.mapping ⟨none, none⟩ [m], anchors)).behind
  | ts => item anchors ts

/-- The entries of a flow sequence, up to its end. -/
def flowEntries (item : NodeReader) (first : Bool) (anchors : Anchors) (ts : List Token) :
    Except Error (Part (List Node × Anchors) ts) :=
  match ts with
  | .flowSequenceEnd :: rest => .ok ⟨([], anchors), rest, Nat.le_succ _⟩
  | ts =>
    match comma first ts with
    | .error e => .error e
    | .ok c =>
      have noLonger := c.noLonger
      -- a comma may stand behind the last entry
      match h : c.rest with
      | .flowSequenceEnd :: rest => .ok ⟨([], anchors), rest, by
          rw [h] at noLonger; simp at noLonger; omega⟩
      | next =>
        match flowItem item anchors next with
        | .error e => .error e
        | .ok s =>
          have hs : s.rest.length < ts.length := by
            have := s.shorter; rw [h] at noLonger; omega
          (flowEntries item false s.value.2 s.rest).map fun q =>
            (q.map fun (vs, anchors) => (s.value.1 :: vs, anchors)).within ts (by omega)
  termination_by ts.length

/-- A pair of a flow mapping; a key alone has no value. -/
def flowPair (item : NodeReader) (anchors : Anchors) (ts : List Token) :
    Except Error (Step ((Node × Node) × Anchors) ts) :=
  match ts with
  | .key :: rest =>
    (pair (fun t => t = .value || endsFlowPair .flowMappingEnd t) (endsFlowPair .flowMappingEnd)
      item anchors rest).map Part.behind
  | ts => (item anchors ts).map fun s => s.map fun (k, anchors) => ((k, .missing), anchors)

/-- The pairs of a flow mapping, up to its end. -/
def flowPairs (item : NodeReader) (first : Bool) (anchors : Anchors) (ts : List Token) :
    Except Error (Part (List (Node × Node) × Anchors) ts) :=
  match ts with
  | .flowMappingEnd :: rest => .ok ⟨([], anchors), rest, Nat.le_succ _⟩
  | ts =>
    match comma first ts with
    | .error e => .error e
    | .ok c =>
      have noLonger := c.noLonger
      -- and behind the last pair
      match h : c.rest with
      | .flowMappingEnd :: rest => .ok ⟨([], anchors), rest, by
          rw [h] at noLonger; simp at noLonger; omega⟩
      | next =>
        match flowPair item anchors next with
        | .error e => .error e
        | .ok s =>
          have hs : s.rest.length < ts.length := by
            have := s.shorter; rw [h] at noLonger; omega
          (flowPairs item false s.value.2 s.rest).map fun q =>
            (q.map fun (ms, anchors) => (s.value.1 :: ms, anchors)).within ts (by omega)
  termination_by ts.length

/-! ## Nodes -/

/-- What a node may be at its place. -/
inductive Context where
  /-- Between the brackets of a flow collection. -/
  | flow
  /-- In a block collection. -/
  | block
  /-- In a block mapping, where a sequence need not be indented. -/
  | mapping
  deriving DecidableEq

/-- Whether a token begins the content of a node. -/
def Context.begins (context : Context) : Token → Bool
  | .scalar .. | .flowSequenceStart | .flowMappingStart => true
  | .blockSequenceStart | .blockMappingStart => context ≠ .flow
  | .blockEntry => context = .mapping
  | _ => false

/-- How the nodes inside a collection are read; without it, the collection would nest too deep. -/
abbrev Inside := Option (Context → NodeReader)

/-- Reads a sequence behind its first token. -/
def sequence {t : Token} {rest : List Token} (p : Properties) (inside : Inside)
    (read : (Context → NodeReader) → Except Error (Part (List Node × Anchors) rest)) :
    Except Error (Step Known (t :: rest)) :=
  match inside with
  | none => .error .tooDeep
  | some item =>
    (read item).map fun q => (q.map fun (items, anchors) => (.sequence p items, anchors)).behind

/-- Reads a mapping behind its first token. -/
def mapping {t : Token} {rest : List Token} (p : Properties) (inside : Inside)
    (read : (Context → NodeReader) → Except Error (Part (List (Node × Node) × Anchors) rest)) :
    Except Error (Step Known (t :: rest)) :=
  match inside with
  | none => .error .tooDeep
  | some item =>
    (read item).map fun q => (q.map fun (pairs, anchors) => (.mapping p pairs, anchors)).behind

/-- Reads the content of a node behind its properties. -/
def content (context : Context) (p : Properties) (inside : Inside) : NodeReader := fun anchors ts =>
  match ts with
  | [] => .error .unexpectedToken
  | t :: rest =>
    if !context.begins t then .error .unexpectedToken
    else match t with
      | .scalar text plain => .ok ⟨(.scalar p text plain, anchors), rest, Nat.lt_succ_self _⟩
      | .flowSequenceStart => sequence p inside fun item =>
        flowEntries (item .flow) true anchors rest
      | .flowMappingStart => mapping p inside fun item => flowPairs (item .flow) true anchors rest
      | .blockEntry => sequence p inside fun item => entriesFromFirst (item .block) anchors rest
      | .blockSequenceStart => sequence p inside fun item =>
        blockEntries (item .block) true anchors rest
      | .blockMappingStart => mapping p inside fun item => blockPairs (item .mapping) anchors rest
      | _ => .error .unexpectedToken

/-- Reads a node, given how those inside it are read. -/
def nodeIn (handles : Handles) (context : Context) (inside : Inside) : NodeReader :=
  fun anchors ts =>
    match ts with
    | .alias name :: rest => do
      return ⟨(.alias (← anchors.number name), anchors), rest, Nat.lt_succ_self _⟩
    | ts => match front? ts with
      | none => content context ⟨none, none⟩ inside anchors ts
      | some f => do
        let (p, anchors) ← f.value.properties handles anchors
        if f.rest.head?.any context.begins then
          return (← content context p inside anchors f.rest).within ts (Nat.le_of_lt f.shorter)
        else return f.map fun _ => (.scalar p "" true, anchors)

/-- Reads a node inside which collections may nest `depth` deep.  As for values, the recursion is on
    that depth. -/
def node (handles : Handles) : (depth : Nat) → Context → NodeReader
  | 0, context => nodeIn handles context none
  | depth + 1, context => nodeIn handles context (some (node handles depth))

/-! ## Streams -/

/-- Whether nothing but ends of documents is left. -/
def isOver (ts : List Token) : Bool := ts.all (· = .documentEnd)

/-- Takes the directives in front: one version at most, and each handle once. -/
def directives (seenVersion : Bool) (handles : Handles) :
    List Token → Except Error (Bool × Handles × List Token)
  | .directive .version :: rest =>
    if seenVersion then .error .badDirective else directives true handles rest
  | .directive (.handle name front) :: rest =>
    if handles.any (·.1 = name) then .error .badDirective
    else directives seenVersion ((name, front) :: handles) rest
  | ts => .ok (seenVersion, handles, ts)

/-- Passes over the marks in front of the first document and gives back the handles it has.
    Directives need a mark behind them. -/
def openDocument (ts : List Token) : Except Error (Handles × List Token) := do
  let (seenVersion, handles, ts) ← directives false [] ts
  match ts with
  | .documentStart :: rest => return (handles ++ Handles.usual, rest)
  | ts =>
    if seenVersion || !handles.isEmpty then throw .unexpectedToken
    else return (Handles.usual, ts)

/-- Whether a token ends a document, so that there is nothing in it if that comes first. -/
def endsDocument : Token → Bool
  | .directive _ | .documentStart | .documentEnd => true
  | _ => false

/-- The root of the document that a stream holds. -/
def rootOfText (text : String) : Except Error Node := do
  let ts ← tokens text
  if ts.isEmpty then throw .noDocument
  let (handles, ts) ← openDocument ts
  let (root, rest) ←
    if ts.isEmpty then pure (Node.missing, ts)
    else do
      let p ← nodeUnless endsDocument (node handles Node.maxDepth .block) [] ts
      pure (p.value.1, p.rest)
  if isOver rest then return root else throw .moreDocuments

/-- The value of the document that a stream holds; see `Node.rootValue` for the name. -/
def ofText (naming : Naming) (textMember : String) (text : String) : Except Error Json := do
  (← rootOfText text).toJson naming textMember

end SyntheticTables.Yaml
