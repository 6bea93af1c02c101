/-
  The values a configuration tree stands for.

  Each node is drawn from the draws of its children.  A place in the tree that wants values it has not
  seen keeps them in the memory of the state under its own `Place`, so the memory lives as long as the
  run.  How a token for a missing value is drawn when its node names no style is decided by the caller
  (`missing`).
-/
import SyntheticTables.Draw.Part

namespace SyntheticTables

/-! ## Nodes -/

/-- A draw, and the form its slot needs: what does not have that form ends the draw with an
    error. -/
def Draw.as {α : Type} (draw : Draw Value) (form : Value → Except GenError α) : Draw α := do
  Draw.ofExcept (form (← draw))

mutual

/-- Draws a value of a node.  `place` is where the node stands; its children stand below, each
    behind its number.  `missing` is asked for tokens that name no style, there and nowhere else. -/
def Node.draw (c : Context) (missing : Draw String) (place : Place) : Node → Draw Value
  | .word => .text <$> c.word
  | .words joiner count => do
    let n ← Draw.size count
    .text <$> c.words joiner n
  | .integer min max => .int <$> Draw.int min max
  | .number min max => .float <$> Draw.float min max
  | .boolean prob => .bool <$> Draw.chance prob
  | .interval start length => do
    let (first, last) ← Draw.interval start length
    return .interval first last
  | .missingValueName (some style) => .text <$> c.missingName style
  | .missingValueName none => .text <$> missing
  | .maybe prob child =>
    -- a node that names no probability takes that of the run
    .ofOption <$> Draw.maybe (prob.getD c.optionalProbability)
      (child.draw c missing (0 :: place))
  | .choice children =>
    if h : 0 < children.length then do
      let i ← Draw.sample (Sample.index children.length h)
      Node.drawNth c missing place 0 i children
    else throw (.emptyCombinator "choice")
  | .seq children distinct => do
    if children.isEmpty then throw (.emptyCombinator "seq")
    .seq <$> Node.drawEach c missing place distinct 0 children
  | .batch child count distinct => do
    let n ← Draw.size count
    -- all elements are drawn at one place, so with `distinct` they are unlike each other
    let item := child.draw c missing (0 :: place)
    .seq <$> Draw.times n (if distinct then c.uniqueAt (0 :: place) item else item)
  | .unique child => c.uniqueInRun Value.key (child.draw c missing (0 :: place))
  | .integerFieldType p missingName => do
    return .fieldType (.integer
      (← c.integerType p ((missingName.draw c missing (0 :: place)).as Value.toText)))
  | .enumIntegerFieldType p labelName missingName => do
    return .fieldType (.enumInteger
      (← c.enumIntegerType p ((labelName.draw c missing (0 :: place)).as Value.toText)
        ((missingName.draw c missing (1 :: place)).as Value.toText)))
  | .numberFieldType p missingName => do
    return .fieldType (.number
      (← c.numberType p ((missingName.draw c missing (0 :: place)).as Value.toText)))
  | .stringFieldType p missingName => do
    return .fieldType (.string
      (← c.stringType p ((missingName.draw c missing (0 :: place)).as Value.toText)))
  | .enumStringFieldType p labelName missingName => do
    return .fieldType (.enumString
      (← c.enumStringType p ((labelName.draw c missing (0 :: place)).as Value.toText)
        ((missingName.draw c missing (1 :: place)).as Value.toText)))
  | .metaGroup groupName count fieldName title description undefinedProb => do
    let metas ← c.metaGroup count undefinedProb
      ((groupName.draw c missing (0 :: place)).as Value.toText)
      ((fieldName.draw c missing (1 :: place)).as Value.toText)
      ((title.draw c missing (2 :: place)).as Value.toText)
      ((description.draw c missing (3 :: place)).as Value.toText)
    return .seq (metas.map .fieldMeta)
  -- the metas once, and then a type for each of them
  | .fieldGroup groupMeta fieldType => do
    let fields ← c.fieldGroup ((groupMeta.draw c missing (0 :: place)).as Value.toFieldMetas)
      ((fieldType.draw c missing (1 :: place)).as Value.toFieldType)
    return .seq (fields.map .field)
  | .likertFieldGroup groupMeta fieldType => do
    let fields ← c.fieldGroup ((groupMeta.draw c missing (0 :: place)).as Value.toFieldMetas)
      ((fieldType.draw c missing (1 :: place)).as Value.toFieldType)
    return .seq (fields.map .field)
  | .tableSchema fields rows missingName missingMax undefinedProb =>
    .tableSchema <$> c.tableSchema (fields.draw c missing (0 :: place))
      (c.missingValues ((missingName.draw c missing (1 :: place)).as Value.toText) missingMax
        undefinedProb) rows
  | .tableResource name description schema =>
    .tableResource <$> c.tableResource ((name.draw c missing (0 :: place)).as Value.toText)
      ((description.draw c missing (1 :: place)).as Value.toOptionalText)
      ((schema.draw c missing (2 :: place)).as Value.toTableSchema)
  | .package name description resource resources =>
    .package <$> c.package ((name.draw c missing (0 :: place)).as Value.toText)
      ((description.draw c missing (1 :: place)).as Value.toOptionalText) resources
      ((resource.draw c missing (2 :: place)).as Value.toTableResource)
  termination_by structural n => n

/-- Draws the child with the given number; the children are counted from `index`.  A number that no
    child has is an error, though the caller never asks for one. -/
def Node.drawNth (c : Context) (missing : Draw String) (place : Place) (index chosen : Nat) :
    List Node → Draw Value
  | [] => throw (.emptyCombinator "choice")
  | n :: rest =>
    if index = chosen then n.draw c missing (index :: place)
    else Node.drawNth c missing place (index + 1) chosen rest
  termination_by structural ns => ns

/-- Draws every child in order; with `distinct`, each unlike what its own place has seen. -/
def Node.drawEach (c : Context) (missing : Draw String) (place : Place) (distinct : Bool)
    (index : Nat) : List Node → Draw (List Value)
  | [] => pure []
  | n :: rest => do
    -- each child has a place of its own, so equal values at two positions do not collide
    let item := n.draw c missing (index :: place)
    let v ← if distinct then c.uniqueAt (index :: place) item else item
    let vs ← Node.drawEach c missing place distinct (index + 1) rest
    return v :: vs
  termination_by structural ns => ns

/-- Draws the columns of all field groups. -/
def FieldGroups.draw (c : Context) (missing : Draw String) (place : Place) :
    FieldGroups → Draw (List Field)
  | .one node => (node.draw c missing (0 :: place)).as Value.toFields
  | .many nodes => do
    if nodes.isEmpty then throw (.emptyCombinator "seq")
    return (← Node.drawGroups c missing place 0 nodes).flatten
  termination_by structural g => g

/-- Draws the columns of each group in order. -/
def Node.drawGroups (c : Context) (missing : Draw String) (place : Place) (index : Nat) :
    List Node → Draw (List (List Field))
  | [] => pure []
  | n :: rest => do
    let fields ← (n.draw c missing (index :: place)).as Value.toFields
    let more ← Node.drawGroups c missing place (index + 1) rest
    return fields :: more
  termination_by structural ns => ns

end

/-! ## Runs -/

/-- How a token for a missing value is drawn when its node names no style. -/
inductive DefaultMissing where
  | style (s : MissingStyle)
  /-- The values of a tree of its own; the tokens it asks for in turn are negative integers. -/
  | custom (node : Node)
  deriving Inhabited

/-- Everything the draws of a run depend on: the context, and how tokens are drawn by default. -/
structure Run where
  context : Context
  missing : DefaultMissing

namespace Run

/-- The place of the tree for missing values. -/
def customPlace : Place := [0]

/-- The place of a tree that is given a number in the run. -/
def rootPlace (number : Nat) : Place := [number + 1]

/-- A token for a missing value in the default of the run.  A tree for tokens that asks for tokens
    itself gets negative integers, so that there is an end to it. -/
def defaultMissing (r : Run) : Draw String :=
  match r.missing with
  | .style s => r.context.missingName s
  | .custom node => (node.draw r.context (r.context.missingName .spss) customPlace).as Value.toText

/-- Draws a value of a tree that has this number in the run, under its own place and no other's. -/
def draw (r : Run) (number : Nat) (node : Node) : Draw Value :=
  node.draw r.context r.defaultMissing (rootPlace number)

/-- The run that options describe, once the words of its locale are known: the options are checked
    first, and an empty list of words is refused like words that cannot be read. -/
def ofOptions (o : ContextOptions) (custom : Option Node)
    (wordlist : String → Except VocabularyError (List String)) : Except GenError Run := do
  match o.check with
  | .error e => throw (.invalidOptions e)
  | .ok () => pure ()
  -- from here on the locale is the normal one, also in messages
  let locale := normalizeLocale o.locale
  match wordlist locale with
  | .error e => throw (.vocabulary e)
  | .ok words =>
    if h : 0 < words.toArray.size then
      return {
        context := {
          locale
          vocabulary := words.toArray
          nonempty := h
          attempts := o.maxUniqueAttempts
          optionalProbability := o.optionalProbability }
        missing := match custom with
          | some node => .custom node
          | none => .style o.missingStyle }
    else throw (.vocabulary (.empty locale))

end Run

end SyntheticTables
