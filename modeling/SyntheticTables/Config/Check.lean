/-
  When a configuration tree makes sense.

  Every child must draw values of a type its slot accepts, and every parameter must describe a domain
  that is not empty and whose ends are in order.  The check goes depth first, slot after slot, and
  the first fault decides; it is reported with the way from the root to the node or parameter at
  fault.
-/
import SyntheticTables.Config.Node

namespace SyntheticTables

/-! ## Ways through a tree -/

/-- A step down: a named slot or parameter, or a place in a list. -/
inductive PathStep where
  | slot (name : String)
  | place (index : Nat)
  deriving DecidableEq, Inhabited

/-- The step as a pointer shows it. -/
def PathStep.text : PathStep → String
  | .slot name => name
  | .place index => toString index

/-- A way from the root, the first step first. -/
abbrev NodePath := List PathStep

/-- The way as a pointer: a slash before each step, and a single slash for the root. -/
def NodePath.text (path : NodePath) : String :=
  if path.isEmpty then "/" else String.join (path.map fun s => "/" ++ s.text)

/-! ## Faults -/

/-- What is wrong with a node or a parameter, with the values that are at fault where the message
    shows them. -/
inductive Fault where
  | noChildren (combinator : String)
  | noFieldGroups
  | noResources
  | noWords
  | noLevels
  | levelsOverflow
  | negativeLength
  | negativeIntervalLength
  | notFinite
  | notAProbability (x : Float)
  | invertedInts (min max : Int64)
  | invertedFloats (min max : Float)
  | invertedSizes (min max : UInt64)
  deriving Inhabited

/-- The text of a fault; it does not say where, which is for `CheckError.message`. -/
def Fault.message : Fault → String
  | .noChildren combinator => s!"{combinator} must have at least one child"
  | .noFieldGroups => "table schema must have at least one field group"
  | .noResources => "package must have at least one resource"
  | .noWords => "at least one word is required"
  | .noLevels => "enum field types need at least one level"
  | .levelsOverflow => "levels would overflow the integer range"
  | .negativeLength => "lengths must not be negative"
  | .negativeIntervalLength => "interval length must not be negative"
  | .notFinite => "bounds must be finite"
  | .notAProbability x => s!"probability must be within [0, 1], got {Decimal.plain.text x}"
  | .invertedInts min max => s!"range is inverted: {min} > {max}"
  | .invertedFloats min max =>
    s!"range is inverted: {Decimal.plain.text min} > {Decimal.plain.text max}"
  | .invertedSizes min max => s!"range is inverted: {min} > {max}"

/-- Why a tree is refused: a slot got a node of the wrong type, or a parameter describes nothing
    that could be drawn.  Both say where, from the root on. -/
inductive CheckError where
  | typeMismatch (path : NodePath) (expected got : TypeDesc)
  | invalid (path : NodePath) (fault : Fault)
  deriving Inhabited

/-- Where the tree is at fault. -/
def CheckError.path : CheckError → NodePath
  | .typeMismatch path _ _ => path
  | .invalid path _ => path

/-- The text of a refusal: where it is, then what it is. -/
def CheckError.message : CheckError → String
  | .typeMismatch path expected got =>
    s!"type mismatch at {path.text}: expected {expected.text}, got {got.text}"
  | .invalid path fault => s!"invalid configuration at {path.text}: {fault.message}"

namespace Check

/-! ## Parameters -/

/-- The way on from a node. -/
def into (path : NodePath) (name : String) : NodePath := path ++ [.slot name]

/-- A parameter with a fault, under the name it has in documents. -/
def refuse (path : NodePath) (name : String) (fault : Fault) : Except CheckError Unit :=
  .error (.invalid (into path name) fault)

/-- A probability: from 0 to 1, with both ends.  What is no number fails both comparisons. -/
def probability (path : NodePath) (name : String) (x : Float) : Except CheckError Unit :=
  if 0.0 ≤ x ∧ x ≤ 1.0 then .ok () else refuse path name (.notAProbability x)

/-- Several probabilities, in order; the first that is none is reported. -/
def probabilities (path : NodePath) : List (String × Float) → Except CheckError Unit
  | [] => .ok ()
  | (name, x) :: rest => do probability path name x; probabilities path rest

/-- A range of integers: its ends are in order, and may be the same. -/
def intRange (path : NodePath) (name : String) (r : IntRange) : Except CheckError Unit :=
  if r.max < r.min then refuse path name (.invertedInts r.min r.max) else .ok ()

/-- A range of lengths: ordered, and not below zero. -/
def lengthRange (path : NodePath) (name : String) (r : IntRange) : Except CheckError Unit := do
  intRange path name r
  if r.min < 0 then refuse path name .negativeLength

/-- A range of numbers of levels: ordered, and at least one. -/
def levelCount (path : NodePath) (r : IntRange) : Except CheckError Unit := do
  intRange path "n_levels_range" r
  if r.min < 1 then refuse path "n_levels_range" .noLevels

/-- A range of floats: both ends finite, and in order. -/
def floatRange (path : NodePath) (name : String) (r : FloatRange) : Except CheckError Unit :=
  if !r.min.isFinite || !r.max.isFinite then refuse path name .notFinite
  else if r.max < r.min then refuse path name (.invertedFloats r.min r.max)
  else .ok ()

/-- A number of something: the ends of its range are in order, and a fixed number always is. -/
def size (path : NodePath) (name : String) (s : SizeSpec) : Except CheckError Unit :=
  if s.max < s.min then refuse path name (.invertedSizes s.min s.max) else .ok ()

/-- A number of words: at least one. -/
def wordCount (path : NodePath) (s : SizeSpec) : Except CheckError Unit := do
  size path "n_words" s
  if s.min = 0 then refuse path "n_words" .noWords

/-- The type a slot expects: the type that the child declares has to satisfy it. -/
def expect (path : NodePath) (expected : TypeDesc) (child : Node) : Except CheckError Unit :=
  if child.declaredType.satisfies expected then .ok ()
  else .error (.typeMismatch path expected child.declaredType)

/-- The type of slots for texts. -/
def text : TypeDesc := .prim .str

/-- The type of slots for texts that may be left out. -/
def optionalText : TypeDesc := .optional text

/-- The type of slots for the names of columns. -/
def metaSeq : TypeDesc := .seq (.prim .fieldMeta)

/-- The type of slots for columns. -/
def fieldSeq : TypeDesc := .seq (.prim .field)

/-- Whether the last level of the widest set of levels would leave the range of integers.  The sum
    is one of integers, so it cannot overflow itself. -/
def levelsOverflow (p : EnumIntegerTypeParams) : Bool :=
  p.levelStartRange.max.toInt + p.levelCountRange.max.toInt > Int64.maxValue.toInt

end Check

/-! ## Nodes -/

open Check in
mutual

/-- Checks a node and everything below it.  `path` leads to the node; the order in which its
    children and parameters are looked at is the order in which faults are reported. -/
def Node.checkAt (path : NodePath) : Node → Except CheckError Unit
  | .word => .ok ()
  | .missingValueName _ => .ok ()
  | .words _ count => wordCount path count
  | .integer min max => intRange path "max" ⟨min, max⟩
  | .number min max => floatRange path "max" ⟨min, max⟩
  | .boolean prob => probability path "prob" prob
  | .interval start length => do
    intRange path "start_max" start
    intRange path "length_max" length
    if length.min < 0 then refuse path "length_min" .negativeIntervalLength
  | .maybe prob child => do
    match prob with
    | some p => probability path "prob" p
    | none => pure ()
    child.checkAt (into path "child")
  | .choice children => do
    if children.isEmpty then throw (.invalid path (.noChildren "choice"))
    Node.checkEach (into path "children") 0 .any children
  | .seq children _ => do
    if children.isEmpty then throw (.invalid path (.noChildren "seq"))
    Node.checkEach (into path "children") 0 .any children
  | .batch child count _ => do
    size path "size" count
    child.checkAt (into path "child")
  | .unique child => child.checkAt (into path "child")
  -- a column type: its probabilities, its ranges, and then its slots, each by itself before its
  -- type
  | .integerFieldType p missingName => do
    probabilities path [("required_prob", p.requiredProb), ("unique_prob", p.uniqueProb),
      ("undefined_prob", p.undefinedProb)]
    intRange path "minimum_range" p.minimumRange
    intRange path "maximum_range" p.maximumRange
    missingName.checkAt (into path "missing_value_name")
    expect (into path "missing_value_name") text missingName
  | .numberFieldType p missingName => do
    probabilities path [("required_prob", p.requiredProb), ("unique_prob", p.uniqueProb),
      ("undefined_prob", p.undefinedProb)]
    floatRange path "minimum_range" p.minimumRange
    floatRange path "maximum_range" p.maximumRange
    missingName.checkAt (into path "missing_value_name")
    expect (into path "missing_value_name") text missingName
  | .stringFieldType p missingName => do
    probabilities path [("required_prob", p.requiredProb), ("unique_prob", p.uniqueProb),
      ("undefined_prob", p.undefinedProb)]
    lengthRange path "min_length_range" p.minLengthRange
    lengthRange path "max_length_range" p.maxLengthRange
    missingName.checkAt (into path "missing_value_name")
    expect (into path "missing_value_name") text missingName
  | .enumIntegerFieldType p labelName missingName => do
    probabilities path [("no_label_prob", p.noLabelProb), ("required_prob", p.requiredProb),
      ("unique_prob", p.uniqueProb), ("ordered_prob", p.orderedProb),
      ("undefined_prob", p.undefinedProb)]
    intRange path "level_start_range" p.levelStartRange
    levelCount path p.levelCountRange
    -- each range may be in order while the last level is no longer an integer
    if levelsOverflow p then refuse path "level_start_range" .levelsOverflow
    labelName.checkAt (into path "label_name")
    expect (into path "label_name") text labelName
    missingName.checkAt (into path "missing_value_name")
    expect (into path "missing_value_name") text missingName
  | .enumStringFieldType p labelName missingName => do
    probabilities path [("required_prob", p.requiredProb), ("unique_prob", p.uniqueProb),
      ("ordered_prob", p.orderedProb), ("undefined_prob", p.undefinedProb)]
    levelCount path p.levelCountRange
    labelName.checkAt (into path "label_name")
    expect (into path "label_name") text labelName
    missingName.checkAt (into path "missing_value_name")
    expect (into path "missing_value_name") text missingName
  | .metaGroup groupName count fieldName title description undefinedProb => do
    probability path "undefined_prob" undefinedProb
    lengthRange path "n_range" count
    groupName.checkAt (into path "group_name")
    expect (into path "group_name") text groupName
    fieldName.checkAt (into path "field_name")
    expect (into path "field_name") text fieldName
    title.checkAt (into path "title")
    expect (into path "title") text title
    description.checkAt (into path "description")
    expect (into path "description") text description
  | .fieldGroup groupMeta fieldType => do
    groupMeta.checkAt (into path "group_meta")
    expect (into path "group_meta") metaSeq groupMeta
    fieldType.checkAt (into path "field_type")
    expect (into path "field_type") .fieldType fieldType
  -- like any field group, but all columns have levels that are integers, so its slot is narrower
  | .likertFieldGroup groupMeta fieldType => do
    groupMeta.checkAt (into path "group_meta")
    expect (into path "group_meta") metaSeq groupMeta
    fieldType.checkAt (into path "field_type")
    expect (into path "field_type") (.prim .integerFieldType) fieldType
  | .tableSchema fields rows missingName _ undefinedProb => do
    probability path "undefined_prob" undefinedProb
    size path "n_rows" rows
    FieldGroups.checkAt (into path "fields") fields
    missingName.checkAt (into path "missing_value_name")
    expect (into path "missing_value_name") text missingName
  | .tableResource name description schema => do
    name.checkAt (into path "name")
    expect (into path "name") text name
    description.checkAt (into path "description")
    expect (into path "description") optionalText description
    schema.checkAt (into path "table_schema")
    expect (into path "table_schema") (.prim .tableSchema) schema
  | .package name description resource resources => do
    size path "n_resources" resources
    -- a range that begins at zero would now and then give a package of no tables
    if resources.min = 0 then refuse path "n_resources" .noResources
    name.checkAt (into path "name")
    expect (into path "name") text name
    description.checkAt (into path "description")
    expect (into path "description") optionalText description
    resource.checkAt (into path "resource")
    expect (into path "resource") (.prim .tableResource) resource
  termination_by structural n => n

/-- Checks nodes that stand in a list, counted from `index`, and what their slots expect: each node
    by itself first, then its type. -/
def Node.checkEach (path : NodePath) (index : Nat) (expected : TypeDesc) :
    List Node → Except CheckError Unit
  | [] => .ok ()
  | n :: rest => do
    n.checkAt (path ++ [.place index])
    expect (path ++ [.place index]) expected n
    Node.checkEach path (index + 1) expected rest
  termination_by structural ns => ns

/-- Checks the field groups of a schema: there is one, and each draws columns. -/
def FieldGroups.checkAt (path : NodePath) : FieldGroups → Except CheckError Unit
  | .one node => do
    node.checkAt path
    expect path fieldSeq node
  | .many nodes => do
    if nodes.isEmpty then throw (.invalid path .noFieldGroups)
    Node.checkEach path 0 fieldSeq nodes
  termination_by structural g => g

end

/-- Checks a whole tree, from its root on. -/
def Node.check (n : Node) : Except CheckError Unit := n.checkAt []

end SyntheticTables
