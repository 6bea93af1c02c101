/-
  What the check of a configuration tree stands for.

  `Node.WellFormed` says it without an order and without paths: the parameters describe domains
  that are not empty and whose ends are in order, and every child draws values of a type its slot
  accepts.  `Node.checkAt_eq_ok_iff` is the equivalence; that a path does not matter for it is what
  lets a subtree be checked on its own.
-/
import SyntheticTables.Proofs.Checks
import SyntheticTables.Config.Check

namespace SyntheticTables

/-! ## Parameters -/

/-- A number that can be a probability; `NaN` cannot. -/
def IsProbability (x : Float) : Prop := 0.0 ≤ x ∧ x ≤ 1.0

/-- The ends of a range of integers are in order, so it is not empty. -/
def IntRange.Ordered (r : IntRange) : Prop := r.min ≤ r.max

/-- The ends of a range of floats are finite and in order. -/
def FloatRange.Ordered (r : FloatRange) : Prop :=
  r.min.isFinite = true ∧ r.max.isFinite = true ∧ ¬ r.max < r.min

/-- The ends of a range of sizes are in order. -/
def SizeSpec.Ordered (s : SizeSpec) : Prop := s.min ≤ s.max

/-- A range of lengths, none of which is negative. -/
def IntRange.OfLengths (r : IntRange) : Prop := r.Ordered ∧ 0 ≤ r.min

/-- A range of numbers of levels, each at least one. -/
def IntRange.OfLevels (r : IntRange) : Prop := r.Ordered ∧ 1 ≤ r.min

/-- The values of the node belong to the type its slot expects: its declared type may stand in for
    that. -/
def Node.Fits (n : Node) (expected : TypeDesc) : Prop := n.declaredType.satisfies expected = true

namespace Check

variable {path : NodePath} {name : String}

/-- The check of a probability accepts the probabilities. -/
theorem probability_eq_ok_iff {x : Float} :
    probability path name x = .ok () ↔ IsProbability x := by
  unfold probability refuse IsProbability
  split <;> simp [*]

/-- Several probabilities are accepted if each is. -/
theorem probabilities_eq_ok_iff {ps : List (String × Float)} :
    probabilities path ps = .ok () ↔ ∀ x ∈ ps.map (·.2), IsProbability x := by
  induction ps with
  | nil => simp [probabilities]
  | cons p rest ih =>
    simp only [probabilities, seq_eq_ok_iff, probability_eq_ok_iff, ih, List.map_cons,
      List.mem_cons, forall_eq_or_imp]

/-- The check of a range of integers accepts those in order. -/
theorem intRange_eq_ok_iff {r : IntRange} : intRange path name r = .ok () ↔ r.Ordered := by
  simp only [intRange, refuse, refuse_eq_ok_iff, Int64.not_lt, IntRange.Ordered, and_true]

/-- The check of a range of lengths accepts those in order that begin at zero or later. -/
theorem lengthRange_eq_ok_iff {r : IntRange} : lengthRange path name r = .ok () ↔ r.OfLengths := by
  simp only [lengthRange, seq_eq_ok_iff, intRange_eq_ok_iff, refuse, refuse_eq_ok_iff, Int64.not_lt,
    pure_eq_ok_iff, IntRange.OfLengths, and_true]

/-- The check of a number of levels accepts those in order that begin at one or later. -/
theorem levelCount_eq_ok_iff {r : IntRange} : levelCount path r = .ok () ↔ r.OfLevels := by
  simp only [levelCount, seq_eq_ok_iff, intRange_eq_ok_iff, refuse, refuse_eq_ok_iff, Int64.not_lt,
    pure_eq_ok_iff, IntRange.OfLevels, and_true]

/-- The check of a range of floats accepts those that are finite and in order. -/
theorem floatRange_eq_ok_iff {r : FloatRange} : floatRange path name r = .ok () ↔ r.Ordered := by
  simp only [floatRange, refuse, refuse_eq_ok_iff, FloatRange.Ordered, and_true]
  simp [and_assoc]

/-- The check of sizes accepts those in order. -/
theorem size_eq_ok_iff {s : SizeSpec} : size path name s = .ok () ↔ s.Ordered := by
  simp only [size, refuse, refuse_eq_ok_iff, UInt64.not_lt, SizeSpec.Ordered, and_true]

/-- The check of a number of words accepts those in order that do not begin at zero. -/
theorem wordCount_eq_ok_iff {s : SizeSpec} :
    wordCount path s = .ok () ↔ s.Ordered ∧ s.min ≠ 0 := by
  simp only [wordCount, seq_eq_ok_iff, size_eq_ok_iff, refuse, refuse_eq_ok_iff, pure_eq_ok_iff,
    and_true, ne_eq]

/-- A child is accepted in a slot if its type fits there. -/
theorem expect_eq_ok_iff {expected : TypeDesc} {child : Node} :
    expect path expected child = .ok () ↔ child.Fits expected := by
  unfold expect Node.Fits
  split <;> simp [*]

end Check

/-! ## Nodes -/

open Check (text optionalText metaSeq fieldSeq levelsOverflow)

mutual

/-- The node and everything below it make sense: its parameters do, every child does by itself, and
    every child has a type that its slot accepts. -/
def Node.WellFormed : Node → Prop
  | .word | .missingValueName _ => True
  | .words _ count => count.Ordered ∧ count.min ≠ 0
  | .integer min max => min ≤ max
  | .number min max => FloatRange.Ordered ⟨min, max⟩
  | .boolean prob => IsProbability prob
  | .interval start length => start.Ordered ∧ length.OfLengths
  | .maybe prob child => (∀ p ∈ prob, IsProbability p) ∧ child.WellFormed
  | .choice children => children ≠ [] ∧ Node.AllWellFormed .any children
  | .seq children _ => children ≠ [] ∧ Node.AllWellFormed .any children
  | .batch child count _ => count.Ordered ∧ child.WellFormed
  | .unique child => child.WellFormed
  | .integerFieldType p missingName =>
    (∀ x ∈ [p.requiredProb, p.uniqueProb, p.undefinedProb], IsProbability x) ∧
      p.minimumRange.Ordered ∧ p.maximumRange.Ordered ∧
      missingName.WellFormed ∧ missingName.Fits text
  | .numberFieldType p missingName =>
    (∀ x ∈ [p.requiredProb, p.uniqueProb, p.undefinedProb], IsProbability x) ∧
      p.minimumRange.Ordered ∧ p.maximumRange.Ordered ∧
      missingName.WellFormed ∧ missingName.Fits text
  | .stringFieldType p missingName =>
    (∀ x ∈ [p.requiredProb, p.uniqueProb, p.undefinedProb], IsProbability x) ∧
      p.minLengthRange.OfLengths ∧ p.maxLengthRange.OfLengths ∧
      missingName.WellFormed ∧ missingName.Fits text
  | .enumIntegerFieldType p labelName missingName =>
    (∀ x ∈ [p.noLabelProb, p.requiredProb, p.uniqueProb, p.orderedProb, p.undefinedProb],
        IsProbability x) ∧
      p.levelStartRange.Ordered ∧ p.levelCountRange.OfLevels ∧ levelsOverflow p = false ∧
      labelName.WellFormed ∧ labelName.Fits text ∧
      missingName.WellFormed ∧ missingName.Fits text
  | .enumStringFieldType p labelName missingName =>
    (∀ x ∈ [p.requiredProb, p.uniqueProb, p.orderedProb, p.undefinedProb], IsProbability x) ∧
      p.levelCountRange.OfLevels ∧ labelName.WellFormed ∧ labelName.Fits text ∧
      missingName.WellFormed ∧ missingName.Fits text
  | .metaGroup groupName count fieldName title description undefinedProb =>
    IsProbability undefinedProb ∧ count.OfLengths ∧ groupName.WellFormed ∧ groupName.Fits text ∧
      fieldName.WellFormed ∧ fieldName.Fits text ∧ title.WellFormed ∧ title.Fits text ∧
      description.WellFormed ∧ description.Fits text
  | .fieldGroup groupMeta fieldType =>
    groupMeta.WellFormed ∧ groupMeta.Fits metaSeq ∧
      fieldType.WellFormed ∧ fieldType.Fits .fieldType
  | .likertFieldGroup groupMeta fieldType =>
    groupMeta.WellFormed ∧ groupMeta.Fits metaSeq ∧
      fieldType.WellFormed ∧ fieldType.Fits (.prim .integerFieldType)
  | .tableSchema fields rows missingName _ undefinedProb =>
    IsProbability undefinedProb ∧ rows.Ordered ∧ FieldGroups.WellFormed fields ∧
      missingName.WellFormed ∧ missingName.Fits text
  | .tableResource name description schema =>
    name.WellFormed ∧ name.Fits text ∧ description.WellFormed ∧ description.Fits optionalText ∧
      schema.WellFormed ∧ schema.Fits (.prim .tableSchema)
  | .package name description resource resources =>
    resources.Ordered ∧ resources.min ≠ 0 ∧ name.WellFormed ∧ name.Fits text ∧
      description.WellFormed ∧ description.Fits optionalText ∧
      resource.WellFormed ∧ resource.Fits (.prim .tableResource)
  termination_by structural n => n

/-- All nodes make sense and draw values of the same type. -/
def Node.AllWellFormed (expected : TypeDesc) : List Node → Prop
  | [] => True
  | n :: rest => n.WellFormed ∧ n.Fits expected ∧ Node.AllWellFormed expected rest
  termination_by structural ns => ns

/-- There is a field group, and each draws columns. -/
def FieldGroups.WellFormed : FieldGroups → Prop
  | .one node => node.WellFormed ∧ node.Fits fieldSeq
  | .many nodes => nodes ≠ [] ∧ Node.AllWellFormed fieldSeq nodes
  termination_by structural g => g

end

/-! ## The check -/

section Equivalence

open Check

mutual

/-- The check of a node succeeds at any place exactly when the node makes sense.  By induction on
    the tree; the path is carried along and matters for messages only. -/
theorem Node.checkAt_eq_ok_iff : ∀ (n : Node) (path : NodePath),
    n.checkAt path = .ok () ↔ n.WellFormed
  | .word, _ => by simp [Node.checkAt, Node.WellFormed]
  | .missingValueName _, _ => by simp [Node.checkAt, Node.WellFormed]
  | .words _ count, _ => by simp only [Node.checkAt, Node.WellFormed, wordCount_eq_ok_iff]
  | .integer min max, _ => by
    simp only [Node.checkAt, Node.WellFormed, intRange_eq_ok_iff, IntRange.Ordered]
  | .number min max, _ => by simp only [Node.checkAt, Node.WellFormed, floatRange_eq_ok_iff]
  | .boolean prob, _ => by simp only [Node.checkAt, Node.WellFormed, probability_eq_ok_iff]
  | .interval start length, _ => by
    simp only [Node.checkAt, Node.WellFormed, seq_eq_ok_iff, intRange_eq_ok_iff, refuse,
      refuse_eq_ok_iff, Int64.not_lt, pure_eq_ok_iff, and_true, IntRange.OfLengths]
  | .maybe none child, path => by
    simp [Node.checkAt, Node.WellFormed, Node.checkAt_eq_ok_iff child]
  | .maybe (some prob) child, path => by
    simp [Node.checkAt, Node.WellFormed, seq_eq_ok_iff, probability_eq_ok_iff,
      Node.checkAt_eq_ok_iff child]
  | .choice children, path => by
    simp only [Node.checkAt, Node.WellFormed, throw_eq_error, refuse_seq_eq_ok_iff, List.isEmpty_iff,
      Node.checkEach_eq_ok_iff children, ne_eq]
  | .seq children _, path => by
    simp only [Node.checkAt, Node.WellFormed, throw_eq_error, refuse_seq_eq_ok_iff, List.isEmpty_iff,
      Node.checkEach_eq_ok_iff children, ne_eq]
  | .batch child count _, path => by
    simp only [Node.checkAt, Node.WellFormed, seq_eq_ok_iff, size_eq_ok_iff,
      Node.checkAt_eq_ok_iff child]
  | .unique child, path => by
    simp only [Node.checkAt, Node.WellFormed, Node.checkAt_eq_ok_iff child]
  | .integerFieldType p missingName, path => by
    simp only [Node.checkAt, Node.WellFormed, seq_eq_ok_iff, probabilities_eq_ok_iff, List.map_cons,
      List.map_nil, intRange_eq_ok_iff, expect_eq_ok_iff, Node.checkAt_eq_ok_iff missingName]
  | .numberFieldType p missingName, path => by
    simp only [Node.checkAt, Node.WellFormed, seq_eq_ok_iff, probabilities_eq_ok_iff, List.map_cons,
      List.map_nil, floatRange_eq_ok_iff, expect_eq_ok_iff, Node.checkAt_eq_ok_iff missingName]
  | .stringFieldType p missingName, path => by
    simp only [Node.checkAt, Node.WellFormed, seq_eq_ok_iff, probabilities_eq_ok_iff, List.map_cons,
      List.map_nil, lengthRange_eq_ok_iff, expect_eq_ok_iff, Node.checkAt_eq_ok_iff missingName]
  | .enumIntegerFieldType p labelName missingName, path => by
    simp only [Node.checkAt, Node.WellFormed, seq_eq_ok_iff, probabilities_eq_ok_iff, List.map_cons,
      List.map_nil, intRange_eq_ok_iff, levelCount_eq_ok_iff, refuse, refuse_seq_eq_ok_iff,
      Bool.not_eq_true, expect_eq_ok_iff, Node.checkAt_eq_ok_iff labelName,
      Node.checkAt_eq_ok_iff missingName]
  | .enumStringFieldType p labelName missingName, path => by
    simp only [Node.checkAt, Node.WellFormed, seq_eq_ok_iff, probabilities_eq_ok_iff, List.map_cons,
      List.map_nil, levelCount_eq_ok_iff, expect_eq_ok_iff, Node.checkAt_eq_ok_iff labelName,
      Node.checkAt_eq_ok_iff missingName]
  | .metaGroup groupName count fieldName title description undefinedProb, path => by
    simp only [Node.checkAt, Node.WellFormed, seq_eq_ok_iff, probability_eq_ok_iff,
      lengthRange_eq_ok_iff, expect_eq_ok_iff, Node.checkAt_eq_ok_iff groupName,
      Node.checkAt_eq_ok_iff fieldName, Node.checkAt_eq_ok_iff title,
      Node.checkAt_eq_ok_iff description]
  | .fieldGroup groupMeta fieldType, path => by
    simp only [Node.checkAt, Node.WellFormed, seq_eq_ok_iff, expect_eq_ok_iff,
      Node.checkAt_eq_ok_iff groupMeta, Node.checkAt_eq_ok_iff fieldType]
  | .likertFieldGroup groupMeta fieldType, path => by
    simp only [Node.checkAt, Node.WellFormed, seq_eq_ok_iff, expect_eq_ok_iff,
      Node.checkAt_eq_ok_iff groupMeta, Node.checkAt_eq_ok_iff fieldType]
  | .tableSchema fields rows missingName _ undefinedProb, path => by
    simp only [Node.checkAt, Node.WellFormed, seq_eq_ok_iff, probability_eq_ok_iff, size_eq_ok_iff,
      expect_eq_ok_iff, FieldGroups.checkAt_eq_ok_iff fields, Node.checkAt_eq_ok_iff missingName]
  | .tableResource name description schema, path => by
    simp only [Node.checkAt, Node.WellFormed, seq_eq_ok_iff, expect_eq_ok_iff,
      Node.checkAt_eq_ok_iff name, Node.checkAt_eq_ok_iff description,
      Node.checkAt_eq_ok_iff schema]
  | .package name description resource resources, path => by
    simp only [Node.checkAt, Node.WellFormed, seq_eq_ok_iff, size_eq_ok_iff, refuse,
      refuse_seq_eq_ok_iff, expect_eq_ok_iff, Node.checkAt_eq_ok_iff name,
      Node.checkAt_eq_ok_iff description, Node.checkAt_eq_ok_iff resource, ne_eq]

/-- The same for the nodes in a list, wherever the numbering begins. -/
theorem Node.checkEach_eq_ok_iff : ∀ (ns : List Node) (path : NodePath) (index : Nat)
    (expected : TypeDesc),
    Node.checkEach path index expected ns = .ok () ↔ Node.AllWellFormed expected ns
  | [], _, _, _ => by simp [Node.checkEach, Node.AllWellFormed]
  | n :: rest, path, index, expected => by
    simp only [Node.checkEach, Node.AllWellFormed, seq_eq_ok_iff, expect_eq_ok_iff,
      Node.checkAt_eq_ok_iff n, Node.checkEach_eq_ok_iff rest]

/-- The same for the columns of a schema, which are one node or a list that is not empty. -/
theorem FieldGroups.checkAt_eq_ok_iff : ∀ (g : FieldGroups) (path : NodePath),
    FieldGroups.checkAt path g = .ok () ↔ g.WellFormed
  | .one node, path => by
    simp only [FieldGroups.checkAt, FieldGroups.WellFormed, seq_eq_ok_iff, expect_eq_ok_iff,
      Node.checkAt_eq_ok_iff node]
  | .many nodes, path => by
    simp only [FieldGroups.checkAt, FieldGroups.WellFormed, throw_eq_error, refuse_seq_eq_ok_iff,
      List.isEmpty_iff, Node.checkEach_eq_ok_iff nodes, ne_eq]

end

/-- A tree passes the check exactly when it makes sense. -/
theorem Node.check_eq_ok_iff {n : Node} : n.check = .ok () ↔ n.WellFormed :=
  n.checkAt_eq_ok_iff []

end Equivalence

end SyntheticTables
