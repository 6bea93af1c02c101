/-
  What a node is made of.

  `Node.arguments` lists it under the names of the parameters, in the order in which they are
  declared; putting the node together from it gives the node again (`Node.toNode_arguments`).  What
  is said of a node in its document, of the floats in it or of the nodes below it is said of its
  arguments, one kind of argument at a time instead of one kind of node at a time.
-/
import SyntheticTables.Config.Document
import SyntheticTables.Proofs.Config.WellFormed
import SyntheticTables.Proofs.Float

namespace SyntheticTables

/-! ## Arguments -/

namespace Argument

/-- What a parameter holds that this is an argument for. -/
def type : Argument → ParamType
  | .int _ => .int
  | .count _ => .count
  | .float _ => .float
  | .maybeFloat _ => .maybeFloat
  | .flag _ => .flag
  | .size _ => .size
  | .intRange _ => .intRange
  | .floatRange _ => .floatRange
  | .style _ => .style
  | .node _ => .node
  | .nodes _ => .nodes
  | .fieldGroups _ => .fieldGroups

/-- What is written for an argument; an absent float or style is written as null. -/
def toJson : Argument → Json
  | .int i => .ofInt64 i
  | .count n => .ofUInt64 n
  | .float x => .ofFloat x
  | .maybeFloat x => x.elim .null .ofFloat
  | .flag b => .bool b
  | .size s => s.toJson
  | .intRange r => r.toJson
  | .floatRange r => r.toJson
  | .style s => s.elim .null MissingStyle.toJson
  | .node n => n.toJson
  | .nodes ns => .arr (Node.toJsons ns)
  | .fieldGroups g => Node.groupsToJson g

/-- The floats in an argument. -/
def floats : Argument → List Float
  | .float x => [x]
  | .maybeFloat x => x.toList
  | .floatRange r => [r.min, r.max]
  | _ => []

/-- The nodes in an argument. -/
def children : Argument → List Node
  | .node n => [n]
  | .nodes ns => ns
  | .fieldGroups (.many ns) => ns
  | .fieldGroups (.one n) => [n]
  | _ => []

end Argument

namespace Node

/-- The two parameters for missing values, which stand last wherever a node has them. -/
def missingArguments (missingName : Node) (missingMax : UInt64) : Arguments := [
  ("missing_value_name", .node missingName), ("missing_value_length_max", .count missingMax)]

/-- The arguments of a node; one that says nothing is left out. -/
def arguments : Node → Arguments
  | .word => []
  | .words _ count => [("n_words", .size count)]
  | .integer min max => [("min", .int min), ("max", .int max)]
  | .number min max => [("min", .float min), ("max", .float max)]
  | .boolean prob => [("prob", .float prob)]
  | .interval start length => [
    ("start_min", .int start.min), ("start_max", .int start.max), ("length_min", .int length.min),
    ("length_max", .int length.max)]
  | .missingValueName style => (style.map fun s => ("style", .style (some s))).toList
  | .maybe prob child =>
    (prob.map fun x => ("prob", .maybeFloat (some x))).toList ++ [("child", .node child)]
  | .choice children => [("children", .nodes children)]
  | .seq children distinct => [("children", .nodes children), ("unique", .flag distinct)]
  | .batch child size distinct => [
    ("child", .node child), ("size", .size size), ("unique", .flag distinct)]
  | .unique child => [("child", .node child)]
  | .integerFieldType p missingName => [
    ("required_prob", .float p.requiredProb), ("unique_prob", .float p.uniqueProb),
    ("undefined_prob", .float p.undefinedProb), ("minimum_range", .intRange p.minimumRange),
    ("maximum_range", .intRange p.maximumRange)] ++ missingArguments missingName p.missingMax
  | .enumIntegerFieldType p labelName missingName => [
    ("level_start_range", .intRange p.levelStartRange),
    ("n_levels_range", .intRange p.levelCountRange), ("label_name", .node labelName),
    ("no_label_prob", .float p.noLabelProb), ("required_prob", .float p.requiredProb),
    ("unique_prob", .float p.uniqueProb), ("ordered_prob", .float p.orderedProb),
    ("undefined_prob", .float p.undefinedProb)] ++ missingArguments missingName p.missingMax
  | .numberFieldType p missingName => [
    ("required_prob", .float p.requiredProb), ("unique_prob", .float p.uniqueProb),
    ("undefined_prob", .float p.undefinedProb), ("minimum_range", .floatRange p.minimumRange),
    ("maximum_range", .floatRange p.maximumRange)] ++ missingArguments missingName p.missingMax
  | .stringFieldType p missingName => [
    ("required_prob", .float p.requiredProb), ("unique_prob", .float p.uniqueProb),
    ("undefined_prob", .float p.undefinedProb), ("min_length_range", .intRange p.minLengthRange),
    ("max_length_range", .intRange p.maxLengthRange)] ++ missingArguments missingName p.missingMax
  | .enumStringFieldType p labelName missingName => [
    ("label_name", .node labelName), ("n_levels_range", .intRange p.levelCountRange),
    ("required_prob", .float p.requiredProb), ("unique_prob", .float p.uniqueProb),
    ("ordered_prob", .float p.orderedProb), ("undefined_prob", .float p.undefinedProb)]
      ++ missingArguments missingName p.missingMax
  | .metaGroup groupName count fieldName title description undefinedProb => [
    ("group_name", .node groupName), ("n_range", .intRange count), ("field_name", .node fieldName),
    ("title", .node title), ("description", .node description),
    ("undefined_prob", .float undefinedProb)]
  | .fieldGroup groupMeta fieldType => [
    ("group_meta", .node groupMeta), ("field_type", .node fieldType)]
  | .likertFieldGroup groupMeta fieldType => [
    ("group_meta", .node groupMeta), ("field_type", .node fieldType)]
  | .tableSchema fields rows missingName missingMax undefinedProb =>
    [("fields", .fieldGroups fields), ("n_rows", .size rows)]
      ++ missingArguments missingName missingMax ++ [("undefined_prob", .float undefinedProb)]
  | .tableResource name description schema => [
    ("name", .node name), ("description", .node description), ("table_schema", .node schema)]
  | .package name description resource resources => [
    ("name", .node name), ("description", .node description), ("resource", .node resource),
    ("n_resources", .size resources)]

/-! ## One kind of node at a time -/

/-- A node put together from its own arguments is the node again; what was left out is the default
    of its parameter. -/
theorem toNode_arguments (n : Node) : n.arguments.toNode n.kind = n := by
  cases n with
  | words joiner count => cases joiner <;> rfl
  | missingValueName style => cases style <;> rfl
  | maybe prob child => cases prob <;> rfl
  | _ => rfl

/-- No argument is missing that the node's kind needs. -/
theorem missing?_arguments (n : Node) : n.kind.missing? n.arguments = none := by
  cases n with
  | missingValueName style => cases style <;> rfl
  | maybe prob child => cases prob <;> rfl
  | _ => rfl

/-- The document of a node is its tag and what is written for its arguments. -/
theorem toJson_eq (n : Node) :
    n.toJson = .obj (("type", .str n.tag) :: n.arguments.map fun a => (a.1, a.2.toJson)) := by
  cases n with
  | missingValueName style => cases style <;> rfl
  | maybe prob child => cases prob <;> rfl
  | _ => rfl

/-- Arguments are for parameters of the kind, in their order.  Only a style and a probability may be
    left out, so for all other kinds the two lists are the same. -/
theorem arguments_sublist (n : Node) : (n.arguments.map fun a => (a.1, a.2.type)).Sublist
    (n.kind.params.map fun p => (p.name, p.type)) := by
  cases n with
  | missingValueName style =>
    cases style with
    | none => exact List.nil_sublist _
    | some s => exact List.Sublist.refl _
  | maybe prob child =>
    cases prob with
    | none => exact List.sublist_cons_self _ _
    | some x => exact List.Sublist.refl _
  | _ => exact List.Sublist.refl _

/-- The nodes right below a node. -/
def children (n : Node) : List Node := n.arguments.flatMap fun a => a.2.children

section Children

variable (n m : Node)

@[simp] theorem children_maybe (prob : Option Float) : (maybe prob n).children = [n] := by
  cases prob <;> rfl

/-- The children of a node, kind by kind, in the order of its parameters. -/
@[simp] theorem children_choice (ns : List Node) : (choice ns).children = ns := by
  simp [children, arguments, Argument.children]

@[simp] theorem children_seq (ns : List Node) (distinct : Bool) :
    (seq ns distinct).children = ns := by
  simp [children, arguments, Argument.children]

@[simp] theorem children_batch (size : SizeSpec) (distinct : Bool) :
    (batch n size distinct).children = [n] := rfl

@[simp] theorem children_unique : (unique n).children = [n] := rfl

@[simp] theorem children_integerFieldType (p : IntegerTypeParams) :
    (integerFieldType p n).children = [n] := rfl

@[simp] theorem children_numberFieldType (p : NumberTypeParams) :
    (numberFieldType p n).children = [n] := rfl

@[simp] theorem children_stringFieldType (p : StringTypeParams) :
    (stringFieldType p n).children = [n] := rfl

@[simp] theorem children_enumIntegerFieldType (p : EnumIntegerTypeParams) :
    (enumIntegerFieldType p n m).children = [n, m] := rfl

@[simp] theorem children_enumStringFieldType (p : EnumStringTypeParams) :
    (enumStringFieldType p n m).children = [n, m] := rfl

@[simp] theorem children_metaGroup (count : IntRange) (title description : Node)
    (undefinedProb : Float) :
    (metaGroup n count m title description undefinedProb).children = [n, m, title, description] := rfl

@[simp] theorem children_fieldGroup : (fieldGroup n m).children = [n, m] := rfl

@[simp] theorem children_likertFieldGroup : (likertFieldGroup n m).children = [n, m] := rfl

/-- The columns of a schema come before the node for its missing values. -/
@[simp] theorem children_tableSchema (fields : FieldGroups) (rows : SizeSpec) (max : UInt64)
    (undefinedProb : Float) : (tableSchema fields rows n max undefinedProb).children
      = (Argument.fieldGroups fields).children ++ [n] := by
  cases fields <;> simp [children, arguments, missingArguments, Argument.children]

@[simp] theorem children_tableResource (schema : Node) :
    (tableResource n m schema).children = [n, m, schema] := rfl

@[simp] theorem children_package (resource : Node) (count : SizeSpec) :
    (package n m resource count).children = [n, m, resource] := rfl

end Children

/-- A node is larger than each node right below it, also where these stand in lists.  Inductions on
    nodes by their children rest on this. -/
theorem sizeOf_lt_of_mem_children (n : Node) : ∀ m ∈ n.children, sizeOf m < sizeOf n := by
  -- the lists are arguments themselves, which count as one more
  have hlist : ∀ {ns : List Node} {m : Node}, m ∈ ns → sizeOf m < 1 + sizeOf ns := by
    intro ns m hm
    have := List.sizeOf_lt_of_mem hm
    omega
  unfold children
  cases n with
  | choice nodes =>
    intro m hm
    have hm : m ∈ nodes := by simpa [arguments, Argument.children] using hm
    simpa using hlist hm
  | seq nodes distinct =>
    intro m hm
    have hm : m ∈ nodes := by simpa [arguments, Argument.children] using hm
    have hlt := hlist hm
    simp only [seq.sizeOf_spec]
    omega
  | missingValueName style => cases style <;> simp [arguments, Argument.children]
  | maybe prob child =>
    intro m hm
    obtain rfl : m = child := by cases prob <;> simpa [arguments, Argument.children] using hm
    simp only [maybe.sizeOf_spec]
    omega
  | tableSchema fields rows missingName missingMax undefinedProb =>
    cases fields with
    | many nodes =>
      intro m hm
      have hm : m ∈ nodes ∨ m = missingName := by
        simpa [arguments, missingArguments, Argument.children] using hm
      simp only [tableSchema.sizeOf_spec, FieldGroups.many.sizeOf_spec]
      rcases hm with hm | rfl
      · have hlt := hlist hm
        omega
      · omega
    | one node =>
      intro m hm
      have hm : m = node ∨ m = missingName := by
        simpa [arguments, missingArguments, Argument.children] using hm
      simp only [tableSchema.sizeOf_spec, FieldGroups.one.sizeOf_spec]
      rcases hm with rfl | rfl <;> omega
  | _ => simp [arguments, missingArguments, Argument.children] <;> omega

/-- What holds of a node as soon as it holds of the nodes right below it holds of all nodes.  Unlike
    the recursor, this has a single case for all kinds. -/
theorem children_induction {P : Node → Prop} (h : ∀ n, (∀ m ∈ n.children, P m) → P n) (n : Node) :
    P n :=
  h n fun m _ => children_induction h m
  termination_by sizeOf n
  decreasing_by exact sizeOf_lt_of_mem_children n m ‹_›

/-! ## Nodes that make sense -/

/-- A list of nodes makes sense if each of them does and fits. -/
theorem allWellFormed_iff {expected : TypeDesc} {ns : List Node} :
    AllWellFormed expected ns ↔ ∀ n ∈ ns, n.WellFormed ∧ n.Fits expected := by
  induction ns with
  | nil => simp [AllWellFormed]
  | cons n rest ih => simp [AllWellFormed, ih, and_assoc]

/-- What stands below a node that makes sense makes sense.  The demands on a node are spelled out
    for each kind, and this lemma takes those on its children out of them for all kinds at once. -/
theorem WellFormed.children {n : Node} (h : n.WellFormed) : ∀ m ∈ n.children, m.WellFormed := by
  unfold Node.children
  cases n with
  | choice nodes =>
    intro m hm
    have hm : m ∈ nodes := by simpa [arguments, Argument.children] using hm
    exact (allWellFormed_iff.mp h.2 m hm).1
  | seq nodes distinct =>
    intro m hm
    have hm : m ∈ nodes := by simpa [arguments, Argument.children] using hm
    exact (allWellFormed_iff.mp h.2 m hm).1
  | missingValueName style => cases style <;> simp [arguments, Argument.children]
  | maybe prob child => cases prob <;> simpa [arguments, Argument.children] using h.2
  -- the one kind with children in two forms: a node for all field groups, or a list of them
  | tableSchema fields rows missingName missingMax undefinedProb =>
    obtain ⟨-, -, hfields, hmissing, -⟩ := h
    cases fields with
    | many nodes =>
      intro m hm
      have hm : m ∈ nodes ∨ m = missingName := by
        simpa [arguments, missingArguments, Argument.children] using hm
      rcases hm with hm | rfl
      · exact (allWellFormed_iff.mp hfields.2 m hm).1
      · exact hmissing
    | one node => simp [arguments, missingArguments, Argument.children, hfields.1, hmissing]
  | _ => simp_all [WellFormed, arguments, missingArguments, Argument.children]

/-- The check keeps out floats that are not finite: a probability lies between finite floats, and
    the ends of a range are checked. -/
theorem WellFormed.isFinite {n : Node} (h : n.WellFormed) :
    ∀ a ∈ n.arguments, ∀ x ∈ a.2.floats, x.isFinite = true := by
  have hprob : ∀ {x : Float}, IsProbability x → x.isFinite = true := fun h =>
    isFinite_of_le (by decide +kernel) (by decide +kernel) h.1 h.2
  cases n with
  | missingValueName style => cases style <;> simp [arguments, Argument.floats]
  | maybe prob child =>
    cases prob with
    | none => simp [arguments, Argument.floats]
    | some x => simpa [arguments, Argument.floats] using hprob (h.1 x rfl)
  | _ =>
    simp_all [WellFormed, FloatRange.Ordered, arguments, missingArguments, Argument.floats]

end Node

end SyntheticTables
