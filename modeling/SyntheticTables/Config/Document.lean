/-
  Configuration trees as documents.

  A node is an object whose member `type` names its kind, or a list that starts with that name.  The
  parameters of each kind stand in one table (`Kind.params`); reading, the texts of its errors and
  the published schema all go by it.  A parameter that is left out takes its default, and
  `Node.toJson` writes every default out.

  In the text of a document the root is read in a way of its own: a `type` that is wrong or repeated
  ends the reading at once, while everything else in the root is read to its end before the first
  parameter is looked at.
-/
import SyntheticTables.Config.Node
import SyntheticTables.Json.Reader

namespace SyntheticTables

open Json (Origin optional)

/-! ## The parameters of each kind -/

/-- What a parameter holds, which decides how its member is read and what the schema says about
    it. -/
inductive ParamType where
  | int
  | count
  | float
  | maybeFloat
  | flag
  | size
  | intRange
  | floatRange
  | style
  | node
  | nodes
  | fieldGroups
  deriving DecidableEq, Inhabited

/-- A parameter of a kind of node: the name of its member, another name it may go by, and whether it
    may be left out. -/
structure Param where
  name : String
  type : ParamType
  /-- Another name it goes by. -/
  otherName : Option String := none
  /-- Whether the node cannot do without it. -/
  required : Bool := false
  deriving Inhabited

/-- The names of a parameter in the order a message lists them. -/
def Param.names (p : Param) : List String := p.otherName.toList ++ [p.name]

namespace Kind

/-- The two parameters about tokens for missing values, which all kinds of columns and the tables
    have. -/
def missingParams : List Param := [⟨"missing_value_name", .node, none, false⟩,
  ⟨"missing_value_length_max", .count, none, false⟩]

/-- The parameters of a kind in the order they are declared, in which lists give their values and in
    which missing ones are found out. -/
def params : Kind → List Param
  | .word => []
  | .words _ => [⟨"n_words", .size, none, false⟩]
  | .integer => [⟨"min", .int, none, false⟩, ⟨"max", .int, none, false⟩]
  | .number => [⟨"min", .float, none, false⟩, ⟨"max", .float, none, false⟩]
  | .boolean => [⟨"prob", .float, none, false⟩]
  | .interval => [
    ⟨"start_min", .int, none, false⟩, ⟨"start_max", .int, none, false⟩,
    ⟨"length_min", .int, none, false⟩, ⟨"length_max", .int, none, false⟩]
  | .missingValueName => [⟨"style", .style, none, false⟩]
  | .maybe => [⟨"prob", .maybeFloat, none, false⟩, ⟨"child", .node, none, true⟩]
  | .choice => [⟨"children", .nodes, none, true⟩]
  | .seq => [⟨"children", .nodes, none, true⟩, ⟨"unique", .flag, none, false⟩]
  | .batch => [
    ⟨"child", .node, none, true⟩, ⟨"size", .size, none, true⟩, ⟨"unique", .flag, none, false⟩]
  | .unique => [⟨"child", .node, none, true⟩]
  | .integerFieldType => [
    ⟨"required_prob", .float, none, false⟩, ⟨"unique_prob", .float, none, false⟩,
    ⟨"undefined_prob", .float, none, false⟩, ⟨"minimum_range", .intRange, none, false⟩,
    ⟨"maximum_range", .intRange, none, false⟩] ++ missingParams
  | .enumIntegerFieldType => [
    ⟨"level_start_range", .intRange, none, false⟩, ⟨"n_levels_range", .intRange, none, false⟩,
    ⟨"label_name", .node, none, false⟩, ⟨"no_label_prob", .float, none, false⟩,
    ⟨"required_prob", .float, none, false⟩, ⟨"unique_prob", .float, none, false⟩,
    ⟨"ordered_prob", .float, none, false⟩, ⟨"undefined_prob", .float, none, false⟩]
      ++ missingParams
  | .numberFieldType => [
    ⟨"required_prob", .float, none, false⟩, ⟨"unique_prob", .float, none, false⟩,
    ⟨"undefined_prob", .float, none, false⟩, ⟨"minimum_range", .floatRange, none, false⟩,
    ⟨"maximum_range", .floatRange, none, false⟩] ++ missingParams
  | .stringFieldType => [
    ⟨"required_prob", .float, none, false⟩, ⟨"unique_prob", .float, none, false⟩,
    ⟨"undefined_prob", .float, none, false⟩,
    ⟨"min_length_range", .intRange, some "minLength_range", false⟩,
    ⟨"max_length_range", .intRange, some "maxLength_range", false⟩] ++ missingParams
  | .enumStringFieldType => [
    ⟨"label_name", .node, none, false⟩, ⟨"n_levels_range", .intRange, none, false⟩,
    ⟨"required_prob", .float, none, false⟩, ⟨"unique_prob", .float, none, false⟩,
    ⟨"ordered_prob", .float, none, false⟩, ⟨"undefined_prob", .float, none, false⟩]
      ++ missingParams
  | .metaGroup => [
    ⟨"group_name", .node, none, false⟩, ⟨"n_range", .intRange, none, false⟩,
    ⟨"field_name", .node, none, false⟩, ⟨"title", .node, none, false⟩,
    ⟨"description", .node, none, false⟩, ⟨"undefined_prob", .float, none, false⟩]
  | .fieldGroup | .likertFieldGroup => [
    ⟨"group_meta", .node, none, false⟩, ⟨"field_type", .node, none, false⟩]
  | .tableSchema => [
    ⟨"fields", .fieldGroups, none, false⟩, ⟨"n_rows", .size, some "n_rows_range", false⟩]
      ++ missingParams ++ [⟨"undefined_prob", .float, none, false⟩]
  | .tableResource => [
    ⟨"name", .node, none, false⟩, ⟨"description", .node, none, false⟩,
    ⟨"table_schema", .node, none, false⟩]
  | .package => [
    ⟨"name", .node, none, false⟩, ⟨"description", .node, none, false⟩,
    ⟨"resource", .node, none, false⟩, ⟨"n_resources", .size, none, false⟩]

/-- The name of a parameter list that cannot be left empty, as messages about its length give it. -/
def shapeName : Kind → String
  | .maybe => "MaybeCfg"
  | .choice => "ChoiceCfg"
  | .seq => "SeqCfg"
  | .batch => "BatchCfg"
  | .unique => "UniqueCfg"
  | k => k.tag

end Kind

/-! ## Arguments -/

/-- What was read for a parameter, in the form that its `ParamType` asks for. -/
inductive Argument where
  | int (i : Int64)
  | count (n : UInt64)
  | float (x : Float)
  | maybeFloat (x : Option Float)
  | flag (b : Bool)
  | size (s : SizeSpec)
  | intRange (r : IntRange)
  | floatRange (r : FloatRange)
  | style (s : Option MissingStyle)
  | node (n : Node)
  | nodes (ns : List Node)
  | fieldGroups (g : FieldGroups)
  deriving Inhabited

/-- Arguments under the names of their parameters. -/
abbrev Arguments := List (String × Argument)

namespace Arguments

/-- The argument under a name, if the document has one. -/
def find? (args : Arguments) (name : String) : Option Argument :=
  (List.find? (·.1 = name) args).map (·.2)

/-- An integer argument, or the default of the parameter.  So with the following: what the document
    does not give is filled in here. -/
def int (args : Arguments) (name : String) (default : Int64) : Int64 :=
  match args.find? name with
  | some (.int i) => i
  | _ => default

/-- The argument under this name if it is a count, else its default. -/
def count (args : Arguments) (name : String) (default : UInt64) : UInt64 :=
  match args.find? name with
  | some (.count n) => n
  | _ => default

/-- The argument under this name if it is a float, else its default. -/
def float (args : Arguments) (name : String) (default : Float) : Float :=
  match args.find? name with
  | some (.float x) => x
  | _ => default

/-- The argument under this name if it is an optional float; left out and `null` are the same. -/
def maybeFloat (args : Arguments) (name : String) : Option Float :=
  match args.find? name with
  | some (.maybeFloat x) => x
  | _ => none

/-- The argument under this name if it is a flag, else false: flags are off unless they are set. -/
def flag (args : Arguments) (name : String) : Bool :=
  match args.find? name with
  | some (.flag b) => b
  | _ => false

/-- The argument under this name if it is a number of something, else its default. -/
def size (args : Arguments) (name : String) (default : SizeSpec) : SizeSpec :=
  match args.find? name with
  | some (.size s) => s
  | _ => default

/-- The argument under this name if it is a range of integers, else its default. -/
def intRange (args : Arguments) (name : String) (default : IntRange) : IntRange :=
  match args.find? name with
  | some (.intRange r) => r
  | _ => default

/-- The argument under this name if it is a range of floats, else its default. -/
def floatRange (args : Arguments) (name : String) (default : FloatRange) : FloatRange :=
  match args.find? name with
  | some (.floatRange r) => r
  | _ => default

/-- The argument under this name if it is a style; without one the style is left to the run. -/
def style (args : Arguments) (name : String) : Option MissingStyle :=
  match args.find? name with
  | some (.style s) => s
  | _ => none

/-- The argument under this name if it is a node, else the default tree. -/
def node (args : Arguments) (name : String) (default : Node) : Node :=
  match args.find? name with
  | some (.node n) => n
  | _ => default

/-- The nodes under this name; a kind that needs some says so in its `Param`. -/
def nodes (args : Arguments) (name : String) : List Node :=
  match args.find? name with
  | some (.nodes ns) => ns
  | _ => []

/-- The argument under this name if it is field groups, else the default ones. -/
def fieldGroups (args : Arguments) (name : String) (default : FieldGroups) : FieldGroups :=
  match args.find? name with
  | some (.fieldGroups g) => g
  | _ => default

/-- The node of a kind with these arguments, and defaults for the others.  The defaults stand here
    and nowhere else. -/
def toNode (a : Arguments) : Kind → Node
  | .word => .word
  | .words .sentence => .words .sentence (a.size "n_words" (.fixed 10))
  | .words joiner => .words joiner (a.size "n_words" (.range 1 3))
  | .integer => .integer (a.int "min" 0) (a.int "max" 1000)
  | .number => .number (a.float "min" 0) (a.float "max" 1000)
  | .boolean => .boolean (a.float "prob" 0.5)
  | .interval =>
    .interval ⟨a.int "start_min" 0, a.int "start_max" 1000⟩
      ⟨a.int "length_min" 0, a.int "length_max" 10⟩
  | .missingValueName => .missingValueName (a.style "style")
  | .maybe => .maybe (a.maybeFloat "prob") (a.node "child" .word)
  | .choice => .choice (a.nodes "children")
  | .seq => .seq (a.nodes "children") (a.flag "unique")
  | .batch => .batch (a.node "child" .word) (a.size "size" (.fixed 0)) (a.flag "unique")
  | .unique => .unique (a.node "child" .word)
  | .integerFieldType =>
    .integerFieldType
      { requiredProb := a.float "required_prob" 0.5
        uniqueProb := a.float "unique_prob" 0.5
        undefinedProb := a.float "undefined_prob" 0.5
        minimumRange := a.intRange "minimum_range" ⟨0, 1000⟩
        maximumRange := a.intRange "maximum_range" ⟨0, 1000⟩
        missingMax := a.count "missing_value_length_max" 5 }
      (a.node "missing_value_name" Node.defaultMissingName)
  | .enumIntegerFieldType =>
    .enumIntegerFieldType
      { levelStartRange := a.intRange "level_start_range" ⟨2, 10⟩
        levelCountRange := a.intRange "n_levels_range" ⟨2, 10⟩
        noLabelProb := a.float "no_label_prob" 0.2
        requiredProb := a.float "required_prob" 0.5
        uniqueProb := a.float "unique_prob" 0.5
        orderedProb := a.float "ordered_prob" 0.5
        undefinedProb := a.float "undefined_prob" 0.5
        missingMax := a.count "missing_value_length_max" 5 }
      (a.node "label_name" (Node.defaultName .snakeCaseCaps))
      (a.node "missing_value_name" Node.defaultMissingName)
  | .numberFieldType =>
    .numberFieldType
      { requiredProb := a.float "required_prob" 0.5
        uniqueProb := a.float "unique_prob" 0.5
        undefinedProb := a.float "undefined_prob" 0.5
        minimumRange := a.floatRange "minimum_range" ⟨0, 1000⟩
        maximumRange := a.floatRange "maximum_range" ⟨0, 1000⟩
        missingMax := a.count "missing_value_length_max" 5 }
      (a.node "missing_value_name" Node.defaultMissingName)
  | .stringFieldType =>
    .stringFieldType
      { requiredProb := a.float "required_prob" 0.5
        uniqueProb := a.float "unique_prob" 0.5
        undefinedProb := a.float "undefined_prob" 0.5
        minLengthRange := a.intRange "min_length_range" ⟨0, 20⟩
        maxLengthRange := a.intRange "max_length_range" ⟨10, 30⟩
        missingMax := a.count "missing_value_length_max" 5 }
      (a.node "missing_value_name" Node.defaultMissingName)
  | .enumStringFieldType =>
    .enumStringFieldType
      { levelCountRange := a.intRange "n_levels_range" ⟨2, 10⟩
        requiredProb := a.float "required_prob" 0.5
        uniqueProb := a.float "unique_prob" 0.5
        orderedProb := a.float "ordered_prob" 0.5
        undefinedProb := a.float "undefined_prob" 0.5
        missingMax := a.count "missing_value_length_max" 5 }
      (a.node "label_name" (Node.defaultName .snakeCaseCaps))
      (a.node "missing_value_name" Node.defaultMissingName)
  | .metaGroup =>
    .metaGroup (a.node "group_name" (Node.defaultName .camelCase))
      (a.intRange "n_range" ⟨3, 15⟩)
      (a.node "field_name" (Node.defaultName .camelCase))
      (a.node "title" Node.defaultSentence)
      (a.node "description" Node.defaultSentence)
      (a.float "undefined_prob" 0.5)
  | .fieldGroup =>
    .fieldGroup (a.node "group_meta" Node.defaultMetaGroup)
      (a.node "field_type" Node.defaultFieldType)
  | .likertFieldGroup =>
    .likertFieldGroup (a.node "group_meta" Node.defaultMetaGroup)
      (a.node "field_type" Node.defaultIntegerFieldType)
  | .tableSchema =>
    .tableSchema (a.fieldGroups "fields" (.one Node.defaultFieldGroup))
      (a.size "n_rows" (.range 10 1000))
      (a.node "missing_value_name" Node.defaultMissingName)
      (a.count "missing_value_length_max" 5)
      (a.float "undefined_prob" 0.5)
  | .tableResource =>
    .tableResource (a.node "name" (Node.defaultName .kebabCase))
      (a.node "description" Node.defaultSentence)
      (a.node "table_schema" Node.defaultTableSchema)
  | .package =>
    .package (a.node "name" (Node.defaultName .kebabCase))
      (a.node "description" Node.defaultSentence)
      (a.node "resource" Node.defaultTableResource)
      (a.size "n_resources" (.range 1 5))

end Arguments

/-! ## Writing -/

/-- A fixed number as a number, a range as a pair. -/
def SizeSpec.toJson : SizeSpec → Json
  | .fixed n => .ofUInt64 n
  | .range min max => .arr [.ofUInt64 min, .ofUInt64 max]

/-- A range of integers as a pair. -/
def IntRange.toJson (r : IntRange) : Json := .arr [.ofInt64 r.min, .ofInt64 r.max]

/-- A range of floats as a pair. -/
def FloatRange.toJson (r : FloatRange) : Json := .arr [.ofFloat r.min, .ofFloat r.max]

/-- A style under its own name, in small letters. -/
def MissingStyle.toJson (s : MissingStyle) : Json := .str s.name

namespace Node

mutual

/-- The node as a document: the tag in front, then the parameters in the order of declaration,
    defaults written out. -/
def toJson : Node → Json
  | .word => .obj [("type", .str "word")]
  | .words joiner count => .obj [
    ("type", .str (Kind.words joiner).tag), ("n_words", count.toJson)]
  | .integer min max => .obj [
    ("type", .str "integer"), ("min", .ofInt64 min), ("max", .ofInt64 max)]
  | .number min max => .obj [
    ("type", .str "number"), ("min", .ofFloat min), ("max", .ofFloat max)]
  | .boolean prob => .obj [("type", .str "boolean"), ("prob", .ofFloat prob)]
  | .interval start length => .obj [
    ("type", .str "interval"),
    ("start_min", .ofInt64 start.min), ("start_max", .ofInt64 start.max),
    ("length_min", .ofInt64 length.min), ("length_max", .ofInt64 length.max)]
  | .missingValueName style => .obj (
    ("type", .str "missing_value_name") :: optional "style" MissingStyle.toJson style)
  | .maybe prob child => .obj (
    ("type", .str "maybe") :: optional "prob" .ofFloat prob ++ [("child", toJson child)])
  | .choice children => .obj [
    ("type", .str "choice"), ("children", .arr (toJsons children))]
  | .seq children distinct => .obj [
    ("type", .str "seq"), ("children", .arr (toJsons children)), ("unique", .bool distinct)]
  | .batch child size distinct => .obj [
    ("type", .str "batch"), ("child", toJson child), ("size", size.toJson),
    ("unique", .bool distinct)]
  | .unique child => .obj [("type", .str "unique"), ("child", toJson child)]
  | .integerFieldType p missingName => .obj [
    ("type", .str "integer_field_type"),
    ("required_prob", .ofFloat p.requiredProb), ("unique_prob", .ofFloat p.uniqueProb),
    ("undefined_prob", .ofFloat p.undefinedProb),
    ("minimum_range", p.minimumRange.toJson), ("maximum_range", p.maximumRange.toJson),
    ("missing_value_name", toJson missingName),
    ("missing_value_length_max", .ofUInt64 p.missingMax)]
  | .enumIntegerFieldType p labelName missingName => .obj [
    ("type", .str "enum_integer_field_type"),
    ("level_start_range", p.levelStartRange.toJson),
    ("n_levels_range", p.levelCountRange.toJson),
    ("label_name", toJson labelName), ("no_label_prob", .ofFloat p.noLabelProb),
    ("required_prob", .ofFloat p.requiredProb), ("unique_prob", .ofFloat p.uniqueProb),
    ("ordered_prob", .ofFloat p.orderedProb), ("undefined_prob", .ofFloat p.undefinedProb),
    ("missing_value_name", toJson missingName),
    ("missing_value_length_max", .ofUInt64 p.missingMax)]
  | .numberFieldType p missingName => .obj [
    ("type", .str "number_field_type"),
    ("required_prob", .ofFloat p.requiredProb), ("unique_prob", .ofFloat p.uniqueProb),
    ("undefined_prob", .ofFloat p.undefinedProb),
    ("minimum_range", p.minimumRange.toJson), ("maximum_range", p.maximumRange.toJson),
    ("missing_value_name", toJson missingName),
    ("missing_value_length_max", .ofUInt64 p.missingMax)]
  | .stringFieldType p missingName => .obj [
    ("type", .str "string_field_type"),
    ("required_prob", .ofFloat p.requiredProb), ("unique_prob", .ofFloat p.uniqueProb),
    ("undefined_prob", .ofFloat p.undefinedProb),
    ("min_length_range", p.minLengthRange.toJson), ("max_length_range", p.maxLengthRange.toJson),
    ("missing_value_name", toJson missingName),
    ("missing_value_length_max", .ofUInt64 p.missingMax)]
  | .enumStringFieldType p labelName missingName => .obj [
    ("type", .str "enum_string_field_type"),
    ("label_name", toJson labelName), ("n_levels_range", p.levelCountRange.toJson),
    ("required_prob", .ofFloat p.requiredProb), ("unique_prob", .ofFloat p.uniqueProb),
    ("ordered_prob", .ofFloat p.orderedProb), ("undefined_prob", .ofFloat p.undefinedProb),
    ("missing_value_name", toJson missingName),
    ("missing_value_length_max", .ofUInt64 p.missingMax)]
  | .metaGroup groupName count fieldName title description undefinedProb => .obj [
    ("type", .str "meta_group"), ("group_name", toJson groupName), ("n_range", count.toJson),
    ("field_name", toJson fieldName), ("title", toJson title),
    ("description", toJson description), ("undefined_prob", .ofFloat undefinedProb)]
  | .fieldGroup groupMeta fieldType => .obj [
    ("type", .str "field_group"), ("group_meta", toJson groupMeta),
    ("field_type", toJson fieldType)]
  | .likertFieldGroup groupMeta fieldType => .obj [
    ("type", .str "likert_field_group"), ("group_meta", toJson groupMeta),
    ("field_type", toJson fieldType)]
  | .tableSchema fields rows missingName missingMax undefinedProb => .obj [
    ("type", .str "table_schema"), ("fields", groupsToJson fields), ("n_rows", rows.toJson),
    ("missing_value_name", toJson missingName),
    ("missing_value_length_max", .ofUInt64 missingMax),
    ("undefined_prob", .ofFloat undefinedProb)]
  | .tableResource name description schema => .obj [
    ("type", .str "table_resource"), ("name", toJson name), ("description", toJson description),
    ("table_schema", toJson schema)]
  | .package name description resource resources => .obj [
    ("type", .str "package"), ("name", toJson name), ("description", toJson description),
    ("resource", toJson resource), ("n_resources", resources.toJson)]
  termination_by structural n => n

/-- The documents of some nodes, in their order. -/
def toJsons : List Node → List Json
  | [] => []
  | n :: rest => toJson n :: toJsons rest
  termination_by structural ns => ns

/-- The document of field groups: that of the one node, or a list. -/
def groupsToJson : FieldGroups → Json
  | .many nodes => .arr (toJsons nodes)
  | .one node => toJson node
  termination_by structural g => g

end

end Node

/-! ## Reading single arguments -/

/-- A count, or exactly two of them.  Either way of failing gives the same error, because there are
    two ways to read it. -/
def SizeSpec.ofJson (j : Json) : Except DecodeError SizeSpec :=
  match j with
  | .arr [a, b] => match a.asUInt64, b.asUInt64 with
    | .ok min, .ok max => .ok (.range min max)
    | _, _ => .error (.noAlternative "SizeSpec")
  | other => match other.asUInt64 with
    | .ok n => .ok (.fixed n)
    | .error _ => .error (.noAlternative "SizeSpec")

/-- A pair of values of one sort. -/
def pairOfJson {α : Type} (name : String) (read : Json → Except DecodeError α) :
    Json → Except DecodeError (α × α)
  | .arr items =>
    let short (n : Nat) : DecodeError := .invalidLength n s!"tuple struct {name} with 2 elements"
    match items with
    | [] => .error (short 0)
    | [a] => do let _ ← read a; .error (short 1)
    | a :: b :: rest => do
      let a ← read a
      let b ← read b
      if rest.isEmpty then .ok (a, b)
      else .error (.invalidLength items.length "2 elements in sequence")
  | other => .error (.invalidType (.of other) s!"tuple struct {name}")

/-- Reads a range of integers, in whatever order its ends are. -/
def IntRange.ofJson (j : Json) : Except DecodeError IntRange :=
  (pairOfJson "IntRange" Json.asInt64 j).map fun (min, max) => ⟨min, max⟩

/-- Reads a range of floats; integers count as floats. -/
def FloatRange.ofJson (j : Json) : Except DecodeError FloatRange :=
  (pairOfJson "FloatRange" Json.asFloat j).map fun (min, max) => ⟨min, max⟩

/-! ## Tags -/

/-- The kind a tag names.  In a part that was set aside a tag may also be the place of the kind in
    the order of kinds. -/
def Kind.ofJson (origin : Origin) : Json → Except DecodeError Kind
  | .str name => Json.choiceNamed Kind.byTag name
  | .num (.unsigned n) =>
    match origin, Kind.all[n.toNat]? with
    | .tagged, some k => .ok k
    | .tagged, none =>
      .error (.invalidValue (.unsigned n) s!"variant index 0 <= i < {Kind.all.length}")
    | .document, _ => .error (.invalidType (.unsigned n) "variant identifier")
  | other => .error (.invalidType (.of other) "variant identifier")

/-- Goes through members until all tags are seen; there has to be exactly one, and it may stand
    anywhere. -/
def Kind.ofMembers (origin : Origin) (met : Option Kind) :
    List (String × Json) → Except DecodeError Kind
  | [] => match met with
    | some k => .ok k
    | none => .error (.missingField "type")
  | (name, value) :: rest =>
    if name = "type" then
      match met with
      | some _ => .error (.duplicateField "type")
      | none => do
        let k ← Kind.ofJson origin value
        Kind.ofMembers origin (some k) rest
    else Kind.ofMembers origin met rest

/-- The parameter a member belongs to, by either of its names.  A name that no parameter has is
    refused. -/
def Kind.paramNamed (k : Kind) (name : String) : Except DecodeError Param :=
  match k.params.find? (·.names.contains name) with
  | some p => .ok p
  | none => .error (.unknownField name (k.params.flatMap Param.names))

/-- The first parameter that a node needs and that has no argument. -/
def Kind.missing? (k : Kind) (args : Arguments) : Option String :=
  (k.params.find? fun p => p.required && (args.find? p.name).isNone).map (·.name)

/-! ## Reading nodes -/

/-- Reads an argument; how nodes are read is given from outside. -/
def ParamType.read (value : Json) (node : Unit → Except DecodeError Node)
    (nodes : Unit → Except DecodeError (List Node)) : ParamType → Except DecodeError Argument
  | .int => value.asInt64.map .int
  | .count => value.asUInt64.map .count
  | .float => value.asFloat.map .float
  | .maybeFloat => (value.asOption Json.asFloat).map .maybeFloat
  | .flag => value.asBool.map .flag
  | .size => (SizeSpec.ofJson value).map .size
  | .intRange => (IntRange.ofJson value).map .intRange
  | .floatRange => (FloatRange.ofJson value).map .floatRange
  | .style => (value.asOption (MissingStyle.ofJson .tagged)).map .style
  | .node => (node ()).map .node
  | .nodes => (nodes ()).map .nodes
  | .fieldGroups =>
    match nodes () with
    | .ok ns => .ok (.fieldGroups (.many ns))
    | .error _ => match node () with
      | .ok n => .ok (.fieldGroups (.one n))
      | .error _ => .error (.noAlternative "FieldsSpec")

/-- The failure of reading a list of nodes: what stands there instead. -/
def notNodes (j : Json) : Except DecodeError (List Node) :=
  .error (.invalidType (.of j) "a sequence")

/-- The node of a kind, once all its arguments are read; what the kind cannot do without is looked
    for now. -/
def Node.ofArguments (k : Kind) (args : Arguments) : Except DecodeError Node :=
  match k.missing? args with
  | some name => .error (.missingField name)
  | none => .ok (args.toNode k)

/-- The first parameter without an argument that the node needs, and its place. -/
def missingPlace? (index : Nat) : List Param → Option Nat
  | [] => none
  | p :: rest => if p.required then some index else missingPlace? (index + 1) rest

namespace Node

mutual

/-- Reads a node that stands inside another: the tag first, wherever it stands, then the other
    members or elements by the parameters of its kind. -/
def ofPart : Json → Except DecodeError Node
  | .obj members => do
    let k ← Kind.ofMembers .tagged none members
    ofArguments k (← readMembers k [] members)
  | .arr [] => .error (.missingField "type")
  | .arr (tag :: items) => do
    let k ← Kind.ofJson .tagged tag
    return (← readItems k items.length 0 k.params items).toNode k
  | other => .error (.invalidType (.of other) "internally tagged enum GenCfg")
  termination_by structural j => j

/-- Reads the nodes of a list; the first that cannot be read decides. -/
def ofParts : List Json → Except DecodeError (List Node)
  | [] => .ok []
  | j :: rest => do
    let n ← ofPart j
    let ns ← ofParts rest
    return n :: ns
  termination_by structural js => js

/-- Reads the members behind the tag in the order they stand; `args` holds the arguments so far.  A
    parameter may be given once, under one of its names. -/
def readMembers (k : Kind) (args : Arguments) :
    List (String × Json) → Except DecodeError Arguments
  | [] => .ok args
  | (name, value) :: rest =>
    if name = "type" then readMembers k args rest
    else do
      let p ← k.paramNamed name
      if (args.find? p.name).isSome then .error (.duplicateField p.name)
      else
        let arg ← p.type.read value (fun _ => ofPart value) (fun _ =>
          match value with
          | .arr items => ofParts items
          | other => notNodes other)
        readMembers k ((p.name, arg) :: args) rest
  termination_by structural members => members

/-- Reads arguments in the order of the parameters.  `total` is how many there are. -/
def readItems (k : Kind) (total index : Nat) (params : List Param) :
    List Json → Except DecodeError Arguments
  | [] => match missingPlace? index params with
    | some place =>
      .error (.invalidLength place s!"struct {k.shapeName} with {elementCount k.params.length}")
    | none => .ok []
  | value :: rest => match params with
    | [] => .error (.invalidLength total (elementCount k.params.length ++ " in sequence"))
    | p :: params => do
      let arg ← p.type.read value (fun _ => ofPart value) (fun _ =>
        match value with
        | .arr items => ofParts items
        | other => notNodes other)
      return (p.name, arg) :: (← readItems k total (index + 1) params rest)
  termination_by structural items => items

end

/-- Checks the tag of a root, which has to be a name: only inside another node may it be a
    number. -/
def checkRootTag : Json → Except DecodeError Unit
  | .obj members => (Kind.ofMembers .document none members).map fun _ => ()
  | .arr (tag :: _) => (Kind.ofJson .document tag).map fun _ => ()
  | _ => .ok ()

/-- Reads a whole document: its root has to have a tag of the right form, and is then read like a
    part. -/
def ofJson (j : Json) : Except DecodeError Node := do
  checkRootTag j
  ofPart j

end Node

/-! ## Reading the text of a document -/

namespace Json

/-- Reads the tag of a root.  A value that is no text is reported as soon as its sort is clear. -/
def rootTag : Reader Json := fun cs =>
  match h : skip cs with
  | [] => fail .endInValue
  | c :: r =>
    if c = '[' then .error (.decode (.invalidType .list "variant identifier"))
    else if c = '\x7b' then .error (.decode (.invalidType .map "variant identifier"))
    else do
      let s ← scalar c r
      match Kind.ofJson .document s.value with
      | .error e => .error (.decode e)
      | .ok _ => return s.within cs (length_cons_le_of_skip h)

/-- Reads the members of a root: a second tag is refused as soon as its name is read, and a tag that
    names no kind as soon as its value is. -/
def rootMember : MemberReader Json where
  allow seen name :=
    if name = "type" && seen.contains name then .error (.decode (.duplicateField name)) else .ok ()
  value name := if name = "type" then rootTag else value (maxDepth - 1)

/-- The elements of a root given as a list, the first of which is its tag; the list may not be
    empty. -/
def rootElements (cs : List Char) : Except ReadError (Step (List Json) cs) :=
  match h : skip cs with
  | [] => fail .endInList
  | c :: r =>
    if c = ']' then .error (.decode (.missingField "type"))
    else do
      let tag ← rootTag (c :: r)
      have shorter : tag.rest.length < cs.length := by
        have h1 := skip_length_le cs; have h2 := tag.shorter
        rw [h] at h1; omega
      let rest ← elements (value (maxDepth - 1)) false tag.rest
      return (rest.map (tag.value :: ·)).within cs (Nat.le_of_lt shorter)

/-- Reads the root of a document; what stands behind it is left. -/
def root : Reader Json := fun cs =>
  match h : skip cs with
  | [] => fail .endInValue
  | c :: r =>
    if c = '[' then (rootElements r).map fun s => (s.map .arr).within cs (length_le_of_skip h)
    else if c = '\x7b' then
      (members rootMember [] r).map fun s => (s.map .obj).within cs (length_le_of_skip h)
    else (scalar c r).map fun s => s.within cs (length_cons_le_of_skip h)

end Json

/-- Reads the text of a document.  Its parameters are looked at once the root has ended, and what
    stands behind the root after that. -/
def Node.ofText (text : String) : Except ReadError Node := do
  let s ← Json.root text.toList
  match Node.ofJson s.value with
  | .error e => .error (.decode e)
  | .ok node => Json.finish node s.rest

end SyntheticTables
