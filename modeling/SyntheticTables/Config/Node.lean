/-
  The configuration of a generator: a tree of nodes.

  A leaf draws a word, a name, a number; a combinator draws its children in some way; a domain node
  draws a part of a package and has one child for each part that is itself drawn.  `declaredType`
  is the type of the values a node draws.
-/
import SyntheticTables.Config.TypeDesc
import SyntheticTables.Text.Joiner

namespace SyntheticTables

/-! ## Kinds -/

/-- The kinds of nodes.  The five ways to join words are kinds of their own, because each has a tag
    of its own in documents. -/
inductive Kind where
  | word
  | words (joiner : Joiner)
  | integer
  | number
  | boolean
  | interval
  | missingValueName
  | maybe
  | choice
  | seq
  | batch
  | unique
  | integerFieldType
  | enumIntegerFieldType
  | numberFieldType
  | stringFieldType
  | enumStringFieldType
  | metaGroup
  | fieldGroup
  | likertFieldGroup
  | tableSchema
  | tableResource
  | package
  deriving DecidableEq, Inhabited

namespace Kind

/-- All kinds in the order in which messages list them. -/
def all : List Kind := [
  .word, .words .sentence, .words .snakeCase, .words .camelCase, .words .kebabCase, .words
  .snakeCaseCaps, .integer, .number, .boolean, .interval, .missingValueName, .maybe, .choice,
  .seq, .batch, .unique, .integerFieldType, .enumIntegerFieldType, .numberFieldType,
  .stringFieldType, .enumStringFieldType, .metaGroup, .fieldGroup, .likertFieldGroup,
  .tableSchema, .tableResource, .package]

/-- The name of the kind in documents, where it is the tag of a node. -/
def tag : Kind → String
  | word => "word"
  | words .sentence => "sentence"
  | words .snakeCase => "snake_case_name"
  | words .camelCase => "camel_case_name"
  | words .kebabCase => "kebab_case_name"
  | words .snakeCaseCaps => "snake_case_caps_name"
  | integer => "integer"
  | number => "number"
  | boolean => "boolean"
  | interval => "interval"
  | missingValueName => "missing_value_name"
  | maybe => "maybe"
  | choice => "choice"
  | seq => "seq"
  | batch => "batch"
  | unique => "unique"
  | integerFieldType => "integer_field_type"
  | enumIntegerFieldType => "enum_integer_field_type"
  | numberFieldType => "number_field_type"
  | stringFieldType => "string_field_type"
  | enumStringFieldType => "enum_string_field_type"
  | metaGroup => "meta_group"
  | fieldGroup => "field_group"
  | likertFieldGroup => "likert_field_group"
  | tableSchema => "table_schema"
  | tableResource => "table_resource"
  | package => "package"

/-- All kinds under their names, which is what the tag of a node is looked up in. -/
def byTag : List (String × Kind) := all.map fun k => (k.tag, k)

end Kind

/-! ## Parameters -/

/-- How many: a fixed number, or a number from an inclusive range.  Documents write the first as a
    number and the second as a pair. -/
inductive SizeSpec where
  | fixed (n : UInt64)
  | range (min max : UInt64)
  deriving DecidableEq, Inhabited

/-- The least number meant; a fixed number is its own range. -/
def SizeSpec.min : SizeSpec → UInt64
  | .fixed n => n
  | .range min _ => min

/-- The greatest number meant; a fixed number is its own range. -/
def SizeSpec.max : SizeSpec → UInt64
  | .fixed n => n
  | .range _ max => max

/-- An inclusive range of integers.  Nothing says that the ends are in order; that is for the check
    of the node that has the range. -/
structure IntRange where
  min : Int64
  max : Int64
  deriving DecidableEq, Inhabited

/-- A range of floats; the check asks for finite ends in order. -/
structure FloatRange where
  min : Float
  max : Float
  deriving Inhabited

/-- The spellings of tokens for missing values. -/
inductive MissingStyle where
  /-- A negative integer such as `-99`. -/
  | spss
  /-- A period and a small letter. -/
  | stata
  /-- A name in capitals between underscores. -/
  | underscore
  deriving DecidableEq, Inhabited

/-- The name under which a style is written. -/
def MissingStyle.name : MissingStyle → String
  | .spss => "spss"
  | .stata => "stata"
  | .underscore => "underscore"

/-- The styles in the order in which they are numbered. -/
def MissingStyle.all : List MissingStyle := [.spss, .stata, .underscore]

/-- Each style under all names it goes by, in the order a message lists them; one of them is a
    misspelling that is kept. -/
def MissingStyle.names : List (String × MissingStyle) := [
  ("SPSS", .spss), ("spss", .spss), ("SATA", .stata), ("STATA", .stata), ("stata", .stata),
  ("UNDERSCORE", .underscore), ("underscore", .underscore)]

/-- Reads a style by one of its names, or as an object whose only member has that name. -/
def MissingStyle.ofJson (origin : Json.Origin) : Json → Except DecodeError MissingStyle :=
  Json.asChoice origin MissingStyle.names

/-- Parameters of a node that draws integer columns.  The defaults are those of a document that
    leaves a parameter out. -/
structure IntegerTypeParams where
  requiredProb : Float := 0.5
  uniqueProb : Float := 0.5
  /-- How likely each optional attribute is left out. -/
  undefinedProb : Float := 0.5
  minimumRange : IntRange := ⟨0, 1000⟩
  maximumRange : IntRange := ⟨0, 1000⟩
  missingMax : UInt64 := 5
  deriving Inhabited

/-- Parameters of a node that draws columns of integers from a declared set of levels: where the
    levels begin, how many there are, and what comes with them. -/
structure EnumIntegerTypeParams where
  levelStartRange : IntRange := ⟨2, 10⟩
  levelCountRange : IntRange := ⟨2, 10⟩
  /-- How likely the whole set of levels goes without labels. -/
  noLabelProb : Float := 0.2
  requiredProb : Float := 0.5
  uniqueProb : Float := 0.5
  orderedProb : Float := 0.5
  undefinedProb : Float := 0.5
  missingMax : UInt64 := 5
  deriving Inhabited

/-- Parameters of a node that draws columns of floats. -/
structure NumberTypeParams where
  requiredProb : Float := 0.5
  uniqueProb : Float := 0.5
  undefinedProb : Float := 0.5
  minimumRange : FloatRange := ⟨0, 1000⟩
  maximumRange : FloatRange := ⟨0, 1000⟩
  missingMax : UInt64 := 5
  deriving Inhabited

/-- Parameters of a node that draws columns of texts.  The ranges of both lengths overlap by
    default; which of two drawn lengths is the lower one is settled after the draw. -/
structure StringTypeParams where
  requiredProb : Float := 0.5
  uniqueProb : Float := 0.5
  undefinedProb : Float := 0.5
  minLengthRange : IntRange := ⟨0, 20⟩
  maxLengthRange : IntRange := ⟨10, 30⟩
  missingMax : UInt64 := 5
  deriving Inhabited

/-- Parameters of a node that draws columns of texts from a declared set of levels. -/
structure EnumStringTypeParams where
  levelCountRange : IntRange := ⟨2, 10⟩
  requiredProb : Float := 0.5
  uniqueProb : Float := 0.5
  orderedProb : Float := 0.5
  undefinedProb : Float := 0.5
  missingMax : UInt64 := 5
  deriving Inhabited

/-! ## Nodes -/

mutual

/-- A tree of generators.  Where a constructor has children, the slot of each says what it is for;
    the numbers and probabilities beside them are the parameters of the node itself. -/
inductive Node where
  /-- A word of the vocabulary. -/
  | word
  /-- Several words joined to a sentence or a name. -/
  | words (joiner : Joiner) (count : SizeSpec)
  | integer (min max : Int64)
  | number (min max : Float)
  | boolean (prob : Float)
  /-- A start, and an end that lies a drawn length behind it. -/
  | interval (start length : IntRange)
  /-- A token for a missing value; without a style, in the style of the run. -/
  | missingValueName (style : Option MissingStyle)
  /-- The child, or nothing; without a probability, as likely as the run says. -/
  | maybe (prob : Option Float) (child : Node)
  /-- One of the children, all equally likely. -/
  | choice (children : List Node)
  /-- Every child once, in order. -/
  | seq (children : List Node) (distinct : Bool)
  /-- The child several times. -/
  | batch (child : Node) (size : SizeSpec) (distinct : Bool)
  /-- The child, never the same value twice in a run. -/
  | unique (child : Node)
  | integerFieldType (params : IntegerTypeParams) (missingName : Node)
  | enumIntegerFieldType (params : EnumIntegerTypeParams) (labelName missingName : Node)
  | numberFieldType (params : NumberTypeParams) (missingName : Node)
  | stringFieldType (params : StringTypeParams) (missingName : Node)
  | enumStringFieldType (params : EnumStringTypeParams) (labelName missingName : Node)
  /-- Names and descriptions of columns that share the name of a group. -/
  | metaGroup (groupName : Node) (count : IntRange) (fieldName title description : Node)
      (undefinedProb : Float)
  /-- A column for each entry of a meta group. -/
  | fieldGroup (groupMeta fieldType : Node)
  /-- A field group of integer columns. -/
  | likertFieldGroup (groupMeta fieldType : Node)
  | tableSchema (fields : FieldGroups) (rows : SizeSpec) (missingName : Node)
      (missingMax : UInt64) (undefinedProb : Float)
  | tableResource (name description schema : Node)
  | package (name description resource : Node) (resources : SizeSpec)

/-- The field groups of a schema: one, or a list that is put together in order. -/
inductive FieldGroups where
  | many (nodes : List Node)
  | one (node : Node)

end

instance : Inhabited Node := ⟨.word⟩

namespace Node

/-- The kind of a node, which forgets its parameters and its children. -/
def kind : Node → Kind
  | word => .word
  | words joiner _ => .words joiner
  | integer .. => .integer
  | number .. => .number
  | boolean .. => .boolean
  | interval .. => .interval
  | missingValueName .. => .missingValueName
  | maybe .. => .maybe
  | choice .. => .choice
  | seq .. => .seq
  | batch .. => .batch
  | unique .. => .unique
  | integerFieldType .. => .integerFieldType
  | enumIntegerFieldType .. => .enumIntegerFieldType
  | numberFieldType .. => .numberFieldType
  | stringFieldType .. => .stringFieldType
  | enumStringFieldType .. => .enumStringFieldType
  | metaGroup .. => .metaGroup
  | fieldGroup .. => .fieldGroup
  | likertFieldGroup .. => .likertFieldGroup
  | tableSchema .. => .tableSchema
  | tableResource .. => .tableResource
  | package .. => .package

/-- The name of the kind of a node in documents. -/
def tag (n : Node) : String := n.kind.tag

/-! ## Types -/

mutual

/-- The type of the values a node draws, from the shape of the tree alone.  It is what slots are
    checked against, before anything is drawn. -/
def declaredType : Node → TypeDesc
  | .word | .words .. | .missingValueName _ => .prim .str
  | .integer .. => .prim .int
  | .number .. => .prim .float
  | .boolean _ => .prim .bool
  | .interval .. => .prim .interval
  | .maybe _ child => .optional (declaredType child)
  | .choice children => .unionOf (declaredTypes children)
  | .seq children _ => .seq (.unionOf (declaredTypes children))
  | .batch child _ _ => .seq (declaredType child)
  | .unique child => declaredType child
  | .integerFieldType .. => .prim .integerFieldType
  | .enumIntegerFieldType .. => .prim .enumIntegerFieldType
  | .numberFieldType .. => .prim .numberFieldType
  | .stringFieldType .. => .prim .stringFieldType
  | .enumStringFieldType .. => .prim .enumStringFieldType
  | .metaGroup .. => .seq (.prim .fieldMeta)
  | .fieldGroup .. | .likertFieldGroup .. => .seq (.prim .field)
  | .tableSchema .. => .prim .tableSchema
  | .tableResource .. => .prim .tableResource
  | .package .. => .prim .package
  termination_by structural n => n

/-- The types of the values that some nodes draw, in their order. -/
def declaredTypes : List Node → List TypeDesc
  | [] => []
  | n :: rest => declaredType n :: declaredTypes rest
  termination_by structural ns => ns

end

/-- The types of a list, as a map over it.  The recursion is written out above so that it is
    structural in the tree. -/
theorem declaredTypes_eq_map (ns : List Node) : declaredTypes ns = ns.map declaredType := by
  induction ns with
  | nil => rfl
  | cons n rest ih => simp [declaredTypes, ih]

/-! ## Defaults -/

/-- A token in the style of the run. -/
def defaultMissingName : Node := .missingValueName none

/-- A name of up to three words, joined in a given way. -/
def defaultName (joiner : Joiner) : Node := .words joiner (.range 1 3)

/-- A sentence of ten words. -/
def defaultSentence : Node := .words .sentence (.fixed 10)

/-- Three to fifteen names in camel case, with sentences as titles and descriptions. -/
def defaultMetaGroup : Node :=
  .metaGroup (defaultName .camelCase) ⟨3, 15⟩ (defaultName .camelCase) defaultSentence
    defaultSentence 0.5

/-- A column of integers with the parameters that documents leave out. -/
def defaultIntegerFieldType : Node := .integerFieldType {} defaultMissingName

/-- Any of the five kinds of column, each with its own defaults. -/
def defaultFieldType : Node := .choice [
  defaultIntegerFieldType,
  .enumIntegerFieldType {} (defaultName .snakeCaseCaps) defaultMissingName,
  .numberFieldType {} defaultMissingName,
  .stringFieldType {} defaultMissingName,
  .enumStringFieldType {} (defaultName .snakeCaseCaps) defaultMissingName]

/-- A group of columns, each of any kind. -/
def defaultFieldGroup : Node := .fieldGroup defaultMetaGroup defaultFieldType

/-- A schema of one group of columns and up to a thousand rows. -/
def defaultTableSchema : Node :=
  .tableSchema (.one defaultFieldGroup) (.range 10 1000) defaultMissingName 5 0.5

/-- A table with a name, a description, and the schema above. -/
def defaultTableResource : Node :=
  .tableResource (defaultName .kebabCase) defaultSentence defaultTableSchema

end Node

end SyntheticTables
