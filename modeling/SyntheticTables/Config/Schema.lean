/-
  The schema of configuration documents.

  It is drawn from the table of parameters that documents are read by, and the defaults it shows are
  those of a node without arguments.
-/
import SyntheticTables.Config.Document
import SyntheticTables.Schema

namespace SyntheticTables

/-! ## Parameters -/

/-- The shape of an argument, and whether `null` may stand for it.  Trees and their parts are
    referred to by name, since they contain each other. -/
def ParamType.shape : ParamType → Shape × Bool
  | .int => (.int, false)
  | .count => (.count, false)
  | .float => (.float, false)
  | .maybeFloat => (.float, true)
  | .flag => (.flag, false)
  | .size => (.named "SizeSpec", false)
  | .intRange => (.named "IntRange", false)
  | .floatRange => (.named "FloatRange", false)
  | .style => (.named "MissingValueStyle", true)
  | .node => (.named "GenCfg", false)
  | .nodes => (.list (.named "GenCfg"), false)
  | .fieldGroups => (.named "FieldsSpec", false)

namespace Kind

/-- What is said about a kind, if anything is. -/
def note? : Kind → Option String
  | .word => some "One word drawn from the locale vocabulary."
  | .words .sentence => some "Capitalized words separated by spaces, ending with a period."
  | .words _ => some "Shared parameters of the case-joined name variants."
  | .integer => some "Uniform integer over an inclusive range."
  | .number => some "Uniform float over a range."
  | .boolean => some "Bernoulli boolean."
  | .interval => some "`(start, start + length)` pair."
  | .missingValueName => some "Missing-value token in one of the supported styles."
  | .maybe => some "Child value or absent."
  | .choice => some "Uniform pick among children."
  | .seq => some "Every child once, in order."
  | .batch => some "Repeated draws of one child."
  | .unique => some "Child wrapped with run-wide uniqueness."
  | .metaGroup => some "Batch of field metadata sharing one group prefix."
  | .fieldGroup => some "One field per metadata entry of a meta group."
  | .likertFieldGroup => some "Field group restricted to integer field types."
  | _ => none

/-- What is said about a parameter of a kind, if anything is. -/
def paramNote? (k : Kind) (name : String) : Option String :=
  match k, name with
  | .missingValueName, "style" => some "Falls back to the context default when absent."
  | .maybe, "prob" =>
    some "Probability of drawing the child. Falls back to the context default."
  | .integerFieldType, "undefined_prob" =>
    some "Probability that each optional attribute is left out."
  | .enumIntegerFieldType, "no_label_prob" =>
    some "Probability that the whole level set is left unlabeled."
  | _, _ => none

/-- The document of a node that has no arguments; the defaults in it are the ones the schema
    shows. -/
def bareDocument (k : Kind) : Json := (Arguments.toNode [] k).toJson

/-- The schema of a parameter.  One that may be left out shows its default, if it has one that is
    written. -/
def property (k : Kind) (p : Param) : Property where
  name := p.name
  shape := p.type.shape.1
  nullable := p.type.shape.2
  required := p.required
  note := k.paramNote? p.name
  default := if p.required then none else k.bareDocument.member? p.name

/-- The schema of a kind: an alternative with its tag. -/
def schema (k : Kind) : Json :=
  alternativeSchema "type" k.tag k.note? (k.params.map k.property)

end Kind

/-! ## Definitions -/

/-- The schema of numbers of things. -/
def SizeSpec.schema : Json :=
  describedSchema (some "Count given as a fixed number or an inclusive `[min, max]` pair.")
    [("anyOf", .arr [Shape.count.toJson, Shape.count.pair.toJson])]

/-- The schema of ranges of integers. -/
def IntRange.schema : Json :=
  describedSchema (some "Inclusive integer range.") Shape.int.pair.members

/-- The schema of ranges of floats. -/
def FloatRange.schema : Json := describedSchema (some "Float range.") Shape.float.pair.members

/-- What is said about a style. -/
def MissingStyle.note : MissingStyle → String
  | .spss => "Negative integer token such as `-99`."
  | .stata => "`.` followed by one lowercase letter."
  | .underscore => "Caps-snake identifier wrapped in underscores."

/-- The schema of styles, under their own names only. -/
def MissingStyle.schema : Json :=
  describedSchema (some "Styles of missing-value tokens.")
    [("oneOf", .arr (MissingStyle.all.map fun s => nameSchema s.name s.note))]

/-- The schema of field groups, a list or a single tree. -/
def FieldGroups.schema : Json :=
  describedSchema
    (some ("Field groups of a table schema: a single node or a list that is concatenated in "
      ++ "order."))
    [("anyOf", .arr [(Shape.list (.named "GenCfg")).toJson, (Shape.named "GenCfg").toJson])]

/-- The members of the schema of nodes, which stand in the root of the document and again among its
    definitions. -/
def Node.schemaMembers : List (String × Json) := [
  ("description", .str ("Generator configuration tree.\n\nEach variant is tagged by `\"type\"` in "
    ++ "the persisted document and owns its child nodes exclusively.")),
  ("oneOf", .arr (Kind.all.map Kind.schema))]

/-- The schema of whole configurations, with all definitions that nodes refer to. -/
def Node.schema : Json :=
  schemaDocument "GenCfg" Node.schemaMembers [
    ("FieldsSpec", FieldGroups.schema), ("FloatRange", FloatRange.schema),
    ("GenCfg", .obj Node.schemaMembers), ("IntRange", IntRange.schema),
    ("MissingValueStyle", MissingStyle.schema), ("SizeSpec", SizeSpec.schema)]

end SyntheticTables
