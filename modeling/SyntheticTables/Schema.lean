/-
  JSON schemas.

  A schema is itself a document.  This module builds those that describe the documents of this
  library: records with named properties, choices between records, and simple values.
-/
import SyntheticTables.Json

namespace SyntheticTables

/-- What a value looks like: a type of JSON, or something that a definition of the same document
    describes. -/
inductive Shape where
  /-- A JSON type with what further holds of it. -/
  | plain (type : String) (more : List (String × Json))
  /-- A shape that is defined elsewhere. -/
  | named (name : String)
  deriving Inhabited

namespace Shape

/-! ## Simple shapes -/

/-- Any text. -/
def text : Shape := .plain "string" []

/-- True or false. -/
def flag : Shape := .plain "boolean" []

/-- A signed word of 64 bits. -/
def int : Shape := .plain "integer" [("format", .str "int64")]

/-- An unsigned word of 64 bits, with its lower bound written out. -/
def count : Shape := .plain "integer" [("format", .str "uint64"), ("minimum", .ofFloat 0.0)]

/-- A float of 64 bits. -/
def float : Shape := .plain "number" [("format", .str "double")]

/-- The member that refers to a definition. -/
def reference (name : String) : String × Json := ("$ref", .str ("#/definitions/" ++ name))

/-- The members of the schema of a shape; a named shape is a reference and nothing else. -/
def members : Shape → List (String × Json)
  | .plain type more => ("type", .str type) :: more
  | .named name => [reference name]

/-- The schema of a shape, as a document. -/
def toJson (s : Shape) : Json := .obj s.members

/-- A list of any number of values of one shape. -/
def list (item : Shape) : Shape := .plain "array" [("items", item.toJson)]

/-- A list of exactly two values of one shape, as ranges are written. -/
def pair (item : Shape) : Shape :=
  .plain "array" [("items", .arr [item.toJson, item.toJson]), ("minItems", .ofNat 2),
    ("maxItems", .ofNat 2)]

/-- Any number of named values of one shape, whatever the names. -/
def dictionary (item : Shape) : Shape :=
  .plain "object" [("additionalProperties", item.toJson)]

/-- The members of a shape whose value may also be `null`. -/
def nullableMembers : Shape → List (String × Json)
  | .plain type more => ("type", Json.ofStrings [type, "null"]) :: more
  | .named name =>
    [("anyOf", .arr [.obj [reference name], .obj [("type", .str "null")]])]

end Shape

/-! ## Records -/

/-- A named part of a record: its shape, whether it may be `null` or left out, what is said about
    it, and its default. -/
structure Property where
  name : String
  shape : Shape
  nullable : Bool := false
  required : Bool := false
  note : Option String := none
  default : Option Json := none
  deriving Inhabited

namespace Property

/-- What a schema says about a property besides its shape. -/
def remarks (p : Property) : List (String × Json) :=
  Json.optional "description" .str p.note ++ Json.optional "default" id p.default

/-- The schema of a property.  A reference admits nothing beside it, so with remarks it is put into a
    list of its own. -/
def toJson (p : Property) : Json :=
  let own := if p.nullable then p.shape.nullableMembers else p.shape.members
  match p.shape, p.nullable, p.remarks with
  | .named _, false, [] => .obj own
  | .named _, false, remarks => .obj (("allOf", .arr [.obj own]) :: remarks)
  | _, _, remarks => .obj (own ++ remarks)

end Property

/-- A schema with a description in front, if there is one. -/
def describedSchema (note : Option String) (members : List (String × Json)) : Json :=
  .obj (Json.optional "description" .str note ++ members)

/-- The names in ascending order, each of them once. -/
def ascendingTexts (names : List String) : List String :=
  (Json.sortMembers (names.map fun n => (n, ()))).map (·.1)

/-- The members of a schema for records with these properties.  The names of those that are required
    come in ascending order, and are left out when there are none. -/
def recordMembers (properties : List Property) : List (String × Json) :=
  let required := (properties.filter (·.required)).map (·.name)
  [("type", .str "object"), ("properties", .obj (properties.map fun p => (p.name, p.toJson)))]
    ++ (if required.isEmpty then [] else [("required", Json.ofStrings (ascendingTexts required))])

/-- A property that holds a name and nothing else: it tells the alternatives of a choice apart. -/
def tagProperty (name tag : String) : Property where
  name := name
  shape := .plain "string" [("enum", Json.ofStrings [tag])]
  required := true

/-- One alternative of a tagged choice: the tag as its first property, then those of the
    alternative. -/
def alternativeSchema (tagName tag : String) (note : Option String) (properties : List Property) :
    Json :=
  describedSchema note (recordMembers (tagProperty tagName tag :: properties))

/-- A name among others, with a remark; it is a choice of one text. -/
def nameSchema (name note : String) : Json :=
  describedSchema (some note) [("type", .str "string"), ("enum", Json.ofStrings [name])]

/-- A whole schema document: the draft it follows, a title, the schema of the root, and what that
    refers to. -/
def schemaDocument (title : String) (root : List (String × Json))
    (definitions : List (String × Json)) : Json :=
  .obj ([("$schema", .str "http://json-schema.org/draft-07/schema#"), ("title", .str title)]
    ++ root ++ [("definitions", .obj definitions)])

end SyntheticTables
