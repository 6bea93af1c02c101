/-
  Configurations in files.

  The extension of a file says which format its text has: `.yaml` and `.yml` are YAML, `.json`
  and no extension at all are JSON.  The text is read, decoded and checked, in this order.
-/
import SyntheticTables.Config.Check
import SyntheticTables.Config.Document
import SyntheticTables.Files
import SyntheticTables.Yaml.Document

namespace SyntheticTables

/-! ## Causes -/

/-- Why a configuration cannot be used: it could not be read, its text or its document is none, or
    it has been refused. -/
inductive LoadError where
  | unreadable (cause : FileError)
  | unknownExtension (extension path : String)
  | json (cause : ReadError)
  /-- The text is no YAML document. -/
  | yaml (cause : Yaml.Error)
  /-- The document is no configuration. -/
  | decode (cause : DecodeError)
  | invalid (cause : CheckError)
  deriving Inhabited

/-- The cause of a parse failure in words. -/
def parseMessage (text : String) : String := "parse error: " ++ text

/-- The text of a failure.  All failures of reading a text count as parse errors, in whatever
    format. -/
def LoadError.message : LoadError → String
  | .unreadable cause => s!"io error: {cause.message}"
  | .unknownExtension extension path =>
    parseMessage s!"unsupported config extension '.{extension}' for {path}"
  | .json cause => parseMessage cause.message
  | .yaml cause => parseMessage cause.message
  | .decode cause => parseMessage cause.message
  | .invalid cause => cause.message

/-! ## Formats -/

/-- The formats of a configuration. -/
inductive DocumentFormat where
  | json
  | yaml
  deriving DecidableEq, Inhabited

/-- The format of a file, by its extension alone; what stands in the file is not looked at. -/
def DocumentFormat.ofPath (path : String) : Except LoadError DocumentFormat :=
  match extension? path with
  | none | some "json" => .ok .json
  | some "yaml" | some "yml" => .ok .yaml
  | some other => .error (.unknownExtension other path)

namespace Node

/-- A node that has passed its check. -/
def checked (n : Node) : Except LoadError Node :=
  match n.check with
  | .ok () => .ok n
  | .error e => .error (.invalid e)

/-- Decodes and checks a document; errors say which of the two failed. -/
def parseValue (j : Json) : Except LoadError Node := do
  ((← (Node.ofJson j).mapError .decode)).checked

/-- Reads, decodes and checks a text.  Reading and decoding are one here: members are interpreted in
    the order they stand. -/
def parseJson (text : String) : Except LoadError Node := do
  (← (Node.ofText text).mapError .json).checked

/-- Which member a YAML document means by a place: of a node the parameter declared there, and where
    there is no node, the style of missing values. -/
def memberAt : Yaml.Naming := fun named place =>
  match Kind.ofMembers .tagged none named with
  | .ok k => (k.params[place.toNat]?).map (·.name)
  | .error _ => (MissingStyle.all[place.toNat]?).map (·.name)

/-- Reads a text as YAML, and then decodes and checks the document in it. -/
def parseYaml (text : String) : Except LoadError Node := do
  parseValue (← (Yaml.ofText memberAt "type" text).mapError .yaml)

/-- A configuration from a text in one of the formats. -/
def parse : DocumentFormat → String → Except LoadError Node
  | .json => parseJson
  | .yaml => parseYaml

/-- The configuration of a file with the given text, if it could be read. -/
def ofFile (path : String) (text : Except FileError String) : Except LoadError Node := do
  let text ← text.mapError .unreadable
  parse (← DocumentFormat.ofPath path) text

end Node

end SyntheticTables
