/-
  Settings of runs.

  Every setting may be absent.  `Settings.merge` lays one set of settings over another; what stays
  absent in the end has a default, so `Settings.runOptions` always gives the options of a run.
-/
import SyntheticTables.Export.Files
import SyntheticTables.Files
import SyntheticTables.Options
import SyntheticTables.Toml.Document

namespace SyntheticTables

/-! ## Settings -/

/-- Settings of runs, each of which may be absent. -/
structure Settings where
  seed : Option UInt64 := none
  locale : Option String := none
  maxUniqueAttempts : Option UInt32 := none
  optionalProbability : Option Float := none
  missingStyle : Option MissingStyle := none
  assetsDir : Option String := none
  /-- The directory that the directories of runs go to. -/
  outDir : Option String := none
  format : Option ExportFormat := none
  deriving Inhabited

namespace Settings

/-- The settings of `upper` where it has any, and those of `lower` elsewhere. -/
def merge (lower upper : Settings) : Settings where
  seed := upper.seed.or lower.seed
  locale := upper.locale.or lower.locale
  maxUniqueAttempts := upper.maxUniqueAttempts.or lower.maxUniqueAttempts
  optionalProbability := upper.optionalProbability.or lower.optionalProbability
  missingStyle := upper.missingStyle.or lower.missingStyle
  assetsDir := upper.assetsDir.or lower.assetsDir
  outDir := upper.outDir.or lower.outDir
  format := upper.format.or lower.format

/-- Settings without any, laid over others, change nothing. -/
@[simp] theorem merge_empty (s : Settings) : s.merge {} = s := by cases s; simp [merge]

/-- Settings laid over none are what they are. -/
@[simp] theorem empty_merge (s : Settings) : merge {} s = s := by cases s; simp [merge]

/-- In what order settings are laid over each other does not matter, only which lies above which; so
    the command line may be laid over a file in one step or in several. -/
theorem merge_assoc (a b c : Settings) : (a.merge b).merge c = a.merge (b.merge c) := by
  simp [merge, Option.or_assoc]

/-! ## What a run does -/

/-- The directory that the directories of runs go to, by default `runs`. -/
def runsDir (s : Settings) : String := s.outDir.getD "runs"

/-- The format of an export, by default a single file. -/
def exportFormat (s : Settings) : ExportFormat := s.format.getD .json

/-- The options of a run whose seed is settled. -/
def runOptions (s : Settings) (seed : UInt64) : RunOptions :=
  let defaults : ContextOptions := {}
  { context := {
      seed
      locale := s.locale.getD defaults.locale
      maxUniqueAttempts := s.maxUniqueAttempts.getD defaults.maxUniqueAttempts
      optionalProbability := s.optionalProbability.getD defaults.optionalProbability
      missingStyle := s.missingStyle.getD defaults.missingStyle }
    assetsDir := s.assetsDir }

/-! ## Documents -/

/-- Why settings cannot be used. -/
inductive Error where
  | unreadable (cause : FileError)
  | malformed (cause : Toml.Error)
  | decode (cause : DecodeError)
  deriving Inhabited

/-- The text of a failure.  What is wrong with a table is reported as if its text were malformed. -/
def Error.message : Error → String
  | .unreadable cause => s!"io error: {cause.message}"
  | .malformed cause => s!"invalid settings file: TOML parse error: {cause.message}"
  | .decode cause => s!"invalid settings file: TOML parse error: {cause.message}"

/-- A choice in a table: its name, or its name with an empty table or list behind it. -/
def choice : Json → Json
  | .obj [(name, .obj [])] | .obj [(name, .arr [])] => .str name
  | other => other

/-- How the settings are read: a setting that is named has a value, since a table has no way to
    write that there is none. -/
def slots : List (Slot Settings) := [
  .defaulted "seed" Json.asUInt64 fun a s => { s with seed := some a },
  .defaulted "locale" Json.asText fun a s => { s with locale := some a },
  .defaulted "max_unique_attempts" Json.asUInt32 fun a s => { s with maxUniqueAttempts := some a },
  .defaulted "default_optional_probability" Json.asFloat fun a s =>
    { s with optionalProbability := some a },
  .defaulted "default_missing_value_style" (MissingStyle.ofJson .tagged ∘ choice) fun a s =>
    { s with missingStyle := some a },
  .defaulted "assets_dir" Json.asPath fun a s => { s with assetsDir := some a },
  .defaulted "out_dir" Json.asPath fun a s => { s with outDir := some a },
  .defaulted "format" (Json.asChoice .tagged ExportFormat.names ∘ choice) fun a s =>
    { s with format := some a }]

/-- Reads settings from a table, which holds nothing else: the first name that is no setting is
    refused before anything is read. -/
def ofMembers (members : List (String × Json)) : Except DecodeError Settings :=
  match members.find? fun m => !slots.any (·.name = m.1) with
  | some (name, _) => .error (.unknownField name (slots.map (·.name)))
  | none => Record.ofMembers slots {} members

/-- Reads the text of a settings file. -/
def ofText (text : String) : Except Error Settings :=
  match Toml.ofText text with
  | .error e => .error (.malformed e)
  | .ok (.obj members) => (ofMembers members).mapError .decode
  | .ok _ => .ok {}

/-- The settings of a file with the given text, if it could be read. -/
def ofFile (text : Except FileError String) : Except Error Settings := do
  ofText (← text.mapError .unreadable)

end Settings

end SyntheticTables
