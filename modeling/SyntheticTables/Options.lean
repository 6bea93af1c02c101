/-
  The options of a run.
-/
import SyntheticTables.Config.Node
import SyntheticTables.Record

namespace SyntheticTables

open Json (Origin optional)

/-! ## Options -/

/-- What the draws of a run depend on, besides the configuration: where the random stream begins,
    the words, how long a search may take, and what nodes get that leave a parameter to the run. -/
structure ContextOptions where
  seed : UInt64 := 0
  locale : String := "en_US"
  /-- How often a value is drawn anew before a uniqueness constraint gives up. -/
  maxUniqueAttempts : UInt32 := 1000
  /-- How likely an optional child is drawn that does not say so itself. -/
  optionalProbability : Float := 0.5
  missingStyle : MissingStyle := .spss
  deriving Inhabited

/-- Why options are refused: a search has to have an attempt, and a probability has to be one. -/
inductive OptionsError where
  | noAttempts
  | notAProbability (x : Float)
  deriving Inhabited

/-- The text of a refusal; a probability is shown as it is written in decimals. -/
def OptionsError.message : OptionsError → String
  | .noAttempts => "max_unique_attempts must be > 0"
  | .notAProbability x =>
    s!"default_optional_probability must be within [0, 1], got {Decimal.plain.text x}"

/-- Checks the attempts first, then the probability.  A probability that is no number fails both
    comparisons and is refused, too. -/
def ContextOptions.check (o : ContextOptions) : Except OptionsError Unit :=
  if o.maxUniqueAttempts = 0 then .error .noAttempts
  else if 0.0 ≤ o.optionalProbability ∧ o.optionalProbability ≤ 1.0 then .ok ()
  else .error (.notAProbability o.optionalProbability)

/-- The options of a run from end to end. -/
structure RunOptions where
  context : ContextOptions := {}
  /-- A directory of word files that takes the place of the bundled words. -/
  assetsDir : Option String := none
  deriving Inhabited

/-! ## Documents -/

/-- A path in a document: any text is one, and what is no text is reported as no path. -/
def Json.asPath : Json → Except DecodeError String
  | .str s => .ok s
  | other => .error (.invalidType (.of other) "path string")

/-- The options as the members of a document, each of them present whatever its value. -/
def ContextOptions.members (o : ContextOptions) : List (String × Json) := [
  ("seed", .ofUInt64 o.seed),
  ("locale", .str o.locale),
  ("max_unique_attempts", .ofUInt64 o.maxUniqueAttempts.toUInt64),
  ("default_optional_probability", .ofFloat o.optionalProbability),
  ("default_missing_value_style", .str o.missingStyle.name)]

/-- The options of a whole run as a document: those of its draws lie beside the directory, on one
    level with it, and a directory that was not given has no member. -/
def RunOptions.toJson (o : RunOptions) : Json :=
  .obj (o.context.members ++ optional "assets_dir" .str o.assetsDir)

/-- The members that the options of the draws are read from.  Each of them has a default; the reader
    of `missingStyle` says for which kind of document (`origin`) it is. -/
def ContextOptions.slots (origin : Origin) : List (Slot ContextOptions) := [
  .defaulted "seed" Json.asUInt64 fun a r => { r with seed := a },
  .defaulted "locale" Json.asText fun a r => { r with locale := a },
  .defaulted "max_unique_attempts" Json.asUInt32 fun a r => { r with maxUniqueAttempts := a },
  .defaulted "default_optional_probability" Json.asFloat fun a r =>
    { r with optionalProbability := a },
  .defaulted "default_missing_value_style" (MissingStyle.ofJson origin) fun a r =>
    { r with missingStyle := a }]

/-- Reads the options of the draws from a document of their own. -/
def ContextOptions.ofJson : Json → Except DecodeError ContextOptions :=
  Record.ofJson .document "ContextOptions" (ContextOptions.slots .document) {}

/-- The one member that the options of a whole run have in addition. -/
def RunOptions.slots : List (Slot RunOptions) := [
  .optional "assets_dir" Json.asPath fun a r => { r with assetsDir := a }]

/-- Reads the options of a run: the directory where it stands, everything else after that. -/
def RunOptions.ofJson : Json → Except DecodeError RunOptions
  | .obj members => do
    let own ← Record.ofMembers RunOptions.slots {} members
    let context ← Record.ofMembers (ContextOptions.slots .tagged) {} members
    return { own with context }
  | other => .error (.invalidType (.of other) "struct GenerateOptions")

end SyntheticTables
