/-
  Why a run gives no value.
-/
import SyntheticTables.Config.Check
import SyntheticTables.Options
import SyntheticTables.Table.Validity
import SyntheticTables.Vocabulary.Source

namespace SyntheticTables

/-- Among which values a value has to be unique. -/
inductive UniqueScope where
  /-- Those that one generator drew. -/
  | generator
  /-- Those claimed anywhere in the run. -/
  | run
  deriving Repr, DecidableEq, Inhabited

/-- The scope in one word, as messages show it. -/
def UniqueScope.name : UniqueScope → String
  | .generator => "local"
  | .run => "global"

/-- Why a run gives no value.  A checked configuration leaves only the first of these to its draws;
    the others come from values in the wrong slot, from words, options and configurations that are
    refused, and from inconsistent packages. -/
inductive GenError where
  | uniquenessExhausted (scope : UniqueScope) (attempts : UInt32)
  | unexpectedValue (expected : String) (got : TypeDesc)
  | emptyCombinator (name : String)
  | vocabulary (cause : VocabularyError)
  | invalidOptions (cause : OptionsError)
  | config (cause : CheckError)
  | package (cause : PackageError)
  deriving Inhabited

/-- The text of an error.  Causes from elsewhere speak for themselves, except that refused options
    are announced. -/
def GenError.message : GenError → String
  | .uniquenessExhausted scope attempts =>
    s!"could not generate a {scope.name} unique value within {attempts} attempts"
  | .unexpectedValue expected got => s!"unexpected value: expected {expected}, got {got.text}"
  | .emptyCombinator name => s!"{name} has no children"
  | .vocabulary cause => cause.message
  | .invalidOptions cause => s!"invalid options: {cause.message}"
  | .config cause => cause.message
  | .package cause => cause.message

end SyntheticTables
