/-
  The directory of a run and the record kept there.
-/
import SyntheticTables.Engine
import SyntheticTables.Instant

namespace SyntheticTables

/-! ## Names -/

/-- A digit of a number to the base sixteen. -/
def hexDigit (n : Nat) : Char := (Nat.toDigits 16 (n % 16)).headD '0'

/-- A byte as two digits to the base sixteen. -/
def hexText (b : UInt8) : String := String.ofList [hexDigit (b.toNat / 16), hexDigit b.toNat]

/-- A random identifier of sixteen bytes, marked as such: the seventh byte starts with a four, the
    ninth with the bits one and zero. -/
def identifier (bytes : List UInt8) : String :=
  let marked := (bytes.modify 6 fun b => b &&& 0x0f ||| 0x40).modify 8 fun b => b &&& 0x3f ||| 0x80
  let text := fun from_ count => String.join (((marked.drop from_).take count).map hexText)
  "-".intercalate [text 0 4, text 4 2, text 6 2, text 8 2, text 10 6]

/-- The name of a run's directory. -/
def runName (started : Instant) (id : String) : String := s!"{started.stamp}__run_{id}"

/-- The file that the record of a run goes to. -/
def recordFile : String := "run.json"

/-- The file that the log of a run goes to. -/
def logFile : String := "logs.ndjson"

/-! ## Records -/

/-- What is kept of a run, beside the files of its export. -/
structure RunRecord where
  id : String
  started : Instant
  finished : Instant
  configPath : String
  format : ExportFormat
  report : Report
  /-- How many milliseconds the draws took. -/
  duration : Nat
  output : Export
  /-- The directory of the run. -/
  directory : String
  deriving Inhabited

/-- The record as a document.  The state of the sources is not asked for, so its members are
    empty. -/
def RunRecord.toJson (r : RunRecord) : Json := .obj [
  ("run_id", .str r.id),
  ("started_at", .str r.started.text),
  ("finished_at", .str r.finished.text),
  ("config_path", .str r.configPath),
  ("seed", .ofUInt64 r.report.seed),
  ("locale", .str r.report.locale),
  ("format", .str r.format.name),
  ("report", .obj (r.report.members (some r.duration))),
  ("export", r.output.summary r.directory),
  ("git", .obj [("commit", .null), ("dirty", .null)])]

end SyntheticTables
