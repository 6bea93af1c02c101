/-
  What the commands do.

  A command works on a `Host`, which has the files, the time and the chance that it needs, in some
  monad; the steps and their order are the same on every host.  A step that fails ends the command,
  and what earlier steps wrote stays.
-/
import SyntheticTables.CommandLine.Arguments
import SyntheticTables.CommandLine.Record
import SyntheticTables.Config.Load
import SyntheticTables.Config.Schema
import SyntheticTables.Table.Schema

namespace SyntheticTables.CommandLine

/-! ## Hosts -/

/-- Where a command runs: what it needs of the world, in whatever monad that is. -/
structure Host (m : Type → Type) where
  files : FileSystem m
  now : m Instant
  /-- An identifier that no other run has. -/
  newId : m String
  /-- A seed for a run that is given none. -/
  newSeed : m UInt64

/-- Why a command fails, and at which of its steps. -/
inductive Failure where
  | settings (cause : Settings.Error)
  | config (cause : LoadError)
  /-- The directory of the run or its record cannot be written. -/
  | registry (cause : FileError)
  | generation (cause : GenError)
  | store (cause : StoreError)
  /-- The file of a schema cannot be written. -/
  | output (cause : FileError)
  deriving Inhabited

/-- The text of a failure: the step, then the cause. -/
def Failure.message : Failure → String
  | .settings cause => s!"settings error: {cause.message}"
  | .config cause => s!"configuration error: {cause.message}"
  | .registry cause => s!"registry error: io error: {cause.message}"
  | .generation cause => s!"generation error: {cause.message}"
  | .store cause => s!"generation error: {cause.message}"
  | .output cause => s!"io error: {cause.message}"

/-! ## Steps -/

variable {m : Type → Type} [Monad m]

/-- The step of a command that a file operation is. -/
def attempt (failure : FileError → Failure) (act : m (Except FileError Unit)) :
    ExceptT Failure m Unit :=
  (ExceptT.mk act).adapt failure

namespace Host

/-- The settings of a run: those of the command line over those of the settings file. -/
def settings (host : Host m) (args : GenerateArgs) : ExceptT Failure m Settings := do
  match args.settingsFile with
  | none => return args.flags
  | some path =>
    let fromFile : Settings ← (Settings.ofFile (← host.files.read path)).mapError Failure.settings
    return fromFile.merge args.flags

/-- The checked configuration of a run. -/
def config (host : Host m) (args : GenerateArgs) : ExceptT Failure m Node := do
  (Node.ofFile args.config (← host.files.read args.config)).mapError Failure.config

/-- The directory of a new run, with an empty log in it; it is there before anything is drawn. -/
def newDirectory (host : Host m) (parent : String) (started : Instant) (id : String) :
    ExceptT Failure m String := do
  let directory := joinPath parent (runName started id)
  attempt .registry (host.files.makeDirectories directory)
  attempt .registry (host.files.write (joinPath directory logFile) "")
  return directory

/-- A view of the files in which only a run's word file can be seen. -/
def wordReader (host : Host m) (o : RunOptions) : m FileReader :=
  match o.wordFile? with
  | none => pure fun _ => .error .notFound
  | some path => do
    let text ← host.files.read path
    return fun _ => text

/-- Makes a run and gives back its directory.  The seed is settled after the directory is there, and
    the record is written last. -/
def generate (host : Host m) (args : GenerateArgs) : ExceptT Failure m String := do
  let settings ← host.settings args
  let tree ← host.config args
  let id ← host.newId
  let started ← host.now
  let directory ← host.newDirectory settings.runsDir started id
  let seed ← match settings.seed with
    | some seed => pure seed
    | none => host.newSeed
  let options := settings.runOptions seed
  let format := settings.exportFormat
  let words ← host.wordReader options
  -- only the drawing is measured, not the reading and writing
  let drawingFrom ← host.now
  let (report, output) ← (runAndExport words options tree format).mapError Failure.generation
  let drawnAt ← host.now
  (output.store host.files directory).adapt .store
  let record : RunRecord := {
    id, started, format, report, output, directory
    finished := ← host.now
    configPath := args.config
    duration := drawingFrom.millisecondsUntil drawnAt }
  attempt .registry (host.files.write (joinPath directory recordFile) record.toJson.pretty)
  return directory

/-- Writes a schema to its file, or gives it back to be printed. -/
def schema (host : Host m) (args : SchemaArgs) : ExceptT Failure m String := do
  let document := match args.target with
    | .config => Node.schema
    | .package => Package.schema
  let text := document.pretty ++ "\n"
  match args.out with
  | none => return text
  | some path =>
    attempt .output (host.files.write path text)
    return ""

/-- Carries a command out and gives back what it prints. -/
def run (host : Host m) : Command → ExceptT Failure m String
  | .generate args => do return (← host.generate args) ++ "\n"
  | .schema args => host.schema args

end Host

/-! ## Invocations -/

/-- How an invocation ends: the exit code, and what is printed on either stream. -/
structure Outcome where
  exitCode : UInt32
  output : String := ""
  complaint : String := ""
  deriving Repr, DecidableEq, Inhabited

/-- The version that the program gives itself. -/
def programVersion : String := "0.1.0"

/-- The text that help and misuse print. -/
def usage : String := "\n".intercalate [
  "Seeded synthetic tabular data packages",
  "",
  "Usage: tabsynth <COMMAND>",
  "",
  "Commands:",
  "  generate <CONFIG>  Generate a data package from a generator configuration (JSON or YAML)",
  "  schema             Print a JSON Schema document",
  "  help               Print this message",
  "",
  "Options of generate:",
  "  --settings <PATH>              TOML file with run settings; flags override its keys",
  "  --seed <SEED>                  Seed of the run; a random one is drawn when absent",
  "  --locale <LOCALE>              Vocabulary locale, such as en_US or pt-BR",
  "  --max-unique-attempts <N>      Attempts before a uniqueness constraint gives up",
  "  --optional-probability <P>     Probability of optional nodes without their own",
  "  --missing-style <STYLE>        Default missing-value style: spss, stata or underscore",
  "  --assets-dir <DIR>             Directory of <locale>.txt word lists",
  "  --out <DIR>                    Parent directory of run directories (default: runs)",
  "  --format <FORMAT>              Export format: json (inline data) or csv",
  "  --log-format <FORMAT>          Console log format: text or json",
  "",
  "Options of schema:",
  "  --target <TARGET>              config (default) or package",
  "  --out <PATH>                   Write to a file instead of the console",
  ""]

/-- What comes of a detour: help and the version are no errors, a misuse is. -/
def Detour.outcome : Detour → Outcome
  | .help => { exitCode := 0, output := usage }
  | .version => { exitCode := 0, output := s!"tabsynth {programVersion}\n" }
  | .misuse => { exitCode := 2, complaint := usage }

/-- Carries a command line out: what a command prints, or why there is none or why it failed. -/
def invoke (host : Host m) (args : List String) : m Outcome := do
  match Command.ofArguments args with
  | .error detour => return detour.outcome
  | .ok command =>
    match ← (host.run command).run with
    | .ok output => return { exitCode := 0, output }
    | .error failure => return { exitCode := 1, complaint := s!"error: {failure.message}\n" }

end SyntheticTables.CommandLine
