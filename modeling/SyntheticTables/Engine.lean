/-
  A run from end to end: check the tree, find the words, draw once, report.
-/
import SyntheticTables.Draw.Node
import SyntheticTables.Export.Files

namespace SyntheticTables

open Json (optional)

/-! ## Reports -/

/-- What a run says about one of its tables: its name and its size. -/
structure ResourceReport where
  name : String
  fields : Nat
  rows : Nat
  deriving DecidableEq, Inhabited

/-- What a run says about itself: what it was asked for, what it drew, and how much of the ledger
    that took. -/
structure Report where
  seed : UInt64
  locale : String
  /-- The kind of the root node. -/
  root : String
  declaredType : TypeDesc
  /-- How many keys were claimed. -/
  ledgerSize : Nat
  resources : List ResourceReport
  deriving Inhabited

/-- How many rows all tables of a run have together. -/
def Report.rowsTotal (r : Report) : Nat := r.resources.foldr (·.rows + ·) 0

/-- The report on a table.  It counts the rows that are there, which are those that the schema asks
    for if the table is valid. -/
def ResourceReport.ofResource (r : TableResource) : ResourceReport :=
  ⟨r.name, r.schema.fields.length, r.rows.length⟩

/-- The tables of a value that is a package or a table; other values have none to report. -/
def Value.resourceReports : Value → List ResourceReport
  | .package p => p.resources.map .ofResource
  | .tableResource r => [.ofResource r]
  | _ => []

/-- The report on a table, as a document. -/
def ResourceReport.toJson (r : ResourceReport) : Json :=
  .obj [("name", .str r.name), ("fields", .ofNat r.fields), ("rows", .ofNat r.rows)]

/-- The members of a report, with how many milliseconds the run took if that is known; the list of
    tables is left out when it is empty. -/
def Report.members (r : Report) (duration : Option Nat) : List (String × Json) :=
  [("seed", .ofUInt64 r.seed), ("locale", .str r.locale), ("root", .str r.root),
    ("declared_type", .str r.declaredType.text), ("ledger_size", .ofNat r.ledgerSize)]
    ++ optional "duration_ms" .ofNat duration
    ++ (if r.resources.isEmpty then []
      else [("resources", .arr (r.resources.map ResourceReport.toJson))])

/-! ## Runs -/

/-- The words for a locale: from the directory of the options, or the bundled ones. -/
def RunOptions.wordlist (o : RunOptions) (read : FileReader) (locale : String) :
    Except VocabularyError (List String) :=
  match o.assetsDir with
  | some dir => ((WordDirectory.ofPath dir).wordlist read locale).1
  | none => bundledList locale

/-- The only file that a run reads, if it reads any. -/
def RunOptions.wordFile? (o : RunOptions) : Option String :=
  o.assetsDir.map fun dir => wordFile dir o.context.locale

/-- Draws the value of a tree once in a fresh run: the tree is checked first, then the options, then
    the words are looked for. -/
def runOnce (read : FileReader) (o : RunOptions) (tree : Node) : Except GenError (Value × Report) := do
  match tree.check with
  | .error e => throw (.config e)
  | .ok () => pure ()
  let run ← Run.ofOptions o.context none (o.wordlist read)
  match run.draw 0 tree (State.ofSeed o.context.seed) with
  | (.error e, _) => throw e
  | (.ok value, state) =>
    return (value, {
      seed := o.context.seed
      locale := run.context.locale
      root := tree.tag
      declaredType := tree.declaredType
      ledgerSize := state.ledger.size
      resources := value.resourceReports })

/-- Draws the package of a tree and lays its files out.  A tree whose values are no packages fails
    only now, when its value is known. -/
def runAndExport (read : FileReader) (o : RunOptions) (tree : Node) (format : ExportFormat) :
    Except GenError (Report × Export) := do
  let (value, report) ← runOnce read o tree
  let package ← value.toPackage
  match package.export format with
  | .error e => throw (.package e)
  | .ok files => return (report, files)

end SyntheticTables
