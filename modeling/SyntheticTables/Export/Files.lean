/-
  The files a package is exported to.
-/
import SyntheticTables.Export.Csv
import SyntheticTables.Export.Descriptor
import SyntheticTables.Files
import SyntheticTables.Json.Printer
import SyntheticTables.Table.Validity

namespace SyntheticTables

/-- The forms of an export; each goes with a layout of the descriptor. -/
inductive ExportFormat where
  /-- One file that holds everything. -/
  | json
  /-- A table file for each resource, and a descriptor. -/
  | csv
  deriving DecidableEq, Inhabited

namespace ExportFormat

/-- The name of a form, as documents and options write it. -/
def name : ExportFormat → String
  | json => "json"
  | csv => "csv"

/-- The forms under their names. -/
def names : List (String × ExportFormat) := [("json", .json), ("csv", .csv)]

/-- Where the descriptor of an export of this form says that the rows are. -/
def layout : ExportFormat → Layout
  | json => .inline
  | csv => .csv

/-- Reads a form by its name. -/
def ofJson : Json → Except DecodeError ExportFormat := Json.asChoice .document names

end ExportFormat

/-- A file and its text, before it is written anywhere. -/
structure OutFile where
  name : String
  text : String
  deriving DecidableEq, Inhabited

/-- What an export writes, and the numbers that its account gives. -/
structure Export where
  /-- The table files, one for each resource or none at all. -/
  tables : List OutFile
  descriptor : OutFile
  resources : Nat
  rows : Nat
  deriving Inhabited

/-- The files in the order they are written. -/
def Export.files (e : Export) : List OutFile := e.tables ++ [e.descriptor]

/-- How many bytes the files have together. -/
def Export.bytes (e : Export) : Nat := e.files.foldr (·.text.utf8ByteSize + ·) 0

/-- The text of a descriptor's file: members in ascending order, and a line feed at the end. -/
def descriptorText (descriptor : Json) : String := descriptor.sorted.pretty ++ "\n"

/-- The table files of resources that are counted from a place. -/
def tableFiles (place : Nat) : List TableResource → List OutFile
  | [] => []
  | r :: rest => ⟨resourceFile place r, Csv.ofResource r⟩ :: tableFiles (place + 1) rest

/-- The files of a package, which is checked first: no inconsistent package is laid out. -/
def Package.export (format : ExportFormat) (p : Package) : Except PackageError Export := do
  p.check
  let descriptor : OutFile := ⟨descriptorFile, descriptorText (p.descriptor format.layout)⟩
  let tables := match format with
    | .json => []
    | .csv => tableFiles 0 p.resources
  return { tables, descriptor, resources := p.resources.length, rows := p.rowsTotal }

/-- The account of an export; `directory` is where its files lie. -/
def Export.summary (directory : String) (e : Export) : Json :=
  .obj [
    ("descriptor", .str (joinPath directory e.descriptor.name)),
    ("files", .arr (e.files.map fun f => .str (joinPath directory f.name))),
    ("resources", .ofNat e.resources), ("rows", .ofNat e.rows), ("bytes", .ofNat e.bytes)]

/-! ## Writing -/

/-- Why an export could not be written, and at which of its steps. -/
inductive StoreError where
  | directory (cause : FileError)
  | table (cause : FileError)
  | descriptor (cause : FileError)
  deriving Repr, DecidableEq, Inhabited

/-- The text of a failure; a table that could not be written is said to be one. -/
def StoreError.message : StoreError → String
  | .directory cause => s!"io error: {cause.message}"
  | .table cause => s!"csv error: {cause.message}"
  | .descriptor cause => s!"io error: {cause.message}"

/-- Writes the files of an export to a directory, the descriptor last, so that there is no
    descriptor of tables that are not there. -/
def Export.store {m : Type → Type} [Monad m] (system : FileSystem m) (directory : String)
    (e : Export) : ExceptT StoreError m Unit := do
  let place := fun (f : OutFile) => ExceptT.mk (system.write (joinPath directory f.name) f.text)
  (ExceptT.mk (system.makeDirectories directory)).adapt .directory
  e.tables.forM fun f => (place f).adapt .table
  (place e.descriptor).adapt .descriptor

end SyntheticTables
