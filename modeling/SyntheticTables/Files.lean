/-
  Files, as far as this program deals with them.

  A reader of files is a function from a path to the text found there or the reason why there is
  none.  A `FileSystem` is what a command needs of the files around it, in whatever monad they live.
-/

namespace SyntheticTables

/-! ## Failures -/

/-- Why nothing can be done at a path; what is not listed has the text that the machine gives. -/
inductive FileError where
  | notFound
  | notADirectory
  | isADirectory
  | alreadyExists
  | notText
  | badName
  | nameTooLong
  | other (text : String)
  deriving Repr, DecidableEq, Inhabited

/-- The text of a refusal, as the operating system puts it. -/
def FileError.message : FileError → String
  | .notFound => "No such file or directory (os error 2)"
  | .notADirectory => "Not a directory (os error 20)"
  | .isADirectory => "Is a directory (os error 21)"
  | .alreadyExists => "File exists (os error 17)"
  | .notText => "stream did not contain valid UTF-8"
  | .badName => "file name contained an unexpected NUL byte"
  | .nameTooLong => "File name too long (os error 36)"
  | .other text => text

/-- A reader of files: the text at each path, or the reason why there is none. -/
abbrev FileReader := (path : String) → Except FileError String

/-- What a command does with files, in whatever monad they live: in memory (`Files.systemAt`) or on
    a machine. -/
structure FileSystem (m : Type → Type) where
  /-- The text at a path. -/
  read : (path : String) → m (Except FileError String)
  /-- Makes a directory and those above it, as far as they are missing. -/
  makeDirectories : (path : String) → m (Except FileError Unit)
  /-- Puts a text at a path, in place of what was there; the directory has to exist. -/
  write : (path text : String) → m (Except FileError Unit)

/-! ## Paths -/

/-- The parts of a path, between its slashes; empty parts and periods are still among them. -/
def pathParts (path : String) : List String := (path.toList.splitOn '/').map String.ofList

/-- A path seen from a directory; a path from the root stays as it is. -/
def joinPath (directory path : String) : String :=
  if path.startsWith "/" || directory = "" then path
  else if directory.endsWith "/" then directory ++ path
  else directory ++ "/" ++ path

/-- The last part of a path that names something; a path that ends in two periods names nothing. -/
def fileName? (path : String) : Option String :=
  match ((pathParts path).reverse.dropWhile fun p => p = "" || p = ".") with
  | [] => none
  | name :: _ => if name = ".." then none else some name

/-- What follows the last period of a file name.  A lone period in front makes no extension. -/
def extension? (path : String) : Option String :=
  match fileName? path with
  | none => none
  | some name =>
    match (name.splitOn ".").reverse with
    | last :: before :: rest => if rest.isEmpty && before = "" then none else some last
    | _ => none

end SyntheticTables
