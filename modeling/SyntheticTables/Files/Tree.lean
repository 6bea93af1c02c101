/-
  A tree of files in memory.

  A path is followed part by part from the root.  A step needs a directory to stand in: a part that
  is missing, that is a file, or that is longer than a name may be ends the way with the reason.
-/
import SyntheticTables.Files

namespace SyntheticTables

/-! ## Trees -/

/-- What lies at a path: the bytes of a file, or a directory. -/
inductive FileContent where
  | bytes (b : ByteArray)
  | directory

/-- Files and directories under their paths, part by part.  Whatever lies above an entry is a
    directory as well, whether it has an entry of its own or not. -/
structure Files where
  entries : List (List String × FileContent)

namespace Files

/-- The tree with nothing but its root. -/
def empty : Files := ⟨[]⟩

/-- The parts that lead somewhere; empty parts and single periods stay where they are. -/
def plainParts (path : String) : List String :=
  (pathParts path).filter fun p => p ≠ "" && p ≠ "."

/-- Puts an entry at some parts; one of the same parts gives way, so no two entries have the same
    parts. -/
def put (f : Files) (parts : List String) (content : FileContent) : Files :=
  ⟨(parts, content) :: f.entries.filter (·.1 ≠ parts)⟩

/-- Takes the entry at some parts away; the directory that it lay in stays. -/
def clear (f : Files) (parts : List String) : Files :=
  ⟨(parts.dropLast, .directory) :: f.entries.filter (·.1 ≠ parts)⟩

/-- What lies at some parts.  The root is always there. -/
def lookup? (f : Files) (parts : List String) : Option FileContent :=
  match f.entries.find? (·.1 = parts) with
  | some e => some e.2
  | none =>
    if parts.isEmpty || f.entries.any fun e => parts.isPrefixOf e.1 then some .directory else none

/-! ## Ways -/

/-- How many bytes a name may have, as usual file systems allow. -/
def longestName : Nat := 255

/-- How many bytes a path may have, as usual file systems allow. -/
def longestPath : Nat := 4095

/-- The parts of a path that can be followed: it has no zero byte in it and is not too long. -/
def usableParts (path : String) : Except FileError (List String) :=
  if path.contains '\x00' then .error .badName
  else if longestPath < path.utf8ByteSize then .error .nameTooLong
  else .ok (pathParts path)

/-- What a part names in a directory.  `here` is the way to it, the last part first. -/
def step (f : Files) (here : List String) (part : String) :
    Except FileError (List String × Option FileContent) :=
  if longestName < part.utf8ByteSize then .error .nameTooLong
  else if part = "" || part = "." then .ok (here, some .directory)
  else if part = ".." then .ok (here.drop 1, some .directory)
  else .ok (part :: here, f.lookup? (part :: here).reverse)

/-- Follows parts from a directory into a directory. -/
def enter (f : Files) (here : List String) : List String → Except FileError (List String)
  | [] => .ok here
  | part :: rest =>
    match f.step here part with
    | .error e => .error e
    | .ok (_, none) => .error .notFound
    | .ok (_, some (.bytes _)) => .error .notADirectory
    | .ok (there, some .directory) => f.enter there rest

/-- Where a path leads and what lies there, if only its last part may be missing. -/
def reach (f : Files) (path : String) :
    Except FileError (List String × Option FileContent) := do
  let parts ← usableParts path
  f.step (← f.enter [] parts.dropLast) (parts.getLastD "")

/-- The text at a path: a file has to lie there, and its bytes have to be the text of something. -/
def read (f : Files) : FileReader := fun path =>
  match f.reach path with
  | .error e => .error e
  | .ok (_, none) => .error .notFound
  | .ok (_, some .directory) => .error .isADirectory
  | .ok (_, some (.bytes b)) => match String.fromUTF8? b with
    | some text => .ok text
    | none => .error .notText

/-! ## Changes -/

/-- Where a path leads that a file is to be put at, and what lies there.  With a slash at its end it
    leads to a directory, whether there is one or not. -/
def aim (f : Files) (path : String) : Except FileError (List String × Option FileContent) := do
  match (← usableParts path).reverse with
  | "" :: rest =>
    let here ← f.enter [] ((rest.dropWhile (· = "")).drop 1).reverse
    return (here, some .directory)
  | _ => f.reach path

/-- Puts bytes at a path whose directory exists. -/
def writeBytes (f : Files) (path : String) (b : ByteArray) : Except FileError Files :=
  match f.aim path with
  | .error e => .error e
  | .ok (_, some .directory) => .error .isADirectory
  | .ok (there, none) | .ok (there, some (.bytes _)) => .ok (f.put there.reverse (.bytes b))

/-- Puts a text at a path whose directory exists. -/
def write (f : Files) (path text : String) : Except FileError Files :=
  f.writeBytes path text.toUTF8

/-- Removes the file at a path. -/
def removeFile (f : Files) (path : String) : Except FileError Files :=
  match f.reach path with
  | .error e => .error e
  | .ok (_, none) => .error .notFound
  | .ok (_, some .directory) => .error .isADirectory
  | .ok (there, some (.bytes _)) => .ok (f.clear there.reverse)

/-- Makes a directory in one that exists. -/
def makeDirectory (f : Files) (parts : List String) : Except FileError Files :=
  match f.enter [] parts.dropLast with
  | .error e => .error e
  | .ok here => match f.step here (parts.getLastD "") with
    | .error e => .error e
    | .ok (_, some _) => .error .alreadyExists
    | .ok (there, none) => .ok (f.put there.reverse .directory)

/-- The tree itself if some parts lead to a directory in it, and otherwise a failure. -/
def unlessDirectory (f : Files) (parts : List String) (e : FileError) : Except FileError Files :=
  match f.enter [] parts with
  | .ok _ => .ok f
  | .error _ => .error e

/-- Makes the directory at some parts, given the last part first.  Those above it are made only when
    one of them is missing. -/
def makeUpTo (f : Files) : List String → Except FileError Files
  | [] => .ok f
  | part :: above =>
    let parts := (part :: above).reverse
    match f.makeDirectory parts with
    | .ok made => .ok made
    | .error .notFound =>
      match f.makeUpTo above with
      | .error e => .error e
      | .ok g => match g.makeDirectory parts with
        | .ok made => .ok made
        | .error e => g.unlessDirectory parts e
    | .error e => f.unlessDirectory parts e

/-- Makes a directory and those above it, as far as they are missing; a path that cannot be followed
    is refused before. -/
def makeDirectories (f : Files) (path : String) : Except FileError Files :=
  match usableParts path with
  | .error e => .error e
  | .ok _ => f.makeUpTo (plainParts path).reverse

/-- The path of the directory that a path lies in. -/
def directoryOf (path : String) : String := "/".intercalate (pathParts path).dropLast

/-- Puts something at a path and makes the directories above it. -/
def add? (f : Files) (path : String) : FileContent → Except FileError Files
  | .directory => f.makeDirectories path
  | .bytes b => do (← f.makeDirectories (directoryOf path)).writeBytes path b

/-- Puts something at a path; where that cannot be done nothing changes. -/
def add (f : Files) (path : String) (content : FileContent) : Files :=
  match f.add? path content with
  | .ok changed => changed
  | .error _ => f

/-- The directory that a path leads to. -/
def directoryAt? (f : Files) (path : String) : Option (List String) :=
  match f.enter [] (plainParts path) with
  | .ok here => some here.reverse
  | .error _ => none

/-- The files in the directory that a path leads to, under their names; directories in it are passed
    over. -/
def filesIn (f : Files) (path : String) : List (String × ByteArray) :=
  match f.directoryAt? path with
  | none => []
  | some parts => f.entries.filterMap fun
    | (place, .bytes b) =>
      if place ≠ [] && place.dropLast = parts then some (place.getLastD "", b) else none
    | (_, .directory) => none

/-- A change as a step of a computation over the tree; when it fails, the tree is kept as it was. -/
def change (act : Files → Except FileError Files) : StateM Files (Except FileError Unit) := fun f =>
  match act f with
  | .ok changed => (.ok (), changed)
  | .error e => (.error e, f)

/-- The files as a command finds them that works in a directory: paths are seen from there. -/
def systemAt (directory : String) : FileSystem (StateM Files) where
  read path := fun f => (f.read (joinPath directory path), f)
  makeDirectories path := change (·.makeDirectories (joinPath directory path))
  write path text := change (·.write (joinPath directory path) text)

end Files

end SyntheticTables
