/-
  The program.
-/
import Std.Time.DateTime.Timestamp
import SyntheticTables.CommandLine.Run

namespace SyntheticTables.CommandLine

/-- The error behind a number of the operating system, which some operations report with a minus.  A
    file that exists is only met where a directory is wanted. -/
def numberedError (code : UInt32) (details : String) : FileError :=
  match if code < 0x80000000 then code else 0 - code with
  | 2 => .notFound
  | 17 | 20 => .notADirectory
  | 21 => .isADirectory
  | 36 => .nameTooLong
  | _ => .other s!"{details} (os error {code})"

/-- Why the operating system refused. -/
def fileErrorOf : IO.Error → FileError
  | .noFileOrDirectory .. => .notFound
  | .inappropriateType _ code details
  | .invalidArgument _ code details | .permissionDenied _ code details
  | .resourceExhausted _ code details | .alreadyExists _ code details
  | .otherError code details => numberedError code details
  | e => .other (toString e)

/-- The outcome of an action that may fail, with the reason in the terms of `FileError`. -/
def guarded {α : Type} (act : IO α) : IO (Except FileError α) := do
  try return .ok (← act)
  catch e => return .error (fileErrorOf e)

/-- The text of bytes read from a file. -/
def textOf (bytes : Except FileError ByteArray) : Except FileError String := do
  match String.fromUTF8? (← bytes) with
  | some text => return text
  | none => throw .notText

/-- The files of the machine. -/
def machineFiles : FileSystem IO where
  read path := do return textOf (← guarded (IO.FS.readBinFile path))
  makeDirectories path := guarded (IO.FS.createDirAll path)
  write path text := guarded (IO.FS.writeFile path text)

/-- The machine that the program runs on: its files, its clock and its chance. -/
def machine : Host IO where
  files := machineFiles
  now := do
    let t ← Std.Time.Timestamp.now
    let nanoseconds := t.toNanosecondsSinceUnixEpoch.toInt.toNat
    return ⟨nanoseconds / 1000000000, nanoseconds % 1000000000⟩
  newId := do return identifier (← IO.getRandomBytes 16).toList
  newSeed := do
    return (← IO.getRandomBytes 8).foldl (fun seed b => seed <<< 8 ||| b.toUInt64) 0

end SyntheticTables.CommandLine

open SyntheticTables.CommandLine in
/-- The program: carries out a command line and prints what comes of it. -/
def main (args : List String) : IO UInt32 := do
  let outcome ← invoke machine args
  (← IO.getStdout).putStr outcome.output
  (← IO.getStderr).putStr outcome.complaint
  return outcome.exitCode
