/-
  Where the words of a run come from: the bundled list, lists given for some locales, or a directory
  with a file for each locale.

  A source has a list that is not empty, or says why not.  The directory remembers what it found for
  a locale, also that it found no file; a file that could not be read is tried again.
-/
import SyntheticTables.Files
import SyntheticTables.Json
import SyntheticTables.Vocabulary.Bundled
import SyntheticTables.Vocabulary.Locale

namespace SyntheticTables

/-- Why there are no words for a locale: nothing is known about it, its list is empty, or its file
    could not be read. -/
inductive VocabularyError where
  | unsupportedLocale (locale : String)
  | empty (locale : String)
  | unreadable (path : String) (cause : FileError)
  deriving Repr, DecidableEq, Inhabited

/-- The text of a failure; a file that could not be read is named. -/
def VocabularyError.message : VocabularyError → String
  | .unsupportedLocale locale => s!"unsupported locale '{locale}'"
  | .empty locale => s!"vocabulary for locale '{locale}' is empty"
  | .unreadable path cause => s!"asset error: failed to read vocabulary {path}: {cause.message}"

/-- A list found for a locale, refused when there is none or nothing in it. -/
def usableWords (locale : String) : Option (List String) → Except VocabularyError (List String)
  | none => .error (.unsupportedLocale locale)
  | some [] => .error (.empty locale)
  | some words => .ok words

/-! ## The bundled list -/

/-- The words of a bundled locale; a refusal names the locale as it was given. -/
def bundledList (locale : String) : Except VocabularyError (List String) :=
  match LocaleKey.parse? locale with
  | some _ => .ok bundledWords
  | none => .error (.unsupportedLocale locale)

/-! ## Given lists -/

/-- Words without blanks around them, blank ones left out; white space inside a word stays. -/
def cleanWords (words : List String) : List String := (words.map Text.trim).filter (· ≠ "")

/-- Word lists under normalized locales. -/
abbrev WordLists := List (String × List String)

namespace WordLists

/-- Adds a list; an earlier one for the same locale gives way. -/
def add (lists : WordLists) (locale : String) (words : List String) : WordLists :=
  Json.insertMember (normalizeLocale locale) (cleanWords words) lists

/-- The words given for a locale, under whatever spelling of it. -/
def wordlist (lists : WordLists) (locale : String) : Except VocabularyError (List String) :=
  let normal := normalizeLocale locale
  usableWords normal ((lists.find? (·.1 = normal)).map (·.2))

end WordLists

/-! ## A directory of lists -/

/-- The words of a file: one a line, without blanks around it; blank lines and lines that start with
    a hash are passed over. -/
def wordsOfText (text : String) : List String :=
  ((Text.lines text).map Text.trim).filter fun line => line ≠ "" && !line.startsWith "#"

/-- The file of a locale, under its normalized spelling. -/
def wordFile (directory locale : String) : String :=
  joinPath directory (normalizeLocale locale ++ ".txt")

/-- Looks the words of a locale up in a directory: a list, or nothing when there is no file. -/
def readWords (read : FileReader) (directory locale : String) :
    Except VocabularyError (Option (List String)) :=
  match read (wordFile directory locale) with
  | .ok text => .ok (some (wordsOfText text))
  | .error .notFound => .ok none
  | .error cause => .error (.unreadable (wordFile directory locale) cause)

/-- The words of a locale, read anew. -/
def freshWords (read : FileReader) (directory locale : String) :
    Except VocabularyError (List String) := do
  usableWords (normalizeLocale locale) (← readWords read directory locale)

/-- A directory of word files, with what was found before under normalized locales.  A locale
    without a file is remembered, too. -/
structure WordDirectory where
  path : String
  found : List (String × Option (List String))
  deriving Inhabited

namespace WordDirectory

/-- A directory in which nothing has been looked up. -/
def ofPath (path : String) : WordDirectory := ⟨path, []⟩

/-- What was found for a locale before. -/
def found? (d : WordDirectory) (locale : String) : Option (Option (List String)) :=
  (d.found.find? (·.1 = normalizeLocale locale)).map (·.2)

/-- The words of a locale, from memory if it was looked up before.  A failure to read is not
    remembered, so the next request tries the file again. -/
def wordlist (d : WordDirectory) (read : FileReader) (locale : String) :
    Except VocabularyError (List String) × WordDirectory :=
  match d.found? locale with
  | some entry => (usableWords (normalizeLocale locale) entry, d)
  | none => match readWords read d.path locale with
    | .error e => (.error e, d)
    | .ok entry =>
      (usableWords (normalizeLocale locale) entry,
       { d with found := (normalizeLocale locale, entry) :: d.found })

end WordDirectory

end SyntheticTables
