/-
  Making one name of several words.
-/
import SyntheticTables.Text.Case

namespace SyntheticTables

/-- The ways to join words: as a sentence, or as a name in one of four conventions. -/
inductive Joiner where
  | sentence
  | snakeCase
  | camelCase
  | kebabCase
  | snakeCaseCaps
  deriving DecidableEq, Inhabited

namespace Joiner

/-- The joiners in the order in which documents list them. -/
def all : List Joiner := [.sentence, .snakeCase, .camelCase, .kebabCase, .snakeCaseCaps]

/-- The words in small letters with a separator between them. -/
def lowerJoined (separator : String) (words : List String) : String :=
  separator.intercalate (words.map Text.lower)

/-- Capitalises the first word, keeps the others as they are, and ends with a period. -/
def sentenceOf : List String → String
  | [] => "."
  | first :: rest => " ".intercalate (Text.title first :: rest) ++ "."

/-- The first word in small letters, each other one capitalised, and nothing between them. -/
def camelOf : List String → String
  | [] => ""
  | first :: rest => Text.lower first ++ String.join (rest.map Text.title)

/-- Makes one text of some words.  Only a sentence keeps the case of the words after the first
    one. -/
def join : Joiner → List String → String
  | sentence, words => sentenceOf words
  | snakeCase, words => lowerJoined "_" words
  | camelCase, words => camelOf words
  | kebabCase, words => lowerJoined "-" words
  | snakeCaseCaps, words => Text.upper (lowerJoined "_" words)

end Joiner

end SyntheticTables
