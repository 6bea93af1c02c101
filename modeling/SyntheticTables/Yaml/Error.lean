/-
  How a text can fail to be a YAML document.
-/
import SyntheticTables.Text.Quoted

namespace SyntheticTables

/-- How a text can fail to be a YAML document of the kind read here, from its characters up to the
    values of its scalars. -/
inductive Yaml.Error where
  /-- A character that may not stand in a stream, or not at this place. -/
  | badCharacter (c : Char)
  /-- A tab where indentation is expected. -/
  | tabInIndent
  | badDirective
  | badName
  | badTag
  | badEscape
  | badBlockHeader
  /-- A quoted scalar without its closing quote, or with a document mark inside. -/
  | unclosedQuote
  /-- A key that is not followed by a colon on its line. -/
  | noColon
  /-- A mapping, a sequence or a key where none may begin. -/
  | notHere
  | unexpectedToken
  | unknownAlias
  /-- A key that is neither a name nor the place of a member. -/
  | badKey
  /-- A collection where a text is needed. -/
  | notText
  /-- A scalar that its tag does not fit, or a tag that no value can have. -/
  | tagMismatch
  | integerTooLarge
  | tooDeep
  /-- Aliases that are followed too often. -/
  | tooManyAliases
  | noDocument
  | moreDocuments
  deriving Repr, DecidableEq, Inhabited

/-- The text of a failure, without the place where it is met. -/
def Yaml.Error.message : Yaml.Error → String
  | .badCharacter c => s!"unexpected character {Text.quoted c.toString}"
  | .tabInIndent => "a tab where indentation is expected"
  | .badDirective => "invalid directive"
  | .badName => "invalid name of an anchor or alias"
  | .badTag => "invalid tag"
  | .badEscape => "invalid escape"
  | .badBlockHeader => "invalid indicators of a block scalar"
  | .unclosedQuote => "a quoted scalar is not closed"
  | .noColon => "could not find the colon behind a key"
  | .notHere => "a collection or a key may not begin here"
  | .unexpectedToken => "did not find the expected node content"
  | .unknownAlias => "unknown anchor"
  | .badKey => "a key must be the name or the place of a member"
  | .notText => "a string is needed here"
  | .tagMismatch => "a value does not fit its tag"
  | .integerTooLarge => "integer out of range"
  | .tooDeep => "recursion limit exceeded"
  | .tooManyAliases => "repetition limit exceeded"
  | .noDocument => "the stream holds no document"
  | .moreDocuments => "the stream holds more than one document"

end SyntheticTables
