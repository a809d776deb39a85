import OffloadBench.Yaml.Tag

/-! # Tokens

The tokens of a stream of documents, and what can be wrong with such a stream.
-/
namespace OffloadBench.Yaml

inductive Style
  | plain
  | singleQuoted
  | doubleQuoted
  | literal
  | folded
  deriving DecidableEq, Repr

inductive Token
  | versionDirective (major minor : Nat)
  | tagDirective (handle : String) (lead : Tag)
  | documentStart
  | documentEnd
  | blockSequenceStart
  | blockMappingStart
  | blockEnd
  | flowSequenceStart
  | flowSequenceEnd
  | flowMappingStart
  | flowMappingEnd
  | blockEntry
  | flowEntry
  | key
  | value
  | alias (name : String)
  | anchor (name : String)
  | tag (handle : String) (suffix : Tag)
  | scalar (style : Style) (text : String)
  | streamEnd
  deriving DecidableEq, Repr

inductive SyntaxError
  | forbiddenCharacter
  | badDirective
  | badTag
  | badAnchor
  | badEscape
  | badBlockHeader
  | badTab
  | unexpectedColon
  | unexpectedCharacter
  | unexpectedMarker
  | unterminated
  | missingColon
  | misplacedEntry
  | misplacedKey
  | misplacedValue
  | unexpectedToken
  | undefinedHandle
  | undefinedAnchor
  | severalDocuments
  deriving DecidableEq, Repr

def SyntaxError.message : SyntaxError → String
  | .forbiddenCharacter => "control characters are not allowed"
  | .badDirective => "directive is not understood"
  | .badTag => "tag is not well formed"
  | .badAnchor => "anchor name expected"
  | .badEscape => "escape is not understood"
  | .badBlockHeader => "block scalar header is not well formed"
  | .badTab => "tab stands where indentation is expected"
  | .unexpectedColon => "colon needs a blank after it"
  | .unexpectedCharacter => "character cannot start a token"
  | .unexpectedMarker => "document marker stands inside a quoted scalar"
  | .unterminated => "quoted scalar does not end"
  | .missingColon => "colon expected after a key"
  | .misplacedEntry => "sequence entry is not allowed here"
  | .misplacedKey => "mapping key is not allowed here"
  | .misplacedValue => "mapping value is not allowed here"
  | .unexpectedToken => "token is not expected here"
  | .undefinedHandle => "tag handle is not defined"
  | .undefinedAnchor => "anchor is not defined"
  | .severalDocuments => "more than one document"

end OffloadBench.Yaml
