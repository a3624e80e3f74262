import ApiContract.Decode

/-!
# Faults in YAML text

A fault is the cause alone: which rule of the format a text breaks, or what a decoder misses in it.
-/

namespace ApiContract.Yaml

/-- Why a text is not the YAML text of what was asked for. -/
inductive Fault where
  | forbiddenCharacter
  | strayCharacter
  | strayKey
  | strayValue
  | strayEntry
  | strayColon
  | missingColon
  | tabAsIndentation
  | openQuote
  | markerInQuotes
  | invalidEscape
  | invalidBlockHeader
  | invalidDirective
  | invalidName
  | invalidTag
  | unknownHandle
  | unknownAnchor
  | missingNode
  | misplacedToken
  | noDocument
  | severalDocuments
  | tooDeep
  | tooManyReferences
  | data (problem : Problem)
  deriving Repr

/-- The text of a fault. -/
def Fault.message : Fault → String
  | .forbiddenCharacter => "control characters are not allowed"
  | .strayCharacter => "found character that cannot start any token"
  | .strayKey => "mapping keys are not allowed in this context"
  | .strayValue => "mapping values are not allowed in this context"
  | .strayEntry => "block sequence entries are not allowed in this context"
  | .strayColon => "found unexpected ':'"
  | .missingColon => "could not find expected ':'"
  | .tabAsIndentation => "found a tab character that violates indentation"
  | .openQuote => "found unexpected end of stream in a quoted scalar"
  | .markerInQuotes => "found unexpected document indicator in a quoted scalar"
  | .invalidEscape => "found invalid escape in a quoted scalar"
  | .invalidBlockHeader => "found invalid header of a block scalar"
  | .invalidDirective => "found invalid directive"
  | .invalidName => "did not find expected name of an anchor"
  | .invalidTag => "did not find expected tag"
  | .unknownHandle => "found undefined tag handle"
  | .unknownAnchor => "unknown anchor"
  | .missingNode => "did not find expected node content"
  | .misplacedToken => "did not find expected end of a collection"
  | .noDocument => "end of stream"
  | .severalDocuments => "more than one document"
  | .tooDeep => "recursion limit exceeded"
  | .tooManyReferences => "repetition limit exceeded"
  | .data problem => problem.message

end ApiContract.Yaml
