import Vendoring.Yaml.Mark

/-!
# Why a YAML text cannot be read

A text is malformed where something is missing or does not belong. What was being read there is the
context, which has a place of its own, namely where that began.
-/

set_option autoImplicit false

namespace Vendoring.Yaml

/-- What is wrong at a place. -/
inductive Problem where
  | expectedColon
  | entryNotAllowed
  | keyNotAllowed
  | valueNotAllowed
  | noTokenStart
  | unexpectedColon
  | tabBeforeText
  | unexpectedDocumentMarker
  | unexpectedEnd
  | unknownEscape
  | expectedHexNumber
  | invalidCode
  | zeroIndentation
  | expectedCommentOrBreak
  | tabForIndentation
  | expectedWord
  | expectedTagEnd
  | expectedBlankOrBreak
  | expectedBlank
  | expectedUri
  | expectedOctet
  | wrongLeadingOctet
  | wrongTrailingOctet
  | expectedExclamationMark
  | expectedDirectiveName
  | unexpectedInDirectiveName
  | unknownDirective
  | expectedVersionPoint
  | versionTooLong
  | expectedVersion
  | expectedDocumentStart
  | incompatibleVersion
  | repeatedVersion
  | repeatedTagHandle
  | undefinedTagHandle
  | expectedContent
  | expectedEntry
  | expectedKey
  | expectedSequenceEnd
  | expectedMappingEnd
  deriving DecidableEq, Repr

/-- The words for a problem. -/
def Problem.message : Problem → String
  | expectedColon => "could not find expected ':'"
  | entryNotAllowed => "block sequence entries are not allowed in this context"
  | keyNotAllowed => "mapping keys are not allowed in this context"
  | valueNotAllowed => "mapping values are not allowed in this context"
  | noTokenStart => "found character that cannot start any token"
  | unexpectedColon => "found unexpected ':'"
  | tabBeforeText => "found a tab character that violates indentation"
  | unexpectedDocumentMarker => "found unexpected document indicator"
  | unexpectedEnd => "found unexpected end of stream"
  | unknownEscape => "found unknown escape character"
  | expectedHexNumber => "did not find expected hexdecimal number"
  | invalidCode => "found invalid Unicode character escape code"
  | zeroIndentation => "found an indentation indicator equal to 0"
  | expectedCommentOrBreak => "did not find expected comment or line break"
  | tabForIndentation => "found a tab character where an indentation space is expected"
  | expectedWord => "did not find expected alphabetic or numeric character"
  | expectedTagEnd => "did not find the expected '>'"
  | expectedBlankOrBreak => "did not find expected whitespace or line break"
  | expectedBlank => "did not find expected whitespace"
  | expectedUri => "did not find expected tag URI"
  | expectedOctet => "did not find URI escaped octet"
  | wrongLeadingOctet => "found an incorrect leading UTF-8 octet"
  | wrongTrailingOctet => "found an incorrect trailing UTF-8 octet"
  | expectedExclamationMark => "did not find expected '!'"
  | expectedDirectiveName => "could not find expected directive name"
  | unexpectedInDirectiveName => "found unexpected non-alphabetical character"
  | unknownDirective => "found unknown directive name"
  | expectedVersionPoint => "did not find expected digit or '.' character"
  | versionTooLong => "found extremely long version number"
  | expectedVersion => "did not find expected version number"
  | expectedDocumentStart => "did not find expected <document start>"
  | incompatibleVersion => "found incompatible YAML document"
  | repeatedVersion => "found duplicate %YAML directive"
  | repeatedTagHandle => "found duplicate %TAG directive"
  | undefinedTagHandle => "found undefined tag handle"
  | expectedContent => "did not find expected node content"
  | expectedEntry => "did not find expected '-' indicator"
  | expectedKey => "did not find expected key"
  | expectedSequenceEnd => "did not find expected ',' or ']'"
  | expectedMappingEnd => "did not find expected ',' or '\x7d'"

/-- What is being read. -/
inductive Context where
  | simpleKey
  | nextToken
  | plainScalar
  | quotedScalar
  | quotedEscape
  | blockScalar
  | anchor
  | aliasName
  | tag
  | tagUri
  | directive
  | versionDirective
  | tagDirective
  | tagDirectiveUri
  | tagDirectiveHandle
  | tagDirectiveHandleEnd
  | node
  | blockNode
  | flowNode
  | blockSequence
  | blockMapping
  | flowSequence
  | flowMapping
  deriving DecidableEq, Repr

/-- The words for a context. -/
def Context.message : Context → String
  | simpleKey => "while scanning a simple key"
  | nextToken => "while scanning for the next token"
  | plainScalar => "while scanning a plain scalar"
  | quotedScalar => "while scanning a quoted scalar"
  | quotedEscape => "while parsing a quoted scalar"
  | blockScalar => "while scanning a block scalar"
  | anchor => "while scanning an anchor"
  | aliasName => "while scanning an alias"
  | tag => "while scanning a tag"
  | tagUri => "while parsing a tag"
  | directive => "while scanning a directive"
  | versionDirective => "while scanning a %YAML directive"
  | tagDirective => "while scanning a %TAG directive"
  | tagDirectiveUri => "while parsing a %TAG directive"
  | tagDirectiveHandle => "while scanning a tag directive"
  | tagDirectiveHandleEnd => "while parsing a tag directive"
  | node => "while parsing a node"
  | blockNode => "while parsing a block node"
  | flowNode => "while parsing a flow node"
  | blockSequence => "while parsing a block collection"
  | blockMapping => "while parsing a block mapping"
  | flowSequence => "while parsing a flow sequence"
  | flowMapping => "while parsing a flow mapping"

/-- Why a text cannot be read. -/
inductive Fault where
  /-- A character that no text may contain, behind so many bytes. -/
  | forbiddenCharacter (offset : Nat)
  /-- The form of the text is wrong at a place. -/
  | malformed (problem : Problem) (mark : Mark) (context? : Option (Context × Mark))
  /-- An alias for a node that has not come yet. -/
  | unknownAnchor (mark : Mark)
  /-- A value is missing. -/
  | endOfText
  deriving DecidableEq, Repr

/-- The words for a context at the end of a message about what is wrong at `mark`. -/
def Context.suffix (mark : Mark) : Context × Mark → String
  | (context, start) =>
    ", " ++ context.message ++ if start.sameSpot mark then "" else start.suffix

/-- The words for a fault. -/
def Fault.message : Fault → String
  | forbiddenCharacter offset =>
    "control characters are not allowed"
      ++ if offset = 0 then "" else " at position " ++ toString offset
  | malformed problem mark context? =>
    problem.message ++ mark.suffix ++ (context?.map (Context.suffix mark)).getD ""
  | unknownAnchor mark => "unknown anchor" ++ mark.suffix
  | endOfText => "EOF while parsing a value"

end Vendoring.Yaml
