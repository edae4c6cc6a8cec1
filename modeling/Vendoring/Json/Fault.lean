import Vendoring.Text.Quoted

/-!
# Why a JSON text is refused

A refusal has a cause and a place. The place is a line, counted from one, and a column in bytes,
which is the number of bytes of that line up to and including the one that gave rise to it.
-/

set_option autoImplicit false

namespace Vendoring.Json

/-- A value where one of another kind was expected. -/
inductive Found where
  | null
  | boolean (b : Bool)
  | integer (n : Int)
  /-- A number that is not kept as an integer, as it is shown. -/
  | real (shown : String)
  | text (s : String)
  | list
  | object
  deriving DecidableEq, Repr

/-- The words for what was found. -/
def Found.message : Found → String
  | null => "null"
  | boolean b => "boolean `" ++ (if b then "true" else "false") ++ "`"
  | integer n => "integer `" ++ toString n ++ "`"
  | real shown => "floating point `" ++ shown ++ "`"
  | text s => "string " ++ Text.quoted s
  | list => "sequence"
  | object => "map"

/-- Why a text is refused. -/
inductive Cause where
  | endInList
  | endInObject
  | endInText
  | endInValue
  | expectedColon
  | expectedListEnd
  | expectedObjectEnd
  | expectedWord
  | expectedValue
  | invalidEscape
  | invalidNumber
  | numberOutOfRange
  /-- The bytes of a text are not UTF-8. -/
  | invalidCodePoint
  | controlCharacter
  | keyNotText
  | loneSurrogate
  | unfinishedSurrogatePair
  | trailingComma
  | trailingCharacters
  | wrongType (found : Found) (expected : String)
  | wrongLength (length : Nat) (expected : String)
  | missingField (key : String)
  | duplicateField (key : String)
  deriving DecidableEq, Repr

/-- The words for a cause. -/
def Cause.message : Cause → String
  | endInList => "EOF while parsing a list"
  | endInObject => "EOF while parsing an object"
  | endInText => "EOF while parsing a string"
  | endInValue => "EOF while parsing a value"
  | expectedColon => "expected `:`"
  | expectedListEnd => "expected `,` or `]`"
  | expectedObjectEnd => "expected `,` or `\x7d`"
  | expectedWord => "expected ident"
  | expectedValue => "expected value"
  | invalidEscape => "invalid escape"
  | invalidNumber => "invalid number"
  | numberOutOfRange => "number out of range"
  | invalidCodePoint => "invalid unicode code point"
  | controlCharacter => "control character (\\u0000-\\u001F) found while parsing a string"
  | keyNotText => "key must be a string"
  | loneSurrogate => "lone leading surrogate in hex escape"
  | unfinishedSurrogatePair => "unexpected end of hex escape"
  | trailingComma => "trailing comma"
  | trailingCharacters => "trailing characters"
  | wrongType found expected => "invalid type: " ++ found.message ++ ", expected " ++ expected
  | wrongLength length expected =>
    "invalid length " ++ toString length ++ ", expected " ++ expected
  | missingField key => "missing field `" ++ key ++ "`"
  | duplicateField key => "duplicate field `" ++ key ++ "`"

/-- A place in a text. -/
structure Position where
  line : Nat
  column : Nat
  deriving DecidableEq, Repr

/-- The place before the first byte. -/
def Position.start : Position := ⟨1, 0⟩

/-- A refusal. -/
structure Fault where
  cause : Cause
  position : Position
  deriving DecidableEq, Repr

/-- The words for a refusal. -/
def Fault.message (fault : Fault) : String :=
  fault.cause.message ++ " at line " ++ toString fault.position.line
    ++ " column " ++ toString fault.position.column

end Vendoring.Json
