import Vendoring.Json.Number
import Vendoring.Json.Text

/-!
# Values in a JSON text

The frame of lists and objects — what may follow an opening bracket, an element or a key — and two
ways to deal with a value that is not read for its content: `skipValue` passes over one of any
kind, `refuseValue` refuses the text for having it where another kind is expected.
-/

set_option autoImplicit false

namespace Vendoring.Json

/-- What elements are inside of. -/
inductive Frame where
  | list
  | object
  deriving DecidableEq, Repr

namespace Frame

/-- The bracket that ends it. -/
def close : Frame → Char
  | list => ']'
  | object => '\x7d'

/-- Why a text is refused that ends inside it. -/
def unfinished : Frame → Cause
  | list => .endInList
  | object => .endInObject

/-- Why a text is refused in which neither a comma nor the bracket follows an element. -/
def unseparated : Frame → Cause
  | list => .expectedListEnd
  | object => .expectedObjectEnd

end Frame

namespace Reader

/-! ## The frame of lists and objects -/

/-- Does another element come next in a list? Passes over the comma in front of it. -/
def hasElement (first : Bool) : Reader Bool := do
  match ← peekSolid with
  | none => failNext .endInList
  | some (.char ']') => pure false
  | some g =>
    if first then pure true
    else if g = .char ',' then
      advance
      match ← peekSolid with
      | none => failNext .endInValue
      | some (.char ']') => failNext .trailingComma
      | some _ => pure true
    else failNext .expectedListEnd

/-- Does another member come next in an object? Passes over the comma in front of it. -/
def hasMember (first : Bool) : Reader Bool := do
  match ← peekSolid with
  | none => failNext .endInObject
  | some (.char '\x7d') => pure false
  | some g =>
    if first then
      if g = .char '"' then pure true else failNext .keyNotText
    else if g = .char ',' then
      advance
      match ← peekSolid with
      | none => failNext .endInValue
      | some (.char '"') => pure true
      | some (.char '\x7d') => failNext .trailingComma
      | some _ => failNext .keyNotText
    else failNext .expectedObjectEnd

/-- Passes over the colon behind a key. -/
def colon : Reader Unit := do
  match ← peekSolid with
  | none => failNext .endInObject
  | some (.char ':') => advance
  | some _ => failNext .expectedColon

/-- Passes over the end of a list all of whose expected elements have been read. -/
def endList : Reader Unit := do
  match ← peekSolid with
  | none => failNext .endInList
  | some (.char ']') => advance
  | some (.char ',') =>
    advance
    match ← peekSolid with
    | some (.char ']') => failNext .trailingComma
    | _ => failNext .trailingCharacters
  | some _ => failNext .trailingCharacters

/-- Refuses the text for what a list or object as a whole says. The place is behind its end if
that comes next. -/
def failBehind {α : Type} (frame : Frame) (cause : Cause) : Reader α := do
  if (← peekSolid) = some (.char frame.close) then advance
  failHere cause

/-! ## Passing over a value -/

/-- Takes the key of a member that nobody asks for, with its colon. -/
def skipKey : Reader Unit := do
  match ← peekSolid with
  | none => failNext .endInObject
  | some (.char '"') => skipText; colon
  | some _ => failNext .keyNotText

/-- Behind a value: passes over the brackets that end with it. What is still open is returned, and
another value is expected in it. -/
def closeFrames : List Frame → Reader (List Frame)
  | [] => pure []
  | frame :: outer => do
    match ← peekSolid with
    | none => failNext frame.unfinished
    | some (.char ',') =>
      advance
      if frame = .object then skipKey
      pure (frame :: outer)
    | some g =>
      if g = .char frame.close then do advance; closeFrames outer
      else failNext frame.unseparated

/-- Behind an opening bracket: what is open when the next value is expected. -/
def openFrame (frame : Frame) (outer : List Frame) : Reader (List Frame) := do
  match ← peekSolid with
  | none => failNext frame.unfinished
  | some g =>
    if g = .char frame.close then do advance; closeFrames outer
    else do
      if frame = .object then skipKey
      pure (frame :: outer)

/-- Passes over a scalar, or over the bracket that opens a list or an object. -/
def skipHead : Reader (Option Frame) := do
  match ← peekSolid with
  | none => failNext .endInValue
  | some (.char 'n') => advance; word ['u', 'l', 'l']; pure none
  | some (.char 't') => advance; word ['r', 'u', 'e']; pure none
  | some (.char 'f') => advance; word ['a', 'l', 's', 'e']; pure none
  | some (.char '-') => advance; skipNumber; pure none
  | some (.char '"') => skipText; pure none
  | some (.char '[') => advance; pure (some .list)
  | some (.char '\x7b') => advance; pure (some .object)
  | some (.char c) => if c.isDigit then do skipNumber; pure none else failNext .expectedValue
  | some (.stray _) => failNext .expectedValue

/-- Passes over values until everything that is open has ended. The first number bounds the scalars
and brackets on the way. -/
def skipOpen : Nat → List Frame → Reader Unit
  | 0, _ => failNext .endInValue
  | bound + 1, outer => do
    let inner ←
      match ← skipHead with
      | none => closeFrames outer
      | some frame => openFrame frame outer
    if inner.isEmpty then pure () else skipOpen bound inner

/-- Passes over one value of any kind, however deep. -/
def skipValue : Reader Unit := do
  skipOpen ((← get).rest.length + 1) []

/-! ## Refusing a value -/

/-- Refuses the text because what comes next is not `expected`. A scalar is read first, and can be
refused for itself. -/
def refuseValue {α : Type} (expected : String) : Reader α := do
  match ← peek with
  | some (.char 'n') => advance; word ['u', 'l', 'l']; refuse .null
  | some (.char 't') => advance; word ['r', 'u', 'e']; refuse (.boolean true)
  | some (.char 'f') => advance; word ['a', 'l', 's', 'e']; refuse (.boolean false)
  | some (.char '-') => advance; refuse (← number true)
  | some (.char '"') => refuse (.text (← text))
  | some (.char '[') => refuse .list
  | some (.char '\x7b') => refuse .object
  | some (.char c) =>
    if c.isDigit then do refuse (← number false) else failNext .expectedValue
  | _ => failNext .expectedValue
where
  /-- Refuses the text for a value of the wrong kind. -/
  refuse (found : Found) : Reader α := failHere (.wrongType found expected)

/-- Takes a text, or refuses the text for another value. -/
def textValue : Reader String := do
  match ← peekSolid with
  | none => failNext .endInValue
  | some (.char '"') => text
  | some _ => refuseValue "a string"

/-- Takes a text or `null`. -/
def optionalTextValue : Reader (Option String) := do
  match ← peekSolid with
  | some (.char 'n') => advance; word ['u', 'l', 'l']; pure none
  | _ => some <$> textValue

/-- Takes `null`. -/
def nullValue : Reader Unit := do
  match ← peekSolid with
  | none => failNext .endInValue
  | some (.char 'n') => advance; word ['u', 'l', 'l']
  | some _ => refuseValue "unit"

end Reader

end Vendoring.Json
