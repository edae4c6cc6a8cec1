import Vendoring.Json.Fault

/-!
# Reading a JSON text from left to right

A text comes as bytes. It is read as glyphs, which are the characters of its UTF-8 form, and a
stray byte wherever that form is broken: a stray byte matters only where it is read, so a text can
be refused for something else in front of it. A `Reader` moves a cursor over the glyphs and
either yields a value or refuses the text.
-/

set_option autoImplicit false

namespace Vendoring.Json

/-- A character, or a byte that belongs to none. -/
inductive Glyph where
  | char (c : Char)
  | stray (byte : UInt8)
  deriving DecidableEq

/-- How many bytes a glyph takes. -/
def Glyph.size : Glyph → Nat
  | char c => c.utf8Size
  | stray _ => 1

/-- The glyphs of the bytes from an index on. -/
def glyphsFrom (bytes : ByteArray) (i : Nat) : List Glyph :=
  if h : i < bytes.size then
    match bytes.utf8DecodeChar? i with
    | some c => .char c :: glyphsFrom bytes (i + c.utf8Size)
    | none => .stray bytes[i] :: glyphsFrom bytes (i + 1)
  else []
termination_by bytes.size - i
decreasing_by
  · have := c.utf8Size_pos; omega
  · omega

/-- The glyphs of a text; there are stray ones only if the bytes are not UTF-8. -/
def glyphs (bytes : ByteArray) : List Glyph :=
  match String.fromUTF8? bytes with
  | some s => s.toList.map .char
  | none => glyphsFrom bytes 0

/-- The place one byte further, when `g` comes next. -/
def Position.step (p : Position) (g : Glyph) : Position :=
  if g = .char '\n' then ⟨p.line + 1, 0⟩ else ⟨p.line, p.column + 1⟩

/-- The place behind `g`. -/
def Position.after (p : Position) (g : Glyph) : Position :=
  if g = .char '\n' then ⟨p.line + 1, 0⟩ else ⟨p.line, p.column + g.size⟩

/-- A place in a text, and what follows it. -/
structure Cursor where
  position : Position
  rest : List Glyph

/-- A text from its start. -/
def Cursor.ofBytes (bytes : ByteArray) : Cursor := ⟨.start, glyphs bytes⟩

/-- The place one byte further, or the end of the text. -/
def Cursor.nextPosition (c : Cursor) : Position :=
  match c.rest with
  | [] => c.position
  | g :: _ => c.position.step g

/-- Takes a value off the front of a text, or refuses the text. -/
abbrev Reader (α : Type) := StateT Cursor (Except Fault) α

namespace Reader

/-- Refuses the text for what was taken last. -/
def failHere {α : Type} (cause : Cause) : Reader α := fun c => .error ⟨cause, c.position⟩

/-- Refuses the text for what comes next. -/
def failNext {α : Type} (cause : Cause) : Reader α := fun c => .error ⟨cause, c.nextPosition⟩

/-- What comes next, left where it is. -/
def peek : Reader (Option Glyph) := fun c => .ok (c.rest.head?, c)

/-- Passes over the next glyph. -/
def advance : Reader Unit := fun c =>
  match c.rest with
  | [] => .ok ((), c)
  | g :: rest => .ok ((), ⟨c.position.after g, rest⟩)

/-- Is the glyph one of the four blanks? -/
def isBlank (g : Glyph) : Bool :=
  g == .char ' ' || g == .char '\n' || g == .char '\t' || g == .char '\r'

/-- Behind the blanks that come next. -/
def behindBlanks (p : Position) : List Glyph → Cursor
  | [] => ⟨p, []⟩
  | g :: rest => if isBlank g then behindBlanks (p.after g) rest else ⟨p, g :: rest⟩

/-- Passes over blanks. -/
def skipBlanks : Reader Unit := fun c => .ok ((), behindBlanks c.position c.rest)

/-- What comes next after blanks, which are passed over. -/
def peekSolid : Reader (Option Glyph) := do skipBlanks; peek

/-- Passes over the remaining characters of a word that has begun. -/
def word : List Char → Reader Unit
  | [] => pure ()
  | expected :: more => do
    match ← peek with
    | none => failHere .endInValue
    | some g => if g = .char expected then do advance; word more else failNext .expectedWord

/-- The digits that come next, and what is behind them. -/
def digitsFrom (p : Position) (taken : List Char) : List Glyph → List Char × Cursor
  | .char c :: rest =>
    if c.isDigit then digitsFrom (p.after (.char c)) (c :: taken) rest
    else (taken.reverse, ⟨p, .char c :: rest⟩)
  | rest => (taken.reverse, ⟨p, rest⟩)

/-- Takes the digits that come next, none included. -/
def digits : Reader (List Char) := fun c => .ok (digitsFrom c.position [] c.rest)

end Reader

end Vendoring.Json
