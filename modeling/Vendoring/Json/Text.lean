import Vendoring.Json.Cursor

/-!
# Texts inside a JSON text

A text stands between double quotes. A backslash starts an escape; a character outside the Basic
Multilingual Plane is escaped as a pair of surrogates, each with four hexadecimal digits.

There are two readings. `text` gives the characters. `skipText` passes over a text that nobody asks
for, and is more lenient: surrogates need not pair up and broken UTF-8 does not matter.
-/

set_option autoImplicit false

namespace Vendoring.Json.Reader

/-- The characters of the escapes with one letter. -/
def simpleEscape? (c : Char) : Option Char :=
  match c with
  | '"' => some '"'
  | '\\' => some '\\'
  | '/' => some '/'
  | 'b' => some '\x08'
  | 'f' => some '\x0c'
  | 'n' => some '\n'
  | 'r' => some '\r'
  | 't' => some '\t'
  | _ => none

/-- The value of a hexadecimal digit. -/
def hexDigit? (g : Glyph) : Option Nat :=
  match g with
  | .char c =>
    if c.isDigit then some (c.toNat - '0'.toNat)
    else if 'a' ≤ c && c ≤ 'f' then some (c.toNat - 'a'.toNat + 10)
    else if 'A' ≤ c && c ≤ 'F' then some (c.toNat - 'A'.toNat + 10)
    else none
  | .stray _ => none

/-- The place that many bytes further, or the end of the text if that comes first: then there is
no such place. -/
def bytesFurther (p : Position) : Nat → List Glyph → Bool × Position
  | 0, _ => (true, p)
  | _ + 1, [] => (false, p)
  | n + 1, g :: rest =>
    if g.size ≤ n + 1 then bytesFurther (p.after g) (n + 1 - g.size) rest
    else (true, ⟨p.line, p.column + (n + 1)⟩)

/-- Why the next four bytes are not four hexadecimal digits. All four count as taken. -/
def hexFault (c : Cursor) : Fault :=
  match bytesFurther c.position 4 c.rest with
  | (true, p) => ⟨.invalidEscape, p⟩
  | (false, p) => ⟨.endInText, p⟩

/-- The value of four digits in base sixteen. -/
def hexValue? (a b c d : Glyph) : Option Nat := do
  let a ← hexDigit? a
  let b ← hexDigit? b
  let c ← hexDigit? c
  let d ← hexDigit? d
  pure (((a * 16 + b) * 16 + c) * 16 + d)

/-- Takes four hexadecimal digits. -/
def hex4 : Reader Nat := fun cursor =>
  match cursor.rest with
  | a :: b :: c :: d :: rest =>
    match hexValue? a b c d with
    | some n => .ok (n, ⟨⟨cursor.position.line, cursor.position.column + 4⟩, rest⟩)
    | none => .error (hexFault cursor)
  | _ => .error (hexFault cursor)

/-- The first half of a surrogate pair. -/
def isHighSurrogate (n : Nat) : Bool := 0xD800 ≤ n && n ≤ 0xDBFF

/-- The second half of a surrogate pair. -/
def isLowSurrogate (n : Nat) : Bool := 0xDC00 ≤ n && n ≤ 0xDFFF

/-- The character that a surrogate pair stands for. -/
def ofSurrogates (high low : Nat) : Char :=
  Char.ofNat (0x10000 + (high - 0xD800) * 0x400 + (low - 0xDC00))

/-- Takes a character that has to come between the halves of a surrogate pair. -/
def betweenSurrogates (expected : Char) : Reader Unit := do
  match ← peek with
  | none => failHere .endInText
  | some g =>
    if g = .char expected then advance else failNext .unfinishedSurrogatePair

/-- Takes the character of an escape by its code, of which the `u` has been taken. -/
def codeEscape : Reader Char := do
  let high ← hex4
  if isLowSurrogate high then failHere .loneSurrogate
  else if isHighSurrogate high then
    betweenSurrogates '\\'
    betweenSurrogates 'u'
    let low ← hex4
    if isLowSurrogate low then pure (ofSurrogates high low) else failHere .loneSurrogate
  else pure (Char.ofNat high)

/-- Takes the character of an escape whose backslash has been taken. -/
def escape : Reader Char := do
  match ← peek with
  | none => failHere .endInText
  | some (.char 'u') => advance; codeEscape
  | some (.char c) =>
    match simpleEscape? c with
    | some meant => advance; pure meant
    | none => failNext .invalidEscape
  | some (.stray _) => failNext .invalidEscape

/-- Takes the rest of a text, `kept` being its characters so far in reverse. The first number
bounds how many glyphs are taken. -/
def textFrom : Nat → List Char → Reader String
  | 0, _ => failHere .endInText
  | bound + 1, kept => do
    match ← peek with
    | none => failHere .endInText
    | some (.stray _) => failNext .invalidCodePoint
    | some (.char '"') => advance; pure (String.ofList kept.reverse)
    | some (.char '\\') => advance; textFrom bound ((← escape) :: kept)
    | some (.char c) =>
      if c.toNat < 0x20 then failNext .controlCharacter
      else do advance; textFrom bound (c :: kept)

/-- Takes the characters of a text whose opening quote comes next. -/
def text : Reader String := do
  advance
  textFrom ((← get).rest.length + 1) []

/-- Passes over the rest of an escape whose backslash has been taken. -/
def skipEscape : Reader Unit := do
  match ← peek with
  | none => failHere .endInText
  | some (.char 'u') => advance; let _ ← hex4
  | some (.char c) => if (simpleEscape? c).isSome then advance else failNext .invalidEscape
  | some (.stray _) => failNext .invalidEscape

/-- Passes over the rest of a text. -/
def skipTextFrom : Nat → Reader Unit
  | 0 => failHere .endInText
  | bound + 1 => do
    match ← peek with
    | none => failHere .endInText
    | some (.stray _) => advance; skipTextFrom bound
    | some (.char '"') => advance
    | some (.char '\\') => advance; skipEscape; skipTextFrom bound
    | some (.char c) =>
      if c.toNat < 0x20 then failHere .controlCharacter else do advance; skipTextFrom bound

/-- Passes over a text whose opening quote comes next. -/
def skipText : Reader Unit := do
  advance
  skipTextFrom ((← get).rest.length + 1)

end Vendoring.Json.Reader
