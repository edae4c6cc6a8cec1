/-!
# Percent-encoding

A character that may not stand for itself in a part of a URL is written as the bytes of its UTF-8
form, each as a percent sign and two hexadecimal digits. Which characters these are depends on the
part. A percent sign is never one of them, so what is encoded already stays as it is.

Queries of forms have an encoding of their own: few characters stand for themselves, and a space
becomes a plus sign.
-/

set_option autoImplicit false

namespace Vendoring.Url

/-- A hexadecimal digit, with capital letters. -/
def hexDigit (n : Nat) : Char := if n < 10 then Char.ofNat (48 + n) else Char.ofNat (55 + n)

/-- The value of a hexadecimal digit. -/
def hexValue? (c : Char) : Option Nat :=
  if c.isDigit then some (c.toNat - 48)
  else if 'a' ≤ c && c ≤ 'f' then some (c.toNat - 87)
  else if 'A' ≤ c && c ≤ 'F' then some (c.toNat - 55)
  else none

/-- A byte in percent-encoding. -/
def percentByte (b : UInt8) : List Char := ['%', hexDigit (b.toNat / 16), hexDigit (b.toNat % 16)]

/-- A character in percent-encoding. -/
def percentChar (c : Char) : List Char := (String.utf8EncodeChar c).flatMap percentByte

/-- The characters with those in percent-encoding that are `escaped`. -/
def percentEncode (escaped : Char → Bool) (cs : List Char) : List Char :=
  cs.flatMap fun c => if escaped c then percentChar c else [c]

/-! ## What is escaped where -/

/-- Control characters and whatever is not ASCII. -/
def isControl (c : Char) : Bool := c.toNat < 0x20 || 0x7F ≤ c.toNat

/-- What is escaped in a fragment. -/
def escapedInFragment (c : Char) : Bool :=
  isControl c || c = ' ' || c = '"' || c = '<' || c = '>' || c = '\x60'

/-- What is escaped in a segment of a path. -/
def escapedInPath (c : Char) : Bool :=
  escapedInFragment c || c = '#' || c = '?' || c = '\x7b' || c = '\x7d'

/-- What is escaped in a user name or a password. -/
def escapedInUser (c : Char) : Bool :=
  escapedInPath c || c = '/' || c = ':' || c = ';' || c = '=' || c = '@' || c = '[' || c = '\\'
    || c = ']' || c = '^' || c = '|'

/-- What is escaped in a query. The apostrophe is if the scheme is a `special` one. -/
def escapedInQuery (special : Bool) (c : Char) : Bool :=
  isControl c || c = ' ' || c = '"' || c = '#' || c = '<' || c = '>' || (special && c = '\x27')

/-! ## Forms -/

/-- What stands for itself in the query of a form. -/
def plainInForm (c : Char) : Bool := c.isAlphanum || c = '*' || c = '-' || c = '.' || c = '_'

/-- A text in the query of a form. -/
def formEncode (cs : List Char) : List Char :=
  cs.flatMap fun c => if plainInForm c then [c] else if c = ' ' then ['+'] else percentChar c

/-! ## Decoding -/

/-- The bytes of a text with its percent-encoding undone. A percent sign without two hexadecimal
digits stands for itself. -/
def percentDecode : List Char → List UInt8
  | [] => []
  | '%' :: a :: b :: rest =>
    match hexValue? a, hexValue? b with
    | some x, some y => (x * 16 + y).toUInt8 :: percentDecode rest
    | _, _ => 0x25 :: percentDecode (a :: b :: rest)
  | c :: rest => String.utf8EncodeChar c ++ percentDecode rest

end Vendoring.Url
