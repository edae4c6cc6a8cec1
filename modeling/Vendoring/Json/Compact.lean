/-!
# JSON values in compact form

A value written without blanks. Inside texts only quotes, backslashes and control characters are
escaped, the latter by one letter where there is one.
-/

set_option autoImplicit false

namespace Vendoring.Json

/-- A JSON value. The members of an object have an order, and a key may occur more than once. -/
inductive Value where
  | null
  | boolean (b : Bool)
  | integer (n : Int)
  /-- A number with a fraction or an exponent, as it is written. -/
  | real (written : String)
  | text (s : String)
  | list (elements : List Value)
  | object (members : List (String × Value))
  deriving Inhabited

/-- A character as it is written inside a text. -/
def escapeChar (c : Char) : List Char :=
  match c with
  | '"' => ['\\', '"']
  | '\\' => ['\\', '\\']
  | '\x08' => ['\\', 'b']
  | '\x0c' => ['\\', 'f']
  | '\n' => ['\\', 'n']
  | '\r' => ['\\', 'r']
  | '\t' => ['\\', 't']
  | c =>
    if c.toNat < 0x20 then
      ['\\', 'u', '0', '0', Nat.digitChar (c.toNat / 16), Nat.digitChar (c.toNat % 16)]
    else [c]

/-- A text in quotes. -/
def textChars (s : String) : List Char := ['"'] ++ s.toList.flatMap escapeChar ++ ['"']

/-- The word for a truth value. -/
def booleanChars (b : Bool) : List Char :=
  if b then ['t', 'r', 'u', 'e'] else ['f', 'a', 'l', 's', 'e']

/-- An integer in decimal digits. -/
def integerChars (n : Int) : List Char :=
  (if n < 0 then ['-'] else []) ++ Nat.toDigits 10 n.natAbs

mutual

/-- A value in compact form. -/
def Value.chars : Value → List Char
  | .null => ['n', 'u', 'l', 'l']
  | .boolean b => booleanChars b
  | .integer n => integerChars n
  | .real written => written.toList
  | .text s => textChars s
  | .list elements => ['['] ++ elementChars true elements ++ [']']
  | .object members => ['\x7b'] ++ memberChars true members ++ ['\x7d']

/-- The elements of a list, with commas between them. -/
def elementChars (first : Bool) : List Value → List Char
  | [] => []
  | v :: vs => (if first then [] else [',']) ++ v.chars ++ elementChars false vs

/-- The members of an object, with commas between them. -/
def memberChars (first : Bool) : List (String × Value) → List Char
  | [] => []
  | (key, v) :: more =>
    (if first then [] else [',']) ++ textChars key ++ [':'] ++ v.chars ++ memberChars false more

end

/-- The compact form as text. -/
def Value.compact (v : Value) : String := String.ofList v.chars

end Vendoring.Json
