import Vendoring.Text.Visible

/-!
# Text in quotes

Messages show text between double quotes, with an escape for every character that would end the
quotes, could not be seen, or would fuse with its neighbour.
-/

set_option autoImplicit false

namespace Vendoring.Text

/-- A character by its code point, in lower-case hexadecimal digits without leading zeros. -/
def codeEscape (c : Char) : List Char :=
  ['\\', 'u', '\x7b'] ++ Nat.toDigits 16 c.toNat ++ ['\x7d']

/-- A character as it stands inside quotes. -/
def quotedChar (c : Char) : List Char :=
  if c = '\x00' then ['\\', '0']
  else if c = '\t' then ['\\', 't']
  else if c = '\r' then ['\\', 'r']
  else if c = '\n' then ['\\', 'n']
  else if c = '\\' || c = '"' then ['\\', c]
  else if extendsGrapheme c || !isVisible c then codeEscape c
  else [c]

/-- A text in quotes. -/
def quoted (s : String) : String := String.ofList (['"'] ++ s.toList.flatMap quotedChar ++ ['"'])

end Vendoring.Text
