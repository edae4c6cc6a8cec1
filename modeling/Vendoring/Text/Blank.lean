import Vendoring.Text.CodeRanges

/-!
# White space

The Unicode property `White_Space`, and text without the white space around it. The set has not
changed since Unicode 6.3, and it is larger than the six ASCII characters: a token pasted with a
no-break space around it is still the same token.
-/

set_option autoImplicit false

namespace Vendoring.Text

/-- The ranges of the property `White_Space`. -/
def blankRanges : CodeRanges := #[
  (0x0009, 0x000D), (0x0020, 0x0020), (0x0085, 0x0085), (0x00A0, 0x00A0), (0x1680, 0x1680),
  (0x2000, 0x200A), (0x2028, 0x2029), (0x202F, 0x202F), (0x205F, 0x205F), (0x3000, 0x3000)]

/-- White space, line breaks included. -/
def isBlank (c : Char) : Bool := blankRanges.contain c

/-- The characters without the white space before the first and after the last other one. -/
def trimChars (cs : List Char) : List Char :=
  ((cs.dropWhile isBlank).reverse.dropWhile isBlank).reverse

/-- The text without the white space at its two ends. -/
def trim (s : String) : String := String.ofList (trimChars s.toList)

/-- Is there nothing but white space? -/
def isAllBlank (s : String) : Bool := s.toList.all isBlank

end Vendoring.Text
