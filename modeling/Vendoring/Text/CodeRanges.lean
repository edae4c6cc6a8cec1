/-!
# Sets of characters as ranges of code points

A Unicode property is a set of characters. The tables of this library give one as its maximal
ranges in ascending order, and `CodeRanges.contain` asks for membership.
-/

set_option autoImplicit false

namespace Vendoring.Text

/-- Ranges of code points, both ends included, ascending and apart from each other. -/
abbrev CodeRanges := Array (Nat × Nat)

/-- Is the character in one of the ranges? -/
def CodeRanges.contain (ranges : CodeRanges) (c : Char) : Bool :=
  ranges.any fun range => range.1 ≤ c.toNat && c.toNat ≤ range.2

end Vendoring.Text
