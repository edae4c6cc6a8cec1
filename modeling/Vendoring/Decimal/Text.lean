import Vendoring.Decimal.Shortest

/-!
# Floating-point numbers as text

Both styles show the shortest digits that read back, and both always show a decimal point where
they use no exponent. They differ in when an exponent is used: `compact` writes very large and very
small numbers with one, `positional` never does. They also differ in how they break ties.
-/

set_option autoImplicit false

namespace Vendoring.Decimal

/-- How a number is written. -/
structure Style where
  /-- A number has an exponent if its point, counted from the first digit, lies outside this range.
  No range means that there never is an exponent. -/
  points? : Option (Int × Int)
  tie : Tie

/-- Numbers from `0.00001` to below `10 ^ 16` without an exponent, others with one. -/
def Style.compact : Style := ⟨some (-4, 16), .even⟩

/-- All numbers without an exponent. -/
def Style.positional : Style := ⟨none, .upper⟩

/-- Zeros. -/
def zeros (n : Int) : List Char := List.replicate n.toNat '0'

/-- Digits without an exponent, with a point behind the first `point` of them. -/
def positionalChars (digits : List Char) (point : Int) : List Char :=
  if point ≤ 0 then ['0', '.'] ++ zeros (-point) ++ digits
  else if digits.length ≤ point then digits ++ zeros (point - digits.length) ++ ['.', '0']
  else digits.take point.toNat ++ ['.'] ++ digits.drop point.toNat

/-- Digits with a point behind the first one, and an exponent that always has its sign. -/
def exponentChars (digits : List Char) (point : Int) : List Char :=
  let exponent := point - 1
  let fraction := digits.drop 1
  digits.take 1 ++ (if fraction.isEmpty then [] else '.' :: fraction)
    ++ ['e', if exponent < 0 then '-' else '+'] ++ Nat.toDigits 10 exponent.natAbs

/-- A magnitude as text. -/
def Digits.chars (d : Digits) (style : Style) : List Char :=
  let digits := Nat.toDigits 10 d.digits
  match style.points? with
  | some (least, greatest) =>
    if least ≤ d.point && d.point ≤ greatest then positionalChars digits d.point
    else exponentChars digits d.point
  | none => positionalChars digits d.point

/-- The number in the bits of a double as text. -/
def floatText (style : Style) (bits : UInt64) : String :=
  let magnitude :=
    match Binary.ofBits? bits with
    | some b => String.ofList ((b.shortest style.tie).chars style)
    | none =>
      if bits &&& 0x7FFFFFFFFFFFFFFF = 0 then "0.0"
      else if bits &&& 0xFFFFFFFFFFFFF = 0 then "inf"
      else "NaN"
  if bits >>> 63 = 1 && magnitude != "NaN" then "-" ++ magnitude else magnitude

end Vendoring.Decimal
