/-!
# Reading a decimal number as a double

A number is digits, perhaps with a point among them and an exponent behind them. The double is the
nearest one. A number beyond all doubles has none, and one that is too small is zero.
-/

set_option autoImplicit false

namespace Vendoring.Decimal

/-- The number `± digits · 10 ^ exponent`. -/
structure Literal where
  negative : Bool
  digits : List Char
  exponent : Int
  deriving DecidableEq, Repr

/-- The natural number in decimal digits. -/
def ofDigits (digits : List Char) : Nat :=
  digits.foldl (fun n d => n * 10 + (d.toNat - '0'.toNat)) 0

/-- Without a sign in front, and whether that is a minus. -/
def splitSign : List Char → Bool × List Char
  | '+' :: rest => (false, rest)
  | '-' :: rest => (true, rest)
  | rest => (false, rest)

/-- The exponent behind the digits of a number, which is zero if there is none. -/
def exponent? : List Char → Option Int
  | [] => some 0
  | c :: rest =>
    let (negative, digits) := splitSign rest
    if (c = 'e' || c = 'E') && !digits.isEmpty && digits.all Char.isDigit then
      some (if negative then -(ofDigits digits : Int) else ofDigits digits)
    else none

/-- The number in the characters. -/
def Literal.ofChars? (cs : List Char) : Option Literal :=
  let (negative, rest) := splitSign cs
  let whole := rest.takeWhile Char.isDigit
  let rest := rest.dropWhile Char.isDigit
  let (fraction, rest) :=
    match rest with
    | '.' :: rest => (rest.takeWhile Char.isDigit, rest.dropWhile Char.isDigit)
    | rest => ([], rest)
  let digits := whole ++ fraction
  if digits.isEmpty then none
  else (exponent? rest).map fun e => ⟨negative, digits, e - fraction.length⟩

/-- The nearest double, as bits. Far outside the range of doubles the digits do not matter. -/
def Literal.bits? (n : Literal) : Option UInt64 :=
  let digits := n.digits.dropWhile (· = '0')
  let size := n.exponent + digits.length
  let magnitude : Float :=
    if digits.isEmpty || size < -400 then 0.0
    else if 400 < size then 1.0 / 0.0
    else if 0 ≤ n.exponent then Float.ofScientific (ofDigits digits) false n.exponent.natAbs
    else Float.ofScientific (ofDigits digits) true n.exponent.natAbs
  if magnitude.isInf then none
  else some (if n.negative then -magnitude else magnitude).toBits

end Vendoring.Decimal
