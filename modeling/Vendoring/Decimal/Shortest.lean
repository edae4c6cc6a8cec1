/-!
# The shortest decimal that reads back

A binary floating-point number stands for all the reals that round to it, an interval around
`mantissa · 2 ^ exponent`. Its shortest decimal is the one with the fewest digits in that interval,
and of those the nearest; of two that are equally near a rule for ties decides. `shortest` tries one digit, two digits and so on; for each count only
the two neighbours of the number on that decimal grid can be the nearest, and they are compared
with the ends of the interval in exact arithmetic. Seventeen digits always suffice.
-/

set_option autoImplicit false

namespace Vendoring.Decimal

/-- The positive number `mantissa · 2 ^ exponent`, with the distance to its lower neighbour half
of that to its upper one where `narrowBelow` holds. -/
structure Binary where
  mantissa : Nat
  exponent : Int
  narrowBelow : Bool
  deriving DecidableEq, Repr

/-- The decimal `0.d₁d₂… · 10 ^ point`, with the digits as one natural number. -/
structure Digits where
  digits : Nat
  point : Int
  deriving DecidableEq, Repr

/-- Which of two neighbours on a decimal grid stands for the number halfway between them. -/
inductive Tie where
  | upper
  | even
  deriving DecidableEq, Repr

/-- Does the upper neighbour stand for the number halfway above `below`? -/
def Tie.roundsUp : Tie → Nat → Bool
  | upper, _ => true
  | even, below => below % 2 = 1

/-- A positive quotient of natural numbers. -/
structure Quotient where
  num : Nat
  den : Nat

namespace Quotient

/-- `n · base ^ e`, for an exponent of either sign. -/
def scaled (q : Quotient) (base : Nat) (e : Int) : Quotient :=
  if 0 ≤ e then ⟨q.num * base.pow e.toNat, q.den⟩ else ⟨q.num, q.den * base.pow (-e).toNat⟩

/-- Less than. -/
def lt (a b : Quotient) : Bool := a.num * b.den < b.num * a.den

/-- At most. -/
def le (a b : Quotient) : Bool := a.num * b.den ≤ b.num * a.den

end Quotient

namespace Binary

/-- A quarter of the distance to the upper neighbour, `quarters` times. -/
def quarter (b : Binary) (quarters : Nat) : Quotient :=
  (Quotient.mk quarters 1).scaled 2 (b.exponent - 2)

/-- The number itself. -/
def value (b : Binary) : Quotient := b.quarter (4 * b.mantissa)

/-- Does `q` round to the number? The ends of the interval do if the mantissa is even. -/
def covers (b : Binary) (q : Quotient) : Bool :=
  let low := b.quarter (4 * b.mantissa - (if b.narrowBelow then 1 else 2))
  let high := b.quarter (4 * b.mantissa + 2)
  if b.mantissa % 2 = 0 then low.le q && q.le high else low.lt q && q.lt high

/-- The least `point` with the number below `10 ^ point`, searched upwards from a lower bound. -/
def pointFrom (b : Binary) : Nat → Int → Int
  | 0, point => point
  | fuel + 1, point =>
    if b.value.lt ((Quotient.mk 1 1).scaled 10 point) then point else b.pointFrom fuel (point + 1)

/-- The least `point` with the number below `10 ^ point`. No double is below `10 ^ -324`, nor
above `10 ^ 309`. -/
def point (b : Binary) : Int := b.pointFrom 640 (-324)

/-- The nearest decimal with `count` digits that reads back, if there is one. -/
def withDigits? (b : Binary) (tie : Tie) (point : Int) (count : Nat) : Option Digits :=
  let unit := point - count
  let inUnits := b.value.scaled 10 (-unit)
  let below := inUnits.num / inUnits.den
  let readsBack (d : Nat) : Bool := 0 < d && b.covers ((Quotient.mk d 1).scaled 10 unit)
  let twiceAbove := 2 * (inUnits.num - below * inUnits.den)
  let upperNearer :=
    inUnits.den < twiceAbove || (inUnits.den = twiceAbove && tie.roundsUp below)
  let found :=
    if readsBack below && readsBack (below + 1) then some (if upperNearer then below + 1 else below)
    else if readsBack below then some below
    else if readsBack (below + 1) then some (below + 1)
    else none
  found.map fun d => if d = Nat.pow 10 count then ⟨1, point + 1⟩ else ⟨d, point⟩

/-- The shortest decimal that reads back as the number. -/
def shortest (b : Binary) (tie : Tie) : Digits :=
  let point := b.point
  ((List.range 17).findSome? fun count => b.withDigits? tie point (count + 1)).getD ⟨0, 0⟩

/-- The magnitude in the bits of a double, if it is finite and not zero. -/
def ofBits? (bits : UInt64) : Option Binary :=
  let fraction := (bits &&& 0xFFFFFFFFFFFFF).toNat
  let biased := ((bits >>> 52) &&& 0x7FF).toNat
  if biased = 0x7FF then none
  else if biased = 0 then
    if fraction = 0 then none else some ⟨fraction, -1074, false⟩
  else some ⟨0x10000000000000 + fraction, (biased : Int) - 1075, fraction = 0 && biased ≠ 1⟩

end Binary

end Vendoring.Decimal
