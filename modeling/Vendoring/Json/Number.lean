import Vendoring.Json.Cursor
import Vendoring.Decimal.Text

/-!
# Numbers in a JSON text

A number is an integer if it is written without fraction and exponent, fits into 64 bits and is
not `-0`; otherwise it is a double. The double is computed in a fixed way from the first digits,
at most twenty of them, and a power of ten, and is not always the nearest one.

`number` reads a number for what it is, and `skipNumber` passes over one that nobody asks for: its
form is checked, its size is not.
-/

set_option autoImplicit false

namespace Vendoring.Json.Reader

/-- The largest integer of a number's digits, so far as they are kept. -/
def maxSignificand : Nat := 0xFFFFFFFFFFFFFFFF

/-- The greatest exponent of ten for which there is a double. -/
def maxPower : Nat := 308

/-- A number as it is written: the leading digits, as far as they are kept, times a power of ten. -/
structure Written where
  negative : Bool
  significand : Nat
  exponent : Int

/-- The double that is `10 ^ n`. -/
def powerOfTen (n : Nat) : Float := Float.ofScientific 1 false n

/-- A double divided by the greatest power of ten until the exponent is small enough, then scaled
by what is left. The result is none if it is too large. The first number bounds the divisions. -/
def scaleByTen? : Nat → Float → Int → Option Float
  | 0, x, _ => some x
  | bound + 1, x, exponent =>
    if exponent.natAbs ≤ maxPower then
      if 0 ≤ exponent then
        let scaled := x * powerOfTen exponent.natAbs
        if scaled.isInf then none else some scaled
      else some (x / powerOfTen exponent.natAbs)
    else if x == 0.0 then some x
    else if 0 ≤ exponent then none
    else scaleByTen? bound (x / powerOfTen maxPower) (exponent + maxPower)

/-- The double for a written number; `x / 10 ^ 308` is zero after a few divisions. -/
def Written.float? (w : Written) : Option Float :=
  (scaleByTen? 8 w.significand.toUInt64.toFloat w.exponent).map fun x =>
    if w.negative then -x else x

/-- The double for a written number, or a refusal behind it. -/
def float (w : Written) : Reader Found := do
  match w.float? with
  | some x => pure (.real (Decimal.floatText .compact x.toBits))
  | none => failHere .numberOutOfRange

/-- The kept digits with more of them behind, and how many were left over because they would not
fit into 64 bits. -/
def appendDigits (significand : Nat) : List Char → Nat × Nat
  | [] => (significand, 0)
  | d :: more =>
    let longer := significand * 10 + (d.toNat - '0'.toNat)
    if longer ≤ maxSignificand then appendDigits longer more
    else (significand, more.length + 1)

/-- The largest exponent that is counted. -/
def maxExponent : Nat := 0x7FFFFFFF

/-- Takes an exponent, whose letter comes next, and then has the double. -/
def exponentPart (w : Written) : Reader Found := do
  advance
  let negative ←
    match ← peek with
    | some (.char '+') => do advance; pure false
    | some (.char '-') => do advance; pure true
    | _ => pure false
  let start ← get
  let ds ← digits
  if ds.isEmpty then
    failNext (if start.rest.isEmpty then .endInValue else .invalidNumber)
  else
    let exponent := ds.foldl (fun n d => n * 10 + (d.toNat - '0'.toNat)) 0
    if exponent ≤ maxExponent then
      float { w with exponent := if negative then w.exponent - exponent else w.exponent + exponent }
    else if w.significand ≠ 0 && !negative then do
      set start
      advancePastLimit ds 0
      failHere .numberOutOfRange
    else pure (.real (if w.negative then "-0.0" else "0.0"))
where
  /-- Passes over digits up to the one with which their number exceeds the largest exponent. -/
  advancePastLimit : List Char → Nat → Reader Unit
    | [], _ => pure ()
    | d :: more, n => do
      advance
      let longer := n * 10 + (d.toNat - '0'.toNat)
      if longer ≤ maxExponent then advancePastLimit more longer else pure ()

/-- Takes an exponent if one comes next, and then has the double. -/
def floatTail (w : Written) : Reader Found := do
  match ← peek with
  | some (.char 'e') => exponentPart w
  | some (.char 'E') => exponentPart w
  | _ => float w

/-- Takes a fraction, whose point comes next, and then has the double. -/
def fractionPart (w : Written) : Reader Found := do
  advance
  let ds ← digits
  if ds.isEmpty then
    failNext (if (← peek).isNone then .endInValue else .invalidNumber)
  else
    let (significand, left) := appendDigits w.significand ds
    floatTail { w with significand, exponent := w.exponent - (ds.length - left : Nat) }

/-- Takes a fraction or exponent if one comes next, and then has the double. -/
def fractionTail (w : Written) : Reader Found := do
  match ← peek with
  | some (.char '.') => fractionPart w
  | _ => floatTail w

/-- The number with this integer part and nothing behind it. -/
def wholeNumber (negative : Bool) (n : Nat) : Found :=
  if !negative then .integer n
  else if n = 0 then .real "-0.0"
  else if n ≤ 0x8000000000000000 then .integer (-n)
  else .real (Decimal.floatText .compact (-n.toUInt64.toFloat).toBits)

/-- Takes a number, of which the sign has been taken. -/
def number (negative : Bool) : Reader Found := do
  let start ← get
  let ds ← digits
  match ds with
  | [] => failNext (if start.rest.isEmpty then .endInValue else .invalidNumber)
  | '0' :: _ :: _ => set start; advance; failNext .invalidNumber
  | ds =>
    let (significand, left) := appendDigits 0 ds
    if left = 0 then
      match ← peek with
      | some (.char '.') => fractionPart ⟨negative, significand, 0⟩
      | some (.char 'e') => exponentPart ⟨negative, significand, 0⟩
      | some (.char 'E') => exponentPart ⟨negative, significand, 0⟩
      | _ => pure (wholeNumber negative significand)
    else fractionTail ⟨negative, significand, left⟩

/-- Passes over an exponent, whose letter comes next. -/
def skipExponent : Reader Unit := do
  advance
  match ← peek with
  | some (.char '+') => advance
  | some (.char '-') => advance
  | _ => pure ()
  if (← digits).isEmpty then failNext .invalidNumber

/-- Passes over an exponent if one comes next. -/
def skipExponentTail : Reader Unit := do
  match ← peek with
  | some (.char 'e') => skipExponent
  | some (.char 'E') => skipExponent
  | _ => pure ()

/-- Passes over a number, of which the sign has been taken. -/
def skipNumber : Reader Unit := do
  let start ← get
  let ds ← digits
  match ds with
  | [] => failNext .invalidNumber
  | '0' :: _ :: _ => set start; advance; failNext .invalidNumber
  | _ =>
    match ← peek with
    | some (.char '.') =>
      advance
      if (← digits).isEmpty then failNext .invalidNumber else skipExponentTail
    | _ => skipExponentTail

end Vendoring.Json.Reader
