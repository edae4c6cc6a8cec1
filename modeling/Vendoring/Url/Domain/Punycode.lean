/-!
# Punycode

A label with characters outside ASCII is written in ASCII as its ASCII characters, a hyphen, and
digits that say where the other characters go. These are inserted in the order of their code
points; each insertion is one number, which counts how far code point and place have moved since
the last one. The digits of a number are in base 36, with thresholds that adapt to the numbers
before it.
-/

set_option autoImplicit false

namespace Vendoring.Url.Punycode

/-- The digit for a value below 36. -/
def digitChar (d : Nat) : Char := if d < 26 then Char.ofNat (97 + d) else Char.ofNat (22 + d)

/-- The value of a digit. -/
def digitValue? (c : Char) : Option Nat :=
  if c.isDigit then some (c.toNat - 22)
  else if c.isLower then some (c.toNat - 97)
  else if c.isUpper then some (c.toNat - 65)
  else none

/-- The threshold of a digit, where `k` is 36 times its place counted from one. -/
def threshold (k bias : Nat) : Nat := min 26 (max 1 (k - bias))

theorem threshold_pos (k bias : Nat) : 1 ≤ threshold k bias := by
  simp only [threshold]; omega

theorem threshold_le (k bias : Nat) : threshold k bias ≤ 26 := by
  simp only [threshold]; omega

/-- The bias for a difference that still has to be scaled down. -/
def biasOf (k delta : Nat) : Nat :=
  if 455 < delta then biasOf (k + 36) (delta / 35) else k + 36 * delta / (delta + 38)
termination_by delta
decreasing_by omega

/-- The bias after a difference, with which the label has `count` characters. -/
def adapt (delta count : Nat) (first : Bool) : Nat :=
  let scaled := if first then delta / 700 else delta / 2
  biasOf 0 (scaled + scaled / count)

/-- What is known between two insertions. -/
structure State where
  code : Nat
  bias : Nat
  /-- Is the next number the first one? -/
  first : Bool

/-- Before the first insertion. -/
def State.start : State := ⟨128, 72, true⟩

/-! ## Writing -/

/-- The digits of a number. -/
def numberChars (bias k q : Nat) : List Char :=
  let t := threshold k bias
  if q < t then [digitChar q]
  else digitChar (t + (q - t) % (36 - t)) :: numberChars bias (k + 36) ((q - t) / (36 - t))
termination_by q
decreasing_by
  have h₁ := threshold_pos k bias
  have h₂ := threshold_le k bias
  have : (q - threshold k bias) / (36 - threshold k bias) ≤ q - threshold k bias :=
    Nat.div_le_self _ _
  omega

/-- A pass over the label for one code point: writes a number for each place it is inserted at.
`delta` counts the places passed since the last insertion, and `count` the characters in place. -/
def encodePass (code bias : Nat) (first : Bool) (delta count : Nat) :
    List Nat → List Char × Nat × Bool × Nat × Nat
  | [] => ([], bias, first, delta, count)
  | c :: cs =>
    if c < code then encodePass code bias first (delta + 1) count cs
    else if c = code then
      let (chars, rest) :=
        encodePass code (adapt delta (count + 1) first) false 0 (count + 1) cs
      (numberChars bias 36 delta ++ chars, rest)
    else encodePass code bias first delta count cs

/-- The passes for code points in ascending order. -/
def encodePasses (label : List Nat) (s : State) (delta count : Nat) : List Nat → List Char
  | [] => []
  | code :: codes =>
    let start := delta + (code - s.code) * (count + 1)
    let (chars, bias, first, passed, count) := encodePass code s.bias s.first start count label
    chars ++ encodePasses label ⟨code + 1, bias, first⟩ (passed + 1) count codes

/-- Numbers in ascending order, each once. -/
def ascending (ns : List Nat) : List Nat :=
  let sorted := ns.mergeSort (· ≤ ·)
  sorted.foldr (fun n rest => if rest.head? == some n then rest else n :: rest) []

/-- A label in Punycode. -/
def encode (label : List Char) : List Char :=
  let basic := label.filter fun c => c.toNat < 128
  let codes := label.map Char.toNat
  let others := ascending (codes.filter (128 ≤ ·))
  basic ++ (if basic.isEmpty then [] else ['-'])
    ++ encodePasses codes .start 0 basic.length others

/-! ## Reading -/

/-- Takes a number, of which `sum` has been read, from the front of the digits. -/
def number? (bias k weight sum : Nat) : List Nat → Option (Nat × List Nat)
  | [] => none
  | d :: ds =>
    let t := threshold k bias
    if d < t then some (sum + d * weight, ds)
    else number? bias (k + 36) (weight * (36 - t)) (sum + d * weight) ds

/-- Inserts the characters that the digits stand for; `place` is behind the last insertion. The
first number bounds the insertions. -/
def insertAll? : Nat → State → Nat → List Char → List Nat → Option (List Char)
  | _, _, _, label, [] => some label
  | 0, _, _, _, _ => none
  | bound + 1, s, place, label, digits =>
    match number? s.bias 36 1 0 digits with
    | none => none
    | some (delta, rest) =>
      let count := label.length + 1
      let moved := place + delta
      let code := s.code + moved / count
      let place := moved % count
      if h : code.isValidChar then
        insertAll? bound ⟨code, adapt delta count s.first, false⟩ (place + 1)
          (label.take place ++ Char.ofNatAux code h :: label.drop place) rest
      else none

/-- The label that a text in Punycode stands for. -/
def decode? (text : List Char) : Option (List Char) :=
  let backwards := text.reverse
  let digits := (backwards.takeWhile (· != '-')).reverse
  let basic := ((backwards.dropWhile (· != '-')).drop 1).reverse
  let digits := if basic.isEmpty then text else digits
  if basic.all fun c => c.toNat < 128 then
    (digits.mapM digitValue?).bind fun ds => insertAll? ds.length .start 0 basic ds
  else none

end Vendoring.Url.Punycode
