import Vendoring.Decimal.Read
import Vendoring.Decimal.Text
import Vendoring.Text.Quoted
import Vendoring.Yaml.Document

/-!
# What a scalar is

Text without quotes can be a value that is no text: nothing, a truth value or a number. A tag can
also say what a scalar is. Whoever wants text takes any scalar for its text, so the value matters
only where something else is wanted, and in messages.
-/

set_option autoImplicit false

namespace Vendoring.Yaml

/-- A value where one of another kind was expected. -/
inductive Found where
  | nothing
  | boolean (b : Bool)
  | integer (n : Int)
  /-- A double, as bits. -/
  | real (bits : UInt64)
  | text (s : String)
  | sequence
  | mapping
  deriving DecidableEq, Repr

/-- What is said about an integer that does not fit into 64 bits. -/
def widthSuffix (n : Int) : String :=
  if -0x8000000000000000 ≤ n && n < 0x10000000000000000 then ""
  else if 0 ≤ n then " as u128"
  else " as i128"

/-- The words for what was found. -/
def Found.message : Found → String
  | nothing => "unit value"
  | boolean b => "boolean \x60" ++ (if b then "true" else "false") ++ "\x60"
  | integer n => "integer \x60" ++ toString n ++ "\x60" ++ widthSuffix n
  | real bits => "floating point \x60" ++ Decimal.floatText .positional bits ++ "\x60"
  | text s => "string " ++ Text.quoted s
  | sequence => "sequence"
  | mapping => "map"

/-! ## Values in text -/

/-- Is the text a word for nothing? -/
def isNull (s : String) : Bool := s = "null" || s = "Null" || s = "NULL" || s = "~"

/-- The truth value that the text is a word for. -/
def boolean? (s : String) : Option Bool :=
  if s = "true" || s = "True" || s = "TRUE" then some true
  else if s = "false" || s = "False" || s = "FALSE" then some false
  else none

/-- The value of a digit. -/
def digitValue? (base : Nat) (c : Char) : Option Nat := (hexValue? c).filter (· < base)

/-- The natural number in digits. There must be one. -/
def digitsValue? (base : Nat) (digits : List Char) : Option Nat :=
  if digits.isEmpty then none
  else digits.foldlM (fun n c => (digitValue? base c).map (n * base + ·)) 0

/-- Digits of which the first is a zero that counts for nothing. Such text is no number. -/
def hasIdleZero (cs : List Char) : Bool :=
  match (Decimal.splitSign cs).2 with
  | '0' :: d :: digits => (d :: digits).all Char.isDigit
  | _ => false

/-- The natural number in text without a sign. Letters in front tell another base than ten. -/
def unsigned? : List Char → Option Nat
  | '0' :: 'x' :: digits => digitsValue? 16 digits
  | '0' :: 'o' :: digits => digitsValue? 8 digits
  | '0' :: 'b' :: digits => digitsValue? 2 digits
  | digits => if hasIdleZero digits then none else digitsValue? 10 digits

/-- The natural number in text, in front of which there may be a plus sign. -/
def natural? (s : String) : Option Nat :=
  match s.toList with
  | '+' :: rest => unsigned? rest
  | cs => unsigned? cs

/-- The least integer that is told from a floating-point number. It takes 128 bits with its sign. -/
def minInteger : Int := -0x80000000000000000000000000000000

/-- The least natural number that does not fit into 128 bits. -/
def integerLimit : Nat := 0x100000000000000000000000000000000

/-- The integer in text. It must fit into 128 bits, with a sign if it has one. -/
def integer? (s : String) : Option Int :=
  match s.toList with
  | '-' :: rest => ((unsigned? rest).map fun n => -(n : Int)).filter (minInteger ≤ ·)
  | _ => ((natural? s).filter (· < integerLimit)).map fun n => n

/-- The bits of an infinite double. -/
def infinityBits (negative : Bool) : UInt64 :=
  if negative then 0xFFF0000000000000 else 0x7FF0000000000000

/-- The bits of the double that is no number. -/
def nanBits : UInt64 := 0x7FF8000000000000

/-- Is the text a word for infinity? -/
def isInfinity (cs : List Char) : Bool :=
  let s := String.ofList cs
  s = ".inf" || s = ".Inf" || s = ".INF"

/-- The double in text, as bits. -/
def real? (s : String) : Option UInt64 :=
  let cs := s.toList
  let (negative, rest) := Decimal.splitSign cs
  if isInfinity rest then some (infinityBits negative)
  else if s = ".nan" || s = ".NaN" || s = ".NAN" then some nanBits
  else (Decimal.Literal.ofChars? cs).bind Decimal.Literal.bits?

/-- What text without quotes and tag is. -/
def Found.ofPlain (s : String) : Found :=
  if s.isEmpty || isNull s then .nothing
  else
    match boolean? s, integer? s with
    | some b, _ => .boolean b
    | none, some n => .integer n
    | none, none =>
      if hasIdleZero s.toList then .text s
      else match real? s with
        | some bits => .real bits
        | none => .text s

/-! ## Tags of values -/

/-- What the tags of values begin with. -/
def valueTag (name : String) : String := "tag:yaml.org,2002:" ++ name

/-- What a scalar is, or what its tag says that it is although it is not. -/
def Found.ofScalar (tag? : Option String) (style : Style) (s : String) : Except String Found :=
  let expect (value? : Option Found) (expected : String) : Except String Found :=
    match value? with
    | some value => .ok value
    | none => .error expected
  match tag? with
  | none => .ok (if style = .plain then .ofPlain s else .text s)
  | some tag =>
    if tag = valueTag "bool" then expect ((boolean? s).map .boolean) "a boolean"
    else if tag = valueTag "int" then expect ((integer? s).map .integer) "an integer"
    else if tag = valueTag "float" then expect ((real? s).map .real) "a float"
    else if tag = valueTag "null" then expect (if isNull s then some .nothing else none) "null"
    else .ok (.text s)

end Vendoring.Yaml
