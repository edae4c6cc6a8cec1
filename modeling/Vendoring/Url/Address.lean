import Vendoring.Url.Percent

/-!
# Numeric hosts

An IPv4 address has up to four numbers, each decimal, octal or hexadecimal, and the last of them
fills all the bytes that are left. An IPv6 address has eight groups of hexadecimal digits, of which
the last two can be given as an IPv4 address in plain decimals, and one run of zeros can be left
out.
-/

set_option autoImplicit false

namespace Vendoring.Url

/-! ## IPv4 -/

/-- The number that digits stand for, if all of them are digits of the base. -/
def ofDigits? (base : Nat) (cs : List Char) : Option Nat :=
  cs.foldlM (fun n c => (hexValue? c).bind fun d => if d < base then some (n * base + d) else none) 0

/-- A number of an IPv4 address: hexadecimal behind `0x`, octal behind `0`, decimal otherwise. -/
def ipv4Number? (cs : List Char) : Option Nat :=
  match cs with
  | [] => none
  | '0' :: 'x' :: digits => ofDigits? 16 digits
  | '0' :: 'X' :: digits => ofDigits? 16 digits
  | '0' :: c :: digits => ofDigits? 8 (c :: digits)
  | digits => ofDigits? 10 digits

/-- The parts between dots, without an empty one at the end. -/
def dottedParts (cs : List Char) : List (List Char) :=
  let parts := cs.splitOn '.'
  if parts.length > 1 && parts.getLast? == some [] then parts.dropLast else parts

/-- Is the host meant as an IPv4 address? It is if its last part is a number. -/
def endsInNumber (cs : List Char) : Bool :=
  match (dottedParts cs).getLast? with
  | none => false
  | some last => (!last.isEmpty && last.all Char.isDigit) || (ipv4Number? last).isSome

/-- The address with these numbers, all but the last being single bytes. -/
def ipv4OfNumbers? (numbers : List Nat) : Option Nat :=
  match numbers.getLast? with
  | none => none
  | some last =>
    let bytes := numbers.dropLast
    let lastLimit := Nat.pow 256 (4 - bytes.length)
    if bytes.length ≤ 3 && last < lastLimit && bytes.all (· < 256) then
      some (bytes.foldl (fun n b => n * 256 + b) 0 * lastLimit + last)
    else none

/-- The IPv4 address that a text stands for. -/
def ipv4? (cs : List Char) : Option Nat := ((dottedParts cs).mapM ipv4Number?).bind ipv4OfNumbers?

/-- An IPv4 address as four decimals. -/
def ipv4Chars (n : Nat) : List Char :=
  List.intercalate ['.']
    ([n / 0x1000000 % 256, n / 0x10000 % 256, n / 0x100 % 256, n % 256].map (Nat.toDigits 10))

/-! ## IPv6 -/

/-- A group of one to four hexadecimal digits. -/
def group? (cs : List Char) : Option Nat :=
  if 1 ≤ cs.length && cs.length ≤ 4 then ofDigits? 16 cs else none

/-- A byte in decimal digits, without leading zeros. -/
def plainByte? (cs : List Char) : Option Nat :=
  if cs.isEmpty || cs.length > 3 || (cs.length > 1 && cs.head? == some '0') then none
  else (ofDigits? 10 cs).bind fun n => if n < 256 then some n else none

/-- Four plain decimals as two groups. -/
def dottedGroups? (cs : List Char) : Option (List Nat) := do
  match ← (cs.splitOn '.').mapM plainByte? with
  | [a, b, c, d] => some [a * 256 + b, c * 256 + d]
  | _ => none

/-- The groups between colons; the last can be four plain decimals if `dottedEnd` holds. -/
def groups? (dottedEnd : Bool) : List (List Char) → Option (List Nat)
  | [] => some []
  | [last] =>
    if dottedEnd && last.contains '.' then dottedGroups? last else (group? last).map fun g => [g]
  | first :: rest => do
    let g ← group? first
    let gs ← groups? dottedEnd rest
    some (g :: gs)

/-- The groups of a text, which can be empty. -/
def groupsOfText? (dottedEnd : Bool) (cs : List Char) : Option (List Nat) :=
  if cs.isEmpty then some [] else groups? dottedEnd (cs.splitOn ':')

/-- What stands before and after the first double colon. -/
def splitAtGap? : List Char → Option (List Char × List Char)
  | [] => none
  | ':' :: ':' :: rest => some ([], rest)
  | c :: rest => (splitAtGap? rest).map fun (before, after) => (c :: before, after)

/-- The eight groups of the IPv6 address that a text stands for. -/
def ipv6? (cs : List Char) : Option (List Nat) :=
  match splitAtGap? cs with
  | none => do
    let gs ← groupsOfText? true cs
    if gs.length = 8 then some gs else none
  | some (before, after) => do
    let left ← groupsOfText? false before
    let right ← groupsOfText? true after
    let given := left.length + right.length
    if given ≤ 7 then some (left ++ List.replicate (8 - given) 0 ++ right) else none

/-- The start and the length of the first of the longest runs of zeros, `best` being the one found
before the groups that are left, of which the first has the given index. -/
def longestZeros (best : Nat × Nat) (index : Nat) : List Nat → Nat × Nat
  | [] => best
  | g :: gs =>
    let run := ((g :: gs).takeWhile (· == 0)).length
    longestZeros (if best.2 < run then (index, run) else best) (index + 1) gs

/-- Groups with colons between them. -/
def groupChars (gs : List Nat) : List Char := List.intercalate [':'] (gs.map (Nat.toDigits 16))

/-- An IPv6 address, with the first of the longest runs of at least two zeros left out. -/
def ipv6Chars (gs : List Nat) : List Char :=
  let (start, length) := longestZeros (0, 1) 0 gs
  if length < 2 then groupChars gs
  else groupChars (gs.take start) ++ [':', ':'] ++ groupChars (gs.drop (start + length))

end Vendoring.Url
