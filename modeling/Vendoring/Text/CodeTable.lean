import Vendoring.Text.CodeRanges

/-!
# Tables of characters in text form

Large tables are kept as text, in rows with blanks between them. A row starts with a code point in
hexadecimal digits. `-` and a second one make it a run up to that one, and `/` one that takes every
second code point. What follows a `>` are values with `+` between them.

    41-5A>61     the first of 41 to 5A has the value 61, the next one 62, and so on
    100/12E>101  100, 102, … 12E, each with the one after it
    BD>31+2044+32
    AD>          a row without values
-/

set_option autoImplicit false

namespace Vendoring.Text

/-- A row of a table. -/
structure CodeRow where
  first : Nat
  last : Nat
  step : Nat
  values : List Nat
  deriving DecidableEq, Repr

/-- The number that hexadecimal digits stand for. -/
def hexNumber (cs : List Char) : Nat :=
  cs.foldl (fun n c => n * 16 + (if c.isDigit then c.toNat - 48 else c.toNat - 55)) 0

namespace CodeRow

/-- A row as it is written. -/
def ofChars (cs : List Char) : CodeRow :=
  let run := cs.takeWhile (· != '>')
  let values := match (cs.drop (run.length + 1)).splitOn '+' with
    | [[]] => []
    | parts => parts.map hexNumber
  match run.splitOn '-', run.splitOn '/' with
  | [a, b], _ => ⟨hexNumber a, hexNumber b, 1, values⟩
  | _, [a, b] => ⟨hexNumber a, hexNumber b, 2, values⟩
  | _, _ => ⟨hexNumber run, hexNumber run, 1, values⟩

/-- Is the code point in the row's run? -/
def holds (r : CodeRow) (code : Nat) : Bool :=
  r.first ≤ code && code ≤ r.last && (code - r.first) % r.step = 0

/-- The values for a code point in the row's run: the first one moves along with it. -/
def valuesAt (r : CodeRow) (code : Nat) : List Nat :=
  match r.values with
  | [] => []
  | v :: vs => (v + (code - r.first)) :: vs

end CodeRow

/-- A table of characters. -/
abbrev CodeTable := List CodeRow

namespace CodeTable

/-- The words between blanks, `word` being the one that has begun, in reverse. -/
def words (word : List Char) : List Char → List (List Char)
  | [] => if word.isEmpty then [] else [word.reverse]
  | c :: cs =>
    if c = ' ' || c = '\n' then
      if word.isEmpty then words [] cs else word.reverse :: words [] cs
    else words (c :: word) cs

/-- A table as it is written. -/
def ofText (s : String) : CodeTable := (words [] s.toList).map CodeRow.ofChars

/-- The row of a character. -/
def row? (t : CodeTable) (c : Char) : Option CodeRow := t.find? (·.holds c.toNat)

/-- Is the character in the table? -/
def holds (t : CodeTable) (c : Char) : Bool := (t.row? c).isSome

/-- The values of a character, if it is in the table. -/
def values? (t : CodeTable) (c : Char) : Option (List Nat) :=
  (t.row? c).map (·.valuesAt c.toNat)

end CodeTable

end Vendoring.Text
