import Vendoring.Text.Cased
import Vendoring.Text.LowerCase.Table

/-!
# Lower case

The full lower-case mapping of Unicode: the simple mapping of `lowerCaseRuns`, `İ` as `i` with a
dot above, and `Σ` by its place. A capital sigma becomes the final form `ς` when a cased character
stands before it and none after it, case-ignorable characters being looked past on both sides, and
`σ` everywhere else.
-/

set_option autoImplicit false

namespace Vendoring.Text

/-- The lower-case form by the simple mapping; a character without one stays. -/
def lowerChar (c : Char) : Char :=
  match lowerCaseRuns.find? (·.holds c.toNat) with
  | some run => Char.ofNat ((c.toNat : Int) + run.shift).toNat
  | none => c

/-- Is the next character that is not case-ignorable a cased one? -/
def nextIsCased (cs : List Char) : Bool :=
  match cs.dropWhile isCaseIgnorable with
  | c :: _ => isCased c
  | [] => false

/-- Lower case of `cs`, where `before` holds the characters in front of it, the nearest first. -/
def lowerCharsAfter (before : List Char) : List Char → List Char
  | [] => []
  | c :: cs =>
    let here :=
      if c = 'Σ' then (if nextIsCased before && !nextIsCased cs then ['ς'] else ['σ'])
      else if c = 'İ' then ['i', '\u0307']
      else [lowerChar c]
    here ++ lowerCharsAfter (c :: before) cs

/-- Lower case of a run of characters that stands alone. -/
def lowerChars (cs : List Char) : List Char := lowerCharsAfter [] cs

/-- Equal up to the case of the letters `A` to `Z`; all other characters have to agree. -/
def equalIgnoringAsciiCase (s t : String) : Bool :=
  s.toList.map Char.toLower == t.toList.map Char.toLower

end Vendoring.Text
