import Vendoring.Text.CodeTable
import Vendoring.Text.Normal.Table

/-!
# Canonical composition

The same text can be written with composed characters or with marks behind their letters, and the
marks in more than one order. `compose` has one form for all of these: every character is taken
apart, runs of marks are put in the order of their combining classes, and each mark is composed
with its letter where there is a character for that. It is the normalisation form C of Unicode.
-/

set_option autoImplicit false

namespace Vendoring.Text

/-- Characters with the two that they are composed of. -/
def compositions : CodeTable := .ofText compositionText

/-- Characters that are only ever taken apart. -/
def decompositions : CodeTable := .ofText decompositionText

/-- The combining classes that are not zero. -/
def combiningClasses : CodeTable := .ofText combiningText

/-- The combining class, which is zero for all but marks. -/
def combiningClass (c : Char) : Nat :=
  match combiningClasses.row? c with
  | some row => row.values.headD 0
  | none => 0

/-! ## Hangul syllables -/

/-- The code point of the first Hangul syllable. -/
def firstSyllable : Nat := 0xAC00

/-- How many Hangul syllables there are. -/
def syllableCount : Nat := 11172

/-- The letters of a Hangul syllable. -/
def syllableLetters? (c : Char) : Option (List Nat) :=
  if firstSyllable ≤ c.toNat && c.toNat < firstSyllable + syllableCount then
    let index := c.toNat - firstSyllable
    let leadAndVowel := [0x1100 + index / 588, 0x1161 + index % 588 / 28]
    some (if index % 28 = 0 then leadAndVowel else leadAndVowel ++ [0x11A7 + index % 28])
  else none

/-- The Hangul syllable of two letters, or of a syllable and the letter that closes it. -/
def syllable? (a b : Nat) : Option Nat :=
  if 0x1100 ≤ a && a < 0x1113 && 0x1161 ≤ b && b < 0x1176 then
    some (firstSyllable + ((a - 0x1100) * 21 + (b - 0x1161)) * 28)
  else if firstSyllable ≤ a && a < firstSyllable + syllableCount && (a - firstSyllable) % 28 = 0
      && 0x11A7 < b && b < 0x11C3 then
    some (a + (b - 0x11A7))
  else none

/-! ## Taking apart and putting together -/

/-- What a character consists of. A composed character is taken apart at most `depth` times. -/
def decomposeChar : Nat → Char → List Char
  | 0, c => [c]
  | depth + 1, c =>
    match syllableLetters? c with
    | some letters => letters.map Char.ofNat
    | none =>
      match decompositions.values? c with
      | some parts => parts.map Char.ofNat
      | none =>
        match compositions.row? c with
        | some row => row.values.flatMap fun part => decomposeChar depth (Char.ofNat part)
        | none => [c]

/-- Every character taken apart. No character takes more than four steps. -/
def decompose (cs : List Char) : List Char := cs.flatMap (decomposeChar 4)

/-- Puts each run of marks in the order of the combining classes; equal ones stay in their order. -/
def sortMarks (cs : List Char) : List Char :=
  let place (c : Char) (sorted : List (Nat × Char)) : List (Nat × Char) :=
    let k := combiningClass c
    if k = 0 then (k, c) :: sorted
    else
      let lower := sorted.takeWhile fun entry => entry.1 ≠ 0 && entry.1 < k
      lower ++ (k, c) :: sorted.drop lower.length
  (cs.foldr place []).map Prod.snd

/-- The character that two are composed to. -/
def composePair? (a b : Char) : Option Char :=
  match syllable? a.toNat b.toNat with
  | some n => some (Char.ofNat n)
  | none =>
    (compositions.find? fun row => row.values == [a.toNat, b.toNat]).map fun row =>
      Char.ofNat row.first

/-- Composes marks with the letter before them. `letter` is the last character of class zero,
`marks` are those behind it that stayed, in reverse, and `lastClass` is the class of the last. -/
def composeFrom (letter : Char) (marks : List Char) (lastClass : Nat) : List Char → List Char
  | [] => letter :: marks.reverse
  | c :: cs =>
    let k := combiningClass c
    let reaches : Bool := marks.isEmpty || lastClass < k
    match if reaches then composePair? letter c else none with
    | some composed => composeFrom composed marks lastClass cs
    | none =>
      if k = 0 then letter :: (marks.reverse ++ composeFrom c [] 0 cs)
      else composeFrom letter (c :: marks) k cs

/-- Composes from the first character of class zero on. -/
def composeAll : List Char → List Char
  | [] => []
  | c :: cs => if combiningClass c = 0 then composeFrom c [] 0 cs else c :: composeAll cs

/-- The text in canonical composition. -/
def compose (cs : List Char) : List Char := composeAll (sortMarks (decompose cs))

end Vendoring.Text
