/-!
# Similar words

How close two words are, from 0 to 1, by the measure of Jaro: it counts the letters that both have
at about the same place, and how many of these are in another order.
-/

set_option autoImplicit false

namespace Vendoring.CommandLine

/-- The index of the first letter `c` from `low` on and before `high` that is not yet `taken`. -/
def partner? (c : Char) (low high index : Nat) : List Char → List Bool → Option Nat
  | d :: ds, t :: ts =>
    if index < high && low ≤ index && c = d && !t then some index
    else partner? c low high (index + 1) ds ts
  | _, _ => none

/-- Which letters of `b` are partners of a letter of `a`, and the letters of `a` that have one. Each
letter takes the first free partner at most `range` places away. -/
def partners (range : Nat) (b : List Char) (index : Nat) (taken : List Bool) :
    List Char → List Bool × List Char
  | [] => (taken, [])
  | c :: cs =>
    match partner? c (index - range) (min b.length (index + range + 1)) 0 b taken with
    | some j =>
      let (taken, matched) := partners range b (index + 1) (taken.set j true) cs
      (taken, c :: matched)
    | none => partners range b (index + 1) taken cs

/-- The similarity of two words. -/
def similarity (a b : List Char) : Float :=
  let range := max a.length b.length / 2 - 1
  let (taken, matched) := partners range b 0 (List.replicate b.length false) a
  let inOrderOfB := (b.zip taken).filterMap fun entry => if entry.2 then some entry.1 else none
  let exchanged := ((matched.zip inOrderOfB).filter fun pair => pair.1 ≠ pair.2).length / 2
  let count := matched.length.toFloat
  if matched.isEmpty then 0.0
  else
    (count / a.length.toFloat + count / b.length.toFloat
      + (matched.length - exchanged).toFloat / count) / 3.0

/-- The more similar of two words to a given one; of two that are equally similar, the second. -/
def moreSimilar (given : List Char) (best : Option (Float × String)) (word : String) :
    Option (Float × String) :=
  let s := similarity given word.toList
  if 0.7 < s then
    match best with
    | some (t, _) => if t ≤ s then some (s, word) else best
    | none => some (s, word)
  else best

/-- The word that a misspelt one may have been meant as. -/
def meant? (given : String) (words : List String) : Option String :=
  (words.foldl (moreSimilar given.toList) none).map Prod.snd

end Vendoring.CommandLine
