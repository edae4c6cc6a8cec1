import Vendoring.Url.Domain.DirectionTable
import Vendoring.Url.Domain.JoiningTable
import Vendoring.Url.Domain.Mapping

/-!
# Labels that may stand in a domain name

A label is in its common form, does not start with a combining mark, and has joiners only where
they show. A domain name with a label that is written from right to left is subject to rules that
keep the order of its characters unambiguous.
-/

set_option autoImplicit false

namespace Vendoring.Url

open Text

/-! ## Joiners -/

/-- Characters that join with the one after them. -/
def joinsAfter : CodeTable := .ofText joinsAfterText

/-- Characters that join with the one before them. -/
def joinsBefore : CodeTable := .ofText joinsBeforeText

/-- Characters that are joined across. -/
def transparent : CodeTable := .ofText transparentText

/-- Combining marks. -/
def marks : CodeTable := .ofText markText

/-- The combining class of the signs that suppress a vowel. -/
def viramaClass : Nat := 9

/-- Is a joiner visible here, behind the characters in `before`, of which the nearest is the first,
and in front of those in `after`? A non-joiner also is between letters that would join. -/
def joinerShows (joins : Bool) (before after : List Char) : Bool :=
  before.head?.any (combiningClass · = viramaClass)
    || (!joins
      && (before.dropWhile transparent.holds).head?.any joinsAfter.holds
      && (after.dropWhile transparent.holds).head?.any joinsBefore.holds)

/-- Are all joiners visible, where `before` holds the characters passed, the nearest first? -/
def joinersShow (before : List Char) : List Char → Bool
  | [] => true
  | c :: cs =>
    (if c = '\u200c' then joinerShows false before cs
      else if c = '\u200d' then joinerShows true before cs
      else true)
    && joinersShow (c :: before) cs

/-! ## Writing direction -/

/-- Letters written from right to left. -/
def rightToLeft : CodeTable := .ofText rightToLeftText

/-- Arabic digits. -/
def arabicNumbers : CodeTable := .ofText arabicNumberText

/-- European digits. -/
def europeanNumbers : CodeTable := .ofText europeanNumberText

/-- Marks without a width of their own. -/
def nonspacing : CodeTable := .ofText nonspacingText

/-- Signs that take the direction of their neighbours. -/
def neutral : CodeTable := .ofText neutralText

/-- Characters of the other classes, apart from letters written from left to right. -/
def foreign : CodeTable := .ofText foreignText

/-- How a character takes part in writing direction. -/
inductive Direction where
  | leftToRight
  | rightToLeft
  | arabicNumber
  | europeanNumber
  | nonspacing
  | neutral
  | foreign
  deriving DecidableEq, Repr

/-- The direction of a character. -/
def Direction.ofChar (c : Char) : Direction :=
  if Url.rightToLeft.holds c then .rightToLeft
  else if arabicNumbers.holds c then .arabicNumber
  else if europeanNumbers.holds c then .europeanNumber
  else if Url.nonspacing.holds c then .nonspacing
  else if Url.neutral.holds c then .neutral
  else if Url.foreign.holds c then .foreign
  else .leftToRight

/-- Does the character make the domain name one with both directions? -/
def Direction.isBackward (d : Direction) : Bool := d = .rightToLeft || d = .arabicNumber

/-- May a label with these directions stand in a domain name with both? -/
def directionsFit (ds : List Direction) : Bool :=
  let last := (ds.reverse.dropWhile (· = .nonspacing)).head?
  match ds.head? with
  | none => true
  | some .rightToLeft =>
    ds.all (fun d => d ≠ .leftToRight && d ≠ .foreign)
      && (last = some .rightToLeft || last = some .europeanNumber || last = some .arabicNumber)
      && !(ds.contains .europeanNumber && ds.contains .arabicNumber)
  | some .leftToRight =>
    ds.all (fun d => !d.isBackward && d ≠ .foreign)
      && (last = some .leftToRight || last = some .europeanNumber)
  | some _ => false

/-! ## Labels -/

/-- May the label stand in a domain name, apart from its direction? -/
def isValidLabel (label : List Char) : Bool :=
  label.all (!isMapped ·)
    && compose label = label
    && !label.head?.any marks.holds
    && joinersShow [] label

end Vendoring.Url
