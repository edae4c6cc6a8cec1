import Vendoring.Url.Domain.Label
import Vendoring.Url.Domain.Punycode
import Vendoring.Url.Percent

/-!
# Domain names

A domain name in a URL is brought to its ASCII form: common form, labels between dots, each label
with other characters in Punycode behind `xn--`. A label that comes in that form is checked as what
it stands for. For a name in plain ASCII all of this comes down to small letters.
-/

set_option autoImplicit false

namespace Vendoring.Url

/-- What starts a label in Punycode. -/
def punycodeMark : List Char := ['x', 'n', '-', '-']

/-- Is the character ASCII? -/
def isAscii (c : Char) : Bool := c.toNat < 128

/-- ASCII characters that a domain name may not hold. -/
def isForbiddenAscii (c : Char) : Bool :=
  c.toNat ≤ 0x20 || c.toNat = 0x7F || c = '#' || c = '%' || c = '/' || c = ':' || c = '<' || c = '>'
    || c = '?' || c = '@' || c = '[' || c = '\\' || c = ']' || c = '^' || c = '|'

/-- Is the name made of ASCII labels only, none of them in Punycode? -/
def isPlainDomain (cs : List Char) : Bool :=
  cs.all isAscii
    && (cs.splitOn '.').all fun label => !punycodeMark.isPrefixOf (label.map Char.toLower)

/-- What a label stands for, if it may. -/
def readLabel? (label : List Char) : Option (List Char) :=
  if punycodeMark.isPrefixOf label then
    match Punycode.decode? (label.drop punycodeMark.length) with
    | some decoded =>
      if !decoded.all isAscii && !punycodeMark.isPrefixOf decoded && !decoded.contains '.'
        && isValidLabel decoded then some decoded else none
    | none => none
  else if isValidLabel label then some label
  else none

/-- A label in ASCII. -/
def writeLabel (label : List Char) : List Char :=
  if label.all isAscii then label else punycodeMark ++ Punycode.encode label

/-- A domain name of labels in ASCII, unless their directions do not go together. -/
def writeLabels? (labels : List (List Char)) : Option (List Char) :=
  let directions := labels.map fun label => label.map Direction.ofChar
  let bothWays := directions.any fun ds => ds.any Direction.isBackward
  if bothWays && !directions.all directionsFit then none
  else some (List.intercalate ['.'] (labels.map writeLabel))

/-- The ASCII form of a domain name, forbidden characters included. -/
def asciiForm? (cs : List Char) : Option (List Char) :=
  if isPlainDomain cs then some (cs.map Char.toLower)
  else
    (mapDomain? cs).bind fun mapped =>
      ((mapped.splitOn '.').mapM readLabel?).bind writeLabels?

/-- The ASCII form of a domain name. -/
def domain? (cs : List Char) : Option (List Char) :=
  (asciiForm? cs).bind fun ascii => if ascii.any isForbiddenAscii then none else some ascii

end Vendoring.Url
