/-!
# Schemes

The scheme of a URL decides how the rest is read. The special schemes all have a host, treat a
backslash as a slash, and most have a default port, which a URL does not show.
-/

set_option autoImplicit false

namespace Vendoring.Url

/-- How the part behind a scheme is read. -/
inductive SchemeKind where
  | file
  /-- A scheme of the web: special, and not `file`. -/
  | web (defaultPort : Nat)
  | other
  deriving DecidableEq, Repr

/-- The kind of a scheme in small letters. -/
def SchemeKind.ofScheme (scheme : List Char) : SchemeKind :=
  if scheme = ['f', 'i', 'l', 'e'] then .file
  else if scheme = ['h', 't', 't', 'p'] || scheme = ['w', 's'] then .web 80
  else if scheme = ['h', 't', 't', 'p', 's'] || scheme = ['w', 's', 's'] then .web 443
  else if scheme = ['f', 't', 'p'] then .web 21
  else .other

/-- Is the scheme a special one? -/
def SchemeKind.isSpecial (k : SchemeKind) : Bool := k ≠ .other

/-- Does the character separate segments? -/
def SchemeKind.isSlash (k : SchemeKind) (c : Char) : Bool := c = '/' || (k.isSpecial && c = '\\')

/-- Can the character occur in a scheme behind its first letter? -/
def isSchemeChar (c : Char) : Bool := c.isAlphanum || c = '+' || c = '-' || c = '.'

/-- The scheme at the start of a text, in small letters, and what follows its colon. -/
def splitScheme? (cs : List Char) : Option (List Char × List Char) :=
  if cs.head?.any Char.isAlpha then
    match cs.dropWhile isSchemeChar with
    | ':' :: rest => some ((cs.takeWhile isSchemeChar).map Char.toLower, rest)
    | _ => none
  else none

end Vendoring.Url
