import Vendoring.Text.Normal
import Vendoring.Url.Domain.MappingTable

/-!
# The common form of a domain name

Names that differ only in case, width or composition are the same name. Mapping replaces every
character by its common form, drops those that do not count, and composes the result. A name with
a character that may not occur has no common form.
-/

set_option autoImplicit false

namespace Vendoring.Url

open Text

/-- What characters are replaced with. -/
def mapping : CodeTable := .ofText mappingText

/-- Characters that may not occur in a domain name. -/
def forbidden : CodeTable := .ofText forbiddenText

/-- The common form of a character. -/
def mapChar? (c : Char) : Option (List Char) :=
  if forbidden.holds c then none
  else
    match mapping.values? c with
    | some codes => some (codes.map Char.ofNat)
    | none => some [c]

/-- The common form of a domain name. -/
def mapDomain? (cs : List Char) : Option (List Char) :=
  (cs.mapM mapChar?).map fun parts => compose parts.flatten

/-- Does the character stand for itself? -/
def isMapped (c : Char) : Bool := forbidden.holds c || (mapping.row? c).isSome

end Vendoring.Url
