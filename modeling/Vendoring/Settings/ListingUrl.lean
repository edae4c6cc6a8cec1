import Vendoring.Fault
import Vendoring.Settings
import Vendoring.Url.Read

/-!
# The address of a listing

The settings name a service, a repository and a reference in it; together with a remote directory
they give the address of its listing. The parts are put together as text, slashes at their ends not
counted, and the result is read as a URL. The reference becomes a parameter of its query.
-/

set_option autoImplicit false

namespace Vendoring.Settings

/-- Without the slashes at the end. -/
def withoutFinalSlashes (cs : List Char) : List Char := (cs.reverse.dropWhile (· = '/')).reverse

/-- Without the slashes at both ends. -/
def withoutOuterSlashes (cs : List Char) : List Char := withoutFinalSlashes (cs.dropWhile (· = '/'))

/-- The address of a directory's listing as text, without the reference. -/
def listingText (s : Settings) (remotePath : String) : List Char :=
  withoutFinalSlashes s.apiBase.toList ++ "/repos/".toList
    ++ withoutOuterSlashes s.repository.toList ++ "/contents/".toList
    ++ withoutOuterSlashes remotePath.toList

/-- The name of the query parameter for the reference. -/
def referenceName : List Char := ['r', 'e', 'f']

/-- The URL with the reference, if there is one that is not empty. -/
def withReference (reference : Option String) (u : Url) : Url :=
  match reference with
  | some r => if r.isEmpty then u else u.addParameter referenceName r.toList
  | none => u

/-- The address of a directory's listing. -/
def listingUrl (s : Settings) (remotePath : String) : Except Fault String :=
  let given := s.listingText remotePath
  match Url.ofChars given with
  | .ok u => .ok (withReference s.reference u).text
  | .error cause => .error (.invalidUrl (String.ofList given) cause)

end Vendoring.Settings
