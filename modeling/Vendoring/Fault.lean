import Vendoring.FileTree.Fault
import Vendoring.Json.Fault
import Vendoring.LocalPath
import Vendoring.Url.Fault

/-!
# Why a synchronisation fails

The first failure ends a synchronisation and is its result. A failure names what was asked for: an
address as it was given, or a local path.
-/

set_option autoImplicit false

namespace Vendoring

/-- The first failure of a synchronisation. -/
inductive Fault where
  /-- No complete response arrived. -/
  | network (url : String)
  /-- A listing was answered, but not with success. -/
  | status (url : String) (code : Nat)
  /-- A listing was answered with something else than a list of entries. -/
  | listing (url : String) (cause : Json.Fault)
  /-- The token cannot be sent in a header. -/
  | invalidToken
  /-- The settings give no address for a listing; `url` is the text they give. -/
  | invalidUrl (url : String) (cause : Url.Fault)
  | file (path : LocalPath) (cause : FileFault)
  /-- A directory lies deeper than allowed. -/
  | tooDeep (url : String) (depth limit : Nat)
  deriving DecidableEq, Repr

namespace Fault

/-- Why a token is refused. -/
def tokenWords : String := "failed to parse header value"

/-- The words for a failure. What the network layer has to say about a request is not known here. -/
def message : Fault → String
  | network url => "Request to '" ++ url ++ "' failed"
  | status url code => "Listing '" ++ url ++ "' returned HTTP " ++ toString code
  | listing url cause => "Failed to parse listing from '" ++ url ++ "': " ++ cause.message
  | invalidToken => "Authorization token is not a valid header value: " ++ tokenWords
  | invalidUrl url cause => "Invalid listing URL '" ++ url ++ "': " ++ cause.message
  | file path cause => "Filesystem error at '" ++ path.text ++ "': " ++ cause.message
  | tooDeep url depth limit =>
    "Directory '" ++ url ++ "' is at depth " ++ toString depth ++ ", beyond the limit of "
      ++ toString limit

end Fault

end Vendoring
