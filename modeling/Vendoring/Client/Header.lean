import Vendoring.Fault
import Vendoring.Text.Blank

/-!
# The headers of every request

A request says who asks, and a token, if there is one, goes along as a bearer credential. The
token is used without the white space around it, and a blank token is none. A header value may not
hold control characters, so a token with one of them inside is refused before anything is sent.
-/

set_option autoImplicit false

namespace Vendoring

/-- A header of a request. Its value is sent as UTF-8. -/
structure Header where
  /-- In lower case. -/
  name : String
  value : String
  /-- Is the value kept out of any record? -/
  isSensitive : Bool
  deriving DecidableEq, Repr

namespace Header

/-- The name and version that requests are made under. -/
def userAgentValue : String := "ghidra-sync/0.1.0"

/-- Who asks. -/
def userAgent : Header := ⟨"user-agent", userAgentValue, false⟩

/-- The credential for a token. -/
def bearer (token : String) : Header := ⟨"authorization", "Bearer " ++ token, true⟩

/-- Can the character be sent in a header value? A tab can, other control characters cannot. -/
def canSend (c : Char) : Bool := c = '\t' || (0x20 ≤ c.toNat && c.toNat ≠ 0x7F)

/-- The token that is sent for a given one: without the white space around it, unless it is blank. -/
def effectiveToken? (token : Option String) : Option String :=
  token.bind fun t =>
    let trimmed := Text.trim t
    if trimmed.isEmpty then none else some trimmed

/-- The headers of every request, by name. -/
def ofToken (token : Option String) : Except Fault (List Header) :=
  match effectiveToken? token with
  | none => .ok [userAgent]
  | some t => if t.toList.all canSend then .ok [bearer t, userAgent] else .error .invalidToken

end Header

end Vendoring
