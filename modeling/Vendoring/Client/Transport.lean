import Vendoring.Bytes
import Vendoring.Client.Header

/-!
# Requests and responses

A transport carries a request and brings what comes back: nothing, or a response whose body may
break off.
-/

set_option autoImplicit false

namespace Vendoring

/-- A request for what is behind a URL. -/
structure Request where
  url : String
  /-- The form in which the answer is wanted, if that matters. -/
  accept? : Option String
  headers : List Header
  deriving DecidableEq, Repr

/-- The body of a response. -/
inductive Body where
  | whole (bytes : ByteArray)
  /-- The connection ended before the body did. -/
  | broken
  deriving DecidableEq

/-- What comes back. -/
structure Response where
  status : Nat
  body : Body
  deriving DecidableEq

/-- Does the status stand for success? -/
def Response.isSuccess (r : Response) : Bool := 200 ≤ r.status && r.status < 300

/-- Carries requests through a world. -/
structure Transport (σ : Type) where
  send : Request → StateM σ (Option Response)

/-- A transport that reaches nobody. -/
def Transport.unreachable {σ : Type} : Transport σ where
  send _ := pure none

end Vendoring
