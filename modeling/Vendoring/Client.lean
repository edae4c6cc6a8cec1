import Vendoring.Client.Transport
import Vendoring.Job
import Vendoring.Listing.Read

/-!
# The remote side over requests

One request for each call, with the same headers every time. The two calls treat a response in
different orders: a listing is asked for its status before its body, and a status without success
ends the call even if the body breaks off. A download is not asked for its status at all: whatever
body arrives whole is the content.
-/

set_option autoImplicit false

namespace Vendoring

/-- The form in which listings are wanted. -/
def listingForm : String := "application/vnd.github+json"

/-- The bytes of a body that arrived whole. -/
def Body.read {σ : Type} (url : String) : Body → Job σ ByteArray
  | whole bytes => pure bytes
  | broken => throw (.network url)

/-- The entries in the body of a listing. -/
def parseListing {σ : Type} (url : String) (body : ByteArray) : Job σ (List Entry) :=
  match Listing.ofBytes body with
  | .ok entries => pure entries
  | .error cause => throw (.listing url cause)

/-- Makes requests with fixed headers. -/
structure Client (σ : Type) where
  transport : Transport σ
  headers : List Header

namespace Client

variable {σ : Type}

/-- A client that sends the token. -/
def withToken (transport : Transport σ) (token : Option String) : Except Fault (Client σ) :=
  (Header.ofToken token).map fun headers => ⟨transport, headers⟩

/-- The response to one request. -/
def get (client : Client σ) (url : String) (accept? : Option String) : Job σ Response := do
  match ← client.transport.send ⟨url, accept?, client.headers⟩ with
  | some response => pure response
  | none => throw (.network url)

/-- Asks for a listing. -/
def list (client : Client σ) (url : String) : Job σ (List Entry) := do
  let response ← client.get url (some listingForm)
  if response.isSuccess then parseListing url (← response.body.read url)
  else throw (.status url response.status)

/-- Asks for a content. -/
def fetch (client : Client σ) (url : String) : Job σ ByteArray := do
  let response ← client.get url none
  response.body.read url

/-- The remote side that the client reaches. -/
def remote (client : Client σ) : Remote σ where
  list := client.list
  fetch := client.fetch

end Client

end Vendoring
