import Vendoring.Client

/-!
# A remote side that is a table

A web is a table from addresses to responses. It answers by the address alone, so a job over it
can be repeated and always gets the same answers. An address that is not in the table is answered
with status 404 and nothing else.
-/

set_option autoImplicit false

namespace Vendoring

/-- A table of responses. At most the first one for an address counts; `none` stands for a
connection that ends without a response. -/
structure Web where
  pages : List (String × Option Response)

namespace Web

/-- The table without entries. -/
def empty : Web := ⟨[]⟩

/-- The table with other entries that come before its own. -/
def overlay (web : Web) (pages : List (String × Option Response)) : Web := ⟨pages ++ web.pages⟩

/-- The answer for an address that is not in the table. -/
def notFound : Response := ⟨404, .whole .empty⟩

/-- The response for an address. -/
def response? (web : Web) (url : String) : Option Response :=
  (web.pages.lookup url).getD (some notFound)

/-- The status and the whole body for an address. -/
def answer {σ : Type} (web : Web) (url : String) : Job σ (Nat × ByteArray) :=
  match web.response? url with
  | some ⟨status, .whole bytes⟩ => pure (status, bytes)
  | some ⟨_, .broken⟩ => throw (.network url)
  | none => throw (.network url)

/-- The entries in the listing at an address. -/
def list {σ : Type} (web : Web) (url : String) : Job σ (List Entry) := do
  let (status, body) ← web.answer url
  if 200 ≤ status && status < 300 then parseListing url body else throw (.status url status)

/-- The content at an address. -/
def fetch {σ : Type} (web : Web) (url : String) : Job σ ByteArray := do
  let (_, body) ← web.answer url
  pure body

/-- The table as the remote side. -/
def remote {σ : Type} (web : Web) : Remote σ where
  list := web.list
  fetch := web.fetch

/-- More steps than any walk over the table takes: every directory that a listing names takes some
bytes of its body, and each body is read at most once. -/
def walkBound (web : Web) : Nat :=
  web.pages.foldr (fun page size =>
    match page.2 with
    | some ⟨_, .whole bytes⟩ => bytes.size + size
    | _ => size) 2

end Web

end Vendoring
