import Vendoring.Client
import Vendoring.FileTree.Basic
import Vendoring.Proofs.Job

/-!
# Requests and what becomes of them

A call of a client is one request, and its answer depends on nothing but the response
(`Client.list_run`, `Client.fetch_run`): `listingAnswer` and `contentAnswer` say how. So which
requests are sent, and what is made of them, can be told apart.

The requests that went out are on the `Wire`, in order. A URL that no request can be made for leaves
nothing there, and the call fails as one that nobody answers.
-/

set_option autoImplicit false

namespace Vendoring

/-! ## Answers from responses -/

def listingAnswer (url : String) : Option Response → Except Fault (List Entry)
  | none => .error (.network url)
  | some response =>
    if response.isSuccess then
      match response.body with
      | .whole bytes => (Listing.ofBytes bytes).mapError (.listing url)
      | .broken => .error (.network url)
    else .error (.status url response.status)

def contentAnswer (url : String) : Option Response → Except Fault ByteArray
  | some ⟨_, .whole bytes⟩ => .ok bytes
  | _ => .error (.network url)

namespace Client

variable {σ : Type} (client : Client σ) (url : String) (s : σ)

theorem get_run {accept? : Option String} {response? : Option Response} {s' : σ}
    (h : client.transport.send ⟨url, accept?, client.headers⟩ s = (response?, s')) :
    client.get url accept? s = (response?.elim (.error (.network url)) .ok, s') := by
  rw [get, Job.bind_ok (Job.lift_run h)]
  cases response? <;> rfl

/-- **The answer of a listing is made of the response alone.** -/
theorem list_run {response? : Option Response} {s' : σ}
    (h : client.transport.send ⟨url, some listingForm, client.headers⟩ s = (response?, s')) :
    client.list url s = (listingAnswer url response?, s') := by
  have hget := client.get_run url s h
  cases response? with
  | none => exact Job.bind_error hget
  | some response =>
    rw [list, Job.bind_ok hget, listingAnswer]
    split
    · cases response.body with
      | broken => rfl
      | whole bytes =>
        have hread : (Body.read url (.whole bytes) : Job σ ByteArray) s' = (.ok bytes, s') := rfl
        rw [Job.bind_ok hread, parseListing]
        dsimp only
        cases Listing.ofBytes bytes <;> rfl
    · rfl

theorem fetch_run {response? : Option Response} {s' : σ}
    (h : client.transport.send ⟨url, none, client.headers⟩ s = (response?, s')) :
    client.fetch url s = (contentAnswer url response?, s') := by
  have hget := client.get_run url s h
  cases response? with
  | none => exact Job.bind_error hget
  | some response =>
    rw [fetch, Job.bind_ok hget]
    obtain ⟨status, body⟩ := response
    cases body <;> rfl

end Client

/-! ## The wire -/

/-- The state of the other side, and the requests that were sent to it, in order. -/
structure Wire (υ : Type) where
  upstream : υ
  sent : List Request

namespace Transport

variable {υ : Type}

/-- The transport with what it sends put on the wire. A request can only be made for a URL that
`canAsk` allows. -/
def recorded (canAsk : String → Bool) (transport : Transport υ) : Transport (Wire υ) where
  send request := fun w =>
    if canAsk request.url then
      ((transport.send request w.upstream).1,
        ⟨(transport.send request w.upstream).2, w.sent ++ [request]⟩)
    else (none, w)

/-- The transport beside a tree of files, which it leaves alone. -/
def besideTree (transport : Transport υ) : Transport (FileTree × υ) where
  send request := fun s => ((transport.send request s.2).1, (s.1, (transport.send request s.2).2))

/-- A transport to somebody who answers by the URL alone. -/
def answering (answer : String → Option Response) : Transport Unit where
  send request := pure (answer request.url)

end Transport

end Vendoring
