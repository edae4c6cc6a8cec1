import Mathlib.Data.List.Forall2
import Vendoring.Proofs.Client.Wire
import Vendoring.Proofs.Plan

/-!
# Responses and calls in one book

What passes between a run and the outside is a `Deed`: a request with what came back, or a call to
the store with its answer. A `Booked` world has all of them in one order, so it can be told which
response came before which write.

The client adds nothing of its own: **every event of a run over a client is read off the book**
(`Planned.booked_run`). An event with a remote answer is one request with one response, and the
answer is what `listingAnswer` or `contentAnswer` make of that response.
-/

set_option autoImplicit false

namespace Vendoring

/-- What passes between a run and the outside. -/
inductive Deed where
  | asked (request : Request) (response? : Option Response)
  | stored (event : Event)
  deriving DecidableEq

/-- A world and what has passed so far, in order. -/
structure Booked (σ : Type) where
  world : σ
  deeds : List Deed

/-- A transport whose requests are booked with what comes back. -/
def Transport.booked {σ : Type} (transport : Transport σ) : Transport (Booked σ) where
  send request := fun s =>
    let (response?, world) := transport.send request s.world
    (response?, ⟨world, s.deeds ++ [.asked request response?]⟩)

/-- The job as one call to the store, booked with its answer. -/
def Job.booked {σ α : Type} (event : Except Fault α → Event) (job : Job σ α) :
    Job (Booked σ) α := fun s =>
  let (answer, world) := job s.world
  (answer, ⟨world, s.deeds ++ [.stored (event answer)]⟩)

/-- A store whose calls are booked. -/
def Store.booked {σ : Type} (store : Store σ) : Store (Booked σ) where
  makeDirs dir := (store.makeDirs dir).booked (.madeDirs dir)
  touch path := (store.touch path).booked (.touched path)
  write path data := (store.write path data).booked (.wrote path data)

/-- Is it a call to the store? -/
def Event.IsStored : Event → Prop
  | listed _ _ | fetched _ _ => False
  | madeDirs _ _ | touched _ _ | wrote _ _ _ => True

namespace Client

variable {σ : Type} (client : Client σ)

def booked : Client (Booked σ) := ⟨client.transport.booked, client.headers⟩

/-- The request for a listing. -/
def listingRequest (url : String) : Request := ⟨url, some listingForm, client.headers⟩

/-- The request for a content. -/
def contentRequest (url : String) : Request := ⟨url, none, client.headers⟩

/-- The client makes the event of the deed. -/
inductive Makes : Deed → Event → Prop where
  | listed (url : String) (response? : Option Response) :
      Makes (.asked (client.listingRequest url) response?)
        (.listed url (listingAnswer url response?))
  | fetched (url : String) (response? : Option Response) :
      Makes (.asked (client.contentRequest url) response?)
        (.fetched url (contentAnswer url response?))
  | stored {event : Event} (h : event.IsStored) : Makes (.stored event) event

variable {client} {event : Event} {url : String} {response? : Option Response}

theorem Makes.eq_listed (h : client.Makes (.asked (client.listingRequest url) response?) event) :
    event = .listed url (listingAnswer url response?) := by
  cases h
  rfl

theorem Makes.eq_fetched (h : client.Makes (.asked (client.contentRequest url) response?) event) :
    event = .fetched url (contentAnswer url response?) := by
  cases h
  rfl

theorem Makes.of_listed {deed : Deed} {answer : Except Fault (List Entry)}
    (h : client.Makes deed (.listed url answer)) : ∃ response?,
      deed = .asked (client.listingRequest url) response? ∧ answer = listingAnswer url response? := by
  cases h with
  | listed url response? => exact ⟨response?, rfl, rfl⟩
  | stored h => cases h

theorem Makes.of_fetched {deed : Deed} {answer : Except Fault ByteArray}
    (h : client.Makes deed (.fetched url answer)) : ∃ response?,
      deed = .asked (client.contentRequest url) response? ∧ answer = contentAnswer url response? := by
  cases h with
  | fetched url response? => exact ⟨response?, rfl, rfl⟩
  | stored h => cases h

end Client

/-! ## Reading the book -/

/-- Related lists are split at the same place. -/
theorem forall₂_append_cons {α β : Type} {R : α → β → Prop} {as : List α} {before after : List β}
    {b : β} (h : List.Forall₂ R as (before ++ b :: after)) :
    ∃ before' a after', as = before' ++ a :: after' ∧ List.Forall₂ R before' before ∧ R a b ∧
      List.Forall₂ R after' after := by
  have hbefore := List.forall₂_take_append as before (b :: after) h
  obtain ⟨a, after', ha, hafter, hdrop⟩ :=
    List.forall₂_cons_right_iff.1 (List.forall₂_drop_append as before (b :: after) h)
  refine ⟨as.take before.length, a, after', ?_, hbefore, ha, hafter⟩
  rw [← hdrop, List.take_append_drop]

namespace Client

variable {σ : Type} {client : Client σ} {deeds : List Deed} {events : List Event}

/-- Where an event stands, its deed stands in the book. -/
theorem exists_deed (h : List.Forall₂ client.Makes deeds events) {before after : List Event}
    {event : Event} (hevents : events = before ++ event :: after) :
    ∃ before' deed after', deeds = before' ++ deed :: after' ∧
      List.Forall₂ client.Makes before' before ∧ client.Makes deed event ∧
      List.Forall₂ client.Makes after' after := by
  rw [hevents] at h
  exact forall₂_append_cons h

/-- Where a deed stands in the book, its event stands. -/
theorem exists_event (h : List.Forall₂ client.Makes deeds events) {before after : List Deed}
    {deed : Deed} (hdeeds : deeds = before ++ deed :: after) :
    ∃ before' event after', events = before' ++ event :: after' ∧
      List.Forall₂ client.Makes before before' ∧ client.Makes deed event ∧
      List.Forall₂ client.Makes after after' := by
  rw [hdeeds] at h
  have hflip : List.Forall₂ (flip client.Makes) events (before ++ deed :: after) := h.flip
  obtain ⟨before', event, after', hevents, hbefore, hmakes, hafter⟩ := forall₂_append_cons hflip
  exact ⟨before', event, after', hevents, hbefore.flip, hmakes, hafter.flip⟩

theorem exists_event_of_mem (h : List.Forall₂ client.Makes deeds events) {deed : Deed}
    (hdeed : deed ∈ deeds) : ∃ event ∈ events, client.Makes deed event := by
  obtain ⟨before, after, hdeeds⟩ := List.append_of_mem hdeed
  obtain ⟨before', event, after', rfl, -, hmakes, -⟩ := exists_event h hdeeds
  exact ⟨event, List.mem_append_right _ List.mem_cons_self, hmakes⟩

/-! ## Calls over a client -/

theorem send_booked {request : Request} {s : Booked σ} {response? : Option Response} {world : σ}
    (h : client.transport.send request s.world = (response?, world)) :
    client.booked.transport.send request s =
      (response?, ⟨world, s.deeds ++ [.asked request response?]⟩) := by
  show ((client.transport.send request s.world).1, (⟨(client.transport.send request s.world).2,
    s.deeds ++ [.asked request (client.transport.send request s.world).1]⟩ : Booked σ)) = _
  rw [h]

theorem list_booked {url : String} {s : Booked σ} {response? : Option Response} {world : σ}
    (h : client.transport.send (client.listingRequest url) s.world = (response?, world)) :
    client.booked.remote.list url s = (listingAnswer url response?,
      ⟨world, s.deeds ++ [.asked (client.listingRequest url) response?]⟩) :=
  client.booked.list_run url s (send_booked h)

theorem fetch_booked {url : String} {s : Booked σ} {response? : Option Response} {world : σ}
    (h : client.transport.send (client.contentRequest url) s.world = (response?, world)) :
    client.booked.remote.fetch url s = (contentAnswer url response?,
      ⟨world, s.deeds ++ [.asked (client.contentRequest url) response?]⟩) :=
  client.booked.fetch_run url s (send_booked h)

/-- **One call of a job over the client is one deed**, and the client makes its event. -/
theorem perform_booked (store : Store σ) (c : Call) (s : Booked σ) :
    ∃ deed, (c.perform client.booked.remote store.booked s).2.deeds = s.deeds ++ [deed] ∧
      client.Makes deed (c.event (c.perform client.booked.remote store.booked s).1) := by
  cases c with
  | list url =>
    rcases hsend : client.transport.send (client.listingRequest url) s.world with
      ⟨response?, world⟩
    show ∃ deed, (client.booked.remote.list url s).2.deeds = _ ∧
      client.Makes deed (.listed url (client.booked.remote.list url s).1)
    rw [list_booked hsend]
    exact ⟨_, rfl, .listed url response?⟩
  | fetch url =>
    rcases hsend : client.transport.send (client.contentRequest url) s.world with
      ⟨response?, world⟩
    show ∃ deed, (client.booked.remote.fetch url s).2.deeds = _ ∧
      client.Makes deed (.fetched url (client.booked.remote.fetch url s).1)
    rw [fetch_booked hsend]
    exact ⟨_, rfl, .fetched url response?⟩
  | makeDirs | touch | write => exact ⟨_, rfl, .stored trivial⟩

/-- A call does the same whether it is booked or not. -/
theorem lockstep_booked (client : Client σ) (store : Store σ) (c : Call) :
    Job.Lockstep (fun (s : Booked σ) world => world = s.world) (fun _ => False)
      (c.perform client.booked.remote store.booked) (c.perform client.remote store) where
  keeps _ h := h
  together s world h := by
    subst h
    refine .inr ?_
    cases c with
    | list url =>
      rcases hsend : client.transport.send (client.listingRequest url) s.world with
        ⟨response?, world⟩
      have hrun : client.remote.list url s.world = _ := client.list_run url s.world hsend
      show (client.remote.list url s.world).1 = (client.booked.remote.list url s).1 ∧
        (client.remote.list url s.world).2 = (client.booked.remote.list url s).2.world
      rw [list_booked hsend, hrun]
      exact ⟨rfl, rfl⟩
    | fetch url =>
      rcases hsend : client.transport.send (client.contentRequest url) s.world with
        ⟨response?, world⟩
      have hrun : client.remote.fetch url s.world = _ := client.fetch_run url s.world hsend
      show (client.remote.fetch url s.world).1 = (client.booked.remote.fetch url s).1 ∧
        (client.remote.fetch url s.world).2 = (client.booked.remote.fetch url s).2.world
      rw [fetch_booked hsend, hrun]
      exact ⟨rfl, rfl⟩
    | makeDirs | touch | write => exact ⟨rfl, rfl⟩

end Client

section

variable {σ α : Type} {own : Fault → Prop} {job : Program α}

/-- A job with a plan does the same whether its calls are recorded or not. -/
theorem Planned.heard_run (hjob : Planned own job) (remote : Remote σ) (store : Store σ)
    (world : σ) : ∃ events, job _ remote.heard store.heard ⟨world, []⟩ =
      ((job σ remote store world).1, ⟨(job σ remote store world).2, events⟩) := by
  have hcall : ∀ c : Call, Job.Lockstep (fun (s : Heard σ) world => world = s.world)
      (fun _ => False) (c.perform remote.heard store.heard) (c.perform remote store) := by
    intro c
    rw [Call.perform_heard]
    exact Job.lockstep_heard (c.perform remote store)
  obtain ⟨hresult, hworld⟩ :=
    ((hjob.lockstep hcall).together ⟨world, []⟩ world rfl).resolve_left id
  refine ⟨(job _ remote.heard store.heard ⟨world, []⟩).2.events, ?_⟩
  rw [hresult, hworld]
  rfl

/-- A job with a plan does the same whether its deeds are booked or not. -/
theorem Planned.booked_alike (hjob : Planned own job) (client : Client σ) (store : Store σ)
    (world : σ) :
    let run := job _ client.booked.remote store.booked ⟨world, []⟩
    job σ client.remote store world = (run.1, run.2.world) := by
  obtain ⟨hresult, hworld⟩ := ((hjob.lockstep (client.lockstep_booked store)).together ⟨world, []⟩
    world rfl).resolve_left id
  exact Prod.ext hresult hworld

/-- **The events of a job with a plan are read off the book**, deed by deed. -/
theorem Planned.booked_run (hjob : Planned own job) (client : Client σ) (store : Store σ)
    (world : σ) : ∃ events, job _ client.booked.remote.heard store.booked.heard ⟨⟨world, []⟩, []⟩ =
        ((job _ client.booked.remote store.booked ⟨world, []⟩).1,
          ⟨(job _ client.booked.remote store.booked ⟨world, []⟩).2, events⟩) ∧
      List.Forall₂ client.Makes (job _ client.booked.remote store.booked ⟨world, []⟩).2.deeds
        events := by
  obtain ⟨events, hrun⟩ := hjob.heard_run client.booked.remote store.booked ⟨world, []⟩
  have hcall : ∀ c : Call, (c.perform client.booked.remote.heard store.booked.heard).Keeps
      fun s => List.Forall₂ client.Makes s.world.deeds s.events := by
    intro c s hs
    obtain ⟨deed, hdeeds, hmakes⟩ := Client.perform_booked store c s.world
    rw [Call.perform_heard]
    show List.Forall₂ client.Makes (c.perform client.booked.remote store.booked s.world).2.deeds
      (s.events ++ [_])
    rw [hdeeds]
    exact List.rel_append hs (.cons hmakes .nil)
  have hbook := hjob.keeps hcall ⟨⟨world, []⟩, []⟩ .nil
  rw [hrun] at hbook
  exact ⟨events, hrun, hbook⟩

end

end Vendoring
