import Mathlib.Control.Monad.Basic
import Vendoring.Proofs.Job

/-!
# Calls with their answers

A record of calls says what a job asked for. What it did with the answers can only be told from a
record that has them too: an `Event` is a call with the answer it got, and `Heard` is a world with
all events so far. As with the record of calls, no job depends on it, so what holds of the jobs over
`Remote.heard` and `Store.heard` holds of them over every remote side and every store.

`Job.meets_heard` is all that is needed to know about a single call.
-/

set_option autoImplicit false

namespace Vendoring

/-- A call with its answer. -/
inductive Event where
  | listed (url : String) (answer : Except Fault (List Entry))
  | fetched (url : String) (answer : Except Fault ByteArray)
  | madeDirs (dir : LocalPath) (answer : Except Fault Unit)
  | touched (path : LocalPath) (answer : Except Fault Unit)
  | wrote (path : LocalPath) (data : ByteArray) (answer : Except Fault Unit)

deriving instance DecidableEq for Event

namespace Event

/-- The failure that was the answer, if it was one. -/
def fault? : Event → Option Fault
  | listed _ (.error fault) | fetched _ (.error fault) | madeDirs _ (.error fault)
  | touched _ (.error fault) | wrote _ _ (.error fault) => some fault
  | _ => none

/-- The path and the bytes, if the call wrote them. -/
def written? : Event → Option (LocalPath × ByteArray)
  | wrote path data (.ok _) => some (path, data)
  | _ => none

/-- The path, if the call was to touch one, whatever the answer. -/
def touched? : Event → Option LocalPath
  | touched path _ => some path
  | _ => none

/-- The address, if the call was for a listing, whatever the answer. -/
def listed? : Event → Option String
  | listed url _ => some url
  | _ => none

end Event

/-- A world and the calls made in it so far with their answers, in order. -/
structure Heard (σ : Type) where
  world : σ
  events : List Event

/-- The job as one call, recorded with its answer. -/
def Job.heard {σ α : Type} (event : Except Fault α → Event) (job : Job σ α) : Job (Heard σ) α :=
  fun s =>
    let (answer, world) := job s.world
    (answer, ⟨world, s.events ++ [event answer]⟩)

/-- A remote side whose calls are recorded with their answers. -/
def Remote.heard {σ : Type} (remote : Remote σ) : Remote (Heard σ) where
  list url := (remote.list url).heard (.listed url)
  fetch url := (remote.fetch url).heard (.fetched url)

/-- A store whose calls are recorded with their answers. -/
def Store.heard {σ : Type} (store : Store σ) : Store (Heard σ) where
  makeDirs dir := (store.makeDirs dir).heard (.madeDirs dir)
  touch path := (store.touch path).heard (.touched path)
  write path data := (store.write path data).heard (.wrote path data)

namespace Job

variable {σ α : Type} {event : Except Fault α → Event}

theorem heard_run {job : Job σ α} {s : Heard σ} {answer : Except Fault α} {world : σ}
    (h : job s.world = (answer, world)) :
    job.heard event s = (answer, ⟨world, s.events ++ [event answer]⟩) := by
  show ((job s.world).1, _) = _
  rw [h]

/-- **A recorded call adds one event**, with whatever answer it gets. -/
theorem meets_heard (job : Job σ α) (events : List Event) :
    (job.heard event).Meets (fun s => s.events = events)
      (fun a s => s.events = events ++ [event (.ok a)])
      (fun fault s => s.events = events ++ [event (.error fault)]) := by
  intro s hs
  rcases hj : job s.world with ⟨fault | a, world⟩ <;> rw [heard_run hj] <;> simp [hs]

theorem lockstep_heard (job : Job σ α) :
    Lockstep (fun s world => world = s.world) (fun _ => False) (job.heard event) job where
  keeps _ h := h
  together s world h := by
    subst h
    exact .inr ⟨rfl, rfl⟩

theorem keeps_event (job : Job σ α) (e : Event) :
    (job.heard event).Keeps fun s => e ∈ s.events := by
  intro s hs
  show e ∈ s.events ++ _
  exact List.mem_append_left _ hs

end Job

end Vendoring
