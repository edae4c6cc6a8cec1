import Vendoring.Bytes
import Vendoring.Fault
import Vendoring.Listing.Entry

/-!
# Jobs, and what they call

A job does its work in a world of type `σ`, which stands for everything outside: the remote side,
the disk, and whatever may happen to them. It reaches the world only through the calls of a
`Remote` and a `Store`, which may answer differently each time. A job that fails stops there, and
leaves the world as it is at that moment.

`Remote.traced` and `Store.traced` keep a record of the calls beside the world. A job does not
depend on the record, so whatever holds for every world holds for the recorded calls too.
-/

set_option autoImplicit false

namespace Vendoring

/-- Work in a world, which ends with a result or with the first failure. -/
abbrev Job (σ α : Type) := ExceptT Fault (StateM σ) α

/-- The remote side. -/
structure Remote (σ : Type) where
  /-- The entries of the directory whose listing has this address. -/
  list : String → Job σ (List Entry)
  /-- The content behind a download address. -/
  fetch : String → Job σ ByteArray

/-- The local side. -/
structure Store (σ : Type) where
  /-- Makes a directory with all its parents. -/
  makeDirs : LocalPath → Job σ Unit
  /-- Makes an empty file unless there is one. -/
  touch : LocalPath → Job σ Unit
  /-- Replaces the content of a file, making it if there is none. -/
  write : LocalPath → ByteArray → Job σ Unit

/-- A call to either side. -/
inductive Call where
  | list (url : String)
  | fetch (url : String)
  | makeDirs (dir : LocalPath)
  | touch (path : LocalPath)
  | write (path : LocalPath) (data : ByteArray)
  deriving DecidableEq

/-- A world and the calls made in it so far, in order. -/
structure Traced (σ : Type) where
  world : σ
  calls : List Call

/-- The job as one recorded call, whatever comes of it. -/
def Job.traced {σ α : Type} (call : Call) (job : Job σ α) : Job (Traced σ) α := fun s =>
  let (result, world) := job s.world
  (result, ⟨world, s.calls ++ [call]⟩)

/-- A remote side whose calls are recorded. -/
def Remote.traced {σ : Type} (remote : Remote σ) : Remote (Traced σ) where
  list url := (remote.list url).traced (.list url)
  fetch url := (remote.fetch url).traced (.fetch url)

/-- A store whose calls are recorded. -/
def Store.traced {σ : Type} (store : Store σ) : Store (Traced σ) where
  makeDirs dir := (store.makeDirs dir).traced (.makeDirs dir)
  touch path := (store.touch path).traced (.touch path)
  write path data := (store.write path data).traced (.write path data)

/-- A job done in a part of a larger world. -/
def Job.within {σ τ α : Type} (part : τ → σ) (put : σ → τ → τ) (job : Job σ α) : Job τ α := fun t =>
  let (result, world) := job (part t)
  (result, put world t)

end Vendoring
