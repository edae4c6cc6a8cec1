import Vendoring.FileTree.Change
import Vendoring.FileTree.Inventory
import Vendoring.Job

/-!
# The store that is a tree of files
-/

set_option autoImplicit false

namespace Vendoring

namespace Store

/-- A change of the tree at a path, or its failure named by the path. -/
def change (path : LocalPath) (operation : FileTree → Except FileFault FileTree) :
    Job FileTree Unit := fun t =>
  match operation t with
  | .ok changed => (.ok (), changed)
  | .error cause => (.error (.file path cause), t)

/-- The tree of files as a store. -/
def disk : Store FileTree where
  makeDirs dir := fun t =>
    let (changed, outcome) := t.makeDirs dir
    (outcome.mapError (.file dir), changed)
  touch path := change path (·.touch path)
  write path data := change path (·.write path data)

/-- A store that does nothing, always with success. -/
def idle {σ : Type} : Store σ where
  makeDirs _ := pure ()
  touch _ := pure ()
  write _ _ := pure ()

/-- The operations of a store. -/
inductive Operation where
  | makeDirs
  | touch
  | write
  deriving DecidableEq, Repr

/-- A failure that will happen whenever the operation is asked for with this path. -/
structure PlannedFault where
  operation : Operation
  path : LocalPath
  cause : FileFault
  deriving DecidableEq, Repr

/-- The job, unless a failure is planned in its place. -/
def unlessPlanned {σ α : Type} (planned : List PlannedFault) (operation : Operation)
    (path : LocalPath) (job : Job σ α) : Job σ α :=
  match planned.find? fun p => p.operation = operation && p.path = path with
  | some p => throw (.file path p.cause)
  | none => job

/-- A store in which some operations fail as planned and have no effect. -/
def withFaults {σ : Type} (planned : List PlannedFault) (store : Store σ) : Store σ where
  makeDirs dir := unlessPlanned planned .makeDirs dir (store.makeDirs dir)
  touch path := unlessPlanned planned .touch path (store.touch path)
  write path data := unlessPlanned planned .write path (store.write path data)

/-- The store in a part of a larger world. -/
def within {σ τ : Type} (part : τ → σ) (put : σ → τ → τ) (store : Store σ) : Store τ where
  makeDirs dir := (store.makeDirs dir).within part put
  touch path := (store.touch path).within part put
  write path data := (store.write path data).within part put

end Store

end Vendoring
