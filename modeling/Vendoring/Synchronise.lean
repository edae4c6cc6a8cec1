import Vendoring.Refresh
import Vendoring.Replicate
import Vendoring.Settings.ListingUrl

/-!
# Synchronisation

A synchronisation does one of two things by its settings: it refreshes the local files of the
decompiler, or it keeps a copy of the processor definitions. Everything that can fail without the
remote side comes first, so nothing is asked for in vain.
-/

set_option autoImplicit false

namespace Vendoring

/-- What is synchronised. -/
inductive Mode where
  | decompiler
  | processors
  deriving DecidableEq, Repr

/-- The name of a mode. -/
def Mode.name : Mode → String
  | decompiler => "Decompiler"
  | processors => "Processors"

/-- How the processor definitions are kept. -/
def ProcessorSettings.replicaOptions (s : ProcessorSettings) : ReplicaOptions :=
  ⟨s.outputDir, s.excludedExtensions, s.maxDepth⟩

section

variable {σ : Type}

/-- A result that is known without the world. -/
def Job.ofExcept {α : Type} (result : Except Fault α) : Job σ α := ExceptT.mk (pure result)

/-- A look at the tree of files in a world. -/
def Job.look {α : Type} (tree : σ → FileTree) (f : FileTree → Except Fault α) : Job σ α :=
  ExceptT.mk fun s => (f (tree s), s)

variable (tree : σ → FileTree) (remote : Remote σ) (store : Store σ)

/-- Refreshes the files of the target directories. The directories are looked at before the remote
side is asked for anything. -/
def refreshBySettings (s : Settings) : Job σ Report := do
  let targets ← s.decompiler.targets.mapM fun dir => Job.look tree (Target.collect · dir)
  let url ← Job.ofExcept (s.listingUrl s.decompiler.remotePath)
  refresh remote store url targets

/-- Keeps the copy of the processor definitions, in a walk of at most `bound` steps. -/
def replicateBySettings (bound : Nat) (s : Settings) : Job σ (Option Report) := do
  let url ← Job.ofExcept (s.listingUrl s.processors.remotePath)
  replicate remote store s.processors.replicaOptions bound url

/-- Synchronises. There is no result if a walk has not ended after `bound` steps. -/
def synchronise (bound : Nat) (s : Settings) (mode : Mode) : Job σ (Option Report) :=
  match mode with
  | .decompiler => some <$> refreshBySettings tree remote store s
  | .processors => replicateBySettings remote store bound s

end

end Vendoring
