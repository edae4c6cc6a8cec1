import Vendoring.FileTree.Inventory
import Vendoring.Job
import Vendoring.Report

/-!
# Refreshing the files that are there

A refresh reads one listing and overwrites every local file that has the name of a remote one. It
never adds a file: what may be written is fixed beforehand by the inventories of the target
directories. The content of a remote file is fetched once, however many targets hold the name, and
not at all if none does.
-/

set_option autoImplicit false

namespace Vendoring

/-- A local directory with the files it held when it was looked at. -/
structure Target where
  dir : LocalPath
  files : Inventory
  deriving DecidableEq, Repr

namespace Target

/-- The target as it is in a tree of files. -/
def collect (t : FileTree) (dir : LocalPath) : Except Fault Target :=
  match Inventory.collect t dir with
  | .ok files => .ok ⟨dir, files⟩
  | .error cause => .error (.file dir cause)

/-- Where the target keeps a name. -/
def place (target : Target) (name : String) : LocalPath := target.dir.join ⟨name⟩

end Target

section

variable {σ : Type} (remote : Remote σ) (store : Store σ)

/-- Writes the content to the place of the name in each target. -/
def writeAll (name : String) (content : ByteArray) : List Target → Job σ Unit
  | [] => pure ()
  | target :: targets => do
    store.write (target.place name) content
    writeAll name content targets

/-- Refreshes the local files of one remote entry. -/
def refreshEntry (targets : List Target) (report : Report) (e : Entry) : Job σ Report :=
  match e.downloadUrl? with
  | none => pure report
  | some url =>
    match targets.filter (·.files.contains e.name) with
    | [] => pure report.countSkipped
    | holders => do
      let content ← remote.fetch url
      writeAll store e.name content holders
      pure (report.addUpdated (holders.map (·.place e.name)))

/-- Refreshes the files of the targets from the listing with this address. -/
def refresh (url : String) (targets : List Target) : Job σ Report := do
  let entries ← remote.list url
  entries.foldlM (refreshEntry remote store targets) Report.empty.countListing

end

end Vendoring
