import Vendoring.LocalPath

/-!
# What a synchronisation did
-/

set_option autoImplicit false

namespace Vendoring

/-- The account of a synchronisation that succeeded. Every remote file is in exactly one place:
written, skipped or excluded. -/
structure Report where
  /-- The local files written, in the order of writing. -/
  updated : List LocalPath
  /-- How many listings were read. -/
  listings : Nat
  /-- How many remote files have no local counterpart. -/
  skipped : Nat
  /-- How many remote files were left out by their extension. -/
  excluded : Nat
  deriving DecidableEq, Repr

namespace Report

/-- The account of having done nothing yet. -/
def empty : Report := ⟨[], 0, 0, 0⟩

/-- One more listing. -/
def countListing (r : Report) : Report := { r with listings := r.listings + 1 }

/-- One more file without a local counterpart. -/
def countSkipped (r : Report) : Report := { r with skipped := r.skipped + 1 }

/-- One more file left out. -/
def countExcluded (r : Report) : Report := { r with excluded := r.excluded + 1 }

/-- More files written. -/
def addUpdated (r : Report) (paths : List LocalPath) : Report :=
  { r with updated := r.updated ++ paths }

/-- The account in one line for the user. -/
def summary (r : Report) : String :=
  "Updated " ++ toString r.updated.length ++ " file(s) from " ++ toString r.listings
    ++ " listing(s); " ++ toString r.skipped ++ " skipped, " ++ toString r.excluded ++ " excluded."

end Report

end Vendoring
