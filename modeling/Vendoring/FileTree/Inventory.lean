import Vendoring.FileTree.Resolve

/-!
# What lies directly inside a directory

An inventory is taken once and only asked for membership afterwards. It holds the names that are
text and belong to anything but a directory; a link counts as itself, wherever it leads.
-/

set_option autoImplicit false

namespace Vendoring

/-- The names of the files directly inside one directory. -/
structure Inventory where
  names : List String
  deriving DecidableEq, Repr

namespace Inventory

/-- The name of an entry that belongs into an inventory. -/
def nameOf? : FileName × Node → Option String
  | (.text s _, node) => if node.isDirectory then none else some s
  | (.raw _, _) => none

/-- The inventory of the directory that a path leads to. -/
def collect (t : FileTree) (p : LocalPath) : Except FileFault Inventory := do
  let route ← Route.ofPath? p
  let dir ← t.locateDirectory route.absolute route.steps
  pure ⟨(t.entriesOf dir).filterMap nameOf?⟩

/-- Was there a file of this name? -/
def contains (inventory : Inventory) (name : String) : Bool := inventory.names.contains name

/-- The number of files. -/
def size (inventory : Inventory) : Nat := inventory.names.length

end Inventory

end Vendoring
