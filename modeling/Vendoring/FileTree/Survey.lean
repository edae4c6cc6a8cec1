import Vendoring.FileTree.Resolve

/-!
# Setting a tree up and looking at it whole

`plant` puts a node at a route and makes the directories on the way, `remove` takes a node away
with all below it, and `survey` lists everything below the current directory.
-/

set_option autoImplicit false

namespace Vendoring

namespace FileTree

/-- Makes every directory that is missing along `rest`, of which `done` was walked before. -/
def plantDirs (t : FileTree) (absolute : Bool) (done : List Step) : List Step → FileTree
  | [] => t
  | step :: rest =>
    let steps := done ++ [step]
    let next :=
      match t.land false absolute steps with
      | .ok (.missing dir name) => t.insert (name :: dir) .directory
      | _ => t
    next.plantDirs absolute steps rest

/-- Puts a node where the route leads, and directories where the way to it is missing. A file's
content goes where the links of the route lead. -/
def plant (t : FileTree) (route : Route) (node : Node) : FileTree :=
  match node with
  | .directory => t.plantDirs route.absolute [] route.steps
  | _ =>
    let ready := t.plantDirs route.absolute [] route.steps.dropLast
    match node, route.steps.getLast? with
    | .link _, some (.down name) =>
      match ready.locateDirectory route.absolute route.steps.dropLast with
      | .ok dir => ready.insert (name :: dir) node
      | .error _ => ready
    | _, _ =>
      match ready.land true route.absolute route.steps with
      | .ok (.found loc) => ready.insert loc node
      | .ok (.missing dir name) => ready.insert (name :: dir) node
      | .error _ => ready

/-- Takes away the node that the route leads to, a last link not followed, with all below it. -/
def remove (t : FileTree) (route : Route) : FileTree :=
  match route.steps.getLast? with
  | some (.down name) =>
    match t.locateDirectory route.absolute route.steps.dropLast with
    | .ok dir => t.restrict fun loc => !(name :: dir).isSuffixOf loc
    | .error _ => t
  | _ => t

/-- The names of a location from the current directory on, if it is strictly below that. -/
def namesBelow? (t : FileTree) (loc : Location) : Option (List FileName) :=
  if t.cwd.isSuffixOf loc && loc != t.cwd
  then some (loc.take (loc.length - t.cwd.length)).reverse
  else none

/-- Depth first, the names of one directory in the order of their bytes. -/
def comesBefore (a b : List FileName × Node) : Bool :=
  let key (x : List FileName × Node) := x.1.map fun name => name.bytes.toList
  !decide (key b < key a)

/-- Everything below the current directory, a directory before what is in it. -/
def survey (t : FileTree) : List (List FileName × Node) :=
  (t.nodes.filterMap fun entry =>
    (t.namesBelow? entry.1).map fun names => (names, entry.2)).mergeSort comesBefore

end FileTree

end Vendoring
