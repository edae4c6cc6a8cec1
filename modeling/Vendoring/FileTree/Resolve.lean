import Vendoring.FileTree.Route

/-!
# Where a path leads

Resolution follows a route through a tree, links included. Every step is taken in a directory;
a link is replaced by the steps of its target, taken where the link stands; at most `maxLinks`
links are followed, so the walk ends on every tree, also on one whose links run in circles.

`Landing` says what the walk found: a node, or the place in an existing directory where the last
name is missing.
-/

set_option autoImplicit false

namespace Vendoring

/-- Where a route leads. -/
inductive Landing where
  | found (loc : Location)
  /-- Everything up to the last name is there, and that name is not in its directory. -/
  | missing (dir : Location) (name : FileName)
  deriving DecidableEq

namespace FileTree

/-- How many links one resolution follows. -/
def maxLinks : Nat := 40

/-- The longest name, in bytes. -/
def maxNameLength : Nat := 255

/-- Walks the steps from `here`, handing over to `follow` at the first link. When the walk is for
a file that may have to be made (`making`), a last name with a slash behind it is refused before
it is looked up, because what is made would be no directory. -/
def walkWith (t : FileTree) (making : Bool)
    (follow : Location → List Step → Except FileFault Landing) :
    Location → List Step → Except FileFault Landing
  | here, [] => .ok (.found here)
  | here, step :: rest =>
    match t.node? here with
    | none => .error .notFound
    | some (.file _) => .error .notDirectory
    | some (.link _) => .error .notDirectory
    | some .directory =>
      match step with
      | .stay => walkWith t making follow here rest
      | .enter => walkWith t making follow here rest
      | .up => walkWith t making follow here.tail rest
      | .down name =>
        if making && rest == [.enter] then .error .isDirectory
        else if name.bytes.size > maxNameLength then .error .nameTooLong
        else
          match t.node? (name :: here) with
          | none => if rest.isEmpty then .ok (.missing here name) else .error .notFound
          | some (.link target) =>
            let route := Route.ofPath target
            follow (if route.absolute then [] else here) (route.steps ++ rest)
          | some _ => walkWith t making follow (name :: here) rest

/-- Walks the steps from a location, following up to `links` links. -/
def walk (t : FileTree) (making : Bool) : Nat → Location → List Step → Except FileFault Landing
  | 0 => t.walkWith making fun _ _ => .error .tooManyLinks
  | links + 1 => t.walkWith making (t.walk making links)

/-- Where the steps of a route lead, links followed. -/
def land (t : FileTree) (making : Bool) (absolute : Bool) (steps : List Step) :
    Except FileFault Landing :=
  t.walk making maxLinks (if absolute then [] else t.cwd) steps

/-- The location of what a path names, links followed. -/
def locate (t : FileTree) (p : LocalPath) : Except FileFault Location := do
  let route ← Route.ofPath? p
  match ← t.land false route.absolute route.steps with
  | .found loc => pure loc
  | .missing .. => throw .notFound

/-- The location of the directory that the steps lead to. -/
def locateDirectory (t : FileTree) (absolute : Bool) (steps : List Step) :
    Except FileFault Location := do
  match ← t.land false absolute steps with
  | .missing .. => throw .notFound
  | .found loc =>
    match t.node? loc with
    | some .directory => pure loc
    | some _ => throw .notDirectory
    | none => throw .notFound

/-- Does the path lead to a directory? -/
def isDirectory (t : FileTree) (p : LocalPath) : Bool :=
  match t.locate p with
  | .ok loc => (t.node? loc).any (·.isDirectory)
  | .error _ => false

/-- The bytes of the file that a path leads to. -/
def read (t : FileTree) (p : LocalPath) : Except FileFault ByteArray := do
  match t.node? (← t.locate p) with
  | some (.file data) => pure data
  | some .directory => throw .isDirectory
  | _ => throw .notFound

end FileTree

end Vendoring
