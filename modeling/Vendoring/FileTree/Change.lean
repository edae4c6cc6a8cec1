import Vendoring.FileTree.Resolve

/-!
# Changes to a tree of files

The three operations of a sync: make a directory with its parents, make sure that a file exists,
replace the content of a file. `touch` and `write` either fail and leave the tree alone or change
one location. `makeDirs` can stop half-way, so it returns the tree it got to with its outcome.
-/

set_option autoImplicit false

namespace Vendoring

namespace FileTree

/-- The steps of a route without the slash at its end, split into those to the directory and the
last one. -/
def splitLastStep (steps : List Step) : List Step × Option Step :=
  let steps := steps.filter (· != .enter)
  (steps.dropLast, steps.getLast?)

/-- Makes one directory. Its parent has to be there, and nothing may stand in its place, a link to
nowhere included. -/
def makeDir (t : FileTree) (p : LocalPath) : Except FileFault FileTree := do
  let route ← Route.ofPath? p
  let (before, last) := splitLastStep route.steps
  let dir ← t.locateDirectory route.absolute before
  match last with
  | some (.down name) =>
    if name.bytes.size > maxNameLength then throw .nameTooLong
    else if (t.node? (name :: dir)).isSome then throw .alreadyExists
    else pure (t.insert (name :: dir) .directory)
  | _ => throw .alreadyExists

/-- Makes the first of the paths, each being the parent of the one before it. If its parent is
missing, that is made first. A path that leads to a directory already is as good as made. -/
def makeChain (t : FileTree) : List LocalPath → FileTree × Except FileFault Unit
  | [] => (t, .ok ())
  | p :: parents =>
    if p.text.isEmpty then (t, .ok ())
    else
      match t.makeDir p with
      | .ok made => (made, .ok ())
      | .error .notFound =>
        match t.makeChain parents with
        | (made, .error fault) => (made, .error fault)
        | (made, .ok ()) =>
          match made.makeDir p with
          | .ok whole => (whole, .ok ())
          | .error fault => (made, if made.isDirectory p then .ok () else .error fault)
      | .error fault => (t, if t.isDirectory p then .ok () else .error fault)

/-- Makes a directory and all of its missing parents. The empty path needs none. -/
def makeDirs (t : FileTree) (p : LocalPath) : FileTree × Except FileFault Unit :=
  t.makeChain (p :: p.parents)

/-- The location of the file that a path names, made if its directory has no such name. The bytes
of a file that is there are left alone. -/
def openFile (t : FileTree) (p : LocalPath) : Except FileFault (FileTree × Location) := do
  let route ← Route.ofPath? p
  match ← t.land true route.absolute route.steps with
  | .missing dir name => pure (t.insert (name :: dir) (.file .empty), name :: dir)
  | .found loc =>
    match t.node? loc with
    | some (.file _) => pure (t, loc)
    | some .directory => throw .isDirectory
    | _ => throw .notFound

/-- Makes an empty file at the path unless there is one. -/
def touch (t : FileTree) (p : LocalPath) : Except FileFault FileTree := do
  pure (← t.openFile p).1

/-- Replaces the content of the file at the path, making it if there is none. -/
def write (t : FileTree) (p : LocalPath) (data : ByteArray) : Except FileFault FileTree := do
  let (opened, loc) ← t.openFile p
  pure (opened.insert loc (.file data))

end FileTree

end Vendoring
