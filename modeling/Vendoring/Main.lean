import Vendoring.FileTree.Survey
import Vendoring.Run
import Vendoring.Web

/-!
# The program

The program reads its arguments and the files that a run looks at before it asks for anything, and
runs. It has no network of its own: every request stays without a response, so a run that comes to
its first request ends there, and nothing on disk is changed. It keeps no log.
-/

set_option autoImplicit false

namespace Vendoring

/-- The tree with the content of a file, as far as it can be read. -/
def plantFile (tree : FileTree) (path : LocalPath) : IO FileTree := do
  try return tree.plant (.ofPath path) (.file (← IO.FS.readBinFile path.text))
  catch _ => return tree

/-- The tree with the entries of a directory, as far as it can be read. The contents of files are left
out. -/
def plantEntries (tree : FileTree) (dir : LocalPath) : IO FileTree := do
  try
    let entries ← (← IO.FS.realPath dir.text).readDir
    entries.foldlM (fun tree entry => do
      let node : Node := if ← entry.path.isDir then .directory else .file .empty
      return tree.plant (.ofPath (dir.join ⟨entry.fileName⟩)) node)
      (tree.plant (.ofPath dir) .directory)
  catch _ => return tree

/-- The name of the current directory, which no run asks for. -/
def workName : FileName := .text "work"

/-- The files that a run looks at. -/
def snapshot (c : CommandLine) : IO FileTree := do
  let empty := FileTree.workingIn workName
  let tree ← match c.config with
    | some path => plantFile empty path
    | none => pure empty
  match Settings.load tree c.config with
  | .ok settings => (settings.rootedAt c.root).decompiler.targets.foldlM plantEntries tree
  | .error _ => return tree

/-- What goes to the error output when a run fails. -/
def RunFault.report (fault : RunFault) : String :=
  "Error: " ++ fault.message
    ++ ((fault.cause?.map fun cause => "\n\nCaused by:\n    " ++ cause.message).getD "")

/-- Does the text answer a question of the user? Otherwise it is about an error. -/
def CommandLine.Refusal.isAnswer : CommandLine.Refusal → Bool
  | help | version => true
  | _ => false

end Vendoring

open Vendoring in
/-- Runs the program by its arguments and the token in the environment. -/
def main (args : List String) : IO UInt32 := do
  match CommandLine.ofWords (← IO.getEnv "GITHUB_TOKEN") args with
  | .error refusal =>
    if refusal.isAnswer then
      IO.print refusal.message
      return 0
    else
      IO.eprint refusal.message
      return 2
  | .ok c =>
    let (result, final) :=
      run id .unreachable Store.disk Web.empty.walkBound c ⟨← snapshot c, ""⟩
    IO.print final.printed
    match result with
    | .ok _ => return 0
    | .error fault =>
      IO.eprintln fault.report
      return 1
