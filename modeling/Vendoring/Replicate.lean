import Vendoring.Job
import Vendoring.LocalCopy
import Vendoring.Report

/-!
# Keeping a local copy of a remote tree

The walk goes depth first through the directories of the remote side, with the pending ones on a
stack. All files of a directory are written before any directory in it is listed, and no listing
is read twice, so the walk also ends on a remote side that refers back to itself.

A file is written in four calls: its directory is made, the file is made, its content is fetched,
its content is written. A remote side can go on inventing directories forever, so the walk itself
takes a bound on its steps; it has no result if it has not ended by then.
-/

set_option autoImplicit false

namespace Vendoring

/-- How a copy is kept. -/
structure ReplicaOptions where
  /-- The directory that holds the copy. -/
  outputDir : LocalPath
  excludedExtensions : List String
  /-- How deep directories may lie, the first one being at depth 0. -/
  maxDepth : Option Nat
  deriving DecidableEq, Repr

/-- A directory that the walk has yet to come to. -/
structure Pending where
  url : String
  depth : Nat
  deriving DecidableEq, Repr

/-- How far a walk has come. -/
structure Walk where
  /-- The directories to come, the next one first. -/
  pending : List Pending
  /-- The addresses of the listings that were come to. -/
  visited : List String
  report : Report
  deriving DecidableEq, Repr

/-- A walk that starts at one directory. -/
def Walk.from (url : String) : Walk := ⟨[⟨url, 0⟩], [], .empty⟩

section

variable {σ : Type} (remote : Remote σ) (store : Store σ) (options : ReplicaOptions)

/-- Makes the directory that a path lies in. -/
def makeParent (path : LocalPath) : Job σ Unit :=
  match path.parent? with
  | some parent => store.makeDirs parent
  | none => pure ()

/-- Writes one remote file to its place in the copy, if it has one. -/
def keepFile (report : Report) (e : Entry) (url : String) : Job σ Report :=
  if isExcluded options.excludedExtensions e.path then pure report.countExcluded
  else
    match localPath? e.path with
    | none => pure report.countSkipped
    | some place => do
      let path := options.outputDir.join place
      makeParent store path
      store.touch path
      let content ← remote.fetch url
      store.write path content
      pure (report.addUpdated [path])

/-- Deals with one entry, so far as it is a file. -/
def keepEntry (report : Report) (e : Entry) : Job σ Report :=
  match e.downloadUrl? with
  | some url => keepFile remote store options report e url
  | none => pure report

/-- The directories of a listing, one step deeper than `depth`. -/
def subdirectories (depth : Nat) (entries : List Entry) : List Pending :=
  (entries.filter Entry.isDirectory).map fun e => ⟨e.listingUrl, depth + 1⟩

/-- Refuses a directory that lies too deep. -/
def checkDepth (here : Pending) : Job σ Unit :=
  match options.maxDepth with
  | some limit =>
    if limit < here.depth then throw (.tooDeep here.url here.depth limit) else pure ()
  | none => pure ()

/-- Comes to a directory, the first time or again. -/
def visit (here : Pending) (w : Walk) : Job σ Walk :=
  if w.visited.contains here.url then pure w
  else do
    checkDepth options here
    let entries ← remote.list here.url
    let report ← entries.foldlM (keepEntry remote store options) w.report.countListing
    pure ⟨subdirectories here.depth entries ++ w.pending, here.url :: w.visited, report⟩

/-- Walks on for at most `bound` directories, each counted as often as the walk comes to it. -/
def walkOn : Nat → Walk → Job σ (Option Report)
  | bound, w =>
    match w.pending with
    | [] => pure (some w.report)
    | here :: pending =>
      match bound with
      | 0 => pure none
      | bound + 1 => do
        walkOn bound (← visit remote store options here { w with pending })

/-- Keeps the copy of the remote tree below the listing with this address. -/
def replicate (bound : Nat) (url : String) : Job σ (Option Report) :=
  walkOn remote store options bound (.from url)

end

end Vendoring
