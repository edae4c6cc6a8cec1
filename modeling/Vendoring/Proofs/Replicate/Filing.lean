import Vendoring.Proofs.Job
import Vendoring.Proofs.LocalCopy
import Vendoring.Replicate

/-!
# What becomes of one entry

`filing` decides by the options and the entry alone what a copy does with it: nothing, count it, or
keep its content at one path. `Filing.carryOut` does that, in four calls where there is content to
keep. `keepEntry_eq` says that a walk treats every entry by its filing, so a statement about all the
files of a run is a statement about filings.
-/

set_option autoImplicit false

namespace Vendoring

/-- What a copy does with an entry. -/
inductive Filing where
  /-- There is no content to keep. -/
  | noContent
  | excluded
  | noPlace
  /-- The content behind `url` goes to `path`. -/
  | kept (url : String) (path : LocalPath)
  deriving DecidableEq

/-- What a copy with these options does with an entry. -/
def filing (options : ReplicaOptions) (e : Entry) : Filing :=
  match e.downloadUrl? with
  | none => .noContent
  | some url =>
    if isExcluded options.excludedExtensions e.path then .excluded
    else
      match localPath? e.path with
      | none => .noPlace
      | some place => .kept url (options.outputDir.join place)

/-- Does what the filing says and gives an account of it. -/
def Filing.carryOut {σ : Type} (remote : Remote σ) (store : Store σ) (report : Report) :
    Filing → Job σ Report
  | noContent => pure report
  | excluded => pure report.countExcluded
  | noPlace => pure report.countSkipped
  | kept url path => do
    store.makeDirs path.parent
    store.touch path
    let content ← remote.fetch url
    store.write path content
    pure (report.addUpdated [path])

theorem filing_eq_kept_iff {options : ReplicaOptions} {e : Entry} {url : String}
    {path : LocalPath} :
    filing options e = .kept url path ↔
      e.downloadUrl? = some url ∧ isExcluded options.excludedExtensions e.path = false ∧
        ∃ place, localPath? e.path = some place ∧ path = options.outputDir.join place := by
  unfold filing
  cases e.downloadUrl? with
  | none => simp
  | some found =>
    cases isExcluded options.excludedExtensions e.path with
    | true => simp
    | false => cases localPath? e.path <;> simp [eq_comm]

/-- **A walk does with every entry what its filing says.** In particular there is always a parent
directory to make. -/
theorem keepEntry_eq {σ : Type} (remote : Remote σ) (store : Store σ) (options : ReplicaOptions) :
    keepEntry remote store options =
      fun report e => (filing options e).carryOut remote store report := by
  funext report e
  unfold keepEntry filing
  cases e.downloadUrl? with
  | none => rfl
  | some url =>
    dsimp only
    unfold keepFile
    split
    · rfl
    · cases hplace : localPath? e.path with
      | none => rfl
      | some place =>
        obtain ⟨dir, hdir⟩ := exists_parent_of_localPath? hplace options.outputDir
        simp only [makeParent, hdir, Filing.carryOut, LocalPath.parent, Option.getD_some]

end Vendoring
