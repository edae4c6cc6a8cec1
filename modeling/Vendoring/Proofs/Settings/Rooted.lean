import Mathlib.Data.List.Forall2
import Vendoring.Proofs.FileTree.Shortened
import Vendoring.Refresh
import Vendoring.Settings

/-!
# Settings seen from a root

The local paths of the settings are seen from a root, one after the other, and nothing else is
touched. Two facts make this safe to do, and to do more than once. **Roots act on settings**
(`rootedAt_acts`): it makes no difference whether they are seen from one root after another or at
once, and what comes out is always in normal form. And **a root redirects nothing**
(`rootedAt_redirects_nothing`): a target that is a directory behind the root is the same directory
as it is seen from the root, so its files are the same.
-/

set_option autoImplicit false

namespace Vendoring

namespace LocalPath

/-- What a path has become when it is seen from a root. -/
structure SeenFrom (root given seen : LocalPath) : Prop where
  normal : seen.IsNormal
  /-- Every component is kept, each `..` among them, but for the `.`. -/
  components : seen.components.filter (· != .here) =
    (root.join given).components.filter (· != .here)
  absolute : seen.isAbsolute = true ↔ given.isAbsolute = true ∨ root.isAbsolute = true
  /-- To an absolute path the root does not matter. -/
  apart : given.isAbsolute = true → ∀ other : LocalPath, other.resolve given = seen

theorem seenFrom_resolve (root p : LocalPath) : SeenFrom root p (root.resolve p) where
  normal := isNormal_resolve root p
  components := by
    rw [filter_components, filter_components, isAbsolute_resolve, isAbsolute_join, steps_resolve,
      steps_join]
  absolute := by rw [isAbsolute_resolve, Bool.or_eq_true]
  apart := fun h other => resolve_of_isAbsolute h other root

end LocalPath

namespace Settings

/-- The settings with other local paths. -/
def withPaths (s : Settings) (targets : List LocalPath) (outputDir : LocalPath) : Settings :=
  { s with
    decompiler := { s.decompiler with targets }
    processors := { s.processors with outputDir } }

/-- Settings seen from two roots and from a third one are the same, if all paths are. -/
theorem rootedAt_rootedAt (s : Settings) {first second both : LocalPath}
    (h : ∀ p, second.resolve (first.resolve p) = both.resolve p) :
    (s.rootedAt first).rootedAt second = s.rootedAt both := by
  have htargets : (s.decompiler.targets.map first.resolve).map second.resolve =
      s.decompiler.targets.map both.resolve := by
    simp only [List.map_map, Function.comp_def, h]
  change s.withPaths ((s.decompiler.targets.map first.resolve).map second.resolve)
    (second.resolve (first.resolve s.processors.outputDir)) = _
  rw [htargets, h]
  rfl

/-- **Roots act on settings.** To see the settings from a root, and the result from another one, is
to see them from the first root as that is seen from the other; and to see the result from where one
is changes nothing. Each target, in its place, and the directory for the copy become what they are
as seen from the root, and with the old paths put back the settings are what they were. -/
theorem rootedAt_acts (s : Settings) (root outer : LocalPath) :
    (s.rootedAt root).rootedAt outer = s.rootedAt (outer.resolve root) ∧
    (s.rootedAt root).rootedAt ⟨"."⟩ = s.rootedAt root ∧
    List.Forall₂ (LocalPath.SeenFrom root) s.decompiler.targets
      (s.rootedAt root).decompiler.targets ∧
    LocalPath.SeenFrom root s.processors.outputDir (s.rootedAt root).processors.outputDir ∧
    (s.rootedAt root).withPaths s.decompiler.targets s.processors.outputDir = s := by
  have htargets : List.Forall₂ (LocalPath.SeenFrom root) s.decompiler.targets
      (s.decompiler.targets.map root.resolve) :=
    List.forall₂_map_right_iff.2 (List.forall₂_same.2 fun p _ => LocalPath.seenFrom_resolve root p)
  exact ⟨s.rootedAt_rootedAt (LocalPath.resolve_resolve outer root),
    s.rootedAt_rootedAt (LocalPath.resolve_here root), htargets,
    LocalPath.seenFrom_resolve root s.processors.outputDir, rfl⟩

/-- **A root redirects nothing.** Where a target, joined to the root as it is given, leads to a
directory, the target in its place in the rooted settings leads to the same directory, over
whatever links; so both have an inventory, and it is the same. -/
theorem rootedAt_redirects_nothing (t : FileTree) (s : Settings) (root : LocalPath) {i : Nat}
    {target : LocalPath} (htarget : s.decompiler.targets[i]? = some target) {dir : Location}
    (hdir : t.DirectoryAt (root.join target) dir) :
    ∃ rooted, (s.rootedAt root).decompiler.targets[i]? = some rooted ∧ t.DirectoryAt rooted dir ∧
      ∃ files, Target.collect t (root.join target) = .ok ⟨root.join target, files⟩ ∧
        Target.collect t rooted = .ok ⟨rooted, files⟩ := by
  have hcollect {p : LocalPath} (hp : t.DirectoryAt p dir) :
      Target.collect t p = .ok ⟨p, .ofDirectory t dir⟩ := by
    rw [Target.collect, Inventory.collect_eq_ok_iff.2 ⟨dir, hp, rfl⟩]
  refine ⟨root.resolve target, ?_, hdir.resolve, .ofDirectory t dir, hcollect hdir,
    hcollect hdir.resolve⟩
  simp only [rootedAt, List.getElem?_map, htarget, Option.map_some]

/-- A working directory with a link to a directory beside itself, which holds one file. -/
def linkedTree : FileTree where
  nodes := [([.text "desk"], .directory), ([.text "way", .text "desk"], .link ⟨".././store/."⟩),
    ([.text "store"], .directory), ([.text "held.cc", .text "store"], .file .empty)]
  cwd := [.text "desk"]
  distinct := by decide +kernel

/-- The target is a link with slashes and dots behind it, and the root is written in a long way. -/
theorem rootedAt_redirects_nothing_linked :
    let s := { default with decompiler := ⟨"cpp", [⟨"src"⟩, ⟨"way/.//"⟩]⟩ }
    linkedTree.DirectoryAt (LocalPath.join ⟨"..//desk/./"⟩ ⟨"way/.//"⟩) [.text "store"] ∧
      (s.rootedAt ⟨"..//desk/./"⟩).decompiler.targets[1]? = some ⟨"../desk/way"⟩ ∧
      ∃ files, Target.collect linkedTree ⟨"../desk/way"⟩ = .ok ⟨⟨"../desk/way"⟩, files⟩ := by
  intro s
  have hdir : linkedTree.DirectoryAt (LocalPath.join ⟨"..//desk/./"⟩ ⟨"way/.//"⟩) [.text "store"] :=
    ⟨_, rfl, by decide +kernel⟩
  obtain ⟨rooted, hrooted, -, files, -, hfiles⟩ := rootedAt_redirects_nothing linkedTree s
    ⟨"..//desk/./"⟩ (i := 1) rfl hdir
  have hpath : (s.rootedAt ⟨"..//desk/./"⟩).decompiler.targets[1]? = some ⟨"../desk/way"⟩ := by
    decide +kernel
  rw [hpath] at hrooted
  cases hrooted
  exact ⟨hdir, hpath, files, hfiles⟩

end Settings

end Vendoring
