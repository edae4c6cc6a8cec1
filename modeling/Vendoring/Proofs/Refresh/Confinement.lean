import Vendoring.Proofs.Refresh.AllowList
import Vendoring.Proofs.Replicate.Confinement

/-!
# A refresh stays inside its targets

The names of a listing are joined to the target directories as they come, and nothing looks at what
they say: `..` and `/etc/passwd` would lead anywhere. What keeps them in is the inventory. **A name
that is written under belonged to a file of that target when the target was collected**
(`synchronise_inside_targets`), and no directory holds a name that is a step or has a slash in it.
So joining it adds one proper component and no more.

Directories are never made and files never touched, so a refresh names no other paths.
-/

set_option autoImplicit false

namespace Vendoring

/-- The path stands for a name directly in the directory, and something other than a directory stood
there under that name. A link counts as what it is. -/
structure FileTree.HoldsAt (t : FileTree) (dir : LocalPath) (name : String) (path : LocalPath) :
    Prop where
  path_eq : path = dir.join ⟨name⟩
  adds : dir.Extends path [name]
  stood : ∃ loc proper node, t.DirectoryAt dir loc ∧
    t.node? (.text name proper :: loc) = some node ∧ node ≠ .directory

/-- A call that names no path but those of files that the directories held in this tree. -/
def Call.IsInside (t : FileTree) (dirs : List LocalPath) : Call → Prop
  | .list _ | .fetch _ => True
  | .makeDirs _ | .touch _ => False
  | .write path _ => ∃ dir ∈ dirs, ∃ name, t.HoldsAt dir name path

/-- Joining a proper name adds it as the one new component. -/
theorem LocalPath.extends_join_name (dir : LocalPath) {name : String}
    (h : isFileName name.toList = true) : dir.Extends (dir.join ⟨name⟩) [name] := by
  have hname : (⟨name⟩ : LocalPath) = ofNames [name.toList] := by simp [ofNames, joinSlash]
  have hproper : ∀ cs ∈ [name.toList], isFileName cs = true := by simpa using h
  refine ⟨?_, by simpa using h⟩
  rw [hname, components_join (List.cons_ne_nil _ _) hproper]
  simp

/-- What a collected target holds, its directory held. -/
theorem Target.holdsAt_of_collect {t : FileTree} {dir : LocalPath} {target : Target} {name : String}
    (hcollect : Target.collect t dir = .ok target) (hholds : target.files.contains name = true) :
    t.HoldsAt dir name (target.place name) := by
  obtain ⟨loc, hloc, rfl⟩ := Target.collect_eq_ok_iff.1 hcollect
  obtain ⟨proper, node, hnode, hfile⟩ := Inventory.contains_iff.1 hholds
  exact ⟨rfl, dir.extends_join_name proper, loc, proper, node, hloc, hnode, hfile⟩

section

variable {σ : Type} (tree : σ → FileTree) (remote : Remote σ) (store : Store σ) (s : Settings)
  (world : σ)

theorem refreshBySettings_inside :
    ∀ call ∈ (refreshBySettings (tree ·.world) remote.traced store.traced s ⟨world, []⟩).2.calls,
      call.IsInside (tree world) s.decompiler.targets := by
  have hnone : ∀ call ∈ ([] : List Call), call.IsInside (tree world) s.decompiler.targets :=
    fun call hcall => absurd hcall List.not_mem_nil
  rcases refreshBySettings_cases (tree ·.world) remote.traced store.traced s ⟨world, []⟩ with
    ⟨fault, hrun⟩ | ⟨targets, url, hcollect, -, hrun⟩
  · rw [hrun]
    exact hnone
  · rw [hrun]
    apply refresh_keeps (I := fun s' : Traced σ => ∀ call ∈ s'.calls,
      call.IsInside (tree world) s.decompiler.targets)
    · exact fun url => Job.keeps_traced _ trivial
    · exact fun url => Job.keeps_traced _ trivial
    · -- the listing chooses the names, but only the holders of a name are written to
      intro name _ target htarget content
      obtain ⟨hmem, hholds⟩ := List.mem_filter.1 htarget
      obtain ⟨dir, hdir, hcollected⟩ := (mem_of_mapM_ok hcollect target).1 hmem
      exact Job.keeps_traced _ ⟨dir, hdir, name, Target.holdsAt_of_collect hcollected hholds⟩
    · exact hnone

/-- **Every path that a refresh of the targets names is that of a file they held**, whatever the
remote side lists, whatever the store does, and however the run ends. -/
theorem synchronise_inside_targets (bound : Nat) :
    ∀ call ∈ (synchronise (tree ·.world) remote.traced store.traced bound s .decompiler
        ⟨world, []⟩).2.calls, call.IsInside (tree world) s.decompiler.targets := by
  have hinside := refreshBySettings_inside tree remote store s world
  rw [← Job.map_world] at hinside
  exact hinside

end

/-- A remote side with names that would lead elsewhere, and one that a target holds. -/
def misnaming : Remote Unit where
  list _ := pure (["..", "", "/etc/passwd", "../a.cc", "a.cc/", "a.cc"].map fun name =>
    ⟨name, "cpp/" ++ name, .file, some "content", ""⟩)
  fetch _ := pure .empty

/-- Settings with one target, the directory of the links in `linkedTree`. -/
def linkedSettings : Settings := { Settings.default with decompiler := ⟨"cpp", [⟨"src/"⟩]⟩ }

theorem synchronise_inside_targets_misnaming :
    Call.write ⟨"src/a.cc"⟩ .empty ∈ (synchronise (fun _ => linkedTree) misnaming.traced
      Store.idle.traced 0 linkedSettings .decompiler ⟨(), []⟩).2.calls ∧
    (Call.write ⟨"src/a.cc"⟩ .empty).IsInside linkedTree linkedSettings.decompiler.targets :=
  ⟨by decide +kernel, synchronise_inside_targets (fun _ => linkedTree) misnaming Store.idle
    linkedSettings () 0 (.write ⟨"src/a.cc"⟩ .empty) (by decide +kernel)⟩

end Vendoring
