import Vendoring.Disk
import Vendoring.Proofs.Replicate.Walk

/-!
# A copy stays below its directory

A remote side chooses the paths of its entries freely. **Whatever it chooses, no call of a walk
names a path outside the directory of the copy** (`replicate_confined`): the components of a path
are those of that directory and then proper names only, so there is no step up, no second root and
no empty name.

The argument is about paths alone. A path that content is kept at is the directory joined with a
relative path of proper names (`localPath?_eq_some`), so its components are known, and its parent
has one name less.
-/

set_option autoImplicit false

namespace Vendoring

/-- The path has the components of `base` and then these names, which are proper ones. -/
def LocalPath.Extends (base p : LocalPath) (names : List String) : Prop :=
  p.components = base.components ++ names.map .name ∧
    ∀ name ∈ names, isFileName name.toList = true

/-- A call that names no path outside `base`: files lie strictly below it, directories below it or
at it. -/
def Call.IsConfined (base : LocalPath) : Call → Prop
  | .list _ | .fetch _ => True
  | .makeDirs dir => ∃ names, base.Extends dir names
  | .touch path => ∃ names, names ≠ [] ∧ base.Extends path names
  | .write path _ => ∃ names, names ≠ [] ∧ base.Extends path names

/-- A path that content is kept at lies strictly below the directory of the copy. -/
theorem extends_of_filing {options : ReplicaOptions} {e : Entry} {url : String} {path : LocalPath}
    (h : filing options e = .kept url path) :
    ∃ names, names ≠ [] ∧ options.outputDir.Extends path names := by
  obtain ⟨-, -, place, hplace, rfl⟩ := filing_eq_kept_iff.1 h
  obtain ⟨names, -, hne, hproper, rfl⟩ := localPath?_eq_some hplace
  refine ⟨names.map String.ofList, by simpa using hne, ?_, ?_⟩
  · rw [LocalPath.components_join hne hproper, List.map_map]
    rfl
  · intro name hname
    obtain ⟨cs, hcs, rfl⟩ := List.mem_map.1 hname
    simpa using hproper cs hcs

/-- Taking the last step away leaves a path below the same directory. -/
theorem LocalPath.Extends.parent {base p : LocalPath} {names : List String}
    (h : base.Extends p names) (hne : names ≠ []) : base.Extends p.parent names.dropLast := by
  refine ⟨?_, fun name hname => h.2 name (List.dropLast_subset names hname)⟩
  rw [components_parent, h.1, List.dropLast_append_of_ne_nil (by simpa using hne),
    List.map_dropLast]

/-- **At every point of every run, all calls are confined to the directory of the copy**, for every
remote side, every store, all options and also when the run fails or goes on without end. -/
theorem replicate_confined {σ : Type} (remote : Remote σ) (store : Store σ)
    (options : ReplicaOptions) (bound : Nat) (url : String) (world : σ) :
    ∀ call ∈ (replicate remote.traced store.traced options bound url ⟨world, []⟩).2.calls,
      call.IsConfined options.outputDir := by
  have hrun : (replicate remote.traced store.traced options bound url).Keeps
      fun s => ∀ call ∈ s.calls, call.IsConfined options.outputDir := by
    refine replicate_keeps (fun url => Job.keeps_traced _ trivial)
      (fun url => Job.keeps_traced _ trivial) ?_ bound url
    intro e url path hf
    obtain ⟨names, hne, hext⟩ := extends_of_filing hf
    exact ⟨Job.keeps_traced _ ⟨_, hext.parent hne⟩, Job.keeps_traced _ ⟨names, hne, hext⟩,
      fun data => Job.keeps_traced _ ⟨names, hne, hext⟩⟩
  exact hrun ⟨world, []⟩ fun call hcall => absurd hcall List.not_mem_nil

/-- A remote side with a path that steps up and one that could be taken for an absolute one. -/
def hostile : Remote Unit where
  list _ := pure [⟨"x", "top/../x", .file, some "content", ""⟩,
    ⟨"Hosts", "//top//etc/Hosts", .file, some "content", ""⟩]
  fetch _ := pure .empty

theorem replicate_confined_hostile :
    Call.write ⟨"out/etc/hosts"⟩ .empty ∈
      (replicate hostile.traced Store.idle.traced ⟨⟨"out"⟩, [], none⟩ 1 "top" ⟨(), []⟩).2.calls ∧
    (Call.write ⟨"out/etc/hosts"⟩ .empty).IsConfined ⟨"out"⟩ :=
  ⟨by decide +kernel, replicate_confined hostile Store.idle ⟨⟨"out"⟩, [], none⟩ 1 "top" ()
    (.write ⟨"out/etc/hosts"⟩ .empty) (by decide +kernel)⟩

end Vendoring
