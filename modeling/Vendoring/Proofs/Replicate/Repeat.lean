import Vendoring.Proofs.Replicate.Transcript
import Vendoring.Proofs.Upstream
import Vendoring.Synchronise

/-!
# Keeping a copy that is there already

A walk that succeeded can be repeated, and it changes nothing (`synchronise_again`). The second walk
begins with another tree than the first one, so it is not the same computation; but the tree it
begins with retains every tree that the first one went through. So each directory is there, each
path leads to the file it led to, and **each call is answered as before** (`Job.Again`).

On the way the second walk does change the tree: paths that lead to one file get their contents one
after the other, as they did in the first walk. At any point a file holds what was written to it
last, and if nothing was written to it yet, what the first walk left in it (`Rerun`). In the end the
two are the same.
-/

set_option autoImplicit false

namespace Vendoring

/-- The call succeeded, and what it made is there. -/
def Event.Confirmed (final : FileTree) (e : Event) : Prop := e.fault? = none ∧ e.Done final

/-- The second walk has come as far as the first one, on a tree that began as `final`. -/
structure Rerun (final : FileTree) (s₁ s₂ : Heard FileTree) : Prop where
  events : s₂.events = s₁.events
  retains : final.Retains s₂.world
  files : ∀ loc, s₂.world.node? loc =
    ((final.lastWritten s₁.events loc).map Node.file).or (final.node? loc)

/-- Where the job was done and its work is there, it can be done again: it answers the same, and at
most it writes what it wrote. -/
def Job.Again {α : Type} (final : FileTree) (event : Except Fault α → Event)
    (job : Job FileTree α) : Prop :=
  ∀ ⦃t₁ t₂ a⦄, (job t₁).1 = .ok a → (event (.ok a)).Done final → final.Retains t₂ →
    ∃ t₂', job t₂ = (.ok a, t₂') ∧ final.Retains t₂' ∧
      ∀ loc, t₂'.node? loc =
        ((final.lastWritten [event (.ok a)] loc).map Node.file).or (t₂.node? loc)

section

variable {final : FileTree}

/-! ## Calls made again -/

theorem Job.again_of_eq {α : Type} {event : Except Fault α → Event} {job : Job FileTree α}
    (hwritten : ∀ answer, (event answer).written? = none)
    (h : ∀ ⦃t₁ t₂ a⦄, (job t₁).1 = .ok a → (event (.ok a)).Done final → final.Retains t₂ →
      job t₂ = (.ok a, t₂)) : job.Again final event := by
  intro t₁ t₂ a hok hdone hretains
  refine ⟨t₂, h hok hdone hretains, hretains, fun loc => ?_⟩
  rw [FileTree.lastWritten_of_not_written (hwritten _)]
  rfl

theorem Upstream.list_again (u : Upstream) (url : String) :
    (u.remote.list url : Job FileTree _).Again final (.listed url) := by
  apply Job.again_of_eq fun _ => rfl
  intro t₁ t₂ entries hok _ _
  have hlisting : u.listing url = .ok entries := hok
  show (u.listing url, t₂) = _
  rw [hlisting]

theorem Upstream.fetch_again (u : Upstream) (url : String) :
    (u.remote.fetch url : Job FileTree _).Again final (.fetched url) := by
  apply Job.again_of_eq fun _ => rfl
  intro t₁ t₂ data hok _ _
  have hcontent : u.content url = .ok data := hok
  show (u.content url, t₂) = _
  rw [hcontent]

theorem Store.makeDirs_again (dir : LocalPath) :
    (Store.disk.makeDirs dir).Again final (.madeDirs dir) := by
  apply Job.again_of_eq fun _ => rfl
  intro t₁ t₂ _ _ hdone hretains
  have hdir : t₂.HasDir dir := FileTree.HasDir.retains hdone hretains
  show ((t₂.makeDirs dir).2.mapError _, (t₂.makeDirs dir).1) = _
  rw [FileTree.makeDirs_of_hasDir hdir]
  rfl

theorem Store.touch_again (path : LocalPath) :
    (Store.disk.touch path).Again final (.touched path) := by
  apply Job.again_of_eq fun _ => rfl
  intro t₁ t₂ _ _ hdone hretains
  obtain ⟨loc, hfile⟩ := hdone
  show Store.change path (·.touch path) t₂ = _
  rw [Store.change, FileTree.touch_of_fileAt (hfile.retains hretains)]

theorem Store.write_again (path : LocalPath) (data : ByteArray) :
    (Store.disk.write path data).Again final (.wrote path data) := by
  intro t₁ t₂ _ _ hdone hretains
  obtain ⟨there, hfile⟩ := hdone
  have hfile₂ := hfile.retains hretains
  have hwrite : t₂.write path data = .ok (t₂.insert there (.file data)) :=
    FileTree.write_of_fileAt hfile₂ data
  refine ⟨t₂.insert there (.file data), ?_, ?_, ?_⟩
  · show Store.change path (·.write path data) t₂ = _
    rw [Store.change, hwrite]
  · exact hretains.trans (FileTree.grows_of_write hwrite).retains
  · intro loc
    have hne : there ≠ [] := by
      rintro rfl
      obtain ⟨-, old, hold⟩ := hfile
      cases hold
    rw [FileTree.node?_insert t₂ hne, FileTree.lastWritten_wrote hfile]
    split <;> rfl

/-! ## Walks made again -/

/-- **A call made again goes in lockstep**, as long as the first walk makes none that fails or whose
work is not there in the end. -/
theorem Job.Again.lockstep {α : Type} {event : Except Fault α → Event} {job : Job FileTree α}
    (h : job.Again final event) (hfault : ∀ fault, (event (.error fault)).fault? ≠ none) :
    Job.Lockstep (Rerun final) (fun s => ∃ e ∈ s.events, ¬ e.Confirmed final) (job.heard event)
      (job.heard event) where
  keeps := by
    rintro s ⟨e, he, hnot⟩
    exact ⟨e, Job.keeps_event job e s he, hnot⟩
  together := by
    intro s₁ s₂ hrerun
    -- a call that is not confirmed leads the first walk astray, so nothing is asked of the second
    by_cases hconfirmed : (event (job s₁.world).1).Confirmed final
    · obtain ⟨hnone, hdone⟩ := hconfirmed
      rcases hj : job s₁.world with ⟨fault | a, t₁⟩ <;> rw [hj] at hnone hdone
      · exact absurd hnone (hfault fault)
      · obtain ⟨t₂, hj₂, hretains, hnode?⟩ := h (congrArg Prod.fst hj) hdone hrerun.retains
        rw [Job.heard_run hj, Job.heard_run hj₂]
        refine .inr ⟨rfl, ?_, hretains, fun loc => ?_⟩
        · rw [hrerun.events]
        · show t₂.node? loc = _
          rw [hnode?, hrerun.files, FileTree.lastWritten_append]
          cases final.lastWritten [event (.ok a)] loc <;> rfl
    · refine .inl ⟨_, ?_, hconfirmed⟩
      exact List.mem_append_right _ (List.mem_singleton.2 rfl)

theorem replicate_rerun (u : Upstream) (options : ReplicaOptions) (bound : Nat) (url : String) :
    Job.Lockstep (Rerun final) (fun s => ∃ e ∈ s.events, ¬ e.Confirmed final)
      (replicate u.remote.heard Store.disk.heard options bound url)
      (replicate u.remote.heard Store.disk.heard options bound url) := by
  apply replicate_lockstep
  · exact fun url => (u.list_again url).lockstep nofun
  · exact fun url => (u.fetch_again url).lockstep nofun
  · exact fun dir => (Store.makeDirs_again dir).lockstep nofun
  · exact fun path => (Store.touch_again path).lockstep nofun
  · exact fun path data => (Store.write_again path data).lockstep nofun

/-- **A walk that succeeded can be made again from the tree it left**, which stays as it is. -/
theorem replicate_again (u : Upstream) (options : ReplicaOptions) (bound : Nat) (url : String)
    (t : FileTree) {report? : Option Report} {first : Heard FileTree}
    (hrun : replicate u.remote.heard Store.disk.heard options bound url ⟨t, []⟩ =
      (.ok report?, first)) :
    ∃ second, replicate u.remote.heard Store.disk.heard options bound url ⟨first.world, []⟩ =
        (.ok report?, second) ∧ second.events = first.events ∧
      second.world.cwd = first.world.cwd ∧
      ∀ loc, second.world.node? loc = first.world.node? loc := by
  have hremote : (u.remote : Remote FileTree).OnTree id := ⟨fun _ _ => rfl, fun _ _ => rfl⟩
  have haccount : t.Account first.events first.world :=
    (replicate_account hremote (Store.onTree_disk []) t bound url).of_eq (.start t) hrun
  have hregular : Regular options first.events := (replicate_regular bound url).ok rfl hrun
  have hstart : Rerun first.world ⟨t, []⟩ ⟨first.world, []⟩ :=
    ⟨rfl, .refl _, fun _ => rfl⟩
  have htogether := (replicate_rerun u options bound url).together _ _ hstart
  rcases hagain : replicate u.remote.heard Store.disk.heard options bound url ⟨first.world, []⟩
    with ⟨result, second⟩
  rw [hrun, hagain] at htogether
  rcases htogether with ⟨e, he, hnot⟩ | ⟨rfl, hrerun⟩
  · exact absurd ⟨hregular.fault?_eq_none he, haccount.done e he⟩ hnot
  · refine ⟨second, rfl, hrerun.events, hrerun.retains.cwd, fun loc => ?_⟩
    -- what was written last is what the first walk left, so nothing has changed in the end
    rw [hrerun.files]
    cases hlast : first.world.lastWritten first.events loc with
    | none => rfl
    | some data => rw [haccount.written hlast]; rfl

end

/-- A synchronisation of the processors is a walk, if the settings give an address to begin with. -/
theorem synchronise_processors {σ : Type} (tree : σ → FileTree) (remote : Remote σ)
    (store : Store σ) (bound : Nat) (s : Settings) (world : σ) :
    synchronise tree remote store bound s .processors world =
      match s.listingUrl s.processors.remotePath with
      | .ok url => replicate remote store s.processors.replicaOptions bound url world
      | .error fault => (.error fault, world) := by
  show ((Job.ofExcept (s.listingUrl s.processors.remotePath) : Job σ String) >>= fun url =>
    replicate remote store s.processors.replicaOptions bound url) world = _
  cases s.listingUrl s.processors.remotePath with
  | ok url => rfl
  | error fault => rfl

/-- **Synchronising the processors twice is synchronising them once.** If it succeeds, then so does
a second time from the tree that it left, with the same calls and answers and the same report, and
the tree stays exactly as it is. -/
theorem synchronise_again (u : Upstream) (bound : Nat) (s : Settings) (t : FileTree)
    {report : Report} {first : Heard FileTree}
    (hrun : synchronise Heard.world u.remote.heard Store.disk.heard bound s .processors ⟨t, []⟩ =
      (.ok (some report), first)) :
    ∃ second, synchronise Heard.world u.remote.heard Store.disk.heard bound s .processors
        ⟨first.world, []⟩ = (.ok (some report), second) ∧ second.events = first.events ∧
      second.world.cwd = first.world.cwd ∧
      ∀ loc, second.world.node? loc = first.world.node? loc := by
  rw [synchronise_processors] at hrun ⊢
  cases hurl : s.listingUrl s.processors.remotePath with
  | error fault =>
    rw [hurl] at hrun
    cases hrun
  | ok url =>
    rw [hurl] at hrun
    exact replicate_again u _ bound url t hrun

/-- A remote side that offers a file twice, once by the name of the link to it, and a directory
that is in itself. -/
def Upstream.repeating : Upstream where
  listing _ := .ok [⟨"alias.cc", "cpp/alias.cc", .file, some "first", ""⟩,
    ⟨"kept.cc", "cpp/kept.cc", .file, some "second", ""⟩,
    ⟨"sub", "cpp/sub", .directory, none, "sub"⟩]
  content url := .ok url.toUTF8

theorem synchronise_again_repeating :
    let settings := { Settings.default with processors := ⟨"cpp", ⟨"out"⟩, [], none⟩ }
    let run := fun t : FileTree => synchronise Heard.world Upstream.repeating.remote.heard
      Store.disk.heard 3 settings .processors ⟨t, []⟩
    ∃ report first second, run aliasedTree = (.ok (some report), first) ∧
      run first.world = (.ok (some report), second) ∧ second.events = first.events ∧
      second.world.node? keptPlace = some (.file "second".toUTF8) := by
  intro settings run
  obtain ⟨hsucceeds, hwritten⟩ : (run aliasedTree).1.toOption.join.isSome = true ∧
      (run aliasedTree).2.world.node? keptPlace = some (.file "second".toUTF8) := by decide +kernel
  rcases hrun : run aliasedTree with ⟨fault | _ | report, first⟩ <;>
    rw [hrun] at hsucceeds hwritten
  · cases hsucceeds
  · cases hsucceeds
  · obtain ⟨second, hsecond, hevents, -, hsame⟩ :=
      synchronise_again Upstream.repeating 3 settings aliasedTree hrun
    refine ⟨report, first, second, rfl, hsecond, hevents, ?_⟩
    rw [hsame, hwritten]

end Vendoring
