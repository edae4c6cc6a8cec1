import Vendoring.Proofs.FileTree.Place
import Vendoring.Proofs.FileTree.Written
import Vendoring.Proofs.Refresh.Writes

/-!
# The names of the targets as an allow-list

A refresh is meant to give new bytes to files that are there, and to do nothing else. On disk it
comes close (`refreshTree_effect`): whatever the tree, the remote side and the outcome, **every node
stays and keeps its kind, and only files change that a target holds under the name of a remote file,
or to which a link leads that a target holds so**.

The links are the gap, because an inventory counts a link as it stands and a write follows it. A
link to nowhere makes a refresh add a file, and a link to another file of a target makes it
overwrite that one. Without such links the law holds as it is meant, and what a refresh adds is what
they lead to, neither more nor less (`synchronise_allowList`).
-/

set_option autoImplicit false

namespace Vendoring

namespace FileTree

variable (t : FileTree) (targets : List LocalPath) (names : List String)

/-- A node directly in a target directory, under the name of a remote file. -/
def Listed (dir : Location) (name : FileName) : Prop :=
  (∃ p ∈ targets, t.DirectoryAt p dir) ∧ ∃ s ∈ names, name.Spells s

/-- A location to which a link leads that stands in a target directory under the name of a remote
file. -/
def LinkedTo (loc : Location) : Prop :=
  ∃ dir name target, t.Listed targets names dir name ∧
    t.node? (name :: dir) = some (.link target) ∧ t.OpensIn dir name loc

/-- A regular file directly in a target directory, under a name that no remote file has. -/
def Protected (loc : Location) : Prop :=
  ∃ dir name data, loc = name :: dir ∧ (∃ p ∈ targets, t.DirectoryAt p dir) ∧
    (∀ s ∈ names, ¬ name.Spells s) ∧ t.node? loc = some (.file data)

/-- There is a node at the same locations, and it is of the same kind. -/
def SameShape (t' : FileTree) : Prop :=
  ∀ loc, (t'.node? loc).map Node.shape = (t.node? loc).map Node.shape

end FileTree

/-! ## The places that a refresh writes to -/

/-- The path is the place of a name that a target holds and the listing has. -/
def IsPlace (t : FileTree) (targets : List LocalPath) (names : List String) (p : LocalPath) :
    Prop :=
  ∃ target dir s, dir ∈ targets ∧ Target.collect t dir = .ok target ∧ s ∈ names ∧
    target.files.contains s = true ∧ p = target.place s

theorem Target.collect_eq_ok_iff {t : FileTree} {p : LocalPath} {target : Target} :
    Target.collect t p = .ok target ↔
      ∃ dir, t.DirectoryAt p dir ∧ target = ⟨p, .ofDirectory t dir⟩ := by
  rw [collect]
  cases hfiles : Inventory.collect t p with
  | error fault =>
    refine ⟨nofun, ?_⟩
    rintro ⟨dir, hdir, -⟩
    rw [Inventory.collect_eq_ok_iff.2 ⟨dir, hdir, rfl⟩] at hfiles
    cases hfiles
  | ok files =>
    obtain ⟨dir, hdir, rfl⟩ := Inventory.collect_eq_ok_iff.1 hfiles
    constructor
    · intro h
      cases h
      exact ⟨dir, hdir, rfl⟩
    · rintro ⟨dir', hdir', rfl⟩
      rw [hdir.unique hdir']

/-- **A place is where the name stands, or where the link of that name leads.** -/
theorem IsPlace.cases {t : FileTree} {targets : List LocalPath} {names : List String}
    {p : LocalPath} (h : IsPlace t targets names p) {loc : Location} (hopens : t.Opens p loc) :
    (∃ dir name node, loc = name :: dir ∧ t.Listed targets names dir name ∧
      t.node? loc = some node) ∨ t.LinkedTo targets names loc := by
  obtain ⟨target, path, s, hpath, hcollect, hs, hcontains, rfl⟩ := h
  obtain ⟨dir, hdir, rfl⟩ := Target.collect_eq_ok_iff.1 hcollect
  obtain ⟨hproper, node, hnode, -⟩ := Inventory.contains_iff.1 hcontains
  have hin := FileTree.opens_join hdir hproper hopens
  have hlisted : t.Listed targets names dir (.text s hproper) :=
    ⟨⟨path, hpath, hdir⟩, s, hs, hproper, rfl⟩
  by_cases hlink : ∃ goal, node = .link goal
  · obtain ⟨goal, rfl⟩ := hlink
    exact .inr ⟨dir, _, goal, hlisted, hnode, hin⟩
  · have hloc := hin.eq_cons hnode fun goal hto => hlink ⟨goal, hto⟩
    exact .inl ⟨dir, _, node, hloc, hlisted, by rw [hloc, hnode]⟩

/-- A link in a target, under the name of a remote file, stands at a place. -/
theorem FileTree.Listed.exists_isPlace {t : FileTree} {targets : List LocalPath}
    {names : List String} {dir : Location} {name : FileName} (h : t.Listed targets names dir name)
    {goal : LocalPath} (hlink : t.node? (name :: dir) = some (.link goal)) :
    ∃ p, IsPlace t targets names p ∧ ∀ {loc}, t.Opens p loc → t.OpensIn dir name loc := by
  obtain ⟨⟨path, hpath, hdir⟩, s, hs, hproper, rfl⟩ := h
  refine ⟨path.join ⟨s⟩, ?_, FileTree.opens_join hdir hproper⟩
  exact ⟨_, path, s, hpath, Target.collect_eq_ok_iff.2 ⟨dir, hdir, rfl⟩, hs,
    Inventory.contains_iff.2 ⟨hproper, _, hlink, nofun⟩, rfl⟩

/-! ## What a refresh does to the tree -/

section

variable {τ : Type} (remote : Remote τ) (planned : List Store.PlannedFault) (s : Settings)
  (t : FileTree) (w : τ)

/-- The names of the files in the listing that the settings ask for. -/
def Settings.remoteNames (s : Settings) (remote : Remote τ) (w : τ) : List String :=
  match s.listingUrl s.decompiler.remotePath with
  | .ok url => fileNames (remote.entriesAt url w)
  | .error _ => []

/-- Refreshes the files of the targets in a tree, on a disk where some operations fail. -/
def refreshTree : Except Fault Report × FileTree × τ :=
  refreshBySettings Prod.fst remote.besideTree (Store.besideRemote planned) s (t, w)

/-- **A refresh only writes to places.** -/
theorem refreshTree_writtenAt :
    t.WrittenAt (IsPlace t s.decompiler.targets (s.remoteNames remote w))
      (refreshTree remote planned s t w).2.1 := by
  rw [refreshTree]
  rcases refreshBySettings_cases Prod.fst remote.besideTree (Store.besideRemote planned) s (t, w)
    with ⟨fault, hrun⟩ | ⟨targets, url, hcollect, hurl, hrun⟩
  · rw [hrun]
    exact .refl t _
  · rw [hrun]
    have hnames : s.remoteNames remote w = fileNames (remote.entriesAt url w) := by
      rw [Settings.remoteNames, hurl]
    refine refresh_keeps (I := fun world : FileTree × τ => t.WrittenAt _ world.1)
      Remote.list_keeps_tree Remote.fetch_keeps_tree ?_ (.refl t _)
    intro name hname target htarget content
    obtain ⟨hmem, hcontains⟩ := List.mem_filter.1 htarget
    obtain ⟨path, hpath, htarget⟩ := (mem_of_mapM_ok hcollect target).1 hmem
    refine Store.write_keeps_tree fun hwritten hwrite => hwritten.write ?_ hwrite
    exact ⟨target, path, name, hpath, htarget, hnames ▸ hname, hcontains, rfl⟩

/-- **A refresh that succeeds has filled all places.** -/
theorem refreshTree_fills {report : Report}
    (hok : (refreshTree remote planned s t w).1 = .ok report) {p : LocalPath}
    (hp : IsPlace t s.decompiler.targets (s.remoteNames remote w) p) :
    t.FilledAt p (refreshTree remote planned s t w).2.1 := by
  rw [refreshTree] at hok ⊢
  rcases refreshBySettings_cases Prod.fst remote.besideTree (Store.besideRemote planned) s (t, w)
    with ⟨fault, hrun⟩ | ⟨targets, url, hcollect, hurl, hrun⟩
  · rw [hrun] at hok
    cases hok
  · rw [hrun] at hok ⊢
    have hnames : s.remoteNames remote w = fileNames (remote.entriesAt url w) := by
      rw [Settings.remoteNames, hurl]
    obtain ⟨target, path, name, hpath, htarget, hname, hcontains, rfl⟩ := hp
    have hmem : target ∈ holders targets name :=
      List.mem_filter.2 ⟨(mem_of_mapM_ok hcollect target).2 ⟨path, hpath, htarget⟩, hcontains⟩
    -- what is filled stays filled, and to fill a place it takes no more than a tree that grew
    refine refresh_establishes (I := fun world : FileTree × τ => t.Grows world.1)
      (J := fun world : FileTree × τ => t.FilledAt (target.place name) world.1)
      Remote.list_keeps_tree Remote.fetch_keeps_tree Remote.fetch_keeps_tree ?_ ?_
      (hnames ▸ hname) hmem ?_ (.refl t) (Prod.ext hok rfl)
    · exact fun _ _ _ _ _ => Store.write_keeps_tree fun hgrows hwrite =>
        hgrows.trans (FileTree.grows_of_write hwrite)
    · exact fun _ _ _ _ _ => Store.write_keeps_tree fun hfilled hwrite =>
        hfilled.grows (FileTree.grows_of_write hwrite)
    · exact fun _ => Store.write_establishes_tree FileTree.filledAt_of_write

/-- **What a refresh can do to a tree**, whatever comes of it: every node stays and keeps its kind,
what comes anew is files that links lead to, and what changes is files that a target holds under
the name of a remote file or that the link of such a name leads to. -/
theorem refreshTree_effect :
    t.Grows (refreshTree remote planned s t w).2.1 ∧
      ∀ loc, (refreshTree remote planned s t w).2.1.node? loc ≠ t.node? loc →
        (∃ dir name node, loc = name :: dir ∧
          t.Listed s.decompiler.targets (s.remoteNames remote w) dir name ∧
          t.node? loc = some node) ∨
        t.LinkedTo s.decompiler.targets (s.remoteNames remote w) loc := by
  have hwritten := refreshTree_writtenAt remote planned s t w
  refine ⟨hwritten.grows, fun loc hloc => ?_⟩
  obtain ⟨p, hp, hopens⟩ := hwritten.changed hloc
  exact hp.cases hopens

end

/-! ## The law -/

theorem FileTree.Grows.shape_eq {t t' : FileTree} (h : t.Grows t') {loc : Location}
    (hnode : t.node? loc ≠ none) :
    (t'.node? loc).map Node.shape = (t.node? loc).map Node.shape := by
  obtain ⟨node, hnode⟩ := Option.ne_none_iff_exists'.1 hnode
  obtain ⟨node', hnode', hshape⟩ := h.keeps hnode
  rw [hnode, hnode', Option.map_some, Option.map_some, hshape]

section

variable {τ : Type} {remote : Remote τ} {planned : List Store.PlannedFault} {s : Settings}
  {t : FileTree} {w : τ}

/-- Where nothing was, something can only come by a link. -/
theorem linkedTo_of_added {loc : Location} (hnone : t.node? loc = none)
    (hadded : (refreshTree remote planned s t w).2.1.node? loc ≠ none) :
    t.LinkedTo s.decompiler.targets (s.remoteNames remote w) loc := by
  rw [← hnone] at hadded
  rcases (refreshTree_effect remote planned s t w).2 loc hadded with
    ⟨_, _, node, -, -, hsome⟩ | hlinked
  · rw [hnone] at hsome
    cases hsome
  · exact hlinked

/-- A refresh that succeeds has made a file wherever a link led to nowhere. -/
theorem added_of_linkedTo {report : Report}
    (hok : (refreshTree remote planned s t w).1 = .ok report) {loc : Location}
    (hlinked : t.LinkedTo s.decompiler.targets (s.remoteNames remote w) loc) :
    (refreshTree remote planned s t w).2.1.node? loc ≠ none := by
  obtain ⟨dir, name, goal, hlisted, hlink, hin⟩ := hlinked
  obtain ⟨p, hplace, hopensIn⟩ := hlisted.exists_isPlace hlink
  obtain ⟨loc', data, hopens, hfile⟩ := refreshTree_fills remote planned s t w hok hplace
  obtain rfl := hin.unique (hopensIn hopens)
  rw [hfile]
  exact Option.some_ne_none _

/-- Nothing is added where no link leads to nowhere. -/
theorem sameShape_of_links
    (h : ∀ loc, t.LinkedTo s.decompiler.targets (s.remoteNames remote w) loc →
      t.node? loc ≠ none) :
    t.SameShape (refreshTree remote planned s t w).2.1 := by
  intro loc
  by_cases hnone : t.node? loc = none
  · have hnone' : (refreshTree remote planned s t w).2.1.node? loc = none :=
      Classical.byContradiction fun hadded => h loc (linkedTo_of_added hnone hadded) hnone
    rw [hnone, hnone']
  · exact (refreshTree_effect remote planned s t w).1.shape_eq hnone

/-- A file of a target that no remote file is named like keeps its bytes, where no link of a target
leads to it. -/
theorem node?_of_protected {loc : Location}
    (hprotected : t.Protected s.decompiler.targets (s.remoteNames remote w) loc)
    (h : ¬ t.LinkedTo s.decompiler.targets (s.remoteNames remote w) loc) :
    (refreshTree remote planned s t w).2.1.node? loc = t.node? loc := by
  refine Classical.byContradiction fun hne => ?_
  obtain ⟨dir, name, data, rfl, -, hunlisted, -⟩ := hprotected
  rcases (refreshTree_effect remote planned s t w).2 _ hne with
    ⟨dir', name', _, heq, ⟨-, s', hs', hspells⟩, -⟩ | hlinked
  · cases heq
    exact hunlisted s' hs' hspells
  · exact h hlinked

end

/-- A synchronisation of the decompiler is a refresh of its targets. -/
theorem synchronise_decompiler {τ : Type} (remote : Remote τ) (planned : List Store.PlannedFault)
    (bound : Nat) (s : Settings) (t : FileTree) (w : τ) :
    synchronise Prod.fst remote.besideTree (Store.besideRemote planned) bound s .decompiler (t, w) =
      ((refreshTree remote planned s t w).1.map some, (refreshTree remote planned s t w).2) := by
  show (some <$> refreshBySettings Prod.fst remote.besideTree (Store.besideRemote planned) s) (t, w)
    = _
  rw [refreshTree]
  rcases hrun : refreshBySettings Prod.fst remote.besideTree (Store.besideRemote planned) s (t, w)
    with ⟨fault | report, world⟩
  · exact Job.map_error hrun
  · exact Job.map_ok hrun

/-- **The targets are an allow-list, links apart.** Whatever the tree, the settings, the remote side
and the outcome, a synchronisation of the decompiler removes no node and changes the kind of none.
It adds none either, unless a link of a target, under the name of a remote file, leads to nowhere;
if it succeeds, what it adds is exactly what such links lead to. And a file of a target that no
remote file is named like keeps its bytes, unless such a link leads to it. -/
theorem synchronise_allowList {τ : Type} (remote : Remote τ) (planned : List Store.PlannedFault)
    (bound : Nat) (s : Settings) (t : FileTree) (w : τ) :
    let run := synchronise Prod.fst remote.besideTree (Store.besideRemote planned) bound s
      .decompiler (t, w)
    let targets := s.decompiler.targets
    let names := s.remoteNames remote w
    t.Grows run.2.1 ∧
      ((∀ loc, t.LinkedTo targets names loc → t.node? loc ≠ none) → t.SameShape run.2.1) ∧
      (∀ report, run.1 = .ok report → ∀ loc, t.node? loc = none →
        (run.2.1.node? loc ≠ none ↔ t.LinkedTo targets names loc)) ∧
      ∀ loc, t.Protected targets names loc → ¬ t.LinkedTo targets names loc →
        run.2.1.node? loc = t.node? loc := by
  intro run targets names
  have hrun : run = ((refreshTree remote planned s t w).1.map some,
      (refreshTree remote planned s t w).2) := synchronise_decompiler remote planned bound s t w
  rw [hrun]
  refine ⟨(refreshTree_effect remote planned s t w).1, sameShape_of_links, ?_,
    fun loc => node?_of_protected⟩
  intro report hok loc hnone
  refine ⟨linkedTo_of_added hnone, fun hlinked => ?_⟩
  cases hresult : (refreshTree remote planned s t w).1 with
  | error fault =>
    rw [hresult] at hok
    cases hok
  | ok report => exact added_of_linkedTo hresult hlinked

/-! Both exceptions are real: of the two links in this tree one leads to nowhere, and one to a file
that no remote file is named like. -/

/-- A directory `top/src` with a file `c.cc` and two links, `a.cc` to `new.cc`, which is not there,
and `b.cc` to `c.cc`. -/
def linkedTree : FileTree where
  nodes := [([.text "top"], .directory), ([.text "src", .text "top"], .directory),
    ([.text "a.cc", .text "src", .text "top"], .link ⟨"new.cc"⟩),
    ([.text "b.cc", .text "src", .text "top"], .link ⟨"c.cc"⟩),
    ([.text "c.cc", .text "src", .text "top"], .file "old".toUTF8)]
  cwd := [.text "top"]
  distinct := by decide +kernel

/-- A remote side that offers two files, `a.cc` and `b.cc`, with the same content. -/
def twoFiles : Remote Unit where
  list _ := pure [⟨"a.cc", "cpp/a.cc", .file, some "content", "listing"⟩,
    ⟨"b.cc", "cpp/b.cc", .file, some "content", "listing"⟩]
  fetch _ := pure "new".toUTF8

theorem synchronise_follows_links :
    let final := (synchronise Prod.fst twoFiles.besideTree (Store.besideRemote []) 0
      { Settings.default with decompiler := ⟨"cpp", [⟨"src"⟩]⟩ } .decompiler (linkedTree, ())).2.1
    ¬ linkedTree.SameShape final ∧
      linkedTree.node? [.text "c.cc", .text "src", .text "top"] = some (.file "old".toUTF8) ∧
      final.node? [.text "c.cc", .text "src", .text "top"] = some (.file "new".toUTF8) := by
  refine ⟨fun h => ?_, by decide +kernel, by decide +kernel⟩
  have hnew := h [.text "new.cc", .text "src", .text "top"]
  revert hnew
  decide +kernel

end Vendoring
