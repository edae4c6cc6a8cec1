import Vendoring.Proofs.FileTree.Additions
import Vendoring.Proofs.Synchronise

/-!
# What a synchronisation leaves on disk

The calls of a synchronisation that succeeds say all there is to know about the tree behind it
(`synchronise_leaves`): **a written path holds what was written last to its file**, under whatever
name; every other file and every link and directory is as it was; and the new nodes of a copy are the
missing directories of the chains that were made, and the files of the paths that were touched.

Both parts are invariants of single calls, the account of the files and the trace of the new nodes,
so a job with a plan keeps them (`Planned.keeps_along`). What remains is to read them with the report.
-/

set_option autoImplicit false

namespace Vendoring

/-! ## Jobs on a tree -/

section

variable {α σ : Type} {tree : σ → FileTree} {remote : Remote σ} {store : Store σ}

theorem Call.onTree (hremote : remote.OnTree tree) (hstore : store.OnTree tree) (c : Call) :
    (c.perform remote store).OnTree tree c.event := by
  cases c with
  | list url => exact hremote.list url
  | fetch url => exact hremote.fetch url
  | makeDirs dir => exact hstore.makeDirs dir
  | touch path => exact hstore.touch path
  | write path data => exact hstore.write path data

/-- **A job with a plan keeps, of its calls and the tree, what one more call keeps.** -/
theorem Planned.keeps_along {own : Fault → Prop} {job : Program α} (hjob : Planned own job)
    (hremote : remote.OnTree tree) (hstore : store.OnTree tree)
    {I : List Event → FileTree → Prop}
    (h : ∀ {events t e t'}, I events t → Event.Leaves t t' e → I (events ++ [e]) t') :
    (job _ remote.heard store.heard).Keeps fun s => I s.events (tree s.world) := by
  refine hjob.keeps fun c s hs => ?_
  rw [Call.perform_heard]
  exact h hs (c.onTree hremote hstore s.world)

end

/-! ## Reading the account -/

namespace Event

theorem wrote?_eq_some {e : Event} {path : LocalPath} (h : e.wrote? = some path)
    (hnone : e.fault? = none) : ∃ data, e = .wrote path data (.ok ()) := by
  cases e with
  | wrote path data answer =>
    cases h
    cases answer with
    | error fault => cases hnone
    | ok => exact ⟨data, rfl⟩
  | listed | fetched | madeDirs | touched => cases h

theorem touched?_eq_some {e : Event} {path : LocalPath} (h : e.touched? = some path)
    (hnone : e.fault? = none) : e = .touched path (.ok ()) := by
  cases e with
  | touched path answer =>
    cases h
    cases answer with
    | error fault => cases hnone
    | ok => rfl
  | listed | fetched | madeDirs | wrote => cases h

end Event

namespace FileTree

variable {t t' : FileTree} {events : List Event}

theorem Account.read_wrote (h : t.Account events t') {path : LocalPath} {data : ByteArray}
    (hwrote : .wrote path data (.ok ()) ∈ events) :
    ∃ loc data', t'.locate path = .ok loc ∧ t'.lastWritten events loc = some data' ∧
      t'.read path = .ok data' := by
  obtain ⟨loc, hfile⟩ := h.done _ hwrote
  have hlocate := hfile.locate
  obtain ⟨data', hlast⟩ := Option.ne_none_iff_exists'.1 (lastWritten_ne_none hwrote hlocate)
  exact ⟨loc, data', hlocate, hlast, read_of_locate hlocate (h.written hlast)⟩

/-- A file to which no written path leads has its old bytes. -/
theorem Account.node?_of_not_written (h : t.Account events t') {loc : Location} {data : ByteArray}
    (hfile : t.node? loc = some (.file data))
    (hnot : ∀ path data, .wrote path data (.ok ()) ∈ events → t'.locate path ≠ .ok loc) :
    t'.node? loc = some (.file data) := by
  obtain ⟨data', hfile'⟩ := h.retains.node?_file hfile
  have hlast : t'.lastWritten events loc = none := by
    refine Option.eq_none_iff_forall_ne_some.2 fun data hlast => ?_
    obtain ⟨path, hwrote, hlocate⟩ := exists_wrote_of_lastWritten hlast
    exact hnot path data hwrote hlocate
  rcases h.others hlast hfile' with hold | ⟨hnone, -⟩
  · rw [hfile', ← hold, hfile]
  · rw [hfile] at hnone
    cases hnone

end FileTree

/-! ## The tree behind a run -/

section

variable {σ : Type} {tree : σ → FileTree} {remote : Remote σ} {store : Store σ}

/-- What is known of the tree behind an undertaking that succeeds. -/
structure Concluded (t : FileTree) (report : Report) (events : List Event) (t' : FileTree) :
    Prop where
  account : t.Account events t'
  traces : t.Traces events t'
  fault?_eq_none : ∀ e ∈ events, e.fault? = none
  wrote : events.filterMap Event.wrote? = report.updated

theorem Undertaking.concluded (hremote : remote.OnTree tree) (hstore : store.OnTree tree)
    {bound : Nat} {u : Undertaking} {world : σ} {report : Report} {final : Heard σ}
    (hrun : u.job bound _ remote.heard store.heard ⟨world, []⟩ = (.ok (some report), final)) :
    Concluded (tree world) report final.events (tree final.world) where
  account := ((u.planned bound).keeps_along hremote hstore fun h he => h.call he).of_eq
    (FileTree.Account.start (tree world)) hrun
  traces := ((u.planned bound).keeps_along hremote hstore fun h he => h.call he).of_eq
    (FileTree.Traces.start (tree world)) hrun
  fault?_eq_none := (u.planned bound).fault?_eq_none hrun
  wrote := Undertaking.wrote?_eq_updated hrun

end

namespace Concluded

variable {t t' : FileTree} {report : Report} {events : List Event}

theorem mem_updated_iff (h : Concluded t report events t') {path : LocalPath} :
    path ∈ report.updated ↔ ∃ data, .wrote path data (.ok ()) ∈ events := by
  rw [← h.wrote, List.mem_filterMap]
  constructor
  · rintro ⟨e, he, hpath⟩
    obtain ⟨data, rfl⟩ := Event.wrote?_eq_some hpath (h.fault?_eq_none e he)
    exact ⟨data, he⟩
  · rintro ⟨data, he⟩
    exact ⟨_, he, rfl⟩

/-- **The new nodes of a copy** are the directories of the chains that were made and the files of the
paths that were touched, provided that every written path was touched as well. -/
theorem node?_ne_none_iff (h : Concluded t report events t')
    (htouched : events.filterMap Event.touched? = report.updated) {loc : Location}
    (hnone : t.node? loc = none) :
    t'.node? loc ≠ none ↔
      (∃ dir, .madeDirs dir (.ok ()) ∈ events ∧ ∃ p ∈ dir :: dir.parents, t'.DirectoryAt p loc) ∨
        ∃ path, .touched path (.ok ()) ∈ events ∧ t'.FileAt path loc := by
  constructor
  · intro hnew
    obtain ⟨e, he, hreaches⟩ := h.traces h.fault?_eq_none loc hnone hnew
    have hfault := h.fault?_eq_none e he
    cases e with
    | listed | fetched => exact absurd hreaches id
    | madeDirs dir answer =>
      cases answer with
      | error fault => cases hfault
      | ok => exact .inl ⟨dir, he, hreaches⟩
    | touched path answer =>
      cases answer with
      | error fault => cases hfault
      | ok => exact .inr ⟨path, he, hreaches⟩
    | wrote path data answer =>
      cases answer with
      | error fault => cases hfault
      | ok =>
        have hmem : path ∈ events.filterMap Event.touched? := by
          rw [htouched]
          exact h.mem_updated_iff.2 ⟨data, he⟩
        obtain ⟨e', he', hpath⟩ := List.mem_filterMap.1 hmem
        rw [Event.touched?_eq_some hpath (h.fault?_eq_none e' he')] at he'
        exact .inr ⟨path, he', hreaches⟩
  · rintro (⟨dir, -, p, -, route, -, hdir⟩ | ⟨path, -, -, data, hfile⟩)
    · rw [(FileTree.locateDirectory_eq_ok_iff.1 hdir).2]
      exact Option.some_ne_none _
    · rw [hfile]
      exact Option.some_ne_none _

end Concluded

/-- **The disk behind a synchronisation is what its calls say.** For every tree, links included,
every remote side, all settings and both modes: if it succeeds, a path of the report reads as the
bytes that the calls wrote last to the file it leads to; a file to which no written path leads has
its old bytes; no node is gone or of another kind. And when a copy was kept, all paths of the chains
that were made lead to directories and all touched paths to files, and those are the only places
where something is new. -/
theorem synchronise_leaves {τ : Type} (remote : Remote τ) (planned : List Store.PlannedFault)
    (bound : Nat) (s : Settings) (mode : Mode) (t : FileTree) (w : τ) {report : Report}
    {final : Heard (FileTree × τ)}
    (hrun : synchronise (fun s => s.world.1) remote.besideTree.heard
      (Store.besideRemote planned).heard bound s mode ⟨(t, w), []⟩ = (.ok (some report), final)) :
    let events := final.events
    let t' := final.world.1
    report.updated = events.filterMap Event.wrote? ∧
    (∀ path ∈ report.updated, ∃ loc data, t'.locate path = .ok loc ∧
      t'.lastWritten events loc = some data ∧ t'.read path = .ok data) ∧
    (∀ loc data, t.node? loc = some (.file data) →
      (∀ path ∈ report.updated, t'.locate path ≠ .ok loc) → t'.node? loc = some (.file data)) ∧
    t.Retains t' ∧
    (mode = .processors →
      (∀ dir, .madeDirs dir (.ok ()) ∈ events → ∀ p ∈ dir :: dir.parents, p.text ≠ "" →
        ∃ loc, t'.DirectoryAt p loc) ∧
      (∀ path, .touched path (.ok ()) ∈ events → ∃ loc, t'.FileAt path loc) ∧
      ∀ loc, t.node? loc = none →
        (t'.node? loc ≠ none ↔
          (∃ dir, .madeDirs dir (.ok ()) ∈ events ∧
            ∃ p ∈ dir :: dir.parents, t'.DirectoryAt p loc) ∨
          ∃ path, .touched path (.ok ()) ∈ events ∧ t'.FileAt path loc)) := by
  intro events t'
  rw [synchronise_run] at hrun
  cases hundertaking : s.undertaking t mode with
  | error fault =>
    rw [hundertaking] at hrun
    cases hrun
  | ok u =>
    rw [hundertaking] at hrun
    have h : Concluded t report events t' := Undertaking.concluded (Remote.onTree_besideTree remote)
      (Store.onTree_besideRemote planned) hrun
    refine ⟨h.wrote.symm, ?_, ?_, h.account.retains, ?_⟩
    · intro path hpath
      obtain ⟨data, hwrote⟩ := h.mem_updated_iff.1 hpath
      exact h.account.read_wrote hwrote
    · intro loc data hfile hnot
      apply h.account.node?_of_not_written hfile
      intro path data hwrote
      exact hnot path (h.mem_updated_iff.2 ⟨data, hwrote⟩)
    · rintro rfl
      refine ⟨?_, fun path htouched => h.account.done _ htouched, ?_⟩
      · intro dir hmade p hp hne
        exact FileTree.HasDir.parents (h.account.done _ hmade) hp hne
      · -- in a copy, what is written is what was touched
        obtain ⟨url, options, rfl⟩ : ∃ url options, u = .replicate url options := by
          rw [Settings.undertaking] at hundertaking
          cases hurl : s.listingUrl s.processors.remotePath with
          | error fault => rw [hurl] at hundertaking; cases hundertaking
          | ok url => rw [hurl] at hundertaking; cases hundertaking; exact ⟨_, _, rfl⟩
        exact fun loc => h.node?_ne_none_iff (balanced_of_replicate hrun).touched

/-- A remote side that offers one file by the name of a link and by its own, and another one in a
directory that is not there. -/
def widening : Remote Unit where
  list _ := pure [⟨"alias.cc", "cpp/alias.cc", .file, some "first", ""⟩,
    ⟨"kept.cc", "cpp/kept.cc", .file, some "second", ""⟩,
    ⟨"New.cc", "cpp/inner/New.cc", .file, some "third", ""⟩]
  fetch url := pure url.toUTF8

/-- Where that one goes. -/
def widenedPlace : Location := .text "new.cc" :: .text "inner" :: outPlace

theorem synchronise_leaves_widening :
    let settings := { Settings.default with processors := ⟨"cpp", ⟨"out"⟩, [], none⟩ }
    ∃ report final, synchronise (fun s => s.world.1) widening.besideTree.heard
        (Store.besideRemote []).heard 2 settings .processors ⟨(aliasedTree, ()), []⟩ =
          (.ok (some report), final) ∧
      report.updated = [⟨"out/alias.cc"⟩, ⟨"out/kept.cc"⟩, ⟨"out/inner/new.cc"⟩] ∧
      final.world.1.read ⟨"out/alias.cc"⟩ = .ok "second".toUTF8 ∧
      aliasedTree.node? widenedPlace = none ∧
      ((∃ dir, .madeDirs dir (.ok ()) ∈ final.events ∧
          ∃ p ∈ dir :: dir.parents, final.world.1.DirectoryAt p widenedPlace) ∨
        ∃ path, .touched path (.ok ()) ∈ final.events ∧ final.world.1.FileAt path widenedPlace) := by
  intro settings
  let run := synchronise (fun s => s.world.1) widening.besideTree.heard
    (Store.besideRemote []).heard 2 settings .processors ⟨(aliasedTree, ()), []⟩
  obtain ⟨hresult, hread, hnew⟩ : run.1.toOption.join.map Report.updated =
        some [⟨"out/alias.cc"⟩, ⟨"out/kept.cc"⟩, ⟨"out/inner/new.cc"⟩] ∧
      (run.2.world.1.read ⟨"out/alias.cc"⟩).toOption = some "second".toUTF8 ∧
      run.2.world.1.node? widenedPlace ≠ none := by decide +kernel
  have hnone : aliasedTree.node? widenedPlace = none := by decide +kernel
  rcases hrun : run with ⟨fault | _ | report, final⟩ <;> rw [hrun] at hresult hread hnew
  · cases hresult
  · cases hresult
  · obtain ⟨-, -, -, -, hcopy⟩ :=
      synchronise_leaves widening [] 2 settings .processors aliasedTree () hrun
    obtain ⟨-, -, hadded⟩ := hcopy rfl
    have hreaches := (hadded widenedPlace hnone).1 hnew
    refine ⟨report, final, hrun, Option.some.inj hresult, ?_, hnone, hreaches⟩
    cases hbytes : final.world.1.read ⟨"out/alias.cc"⟩ with
    | error fault => rw [hbytes] at hread; cases hread
    | ok data => rw [hbytes] at hread; rw [Option.some.inj hread]

end Vendoring
