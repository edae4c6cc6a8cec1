import Vendoring.Proofs.Job
import Vendoring.Synchronise

/-!
# The writes of a refresh

A refresh writes to the places of the names that a target holds and the listing has, and to no
others. Two statements say so for any world: `refresh_keeps`, for what the writes to these places
keep, whatever becomes of the refresh, and `refresh_establishes`, for what one of them establishes,
since **a refresh that succeeds has made all of them**.

Before the refresh the targets are collected, which changes nothing (`look_mapM`).
-/

set_option autoImplicit false

namespace Vendoring

/-- The names of the files in a listing. -/
def fileNames (entries : List Entry) : List String :=
  (entries.filter Entry.isFile).map Entry.name

theorem mem_fileNames {entries : List Entry} {e : Entry} {url : String} (he : e ∈ entries)
    (hurl : e.downloadUrl? = some url) : e.name ∈ fileNames entries :=
  List.mem_map_of_mem (List.mem_filter.2 ⟨he, by simp [Entry.isFile, hurl]⟩)

/-! ## One entry -/

section

variable {σ : Type} {remote : Remote σ} {store : Store σ} {I J : σ → Prop}

theorem writeAll_keeps {name : String} {content : ByteArray} {targets : List Target}
    (h : ∀ target ∈ targets, (store.write (target.place name) content).Keeps I) :
    (writeAll store name content targets).Keeps I := by
  induction targets with
  | nil => exact Job.keeps_pure _
  | cons target targets ih =>
    exact (h target (.head _)).bind fun _ => ih fun t ht => h t (.tail _ ht)

theorem writeAll_establishes {name : String} {content : ByteArray} {targets : List Target}
    {target : Target} (hmem : target ∈ targets)
    (hI : ∀ target ∈ targets, (store.write (target.place name) content).Keeps I)
    (hJ : ∀ target ∈ targets, (store.write (target.place name) content).Keeps J)
    (h : (store.write (target.place name) content).Establishes I J) :
    (writeAll store name content targets).Establishes I J := by
  induction targets with
  | nil => cases hmem
  | cons first targets ih =>
    have hI' := fun t (ht : t ∈ targets) => hI t (.tail _ ht)
    have hJ' := fun t (ht : t ∈ targets) => hJ t (.tail _ ht)
    rcases List.mem_cons.1 hmem with rfl | hmem
    · -- this write establishes it, and the ones after it keep it
      exact h.bind_keeps fun _ => writeAll_keeps hJ'
    · exact (hI first (.head _)).bind_establishes fun _ => ih hmem hI' hJ'

/-- The targets that hold a name. -/
def holders (targets : List Target) (name : String) : List Target :=
  targets.filter (·.files.contains name)

variable (remote store) in
/-- An entry with content is fetched and written to its holders, if there are any. -/
theorem refreshEntry_of_url (targets : List Target) (report : Report) {e : Entry} {url : String}
    (hurl : e.downloadUrl? = some url) :
    refreshEntry remote store targets report e =
      if holders targets e.name = [] then pure report.countSkipped
      else
        remote.fetch url >>= fun content =>
          writeAll store e.name content (holders targets e.name) >>= fun _ =>
            pure (report.addUpdated ((holders targets e.name).map (·.place e.name))) := by
  rw [refreshEntry, hurl]
  unfold holders
  dsimp only
  split
  · next h => rw [if_pos h]
  · next h => rw [if_neg h]

theorem refreshEntry_keeps (hfetch : ∀ url, (remote.fetch url).Keeps I) {targets : List Target}
    {e : Entry} (hwrite : e.downloadUrl?.isSome → ∀ target ∈ holders targets e.name, ∀ content,
      (store.write (target.place e.name) content).Keeps I) (report : Report) :
    (refreshEntry remote store targets report e).Keeps I := by
  cases hurl : e.downloadUrl? with
  | none =>
    rw [refreshEntry, hurl]
    exact Job.keeps_pure _
  | some url =>
    rw [refreshEntry_of_url remote store targets report hurl]
    split
    · exact Job.keeps_pure _
    · exact (hfetch url).bind fun content => (writeAll_keeps fun target htarget =>
        hwrite (by simp [hurl]) target htarget content).bind fun _ => Job.keeps_pure _

theorem refreshEntry_establishes (hfetch : ∀ url, (remote.fetch url).Keeps I)
    {targets : List Target} {e : Entry} {url : String} (hurl : e.downloadUrl? = some url)
    (hI : ∀ target ∈ holders targets e.name, ∀ content,
      (store.write (target.place e.name) content).Keeps I)
    (hJ : ∀ target ∈ holders targets e.name, ∀ content,
      (store.write (target.place e.name) content).Keeps J)
    {target : Target} (htarget : target ∈ holders targets e.name)
    (h : ∀ content, (store.write (target.place e.name) content).Establishes I J)
    (report : Report) : (refreshEntry remote store targets report e).Establishes I J := by
  rw [refreshEntry_of_url remote store targets report hurl, if_neg (List.ne_nil_of_mem htarget)]
  refine (hfetch url).bind_establishes fun content => ?_
  refine Job.Establishes.bind_keeps ?_ fun _ => Job.keeps_pure _
  exact writeAll_establishes htarget (fun t ht => hI t ht content) (fun t ht => hJ t ht content)
    (h content)

/-! ## The whole refresh -/

/-- The entries that a listing has when it is asked for in this world; none if it cannot be had. -/
def Remote.entriesAt (remote : Remote σ) (url : String) (s : σ) : List Entry :=
  match (remote.list url s).1 with
  | .ok entries => entries
  | .error _ => []

/-- **A refresh keeps what its writes keep**: those of the names that a target holds and the
listing has. -/
theorem refresh_keeps (hlist : ∀ url, (remote.list url).Keeps I)
    (hfetch : ∀ url, (remote.fetch url).Keeps I) {targets : List Target} {url : String} {s : σ}
    (hwrite : ∀ name ∈ fileNames (remote.entriesAt url s), ∀ target ∈ holders targets name,
      ∀ content, (store.write (target.place name) content).Keeps I) (hs : I s) :
    I (refresh remote store url targets s).2 := by
  rcases hlisting : remote.list url s with ⟨fault | entries, s₁⟩
  · rw [refresh, Job.bind_error hlisting]
    exact (hlist url).of_eq hs hlisting
  · -- the listing is asked for once, so its entries are those that it has now
    have hentries : remote.entriesAt url s = entries := by rw [Remote.entriesAt, hlisting]
    rw [hentries] at hwrite
    rw [refresh, Job.bind_ok hlisting]
    refine Job.keeps_foldlM (fun report e he => refreshEntry_keeps hfetch ?_ report) _ s₁
      ((hlist url).of_eq hs hlisting)
    intro hurl
    obtain ⟨content, hurl⟩ := Option.isSome_iff_exists.1 hurl
    exact hwrite e.name (mem_fileNames he hurl)

/-- **A refresh that succeeds has made all its writes**, so it establishes what any one of them
establishes and the others keep. -/
theorem refresh_establishes (hlist : ∀ url, (remote.list url).Keeps I)
    (hfetchI : ∀ url, (remote.fetch url).Keeps I) (hfetchJ : ∀ url, (remote.fetch url).Keeps J)
    {targets : List Target} {url : String} {s : σ}
    (hI : ∀ name ∈ fileNames (remote.entriesAt url s), ∀ target ∈ holders targets name,
      ∀ content, (store.write (target.place name) content).Keeps I)
    (hJ : ∀ name ∈ fileNames (remote.entriesAt url s), ∀ target ∈ holders targets name,
      ∀ content, (store.write (target.place name) content).Keeps J)
    {name : String} (hname : name ∈ fileNames (remote.entriesAt url s)) {target : Target}
    (htarget : target ∈ holders targets name)
    (h : ∀ content, (store.write (target.place name) content).Establishes I J) (hs : I s)
    {report : Report} {s' : σ} (hrun : refresh remote store url targets s = (.ok report, s')) :
    J s' := by
  rcases hlisting : remote.list url s with ⟨fault | entries, s₁⟩
  · rw [refresh, Job.bind_error hlisting] at hrun
    cases hrun
  · have hentries : remote.entriesAt url s = entries := by rw [Remote.entriesAt, hlisting]
    rw [hentries] at hI hJ hname
    rw [refresh, Job.bind_ok hlisting] at hrun
    obtain ⟨e, he, rfl⟩ := List.mem_map.1 hname
    obtain ⟨he, hfile⟩ := List.mem_filter.1 he
    obtain ⟨content, hurl⟩ := Option.isSome_iff_exists.1 hfile
    have hkeeps : ∀ {K : σ → Prop} (hfetch : ∀ url, (remote.fetch url).Keeps K)
        (hK : ∀ name ∈ fileNames entries, ∀ target ∈ holders targets name, ∀ content,
          (store.write (target.place name) content).Keeps K) (report : Report),
        ∀ e ∈ entries, (refreshEntry remote store targets report e).Keeps K := by
      intro K hfetch hK report e he
      refine refreshEntry_keeps hfetch (fun hurl => ?_) report
      obtain ⟨content, hurl⟩ := Option.isSome_iff_exists.1 hurl
      exact hK e.name (mem_fileNames he hurl)
    have hone := refreshEntry_establishes hfetchI hurl (hI _ hname) (hJ _ hname) htarget h
    exact Job.establishes_foldlM he (hkeeps hfetchI hI) (hkeeps hfetchJ hJ) hone _
      ((hlist url).of_eq hs hlisting) hrun

end

/-! ## Collecting the targets -/

theorem look_mapM {σ α β : Type} (tree : σ → FileTree) (f : β → FileTree → Except Fault α)
    (bs : List β) (s : σ) :
    (bs.mapM fun b => Job.look tree (f b)) s = (bs.mapM fun b => f b (tree s), s) := by
  induction bs with
  | nil => rfl
  | cons b bs ih =>
    rw [List.mapM_cons, List.mapM_cons]
    cases hb : f b (tree s) with
    | error fault =>
      have hlook : Job.look tree (f b) s = (.error fault, s) := by rw [← hb]; rfl
      rw [Job.bind_error hlook]
      rfl
    | ok a =>
      have hlook : Job.look tree (f b) s = (.ok a, s) := by rw [← hb]; rfl
      rw [Job.bind_ok hlook]
      cases hbs : (bs.mapM fun b => f b (tree s) : Except Fault (List α)) with
      | error fault =>
        rw [hbs] at ih
        rw [Job.bind_error ih]
        rfl
      | ok as =>
        rw [hbs] at ih
        rw [Job.bind_ok ih]
        rfl

/-- What is collected are the directories that can be collected, in their order. -/
theorem mem_of_mapM_ok {α β : Type} {f : β → Except Fault α} {bs : List β} {as : List α}
    (h : bs.mapM f = .ok as) (a : α) : a ∈ as ↔ ∃ b ∈ bs, f b = .ok a := by
  induction bs generalizing as with
  | nil =>
    cases h
    simp
  | cons b bs ih =>
    rw [List.mapM_cons] at h
    cases hb : f b with
    | error fault =>
      rw [hb] at h
      cases h
    | ok first =>
      rw [hb] at h
      cases hbs : bs.mapM f with
      | error fault =>
        rw [hbs] at h
        cases h
      | ok rest =>
        rw [hbs] at h
        cases h
        simp only [List.mem_cons, ih hbs, exists_eq_or_imp, hb, Except.ok.injEq]
        rw [eq_comm]

theorem ofExcept_bind_run {σ α β : Type} (result : Except Fault α) (f : α → Job σ β) (world : σ) :
    (Job.ofExcept result >>= f) world =
      match result with
      | .ok a => f a world
      | .error fault => (.error fault, world) := by
  cases result with
  | ok a => exact Job.bind_ok rfl
  | error fault => exact Job.bind_error rfl

/-- The targets of a refresh, and the listing that it asks for. -/
def Settings.refreshment (s : Settings) (t : FileTree) : Except Fault (List Target × String) := do
  let targets ← s.decompiler.targets.mapM (Target.collect t)
  let url ← s.listingUrl s.decompiler.remotePath
  pure (targets, url)

section

variable {σ : Type} (tree : σ → FileTree) (remote : Remote σ) (store : Store σ) (s : Settings)
  (world : σ)

/-- A refresh by settings is the refresh of what is known beforehand, or it fails before it asks for
anything. -/
theorem refreshBySettings_run :
    refreshBySettings tree remote store s world =
      match s.refreshment (tree world) with
      | .ok (targets, url) => refresh remote store url targets world
      | .error fault => (.error fault, world) := by
  have hlook := look_mapM tree (fun dir t => Target.collect t dir) s.decompiler.targets world
  dsimp only [Settings.refreshment]
  cases hcollect : s.decompiler.targets.mapM (Target.collect (tree world)) with
  | error fault =>
    have hfails := hlook.trans (congrArg (·, world) hcollect)
    exact Job.bind_error hfails
  | ok targets =>
    have hcollected := hlook.trans (congrArg (·, world) hcollect)
    rw [refreshBySettings, Job.bind_ok hcollected, ofExcept_bind_run]
    cases s.listingUrl s.decompiler.remotePath <;> rfl

theorem refreshBySettings_cases :
    (∃ fault, refreshBySettings tree remote store s world = (.error fault, world)) ∨
      ∃ targets url,
        s.decompiler.targets.mapM (Target.collect (tree world)) = .ok targets ∧
        s.listingUrl s.decompiler.remotePath = .ok url ∧
        refreshBySettings tree remote store s world = refresh remote store url targets world := by
  rw [refreshBySettings_run, Settings.refreshment]
  cases s.decompiler.targets.mapM (Target.collect (tree world)) with
  | error fault => exact .inl ⟨fault, rfl⟩
  | ok targets =>
    cases s.listingUrl s.decompiler.remotePath with
    | error fault => exact .inl ⟨fault, rfl⟩
    | ok url => exact .inr ⟨targets, url, rfl, rfl, rfl⟩

end

end Vendoring
