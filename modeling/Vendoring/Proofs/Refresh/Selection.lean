import Vendoring.Disk
import Vendoring.Proofs.Refresh.Writes
import Vendoring.Proofs.Transcript

/-!
# What a refresh fetches and where it puts it

When all calls succeed, the whole transcript of a refresh follows from the listing, the contents
that are fetched, and the inventories of the targets: one listing, then for each entry that some
target holds one fetch and its content written to every holder in turn (`refresh_selective`).

A `Delivery` is an entry with what was fetched for it, a `Placement` a write with the target and the
name it is made for. **What a target ends up with under a name is the content of the last entry of
that name** (`getLast?_placements`), however often the name is listed and whoever else holds it.
-/

set_option autoImplicit false

namespace Vendoring

/-- An entry with the content that was fetched for it, and from where. -/
structure Delivery where
  entry : Entry
  url : String
  isContent : entry.downloadUrl? = some url
  content : ByteArray

/-- A write for a target, under a name. -/
structure Placement where
  target : Target
  name : String
  content : ByteArray

/-- Where the write goes: to the name, seen from the directory of the target. -/
def Placement.path (p : Placement) : LocalPath := p.target.dir.join ⟨p.name⟩

def Placement.event (p : Placement) : Event := .wrote p.path p.content (.ok ())

/-- What is written of a delivery: its content for each holder of its name. -/
def Delivery.placements (targets : List Target) (d : Delivery) : List Placement :=
  (holders targets d.entry.name).map fun target => ⟨target, d.entry.name, d.content⟩

def Delivery.events (targets : List Target) (d : Delivery) : List Event :=
  .fetched d.url (.ok d.content) :: (d.placements targets).map Placement.event

/-- A file that some target holds. -/
def isHeld (targets : List Target) (e : Entry) : Bool :=
  e.isFile && !(holders targets e.name).isEmpty

/-- A file that no target holds. -/
def isUnheld (targets : List Target) (e : Entry) : Bool :=
  e.isFile && (holders targets e.name).isEmpty

/-! ## The transcript -/

/-- Some call was answered with a failure. -/
def Heard.HasFailure {σ : Type} (_ : Fault) (s : Heard σ) : Prop :=
  ∃ event ∈ s.events, event.fault? ≠ none

/-- The entries were dealt with: after `before` come the events of their deliveries, and the account
says so. -/
def Refreshed {σ : Type} (targets : List Target) (before : List Event) (report : Report)
    (entries : List Entry) (report' : Report) (s : Heard σ) : Prop :=
  ∃ deliveries : List Delivery,
    deliveries.map Delivery.entry = entries.filter (isHeld targets) ∧
    s.events = before ++ deliveries.flatMap (Delivery.events targets) ∧
    report' = ⟨report.updated ++ (deliveries.flatMap (Delivery.placements targets)).map
      Placement.path, report.listings,
      report.skipped + (entries.filter (isUnheld targets)).length, report.excluded⟩

section

variable {σ : Type} {remote : Remote σ} {store : Store σ} {targets : List Target}

theorem refreshed_nil (before : List Event) (report : Report) {s : Heard σ}
    (hs : s.events = before) : Refreshed targets before report [] report s := by
  refine ⟨[], rfl, ?_, ?_⟩
  · simp [hs]
  · simp

theorem Refreshed.append {before : List Event} {report report₁ report₂ : Report}
    {entries more : List Entry} {s₁ s₂ : Heard σ}
    (h₁ : Refreshed targets before report entries report₁ s₁)
    (h₂ : Refreshed targets s₁.events report₁ more report₂ s₂) :
    Refreshed targets before report (entries ++ more) report₂ s₂ := by
  obtain ⟨ds₁, hentries₁, hevents₁, rfl⟩ := h₁
  obtain ⟨ds₂, hentries₂, hevents₂, rfl⟩ := h₂
  refine ⟨ds₁ ++ ds₂, ?_, ?_, ?_⟩
  · rw [List.map_append, hentries₁, hentries₂, List.filter_append]
  · rw [hevents₂, hevents₁, List.flatMap_append, List.append_assoc]
  · simp [Nat.add_assoc]

theorem writeAll_meets (name : String) (content : ByteArray) (targets : List Target)
    (events : List Event) :
    (writeAll store.heard name content targets).Meets (fun s => s.events = events)
      (fun _ s => s.events = events ++
        targets.map fun target => Placement.event ⟨target, name, content⟩) Heard.HasFailure := by
  induction targets generalizing events with
  | nil =>
    apply Job.meets_pure
    intro s hs
    simp [hs]
  | cons target targets ih =>
    have hwrite : (store.heard.write (target.place name) content).Meets
        (fun s => s.events = events)
        (fun _ s => s.events = events ++ [Placement.event ⟨target, name, content⟩])
        Heard.HasFailure := by
      apply (Job.meets_heard (store.write (target.place name) content) events).mono
      · exact fun s hs => hs
      · exact fun _ s hs => hs
      · intro fault s hs
        exact ⟨.wrote (target.place name) content (.error fault), by simp [hs], nofun⟩
    apply hwrite.bind
    intro _
    apply (ih (events ++ [Placement.event ⟨target, name, content⟩])).mono
    · exact fun s hs => hs
    · intro _ s hs
      simp [hs]
    · exact fun _ _ hs => hs

theorem refreshEntry_meets (report : Report) (e : Entry) (s₀ : Heard σ) :
    (refreshEntry remote.heard store.heard targets report e).Meets (· = s₀)
      (fun report' s => Refreshed targets s₀.events report [e] report' s) Heard.HasFailure := by
  cases hurl : e.downloadUrl? with
  | none =>
    rw [refreshEntry, hurl]
    apply Job.meets_pure
    rintro s rfl
    have hfile : e.isFile = false := by simp [Entry.isFile, hurl]
    exact ⟨[], by simp [isHeld, hfile], by simp, by simp [isUnheld, hfile]⟩
  | some url =>
    have hfile : e.isFile = true := by simp [Entry.isFile, hurl]
    rw [refreshEntry_of_url remote.heard store.heard targets report hurl]
    split
    · next hnone =>
      apply Job.meets_pure
      rintro s rfl
      exact ⟨[], by simp [isHeld, hnone], by simp,
        by simp [isUnheld, hfile, hnone, Report.countSkipped]⟩
    · next hsome =>
      have hfetch : (remote.heard.fetch url).Meets (· = s₀)
          (fun content s => s.events = s₀.events ++ [.fetched url (.ok content)])
          Heard.HasFailure := by
        apply (Job.meets_heard (remote.fetch url) s₀.events).mono
        · rintro s rfl
          rfl
        · exact fun _ s hs => hs
        · intro fault s hs
          exact ⟨.fetched url (.error fault), by simp [hs], by simp [Event.fault?]⟩
      apply hfetch.bind
      intro content
      apply (writeAll_meets e.name content (holders targets e.name) _).bind
      intro _
      apply Job.meets_pure
      intro s hs
      refine ⟨[⟨e, url, hurl, content⟩], ?_, ?_, ?_⟩
      · simp [isHeld, hfile, hsome]
      · simp [hs, Delivery.events, Delivery.placements]
      · simp [isUnheld, hsome, Report.addUpdated, Delivery.placements, Placement.path, Target.place]

/-- The whole refresh, unless some call fails. -/
theorem refresh_meets (remote : Remote σ) (store : Store σ) (url : String)
    (targets : List Target) :
    (refresh remote.heard store.heard url targets).Meets (fun s => s.events = [])
      (fun report s => ∃ entries, Refreshed targets [.listed url (.ok entries)]
        Report.empty.countListing entries report s) Heard.HasFailure := by
  have hlist : (remote.heard.list url).Meets (fun s => s.events = [])
      (fun entries s => s.events = [.listed url (.ok entries)]) Heard.HasFailure := by
    apply (Job.meets_heard (remote.list url) []).mono
    · exact fun s hs => hs
    · exact fun _ s hs => hs
    · intro fault s hs
      exact ⟨.listed url (.error fault), by simp [hs], nofun⟩
  apply hlist.bind
  intro entries
  have hstep : ∀ done, ∀ e ∈ entries, ∀ report',
      (refreshEntry remote.heard store.heard targets report' e).Meets
        (Refreshed targets [.listed url (.ok entries)] Report.empty.countListing done report')
        (Refreshed targets [.listed url (.ok entries)] Report.empty.countListing (done ++ [e]))
        Heard.HasFailure := by
    intro done e _ report'
    apply Job.meets_of_each
    intro s₀ hs₀
    apply (refreshEntry_meets report' e s₀).mono
    · exact fun s hs => hs
    · exact fun report'' s hs => hs₀.append hs
    · exact fun _ _ hs => hs
  apply (Job.meets_foldlM hstep [] Report.empty.countListing).mono
  · exact fun s hs => refreshed_nil _ _ hs
  · exact fun report s hs => ⟨entries, hs⟩
  · exact fun _ _ hs => hs

end

/-! ## Who gets what -/

section

variable {targets : List Target} {deliveries : List Delivery} {entries : List Entry}

theorem mem_placements {p : Placement} :
    p ∈ deliveries.flatMap (Delivery.placements targets) ↔
      ∃ d ∈ deliveries, p.target ∈ holders targets d.entry.name ∧ p.name = d.entry.name ∧
        p.content = d.content := by
  simp only [List.mem_flatMap, Delivery.placements, List.mem_map]
  constructor
  · rintro ⟨d, hd, target, htarget, rfl⟩
    exact ⟨d, hd, htarget, rfl, rfl⟩
  · rintro ⟨d, hd, htarget, hname, hcontent⟩
    refine ⟨d, hd, p.target, htarget, ?_⟩
    rw [← hname, ← hcontent]

theorem map_entry_filter (h : deliveries.map Delivery.entry = entries.filter (isHeld targets))
    {name : String} (hheld : holders targets name ≠ []) :
    (deliveries.filter (·.entry.name = name)).map Delivery.entry =
      entries.filter fun e => e.isFile && e.name = name := by
  have hmap : (deliveries.filter (·.entry.name = name)).map Delivery.entry =
      (deliveries.map Delivery.entry).filter (·.name = name) := by
    rw [List.filter_map]
    rfl
  rw [hmap, h, List.filter_filter]
  apply List.filter_congr
  intro e _
  by_cases hname : e.name = name
  · simp [isHeld, hname, hheld]
  · simp [hname]

/-- A target gets something under a name if it holds the name and a file has it, and only then. -/
theorem exists_placement_iff (h : deliveries.map Delivery.entry = entries.filter (isHeld targets))
    {target : Target} (htarget : target ∈ targets) (name : String) :
    (∃ p ∈ deliveries.flatMap (Delivery.placements targets), p.target = target ∧ p.name = name) ↔
      target.files.contains name = true ∧ name ∈ fileNames entries := by
  constructor
  · rintro ⟨p, hp, rfl, rfl⟩
    obtain ⟨d, hd, hholds, hname, -⟩ := mem_placements.1 hp
    have hentry : d.entry ∈ entries := by
      have hmem : d.entry ∈ deliveries.map Delivery.entry := List.mem_map_of_mem hd
      rw [h] at hmem
      exact (List.mem_filter.1 hmem).1
    rw [hname]
    exact ⟨(List.mem_filter.1 hholds).2, mem_fileNames hentry d.isContent⟩
  · rintro ⟨hcontains, hname⟩
    have hholds : target ∈ holders targets name := List.mem_filter.2 ⟨htarget, hcontains⟩
    obtain ⟨e, he, rfl⟩ := List.mem_map.1 hname
    obtain ⟨he, hfile⟩ := List.mem_filter.1 he
    have hheld : e ∈ deliveries.map Delivery.entry := by
      rw [h, List.mem_filter]
      exact ⟨he, by simp [isHeld, hfile, List.ne_nil_of_mem hholds]⟩
    obtain ⟨d, hd, rfl⟩ := List.mem_map.1 hheld
    exact ⟨⟨target, d.entry.name, d.content⟩, mem_placements.2 ⟨d, hd, hholds, rfl, rfl⟩, rfl, rfl⟩

/-- **The last that a target gets under a name is the last delivery of that name.** -/
theorem getLast?_placements {target : Target} {name : String} {p : Placement}
    (hp : ((deliveries.flatMap (Delivery.placements targets)).filter
      fun p => p.target = target && p.name = name).getLast? = some p) :
    ∃ d, (deliveries.filter (·.entry.name = name)).getLast? = some d ∧ p.content = d.content := by
  induction deliveries with
  | nil => cases hp
  | cons d deliveries ih =>
    rw [List.flatMap_cons, List.filter_append, List.getLast?_append] at hp
    rw [← List.singleton_append, List.filter_append, List.getLast?_append]
    rcases Option.or_eq_some_iff.1 hp with hlater | ⟨hnone, hhere⟩
    · obtain ⟨last, hlast, hcontent⟩ := ih hlater
      exact ⟨last, by rw [hlast, Option.some_or], hcontent⟩
    · -- nothing later is for this target and name, so no later delivery has the name at all
      obtain ⟨hmem, hmine⟩ := List.mem_filter.1 (List.mem_of_getLast? hhere)
      simp only [Bool.and_eq_true, decide_eq_true_eq] at hmine
      obtain ⟨hd, hplace, rfl⟩ := List.mem_map.1 hmem
      obtain ⟨rfl, rfl⟩ := hmine
      have hlater : deliveries.filter (·.entry.name = d.entry.name) = [] := by
        apply List.filter_eq_nil_iff.2
        intro d' hd' hname
        have hname : d'.entry.name = d.entry.name := by simpa using hname
        rw [List.getLast?_eq_none_iff, List.filter_eq_nil_iff] at hnone
        refine hnone ⟨hd, d'.entry.name, d'.content⟩ ?_ (by simp [hname])
        exact mem_placements.2 ⟨d', hd', by rwa [hname], rfl, rfl⟩
      exact ⟨d, by simp [hlater], rfl⟩

/-- Two relative names have two places in a directory. -/
theorem LocalPath.name_eq_of_join_eq {dir : LocalPath} {name name' : String}
    (hname : (⟨name⟩ : LocalPath).isAbsolute = false)
    (hname' : (⟨name'⟩ : LocalPath).isAbsolute = false)
    (h : dir.join ⟨name⟩ = dir.join ⟨name'⟩) : name = name' := by
  simp only [join, hname, hname', Bool.false_eq_true, if_false] at h
  split at h
  · simpa using h
  · simpa using h

end

/-- **A refresh whose calls all succeed** lists once, fetches the content of every file that some
target holds once, each time writing it to all holders before it goes on, and does nothing for the
other entries. The account has the paths written, in order, and counts the files nobody holds. So a
target is written to under the names that it holds and the listing has, and what it is given last
under a name is the content of the last file of that name. -/
theorem refresh_selective {σ : Type} (remote : Remote σ) (store : Store σ) (url : String)
    (targets : List Target) (world : σ)
    (hcalls : ∀ event ∈ (refresh remote.heard store.heard url targets ⟨world, []⟩).2.events,
      event.fault? = none) :
    ∃ (entries : List Entry) (deliveries : List Delivery),
      let run := refresh remote.heard store.heard url targets ⟨world, []⟩
      let placements := deliveries.flatMap (Delivery.placements targets)
      deliveries.map Delivery.entry = entries.filter (isHeld targets) ∧
      run.2.events = .listed url (.ok entries) :: deliveries.flatMap (Delivery.events targets) ∧
      run.1 = .ok ⟨placements.map Placement.path, 1, (entries.filter (isUnheld targets)).length, 0⟩ ∧
      ∀ target ∈ targets, ∀ name,
        ((∃ p ∈ placements, p.target = target ∧ p.name = name) ↔
          target.files.contains name = true ∧ name ∈ fileNames entries) ∧
        (∀ p, (placements.filter fun p => p.target = target && p.name = name).getLast? = some p →
          ∃ d, (deliveries.filter (·.entry.name = name)).getLast? = some d ∧
            (entries.filter fun e => e.isFile && e.name = name).getLast? = some d.entry ∧
            p.content = d.content) ∧
        ((∀ held ∈ name :: target.files.names, (⟨held⟩ : LocalPath).isAbsolute = false) →
          ∀ p ∈ placements, p.target = target → p.path = target.dir.join ⟨name⟩ → p.name = name) := by
  have hmeets := refresh_meets remote store url targets ⟨world, []⟩ rfl
  rcases hrun : refresh remote.heard store.heard url targets ⟨world, []⟩ with ⟨fault | report, s⟩ <;>
    rw [hrun] at hcalls hmeets
  · obtain ⟨event, hevent, hfault⟩ := hmeets
    exact absurd (hcalls event hevent) hfault
  · obtain ⟨entries, deliveries, hentries, hevents, rfl⟩ := hmeets
    refine ⟨entries, deliveries, hentries, hevents, ?_, fun target htarget name => ⟨?_, ?_, ?_⟩⟩
    · simp [Report.empty, Report.countListing]
    · exact exists_placement_iff hentries htarget name
    · intro p hp
      obtain ⟨d, hd, hcontent⟩ := getLast?_placements hp
      refine ⟨d, hd, ?_, hcontent⟩
      obtain ⟨hmem, hmine⟩ := List.mem_filter.1 (List.mem_of_getLast? hp)
      obtain ⟨d', hd', hholds, hname, -⟩ := mem_placements.1 hmem
      simp only [Bool.and_eq_true, decide_eq_true_eq] at hmine
      have hheld : holders targets name ≠ [] := by
        rw [← hmine.2, hname]
        exact List.ne_nil_of_mem hholds
      rw [← map_entry_filter hentries hheld, List.getLast?_map, hd]
      rfl
    · intro hrelative p hp htarget hpath
      obtain ⟨d, -, hholds, hname, -⟩ := mem_placements.1 hp
      have hheld : p.name ∈ target.files.names := by
        have hcontains := (List.mem_filter.1 hholds).2
        rw [htarget, ← hname] at hcontains
        simpa [Inventory.contains] using hcontains
      rw [Placement.path, htarget] at hpath
      exact LocalPath.name_eq_of_join_eq (hrelative p.name (List.mem_cons_of_mem _ hheld))
        (hrelative name List.mem_cons_self) hpath

/-- A listing with a name twice, a directory, and a name that nobody holds below. -/
def repeatedListing : List Entry :=
  [⟨"a.cc", "cpp/a.cc", .file, some "first", ""⟩, ⟨"a.cc", "cpp/a.cc", .directory, none, ""⟩,
    ⟨"b.cc", "cpp/b.cc", .file, some "other", ""⟩, ⟨"a.cc", "cpp/A.cc", .other, some "second", ""⟩]

/-- Two targets that share a name. -/
def sharingTargets : List Target := [⟨⟨"src"⟩, ⟨["a.cc"]⟩⟩, ⟨⟨"include/"⟩, ⟨["c.cc", "a.cc"]⟩⟩]

/-- A remote side that offers the listing, with the addresses as contents. -/
def repeating : Remote Unit where
  list _ := pure repeatedListing
  fetch url := pure url.toUTF8

theorem refresh_selective_shared :
    let run := refresh repeating.heard Store.idle.heard "cpp" sharingTargets ⟨(), []⟩
    (∀ event ∈ run.2.events, event.fault? = none) ∧
      ∃ deliveries : List Delivery, deliveries.length = 2 ∧
        run.2.events = .listed "cpp" (.ok repeatedListing) ::
          deliveries.flatMap (Delivery.events sharingTargets) := by
  intro run
  have hcalls : ∀ event ∈ run.2.events, event.fault? = none := by decide +kernel
  obtain ⟨entries, deliveries, hentries, hevents, -⟩ :=
    refresh_selective repeating Store.idle "cpp" sharingTargets () hcalls
  obtain rfl : repeatedListing = entries := by
    have hfirst := congrArg List.head? hevents
    cases hfirst
    rfl
  refine ⟨hcalls, deliveries, ?_, hevents⟩
  have hlength := congrArg List.length hentries
  rw [List.length_map] at hlength
  rw [hlength]
  decide +kernel

end Vendoring
