import Vendoring.Proofs.Client.Exchange
import Vendoring.Proofs.Refresh.Writes
import Vendoring.Proofs.Replicate.Walk
import Vendoring.Proofs.Synchronise

/-!
# What a write was supplied with

A write of a synchronisation hands on what was fetched last, for an entry of the listing that was
read last (`Undertaking.job_supplied`). What was read and fetched last is an invariant of the events:
between two entries of a listing it is the listing (`Reading`), and between the download and the last
write of an entry a content too (`Holding`). **A write needs to know no more of the events than
`Holding`**, so both modes come down to their calls, one by one.
-/

set_option autoImplicit false

namespace Vendoring

/-! ## What was read and fetched last -/

/-- The undertaking puts the content behind the address to this path for the entry. -/
def Undertaking.Places (e : Entry) (url : String) (path : LocalPath) : Undertaking → Prop
  | refresh _ targets =>
    e.downloadUrl? = some url ∧ ∃ target ∈ holders targets e.name, path = target.place e.name
  | replicate _ options => filing options e = .kept url path

/-- The listing that was read last has these entries. -/
def Reading (entries : List Entry) (events : List Event) : Prop :=
  ∃ before source after, events = before ++ .listed source (.ok entries) :: after ∧
    ∀ e ∈ after, e.listed? = none

/-- Since the listing was read, the content was fetched, and nothing after it. -/
def Holding (entries : List Entry) (url : String) (data : ByteArray) (events : List Event) :
    Prop :=
  ∃ before after, events = before ++ .fetched url (.ok data) :: after ∧ Reading entries before ∧
    ∀ e ∈ after, e.IsStored

/-- The content that was fetched last goes to the path, for an entry of the last listing. -/
def Supplied (u : Undertaking) (events : List Event) (path : LocalPath) (data : ByteArray) : Prop :=
  ∃ entries e url, Holding entries url data events ∧ e ∈ entries ∧ u.Places e url path

/-- Every write was supplied by what was fetched last before it. -/
def AllSupplied (u : Undertaking) (events : List Event) : Prop :=
  ∀ before path data answer after, events = before ++ .wrote path data answer :: after →
    Supplied u before path data

section

variable {u : Undertaking} {entries : List Entry} {url : String} {data : ByteArray}
  {events : List Event} {event : Event}

theorem reading_concat (source : String) :
    Reading entries (events ++ [.listed source (.ok entries)]) :=
  ⟨events, source, [], rfl, nofun⟩

theorem Reading.concat (h : Reading entries events) (hevent : event.listed? = none) :
    Reading entries (events ++ [event]) := by
  obtain ⟨before, source, after, rfl, hafter⟩ := h
  refine ⟨before, source, after ++ [event], by simp, ?_⟩
  intro e he
  rcases List.mem_append.1 he with he | he
  · exact hafter e he
  · rw [List.mem_singleton.1 he]
    exact hevent

theorem Reading.holding (h : Reading entries events) :
    Holding entries url data (events ++ [.fetched url (.ok data)]) :=
  ⟨events, [], rfl, h, nofun⟩

theorem Holding.concat (h : Holding entries url data events) (hevent : event.IsStored) :
    Holding entries url data (events ++ [event]) := by
  obtain ⟨before, after, rfl, hreading, hafter⟩ := h
  refine ⟨before, after ++ [event], by simp, hreading, ?_⟩
  intro e he
  rcases List.mem_append.1 he with he | he
  · exact hafter e he
  · rw [List.mem_singleton.1 he]
    exact hevent

theorem Event.listed?_of_isStored {event : Event} (h : event.IsStored) : event.listed? = none := by
  cases event with
  | listed | fetched => cases h
  | madeDirs | touched | wrote => rfl

theorem Holding.reading (h : Holding entries url data events) : Reading entries events := by
  obtain ⟨before, after, rfl, ⟨earlier, source, since, rfl, hsince⟩, hafter⟩ := h
  refine ⟨earlier, source, since ++ .fetched url (.ok data) :: after, by simp, ?_⟩
  intro e he
  rcases List.mem_append.1 he with he | he
  · exact hsince e he
  · rcases List.mem_cons.1 he with rfl | he
    · rfl
    · exact Event.listed?_of_isStored (hafter e he)

/-- It is enough to look at the last event, if it is a write. -/
theorem AllSupplied.concat (h : AllSupplied u events)
    (hevent : ∀ path data answer, event = .wrote path data answer → Supplied u events path data) :
    AllSupplied u (events ++ [event]) := by
  intro before path data answer after hsplit
  rcases List.eq_nil_or_concat after with rfl | ⟨after, last, rfl⟩
  · obtain ⟨rfl, hlast⟩ := List.append_inj' hsplit rfl
    exact hevent path data answer (List.singleton_inj.1 hlast)
  · have hsplit' : events ++ [event] = (before ++ .wrote path data answer :: after) ++ [last] := by
      simpa using hsplit
    exact h before path data answer after (List.append_inj' hsplit' rfl).1

end

/-! ## The invariant along a run -/

section

variable {σ : Type} {remote : Remote σ} {store : Store σ} {u : Undertaking}

/-- **What is known of the events so far, and of one call, is known after it.** Only a write needs to
be supplied. -/
theorem heard_supplied {α : Type} (event : Except Fault α → Event) (job : Job σ α)
    (P : List Event → Prop) (Q : α → List Event → Prop)
    (hnext : ∀ events, P events → ∀ a, Q a (events ++ [event (.ok a)]))
    (hwrite : ∀ events, P events → ∀ result path data answer,
      event result = .wrote path data answer → Supplied u events path data) :
    (job.heard event).Meets (fun s => AllSupplied u s.events ∧ P s.events)
      (fun a s => AllSupplied u s.events ∧ Q a s.events) (fun _ s => AllSupplied u s.events) := by
  apply Job.meets_of_each
  rintro s₀ ⟨hs₀, hP⟩
  have hsupplied : ∀ result, AllSupplied u (s₀.events ++ [event result]) :=
    fun result => hs₀.concat (hwrite s₀.events hP result)
  apply (Job.meets_heard job s₀.events).mono
  · rintro s rfl
    rfl
  · intro a s hs
    rw [hs]
    exact ⟨hsupplied (.ok a), hnext s₀.events hP a⟩
  · intro fault s hs
    rw [hs]
    exact hsupplied (.error fault)

theorem list_supplied (source : String) :
    (remote.heard.list source).Meets (fun s => AllSupplied u s.events)
      (fun entries s => AllSupplied u s.events ∧ Reading entries s.events)
      (fun _ s => AllSupplied u s.events) := by
  apply (heard_supplied (.listed source) (remote.list source) (fun _ => True) Reading
    (fun _ _ _ => reading_concat source) (fun _ _ _ _ _ _ => nofun)).mono
  · exact fun s hs => ⟨hs, trivial⟩
  · exact fun _ s hs => hs
  · exact fun _ s hs => hs

theorem fetch_supplied (entries : List Entry) (url : String) :
    (remote.heard.fetch url).Meets (fun s => AllSupplied u s.events ∧ Reading entries s.events)
      (fun data s => AllSupplied u s.events ∧ Holding entries url data s.events)
      (fun _ s => AllSupplied u s.events) :=
  heard_supplied (.fetched url) (remote.fetch url) (Reading entries) (Holding entries url)
    (fun _ h _ => h.holding) (fun _ _ _ _ _ _ => nofun)

theorem makeDirs_supplied (entries : List Entry) (dir : LocalPath) :
    (store.heard.makeDirs dir).Meets (fun s => AllSupplied u s.events ∧ Reading entries s.events)
      (fun _ s => AllSupplied u s.events ∧ Reading entries s.events)
      (fun _ s => AllSupplied u s.events) :=
  heard_supplied (.madeDirs dir) (store.makeDirs dir) (Reading entries) (fun _ => Reading entries)
    (fun _ h _ => h.concat rfl) (fun _ _ _ _ _ _ => nofun)

theorem touch_supplied (entries : List Entry) (path : LocalPath) :
    (store.heard.touch path).Meets (fun s => AllSupplied u s.events ∧ Reading entries s.events)
      (fun _ s => AllSupplied u s.events ∧ Reading entries s.events)
      (fun _ s => AllSupplied u s.events) :=
  heard_supplied (.touched path) (store.touch path) (Reading entries) (fun _ => Reading entries)
    (fun _ h _ => h.concat rfl) (fun _ _ _ _ _ _ => nofun)

/-- **A write of what is held, to the place of its entry, is supplied.** -/
theorem write_supplied {entries : List Entry} {e : Entry} (he : e ∈ entries) {url : String}
    {path : LocalPath} (hplaces : u.Places e url path) (data : ByteArray) :
    (store.heard.write path data).Meets
      (fun s => AllSupplied u s.events ∧ Holding entries url data s.events)
      (fun _ s => AllSupplied u s.events ∧ Holding entries url data s.events)
      (fun _ s => AllSupplied u s.events) := by
  apply heard_supplied (.wrote path data) (store.write path data) (Holding entries url data)
    (fun _ => Holding entries url data)
  · exact fun _ h _ => h.concat trivial
  · rintro events h _ _ _ _ ⟨⟩
    exact ⟨entries, e, url, h, he, hplaces⟩

/-! ### Refreshes -/

theorem writeAll_supplied {source : String} {targets held : List Target}
    {entries : List Entry} {e : Entry} (he : e ∈ entries) {url : String}
    (hurl : e.downloadUrl? = some url) (data : ByteArray) (hheld : held ⊆ holders targets e.name) :
    (writeAll store.heard e.name data held).Meets
      (fun s => AllSupplied (.refresh source targets) s.events ∧ Holding entries url data s.events)
      (fun _ s => AllSupplied (.refresh source targets) s.events ∧
        Holding entries url data s.events)
      (fun _ s => AllSupplied (.refresh source targets) s.events) := by
  induction held with
  | nil => exact Job.meets_pure fun s hs => hs
  | cons target held ih =>
    obtain ⟨htarget, hheld⟩ := List.cons_subset.1 hheld
    have hplaces : (Undertaking.refresh source targets).Places e url (target.place e.name) :=
      ⟨hurl, target, htarget, rfl⟩
    apply (write_supplied he hplaces data).bind
    intro _
    exact ih hheld

theorem refreshEntry_supplied {source : String} {targets : List Target} {entries : List Entry}
    {e : Entry} (he : e ∈ entries) (report : Report) :
    (refreshEntry remote.heard store.heard targets report e).Meets
      (fun s => AllSupplied (.refresh source targets) s.events ∧ Reading entries s.events)
      (fun _ s => AllSupplied (.refresh source targets) s.events ∧ Reading entries s.events)
      (fun _ s => AllSupplied (.refresh source targets) s.events) := by
  cases hurl : e.downloadUrl? with
  | none =>
    rw [refreshEntry, hurl]
    exact Job.meets_pure fun s hs => hs
  | some url =>
    rw [refreshEntry_of_url remote.heard store.heard targets report hurl]
    split
    · exact Job.meets_pure fun s hs => hs
    · apply (fetch_supplied entries url).bind
      intro data
      apply (writeAll_supplied he hurl data (List.Subset.refl _)).bind
      intro _
      exact Job.meets_pure fun s hs => ⟨hs.1, hs.2.reading⟩

theorem refresh_supplied (source : String) (targets : List Target) :
    (refresh remote.heard store.heard source targets).Meets
      (fun s => AllSupplied (.refresh source targets) s.events)
      (fun _ s => AllSupplied (.refresh source targets) s.events)
      (fun _ s => AllSupplied (.refresh source targets) s.events) := by
  apply (list_supplied source).bind
  intro entries
  let Inv : List Entry → Report → Heard σ → Prop := fun _ _ s =>
    AllSupplied (.refresh source targets) s.events ∧ Reading entries s.events
  have hstep : ∀ done, ∀ e ∈ entries, ∀ report,
      (refreshEntry remote.heard store.heard targets report e).Meets (Inv done report)
        (Inv (done ++ [e])) (fun _ s => AllSupplied (.refresh source targets) s.events) :=
    fun _ e he report => refreshEntry_supplied he report
  apply (Job.meets_foldlM hstep [] Report.empty.countListing).mono
  · exact fun s hs => hs
  · exact fun report s hs => hs.1
  · exact fun _ s hs => hs

/-! ### Walks -/

theorem carryOut_supplied {source : String} {options : ReplicaOptions} {entries : List Entry}
    {e : Entry} (he : e ∈ entries) (report : Report) :
    ((filing options e).carryOut remote.heard store.heard report).Meets
      (fun s => AllSupplied (.replicate source options) s.events ∧ Reading entries s.events)
      (fun _ s => AllSupplied (.replicate source options) s.events ∧ Reading entries s.events)
      (fun _ s => AllSupplied (.replicate source options) s.events) := by
  cases hfiling : filing options e with
  | noContent | excluded | noPlace => exact Job.meets_pure fun s hs => hs
  | kept url path =>
    have hplaces : (Undertaking.replicate source options).Places e url path := hfiling
    apply (makeDirs_supplied entries path.parent).bind
    intro _
    apply (touch_supplied entries path).bind
    intro _
    apply (fetch_supplied entries url).bind
    intro data
    apply (write_supplied he hplaces data).bind
    intro _
    exact Job.meets_pure fun s hs => ⟨hs.1, hs.2.reading⟩

theorem replicate_supplied (source : String) (options : ReplicaOptions) (bound : Nat) :
    (replicate remote.heard store.heard options bound source).Meets
      (fun s => AllSupplied (.replicate source options) s.events)
      (fun _ s => AllSupplied (.replicate source options) s.events)
      (fun _ s => AllSupplied (.replicate source options) s.events) :=
  replicate_meets (fun _ _ _ _ hs => hs) list_supplied
    (fun _ _ he report => carryOut_supplied he report) bound source

/-- **Every write of an undertaking is supplied**, however it ends. -/
theorem Undertaking.job_supplied (u : Undertaking) (bound : Nat) (world : σ) :
    AllSupplied u (u.job bound _ remote.heard store.heard ⟨world, []⟩).2.events := by
  have hnone : AllSupplied u [] := by
    intro before path data answer after hsplit
    exact absurd hsplit.symm (by simp)
  cases u with
  | refresh source targets =>
    have hmeets : (Vendoring.refresh remote.heard store.heard source targets).Meets _ _ _ :=
      refresh_supplied source targets
    have hsupplied := hmeets ⟨world, []⟩ hnone
    show AllSupplied _ ((some <$> Vendoring.refresh remote.heard store.heard source targets)
      ⟨world, []⟩).2.events
    rw [Job.map_world]
    rcases hrun : Vendoring.refresh remote.heard store.heard source targets ⟨world, []⟩ with
      ⟨_ | _, s⟩ <;> rw [hrun] at hsupplied <;> exact hsupplied
  | replicate source options =>
    have hmeets : (Vendoring.replicate remote.heard store.heard options bound source).Meets _ _ _ :=
      replicate_supplied source options bound
    have hsupplied := hmeets ⟨world, []⟩ hnone
    show AllSupplied _ (Vendoring.replicate remote.heard store.heard options bound source
      ⟨world, []⟩).2.events
    rcases hrun : Vendoring.replicate remote.heard store.heard options bound source ⟨world, []⟩ with
      ⟨_ | _, s⟩ <;> rw [hrun] at hsupplied <;> exact hsupplied

end

end Vendoring
