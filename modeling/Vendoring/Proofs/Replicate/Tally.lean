import Vendoring.Proofs.Replicate.Transcript

/-!
# The report of a walk, counted against its calls

A walk keeps its report while it goes, in four counters that two functions add to. What they come to
in the end can be read off the transcript (`replicate_tally`): **every file of every listing that was
read is in exactly one of three places** — written, skipped or left out — and whatever has no content
is in none of them, whatever it says it is.

The counters are in balance after every file, not only after every listing, so the invariant
(`Tallies`) names the entries that have been dealt with. Between two visits those are all entries
that were read.
-/

set_option autoImplicit false

namespace Vendoring

/-! ## What the calls of a transcript were for -/

namespace Event

/-- The address, if the call was for a content, whatever the answer. -/
def fetched? : Event → Option String
  | fetched url _ => some url
  | _ => none

/-- The directory, if the call was to make one, whatever the answer. -/
def madeDirs? : Event → Option LocalPath
  | madeDirs dir _ => some dir
  | _ => none

/-- The path, if the call was to write, whatever the answer. -/
def wrote? : Event → Option LocalPath
  | wrote path _ _ => some path
  | _ => none

/-- The entries of the listing, if the call obtained one. -/
def entries : Event → List Entry
  | listed _ (.ok entries) => entries
  | _ => []

end Event

/-- All entries of all listings that were obtained, in order. -/
def readEntries (events : List Event) : List Entry := events.flatMap Event.entries

theorem readEntries_append (events more : List Event) :
    readEntries (events ++ more) = readEntries events ++ readEntries more :=
  List.flatMap_append

theorem readEntries_of_whole {f : Filing} {more : List Event} (h : f.Whole more) :
    readEntries more = [] := by
  cases h <;> rfl

/-! ## One file -/

namespace Filing

/-- The path that content is kept at, if it is kept. -/
def path? : Filing → Option LocalPath
  | kept _ path => some path
  | _ => none

/-- The report with one more filing carried out. -/
def tally (report : Report) : Filing → Report
  | noContent => report
  | excluded => report.countExcluded
  | noPlace => report.countSkipped
  | kept _ path => report.addUpdated [path]

theorem carryOut_tally {σ : Type} (remote : Remote σ) (store : Store σ) (f : Filing)
    (report : Report) :
    (f.carryOut remote store report).Meets (fun _ => True) (fun report' _ => report' = f.tally report)
      (fun _ _ => True) := by
  have hany : ∀ {α : Type} (job : Job σ α),
      job.Meets (fun _ => True) (fun _ _ => True) (fun _ _ => True) :=
    fun job => Job.Keeps.meets fun _ _ => trivial
  cases f with
  | noContent | excluded | noPlace => exact Job.meets_pure fun _ _ => rfl
  | kept url path =>
    apply (hany (store.makeDirs path.parent)).bind
    intro _
    apply (hany (store.touch path)).bind
    intro _
    apply (hany (remote.fetch url)).bind
    intro content
    apply (hany (store.write path content)).bind
    intro _
    exact Job.meets_pure fun _ _ => rfl

end Filing

/-- There is nothing to do for an entry exactly if it has no content, whatever kind it says it is. -/
theorem filing_eq_noContent_iff {options : ReplicaOptions} {e : Entry} :
    filing options e = .noContent ↔ e.isFile = false := by
  unfold filing Entry.isFile
  cases e.downloadUrl? with
  | none => simp
  | some url =>
    cases isExcluded options.excludedExtensions e.path with
    | true => simp
    | false => cases localPath? e.path <;> simp

/-- **Every file is in one of three places**, and what is no file is in none. -/
theorem length_files (options : ReplicaOptions) (entries : List Entry) :
    (entries.filterMap fun e => (filing options e).path?).length +
        entries.countP (filing options · = .noPlace) + entries.countP (filing options · = .excluded) =
      (entries.filter Entry.isFile).length := by
  induction entries with
  | nil => rfl
  | cons e entries ih =>
    have hfile : filing options e = .noContent ↔ e.isFile = false := filing_eq_noContent_iff
    rw [List.filterMap_cons, List.countP_cons, List.countP_cons, List.filter_cons]
    cases hf : filing options e with
    | noContent =>
      rw [hfile.1 hf]
      simpa [Filing.path?] using ih
    | excluded | noPlace | kept url path =>
      have hcontent : e.isFile = true := by simpa [hf] using hfile
      simp only [hcontent, if_true, List.length_cons, ← ih]
      simp [Filing.path?]
      try omega

/-! ## The counters along a walk -/

/-- The report counts these entries, and the calls made for them. -/
structure Tallies (options : ReplicaOptions) (entries : List Entry) (events : List Event)
    (report : Report) : Prop where
  listings : report.listings = (events.filterMap Event.listed?).length
  updated : report.updated = entries.filterMap fun e => (filing options e).path?
  skipped : report.skipped = entries.countP (filing options · = .noPlace)
  excluded : report.excluded = entries.countP (filing options · = .excluded)
  wrote : events.filterMap Event.wrote? = report.updated
  touched : events.filterMap Event.touched? = report.updated
  madeDirs : events.filterMap Event.madeDirs? = report.updated.map LocalPath.parent
  fetched : (events.filterMap Event.fetched?).length = report.updated.length

namespace Tallies

variable {options : ReplicaOptions} {entries : List Entry} {events : List Event} {report : Report}

theorem start (options : ReplicaOptions) : Tallies options [] [] .empty := by
  constructor <;> rfl

theorem listing (h : Tallies options entries events report) (url : String)
    (answer : Except Fault (List Entry)) :
    Tallies options entries (events ++ [.listed url answer]) report.countListing where
  listings := by simp [h.listings, Report.countListing, Event.listed?]
  updated := h.updated
  skipped := h.skipped
  excluded := h.excluded
  wrote := by simp [h.wrote, Report.countListing, List.filterMap_cons, Event.wrote?]
  touched := by simp [h.touched, Report.countListing, List.filterMap_cons, Event.touched?]
  madeDirs := by simp [h.madeDirs, Report.countListing, List.filterMap_cons, Event.madeDirs?]
  fetched := by simp [h.fetched, Report.countListing, List.filterMap_cons, Event.fetched?]

/-- **One more file keeps the balance.** -/
theorem file (h : Tallies options entries events report) {e : Entry} {more : List Event}
    (hmore : (filing options e).Whole more) :
    Tallies options (entries ++ [e]) (events ++ more) ((filing options e).tally report) := by
  obtain ⟨hlistings, hupdated, hskipped, hexcluded, hwrote, htouched, hdirs, hfetched⟩ := h
  generalize hf : filing options e = f at hmore
  cases hmore with
  | nothing hnot =>
    cases f with
    | kept url path => exact absurd rfl (hnot url path)
    | noContent | excluded | noPlace =>
      constructor <;> simp [*, Filing.tally, Filing.path?, Report.countSkipped,
        Report.countExcluded]
  | kept url path data =>
    constructor <;> simp [*, keptEvents, Filing.tally, Filing.path?, Report.addUpdated,
      List.filterMap_cons, Event.listed?, Event.wrote?, Event.touched?, Event.madeDirs?,
      Event.fetched?]

end Tallies

section

variable {σ : Type} {remote : Remote σ} {store : Store σ} {options : ReplicaOptions}

/-- The report counts all that was read. -/
def Balanced (options : ReplicaOptions) (report : Report) (s : Heard σ) : Prop :=
  Tallies options (readEntries s.events) s.events report

theorem enter_balanced (here : Pending) (report : Report) :
    (enter remote.heard store.heard options here report).Meets (Balanced options report)
      (fun found s => Balanced options found.2 s) (fun _ _ => True) := by
  apply (checkDepth_meets (fun _ _ _ _ _ => trivial) here).bind
  intro _
  apply Job.meets_of_each
  intro s₀ hs₀
  have hlist : (remote.heard.list here.url).Meets (· = s₀)
      (fun entries s => s.events = s₀.events ++ [.listed here.url (.ok entries)])
      (fun _ _ => True) := by
    apply (Job.meets_heard (remote.list here.url) s₀.events).mono
    · rintro s rfl
      rfl
    · exact fun _ s hs => hs
    · exact fun _ _ _ => trivial
  apply hlist.bind
  intro entries
  -- the listing was read as a whole, and its files are counted one after the other
  let Inv : List Entry → Report → Heard σ → Prop := fun done report s =>
    Tallies options (readEntries s₀.events ++ done) s.events report ∧
      readEntries s.events = readEntries s₀.events ++ entries
  have hstep : ∀ done, ∀ e ∈ entries, ∀ report,
      ((filing options e).carryOut remote.heard store.heard report).Meets (Inv done report)
        (Inv (done ++ [e])) (fun _ _ => True) := by
    intro done e _ report
    apply Job.meets_of_each
    rintro s₁ ⟨htallies, hread⟩
    apply ((carryOut_meets (filing options e) report s₁.events).and
      (Filing.carryOut_tally remote.heard store.heard (filing options e) report)).mono
    · rintro s rfl
      exact ⟨rfl, trivial⟩
    · rintro _ s ⟨⟨more, hmore, hs⟩, rfl⟩
      refine ⟨?_, ?_⟩
      · rw [hs, ← List.append_assoc]
        exact htallies.file hmore
      · rw [hs, readEntries_append, hread, readEntries_of_whole hmore, List.append_nil]
    · exact fun _ _ _ => trivial
  have hfold : (entries.foldlM (fun report e =>
        (filing options e).carryOut remote.heard store.heard report) report.countListing).Meets
      (fun s => s.events = s₀.events ++ [.listed here.url (.ok entries)]) (Inv entries)
      (fun _ _ => True) := by
    apply (Job.meets_foldlM hstep [] report.countListing).mono
    · intro s hs
      refine ⟨?_, ?_⟩
      · rw [hs, List.append_nil]
        exact hs₀.listing here.url (.ok entries)
      · rw [hs, readEntries_append]
        simp [readEntries, Event.entries]
    · exact fun _ s hs => hs
    · exact fun _ _ _ => trivial
  apply hfold.bind
  intro report'
  apply Job.meets_pure
  rintro s ⟨htallies, hread⟩
  rwa [← hread] at htallies

variable (remote store options) in
theorem visitsKeep_balanced :
    VisitsKeep remote.heard store.heard options fun w s => Balanced options w.report s := by
  intro here rest w s w' s' hw _ hv
  by_cases hmem : here.url ∈ ({ w with pending := rest } : Walk).visited
  · rw [visit_of_mem hmem] at hv
    cases hv
    exact hw
  · rw [visit_of_not_mem hmem] at hv
    obtain ⟨found, s₁, henter, hv⟩ := Job.bind_eq_ok hv
    cases hv
    exact (enter_balanced here w.report).ok hw henter

/-- The report of a walk that succeeds is balanced. -/
theorem balanced_of_replicate {bound : Nat} {url : String} {world : σ} {report : Report}
    {final : Heard σ} (hrun : replicate remote.heard store.heard options bound url ⟨world, []⟩ =
      (.ok (some report), final)) : Balanced options report final := by
  have hstart : Balanced options (Walk.from url).report (⟨world, []⟩ : Heard σ) := .start options
  have hstops := walkOn_stops (visitsKeep_balanced remote store options) bound hstart
  rw [← replicate, hrun] at hstops
  obtain ⟨w, hw, -, rfl⟩ := hstops
  exact hw

end

/-- **The report of a walk that succeeds is in balance with its calls.** It counts the listings that
were asked for, and it has the paths that were written, in order; as many directories were made,
files touched and contents fetched. The files of all listings that were read are the ones that were
written, the ones without a place and the ones left out; an entry without content is none of them,
whatever kind it says it is. -/
theorem replicate_tally {σ : Type} (remote : Remote σ) (store : Store σ) (options : ReplicaOptions)
    (bound : Nat) (url : String) (world : σ) {report : Report} {final : Heard σ}
    (hrun : replicate remote.heard store.heard options bound url ⟨world, []⟩ =
      (.ok (some report), final)) :
    let events := final.events
    let entries := readEntries events
    report.listings = (events.filterMap Event.listed?).length ∧
    events.filterMap Event.wrote? = report.updated ∧
    events.filterMap Event.touched? = report.updated ∧
    events.filterMap Event.madeDirs? = report.updated.map LocalPath.parent ∧
    (events.filterMap Event.fetched?).length = report.updated.length ∧
    report.updated.length + report.skipped + report.excluded =
      (entries.filter Entry.isFile).length ∧
    report.updated = entries.filterMap (fun e => (filing options e).path?) ∧
    report.skipped = entries.countP (filing options · = .noPlace) ∧
    report.excluded = entries.countP (filing options · = .excluded) ∧
    ∀ e ∈ entries, e.downloadUrl? = none → filing options e = .noContent := by
  intro events entries
  have h : Tallies options entries events report := balanced_of_replicate hrun
  refine ⟨h.listings, h.wrote, h.touched, h.madeDirs, h.fetched, ?_, h.updated, h.skipped,
    h.excluded, ?_⟩
  · rw [h.updated, h.skipped, h.excluded]
    exact length_files options entries
  · intro e _ hurl
    exact filing_eq_noContent_iff.2 (by rw [Entry.isFile, hurl]; rfl)

/-- A remote side with a directory that is in itself. Of the five entries in it two are kept at one
place, though one of them says that it is a directory; one has no place, one is to be left out, and
one is the directory. -/
def assorted : Remote Unit where
  list _ := pure [⟨"a.cc", "cpp/a.cc", .file, some "first", ""⟩,
    ⟨"A.cc", "cpp/A.cc", .directory, some "second", "a"⟩, ⟨"b", "b", .file, some "third", ""⟩,
    ⟨"C.java", "cpp/C.java", .other, some "fourth", ""⟩, ⟨"cpp", "cpp", .directory, none, "cpp"⟩]
  fetch url := pure url.toUTF8

theorem replicate_tally_assorted :
    ∃ report final, replicate assorted.heard Store.idle.heard ⟨⟨"out"⟩, ["java"], none⟩ 2 "cpp"
        ⟨(), []⟩ = (.ok (some report), final) ∧
      report = ⟨[⟨"out/a.cc"⟩, ⟨"out/a.cc"⟩], 1, 1, 1⟩ ∧
      ((readEntries final.events).filter Entry.isFile).length = 4 := by
  let run := replicate assorted.heard Store.idle.heard ⟨⟨"out"⟩, ["java"], none⟩ 2 "cpp" ⟨(), []⟩
  have hresult : run.1.toOption = some (some ⟨[⟨"out/a.cc"⟩, ⟨"out/a.cc"⟩], 1, 1, 1⟩) := by
    decide +kernel
  rcases hrun : run with ⟨fault | report?, final⟩ <;> rw [hrun] at hresult
  · cases hresult
  · obtain rfl := Option.some.inj hresult
    obtain ⟨-, -, -, -, -, hfiles, -⟩ := replicate_tally assorted Store.idle _ 2 "cpp" () hrun
    exact ⟨_, final, hrun, rfl, hfiles.symm⟩

end Vendoring
