import Vendoring.Proofs.Replicate.Transcript
import Vendoring.Proofs.Run
import Vendoring.Proofs.Synchronise.Supply

/-!
# Where failures and written bytes come from

A run over a client deals with responses, and each of its failures and each byte that it writes comes
from one of them (`synchronise_traces_responses`). A listing that fails and a content that fails end
the run, so such a response is the last one. **Every write has the whole body of the response before
it**, which is that to the request for the content of an entry, and the entry is in the listing that
was read last.

The book of the run has responses where the invariants of a run have events, so what is known of the
events is carried over deed by deed (`answered_of_holding`).
-/

set_option autoImplicit false

namespace Vendoring

/-! ## Stores that fail on files -/

/-- Whatever fails in the job fails on a file. -/
def Job.FailsOnFiles {σ α : Type} (job : Job σ α) : Prop :=
  ∀ s fault, (job s).1 = .error fault → ∃ path cause, fault = .file path cause

/-- The failures of the store are failures of files. -/
structure Store.FailsOnFiles {σ : Type} (store : Store σ) : Prop where
  makeDirs : ∀ dir, (store.makeDirs dir).FailsOnFiles
  touch : ∀ path, (store.touch path).FailsOnFiles
  write : ∀ path data, (store.write path data).FailsOnFiles

section

variable {σ : Type}

theorem Job.failsOnFiles_unlessPlanned {job : Job σ Unit} (h : job.FailsOnFiles)
    (planned : List Store.PlannedFault) (operation : Store.Operation) (path : LocalPath) :
    (Store.unlessPlanned planned operation path job).FailsOnFiles := by
  rw [Store.unlessPlanned]
  split
  · next p _ =>
    rintro s fault ⟨⟩
    exact ⟨path, p.cause, rfl⟩
  · exact h

theorem Store.failsOnFiles_change (path : LocalPath)
    (operation : FileTree → Except FileFault FileTree) : (change path operation).FailsOnFiles := by
  intro t fault h
  rw [change] at h
  split at h
  · cases h
  · next cause _ =>
    cases h
    exact ⟨path, cause, rfl⟩

theorem Store.FailsOnFiles.booked {store : Store σ} (h : store.FailsOnFiles) :
    store.booked.FailsOnFiles where
  makeDirs dir := fun s fault hfault => h.makeDirs dir s.world fault hfault
  touch path := fun s fault hfault => h.touch path s.world fault hfault
  write path data := fun s fault hfault => h.write path data s.world fault hfault

/-- **The disk fails on files**, as planned or by itself. -/
theorem Store.failsOnFiles_besideRemote {τ : Type} (planned : List PlannedFault) :
    (besideRemote planned : Store (FileTree × τ)).FailsOnFiles where
  makeDirs dir := by
    have hdisk : (disk.makeDirs dir).FailsOnFiles := by
      intro t fault h
      have hresult : (t.makeDirs dir).2.mapError (Fault.file dir) = .error fault := h
      cases hmade : (t.makeDirs dir).2 with
      | ok => rw [hmade] at hresult; cases hresult
      | error cause =>
        rw [hmade] at hresult
        cases hresult
        exact ⟨dir, cause, rfl⟩
    exact fun s fault h => Job.failsOnFiles_unlessPlanned hdisk planned .makeDirs dir s.1 fault h
  touch path := fun s fault h =>
    Job.failsOnFiles_unlessPlanned (failsOnFiles_change path _) planned .touch path s.1 fault h
  write path data := fun s fault h =>
    Job.failsOnFiles_unlessPlanned (failsOnFiles_change path _) planned .write path s.1 fault h

end

/-! ## From responses to results -/

theorem listingAnswer_eq_status {url url' : String} {code : Nat} {response? : Option Response}
    (h : listingAnswer url response? = .error (.status url' code)) :
    url' = url ∧ ∃ response, response? = some response ∧ ¬ (200 ≤ code ∧ code < 300) ∧
      response.status = code := by
  cases response? with
  | none => cases h
  | some response =>
    rw [listingAnswer] at h
    split at h
    · split at h
      · next bytes _ => cases hread : Listing.ofBytes bytes <;> rw [hread] at h <;> cases h
      · cases h
    · next hstatus =>
      cases h
      exact ⟨rfl, response, rfl, by simpa [Response.isSuccess] using hstatus, rfl⟩

theorem listingAnswer_eq_listing {url url' : String} {cause : Json.Fault}
    {response? : Option Response} (h : listingAnswer url response? = .error (.listing url' cause)) :
    url' = url ∧ ∃ status bytes, response? = some ⟨status, .whole bytes⟩ ∧
      (200 ≤ status ∧ status < 300) ∧ Listing.ofBytes bytes = .error cause := by
  cases response? with
  | none => cases h
  | some response =>
    rw [listingAnswer] at h
    split at h
    · next hstatus =>
      split at h
      · next bytes hbody =>
        obtain ⟨status, body⟩ := response
        obtain rfl : body = .whole bytes := hbody
        cases hread : Listing.ofBytes bytes <;> rw [hread] at h <;> cases h
        exact ⟨rfl, status, bytes, rfl, by simpa [Response.isSuccess] using hstatus, hread⟩
      · cases h
    · cases h

theorem contentAnswer_cases (url : String) (response? : Option Response) :
    (∃ status data, response? = some ⟨status, .whole data⟩ ∧ contentAnswer url response? = .ok data) ∨
      contentAnswer url response? = .error (.network url) := by
  cases response? with
  | none => exact .inr rfl
  | some response =>
    obtain ⟨status, body⟩ := response
    cases body with
    | whole data => exact .inl ⟨status, data, rfl, rfl⟩
    | broken => exact .inr rfl

/-- In the book, a content for the entry was asked for last, and its response has the whole body;
before that the listing with the entry was asked for last. -/
def Client.Answered {σ : Type} (client : Client σ) (e : Entry) (url : String) (data : ByteArray)
    (deeds : List Deed) : Prop :=
  ∃ before source listing? entries between status after,
    deeds = before ++ .asked (client.listingRequest source) listing? :: (between ++
      .asked (client.contentRequest url) (some ⟨status, .whole data⟩) :: after) ∧
    listingAnswer source listing? = .ok entries ∧ e ∈ entries ∧
    (∀ url response?, .asked (client.listingRequest url) response? ∉ between) ∧
    ∀ request response?, .asked request response? ∉ after

section

variable {σ : Type} {client : Client σ}

/-- What was held when the bytes were written was in the book. -/
theorem answered_of_holding {deeds : List Deed} {events : List Event} {entries : List Entry}
    {e : Entry} {url : String} {data : ByteArray}
    (hmakes : List.Forall₂ client.Makes deeds events) (h : Holding entries url data events)
    (he : e ∈ entries) : client.Answered e url data deeds := by
  obtain ⟨before, after, hfetched, ⟨earlier, source, between, hlisted, hbetween⟩, hafter⟩ := h
  obtain ⟨before', fetched, after', rfl, hbefore, hfetch, hsince⟩ :=
    Client.exists_deed hmakes hfetched
  obtain ⟨earlier', listed, between', rfl, -, hlist, hbetween'⟩ :=
    Client.exists_deed hbefore hlisted
  obtain ⟨listing?, rfl, hentries⟩ := hlist.of_listed
  obtain ⟨response?, rfl, hdata⟩ := hfetch.of_fetched
  obtain ⟨status, data', rfl, hwhole⟩ : ∃ status data', response? = some ⟨status, .whole data'⟩ ∧
      contentAnswer url response? = .ok data' := by
    rcases contentAnswer_cases url response? with h | h
    · exact h
    · rw [h] at hdata
      cases hdata
  obtain rfl : data = data' := by
    rw [hwhole] at hdata
    exact Except.ok.inj hdata
  refine ⟨earlier', source, listing?, entries, between', status, after', by simp, hentries.symm, he,
    ?_, ?_⟩
  · intro url response? hmem
    obtain ⟨event, hevent, hmade⟩ := Client.exists_event_of_mem hbetween' hmem
    have hnot := hbetween event hevent
    rw [hmade.eq_listed] at hnot
    cases hnot
  · intro request response? hmem
    obtain ⟨event, hevent, hmade⟩ := Client.exists_event_of_mem hsince hmem
    have hstored := hafter event hevent
    cases hmade <;> cases hstored

/-- An undertaking refuses nothing by itself but a directory that lies too deep. -/
theorem Undertaking.planned_depth (bound : Nat) (u : Undertaking) :
    Planned (fun fault => ∃ url depth limit, fault = .tooDeep url depth limit) (u.job bound) := by
  cases u with
  | refresh url targets =>
    simp only [job, map_eq_pure_bind]
    exact (planned_refresh url targets).bind fun report => planned_pure (some report)
  | replicate url options =>
    apply (planned_replicate options bound url).weaken
    intro fault h
    cases fault with
    | tooDeep url depth limit => exact ⟨url, depth, limit, rfl⟩
    | network | status | listing | invalidToken | invalidUrl | file => cases h

/-- Only a listing can be answered so. -/
def Fault.IsOfListing : Fault → Prop
  | status _ _ | listing _ _ => True
  | network _ | invalidToken | invalidUrl _ _ | file _ _ | tooDeep _ _ _ => False

/-- No listing keeps a synchronisation from its job. -/
theorem Settings.undertaking_error {s : Settings} {t : FileTree} {mode : Mode} {fault : Fault}
    (h : s.undertaking t mode = .error fault) : ¬ fault.IsOfListing := by
  have hfirst := faultOf?_undertaking s t mode
  rw [h] at hfirst
  have hmem : fault ∈ s.obstacles t mode := List.mem_of_head? hfirst.symm
  rcases List.mem_append.1 hmem with hmissing | hurl
  · cases mode with
    | processors => cases hmissing
    | decompiler =>
      obtain ⟨dir, -, hdir⟩ := List.mem_filterMap.1 hmissing
      rw [Target.collect] at hdir
      split at hdir <;> cases hdir
      exact id
  · rw [Settings.listingUrl] at hurl
    split at hurl
    · cases hurl
    · obtain rfl := List.mem_singleton.1 hurl
      exact id

theorem Call.eq_error_of_fault? (c : Call) {answer : Except Fault c.Answer} {fault : Fault}
    (h : (c.event answer).fault? = some fault) : answer = .error fault := by
  cases answer with
  | ok a =>
    rw [c.fault?_event_ok] at h
    cases h
  | error fault' =>
    rw [c.fault?_event_error] at h
    cases h
    rfl

/-- If the call is one to the store, a failure of it is one of a file. -/
def Event.FailsOnFile (event : Event) : Prop :=
  event.IsStored → ∀ fault, event.fault? = some fault → ∃ path cause, fault = .file path cause

theorem Undertaking.failsOnFile (u : Undertaking) (bound : Nat) (remote : Remote σ)
    {store : Store σ} (hstore : store.FailsOnFiles) (world : σ) :
    ∀ event ∈ (u.job bound _ remote.heard store.heard ⟨world, []⟩).2.events,
      event.FailsOnFile := by
  have hcall : ∀ c : Call, (c.perform remote.heard store.heard).Keeps
      fun s => ∀ event ∈ s.events, event.FailsOnFile := by
    intro c s hs event hevent
    rw [Call.perform_heard] at hevent
    rcases List.mem_append.1 hevent with hevent | hevent
    · exact hs event hevent
    · obtain rfl := List.mem_singleton.1 hevent
      intro hstored fault hfault
      have hanswer : (c.perform remote store s.world).1 = .error fault :=
        c.eq_error_of_fault? hfault
      cases c with
      | list | fetch => cases hstored
      | makeDirs dir => exact hstore.makeDirs dir s.world fault hanswer
      | touch path => exact hstore.touch path s.world fault hanswer
      | write path data => exact hstore.write path data s.world fault hanswer
  exact (u.planned bound).keeps hcall ⟨world, []⟩ nofun

theorem FailsFast.ends {α : Type} {own : Fault → Prop} {result : Except Fault α}
    {events before after : List Event} {event : Event} {fault : Fault}
    (h : FailsFast own result events) (hevents : events = before ++ event :: after)
    (hfault : event.fault? = some fault) : after = [] ∧ result = .error fault := by
  have hmem : event ∈ events := by simp [hevents]
  rcases h with ⟨earlier, last, fault', rfl, hnone, hlast, rfl⟩ | ⟨hnone, -⟩
  · rcases List.eq_nil_or_concat after with rfl | ⟨between, last', rfl⟩
    · have hsame := List.singleton_inj.1 (List.append_inj' hevents rfl).2
      rw [hsame, hfault] at hlast
      cases hlast
      exact ⟨rfl, rfl⟩
    · have hsplit : earlier ++ [last] = (before ++ event :: between) ++ [last'] := by
        simpa using hevents
      have hearlier : event ∈ earlier := by simp [(List.append_inj' hsplit rfl).1]
      rw [hnone event hearlier] at hfault
      cases hfault
  · rw [hnone event hmem] at hfault
    cases hfault

variable {u : Undertaking} {bound : Nat} {store : Store σ} {world : σ}

/-- **The run of an undertaking ends at the first deed that fails.** -/
theorem Undertaking.job_ends {before after : List Deed} {deed : Deed}
    (hdeeds : (u.job bound _ client.booked.remote store.booked ⟨world, []⟩).2.deeds =
      before ++ deed :: after) : ∃ event, client.Makes deed event ∧
        ∀ fault, event.fault? = some fault → after = [] ∧
          (u.job bound _ client.booked.remote store.booked ⟨world, []⟩).1 = .error fault := by
  obtain ⟨events, hrun, hmakes⟩ := (u.planned bound).booked_run client store world
  obtain ⟨before', event, after', hevents, -, hmade, hafter⟩ := Client.exists_event hmakes hdeeds
  refine ⟨event, hmade, fun fault hfault => ?_⟩
  have hfast := (u.planned bound).stopsAtFirstFault.failsFast client.booked.remote store.booked
    ⟨world, []⟩
  rw [hrun] at hfast
  obtain ⟨rfl, hresult⟩ := hfast.ends hevents hfault
  exact ⟨List.forall₂_nil_right_iff.1 hafter, hresult⟩

/-- **A failure of a listing is what the last response of the run is answered with.** -/
theorem Undertaking.exists_last_listing (hstore : store.FailsOnFiles) {fault : Fault}
    (hresult : (u.job bound _ client.booked.remote store.booked ⟨world, []⟩).1 = .error fault)
    (hlisting : fault.IsOfListing) : ∃ before url response?,
      (u.job bound _ client.booked.remote store.booked ⟨world, []⟩).2.deeds =
        before ++ [.asked (client.listingRequest url) response?] ∧
      listingAnswer url response? = .error fault := by
  obtain ⟨events, hrun, hmakes⟩ := (u.planned bound).booked_run client store world
  have hfast := (u.planned_depth bound).stopsAtFirstFault.failsFast client.booked.remote
    store.booked ⟨world, []⟩
  have hfiles := u.failsOnFile bound client.booked.remote hstore.booked ⟨world, []⟩
  rw [hrun] at hfast hfiles
  rcases hfast with ⟨before, event, fault', hevents, -, hfault, hresult'⟩ | ⟨-, hown⟩
  · obtain rfl : fault = fault' := Except.error.inj (hresult.symm.trans hresult')
    have hevents : events = before ++ [event] := hevents
    obtain ⟨before', deed, after', hdeeds, -, hmade, hafter⟩ := Client.exists_deed hmakes hevents
    obtain rfl := List.forall₂_nil_right_iff.1 hafter
    cases hmade with
    | listed url response? =>
      exact ⟨before', url, response?, hdeeds, (Call.list url).eq_error_of_fault? hfault⟩
    | fetched url response? =>
      have hanswer := (Call.fetch url).eq_error_of_fault? hfault
      rcases contentAnswer_cases url response? with ⟨_, _, -, hwhole⟩ | hbroken
      · exact absurd (hwhole.symm.trans hanswer) nofun
      · obtain rfl := Except.error.inj (hbroken.symm.trans hanswer)
        cases hlisting
    | stored hstored =>
      obtain ⟨path, cause, rfl⟩ := hfiles event (by simp [hevents]) hstored fault hfault
      cases hlisting
  · obtain ⟨url, depth, limit, rfl⟩ := hown fault hresult
    cases hlisting

/-- **What is written was answered just before**, for an entry of the listing before that. -/
theorem Undertaking.exists_supply {before after : List Deed} {path : LocalPath} {data : ByteArray}
    {answer : Except Fault Unit}
    (hdeeds : (u.job bound _ client.booked.remote store.booked ⟨world, []⟩).2.deeds =
      before ++ .stored (.wrote path data answer) :: after) :
    ∃ e url, u.Places e url path ∧ client.Answered e url data before := by
  obtain ⟨events, hrun, hmakes⟩ := (u.planned bound).booked_run client store world
  have hsupplied : AllSupplied u events := by
    have hall : AllSupplied u (u.job bound _ client.booked.remote.heard store.booked.heard
        ⟨⟨world, []⟩, []⟩).2.events := u.job_supplied bound (⟨world, []⟩ : Booked _)
    rwa [hrun] at hall
  obtain ⟨before', event, after', hevents, hbefore, hmade, -⟩ := Client.exists_event hmakes hdeeds
  cases hmade with
  | stored =>
    obtain ⟨entries, e, url, hholding, he, hplaces⟩ :=
      hsupplied before' path data answer after' hevents
    exact ⟨e, url, hplaces, answered_of_holding hbefore hholding he⟩

end

/-- **Failures and written bytes come from single responses.** A listing is answered by its response
alone: without one as by nobody, without success by the status, whatever becomes of the body, then
as by nobody if the body breaks off, and by what the body reads as otherwise. A content is the whole
body, whatever the status. So over any client and any store, in both modes and however a run ends:
a status or an unreadable listing that it fails with is that of its last request, for the listing it
names; a content without a whole body is its last request, and the run fails with the network; and
every write has the whole body of the response before it, to the request for the content of an entry
of the listing before that, at the place of the entry. To keep a book changes nothing in a run. -/
theorem synchronise_traces_responses {σ : Type} (client : Client σ) (tree : σ → FileTree)
    (store : Store σ) (bound : Nat) (s : Settings) (mode : Mode) (world : σ) :
    (∀ url world response? world',
      client.transport.send (client.listingRequest url) world = (response?, world') →
        client.remote.list url world = (listingAnswer url response?, world')) ∧
    (∀ url world response? world',
      client.transport.send (client.contentRequest url) world = (response?, world') →
        client.remote.fetch url world = (contentAnswer url response?, world')) ∧
    let run := synchronise (fun w => tree w.world) client.booked.remote store.booked bound s mode
      ⟨world, []⟩
    synchronise tree client.remote store bound s mode world = (run.1, run.2.world) ∧
    (store.FailsOnFiles →
      (∀ url code, run.1 = .error (.status url code) → ∃ before response,
        run.2.deeds = before ++ [.asked (client.listingRequest url) (some response)] ∧
        ¬ (200 ≤ code ∧ code < 300) ∧ response.status = code) ∧
      ∀ url cause, run.1 = .error (.listing url cause) → ∃ before status bytes,
        run.2.deeds =
          before ++ [.asked (client.listingRequest url) (some ⟨status, .whole bytes⟩)] ∧
        (200 ≤ status ∧ status < 300) ∧ Listing.ofBytes bytes = .error cause) ∧
    (∀ before url response? after,
      run.2.deeds = before ++ .asked (client.contentRequest url) response? :: after →
      (∃ status data, response? = some ⟨status, .whole data⟩) ∨
        after = [] ∧ run.1 = .error (.network url)) ∧
    ∀ before path data answer after,
      run.2.deeds = before ++ .stored (.wrote path data answer) :: after →
      ∃ u e url, s.undertaking (tree world) mode = .ok u ∧ u.Places e url path ∧
        client.Answered e url data before := by
  refine ⟨fun url world _ _ => client.list_run url world,
    fun url world _ _ => client.fetch_run url world, ?_⟩
  intro run
  have hplain := synchronise_run tree client.remote store bound s mode world
  have hrun : run = _ := synchronise_run (fun w : Booked σ => tree w.world) client.booked.remote
    store.booked bound s mode ⟨world, []⟩
  cases hwork : s.undertaking (tree world) mode with
  | error fault =>
    rw [hwork] at hrun hplain
    have hnot := Settings.undertaking_error hwork
    rw [hrun, hplain]
    refine ⟨rfl, fun _ => ⟨?_, ?_⟩, ?_, ?_⟩
    · rintro url code ⟨⟩
      exact absurd trivial hnot
    · rintro url cause ⟨⟩
      exact absurd trivial hnot
    · intro before url response? after h
      exact absurd h.symm (by simp)
    · intro before path data answer after h
      exact absurd h.symm (by simp)
  | ok u =>
    rw [hwork] at hrun hplain
    have hrun : run = u.job bound _ client.booked.remote store.booked ⟨world, []⟩ := hrun
    rw [hrun, hplain]
    refine ⟨(u.planned bound).booked_alike client store world, fun hstore => ⟨?_, ?_⟩, ?_, ?_⟩
    · intro url code h
      obtain ⟨before, source, response?, hdeeds, hanswer⟩ :=
        Undertaking.exists_last_listing hstore h trivial
      obtain ⟨rfl, response, rfl, hstatus, hcode⟩ := listingAnswer_eq_status hanswer
      exact ⟨before, response, hdeeds, hstatus, hcode⟩
    · intro url cause h
      obtain ⟨before, source, response?, hdeeds, hanswer⟩ :=
        Undertaking.exists_last_listing hstore h trivial
      obtain ⟨rfl, status, bytes, rfl, hstatus, hread⟩ := listingAnswer_eq_listing hanswer
      exact ⟨before, status, bytes, hdeeds, hstatus, hread⟩
    · intro before url response? after h
      obtain ⟨event, hmade, hends⟩ := Undertaking.job_ends h
      rw [hmade.eq_fetched] at hends
      rcases contentAnswer_cases url response? with ⟨status, data, hwhole, -⟩ | hbroken
      · exact .inl ⟨status, data, hwhole⟩
      · rw [hbroken] at hends
        exact .inr (hends _ rfl)
    · intro before path data answer after h
      obtain ⟨e, url, hplaces, hanswered⟩ := Undertaking.exists_supply h
      exact ⟨u, e, url, rfl, hplaces, hanswered⟩

/-- A client to somebody who answers by the URL alone, with a disk on this side. -/
def answeredClient (answer : String → Option Response) : Client (FileTree × Unit) :=
  ⟨(Transport.answering answer).besideTree, [Header.userAgent]⟩

/-- Somebody who has one file, whose content comes with a status of failure. -/
def oneOddFile (url : String) : Option Response :=
  if url = "content" then some ⟨404, .whole "new".toUTF8⟩
  else some ⟨200, .whole ("[\x7b\"name\":\"a.cc\",\"path\":\"cpp/a.cc\",\"type\":\"file\"," ++
    "\"download_url\":\"content\",\"url\":\"\"\x7d]").toUTF8⟩

/-- The content is written all the same, and a listing that breaks off fails by its status. -/
theorem synchronise_traces_responses_odd :
    let settings := { Settings.default with processors := ⟨"cpp", ⟨"out"⟩, [], none⟩ }
    let client := answeredClient oneOddFile
    let failing := answeredClient fun _ => some ⟨500, .broken⟩
    let store : Store (FileTree × Unit) := .besideRemote []
    let run := synchronise (fun w => w.world.1) client.booked.remote store.booked 2 settings
      .processors ⟨(aliasedTree, ()), []⟩
    let run' := synchronise (fun w => w.world.1) failing.booked.remote store.booked 2 settings
      .processors ⟨(aliasedTree, ()), []⟩
    let url := "https://api.github.com/repos/NationalSecurityAgency/ghidra/contents/cpp"
    store.FailsOnFiles ∧ run.1.toOption = some (some ⟨[⟨"out/a.cc"⟩], 1, 0, 0⟩) ∧
      (∃ before u e url,
        run.2.deeds = before ++ [.stored (.wrote ⟨"out/a.cc"⟩ "new".toUTF8 (.ok ()))] ∧
        settings.undertaking aliasedTree .processors = .ok u ∧ u.Places e url ⟨"out/a.cc"⟩ ∧
        client.Answered e url "new".toUTF8 before) ∧
      run'.1 = .error (.status url 500) ∧
      ∃ before response,
        run'.2.deeds = before ++ [.asked (failing.listingRequest url) (some response)] ∧
        ¬ (200 ≤ 500 ∧ 500 < 300) ∧ response.status = 500 := by
  intro settings client failing store run run' url
  have hstore : store.FailsOnFiles := Store.failsOnFiles_besideRemote []
  obtain ⟨hreport, hdeeds⟩ : run.1.toOption = some (some ⟨[⟨"out/a.cc"⟩], 1, 0, 0⟩) ∧
      run.2.deeds = run.2.deeds.dropLast ++
        [.stored (.wrote ⟨"out/a.cc"⟩ "new".toUTF8 (.ok ()))] := by decide +kernel
  have hfails : run'.1 = .error (.status url 500) := by decide +kernel
  obtain ⟨-, -, -, -, -, hwrites⟩ :=
    synchronise_traces_responses client Prod.fst store 2 settings .processors (aliasedTree, ())
  obtain ⟨-, -, -, hlistings, -⟩ :=
    synchronise_traces_responses failing Prod.fst store 2 settings .processors (aliasedTree, ())
  -- the runs are the same as written, and far too long to be compared by what they do
  with_reducible
    obtain ⟨u, e, address, hwork, hplaces, hanswered⟩ := hwrites _ _ _ _ [] hdeeds
    exact ⟨hstore, hreport, ⟨_, u, e, address, hdeeds, hwork, hplaces, hanswered⟩, hfails,
      (hlistings hstore).1 url 500 hfails⟩

end Vendoring
