import Vendoring.Proofs.Record
import Vendoring.Proofs.Replicate.Walk

/-!
# A remote side that never changes its mind

An `Upstream` answers by the address alone. Against it, and with a store that never fails, what a
walk does with a listing can be said in advance: it makes exactly the calls of its filings
(`Upstream.calls`), and it fails exactly if one of the contents cannot be had.
-/

set_option autoImplicit false

namespace Vendoring

/-- What a remote side answers, by the address alone. -/
structure Upstream where
  listing : String → Except Fault (List Entry)
  content : String → Except Fault ByteArray

namespace Upstream

/-- The upstream as a remote side, in any world. -/
def remote {σ : Type} (u : Upstream) : Remote σ where
  list url := fun s => (u.listing url, s)
  fetch url := fun s => (u.content url, s)

/-- The entries of a listing, none for one that cannot be had. -/
def entries (u : Upstream) (url : String) : List Entry :=
  match u.listing url with
  | .ok entries => entries
  | .error _ => []

/-- The content that a filing asks for can be had. -/
def Serves (u : Upstream) : Filing → Prop
  | .kept url _ => ∃ data, u.content url = .ok data
  | _ => True

/-- What a filing writes, and where. -/
def written? (u : Upstream) : Filing → Option (LocalPath × ByteArray)
  | .kept url path =>
    match u.content url with
    | .ok data => some (path, data)
    | .error _ => none
  | _ => none

/-- The calls that carry out a filing for which the content can be had. -/
def calls (u : Upstream) : Filing → List Call
  | .kept url path =>
    match u.content url with
    | .ok data => [.makeDirs path.parent, .touch path, .fetch url, .write path data]
    | .error _ => []
  | _ => []

/-- The calls of a visit to a listing. -/
def visitCalls (u : Upstream) (options : ReplicaOptions) (url : String) : List Call :=
  .list url :: (u.entries url).flatMap fun e => u.calls (filing options e)

/-- What a visit to a listing writes, and where. -/
def writes (u : Upstream) (options : ReplicaOptions) (url : String) :
    List (LocalPath × ByteArray) :=
  (u.entries url).filterMap fun e => u.written? (filing options e)

/-- The listing can be had, and so can the content of every entry that is to be kept. -/
def Ready (u : Upstream) (options : ReplicaOptions) (url : String) : Prop :=
  ∃ entries, u.listing url = .ok entries ∧ ∀ e ∈ entries, u.Serves (filing options e)

end Upstream

/-- A store whose calls all succeed. -/
structure Store.NeverFails {σ : Type} (store : Store σ) : Prop where
  makeDirs : ∀ dir s, (store.makeDirs dir s).1 = .ok ()
  touch : ∀ path s, (store.touch path s).1 = .ok ()
  write : ∀ path data s, (store.write path data s).1 = .ok ()

/-- A recorded call succeeds if the call does, and the record has one call more. -/
theorem Job.traced_ok {σ α : Type} {job : Job σ α} {s : Traced σ} {a : α}
    (h : (job s.world).1 = .ok a) (call : Call) :
    ∃ s', job.traced call s = (.ok a, s') ∧ s'.calls = s.calls ++ [call] := by
  refine ⟨⟨(job s.world).2, s.calls ++ [call]⟩, ?_, rfl⟩
  rw [← h]
  rfl

theorem Job.traced_error {σ α : Type} {job : Job σ α} {s : Traced σ} {fault : Fault}
    (h : (job s.world).1 = .error fault) (call : Call) :
    ∃ s', job.traced call s = (.error fault, s') := by
  refine ⟨⟨(job s.world).2, s.calls ++ [call]⟩, ?_⟩
  rw [← h]
  rfl

namespace Upstream

theorem serves_of_content {u : Upstream} (h : ∀ url, ∃ data, u.content url = .ok data)
    (f : Filing) : u.Serves f := by
  cases f with
  | kept url path => exact h url
  | _ => trivial

/-! ## The record of a visit -/

theorem listedIn_visitCalls (u : Upstream) (options : ReplicaOptions) (url : String) :
    listedIn (u.visitCalls options url) = [url] := by
  have hnone : ∀ f : Filing, (u.calls f).filterMap Call.listed? = [] := by
    intro f
    unfold calls
    split
    · split <;> rfl
    · rfl
  simp [listedIn, visitCalls, Call.listed?, List.filterMap_flatMap, hnone]

theorem writtenIn_calls (u : Upstream) (f : Filing) :
    writtenIn (u.calls f) = (u.written? f).toList := by
  unfold calls written?
  split
  · split <;> rfl
  · rfl

theorem writtenIn_visitCalls (u : Upstream) (options : ReplicaOptions) (url : String) :
    writtenIn (u.visitCalls options url) = u.writes options url := by
  have hlist : Call.written? (.list url) = none := rfl
  rw [visitCalls, writtenIn, List.filterMap_cons, hlist, List.filterMap_flatMap, writes,
    List.filterMap_eq_flatMap_toList]
  exact List.flatMap_congr fun e _ => u.writtenIn_calls (filing options e)

/-- The record of visits asks for the listing of each. -/
theorem listedIn_visits (u : Upstream) (options : ReplicaOptions) (urls : List String) :
    listedIn (urls.flatMap (u.visitCalls options)) = urls := by
  have hone : ∀ url, (u.visitCalls options url).filterMap Call.listed? = [url] :=
    u.listedIn_visitCalls options
  rw [listedIn, List.filterMap_flatMap]
  simp [hone]

theorem writtenIn_visits (u : Upstream) (options : ReplicaOptions) (urls : List String) :
    writtenIn (urls.flatMap (u.visitCalls options)) = urls.flatMap (u.writes options) := by
  rw [writtenIn, List.filterMap_flatMap]
  exact List.flatMap_congr fun url _ => u.writtenIn_visitCalls options url

theorem settled_calls (u : Upstream) (f : Filing) : Contents.Settled (u.calls f) := by
  intro files
  unfold calls
  split
  · split
    · exact Contents.put_put _ _ _ _
    · rfl
  · rfl

theorem settled_visitCalls (u : Upstream) (options : ReplicaOptions) (url : String) :
    Contents.Settled (u.visitCalls options url) :=
  Contents.settled_flatMap fun e _ => u.settled_calls (filing options e)

/-! ## A visit -/

section

variable {σ : Type} {u : Upstream} {store : Store σ} {options : ReplicaOptions}

theorem carryOut_ok (hstore : store.NeverFails) {f : Filing} (hf : u.Serves f) (report : Report)
    (s : Traced σ) : ∃ report' s', f.carryOut u.remote.traced store.traced report s =
      (.ok report', s') ∧ s'.calls = s.calls ++ u.calls f := by
  cases f with
  | noContent => exact ⟨_, _, rfl, (List.append_nil _).symm⟩
  | excluded => exact ⟨_, _, rfl, (List.append_nil _).symm⟩
  | noPlace => exact ⟨_, _, rfl, (List.append_nil _).symm⟩
  | kept url path =>
    obtain ⟨data, hdata⟩ := hf
    -- the four calls, each from the world that the one before it left
    obtain ⟨s₁, h₁, hc₁⟩ :=
      Job.traced_ok (hstore.makeDirs path.parent s.world) (.makeDirs path.parent)
    obtain ⟨s₂, h₂, hc₂⟩ := Job.traced_ok (hstore.touch path s₁.world) (.touch path)
    obtain ⟨s₃, h₃, hc₃⟩ := Job.traced_ok (s := s₂)
      (show (u.remote.fetch url s₂.world).1 = .ok data from hdata) (.fetch url)
    obtain ⟨s₄, h₄, hc₄⟩ := Job.traced_ok (hstore.write path data s₃.world) (.write path data)
    refine ⟨report.addUpdated [path], s₄, ?_, ?_⟩
    · exact (Job.bind_ok h₁).trans <| (Job.bind_ok h₂).trans <| (Job.bind_ok h₃).trans <|
        Job.bind_ok h₄
    · simp [hc₄, hc₃, hc₂, hc₁, calls, hdata]

theorem carryOut_error (hstore : store.NeverFails) {f : Filing} (hf : ¬ u.Serves f)
    (report : Report) (s : Traced σ) :
    ∃ fault s', f.carryOut u.remote.traced store.traced report s = (.error fault, s') := by
  cases f with
  | noContent => exact absurd trivial hf
  | excluded => exact absurd trivial hf
  | noPlace => exact absurd trivial hf
  | kept url path =>
    obtain ⟨s₁, h₁, -⟩ :=
      Job.traced_ok (hstore.makeDirs path.parent s.world) (.makeDirs path.parent)
    obtain ⟨s₂, h₂, -⟩ := Job.traced_ok (hstore.touch path s₁.world) (.touch path)
    -- the file is made already when its content turns out not to be there
    cases hdata : u.content url with
    | ok data => exact absurd ⟨data, hdata⟩ hf
    | error fault =>
      obtain ⟨s₃, h₃⟩ := Job.traced_error (s := s₂)
        (show (u.remote.fetch url s₂.world).1 = .error fault from hdata) (.fetch url)
      exact ⟨fault, s₃, (Job.bind_ok h₁).trans ((Job.bind_ok h₂).trans (Job.bind_error h₃))⟩

/-- The files of a listing, when the contents of all of them can be had. -/
theorem carryOut_all_ok (hstore : store.NeverFails) {entries : List Entry}
    (h : ∀ e ∈ entries, u.Serves (filing options e)) (report : Report) (s : Traced σ) :
    ∃ report' s', entries.foldlM (fun report e =>
        (filing options e).carryOut u.remote.traced store.traced report) report s =
      (.ok report', s') ∧
      s'.calls = s.calls ++ entries.flatMap fun e => u.calls (filing options e) := by
  induction entries generalizing report s with
  | nil => exact ⟨report, s, rfl, (List.append_nil _).symm⟩
  | cons e entries ih =>
    obtain ⟨r₁, s₁, h₁, hc₁⟩ := carryOut_ok hstore (h e List.mem_cons_self) report s
    obtain ⟨r₂, s₂, h₂, hc₂⟩ := ih (fun e' he' => h e' (List.mem_cons_of_mem e he')) r₁ s₁
    refine ⟨r₂, s₂, ?_, ?_⟩
    · rw [List.foldlM_cons, Job.bind_ok h₁, h₂]
    · rw [hc₂, hc₁, List.flatMap_cons, List.append_assoc]

/-- One content that cannot be had ends the listing. -/
theorem carryOut_all_error (hstore : store.NeverFails) {entries : List Entry} {e : Entry}
    (he : e ∈ entries) (hf : ¬ u.Serves (filing options e)) (report : Report) (s : Traced σ) :
    ∃ fault s', entries.foldlM (fun report e =>
        (filing options e).carryOut u.remote.traced store.traced report) report s =
      (.error fault, s') := by
  induction entries generalizing report s with
  | nil => cases he
  | cons first entries ih =>
    rw [List.foldlM_cons]
    by_cases hfirst : u.Serves (filing options first)
    · obtain ⟨r₁, s₁, h₁, -⟩ := carryOut_ok hstore hfirst report s
      have hmem : e ∈ entries := by
        rcases List.mem_cons.1 he with rfl | hmem
        · exact absurd hfirst hf
        · exact hmem
      rw [Job.bind_ok h₁]
      exact ih hmem r₁ s₁
    · obtain ⟨fault, s₁, h₁⟩ := carryOut_error hstore hfirst report s
      exact ⟨fault, s₁, Job.bind_error h₁⟩

/-- A visit to a listing that is ready makes its calls and hands its entries on. -/
theorem enter_ok (hstore : store.NeverFails) {here : Pending} (hadmits : options.Admits here)
    (h : u.Ready options here.url) (report : Report) (s : Traced σ) :
    ∃ report' s', enter u.remote.traced store.traced options here report s =
      (.ok (u.entries here.url, report'), s') ∧
      s'.calls = s.calls ++ u.visitCalls options here.url := by
  obtain ⟨entries, hlisting, hserves⟩ := h
  have hentries : u.entries here.url = entries := by rw [Upstream.entries, hlisting]
  obtain ⟨s₁, h₁, hc₁⟩ := Job.traced_ok (s := s)
    (show (u.remote.list here.url s.world).1 = .ok entries from hlisting) (.list here.url)
  obtain ⟨r₂, s₂, h₂, hc₂⟩ := carryOut_all_ok hstore hserves report.countListing s₁
  refine ⟨r₂, s₂, ?_, ?_⟩
  · rw [enter, checkDepth_of_admits hadmits, pure_bind, hentries]
    exact (Job.bind_ok h₁).trans (Job.bind_ok h₂)
  · rw [hc₂, hc₁, visitCalls, hentries, List.append_assoc, List.singleton_append]

/-- A visit to a listing that is not ready fails. -/
theorem enter_error (hstore : store.NeverFails) {here : Pending} (hadmits : options.Admits here)
    (h : ¬ u.Ready options here.url) (report : Report) (s : Traced σ) :
    ∃ fault s', enter u.remote.traced store.traced options here report s = (.error fault, s') := by
  rw [enter, checkDepth_of_admits hadmits, pure_bind]
  cases hlisting : u.listing here.url with
  | error fault =>
    obtain ⟨s₁, h₁⟩ := Job.traced_error (s := s)
      (show (u.remote.list here.url s.world).1 = .error fault from hlisting) (.list here.url)
    exact ⟨fault, s₁, Job.bind_error h₁⟩
  | ok entries =>
    obtain ⟨s₁, h₁, -⟩ := Job.traced_ok (s := s)
      (show (u.remote.list here.url s.world).1 = .ok entries from hlisting) (.list here.url)
    obtain ⟨e, he, hf⟩ : ∃ e ∈ entries, ¬ u.Serves (filing options e) := by
      by_contra hall
      push Not at hall
      exact h ⟨entries, hlisting, hall⟩
    obtain ⟨fault, s₂, h₂⟩ := carryOut_all_error hstore he hf report.countListing s₁
    exact ⟨fault, s₂, (Job.bind_ok h₁).trans (Job.bind_error h₂)⟩

end

end Upstream

end Vendoring
