import Vendoring.Proofs.Plan
import Vendoring.Proofs.Refresh.Writes
import Vendoring.Proofs.Replicate.Failure

/-!
# The first failure is the last call

A refresh and a walk swallow no failure, try nothing again and change no order
(`stops_at_first_fault`): a call that fails is the last one and its failure is the result. The only
failure that no call has answered is a walk's refusal of a directory that lies too deep. So if all
had been answered the same but that call had succeeded, **the run would have made the same calls up
to it**, and gone on from there.

Both jobs follow a plan, which is all that the proof needs to know of them.
-/

set_option autoImplicit false

namespace Vendoring

/-- The answers in `events'` are those of `before` as long as the calls are the same, and then
`event`'s call succeeds. -/
def Mends (before : List Event) (event : Event) (events' : List Event) : Prop :=
  (∀ done e e', done ++ [e] <+: before → done ++ [e'] <+: events' → e'.call = e.call → e' = e) ∧
  ∀ e', before ++ [e'] <+: events' → e'.call = event.call → e'.fault? = none

/-- It is enough that the second transcript goes on from `before` with a call that succeeds. -/
theorem mends_of_beginning {before events' : List Event} {event event' : Event}
    (h : before ++ [event'] <+: events') (hevent' : event'.fault? = none) :
    Mends before event events' := by
  constructor
  · intro done e e' he he' _
    have he₁ : done ++ [e] <+: events' := he.trans ((List.prefix_append _ _).trans h)
    have hsame := (List.prefix_of_prefix_length_le he' he₁ (by simp)).eq_of_length (by simp)
    exact List.singleton_inj.1 (List.append_cancel_left hsame)
  · intro e' he' _
    have hsame := (List.prefix_of_prefix_length_le he' h (by simp)).eq_of_length (by simp)
    obtain rfl : e' = event' := List.singleton_inj.1 (List.append_cancel_left hsame)
    exact hevent'

/-- In every world the job stops at the first call that fails, and up to there it makes the calls
that it makes in any other world where that call alone is answered differently, and succeeds. -/
structure StopsAtFirstFault {α : Type} (own : Fault → Prop) (job : Program α) : Prop where
  failsFast : ∀ {σ : Type} (remote : Remote σ) (store : Store σ) (world : σ),
    let run := job _ remote.heard store.heard ⟨world, []⟩
    FailsFast own run.1 run.2.events
  mended : ∀ {σ τ : Type} (remote : Remote σ) (store : Store σ) (world : σ) (remote' : Remote τ)
    (store' : Store τ) (world' : τ) (before : List Event) (event : Event),
    let run := job _ remote.heard store.heard ⟨world, []⟩
    let run' := job _ remote'.heard store'.heard ⟨world', []⟩
    run.2.events = before ++ [event] → event.fault? ≠ none → Mends before event run'.2.events →
    ∃ event' after, run'.2.events = before ++ event' :: after ∧ event'.call = event.call ∧
      event'.fault? = none

theorem Planned.stopsAtFirstFault {α : Type} {own : Fault → Prop} {job : Program α}
    (h : Planned own job) : StopsAtFirstFault own job := by
  obtain ⟨plan, hown, hrun⟩ := h
  constructor
  · intro σ remote store world run
    obtain ⟨more, hevents, hfast⟩ := plan.failsFast remote store hown ⟨world, []⟩
    rw [hrun, List.nil_append] at hevents
    rw [hrun] at hfast
    show FailsFast own run.1 run.2.events
    rwa [hevents]
  · intro σ τ remote store world remote' store' world' before event run run' hevents hfault hmends
    obtain ⟨more, more', hmore, hmore', hcases⟩ :=
      plan.agree_or_part remote store remote' store' ⟨world, []⟩ ⟨world', []⟩
    rw [hrun, List.nil_append] at hmore hmore'
    obtain rfl : run.2.events = more := hmore
    obtain rfl : run'.2.events = more' := hmore'
    rcases hcases with ⟨hsame, -⟩ | ⟨common, e, e', he, he', hcall, hne⟩
    · -- the second run cannot have been answered like the first, since its last call succeeds
      rw [hsame, hevents] at hmends
      exact absurd (hmends.2 event List.prefix_rfl rfl) hfault
    · rw [hevents, List.prefix_concat_iff] at he
      rcases he with hlast | hearlier
      · obtain ⟨rfl, hevent⟩ := List.append_inj' hlast rfl
        obtain rfl : e = event := by simpa using hevent
        obtain ⟨after, hafter⟩ := he'
        refine ⟨e', after, by simp [← hafter], hcall, ?_⟩
        exact hmends.2 e' ⟨after, hafter⟩ hcall
      · exact absurd (hmends.1 common e e' hearlier he' hcall) hne

/-- A failure is one of the job's own, or some call was answered with it. -/
theorem Planned.fault_cases {α σ : Type} {own : Fault → Prop} {job : Program α}
    (h : Planned own job) {remote : Remote σ} {store : Store σ} {s s' : Heard σ} {fault : Fault}
    (hjob : job _ remote.heard store.heard s = (.error fault, s')) :
    own fault ∨ ∃ event ∈ s'.events, event.fault? = some fault := by
  obtain ⟨plan, hown, hrun⟩ := h
  obtain ⟨more, hevents, hfast⟩ := plan.failsFast remote store hown s
  rw [hrun, hjob] at hevents hfast
  rcases hfast with ⟨before, event, fault', rfl, -, hevent, hresult⟩ | ⟨-, hrefuses⟩
  · cases hresult
    refine .inr ⟨event, ?_, hevent⟩
    rw [hevents]
    simp
  · exact .inl (hrefuses fault rfl)

/-! ## The plan of a refresh -/

section

variable {own : Fault → Prop}

theorem planned_writeAll (name : String) (content : ByteArray) (targets : List Target) :
    Planned own fun _ _ store => writeAll store name content targets := by
  induction targets with
  | nil => exact planned_pure ()
  | cons target targets ih =>
    have hwrite : Planned own fun _ _ store => store.write (target.place name) content :=
      planned_call (.write (target.place name) content)
    exact hwrite.bind fun _ => ih

theorem planned_refreshEntry (targets : List Target) (report : Report) (e : Entry) :
    Planned own fun _ remote store => refreshEntry remote store targets report e := by
  cases hurl : e.downloadUrl? with
  | none =>
    simp only [refreshEntry, hurl]
    exact planned_pure report
  | some url =>
    simp only [refreshEntry_of_url _ _ targets report hurl]
    split
    · exact planned_pure _
    · have hfetch : Planned own fun _ remote _ => remote.fetch url := planned_call (.fetch url)
      apply hfetch.bind
      intro content
      apply (planned_writeAll e.name content _).bind
      intro _
      exact planned_pure _

/-- **A refresh has a plan**, and refuses nothing by itself. -/
theorem planned_refresh (url : String) (targets : List Target) :
    Planned own fun _ remote store => refresh remote store url targets := by
  have hlist : Planned own fun _ remote _ => remote.list url := planned_call (.list url)
  apply hlist.bind
  intro entries
  exact planned_foldlM (fun report e _ => planned_refreshEntry targets report e) _

end

/-! ## The plan of a walk -/

/-- What a walk refuses by itself: a directory beyond its limit. -/
def ReplicaOptions.Refuses (options : ReplicaOptions) : Fault → Prop
  | .tooDeep _ _ limit => options.maxDepth = some limit
  | _ => False

section

variable (options : ReplicaOptions)

theorem planned_carryOut {own : Fault → Prop} (report : Report) (f : Filing) :
    Planned own fun _ remote store => f.carryOut remote store report := by
  cases f with
  | noContent | excluded | noPlace => exact planned_pure _
  | kept url path =>
    have hdirs : Planned own fun _ _ store => store.makeDirs path.parent :=
      planned_call (.makeDirs path.parent)
    have htouch : Planned own fun _ _ store => store.touch path := planned_call (.touch path)
    have hfetch : Planned own fun _ remote _ => remote.fetch url := planned_call (.fetch url)
    have hwrite : ∀ content, Planned own fun _ _ store => store.write path content :=
      fun content => planned_call (.write path content)
    apply hdirs.bind
    intro _
    apply htouch.bind
    intro _
    apply hfetch.bind
    intro content
    apply (hwrite content).bind
    intro _
    exact planned_pure _

theorem planned_checkDepth (here : Pending) :
    Planned options.Refuses fun _ _ _ => checkDepth options here := by
  simp only [checkDepth]
  split
  · next limit hlimit =>
    split
    · exact planned_throw hlimit
    · exact planned_pure ()
  · exact planned_pure ()

theorem planned_visit (here : Pending) (w : Walk) :
    Planned options.Refuses fun _ remote store => visit remote store options here w := by
  by_cases hmem : here.url ∈ w.visited
  · simp only [visit_of_mem hmem]
    exact planned_pure w
  · simp only [visit_of_not_mem hmem, enter]
    have hlist : Planned options.Refuses fun _ remote _ => remote.list here.url :=
      planned_call (.list here.url)
    refine Planned.bind ?_ fun _ => planned_pure _
    apply (planned_checkDepth options here).bind
    intro _
    apply hlist.bind
    intro entries
    refine Planned.bind ?_ fun _ => planned_pure _
    exact planned_foldlM (fun report e _ => planned_carryOut report (filing options e)) _

theorem planned_walkOn (bound : Nat) : ∀ w,
    Planned options.Refuses fun _ remote store => walkOn remote store options bound w := by
  induction bound with
  | zero =>
    intro w
    simp only [walkOn]
    split <;> exact planned_pure _
  | succ bound ih =>
    intro w
    cases hp : w.pending with
    | nil =>
      simp only [walkOn_of_pending_eq_nil hp]
      exact planned_pure _
    | cons here rest =>
      simp only [walkOn_succ hp]
      exact (planned_visit options here _).bind ih

/-- **A walk has a plan**, and refuses by itself only what lies beyond its limit. -/
theorem planned_replicate (bound : Nat) (url : String) :
    Planned options.Refuses fun _ remote store => replicate remote store options bound url :=
  planned_walkOn options bound (.from url)

end

/-- **Refreshes and walks stop at the first call that fails**, in every world, for every listing,
every store, all targets and all options. A refresh that no call fails succeeds; a walk that no call
fails comes to its end, or it refuses a directory beyond the limit of depth. -/
theorem stops_at_first_fault :
    (∀ url targets, StopsAtFirstFault (fun _ => False) fun _ remote store =>
      refresh remote store url targets) ∧
    ∀ options bound url, StopsAtFirstFault options.Refuses fun _ remote store =>
      replicate remote store options bound url :=
  ⟨fun url targets => (planned_refresh url targets).stopsAtFirstFault,
    fun options bound url => (planned_replicate options bound url).stopsAtFirstFault⟩

/-- The remote side of `halfServing`, when it has found again what it could not serve. -/
def fullyServing : Remote Unit where
  list := halfServing.list
  fetch _ := pure "new".toUTF8

/-- The calls with their answers up to the one for the content that `halfServing` has lost. -/
def servedCalls : List Event :=
  [.listed "cpp" (.ok [⟨"alias.cc", "cpp/alias.cc", .file, some "alias", ""⟩,
      ⟨"lost.cc", "cpp/sub/Lost.cc", .file, some "lost", ""⟩]),
    .madeDirs ⟨"out"⟩ (.ok ()), .touched ⟨"out/alias.cc"⟩ (.ok ()),
    .fetched "alias" (.ok "new".toUTF8), .wrote ⟨"out/alias.cc"⟩ "new".toUTF8 (.ok ()),
    .madeDirs ⟨"out/sub"⟩ (.ok ()), .touched ⟨"out/sub/lost.cc"⟩ (.ok ())]

/-- The walk ends at the lost content, and comes as far as that when it is there. -/
theorem stops_at_first_fault_halfServing :
    (replicate halfServing.heard Store.idle.heard ⟨⟨"out"⟩, [], none⟩ 1 "cpp" ⟨(), []⟩).2.events =
        servedCalls ++ [.fetched "lost" (.error (.network "lost"))] ∧
      (replicate halfServing.heard Store.idle.heard ⟨⟨"out"⟩, [], none⟩ 1 "cpp" ⟨(), []⟩).1 =
        .error (.network "lost") ∧
      ∃ event after,
        (replicate fullyServing.heard Store.idle.heard ⟨⟨"out"⟩, [], none⟩ 1 "cpp"
          ⟨(), []⟩).2.events = servedCalls ++ event :: after ∧
        event.call = .fetch "lost" ∧ event.fault? = none := by
  have hevents : (replicate halfServing.heard Store.idle.heard ⟨⟨"out"⟩, [], none⟩ 1 "cpp"
      ⟨(), []⟩).2.events = servedCalls ++ [.fetched "lost" (.error (.network "lost"))] := by
    decide +kernel
  have hbegins : servedCalls ++ [.fetched "lost" (.ok "new".toUTF8)] <+:
      (replicate fullyServing.heard Store.idle.heard ⟨⟨"out"⟩, [], none⟩ 1 "cpp"
        ⟨(), []⟩).2.events := by
    decide +kernel
  have hstops := stops_at_first_fault.2 ⟨⟨"out"⟩, [], none⟩ 1 "cpp"
  have hfast := hstops.failsFast halfServing Store.idle ()
  have hmended := hstops.mended halfServing Store.idle () fullyServing Store.idle () servedCalls
    (.fetched "lost" (.error (.network "lost")))
  refine ⟨hevents, ?_, hmended hevents nofun (mends_of_beginning hbegins rfl)⟩
  rcases hfast with ⟨before, event, fault, hall, -, hfault, hresult⟩ | ⟨hnone, -⟩
  · rw [hevents] at hall
    obtain rfl : Event.fetched "lost" (.error (.network "lost")) = event :=
      List.singleton_inj.1 (List.append_inj' hall rfl).2
    obtain rfl : Fault.network "lost" = fault := Option.some.inj hfault
    exact hresult
  · rw [hevents] at hnone
    exact absurd (hnone _ List.mem_concat_self) nofun

end Vendoring
