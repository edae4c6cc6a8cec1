import Mathlib.Tactic.Choose
import Vendoring.Proofs.Transcript

/-!
# Jobs as plans of calls

A job that reaches the world only through a remote side and a store is a **plan**: a result, a
refusal of its own, or a call with a plan for every answer that is not a failure. What runs in the
world is then fixed by the plan and the answers, and a failure has no plan behind it.

Four facts about every job that has a plan follow, whatever the remote side and the store are:

* `Plan.failsFast`: a call that fails is the last one, and its failure is the result;
* `Plan.agree_or_part`: two runs of one plan, in two worlds, make the same calls up to the first
  one that is answered differently;
* `Planned.keeps` and `Planned.lockstep`: what every single call keeps, the job keeps, and where all
  calls go in lockstep, the job does.

`Planned` says that a job has a plan, the same one in all worlds. Its rules follow the ways in which
jobs are put together, so no job is written twice.
-/

set_option autoImplicit false

namespace Vendoring

/-! ## Calls and their answers -/

/-- What a call answers when it succeeds. -/
def Call.Answer : Call → Type
  | list _ => List Entry
  | fetch _ => ByteArray
  | makeDirs _ | touch _ | write _ _ => Unit

def Call.perform {σ : Type} (remote : Remote σ) (store : Store σ) :
    (call : Call) → Job σ call.Answer
  | list url => remote.list url
  | fetch url => remote.fetch url
  | makeDirs dir => store.makeDirs dir
  | touch path => store.touch path
  | write path data => store.write path data

def Call.event : (call : Call) → Except Fault call.Answer → Event
  | list url => .listed url
  | fetch url => .fetched url
  | makeDirs dir => .madeDirs dir
  | touch path => .touched path
  | write path data => .wrote path data

/-- The call, without its answer. -/
def Event.call : Event → Call
  | listed url _ => .list url
  | fetched url _ => .fetch url
  | madeDirs dir _ => .makeDirs dir
  | touched path _ => .touch path
  | wrote path data _ => .write path data

@[simp] theorem Call.call_event (call : Call) (answer : Except Fault call.Answer) :
    (call.event answer).call = call := by
  cases call <;> rfl

@[simp] theorem Call.fault?_event_error (call : Call) (fault : Fault) :
    (call.event (.error fault)).fault? = some fault := by
  cases call <;> rfl

@[simp] theorem Call.fault?_event_ok (call : Call) (a : call.Answer) :
    (call.event (.ok a)).fault? = none := by
  cases call <;> rfl

theorem Call.event_injective {call : Call} {answer answer' : Except Fault call.Answer}
    (h : call.event answer = call.event answer') : answer = answer' := by
  cases call <;> · simp only [event] at h; injection h

theorem Call.perform_heard {σ : Type} (remote : Remote σ) (store : Store σ) (call : Call) :
    call.perform remote.heard store.heard = (call.perform remote store).heard call.event := by
  cases call <;> rfl

/-! ## Plans -/

/-- What a job does next, depending on the answers. -/
inductive Plan (α : Type) where
  | done (a : α)
  | refuse (fault : Fault)
  | call (c : Call) (next : c.Answer → Plan α)

/-- A job for every world. -/
abbrev Program (α : Type) := (σ : Type) → Remote σ → Store σ → Job σ α

namespace Plan

variable {α β : Type}

/-- Goes on with what the first plan hands over. -/
def bind (f : α → Plan β) : Plan α → Plan β
  | done a => f a
  | refuse fault => .refuse fault
  | call c next => .call c fun answer => (next answer).bind f

def run {σ : Type} (remote : Remote σ) (store : Store σ) : Plan α → Job σ α
  | done a => pure a
  | refuse fault => throw fault
  | call c next => c.perform remote store >>= fun answer => (next answer).run remote store

def RefusesOnly (own : Fault → Prop) : Plan α → Prop
  | done _ => True
  | refuse fault => own fault
  | call _ next => ∀ answer, (next answer).RefusesOnly own

theorem RefusesOnly.bind {own : Fault → Prop} {plan : Plan α} {f : α → Plan β}
    (h : plan.RefusesOnly own) (hf : ∀ a, (f a).RefusesOnly own) :
    (plan.bind f).RefusesOnly own := by
  induction plan with
  | done a => exact hf a
  | refuse fault => exact h
  | call c next ih => exact fun answer => ih answer (h answer)

theorem run_bind {σ : Type} (remote : Remote σ) (store : Store σ) (plan : Plan α)
    (f : α → Plan β) :
    (plan.bind f).run remote store = plan.run remote store >>= fun a => (f a).run remote store := by
  induction plan with
  | done a =>
    rw [bind, run, pure_bind]
  | refuse fault => rfl
  | call c next ih =>
    rw [bind, run, run, bind_assoc]
    exact congrArg _ (funext ih)

/-! ## Runs -/

section

variable {σ : Type} (remote : Remote σ) (store : Store σ)

theorem run_call_error {c : Call} {next : c.Answer → Plan α} {s : Heard σ} {fault : Fault}
    {world : σ} (h : c.perform remote store s.world = (.error fault, world)) :
    (Plan.call c next).run remote.heard store.heard s =
      (.error fault, ⟨world, s.events ++ [c.event (.error fault)]⟩) := by
  rw [run, Call.perform_heard]
  exact Job.bind_error (Job.heard_run h)

theorem run_call_ok {c : Call} {next : c.Answer → Plan α} {s : Heard σ} {a : c.Answer} {world : σ}
    (h : c.perform remote store s.world = (.ok a, world)) :
    (Plan.call c next).run remote.heard store.heard s =
      (next a).run remote.heard store.heard ⟨world, s.events ++ [c.event (.ok a)]⟩ := by
  rw [run, Call.perform_heard]
  exact Job.bind_ok (Job.heard_run h)

end

end Plan

/-- The calls end at the first that fails, with its failure as the result; or none fails, and then a
failure is one of the job's own. -/
def FailsFast {α : Type} (own : Fault → Prop) (result : Except Fault α) (events : List Event) :
    Prop :=
  (∃ before event fault, events = before ++ [event] ∧ (∀ e ∈ before, e.fault? = none) ∧
    event.fault? = some fault ∧ result = .error fault) ∨
  (∀ e ∈ events, e.fault? = none) ∧ ∀ fault, result = .error fault → own fault

theorem FailsFast.cons {α : Type} {own : Fault → Prop} {result : Except Fault α}
    {events : List Event} (h : FailsFast own result events) {first : Event}
    (hfirst : first.fault? = none) : FailsFast own result (first :: events) := by
  rcases h with ⟨before, event, fault, rfl, hbefore, hevent, hresult⟩ | ⟨hevents, hown⟩
  · exact .inl ⟨first :: before, event, fault, rfl, List.forall_mem_cons.2 ⟨hfirst, hbefore⟩,
      hevent, hresult⟩
  · exact .inr ⟨List.forall_mem_cons.2 ⟨hfirst, hevents⟩, hown⟩

/-- The transcripts are the same up to one call, which is answered differently. -/
def Part (events events' : List Event) : Prop :=
  ∃ common e e', common ++ [e] <+: events ∧ common ++ [e'] <+: events' ∧ e'.call = e.call ∧ e' ≠ e

theorem Part.cons {events events' : List Event} (h : Part events events') (first : Event) :
    Part (first :: events) (first :: events') := by
  obtain ⟨common, e, e', hevents, hevents', hcall, hne⟩ := h
  exact ⟨first :: common, e, e', List.cons_prefix_cons.2 ⟨rfl, hevents⟩,
    List.cons_prefix_cons.2 ⟨rfl, hevents'⟩, hcall, hne⟩

namespace Plan

variable {α σ τ : Type}

/-- **A plan stops at the first call that fails.** -/
theorem failsFast (remote : Remote σ) (store : Store σ) {own : Fault → Prop} {plan : Plan α}
    (hown : plan.RefusesOnly own) : ∀ s : Heard σ, ∃ more,
      (plan.run remote.heard store.heard s).2.events = s.events ++ more ∧
      FailsFast own (plan.run remote.heard store.heard s).1 more := by
  induction plan with
  | done a =>
    intro s
    exact ⟨[], (List.append_nil _).symm, .inr ⟨nofun, nofun⟩⟩
  | refuse fault =>
    intro s
    refine ⟨[], (List.append_nil _).symm, .inr ⟨nofun, ?_⟩⟩
    rintro _ ⟨⟩
    exact hown
  | call c next ih =>
    intro s
    rcases hc : c.perform remote store s.world with ⟨fault | a, world⟩
    · -- there is no plan for a failure
      rw [run_call_error remote store hc]
      exact ⟨[c.event (.error fault)], rfl, .inl ⟨[], c.event (.error fault), fault, rfl, nofun,
        c.fault?_event_error fault, rfl⟩⟩
    · rw [run_call_ok remote store hc]
      obtain ⟨more, hevents, hfast⟩ := ih a (hown a) ⟨world, s.events ++ [c.event (.ok a)]⟩
      exact ⟨c.event (.ok a) :: more, by rw [hevents, List.append_assoc, List.singleton_append],
        hfast.cons (c.fault?_event_ok a)⟩

theorem exists_more (remote : Remote σ) (store : Store σ) (plan : Plan α) (s : Heard σ) :
    ∃ more, (plan.run remote.heard store.heard s).2.events = s.events ++ more := by
  have hany : plan.RefusesOnly fun _ => True := by
    induction plan with
    | done => trivial
    | refuse => trivial
    | call c next ih => exact ih
  obtain ⟨more, hevents, -⟩ := plan.failsFast remote store hany s
  exact ⟨more, hevents⟩

theorem exists_rest (remote : Remote σ) (store : Store σ) {c : Call} (next : c.Answer → Plan α)
    {s : Heard σ} {answer : Except Fault c.Answer} {world : σ}
    (h : c.perform remote store s.world = (answer, world)) :
    ∃ rest, ((call c next).run remote.heard store.heard s).2.events =
      s.events ++ c.event answer :: rest := by
  cases answer with
  | error fault =>
    rw [run_call_error remote store h]
    exact ⟨[], rfl⟩
  | ok a =>
    rw [run_call_ok remote store h]
    obtain ⟨rest, hrest⟩ := exists_more remote store (next a) ⟨world, s.events ++ [_]⟩
    exact ⟨rest, by rw [hrest, List.append_assoc, List.singleton_append]⟩

/-- **Two runs of a plan agree until a call is answered differently**, and to the end if none is. -/
theorem agree_or_part (remote : Remote σ) (store : Store σ) (remote' : Remote τ)
    (store' : Store τ) (plan : Plan α) : ∀ (s : Heard σ) (t : Heard τ), ∃ more more',
      (plan.run remote.heard store.heard s).2.events = s.events ++ more ∧
      (plan.run remote'.heard store'.heard t).2.events = t.events ++ more' ∧
      (more' = more ∧ (plan.run remote'.heard store'.heard t).1 =
        (plan.run remote.heard store.heard s).1 ∨ Part more more') := by
  induction plan with
  | done a =>
    intro s t
    exact ⟨[], [], (List.append_nil _).symm, (List.append_nil _).symm, .inl ⟨rfl, rfl⟩⟩
  | refuse fault =>
    intro s t
    exact ⟨[], [], (List.append_nil _).symm, (List.append_nil _).symm, .inl ⟨rfl, rfl⟩⟩
  | call c next ih =>
    intro s t
    rcases hc : c.perform remote store s.world with ⟨answer, world⟩
    rcases hc' : c.perform remote' store' t.world with ⟨answer', world'⟩
    by_cases hsame : answer' = answer
    · subst hsame
      cases answer' with
      | error fault =>
        rw [run_call_error remote store hc, run_call_error remote' store' hc']
        exact ⟨[c.event (.error fault)], [c.event (.error fault)], rfl, rfl, .inl ⟨rfl, rfl⟩⟩
      | ok a =>
        rw [run_call_ok remote store hc, run_call_ok remote' store' hc']
        obtain ⟨more, more', hmore, hmore', hcases⟩ := ih a
          ⟨world, s.events ++ [c.event (.ok a)]⟩ ⟨world', t.events ++ [c.event (.ok a)]⟩
        refine ⟨c.event (.ok a) :: more, c.event (.ok a) :: more', ?_, ?_, ?_⟩
        · rw [hmore, List.append_assoc, List.singleton_append]
        · rw [hmore', List.append_assoc, List.singleton_append]
        · exact hcases.imp (fun h => ⟨by rw [h.1], h.2⟩) fun h => h.cons _
    · -- the first difference is here, and each run goes on from its own answer
      obtain ⟨rest, hrest⟩ := exists_rest remote store next hc
      obtain ⟨rest', hrest'⟩ := exists_rest remote' store' next hc'
      refine ⟨_, _, hrest, hrest', .inr ⟨[], c.event answer, c.event answer', ?_, ?_, ?_, ?_⟩⟩
      · exact List.cons_prefix_cons.2 ⟨rfl, List.nil_prefix⟩
      · exact List.cons_prefix_cons.2 ⟨rfl, List.nil_prefix⟩
      · rw [c.call_event, c.call_event]
      · exact fun heq => hsame (c.event_injective heq)

end Plan

/-! ## Jobs with a plan -/

/-- The job follows one plan in all worlds, which refuses nothing but what is its `own`. -/
def Planned {α : Type} (own : Fault → Prop) (job : Program α) : Prop :=
  ∃ plan : Plan α, plan.RefusesOnly own ∧
    ∀ (σ : Type) (remote : Remote σ) (store : Store σ), plan.run remote store = job σ remote store

section

variable {α β : Type} {own : Fault → Prop}

theorem planned_pure (a : α) : Planned own fun _ _ _ => pure a :=
  ⟨.done a, trivial, fun _ _ _ => rfl⟩

theorem planned_throw {fault : Fault} (h : own fault) :
    Planned own fun _ _ _ => (throw fault : Job _ α) :=
  ⟨.refuse fault, h, fun _ _ _ => rfl⟩

theorem planned_call (c : Call) : Planned own fun _ remote store => c.perform remote store := by
  refine ⟨.call c .done, fun _ => trivial, fun σ remote store => ?_⟩
  exact bind_pure (c.perform remote store)

theorem Planned.bind {job : Program α} {f : α → Program β} (hjob : Planned own job)
    (hf : ∀ a, Planned own (f a)) :
    Planned own fun σ remote store => job σ remote store >>= fun a => f a σ remote store := by
  obtain ⟨plan, hown, hrun⟩ := hjob
  choose next hnext hnextRun using hf
  refine ⟨plan.bind next, hown.bind hnext, fun σ remote store => ?_⟩
  rw [Plan.run_bind, hrun]
  exact congrArg _ (funext fun a => hnextRun a σ remote store)

theorem planned_foldlM {f : β → α → Program β} {as : List α}
    (h : ∀ b, ∀ a ∈ as, Planned own (f b a)) : ∀ b, Planned own fun σ remote store =>
      as.foldlM (fun b a => f b a σ remote store) b := by
  induction as with
  | nil => exact planned_pure
  | cons a as ih =>
    intro b
    simp only [List.foldlM_cons]
    apply (h b a List.mem_cons_self).bind
    exact ih fun b' a' ha' => h b' a' (List.mem_cons_of_mem a ha')

theorem Planned.weaken {own' : Fault → Prop} {job : Program α} (h : Planned own job)
    (hown : ∀ fault, own fault → own' fault) : Planned own' job := by
  obtain ⟨plan, hplan, hrun⟩ := h
  refine ⟨plan, ?_, hrun⟩
  clear hrun
  induction plan with
  | done => trivial
  | refuse fault => exact hown fault hplan
  | call c next ih => exact fun answer => ih answer (hplan answer)

end

/-! ## From calls to jobs -/

section

variable {α σ τ : Type} {own : Fault → Prop} {job : Program α} {remote : Remote σ} {store : Store σ}

theorem Plan.run_keeps {I : σ → Prop} (h : ∀ c : Call, (c.perform remote store).Keeps I)
    (plan : Plan α) : (plan.run remote store).Keeps I := by
  induction plan with
  | done a => exact Job.keeps_pure a
  | refuse fault => exact Job.keeps_throw fault
  | call c next ih => exact (h c).bind ih

theorem Plan.run_lockstep {R : σ → τ → Prop} {Astray : σ → Prop} {remote' : Remote τ}
    {store' : Store τ}
    (h : ∀ c : Call, Job.Lockstep R Astray (c.perform remote store) (c.perform remote' store'))
    (plan : Plan α) : Job.Lockstep R Astray (plan.run remote store) (plan.run remote' store') := by
  induction plan with
  | done a => exact Job.lockstep_pure a
  | refuse fault => exact Job.lockstep_throw fault
  | call c next ih => exact (h c).bind ih

/-- **What all calls keep, a job with a plan keeps.** -/
theorem Planned.keeps (hjob : Planned own job) {I : σ → Prop}
    (h : ∀ c : Call, (c.perform remote store).Keeps I) : (job σ remote store).Keeps I := by
  obtain ⟨plan, -, hrun⟩ := hjob
  rw [← hrun]
  exact plan.run_keeps h

/-- **Where all calls go in lockstep, so does a job with a plan.** -/
theorem Planned.lockstep (hjob : Planned own job) {R : σ → τ → Prop} {Astray : σ → Prop}
    {remote' : Remote τ} {store' : Store τ}
    (h : ∀ c : Call, Job.Lockstep R Astray (c.perform remote store) (c.perform remote' store')) :
    Job.Lockstep R Astray (job σ remote store) (job τ remote' store') := by
  obtain ⟨plan, -, hrun⟩ := hjob
  rw [← hrun, ← hrun]
  exact plan.run_lockstep h

/-- No call of a job that succeeds has failed. -/
theorem Planned.fault?_eq_none (hjob : Planned own job) {world : σ} {a : α} {final : Heard σ}
    (hrun : job _ remote.heard store.heard ⟨world, []⟩ = (.ok a, final)) :
    ∀ e ∈ final.events, e.fault? = none := by
  obtain ⟨plan, hown, hplan⟩ := hjob
  obtain ⟨more, hevents, hfast⟩ := plan.failsFast remote store hown ⟨world, []⟩
  rw [hplan, hrun] at hevents hfast
  obtain rfl : final.events = more := hevents
  rcases hfast with ⟨_, _, _, -, -, -, hresult⟩ | ⟨hnone, -⟩
  · cases hresult
  · exact hnone

end

end Vendoring
