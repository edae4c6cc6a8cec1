import Mathlib.Data.Finset.Card
import Vendoring.Proofs.Replicate.Filing

/-!
# What holds along a walk

A walk is a sequence of visits, and a visit either finds a directory that it knows (`visit_of_mem`)
or enters it (`visit_of_not_mem`). Six principles take a fact about one visit to the whole walk,
however many directories it comes to:

* `replicate_keeps`, for what no call destroys: it holds at **every point** of a run, whether that
  ends well, ends badly or does not end within its bound;
* `replicate_meets`, for what holds between two files, and for what a failure leaves of it;
* `replicate_lockstep`, for two walks whose calls are answered alike;
* `walkOn_stops`, for what holds between two visits, where the stack and the account are known too:
  it says where a walk stands when it stops;
* `walkOn_follows`, for a walk that goes where another one went, though with other calls;
* `exists_bound`, for the end of the walk: if all its addresses are among finitely many, it comes.
-/

set_option autoImplicit false

namespace Vendoring

/-- The limit of depth lets this directory pass. -/
def ReplicaOptions.Admits (options : ReplicaOptions) (here : Pending) : Prop :=
  ∀ limit, options.maxDepth = some limit → here.depth ≤ limit

section

variable {σ : Type} (remote : Remote σ) (store : Store σ) (options : ReplicaOptions)

/-- Reads a listing and deals with its files. -/
def enter (here : Pending) (report : Report) : Job σ (List Entry × Report) := do
  checkDepth options here
  let entries ← remote.list here.url
  let report ← entries.foldlM
    (fun report e => (filing options e).carryOut remote store report) report.countListing
  pure (entries, report)

variable {remote store options}

/-! ## One visit -/

theorem admits_of_unlimited (h : options.maxDepth = none) (here : Pending) :
    options.Admits here := by
  intro limit hlimit
  rw [h] at hlimit
  cases hlimit

theorem checkDepth_of_admits {here : Pending} (h : options.Admits here) :
    (checkDepth options here : Job σ Unit) = pure () := by
  unfold checkDepth
  split
  · next limit hlimit => exact if_neg (Nat.not_lt.2 (h limit hlimit))
  · rfl

theorem visit_of_mem {here : Pending} {w : Walk} (h : here.url ∈ w.visited) :
    visit remote store options here w = pure w := by
  simp [visit, h]

theorem visit_of_not_mem {here : Pending} {w : Walk} (h : here.url ∉ w.visited) :
    visit remote store options here w =
      enter remote store options here w.report >>= fun (entries, report) =>
        pure ⟨subdirectories here.depth entries ++ w.pending, here.url :: w.visited, report⟩ := by
  simp [visit, enter, h, keepEntry_eq]

theorem enter_of_not_admits {here : Pending} {limit : Nat} (hlimit : options.maxDepth = some limit)
    (hdeep : limit < here.depth) (report : Report) :
    enter remote store options here report = throw (.tooDeep here.url here.depth limit) := by
  have hcheck : (checkDepth options here : Job σ Unit) =
      throw (.tooDeep here.url here.depth limit) := by
    simp [checkDepth, hlimit, hdeep]
  rw [enter, hcheck]
  rfl

theorem admits_of_enter_ok {here : Pending} {report : Report} {found : List Entry × Report}
    {s s' : σ} (h : enter remote store options here report s = (.ok found, s')) :
    options.Admits here := by
  intro limit hlimit
  by_contra hdeep
  rw [enter_of_not_admits hlimit (Nat.lt_of_not_le hdeep)] at h
  cases h

/-- A visit that succeeds adds at most its own address to the visited ones. -/
theorem visited_of_visit {here : Pending} {w w' : Walk} {s s' : σ}
    (h : visit remote store options here w s = (.ok w', s')) :
    here.url ∈ w.visited ∧ w' = w ∨
      here.url ∉ w.visited ∧ w'.visited = here.url :: w.visited := by
  by_cases hmem : here.url ∈ w.visited
  · rw [visit_of_mem hmem] at h
    cases h
    exact .inl ⟨hmem, rfl⟩
  · rw [visit_of_not_mem hmem] at h
    obtain ⟨found, s₁, -, h⟩ := Job.bind_eq_ok h
    cases h
    exact .inr ⟨hmem, rfl⟩

/-! ## What every call keeps -/

section

variable {I : σ → Prop} (hlist : ∀ url, (remote.list url).Keeps I)
  (hfetch : ∀ url, (remote.fetch url).Keeps I)
  (hstore : ∀ e url path, filing options e = .kept url path →
    (store.makeDirs path.parent).Keeps I ∧ (store.touch path).Keeps I ∧
      ∀ data, (store.write path data).Keeps I)

include hfetch hstore in
theorem carryOut_keeps (report : Report) (e : Entry) :
    ((filing options e).carryOut remote store report).Keeps I := by
  cases hf : filing options e with
  | noContent => exact Job.keeps_pure _
  | excluded => exact Job.keeps_pure _
  | noPlace => exact Job.keeps_pure _
  | kept url path =>
    obtain ⟨hdirs, htouch, hwrite⟩ := hstore e url path hf
    exact hdirs.bind fun _ => htouch.bind fun _ => (hfetch url).bind fun data =>
      (hwrite data).bind fun _ => Job.keeps_pure _

theorem checkDepth_keeps (here : Pending) : (checkDepth options here : Job σ Unit).Keeps I := by
  unfold checkDepth
  split
  · split
    · exact Job.keeps_throw _
    · exact Job.keeps_pure _
  · exact Job.keeps_pure _

include hlist hfetch hstore

theorem visit_keeps (here : Pending) (w : Walk) :
    (visit remote store options here w).Keeps I := by
  by_cases hmem : here.url ∈ w.visited
  · rw [visit_of_mem hmem]
    exact Job.keeps_pure _
  · rw [visit_of_not_mem hmem]
    refine Job.Keeps.bind ?_ fun _ => Job.keeps_pure _
    refine (checkDepth_keeps here).bind fun _ => (hlist here.url).bind fun entries => ?_
    refine Job.Keeps.bind ?_ fun _ => Job.keeps_pure _
    exact Job.keeps_foldlM (fun report e _ => carryOut_keeps hfetch hstore report e) _

theorem walkOn_keeps (bound : Nat) : ∀ w, (walkOn remote store options bound w).Keeps I := by
  induction bound with
  | zero =>
    intro w
    rw [walkOn]
    split <;> exact Job.keeps_pure _
  | succ bound ih =>
    intro w
    rw [walkOn]
    split
    · exact Job.keeps_pure _
    · exact (visit_keeps hlist hfetch hstore _ _).bind ih

/-- **A run keeps what its calls keep**: listing, fetching, and the three calls to the store for the
paths that content is kept at. -/
theorem replicate_keeps (bound : Nat) (url : String) :
    (replicate remote store options bound url).Keeps I :=
  walkOn_keeps hlist hfetch hstore bound _

end

/-! ## What holds between files, and what a failure leaves -/

section

variable {I : σ → Prop} {Read : List Entry → σ → Prop} {E : Fault → σ → Prop}
  (hdeep : ∀ url depth limit s, I s → E (.tooDeep url depth limit) s)
  (hlist : ∀ url, (remote.list url).Meets I (fun entries s => I s ∧ Read entries s) E)
  (hfile : ∀ entries, ∀ e ∈ entries, ∀ report,
    ((filing options e).carryOut remote store report).Meets (fun s => I s ∧ Read entries s)
      (fun _ s => I s ∧ Read entries s) E)

include hdeep

theorem checkDepth_meets (here : Pending) :
    (checkDepth options here : Job σ Unit).Meets I (fun _ => I) E := by
  unfold checkDepth
  split
  · split
    · exact Job.meets_throw fun s hs => hdeep _ _ _ s hs
    · exact Job.meets_pure fun s hs => hs
  · exact Job.meets_pure fun s hs => hs

include hlist hfile

theorem enter_meets (here : Pending) (report : Report) :
    (enter remote store options here report).Meets I (fun _ => I) E := by
  apply (checkDepth_meets hdeep here).bind
  intro _
  apply (hlist here.url).bind
  intro entries
  let Inv : List Entry → Report → σ → Prop := fun _ _ s => I s ∧ Read entries s
  have hstep : ∀ done, ∀ e ∈ entries, ∀ report,
      ((filing options e).carryOut remote store report).Meets (Inv done report)
        (Inv (done ++ [e])) E :=
    fun _ e he report => hfile entries e he report
  apply (Job.meets_foldlM hstep [] report.countListing).bind
  intro _
  exact Job.meets_pure fun s hs => hs.1

theorem visit_meets (here : Pending) (w : Walk) :
    (visit remote store options here w).Meets I (fun _ => I) E := by
  by_cases hmem : here.url ∈ w.visited
  · rw [visit_of_mem hmem]
    exact Job.meets_pure fun s hs => hs
  · rw [visit_of_not_mem hmem]
    apply (enter_meets hdeep hlist hfile here w.report).bind
    intro _
    exact Job.meets_pure fun s hs => hs

theorem walkOn_meets (bound : Nat) :
    ∀ w, (walkOn remote store options bound w).Meets I (fun _ => I) E := by
  induction bound with
  | zero =>
    intro w
    rw [walkOn]
    split <;> exact Job.meets_pure fun s hs => hs
  | succ bound ih =>
    intro w
    rw [walkOn]
    split
    · exact Job.meets_pure fun s hs => hs
    · exact (visit_meets hdeep hlist hfile _ _).bind ih

/-- **A run meets what its listings and its files meet.** Between two files `I` holds, and while the
files of a listing are dealt with, so does what was learnt from reading it. -/
theorem replicate_meets (bound : Nat) (url : String) :
    (replicate remote store options bound url).Meets I (fun _ => I) E :=
  walkOn_meets hdeep hlist hfile bound _

end

/-! ## Two walks whose calls are answered alike -/

section

variable {τ : Type} {R : σ → τ → Prop} {Astray : σ → Prop} {remote' : Remote τ} {store' : Store τ}

theorem checkDepth_lockstep (here : Pending) :
    Job.Lockstep R Astray (checkDepth options here) (checkDepth options here) := by
  unfold checkDepth
  split
  · split
    · exact Job.lockstep_throw _
    · exact Job.lockstep_pure _
  · exact Job.lockstep_pure _

variable (hlist : ∀ url, Job.Lockstep R Astray (remote.list url) (remote'.list url))
  (hfetch : ∀ url, Job.Lockstep R Astray (remote.fetch url) (remote'.fetch url))
  (hdirs : ∀ dir, Job.Lockstep R Astray (store.makeDirs dir) (store'.makeDirs dir))
  (htouch : ∀ path, Job.Lockstep R Astray (store.touch path) (store'.touch path))
  (hwrite : ∀ path data, Job.Lockstep R Astray (store.write path data) (store'.write path data))

include hfetch hdirs htouch hwrite

theorem carryOut_lockstep (report : Report) (f : Filing) :
    Job.Lockstep R Astray (f.carryOut remote store report) (f.carryOut remote' store' report) := by
  cases f with
  | noContent => exact Job.lockstep_pure _
  | excluded => exact Job.lockstep_pure _
  | noPlace => exact Job.lockstep_pure _
  | kept url path =>
    apply (hdirs path.parent).bind
    intro _
    apply (htouch path).bind
    intro _
    apply (hfetch url).bind
    intro content
    apply (hwrite path content).bind
    intro _
    exact Job.lockstep_pure _

include hlist

theorem visit_lockstep (here : Pending) (w : Walk) :
    Job.Lockstep R Astray (visit remote store options here w)
      (visit remote' store' options here w) := by
  by_cases hmem : here.url ∈ w.visited
  · rw [visit_of_mem hmem, visit_of_mem hmem]
    exact Job.lockstep_pure _
  · rw [visit_of_not_mem hmem, visit_of_not_mem hmem]
    refine Job.Lockstep.bind ?_ fun _ => Job.lockstep_pure _
    apply (checkDepth_lockstep here).bind
    intro _
    apply (hlist here.url).bind
    intro entries
    refine Job.Lockstep.bind ?_ fun _ => Job.lockstep_pure _
    apply Job.lockstep_foldlM
    intro report e _
    exact carryOut_lockstep hfetch hdirs htouch hwrite report (filing options e)

theorem walkOn_lockstep (bound : Nat) : ∀ w,
    Job.Lockstep R Astray (walkOn remote store options bound w)
      (walkOn remote' store' options bound w) := by
  induction bound with
  | zero =>
    intro w
    rw [walkOn, walkOn]
    split <;> exact Job.lockstep_pure _
  | succ bound ih =>
    intro w
    rw [walkOn, walkOn]
    split
    · exact Job.lockstep_pure _
    · exact (visit_lockstep hlist hfetch hdirs htouch hwrite _ _).bind ih

/-- **Two runs whose calls go in lockstep go in lockstep themselves.** -/
theorem replicate_lockstep (bound : Nat) (url : String) :
    Job.Lockstep R Astray (replicate remote store options bound url)
      (replicate remote' store' options bound url) :=
  walkOn_lockstep hlist hfetch hdirs htouch hwrite bound _

end

/-! ## What holds between visits -/

variable (remote store options) in
/-- Where a walk stands when it stops: at the end of its stack, at a visit that fails, or with
something left on its stack. -/
def Stops (I : Walk → σ → Prop) : Except Fault (Option Report) × σ → Prop
  | (.ok (some report), s') => ∃ w, I w s' ∧ w.pending = [] ∧ w.report = report
  | (.error fault, s') => ∃ w s here rest, I w s ∧ w.pending = here :: rest ∧
      visit remote store options here { w with pending := rest } s = (.error fault, s')
  | (.ok none, s') => ∃ w, I w s' ∧ w.pending ≠ []

variable (remote store options) in
/-- What holds of a walk and its world still holds after any visit that succeeds. -/
def VisitsKeep (I : Walk → σ → Prop) : Prop :=
  ∀ ⦃here rest w s w' s'⦄, I w s → w.pending = here :: rest →
    visit remote store options here { w with pending := rest } s = (.ok w', s') → I w' s'

theorem walkOn_of_pending_eq_nil {w : Walk} (h : w.pending = []) (bound : Nat) :
    walkOn remote store options bound w = pure (some w.report) := by
  rw [walkOn, h]

theorem walkOn_succ {here : Pending} {rest : List Pending} {w : Walk}
    (h : w.pending = here :: rest) (bound : Nat) :
    walkOn remote store options (bound + 1) w =
      visit remote store options here { w with pending := rest } >>=
        walkOn remote store options bound := by
  rw [walkOn, h]

/-- **What the visits keep holds where the walk stops.** -/
theorem walkOn_stops {I : Walk → σ → Prop} (hI : VisitsKeep remote store options I) (bound : Nat) :
    ∀ {w s}, I w s → Stops remote store options I (walkOn remote store options bound w s) := by
  induction bound with
  | zero =>
    intro w s hw
    cases hp : w.pending with
    | nil =>
      rw [walkOn_of_pending_eq_nil hp]
      exact ⟨w, hw, hp, rfl⟩
    | cons here rest =>
      rw [walkOn, hp]
      exact ⟨w, hw, by simp [hp]⟩
  | succ bound ih =>
    intro w s hw
    cases hp : w.pending with
    | nil =>
      rw [walkOn_of_pending_eq_nil hp]
      exact ⟨w, hw, hp, rfl⟩
    | cons here rest =>
      rw [walkOn_succ hp]
      rcases hv : visit remote store options here { w with pending := rest } s with ⟨_ | w', s'⟩
      · rw [Job.bind_error hv]
        exact ⟨w, s, here, rest, hw, hp, hv⟩
      · rw [Job.bind_ok hv]
        exact ih (hI hw hp hv)

/-! ## Two walks that go the same way -/

/-- **Where each visit can be followed, so can the whole walk**, to where the first one ended. -/
theorem walkOn_follows {τ : Type} {remote' : Remote τ} {store' : Store τ}
    {options' : ReplicaOptions} {R : Walk → σ → Walk → τ → Prop}
    (hpending : ∀ w s w' s', R w s w' s' → w'.pending = w.pending)
    (hvisit : ∀ here rest w s w' s', R w s w' s' → w.pending = here :: rest →
      ∀ w₁ s₁, visit remote store options here { w with pending := rest } s = (.ok w₁, s₁) →
        ∃ w₁' s₁', visit remote' store' options' here { w' with pending := rest } s' =
          (.ok w₁', s₁') ∧ R w₁ s₁ w₁' s₁')
    (bound : Nat) : ∀ {w s w' s'}, R w s w' s' → ∀ {report final},
      walkOn remote store options bound w s = (.ok (some report), final) →
      ∃ v v' final', R v final v' final' ∧ v.report = report ∧
        walkOn remote' store' options' bound w' s' = (.ok (some v'.report), final') := by
  induction bound with
  | zero =>
    intro w s w' s' hR report final hrun
    have hpending' := hpending _ _ _ _ hR
    cases hp : w.pending with
    | nil =>
      rw [walkOn_of_pending_eq_nil hp] at hrun
      cases hrun
      rw [hp] at hpending'
      exact ⟨w, w', s', hR, rfl, congrFun (walkOn_of_pending_eq_nil hpending' 0) s'⟩
    | cons here rest =>
      rw [walkOn, hp] at hrun
      cases hrun
  | succ bound ih =>
    intro w s w' s' hR report final hrun
    have hpending' := hpending _ _ _ _ hR
    cases hp : w.pending with
    | nil =>
      rw [walkOn_of_pending_eq_nil hp] at hrun
      cases hrun
      rw [hp] at hpending'
      exact ⟨w, w', s', hR, rfl, congrFun (walkOn_of_pending_eq_nil hpending' (bound + 1)) s'⟩
    | cons here rest =>
      rw [walkOn_succ hp] at hrun
      obtain ⟨w₁, s₁, hv, hrun⟩ := Job.bind_eq_ok hrun
      obtain ⟨w₁', s₁', hv', hR₁⟩ := hvisit here rest w s w' s' hR hp w₁ s₁ hv
      rw [walkOn_succ (hpending'.trans hp), Job.bind_ok hv']
      exact ih hR₁ hrun

/-! ## The end of a walk -/

theorem card_sdiff_visited_lt {urls : Finset String} {visited : List String} {url : String}
    (hmem : url ∈ urls) (hnew : url ∉ visited) :
    (urls \ (url :: visited).toFinset).card < (urls \ visited.toFinset).card := by
  apply Finset.card_lt_card
  refine ⟨fun x hx => ?_, fun hsub => ?_⟩
  · simp only [Finset.mem_sdiff, List.mem_toFinset, List.mem_cons, not_or] at hx ⊢
    exact ⟨hx.1, hx.2.2⟩
  · have hx := hsub (Finset.mem_sdiff.2 ⟨hmem, by simpa using hnew⟩)
    simp at hx

/-- **A walk whose addresses are among finitely many comes to an end.** Each visit enters one of the
addresses that are left, or it takes a known one off the stack and adds nothing to it. -/
theorem exists_bound {I : Walk → σ → Prop} (hI : VisitsKeep remote store options I)
    {urls : Finset String} (hurls : ∀ w s, I w s → ∀ here ∈ w.pending, here.url ∈ urls) :
    ∀ {w s}, I w s → ∃ bound, (walkOn remote store options bound w s).1 ≠ .ok none := by
  intro w s hw
  -- first by the number of addresses that are left, then by the stack
  induction hleft : (urls \ w.visited.toFinset).card using Nat.strongRecOn generalizing w s with
  | ind left ihLeft =>
    induction hstack : w.pending generalizing w s with
    | nil => exact ⟨0, by rw [walkOn_of_pending_eq_nil hstack]; simp⟩
    | cons here rest ihStack =>
      rcases hv : visit remote store options here { w with pending := rest } s with ⟨_ | w', s'⟩
      · exact ⟨1, by rw [walkOn_succ hstack, Job.bind_error hv]; simp⟩
      · have hw' := hI hw hstack hv
        have hnext : ∃ bound, (walkOn remote store options bound w' s').1 ≠ .ok none := by
          rcases visited_of_visit hv with ⟨-, rfl⟩ | ⟨hnew, hvisited⟩
          · exact ihStack hw' hleft rfl
          · refine ihLeft _ ?_ hw' rfl
            rw [← hleft, hvisited]
            exact card_sdiff_visited_lt
              (hurls w s hw here (by rw [hstack]; exact List.mem_cons_self)) hnew
        obtain ⟨bound, hbound⟩ := hnext
        exact ⟨bound + 1, by rwa [walkOn_succ hstack, Job.bind_ok hv]⟩

end

end Vendoring
