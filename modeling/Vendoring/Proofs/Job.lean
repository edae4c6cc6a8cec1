import Vendoring.Job

/-!
# How jobs run

A job is a function of its world. The lemmas here say what it does step by step, so that no proof
has to unfold the monad: `Job.bind_ok` and `Job.bind_error` run a sequence forwards,
`Job.bind_eq_ok` takes one apart that is known to have succeeded.

`Job.Keeps` is the notion for everything that holds at every point of a job, **whether it succeeds
or fails**: a property of worlds that the job never destroys. A job keeps what all its parts keep,
and for recorded calls that comes down to the arguments of each single call (`Job.keeps_traced`).

`Job.Meets` is for what depends on how a job ends: it says one thing of the worlds it leaves when it
succeeds and another of those it leaves when it fails. `Job.Lockstep` is for two jobs at once.
-/

set_option autoImplicit false

namespace Vendoring

namespace Job

variable {σ α β : Type}

/-! ## Running -/

@[simp] theorem pure_run (a : α) (s : σ) : (pure a : Job σ α) s = (.ok a, s) := rfl

theorem bind_ok {job : Job σ α} {f : α → Job σ β} {s s' : σ} {a : α}
    (h : job s = (.ok a, s')) : (job >>= f) s = f a s' := by
  show (ExceptT.bindCont f (job s).1) (job s).2 = f a s'
  rw [h]
  rfl

theorem bind_error {job : Job σ α} {f : α → Job σ β} {s s' : σ} {fault : Fault}
    (h : job s = (.error fault, s')) : (job >>= f) s = (.error fault, s') := by
  show (ExceptT.bindCont f (job s).1) (job s).2 = (.error fault, s')
  rw [h]
  rfl

theorem bind_eq_ok {job : Job σ α} {f : α → Job σ β} {s s' : σ} {b : β}
    (h : (job >>= f) s = (.ok b, s')) :
    ∃ a s₁, job s = (.ok a, s₁) ∧ f a s₁ = (.ok b, s') := by
  rcases hj : job s with ⟨_ | a, s₁⟩
  case error fault =>
    rw [bind_error hj] at h
    cases h
  case ok =>
    rw [bind_ok hj] at h
    exact ⟨a, s₁, rfl, h⟩

theorem map_ok {job : Job σ α} {f : α → β} {s s' : σ} {a : α} (h : job s = (.ok a, s')) :
    (f <$> job) s = (.ok (f a), s') := by
  rw [map_eq_pure_bind, bind_ok h]
  rfl

theorem map_error {job : Job σ α} {f : α → β} {s s' : σ} {fault : Fault}
    (h : job s = (.error fault, s')) : (f <$> job) s = (.error fault, s') := by
  rw [map_eq_pure_bind, bind_error h]

/-- What is made of the result does not matter to the world. -/
theorem map_world (f : α → β) (job : Job σ α) (s : σ) : ((f <$> job) s).2 = (job s).2 := by
  rcases hj : job s with ⟨fault | a, s'⟩
  · rw [map_error hj]
  · rw [map_ok hj]

/-- An action that cannot fail, as a job. -/
theorem lift_run {action : StateM σ α} {s s' : σ} {a : α} (h : action s = (a, s')) :
    (action : Job σ α) s = (.ok a, s') := by
  show (Except.ok (action s).1, (action s).2) = _
  rw [h]

/-- Whatever comes of the job, it leaves a world with the property if it began in one. -/
def Keeps (I : σ → Prop) (job : Job σ α) : Prop := ∀ s, I s → I (job s).2

variable {I : σ → Prop}

theorem keeps_pure (a : α) : Keeps I (pure a : Job σ α) := fun _ hs => hs

theorem keeps_throw (fault : Fault) : Keeps I (throw fault : Job σ α) := fun _ hs => hs

theorem Keeps.bind {job : Job σ α} {f : α → Job σ β} (hjob : Keeps I job)
    (hf : ∀ a, Keeps I (f a)) : Keeps I (job >>= f) := by
  intro s hs
  have hs₁ := hjob s hs
  rcases hj : job s with ⟨_ | a, s₁⟩ <;> rw [hj] at hs₁
  case error fault =>
    rw [bind_error hj]
    exact hs₁
  case ok =>
    rw [bind_ok hj]
    exact hf a s₁ hs₁

theorem keeps_foldlM {f : β → α → Job σ β} {as : List α} (hf : ∀ b, ∀ a ∈ as, Keeps I (f b a)) :
    ∀ b, Keeps I (as.foldlM f b) := by
  induction as with
  | nil => exact keeps_pure
  | cons a as ih =>
    intro b
    rw [List.foldlM_cons]
    exact (hf b a List.mem_cons_self).bind
      (ih fun b' a' ha' => hf b' a' (List.mem_cons_of_mem a ha'))

/-- **A recorded call keeps a property of all calls** when it has the property itself. -/
theorem keeps_traced {P : Call → Prop} {call : Call} (job : Job σ α) (h : P call) :
    Keeps (fun s : Traced σ => ∀ c ∈ s.calls, P c) (job.traced call) := by
  intro s hs c hc
  rcases List.mem_append.1 hc with hc | hc
  · exact hs c hc
  · rw [List.mem_singleton.1 hc]
    exact h

/-! ## What a job establishes

Beside what is kept in any case there is what holds because the job did its work: where `I` held and
the job succeeds, `J` holds. It is enough that one part of the job sees to it and the later ones
keep it. -/

/-- A job that succeeds leaves a world with `J` if it began in one with `I`. -/
def Establishes (I J : σ → Prop) (job : Job σ α) : Prop :=
  ∀ ⦃s⦄, I s → ∀ ⦃a s'⦄, job s = (.ok a, s') → J s'

variable {J : σ → Prop}

theorem Keeps.of_eq {job : Job σ α} (h : Keeps I job) {s s' : σ} {result : Except Fault α}
    (hs : I s) (hjob : job s = (result, s')) : I s' := by
  have hs' := h s hs
  rwa [hjob] at hs'

theorem Establishes.bind_keeps {job : Job σ α} {f : α → Job σ β} (hjob : Establishes I J job)
    (hf : ∀ a, Keeps J (f a)) : Establishes I J (job >>= f) := by
  intro s hs b s' h
  obtain ⟨a, s₁, h₁, h₂⟩ := bind_eq_ok h
  exact (hf a).of_eq (hjob hs h₁) h₂

theorem Keeps.bind_establishes {job : Job σ α} {f : α → Job σ β} (hjob : Keeps I job)
    (hf : ∀ a, Establishes I J (f a)) : Establishes I J (job >>= f) := by
  intro s hs b s' h
  obtain ⟨a, s₁, h₁, h₂⟩ := bind_eq_ok h
  exact hf a (hjob.of_eq hs h₁) h₂

theorem establishes_foldlM {f : β → α → Job σ β} {as : List α} {a : α} (ha : a ∈ as)
    (hI : ∀ b, ∀ a ∈ as, Keeps I (f b a)) (hJ : ∀ b, ∀ a ∈ as, Keeps J (f b a))
    (h : ∀ b, Establishes I J (f b a)) : ∀ b, Establishes I J (as.foldlM f b) := by
  induction as with
  | nil => cases ha
  | cons first as ih =>
    have hI' : ∀ b, ∀ a ∈ as, Keeps I (f b a) := fun b a ha => hI b a (.tail _ ha)
    have hJ' : ∀ b, ∀ a ∈ as, Keeps J (f b a) := fun b a ha => hJ b a (.tail _ ha)
    intro b
    rw [List.foldlM_cons]
    rcases List.mem_cons.1 ha with rfl | ha
    · exact (h b).bind_keeps (keeps_foldlM hJ')
    · exact (hI b first (.head _)).bind_establishes (ih ha hI' hJ')

/-! ## What a job does in either case -/

/-- From a world with `P` the job succeeds as `Q` says, or it fails as `E` says. -/
def Meets (P : σ → Prop) (Q : α → σ → Prop) (E : Fault → σ → Prop) (job : Job σ α) : Prop :=
  ∀ s, P s →
    match job s with
    | (.ok a, s') => Q a s'
    | (.error fault, s') => E fault s'

section

variable {P : σ → Prop} {Q : α → σ → Prop} {E : Fault → σ → Prop}

theorem meets_pure {a : α} (h : ∀ s, P s → Q a s) : Meets P Q E (pure a : Job σ α) := h

theorem meets_throw {fault : Fault} (h : ∀ s, P s → E fault s) :
    Meets P Q E (throw fault : Job σ α) := h

theorem Meets.bind {R : β → σ → Prop} {job : Job σ α} {f : α → Job σ β} (hjob : Meets P Q E job)
    (hf : ∀ a, Meets (Q a) R E (f a)) : Meets P R E (job >>= f) := by
  intro s hs
  have hs₁ := hjob s hs
  rcases hj : job s with ⟨_ | a, s₁⟩ <;> rw [hj] at hs₁
  case error fault =>
    rw [bind_error hj]
    exact hs₁
  case ok =>
    rw [bind_ok hj]
    exact hf a s₁ hs₁

theorem Meets.mono {P' : σ → Prop} {Q' : α → σ → Prop} {E' : Fault → σ → Prop} {job : Job σ α}
    (h : Meets P Q E job) (hP : ∀ s, P' s → P s) (hQ : ∀ a s, Q a s → Q' a s)
    (hE : ∀ fault s, E fault s → E' fault s) : Meets P' Q' E' job := by
  intro s hs
  have hs' := h s (hP s hs)
  rcases hj : job s with ⟨fault | a, s'⟩ <;> rw [hj] at hs'
  · exact hE fault s' hs'
  · exact hQ a s' hs'

theorem Meets.and {P' : σ → Prop} {Q' : α → σ → Prop} {E' : Fault → σ → Prop} {job : Job σ α}
    (h : Meets P Q E job) (h' : Meets P' Q' E' job) :
    Meets (fun s => P s ∧ P' s) (fun a s => Q a s ∧ Q' a s) (fun fault s => E fault s ∧ E' fault s)
      job := by
  rintro s ⟨hs, hs'⟩
  have h₁ := h s hs
  have h₂ := h' s hs'
  rcases hj : job s with ⟨fault | a, s'⟩ <;> rw [hj] at h₁ h₂ <;> exact ⟨h₁, h₂⟩

theorem Keeps.meets {I : σ → Prop} {job : Job σ α} (h : Keeps I job) :
    Meets I (fun _ => I) (fun _ => I) job := by
  intro s hs
  have hs' := h s hs
  rcases hj : job s with ⟨fault | a, s'⟩ <;> rw [hj] at hs' <;> exact hs'

/-- What a job meets from every single world with `P`, it meets from `P`. -/
theorem meets_of_each {job : Job σ α} (h : ∀ s₀, P s₀ → Meets (· = s₀) Q E job) : Meets P Q E job :=
  fun s hs => h s hs s rfl

theorem Meets.ok {job : Job σ α} (h : Meets P Q E job) {s s' : σ} {a : α} (hs : P s)
    (hjob : job s = (.ok a, s')) : Q a s' := by
  have hs' := h s hs
  rwa [hjob] at hs'

theorem Meets.error {job : Job σ α} (h : Meets P Q E job) {s s' : σ} {fault : Fault} (hs : P s)
    (hjob : job s = (.error fault, s')) : E fault s' := by
  have hs' := h s hs
  rwa [hjob] at hs'

/-- The rule for a fold: its invariant knows which elements are done. -/
theorem meets_foldlM {f : β → α → Job σ β} {Inv : List α → β → σ → Prop} {as : List α}
    (h : ∀ done, ∀ a ∈ as, ∀ b, Meets (Inv done b) (Inv (done ++ [a])) E (f b a)) :
    ∀ done b, Meets (Inv done b) (Inv (done ++ as)) E (as.foldlM f b) := by
  induction as with
  | nil =>
    intro done b
    rw [List.append_nil]
    exact meets_pure fun s hs => hs
  | cons a as ih =>
    intro done b
    rw [List.foldlM_cons, List.append_cons]
    apply (h done a List.mem_cons_self b).bind
    exact ih (fun done' a' ha' => h done' a' (List.mem_cons_of_mem a ha')) _

end

/-! ## Two jobs in lockstep

Two worlds that are related give the same answers and stay related, call by call, unless the first
one goes astray, from where it never comes back. So two whole jobs that make the same calls end
alike. -/

/-- The two jobs give the same result and keep `R`, unless the first one goes `Astray`. -/
structure Lockstep {τ : Type} (R : σ → τ → Prop) (Astray : σ → Prop) (job : Job σ α)
    (job' : Job τ α) : Prop where
  keeps : job.Keeps Astray
  together : ∀ s t, R s t →
    Astray (job s).2 ∨ (job' t).1 = (job s).1 ∧ R (job s).2 (job' t).2

section

variable {τ : Type} {R : σ → τ → Prop} {Astray : σ → Prop}

theorem lockstep_pure (a : α) : Lockstep R Astray (pure a : Job σ α) (pure a) where
  keeps := keeps_pure a
  together _ _ h := .inr ⟨rfl, h⟩

theorem lockstep_throw (fault : Fault) :
    Lockstep R Astray (throw fault : Job σ α) (throw fault) where
  keeps := keeps_throw fault
  together _ _ h := .inr ⟨rfl, h⟩

theorem Lockstep.bind {job : Job σ α} {job' : Job τ α} {f : α → Job σ β} {f' : α → Job τ β}
    (hjob : Lockstep R Astray job job') (hf : ∀ a, Lockstep R Astray (f a) (f' a)) :
    Lockstep R Astray (job >>= f) (job' >>= f') where
  keeps := hjob.keeps.bind fun a => (hf a).keeps
  together := by
    intro s t h
    rcases hj : job s with ⟨result, s₁⟩
    rcases hj' : job' t with ⟨result', t₁⟩
    have h₁ := hjob.together s t h
    rw [hj, hj'] at h₁
    rcases h₁ with hastray | ⟨heq, h₁⟩
    · -- astray after the first part, and so after the second
      left
      cases result with
      | error fault =>
        rw [bind_error hj]
        exact hastray
      | ok a =>
        rw [bind_ok hj]
        exact (hf a).keeps s₁ hastray
    · obtain rfl : result' = result := heq
      cases result' with
      | error fault =>
        rw [bind_error hj, bind_error hj']
        exact .inr ⟨rfl, h₁⟩
      | ok a =>
        rw [bind_ok hj, bind_ok hj']
        exact (hf a).together s₁ t₁ h₁

theorem lockstep_foldlM {f : β → α → Job σ β} {f' : β → α → Job τ β} {as : List α}
    (h : ∀ b, ∀ a ∈ as, Lockstep R Astray (f b a) (f' b a)) :
    ∀ b, Lockstep R Astray (as.foldlM f b) (as.foldlM f' b) := by
  induction as with
  | nil => exact lockstep_pure
  | cons a as ih =>
    intro b
    rw [List.foldlM_cons, List.foldlM_cons]
    apply (h b a List.mem_cons_self).bind
    exact ih fun b' a' ha' => h b' a' (List.mem_cons_of_mem a ha')

end

theorem lockstep_traced (call : Call) (job : Job σ α) :
    Lockstep (fun (s : Traced σ) world => world = s.world) (fun _ => False) (job.traced call) job
    where
  keeps _ h := h
  together s world h := by
    subst h
    exact .inr ⟨rfl, rfl⟩

end Job

end Vendoring
