import Vendoring.Proofs.Replicate.Walk

/-!
# The walk is a recursion

`replicate` keeps the directories to come on a stack. `descend` says what that amounts to, as a
recursion: nothing for an address that was visited before, a failure for one below the limit of
depth, otherwise the listing, its files, and then its directories one after the other, each with
everything below it.

**`exists_replicate_iff_exists_descent` says that the two are the same**: the same calls with the
same arguments in the same order, the same result, and the same world, for every remote side and
every store.

What carries the proof is `Simulates`: a descent through some directories, with whatever result, is
what the loop does with these directories on top of **any** stack. So the rest of the stack is
nothing but what the recursion still has to come back to, also where an address is pending at
several depths at once. The height of a recursion and the bound of a loop are different measures;
`walkOn_add` says that a bound that is large enough makes no difference.
-/

set_option autoImplicit false

namespace Vendoring

/-- What a descent hands on: the addresses it has come to, and its account. -/
structure Progress where
  visited : List String
  report : Report

/-- Nothing has been done yet. -/
def Progress.start : Progress := ⟨[], .empty⟩

/-- Goes into one address after the other, as long as there is a result. -/
def throughAll {σ : Type} (into : Progress → String → Job σ (Option Progress)) :
    List String → Progress → Job σ (Option Progress)
  | [], p => pure (some p)
  | url :: urls, p => do
    match ← into p url with
    | some p => throughAll into urls p
    | none => pure none

section

variable {σ : Type} (remote : Remote σ) (store : Store σ) (options : ReplicaOptions)

/-- Goes into a directory at a depth and into everything below it, unless it lies below a limit.
There is no result where that would take more than `height` directories, one in the other. -/
def descend : Nat → Nat → Progress → String → Job σ (Option Progress)
  | 0, _, _, _ => pure none
  | height + 1, depth, p, url =>
    if url ∈ p.visited then pure (some p)
    else
      match options.maxDepth.filter (· < depth) with
      | some limit => throw (.tooDeep url depth limit)
      | none => do
        let entries ← remote.list url
        let report ← entries.foldlM
          (fun report e => (filing options e).carryOut remote store report) p.report.countListing
        throughAll (descend height (depth + 1))
          ((entries.filter Entry.isDirectory).map Entry.listingUrl) ⟨url :: p.visited, report⟩

/-- Keeps the copy of the remote tree below a listing by recursion. -/
def replicateByDescent (height : Nat) (url : String) : Job σ (Option Report) := do
  let p? ← descend remote store options height 0 .start url
  pure (p?.map Progress.report)

/-- A walk with these directories to come. -/
def Walk.of (pending : List Pending) (p : Progress) : Walk := ⟨pending, p.visited, p.report⟩

variable {remote store options}

theorem descend_succ (height depth : Nat) (p : Progress) (url : String) (h : url ∉ p.visited) :
    descend remote store options (height + 1) depth p url =
      enter remote store options ⟨url, depth⟩ p.report >>= fun (entries, report) =>
        throughAll (descend remote store options height (depth + 1))
          ((entries.filter Entry.isDirectory).map Entry.listingUrl) ⟨url :: p.visited, report⟩ := by
  rw [descend, if_neg h]
  cases hbelow : options.maxDepth.filter (· < depth) with
  | some limit =>
    obtain ⟨hlimit, hdeep⟩ := Option.filter_eq_some_iff.1 hbelow
    rw [enter_of_not_admits hlimit (of_decide_eq_true hdeep)]
    rfl
  | none =>
    have hadmits : options.Admits ⟨url, depth⟩ := by
      intro limit hlimit
      have hdeep := Option.filter_eq_none_iff.1 hbelow limit hlimit
      exact Nat.not_lt.1 (of_decide_eq_false (Bool.eq_false_iff.2 hdeep))
    simp [enter, checkDepth_of_admits hadmits]

/-! ## The loop, with a bound that is large enough -/

/-- A walk that has come to its end within a bound ends the same way within any larger one. -/
theorem walkOn_add (result : Except Fault Report) {bound : Nat} {w : Walk} {s s' : σ}
    (h : walkOn remote store options bound w s = (result.map some, s')) (extra : Nat) :
    walkOn remote store options (bound + extra) w s = (result.map some, s') := by
  induction bound generalizing w s with
  | zero =>
    cases hp : w.pending with
    | nil =>
      rw [walkOn_of_pending_eq_nil hp] at h ⊢
      exact h
    | cons here rest =>
      rw [walkOn, hp] at h
      cases result <;> cases h
  | succ bound ih =>
    cases hp : w.pending with
    | nil =>
      rw [walkOn_of_pending_eq_nil hp] at h ⊢
      exact h
    | cons here rest =>
      rw [Nat.add_right_comm, walkOn_succ hp]
      rw [walkOn_succ hp] at h
      rcases hv : visit remote store options here { w with pending := rest } s with ⟨_ | w', s₁⟩
      · rw [Job.bind_error hv] at h ⊢
        exact h
      · rw [Job.bind_ok hv] at h ⊢
        exact ih h

/-! ## The recursion inside the loop -/

variable (remote store options) in
/-- What a descent through `stack`, with the given outcome, means for the loop: whatever else is on
the stack, the loop comes to the same outcome after some steps, and goes on with the rest from
there. A descent without a result has gone through more than `height` steps. -/
def Simulates (height : Nat) (stack : List Pending) (p : Progress) (s : σ) :
    Except Fault (Option Progress) × σ → Prop
  | (.ok (some p'), s') => ∃ steps, ∀ rest bound,
      walkOn remote store options (steps + bound) (.of (stack ++ rest) p) s =
        walkOn remote store options bound (.of rest p') s'
  | (.error fault, s') => ∃ steps, ∀ rest bound,
      walkOn remote store options (steps + bound) (.of (stack ++ rest) p) s = (.error fault, s')
  | (.ok none, _) => ∀ rest bound, bound < height →
      ∃ s', walkOn remote store options bound (.of (stack ++ rest) p) s = (.ok none, s')

section

variable {height : Nat} {here : Pending} {stack : List Pending} {p p₁ : Progress} {s s₁ : σ}
  {out : Except Fault (Option Progress) × σ} {entries : List Entry} {report : Report}

theorem simulates_nil : Simulates remote store options height [] p s (.ok (some p), s) :=
  ⟨0, fun rest bound => by rw [Nat.zero_add, List.nil_append]⟩

theorem simulates_again (h : here.url ∈ p.visited) :
    Simulates remote store options height [here] p s (.ok (some p), s) := by
  refine ⟨1, fun rest bound => ?_⟩
  rw [List.singleton_append, Nat.add_comm, walkOn_succ rfl, visit_of_mem h]
  exact Job.bind_ok rfl

theorem simulates_enter_error {fault : Fault} (h : here.url ∉ p.visited)
    (he : enter remote store options here p.report s = (.error fault, s₁)) :
    Simulates remote store options height [here] p s (.error fault, s₁) := by
  refine ⟨1, fun rest bound => ?_⟩
  rw [List.singleton_append, Nat.add_comm, walkOn_succ rfl, visit_of_not_mem h]
  exact Job.bind_error (Job.bind_error he)

/-- The first step of a loop that enters a directory puts its directories on the stack. -/
theorem walkOn_enter (h : here.url ∉ p.visited)
    (he : enter remote store options here p.report s = (.ok (entries, report), s₁))
    (rest : List Pending) (bound : Nat) :
    walkOn remote store options (bound + 1) (.of ([here] ++ rest) p) s =
      walkOn remote store options bound
        (.of (subdirectories here.depth entries ++ rest) ⟨here.url :: p.visited, report⟩) s₁ := by
  rw [List.singleton_append, walkOn_succ rfl, visit_of_not_mem h]
  exact Job.bind_ok (Job.bind_ok he)

theorem simulates_enter (h : here.url ∉ p.visited)
    (he : enter remote store options here p.report s = (.ok (entries, report), s₁))
    (hsub : Simulates remote store options height (subdirectories here.depth entries)
      ⟨here.url :: p.visited, report⟩ s₁ out) :
    Simulates remote store options (height + 1) [here] p s out := by
  obtain ⟨_ | _ | p', s'⟩ := out
  case error =>
    obtain ⟨steps, hsteps⟩ := hsub
    refine ⟨steps + 1, fun rest bound => ?_⟩
    rw [Nat.add_right_comm, walkOn_enter h he]
    exact hsteps rest bound
  case ok.none =>
    intro rest bound hbound
    cases bound with
    | zero => exact ⟨s, rfl⟩
    | succ bound =>
      obtain ⟨s'', hs''⟩ := hsub rest bound (Nat.lt_of_succ_lt_succ hbound)
      exact ⟨s'', by rw [walkOn_enter h he, hs'']⟩
  case ok.some =>
    obtain ⟨steps, hsteps⟩ := hsub
    refine ⟨steps + 1, fun rest bound => ?_⟩
    rw [Nat.add_right_comm, walkOn_enter h he]
    exact hsteps rest bound

theorem simulates_cons
    (hhere : Simulates remote store options height [here] p s (.ok (some p₁), s₁))
    (hstack : Simulates remote store options height stack p₁ s₁ out) :
    Simulates remote store options height (here :: stack) p s out := by
  obtain ⟨first, hfirst⟩ := hhere
  have hgo : ∀ rest bound, walkOn remote store options (first + bound)
      (.of (here :: stack ++ rest) p) s =
        walkOn remote store options bound (.of (stack ++ rest) p₁) s₁ :=
    fun rest bound => hfirst (stack ++ rest) bound
  obtain ⟨_ | _ | p', s'⟩ := out
  case error =>
    obtain ⟨steps, hsteps⟩ := hstack
    exact ⟨first + steps, fun rest bound => by rw [Nat.add_assoc, hgo, hsteps]⟩
  case ok.none =>
    intro rest bound hbound
    obtain ⟨s'', hs''⟩ := hstack rest bound hbound
    -- the bound may lie inside the first directory, where the loop cannot have ended either
    rcases hw : walkOn remote store options bound (.of (here :: stack ++ rest) p) s with
      ⟨fault | _ | r, s₂⟩
    · have hlater := walkOn_add (.error fault) hw first
      rw [Nat.add_comm, hgo, hs''] at hlater
      cases hlater
    · exact ⟨s₂, rfl⟩
    · have hlater := walkOn_add (.ok r) hw first
      rw [Nat.add_comm, hgo, hs''] at hlater
      cases hlater
  case ok.some =>
    obtain ⟨steps, hsteps⟩ := hstack
    exact ⟨first + steps, fun rest bound => by rw [Nat.add_assoc, hgo, hsteps]⟩

end

/-- **A descent through the directories of a listing simulates the loop**, if one into each of
them does. -/
theorem throughAll_simulates {height depth : Nat}
    (hone : ∀ p url s, Simulates remote store options height [⟨url, depth⟩] p s
      (descend remote store options height depth p url s)) (urls : List String) :
    ∀ p s, Simulates remote store options height (urls.map fun url => ⟨url, depth⟩) p s
      (throughAll (descend remote store options height depth) urls p s) := by
  induction urls with
  | nil => exact fun p s => simulates_nil
  | cons url urls ih =>
    intro p s
    have hurl := hone p url s
    rw [throughAll, List.map_cons]
    rcases hd : descend remote store options height depth p url s with ⟨fault | _ | p₁, s₁⟩ <;>
      rw [hd] at hurl
    case error =>
      rw [Job.bind_error hd]
      obtain ⟨steps, hsteps⟩ := hurl
      exact ⟨steps, fun rest bound => hsteps _ bound⟩
    case ok.none =>
      rw [Job.bind_ok hd]
      exact fun rest bound hbound => hurl _ bound hbound
    case ok.some =>
      rw [Job.bind_ok hd]
      exact simulates_cons hurl (ih p₁ s₁)

/-- **A descent into a directory simulates the loop that has it on top of its stack.** -/
theorem descend_simulates (height : Nat) : ∀ depth p url s,
    Simulates remote store options height [⟨url, depth⟩] p s
      (descend remote store options height depth p url s) := by
  induction height with
  | zero => exact fun depth p url s rest bound hbound => absurd hbound (Nat.not_lt_zero bound)
  | succ height ih =>
    intro depth p url s
    by_cases hmem : url ∈ p.visited
    · rw [descend, if_pos hmem]
      exact simulates_again hmem
    · rw [descend_succ height depth p url hmem]
      rcases he : enter remote store options ⟨url, depth⟩ p.report s with ⟨fault | found, s₁⟩
      · rw [Job.bind_error he]
        exact simulates_enter_error hmem he
      · rw [Job.bind_ok he]
        have hsub := throughAll_simulates (ih (depth + 1))
          ((found.1.filter Entry.isDirectory).map Entry.listingUrl) ⟨url :: p.visited, found.2⟩ s₁
        rw [List.map_map] at hsub
        exact simulates_enter hmem he hsub

/-! ## The whole walk -/

variable (remote store options) in
/-- What a recursion with the given outcome means for the loop from the same address: the same
outcome after some steps, or none within `height` steps. -/
def Mirrors (height : Nat) (url : String) (s : σ) : Except Fault (Option Report) × σ → Prop
  | (.ok (some report), s') => ∃ steps, ∀ bound,
      replicate remote store options (steps + bound) url s = (.ok (some report), s')
  | (.error fault, s') => ∃ steps, ∀ bound,
      replicate remote store options (steps + bound) url s = (.error fault, s')
  | (.ok none, _) => ∀ bound, bound < height →
      ∃ s', replicate remote store options bound url s = (.ok none, s')

theorem replicateByDescent_mirrors (height : Nat) (url : String) (s : σ) :
    Mirrors remote store options height url s
      (replicateByDescent remote store options height url s) := by
  have hsim : Simulates remote store options height [⟨url, 0⟩] .start s
      (descend remote store options height 0 .start url s) :=
    descend_simulates height 0 .start url s
  rw [replicateByDescent]
  rcases hd : descend remote store options height 0 .start url s with ⟨fault | _ | p, s₁⟩ <;>
    rw [hd] at hsim
  case error =>
    rw [Job.bind_error hd]
    obtain ⟨steps, hsteps⟩ := hsim
    exact ⟨steps, fun bound => hsteps [] bound⟩
  case ok.none =>
    rw [Job.bind_ok hd]
    exact fun bound hbound => hsim [] bound hbound
  case ok.some =>
    rw [Job.bind_ok hd]
    obtain ⟨steps, hsteps⟩ := hsim
    refine ⟨steps, fun bound => (hsteps [] bound).trans ?_⟩
    rw [walkOn_of_pending_eq_nil rfl]
    rfl

/-- A recursion that ends means that the loop ends in the same way. -/
theorem replicate_of_descent (result : Except Fault Report) {height : Nat} {url : String}
    {s s' : σ}
    (h : replicateByDescent remote store options height url s = (result.map some, s')) :
    ∃ steps, ∀ bound,
      replicate remote store options (steps + bound) url s = (result.map some, s') := by
  have hmirrors : Mirrors remote store options height url s _ :=
    replicateByDescent_mirrors height url s
  rw [h] at hmirrors
  cases result <;> exact hmirrors

/-- A loop that ends means that every recursion of a larger height ends in the same way. -/
theorem descent_of_replicate (result : Except Fault Report) {bound height : Nat} {url : String}
    {s s' : σ} (h : replicate remote store options bound url s = (result.map some, s'))
    (hheight : bound < height) :
    replicateByDescent remote store options height url s = (result.map some, s') := by
  have hlonger : ∀ steps,
      replicate remote store options (steps + bound) url s = (result.map some, s') := by
    intro steps
    rw [Nat.add_comm]
    exact walkOn_add result h steps
  have hmirrors : Mirrors remote store options height url s _ :=
    replicateByDescent_mirrors height url s
  rcases hd : replicateByDescent remote store options height url s with ⟨fault | _ | r, s''⟩ <;>
    rw [hd] at hmirrors
  case error =>
    obtain ⟨steps, hsteps⟩ := hmirrors
    rw [← hlonger steps, hsteps bound]
  case ok.none =>
    -- the loop has ended within a bound below the height, which such a recursion rules out
    obtain ⟨s₁, hnone⟩ := hmirrors bound hheight
    rw [h] at hnone
    cases result <;> cases hnone
  case ok.some =>
    obtain ⟨steps, hsteps⟩ := hmirrors
    rw [← hlonger steps, hsteps bound]

end

/-- **The walk with a stack and the recursion are the same walk.** For every remote side and every
store, whatever their calls answer and wherever they fail, the loop comes to an end with a result,
a world and a sequence of calls exactly if the recursion does, from some height on. -/
theorem exists_replicate_iff_exists_descent {σ : Type} (remote : Remote σ) (store : Store σ)
    (options : ReplicaOptions) (url : String) (world : σ) (result : Except Fault Report)
    (final : Traced σ) :
    (∃ bound, replicate remote.traced store.traced options bound url ⟨world, []⟩ =
      (result.map some, final)) ↔
    ∃ height, ∀ extra, replicateByDescent remote.traced store.traced options (height + extra) url
      ⟨world, []⟩ = (result.map some, final) := by
  constructor
  · rintro ⟨bound, h⟩
    exact ⟨bound + 1, fun extra => descent_of_replicate result h (by omega)⟩
  · rintro ⟨height, h⟩
    obtain ⟨steps, hsteps⟩ := replicate_of_descent result (h 0)
    exact ⟨steps + 0, hsteps 0⟩

end Vendoring
