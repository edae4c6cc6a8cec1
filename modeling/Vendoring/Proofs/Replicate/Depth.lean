import Vendoring.Proofs.FailFast
import Vendoring.Proofs.Replicate.Ending

/-!
# What a limit of depth changes

A walk looks at its limit once for each directory, before it asks for the listing, and nothing else
that it does depends on it. So **a walk with a limit does what a walk with a larger limit does, or
with none, until it comes to a directory beyond its own** (`replicate_truncated`). What it refuses
there lies one step below the limit, in a listing that it has read. The depth of a directory is that
of the way on which the walk comes to it; what it lists at all, it lists within the limit.
-/

set_option autoImplicit false

namespace Vendoring

/-- The same options but for the limit of depth. -/
def ReplicaOptions.withDepth (options : ReplicaOptions) (limit : Option Nat) : ReplicaOptions :=
  { options with maxDepth := limit }

section

variable {σ : Type} {remote : Remote σ} {store : Store σ} {options : ReplicaOptions}

/-! ## One visit -/

/-- Where the limit lets a directory pass, there might as well be none. -/
theorem visit_of_admits {here : Pending} (h : options.Admits here) (w : Walk) :
    visit remote store options here w = visit remote store (options.withDepth none) here w := by
  have hnone : (options.withDepth none).Admits here := nofun
  unfold visit
  rw [checkDepth_of_admits h, checkDepth_of_admits hnone]
  rfl

theorem visit_of_not_admits {here : Pending} {w : Walk} {limit : Nat} (h : here.url ∉ w.visited)
    (hlimit : options.maxDepth = some limit) (hdeep : limit < here.depth) :
    visit remote store options here w = throw (.tooDeep here.url here.depth limit) := by
  rw [visit_of_not_mem h, enter_of_not_admits hlimit hdeep]
  rfl

theorem admits_of_visit_ok {here : Pending} {w w' : Walk} {s s' : σ} (h : here.url ∉ w.visited)
    (hv : visit remote store options here w s = (.ok w', s')) : options.Admits here := by
  rw [visit_of_not_mem h] at hv
  obtain ⟨found, s₁, hfound, -⟩ := Job.bind_eq_ok hv
  exact admits_of_enter_ok hfound

/-- **A visit that fails** refuses the directory and does nothing, or one of its calls fails. -/
theorem visit_error_cases {here : Pending} {w : Walk} {s s' : Heard σ} {fault : Fault}
    (hv : visit remote.heard store.heard options here w s = (.error fault, s')) :
    (∃ limit, options.maxDepth = some limit ∧ limit < here.depth ∧
        fault = .tooDeep here.url here.depth limit ∧ s' = s) ∨
      options.Admits here ∧ ∃ event ∈ s'.events, event.fault? = some fault := by
  by_cases hadmits : options.Admits here
  · -- without a limit the visit would have done the same, and it could refuse nothing
    rw [visit_of_admits hadmits] at hv
    rcases (planned_visit (options.withDepth none) here w).fault_cases hv with hown | hevent
    · cases fault <;> cases hown
    · exact .inr ⟨hadmits, hevent⟩
  · simp only [ReplicaOptions.Admits, not_forall] at hadmits
    obtain ⟨limit, hlimit, hdeep⟩ := hadmits
    have hdeep := Nat.lt_of_not_le hdeep
    rw [visit_of_not_admits (visit_error_asks hv).1 hlimit hdeep] at hv
    cases hv
    exact .inl ⟨limit, hlimit, hdeep, rfl, rfl⟩

/-! ## How deep a walk comes -/

/-- One is in the listing of the other, as far as the answers tell. -/
def Tells (events : List Event) (source url : String) : Prop :=
  ∃ entries e, .listed source (.ok entries) ∈ events ∧ e ∈ entries ∧ e.isDirectory = true ∧
    e.listingUrl = url

/-- There is a way from `root` with so many steps from a directory into one below it. -/
inductive ReachedIn (below : String → String → Prop) (root : String) : Nat → String → Prop where
  | root : ReachedIn below root 0 root
  | down {depth : Nat} {source url : String} (h : ReachedIn below root depth source)
      (hbelow : below source url) : ReachedIn below root (depth + 1) url

theorem Tells.append {events : List Event} {source url : String} (h : Tells events source url)
    (more : List Event) : Tells (events ++ more) source url := by
  obtain ⟨entries, e, hevent, he⟩ := h
  exact ⟨entries, e, List.mem_append_left more hevent, he⟩

theorem ReachedIn.append {events : List Event} {root url : String} {depth : Nat}
    (h : ReachedIn (Tells events) root depth url) (more : List Event) :
    ReachedIn (Tells (events ++ more)) root depth url := by
  induction h with
  | root => exact .root
  | down _ hbelow ih => exact .down ih (hbelow.append more)

/-- What holds between the visits of a walk with a limit: its depths are those of ways that the
answers tell of, within the limit for what was visited and one step longer at most for the rest. -/
structure Fathomed (root : String) (limit : Nat) (w : Walk) (s : Heard σ) : Prop where
  charted : Charted root w s
  pending : ∀ here ∈ w.pending,
    ReachedIn (Tells s.events) root here.depth here.url ∧ here.depth ≤ limit + 1
  visited : ∀ url ∈ w.visited, ∃ depth ≤ limit, ReachedIn (Tells s.events) root depth url

theorem fathomed_from (root : String) (limit : Nat) (world : σ) :
    Fathomed root limit (.from root) (⟨world, []⟩ : Heard σ) where
  charted := charted_from root world
  pending := by
    intro here hhere
    rw [List.mem_singleton.1 hhere]
    exact ⟨.root, Nat.zero_le _⟩
  visited := fun url hurl => absurd hurl List.not_mem_nil

theorem visitsKeep_fathomed (root : String) {limit : Nat} (hlimit : options.maxDepth = some limit) :
    VisitsKeep remote.heard store.heard options (Fathomed root limit) := by
  intro here rest w s w' s' hw hpending hv
  have hcharted := visitsKeep_charted root hw.charted hpending hv
  have hhere := hw.pending here (by rw [hpending]; exact List.mem_cons_self)
  have hrest : ∀ there ∈ rest, there ∈ w.pending := fun there hthere => by
    rw [hpending]
    exact List.mem_cons_of_mem here hthere
  rcases visit_ok_asks hv with ⟨-, rfl, rfl⟩ | ⟨hnew, entries, report, more, rfl, hevents, -⟩
  · exact ⟨hcharted, fun there hthere => hw.pending there (hrest there hthere), hw.visited⟩
  · have hdepth : here.depth ≤ limit := admits_of_visit_ok hnew hv limit hlimit
    refine ⟨hcharted, ?_, ?_⟩
    · intro there hthere
      rw [hevents]
      rcases List.mem_append.1 hthere with hnew | hold
      · obtain ⟨e, he, rfl⟩ := List.mem_map.1 hnew
        obtain ⟨he, hdir⟩ := List.mem_filter.1 he
        refine ⟨.down (hhere.1.append _) ⟨entries, e, ?_, he, hdir, rfl⟩, by simpa using hdepth⟩
        exact List.mem_append_right _ List.mem_cons_self
      · obtain ⟨hreached, hle⟩ := hw.pending there (hrest there hold)
        exact ⟨hreached.append _, hle⟩
    · intro url hurl
      rw [hevents]
      rcases List.mem_cons.1 hurl with rfl | hold
      · exact ⟨here.depth, hdepth, hhere.1.append _⟩
      · obtain ⟨depth, hle, hreached⟩ := hw.visited url hold
        exact ⟨depth, hle, hreached.append _⟩

/-- What a walk refuses is one step too deep, was not asked for, and is in a listing it has read. -/
theorem Fathomed.refused {root : String} {limit : Nat} {w : Walk} {s : Heard σ}
    (hw : Fathomed root limit w s) {here : Pending} {rest : List Pending}
    (hpending : w.pending = here :: rest) (hnew : here.url ∉ w.visited)
    (hdeep : limit < here.depth) :
    here.depth = limit + 1 ∧ here.url ∉ askedIn s.events ∧ Mentions s.events here.url := by
  obtain ⟨hreached, hle⟩ := hw.pending here (by rw [hpending]; exact List.mem_cons_self)
  have hdepth : here.depth = limit + 1 := Nat.le_antisymm hle hdeep
  refine ⟨hdepth, ?_, ?_⟩
  · rwa [hw.charted.asked, List.mem_reverse]
  · rw [hdepth] at hreached
    cases hreached with
    | down _ hbelow => exact ⟨_, hbelow⟩

/-- Everything that was asked for is reached within the limit. -/
def AsksWithin (root : String) (limit : Nat) (events : List Event) : Prop :=
  ∀ url ∈ askedIn events, ∃ depth ≤ limit, ReachedIn (Tells events) root depth url

theorem Fathomed.asksWithin {root : String} {limit : Nat} {w : Walk} {s : Heard σ}
    (hw : Fathomed root limit w s) : AsksWithin root limit s.events := by
  intro url hurl
  rw [hw.charted.asked, List.mem_reverse] at hurl
  exact hw.visited url hurl

/-- **A walk with a limit asks for nothing that it does not reach within it**, also where it fails
or does not end. -/
theorem asksWithin_replicate {limit : Nat} (hlimit : options.maxDepth = some limit) (bound : Nat)
    (root : String) (world : σ) :
    AsksWithin root limit
      (replicate remote.heard store.heard options bound root ⟨world, []⟩).2.events := by
  have hkeep : VisitsKeep remote.heard store.heard options (Fathomed root limit) :=
    visitsKeep_fathomed root hlimit
  have hstops := walkOn_stops hkeep bound (fathomed_from root limit world)
  rw [← replicate] at hstops
  rcases hrun : replicate remote.heard store.heard options bound root ⟨world, []⟩ with
    ⟨fault | _ | report, final⟩ <;> rw [hrun] at hstops
  · obtain ⟨w, s, here, rest, hw, hpending, hv⟩ := hstops
    rcases visit_error_cases hv with ⟨-, -, -, -, rfl⟩ | ⟨hadmits, -⟩
    · exact hw.asksWithin
    · -- the listing that could not be had is the only one asked for since
      obtain ⟨-, more, hevents, hmore⟩ := visit_error_asks hv
      obtain ⟨hreached, -⟩ := hw.pending here (by rw [hpending]; exact List.mem_cons_self)
      intro url hurl
      show ∃ depth ≤ limit, ReachedIn (Tells final.events) root depth url
      rw [hevents, askedIn_append] at hurl
      rw [hevents]
      rcases List.mem_append.1 hurl with hold | hnew
      · obtain ⟨depth, hle, hold⟩ := hw.asksWithin url hold
        exact ⟨depth, hle, hold.append more⟩
      · rcases hmore with hmore | hmore <;> rw [hmore] at hnew
        · cases hnew
        · rw [List.mem_singleton.1 hnew]
          exact ⟨here.depth, hadmits limit hlimit, hreached.append more⟩
  · obtain ⟨w, hw, -⟩ := hstops
    exact hw.asksWithin
  · obtain ⟨w, hw, -⟩ := hstops
    exact hw.asksWithin

/-- A walk with a limit refuses a directory one step below it, which it was told of and has not
asked for; or a call was answered with that failure. -/
theorem refusal_of_replicate {limit : Nat} (hlimit : options.maxDepth = some limit) {bound : Nat}
    {root : String} {world : σ} {url : String} {depth limit' : Nat} {final : Heard σ}
    (hrun : replicate remote.heard store.heard options bound root ⟨world, []⟩ =
      (.error (.tooDeep url depth limit'), final)) :
    (limit' = limit ∧ depth = limit + 1 ∧ url ∉ askedIn final.events ∧ Mentions final.events url) ∨
      ∃ event ∈ final.events, event.fault? = some (.tooDeep url depth limit') := by
  have hkeep : VisitsKeep remote.heard store.heard options (Fathomed root limit) :=
    visitsKeep_fathomed root hlimit
  have hstops := walkOn_stops hkeep bound (fathomed_from root limit world)
  rw [← replicate, hrun] at hstops
  obtain ⟨w, s, here, rest, hw, hpending, hv⟩ := hstops
  rcases visit_error_cases hv with ⟨limit'', hlimit'', hdeep, hfault, rfl⟩ | ⟨-, hevent⟩
  · rw [hlimit] at hlimit''
    cases hlimit''
    cases hfault
    exact .inl ⟨rfl, hw.refused hpending (visit_error_asks hv).1 hdeep⟩
  · exact .inr hevent

/-! ## Two limits -/

theorem replicate_add {bound : Nat} {root : String} {world : σ}
    (h : (replicate remote store options bound root world).1 ≠ .ok none) (extra : Nat) :
    replicate remote store options (bound + extra) root world =
      replicate remote store options bound root world := by
  rcases hrun : replicate remote store options bound root world with ⟨fault | _ | report, final⟩
  · exact walkOn_add (.error fault) hrun extra
  · rw [hrun] at h
    exact absurd rfl h
  · exact walkOn_add (.ok report) hrun extra

theorem prefix_walkOn (bound : Nat) (w : Walk) (s : Heard σ) :
    s.events <+: (walkOn remote.heard store.heard options bound w s).2.events := by
  have hcall : ∀ {α : Type} {event : Except Fault α → Event} (job : Job σ α),
      (job.heard event).Keeps fun t => s.events <+: t.events :=
    fun job t ht => ht.trans (List.prefix_append _ _)
  have hkeeps : (walkOn remote.heard store.heard options bound w).Keeps
      fun t => s.events <+: t.events :=
    walkOn_keeps (fun _ => hcall _) (fun _ => hcall _)
      (fun _ _ _ _ => ⟨hcall _, hcall _, fun _ => hcall _⟩) bound w
  exact hkeeps s List.prefix_rfl

theorem visit_withDepth {limit : Nat} {larger : Option Nat}
    (hle : ∀ limit', larger = some limit' → limit ≤ limit') {here : Pending}
    (hdepth : here.depth ≤ limit) :
    visit remote store (options.withDepth larger) here =
      visit remote store (options.withDepth (some limit)) here := by
  have hsmall : (options.withDepth (some limit)).Admits here := by
    rintro _ ⟨⟩
    exact hdepth
  have hlarge : (options.withDepth larger).Admits here :=
    fun limit' hlimit' => hdepth.trans (hle limit' hlimit')
  funext w
  rw [visit_of_admits hsmall, visit_of_admits hlarge]
  rfl

/-- **Two walks with two limits do the same**, until the one with the smaller limit refuses a
directory; the other then goes on from there. -/
theorem walkOn_withDepth {limit : Nat} {larger : Option Nat}
    (hle : ∀ limit', larger = some limit' → limit ≤ limit') {I : Walk → σ → Prop}
    (hI : VisitsKeep remote store (options.withDepth (some limit)) I) (bound : Nat) :
    ∀ {w s}, I w s →
      walkOn remote store (options.withDepth (some limit)) bound w s =
          walkOn remote store (options.withDepth larger) bound w s ∨
        ∃ w' s' here rest bound', I w' s' ∧ w'.pending = here :: rest ∧ here.url ∉ w'.visited ∧
          limit < here.depth ∧
          walkOn remote store (options.withDepth (some limit)) bound w s =
            (.error (.tooDeep here.url here.depth limit), s') ∧
          walkOn remote store (options.withDepth larger) bound w s =
            walkOn remote store (options.withDepth larger) bound' w' s' := by
  induction bound with
  | zero =>
    intro w s _
    rw [walkOn, walkOn]
    exact .inl rfl
  | succ bound ih =>
    intro w s hw
    cases hp : w.pending with
    | nil =>
      rw [walkOn_of_pending_eq_nil hp, walkOn_of_pending_eq_nil hp]
      exact .inl rfl
    | cons here rest =>
      rw [walkOn_succ hp, walkOn_succ hp]
      by_cases hmem : here.url ∈ w.visited
      · -- both pass by what they know
        have hmem' : here.url ∈ ({ w with pending := rest } : Walk).visited := hmem
        have hagain : visit remote store (options.withDepth (some limit)) here
            { w with pending := rest } s = (.ok { w with pending := rest }, s) := by
          rw [visit_of_mem hmem']
          rfl
        rw [Job.bind_ok hagain, visit_of_mem hmem', pure_bind]
        exact ih (hI hw hp hagain)
      · have hmem' : here.url ∉ ({ w with pending := rest } : Walk).visited := hmem
        by_cases hdeep : limit < here.depth
        · -- here they part, and the second walk stands where the first one ends
          have hrefused : visit remote store (options.withDepth (some limit)) here
              { w with pending := rest } = throw (.tooDeep here.url here.depth limit) :=
            visit_of_not_admits hmem' rfl hdeep
          refine .inr ⟨w, s, here, rest, bound + 1, hw, hp, hmem, hdeep, ?_, ?_⟩
          · rw [hrefused]
            rfl
          · rw [walkOn_succ hp]
        · rw [visit_withDepth hle (Nat.le_of_not_lt hdeep)]
          rcases hv : visit remote store (options.withDepth (some limit)) here
            { w with pending := rest } s with ⟨fault | w', s'⟩
          · rw [Job.bind_error hv, Job.bind_error hv]
            exact .inl rfl
          · rw [Job.bind_ok hv, Job.bind_ok hv]
            exact ih (hI hw hp hv)

end

/-- **Limiting the depth only cuts a walk off.** The calls of a walk with a limit, with their
answers, are a beginning of those of the same walk with a larger limit or none, if that one ends.
Without a refusal the two walks are the same. A directory that is refused lies one step too deep, is
in a listing that was read, and was not asked for; the one other way to such a failure is a call
that is answered with it, and then the walks are the same too. All that was asked for is reached
within the limit. -/
theorem replicate_truncated {σ : Type} (remote : Remote σ) (store : Store σ)
    (options : ReplicaOptions) (root : String) (world : σ) {limit : Nat} {larger : Option Nat}
    (hle : ∀ limit', larger = some limit' → limit ≤ limit') {bound' : Nat}
    (hlong : (replicate remote.heard store.heard (options.withDepth larger) bound' root
      ⟨world, []⟩).1 ≠ .ok none) :
    let long := replicate remote.heard store.heard (options.withDepth larger) bound' root ⟨world, []⟩
    (∃ bound, (replicate remote.heard store.heard (options.withDepth (some limit)) bound root
      ⟨world, []⟩).1 ≠ .ok none) ∧
    ∀ bound, (replicate remote.heard store.heard (options.withDepth (some limit)) bound root
        ⟨world, []⟩).1 ≠ .ok none →
      let short := replicate remote.heard store.heard (options.withDepth (some limit)) bound root
        ⟨world, []⟩
      short.2.events <+: long.2.events ∧
      ((∀ url depth limit', short.1 ≠ .error (.tooDeep url depth limit')) → short = long) ∧
      (∀ url depth limit', short.1 = .error (.tooDeep url depth limit') →
        (limit' = limit ∧ depth = limit + 1 ∧ url ∉ askedIn short.2.events ∧
          Mentions short.2.events url) ∨
        short = long ∧ ∃ event ∈ short.2.events, event.fault? = some (.tooDeep url depth limit')) ∧
      ∀ url ∈ askedIn short.2.events,
        ∃ depth ≤ limit, ReachedIn (Tells short.2.events) root depth url := by
  intro long
  refine ⟨ends_of_limit rfl root _, ?_⟩
  intro bound hshort short
  have hwithin : AsksWithin root limit short.2.events := asksWithin_replicate rfl bound root world
  have hkeep : VisitsKeep remote.heard store.heard (options.withDepth (some limit))
      (Fathomed root limit) := visitsKeep_fathomed root rfl
  have hstart : Fathomed root limit (.from root) (⟨world, []⟩ : Heard σ) :=
    fathomed_from root limit world
  -- both walks have ended within the sum of the bounds
  have hshort' : walkOn remote.heard store.heard (options.withDepth (some limit)) (bound + bound')
      (.from root) ⟨world, []⟩ = short := replicate_add hshort bound'
  have hlong' : walkOn remote.heard store.heard (options.withDepth larger) (bound + bound')
      (.from root) ⟨world, []⟩ = long := by
    rw [Nat.add_comm]
    exact replicate_add hlong bound
  rcases walkOn_withDepth hle hkeep (bound + bound') hstart with
    hsame | ⟨w, s, here, rest, bound'', hw, hpending, hnew, hdeep, hrefused, hon⟩
  · rw [hshort', hlong'] at hsame
    refine ⟨by rw [hsame], fun _ => hsame, fun url depth limit' hfault => ?_, hwithin⟩
    exact (refusal_of_replicate rfl (Prod.ext hfault rfl)).imp_right fun hevent => ⟨hsame, hevent⟩
  · rw [hshort'] at hrefused
    rw [hlong'] at hon
    obtain ⟨hdepth, hasked, hmentions⟩ := hw.refused hpending hnew hdeep
    refine ⟨?_, ?_, ?_, hwithin⟩
    · rw [hrefused, hon]
      exact prefix_walkOn bound'' w s
    · intro hno
      exact absurd (by rw [hrefused]) (hno here.url here.depth limit)
    · intro url depth limit' hfault
      rw [hrefused] at hfault ⊢
      cases hfault
      exact .inl ⟨rfl, hdepth, hasked, hmentions⟩

/-- Of two directories that list each other, a limit of 0 cuts the second one off. -/
theorem replicate_truncated_circle :
    let options : ReplicaOptions := ⟨⟨"out"⟩, [], none⟩
    let short := replicate Upstream.circle.remote.heard Store.idle.heard
      (options.withDepth (some 0)) 2 "a" ⟨(), []⟩
    short.1 = .error (.tooDeep "b" 1 0) ∧ "b" ∉ askedIn short.2.events ∧
      Mentions short.2.events "b" ∧
      short.2.events <+: (replicate Upstream.circle.remote.heard Store.idle.heard
        (options.withDepth none) 3 "a" ⟨(), []⟩).2.events := by
  intro options short
  have hrefused : short.1 = .error (.tooDeep "b" 1 0) := by decide +kernel
  have hle : ∀ limit', (none : Option Nat) = some limit' → 0 ≤ limit' := nofun
  have hlong : (replicate Upstream.circle.remote.heard Store.idle.heard (options.withDepth none) 3
      "a" ⟨(), []⟩).1 ≠ .ok none := by
    decide +kernel
  obtain ⟨-, hshort⟩ :=
    replicate_truncated Upstream.circle.remote Store.idle options "a" () hle hlong
  obtain ⟨hbegins, -, hrefusal, -⟩ := hshort 2 (by rw [hrefused]; exact nofun)
  rcases hrefusal "b" 1 0 hrefused with ⟨-, -, hasked, hmentions⟩ | ⟨-, event, hevent, hfault⟩
  · exact ⟨hrefused, hasked, hmentions, hbegins⟩
  · exact absurd hfault (by revert event; decide +kernel)

end Vendoring
