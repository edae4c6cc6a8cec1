import Mathlib.Data.Set.Finite.Basic
import Vendoring.Proofs.Replicate.Descent
import Vendoring.Proofs.Replicate.Reach
import Vendoring.Proofs.Transcript

/-!
# Where a walk ends

A walk ends for one of two reasons. Either the answers it gets mention only finitely many
directories: then it asks for none of them twice and for nothing else but the first one, so it ends
after at most one listing more than there are such addresses. Or the depth is limited: then it ends
whatever the answers are, even if every listing names directories that no one has heard of before.

The first is a count of visited addresses (`asked_of_replicate`), the second is the height of the
recursion that the walk amounts to (`descend_meets`), which no listing can raise above the limit.
-/

set_option autoImplicit false

namespace Vendoring

/-- The answers mention a directory with this address. -/
def Mentions (events : List Event) (url : String) : Prop :=
  ∃ source entries e, Event.listed source (.ok entries) ∈ events ∧ e ∈ entries ∧
    e.isDirectory = true ∧ e.listingUrl = url

/-- The listings asked for, in order, whatever the answers were. -/
def askedIn (events : List Event) : List String := events.filterMap Event.listed?

theorem askedIn_append (events more : List Event) :
    askedIn (events ++ more) = askedIn events ++ askedIn more :=
  List.filterMap_append

theorem Mentions.append {events : List Event} {url : String} (h : Mentions events url)
    (more : List Event) : Mentions (events ++ more) url := by
  obtain ⟨source, entries, e, hevent, he⟩ := h
  exact ⟨source, entries, e, List.mem_append_left more hevent, he⟩

section

variable {σ : Type} {remote : Remote σ} {store : Store σ} {options : ReplicaOptions}
  {root : String}

/-! ## What a walk asks for -/

/-- The transcript goes on from `before` without asking for a listing. -/
def Heard.Quiet (before : List Event) (s : Heard σ) : Prop :=
  ∃ more, s.events = before ++ more ∧ askedIn more = []

theorem keeps_quiet {α : Type} {event : Except Fault α → Event}
    (hevent : ∀ answer, (event answer).listed? = none) (job : Job σ α) (before : List Event) :
    (job.heard event).Keeps (Heard.Quiet before) := by
  rintro s ⟨more, hs, hmore⟩
  refine ⟨more ++ [event (job s.world).1], ?_, ?_⟩
  · show s.events ++ _ = _
    rw [hs, List.append_assoc]
  · rw [askedIn_append, hmore, askedIn, List.filterMap_cons, hevent]
    rfl

/-- **Entering a directory asks for its listing**, or for nothing if it lies too deep. -/
theorem enter_asks (here : Pending) (report : Report) (before : List Event) :
    (enter remote.heard store.heard options here report).Meets (fun s => s.events = before)
      (fun found s => Heard.Quiet (before ++ [.listed here.url (.ok found.1)]) s)
      (fun _ s => ∃ more, s.events = before ++ more ∧
        (askedIn more = [] ∨ askedIn more = [here.url])) := by
  have hdepth : (checkDepth options here : Job (Heard σ) Unit).Meets (fun s => s.events = before)
      (fun _ s => s.events = before)
      (fun _ s => ∃ more, s.events = before ++ more ∧
        (askedIn more = [] ∨ askedIn more = [here.url])) := by
    apply checkDepth_meets
    intro _ _ _ s hs
    exact ⟨[], by simp [hs], .inl rfl⟩
  apply hdepth.bind
  intro _
  have hlist : (remote.heard.list here.url).Meets (fun s => s.events = before)
      (fun entries s => s.events = before ++ [.listed here.url (.ok entries)])
      (fun _ s => ∃ more, s.events = before ++ more ∧
        (askedIn more = [] ∨ askedIn more = [here.url])) := by
    apply (Job.meets_heard (remote.list here.url) before).mono
    · exact fun s hs => hs
    · exact fun _ s hs => hs
    · exact fun fault s hs => ⟨_, hs, .inr rfl⟩
  apply hlist.bind
  intro entries
  -- the files of the listing are dealt with quietly, whatever comes of them
  have hfiles : ∀ report, ∀ e ∈ entries,
      ((filing options e).carryOut remote.heard store.heard report).Keeps
        (Heard.Quiet (before ++ [.listed here.url (.ok entries)])) := by
    intro report e _
    apply carryOut_keeps
    · exact fun url => keeps_quiet (fun _ => rfl) _ _
    · intro _ _ _ _
      exact ⟨keeps_quiet (fun _ => rfl) _ _, keeps_quiet (fun _ => rfl) _ _,
        fun data => keeps_quiet (fun _ => rfl) _ _⟩
  refine Job.Meets.bind ?_ fun report => Job.meets_pure fun s hs => hs
  apply (Job.keeps_foldlM hfiles report.countListing).meets.mono
  · intro s hs
    exact ⟨[], by rw [hs, List.append_nil], rfl⟩
  · exact fun _ s hs => hs
  · rintro _ s ⟨more, hs, hmore⟩
    refine ⟨.listed here.url (.ok entries) :: more, by simp [hs], .inr ?_⟩
    show here.url :: askedIn more = _
    rw [hmore]

/-- **A visit that succeeds** finds a directory that was visited, or asks for its listing alone. -/
theorem visit_ok_asks {here : Pending} {w w' : Walk} {s s' : Heard σ}
    (hv : visit remote.heard store.heard options here w s = (.ok w', s')) :
    (here.url ∈ w.visited ∧ w' = w ∧ s' = s) ∨
      here.url ∉ w.visited ∧ ∃ entries report more,
        w' = ⟨subdirectories here.depth entries ++ w.pending, here.url :: w.visited, report⟩ ∧
        s'.events = s.events ++ .listed here.url (.ok entries) :: more ∧ askedIn more = [] := by
  by_cases hmem : here.url ∈ w.visited
  · rw [visit_of_mem hmem] at hv
    cases hv
    exact .inl ⟨hmem, rfl, rfl⟩
  · rw [visit_of_not_mem hmem] at hv
    obtain ⟨⟨entries, report⟩, s₁, henter, hv⟩ := Job.bind_eq_ok hv
    cases hv
    obtain ⟨more, hevents, hmore⟩ := (enter_asks here w.report s.events).ok rfl henter
    refine .inr ⟨hmem, entries, report, more, rfl, ?_, hmore⟩
    rw [hevents, List.append_assoc]
    rfl

/-- **A visit that fails** is one to a new directory, and asks for its listing at most. -/
theorem visit_error_asks {here : Pending} {w : Walk} {s s' : Heard σ} {fault : Fault}
    (hv : visit remote.heard store.heard options here w s = (.error fault, s')) :
    here.url ∉ w.visited ∧ ∃ more, s'.events = s.events ++ more ∧
      (askedIn more = [] ∨ askedIn more = [here.url]) := by
  have hmem : here.url ∉ w.visited := by
    intro hmem
    rw [visit_of_mem hmem] at hv
    cases hv
  refine ⟨hmem, ?_⟩
  rw [visit_of_not_mem hmem] at hv
  -- it fails on entering, since nothing that comes after can fail
  rcases henter : enter remote.heard store.heard options here w.report s with ⟨fault' | found, s₁⟩
  · rw [Job.bind_error henter] at hv
    cases hv
    exact (enter_asks here w.report s.events).error rfl henter
  · rw [Job.bind_ok henter] at hv
    cases hv

/-- What holds between the visits of a walk: it has asked for what it visited, and what it knows are
the first address and those it was told of. -/
structure Charted (root : String) (w : Walk) (s : Heard σ) : Prop where
  asked : askedIn s.events = w.visited.reverse
  nodup : w.visited.Nodup
  known : ∀ url, w.Knows url → url = root ∨ Mentions s.events url

theorem charted_from (root : String) (world : σ) :
    Charted root (.from root) (⟨world, []⟩ : Heard σ) where
  asked := rfl
  nodup := List.nodup_nil
  known := by
    rintro url (hurl | ⟨here, hhere, rfl⟩)
    · cases hurl
    · rw [List.mem_singleton.1 hhere]
      exact .inl rfl

theorem visitsKeep_charted (root : String) :
    VisitsKeep remote.heard store.heard options (Charted root) := by
  intro here rest w s w' s' hw hpending hv
  rcases visit_ok_asks hv with ⟨hmem, rfl, rfl⟩ | ⟨hmem, entries, report, more, rfl, hevents, hmore⟩
  · have hknows := knows_of_mem_visited hpending hmem
    exact ⟨hw.asked, hw.nodup, fun url hurl => hw.known url ((hknows url).1 hurl)⟩
  · have hknows := knows_of_entered hpending entries report
    refine ⟨?_, List.nodup_cons.2 ⟨hmem, hw.nodup⟩, fun url hurl => ?_⟩
    · have hasked : askedIn (.listed here.url (.ok entries) :: more) = [here.url] := by
        rw [← hmore]
        rfl
      rw [hevents, askedIn_append, hasked, hw.asked, List.reverse_cons]
    · rw [hevents]
      rcases (hknows url).1 hurl with hold | ⟨e, he, hdir, rfl⟩
      · exact (hw.known url hold).imp id fun hmentions => hmentions.append _
      · refine .inr ⟨here.url, entries, e, ?_, he, hdir, rfl⟩
        exact List.mem_append_right _ List.mem_cons_self

/-- No listing is asked for twice, and none but the first one that no answer mentions. -/
def Asks (root : String) (events : List Event) : Prop :=
  (askedIn events).Nodup ∧ ∀ url ∈ askedIn events, url = root ∨ Mentions events url

theorem Charted.asks {w : Walk} {s : Heard σ} (hw : Charted root w s) : Asks root s.events := by
  rw [Asks, hw.asked]
  refine ⟨List.nodup_reverse.2 hw.nodup, fun url hurl => ?_⟩
  exact hw.known url (.inl (List.mem_reverse.1 hurl))

/-- A visit that fails has asked for nothing else either. -/
theorem Charted.asks_of_error {w : Walk} {s s' : Heard σ} (hw : Charted root w s) {here : Pending}
    {rest : List Pending} (hpending : w.pending = here :: rest) {fault : Fault}
    (hv : visit remote.heard store.heard options here { w with pending := rest } s =
      (.error fault, s')) : Asks root s'.events := by
  obtain ⟨hmem, more, hevents, hmore⟩ := visit_error_asks hv
  have hgrow : ∀ url, w.Knows url → url = root ∨ Mentions s'.events url := by
    intro url hurl
    rw [hevents]
    exact (hw.known url hurl).imp id fun hmentions => hmentions.append more
  have hhere : w.Knows here.url := .inr ⟨here, by rw [hpending]; exact List.mem_cons_self, rfl⟩
  have hasked : askedIn s'.events = w.visited.reverse ∨
      askedIn s'.events = (here.url :: w.visited).reverse := by
    rw [hevents, askedIn_append, hw.asked, List.reverse_cons]
    exact hmore.imp (fun h => by rw [h, List.append_nil]) fun h => by rw [h]
  rcases hasked with hasked | hasked <;> rw [Asks, hasked]
  · refine ⟨List.nodup_reverse.2 hw.nodup, fun url hurl => ?_⟩
    exact hgrow url (.inl (List.mem_reverse.1 hurl))
  · refine ⟨List.nodup_reverse.2 (List.nodup_cons.2 ⟨hmem, hw.nodup⟩), fun url hurl => ?_⟩
    rcases List.mem_cons.1 (List.mem_reverse.1 hurl) with rfl | hurl
    · exact hgrow _ hhere
    · exact hgrow url (.inl hurl)

/-- **A walk asks for no listing twice, and for none but the first one that no answer mentions**,
also where it fails or does not end. -/
theorem asks_of_replicate {bound : Nat} {world : σ} {result : Except Fault (Option Report)}
    {final : Heard σ}
    (hrun : replicate remote.heard store.heard options bound root ⟨world, []⟩ = (result, final)) :
    Asks root final.events := by
  have hkeep : VisitsKeep remote.heard store.heard options (Charted root) :=
    visitsKeep_charted root
  have hstops := walkOn_stops hkeep bound (charted_from root world)
  rw [← replicate, hrun] at hstops
  rcases result with fault | _ | report
  · obtain ⟨w, s, here, rest, hw, hpending, hv⟩ := hstops
    exact hw.asks_of_error hpending hv
  · obtain ⟨w, hw, -⟩ := hstops
    exact hw.asks
  · obtain ⟨w, hw, -⟩ := hstops
    exact hw.asks

/-! ## Finitely many directories -/

variable (remote store options root) in
/-- The addresses of directories that the answers mention at any point of a walk. -/
def mentionedInWalk (world : σ) : Set String :=
  {url | ∃ bound, Mentions
    (replicate remote.heard store.heard options bound root ⟨world, []⟩).2.events url}

variable (remote store options root) in
/-- The walk comes to stand here. -/
def ComesTo (world : σ) (w : Walk) (s : Heard σ) : Prop :=
  ∃ steps, ∀ bound,
    walkOn remote.heard store.heard options (steps + bound) (.from root) ⟨world, []⟩ =
      walkOn remote.heard store.heard options bound w s

theorem visitsKeep_comesTo (world : σ) :
    VisitsKeep remote.heard store.heard options (ComesTo remote store options root world) := by
  rintro here rest w s w' s' ⟨steps, hsteps⟩ hpending hv
  refine ⟨steps + 1, fun bound => ?_⟩
  rw [Nat.add_assoc, Nat.add_comm 1, hsteps, walkOn_succ hpending, Job.bind_ok hv]

theorem ComesTo.mentioned {world : σ} {w : Walk} {s : Heard σ}
    (h : ComesTo remote store options root world w s) {url : String}
    (hurl : Mentions s.events url) : url ∈ mentionedInWalk remote store options root world := by
  obtain ⟨steps, hsteps⟩ := h
  have hstand : (walkOn remote.heard store.heard options 0 w s).2 = s := by
    cases hp : w.pending with
    | nil =>
      rw [walkOn_of_pending_eq_nil hp]
      rfl
    | cons here rest =>
      rw [walkOn, hp]
      rfl
  refine ⟨steps + 0, ?_⟩
  rwa [replicate, hsteps 0, hstand]

/-- **A walk ends if its answers mention finitely many directories.** -/
theorem ends_of_finite {world : σ}
    (hfin : (mentionedInWalk remote store options root world).Finite) :
    ∃ bound, (replicate remote.heard store.heard options bound root ⟨world, []⟩).1 ≠ .ok none := by
  have hkeep : VisitsKeep remote.heard store.heard options fun w s =>
      Charted root w s ∧ ComesTo remote store options root world w s := by
    intro here rest w s w' s' hw hpending hv
    exact ⟨visitsKeep_charted root hw.1 hpending hv, visitsKeep_comesTo world hw.2 hpending hv⟩
  have hurls : ∀ w (s : Heard σ),
      Charted root w s ∧ ComesTo remote store options root world w s →
        ∀ here ∈ w.pending, here.url ∈ insert root hfin.toFinset := by
    rintro w s ⟨hcharted, hcomes⟩ here hhere
    rw [Finset.mem_insert, hfin.mem_toFinset]
    exact (hcharted.known here.url (.inr ⟨here, hhere, rfl⟩)).imp id hcomes.mentioned
  have hstart : ComesTo remote store options root world (.from root) ⟨world, []⟩ :=
    ⟨0, fun bound => by rw [Nat.zero_add]⟩
  exact exists_bound hkeep hurls ⟨charted_from root world, hstart⟩

theorem length_asked_le {world : σ}
    (hfin : (mentionedInWalk remote store options root world).Finite) (bound : Nat) :
    (askedIn (replicate remote.heard store.heard options bound root ⟨world, []⟩).2.events).length ≤
      hfin.toFinset.card + 1 := by
  rcases hrun : replicate remote.heard store.heard options bound root ⟨world, []⟩ with
    ⟨result, final⟩
  obtain ⟨hnodup, hmem⟩ := asks_of_replicate hrun
  have hsub : (askedIn final.events).toFinset ⊆ insert root hfin.toFinset := by
    intro url hurl
    rw [Finset.mem_insert, hfin.mem_toFinset]
    refine (hmem url (List.mem_toFinset.1 hurl)).imp id fun hmentions => ⟨bound, ?_⟩
    rwa [hrun]
  calc (askedIn final.events).length
      = (askedIn final.events).toFinset.card := (List.toFinset_card_of_nodup hnodup).symm
    _ ≤ (insert root hfin.toFinset).card := Finset.card_le_card hsub
    _ ≤ hfin.toFinset.card + 1 := Finset.card_insert_le _ _

/-! ## A limit of depth -/

theorem throughAll_meets {into : Progress → String → Job σ (Option Progress)}
    (h : ∀ p url, (into p url).Meets (fun _ => True) (fun p? _ => p?.isSome = true)
      (fun _ _ => True)) (urls : List String) :
    ∀ p, (throughAll into urls p).Meets (fun _ => True) (fun p? _ => p?.isSome = true)
      (fun _ _ => True) := by
  induction urls with
  | nil =>
    intro p
    exact Job.meets_pure fun _ _ => rfl
  | cons url urls ih =>
    intro p
    apply (h p url).bind
    intro p?
    cases p? with
    | none =>
      intro s hs
      cases hs
    | some p => exact (ih p).mono (fun _ _ => trivial) (fun _ _ hs => hs) fun _ _ hs => hs

/-- **A recursion that is one higher than the limit of depth always has a result**: one step below
the limit it enters nothing any more. -/
theorem descend_meets {limit : Nat} (hlimit : options.maxDepth = some limit) (height : Nat) :
    ∀ depth p url, depth ≤ limit + 1 → limit + 2 ≤ depth + height →
      (descend remote store options height depth p url).Meets (fun _ => True)
        (fun p? _ => p?.isSome = true) (fun _ _ => True) := by
  induction height with
  | zero =>
    intro depth p url hdepth hheight
    omega
  | succ height ih =>
    intro depth p url hdepth hheight
    rw [descend]
    split
    · exact Job.meets_pure fun _ _ => rfl
    rw [hlimit]
    split
    · exact Job.meets_throw fun _ _ => trivial
    · next hpasses =>
      have hle : ¬ limit < depth := by simpa using hpasses
      have hbelow : ∀ p url, (descend remote store options height (depth + 1) p url).Meets
          (fun _ => True) (fun p? _ => p?.isSome = true) (fun _ _ => True) :=
        fun p url => ih (depth + 1) p url (by omega) (by omega)
      have hany : ∀ {α : Type} (job : Job σ α), job.Meets (fun _ => True) (fun _ _ => True)
          (fun _ _ => True) := by
        intro α job s _
        split <;> trivial
      apply (hany (remote.list url)).bind
      intro entries
      exact (hany _).bind fun report => throughAll_meets hbelow _ _

/-- **A walk whose depth is limited ends**, whatever the answers are. -/
theorem ends_of_limit {limit : Nat} (hlimit : options.maxDepth = some limit) (root : String)
    (world : σ) : ∃ bound, (replicate remote store options bound root world).1 ≠ .ok none := by
  have hdescend : (replicateByDescent remote store options (limit + 2) root).Meets (fun _ => True)
      (fun report? _ => report?.isSome = true) (fun _ _ => True) := by
    apply (descend_meets hlimit (limit + 2) 0 .start root (by omega) (by omega)).bind
    intro p?
    apply Job.meets_pure
    intro s hs
    rw [Option.isSome_map, hs]
  rcases hrun : replicateByDescent remote store options (limit + 2) root world with
    ⟨fault | _ | report, final⟩
  · obtain ⟨steps, hsteps⟩ := replicate_of_descent (.error fault) hrun
    exact ⟨steps + 0, by rw [hsteps 0]; nofun⟩
  · have hsome := hdescend.ok trivial hrun
    cases hsome
  · obtain ⟨steps, hsteps⟩ := replicate_of_descent (.ok report) hrun
    exact ⟨steps + 0, by rw [hsteps 0]; nofun⟩

/-! ## The end -/

theorem replicate_heard (remote : Remote σ) (store : Store σ) (options : ReplicaOptions)
    (bound : Nat) (root : String) (world : σ) :
    (replicate remote store options bound root world).1 =
      (replicate remote.heard store.heard options bound root ⟨world, []⟩).1 := by
  have hlockstep : Job.Lockstep (fun (s : Heard σ) world => world = s.world) (fun _ => False)
      (replicate remote.heard store.heard options bound root)
      (replicate remote store options bound root) := by
    apply replicate_lockstep
    · exact fun url => Job.lockstep_heard _
    · exact fun url => Job.lockstep_heard _
    · exact fun dir => Job.lockstep_heard _
    · exact fun path => Job.lockstep_heard _
    · exact fun path data => Job.lockstep_heard _
  rcases hlockstep.together ⟨world, []⟩ world rfl with hnever | ⟨heq, -⟩
  · exact hnever.elim
  · exact heq

end

/-- **A walk ends if its answers mention only finitely many directories**, however they refer to
each other, and then it has asked for at most one listing more than there are of them. **A walk with
a limit of depth ends in any case.** -/
theorem replicate_ends {σ : Type} (remote : Remote σ) (store : Store σ) (options : ReplicaOptions)
    (root : String) (world : σ) :
    let mentioned := mentionedInWalk remote store options root world
    ((mentioned.Finite ∨ options.maxDepth ≠ none) →
      ∃ bound, (replicate remote store options bound root world).1 ≠ .ok none) ∧
    ∀ (hfin : mentioned.Finite) (bound : Nat),
      (askedIn (replicate remote.heard store.heard options bound root ⟨world, []⟩).2.events).length ≤
        hfin.toFinset.card + 1 := by
  intro mentioned
  refine ⟨?_, length_asked_le⟩
  rintro (hfin | hlimit)
  · obtain ⟨bound, hbound⟩ := ends_of_finite hfin
    refine ⟨bound, ?_⟩
    rwa [replicate_heard]
  · obtain ⟨limit, hlimit⟩ := Option.ne_none_iff_exists'.1 hlimit
    exact ends_of_limit hlimit root world

/-! ## The answers of an upstream -/

/-- The listings that were heard are those of the upstream. -/
def Upstream.Heeded {σ : Type} (u : Upstream) (s : Heard σ) : Prop :=
  ∀ source entries, .listed source (.ok entries) ∈ s.events → u.listing source = .ok entries

section

variable {σ : Type} {u : Upstream} {store : Store σ} {options : ReplicaOptions}

theorem Upstream.keeps_heeded_list (u : Upstream) (url : String) :
    ((u.remote : Remote σ).heard.list url).Keeps u.Heeded := by
  intro s hs source entries hlisted
  rcases List.mem_append.1 hlisted with hlisted | hlisted
  · exact hs source entries hlisted
  · obtain ⟨rfl, heq⟩ := Event.listed.inj (List.mem_singleton.1 hlisted)
    exact heq.symm

theorem Upstream.keeps_heeded {α : Type} {event : Except Fault α → Event}
    (hevent : ∀ answer, (event answer).listed? = none) (job : Job σ α) :
    (job.heard event).Keeps u.Heeded := by
  intro s hs source entries hlisted
  rcases List.mem_append.1 hlisted with hlisted | hlisted
  · exact hs source entries hlisted
  · have hnone := hevent (job s.world).1
    rw [← List.mem_singleton.1 hlisted] at hnone
    cases hnone

theorem visit_keeps_heeded (here : Pending) (w : Walk) :
    (visit u.remote.heard store.heard options here w).Keeps u.Heeded :=
  visit_keeps u.keeps_heeded_list (fun _ => Upstream.keeps_heeded (fun _ => rfl) _)
    (fun _ _ _ _ => ⟨Upstream.keeps_heeded (fun _ => rfl) _,
      Upstream.keeps_heeded (fun _ => rfl) _, fun _ => Upstream.keeps_heeded (fun _ => rfl) _⟩)
    here w

theorem replicate_keeps_heeded (bound : Nat) (root : String) :
    (replicate u.remote.heard store.heard options bound root).Keeps u.Heeded :=
  replicate_keeps u.keeps_heeded_list (fun _ => Upstream.keeps_heeded (fun _ => rfl) _)
    (fun _ _ _ _ => ⟨Upstream.keeps_heeded (fun _ => rfl) _,
      Upstream.keeps_heeded (fun _ => rfl) _, fun _ => Upstream.keeps_heeded (fun _ => rfl) _⟩)
    bound root

end

/-- Against an upstream, what is mentioned in a walk is what the upstream lists. -/
theorem exists_entry_of_mentioned {σ : Type} (u : Upstream) (store : Store σ)
    (options : ReplicaOptions) (root : String) (world : σ) {url : String}
    (hurl : url ∈ mentionedInWalk u.remote store options root world) :
    ∃ source, ∃ e ∈ u.entries source, e.isDirectory = true ∧ e.listingUrl = url := by
  obtain ⟨bound, source, entries, e, hevent, he, hdir, rfl⟩ := hurl
  have hheeded : (replicate u.remote.heard store.heard options bound root).Keeps u.Heeded :=
    replicate_keeps_heeded bound root
  have hlisting := hheeded ⟨world, []⟩ (fun _ _ h => absurd h List.not_mem_nil) source entries hevent
  refine ⟨source, e, ?_, hdir, rfl⟩
  rwa [Upstream.entries, hlisting]

/-- Two directories that list each other are left again. -/
theorem replicate_ends_circle :
    (mentionedInWalk Upstream.circle.remote Store.idle ⟨⟨"out"⟩, [], none⟩ "a" ()).Finite ∧
      ∃ bound, (replicate Upstream.circle.remote Store.idle ⟨⟨"out"⟩, [], none⟩ bound "a" ()).1 ≠
        .ok none := by
  have hfin : (mentionedInWalk Upstream.circle.remote Store.idle ⟨⟨"out"⟩, [], none⟩ "a"
      ()).Finite := by
    apply (Set.toFinite {"a", "b"}).subset
    intro url hurl
    obtain ⟨source, e, he, hdir, rfl⟩ := exists_entry_of_mentioned _ _ _ _ _ hurl
    by_cases ha : source = "a"
    · subst ha
      rcases List.mem_cons.1 he with rfl | he
      · cases hdir
      · rw [List.mem_singleton.1 he]
        exact .inr rfl
    · by_cases hb : source = "b"
      · subst hb
        rw [List.mem_singleton.1 he]
        exact .inl rfl
      · simp [Upstream.entries, Upstream.circle] at he
  exact ⟨hfin, (replicate_ends Upstream.circle.remote Store.idle ⟨⟨"out"⟩, [], none⟩ "a"
    ()).1 (.inl hfin)⟩

end Vendoring
