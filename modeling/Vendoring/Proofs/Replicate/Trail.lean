import Vendoring.Proofs.Replicate.Depth

/-!
# Which directories lie too deep

A walk lists a directory where it first comes to it, and that need not be on the shortest way: what
stands before it in a listing is gone through first and may lead to it on a longer one. So a limit
that every directory can be reached within may still be exceeded (`shortest_ways_do_not_suffice`),
and another order of the entries may keep it.

What counts is the longest way that comes to no directory twice (`Upstream.Trail`). **If all of them
keep within the limit, no order of the entries makes the walk refuse a directory; if one does not,
some order does** (`replicate_refuses_by_order`): the one in which every listing names first what
the way goes on to.
-/

set_option autoImplicit false

namespace Vendoring

namespace Upstream

/-- One is in the listing of the other. -/
def Lists (u : Upstream) (source url : String) : Prop :=
  ∃ e ∈ u.entries source, e.isDirectory = true ∧ e.listingUrl = url

/-- There is a way from `root` to an address that comes to no directory twice; it leads over the
directories `above`, the nearest first. -/
inductive Trail (u : Upstream) (root : String) : List String → String → Prop where
  | root : u.Trail root [] root
  | down {above : List String} {source url : String} (h : u.Trail root above source)
      (hlists : u.Lists source url) (hnew : url ∉ source :: above) :
      u.Trail root (source :: above) url

/-- No way from `root` goes deeper than the limit without coming to a directory again. -/
def TrailsWithin (u : Upstream) (root : String) (limit : Nat) : Prop :=
  ∀ above url, u.Trail root above url → above.length ≤ limit

/-- The two differ at most in the order of the entries of their listings. -/
structure Reorders (u' u : Upstream) : Prop where
  listing : ∀ url,
    (u'.listing url).map Multiset.ofList = (u.listing url).map Multiset.ofList
  content : u'.content = u.content

section

variable {u u' : Upstream} {root : String}

theorem Trail.nodup {above : List String} {url : String} (h : u.Trail root above url) :
    (url :: above).Nodup := by
  induction h with
  | root => exact List.nodup_singleton root
  | down _ _ hnew ih => exact List.nodup_cons.2 ⟨hnew, ih⟩

theorem Trail.reach {above : List String} {url : String} (h : u.Trail root above url) :
    u.Reach root url := by
  induction h with
  | root => exact .root
  | down _ hlists _ ih =>
    obtain ⟨e, he, hdir, rfl⟩ := hlists
    exact .child ih he hdir

theorem Trail.mono (hlists : ∀ source url, u.Lists source url → u'.Lists source url)
    {above : List String} {url : String} (h : u.Trail root above url) :
    u'.Trail root above url := by
  induction h with
  | root => exact .root
  | down _ hbelow hnew ih => exact .down ih (hlists _ _ hbelow) hnew

/-! ## The order of the entries -/

theorem Reorders.cases (h : u'.Reorders u) (url : String) :
    (∃ fault, u'.listing url = .error fault ∧ u.listing url = .error fault) ∨
      ∃ entries' entries, u'.listing url = .ok entries' ∧ u.listing url = .ok entries ∧
        entries'.Perm entries := by
  have hurl := h.listing url
  rcases hlisting' : u'.listing url with fault' | entries' <;>
    rcases hlisting : u.listing url with fault | entries <;> rw [hlisting', hlisting] at hurl
  · exact .inl ⟨fault, congrArg _ (Except.error.inj hurl), rfl⟩
  · cases hurl
  · cases hurl
  · exact .inr ⟨entries', entries, rfl, rfl, Multiset.coe_eq_coe.1 (Except.ok.inj hurl)⟩

theorem Reorders.lists (h : u'.Reorders u) (source url : String) :
    u'.Lists source url ↔ u.Lists source url := by
  have hmem : ∀ e, e ∈ u'.entries source ↔ e ∈ u.entries source := by
    intro e
    unfold entries
    rcases h.cases source with ⟨fault, h', h⟩ | ⟨entries', entries, h', h, hperm⟩ <;> rw [h', h]
    exact hperm.mem_iff
  simp only [Lists, hmem]

theorem Reorders.trailsWithin (h : u'.Reorders u) {limit : Nat} (hu : u.TrailsWithin root limit) :
    u'.TrailsWithin root limit := fun above url htrail =>
  hu above url (htrail.mono fun source below => (h.lists source below).1)

theorem Reorders.ready (h : u'.Reorders u) {options : ReplicaOptions} {url : String}
    (hu : u.Ready options url) : u'.Ready options url := by
  obtain ⟨_, hlisting, hserves⟩ := hu
  rcases h.cases url with ⟨fault, -, herror⟩ | ⟨entries', entries, hlisting', hok, hperm⟩
  · rw [hlisting] at herror
    cases herror
  · rw [hlisting] at hok
    cases hok
    refine ⟨entries', hlisting', fun e he => ?_⟩
    have hserves := hserves e (hperm.mem_iff.1 he)
    unfold Serves at hserves ⊢
    rwa [h.content]

/-- The entry is a directory to which the way goes on from a listing. -/
def leadsOn (way : List String) (source : String) (e : Entry) : Bool :=
  e.isDirectory && decide ([e.listingUrl, source] <:+: way)

/-- The upstream with every listing in an order that follows a way, the nearest address first: the
directory to which the way goes on comes before all else. -/
def along (u : Upstream) (way : List String) : Upstream where
  listing source := (u.listing source).map fun entries =>
    entries.filter (leadsOn way source) ++ entries.filter fun e => !leadsOn way source e
  content := u.content

theorem reorders_along (u : Upstream) (way : List String) : (u.along way).Reorders u where
  listing source := by
    show Except.map _ (Except.map _ (u.listing source)) = _
    rcases u.listing source with fault | entries
    · rfl
    · exact congrArg Except.ok (Multiset.coe_eq_coe.2 (List.filter_append_perm _ entries))
  content := rfl

theorem entries_along (u : Upstream) (way : List String) (source : String) :
    (u.along way).entries source = (u.entries source).filter (leadsOn way source) ++
      (u.entries source).filter fun e => !leadsOn way source e := by
  rcases hlisting : u.listing source with fault | entries <;>
    simp [Upstream.entries, along, hlisting, Except.map]

/-- On a way that comes to nothing twice, only one address can come after another. -/
theorem eq_of_infix {way : List String} (hway : way.Nodup) {source url url' : String}
    (h : [url, source] <:+: way) (h' : [url', source] <:+: way) : url' = url := by
  obtain ⟨before, after, rfl⟩ := h
  obtain ⟨before', after', hsplit⟩ := h'
  have hsplit : (before ++ [url]) ++ source :: after = (before' ++ [url']) ++ source :: after' := by
    simpa using hsplit.symm
  have hway : ((before ++ [url]) ++ source :: after).Nodup := by simpa using hway
  -- what comes before the source is the same in both
  have hbefore : source ∉ before ++ [url] := fun hmem =>
    List.disjoint_of_nodup_append hway hmem List.mem_cons_self
  have hafter : source ∉ after := (List.nodup_cons.1 hway.of_append_right).1
  obtain ⟨hsame, -⟩ := (List.append_cons_inj_of_notMem hbefore hafter).1 hsplit
  exact (List.singleton_inj.1 (List.append_inj' hsame rfl).2).symm

/-- The listings along a way begin with what it goes on to. -/
theorem subdirectories_along {way : List String} (hway : way.Nodup) {source url : String}
    (hlists : u.Lists source url) (hnext : [url, source] <:+: way) (depth : Nat) :
    ∃ more, subdirectories depth ((u.along way).entries source) = ⟨url, depth + 1⟩ :: more := by
  obtain ⟨e, he, hdir, hurl⟩ := hlists
  have hmem : e ∈ (u.entries source).filter (leadsOn way source) := by
    simpa [leadsOn, he, hdir, hurl] using hnext
  rcases hfirst : (u.entries source).filter (leadsOn way source) with _ | ⟨first, favoured⟩
  · rw [hfirst] at hmem
    cases hmem
  · have hleads : leadsOn way source first = true :=
      (List.mem_filter.1 (by rw [hfirst]; exact List.mem_cons_self)).2
    simp only [leadsOn, Bool.and_eq_true, decide_eq_true_eq] at hleads
    rw [entries_along, hfirst, List.cons_append, subdirectories, List.filter_cons_of_pos hleads.1,
      List.map_cons, eq_of_infix hway hnext hleads.2]
    exact ⟨_, rfl⟩

end

end Upstream

section

variable {σ : Type} {u : Upstream} {store : Store σ} {options : ReplicaOptions} {root : String}
  {limit : Nat}

/-! ## Where the walk comes from -/

/-- What holds between the visits of a walk: what is pending was visited already, or there is a way
to it as long as its depth over directories that were visited. -/
structure Trailing (u : Upstream) (root : String) (w : Walk) (s : Heard σ) : Prop where
  heeded : u.Heeded s
  pending : ∀ here ∈ w.pending, here.url ∈ w.visited ∨
    ∃ above, u.Trail root above here.url ∧ above.length = here.depth ∧
      ∀ url ∈ above, url ∈ w.visited

theorem trailing_from (u : Upstream) (root : String) (world : σ) :
    Trailing u root (.from root) (⟨world, []⟩ : Heard σ) where
  heeded := fun _ _ h => absurd h List.not_mem_nil
  pending := by
    intro here hhere
    rw [List.mem_singleton.1 hhere]
    exact .inr ⟨[], .root, rfl, fun _ h => absurd h List.not_mem_nil⟩

theorem visitsKeep_trailing (root : String) :
    VisitsKeep u.remote.heard store.heard options (Trailing u root) := by
  intro here rest w s w' s' hw hpending hv
  have hheeded : u.Heeded s' := (visit_keeps_heeded here _).of_eq hw.heeded hv
  have hrest : ∀ there ∈ rest, there ∈ w.pending := fun there hthere => by
    rw [hpending]
    exact List.mem_cons_of_mem here hthere
  rcases visit_ok_asks hv with ⟨-, rfl, rfl⟩ | ⟨hnew, entries, report, more, rfl, hevents, -⟩
  · exact ⟨hheeded, fun there hthere => hw.pending there (hrest there hthere)⟩
  · obtain hvisited | ⟨above, htrail, hdepth, habove⟩ :=
      hw.pending here (by rw [hpending]; exact List.mem_cons_self)
    · exact absurd hvisited hnew
    have hentries : u.entries here.url = entries := by
      rw [Upstream.entries, hheeded here.url entries (by simp [hevents])]
    -- a directory listed here was visited, or the way to it is new and leads over this one
    refine ⟨hheeded, fun there hthere => ?_⟩
    rcases List.mem_append.1 hthere with hbelow | hold
    · obtain ⟨e, he, rfl⟩ := List.mem_map.1 hbelow
      obtain ⟨he, hdir⟩ := List.mem_filter.1 he
      have habove' : ∀ url ∈ here.url :: above, url ∈ here.url :: w.visited :=
        List.forall_mem_cons.2
          ⟨List.mem_cons_self, fun url hurl => List.mem_cons_of_mem _ (habove url hurl)⟩
      by_cases hmem : e.listingUrl ∈ here.url :: w.visited
      · exact .inl hmem
      · refine .inr ⟨here.url :: above, ?_, congrArg (· + 1) hdepth, habove'⟩
        exact .down htrail ⟨e, hentries ▸ he, hdir, rfl⟩ fun hurl => hmem (habove' _ hurl)
    · refine (hw.pending there (hrest there hold)).imp (List.mem_cons_of_mem _) ?_
      rintro ⟨above, htrail, hdepth, habove⟩
      exact ⟨above, htrail, hdepth, fun url hurl => List.mem_cons_of_mem _ (habove url hurl)⟩

/-- **With no longer way than the limit, the walk refuses nothing itself.** -/
theorem exists_event_of_tooDeep (hlimit : options.maxDepth = some limit)
    (hu : u.TrailsWithin root limit) {bound : Nat} {world : σ} {url : String} {depth limit' : Nat}
    {final : Heard σ}
    (hrun : replicate u.remote.heard store.heard options bound root ⟨world, []⟩ =
      (.error (.tooDeep url depth limit'), final)) :
    ∃ event ∈ final.events, event.fault? = some (.tooDeep url depth limit') := by
  have hkeep : VisitsKeep u.remote.heard store.heard options (Trailing u root) :=
    visitsKeep_trailing root
  have hstops := walkOn_stops hkeep bound (trailing_from u root world)
  rw [← replicate, hrun] at hstops
  obtain ⟨w, s, here, rest, hw, hpending, hv⟩ := hstops
  rcases visit_error_cases hv with ⟨limit'', hlimit'', hdeep, -, -⟩ | ⟨-, hevent⟩
  · rw [hlimit] at hlimit''
    cases hlimit''
    obtain hvisited | ⟨above, htrail, hdepth, -⟩ :=
      hw.pending here (by rw [hpending]; exact List.mem_cons_self)
    · exact absurd hvisited (visit_error_asks hv).1
    · have hle := hu above here.url htrail
      omega
  · exact hevent

/-! ## Where the walk can be led -/

/-- A visit to a listing that is ready succeeds where the limit lets it pass. -/
theorem visit_of_ready (hstore : store.NeverFails) {here : Pending} (hadmits : options.Admits here)
    (hready : u.Ready options here.url) {w : Walk} (hnew : here.url ∉ w.visited) (world : σ) :
    ∃ report world', visit u.remote store options here w world =
      (.ok ⟨subdirectories here.depth (u.entries here.url) ++ w.pending, here.url :: w.visited,
        report⟩, world') := by
  obtain ⟨report, s, henter, -⟩ := Upstream.enter_ok hstore hadmits hready w.report ⟨world, []⟩
  have hvisit : visit u.remote.traced store.traced options here w ⟨world, []⟩ =
      (.ok ⟨subdirectories here.depth (u.entries here.url) ++ w.pending, here.url :: w.visited,
        report⟩, s) := by
    rw [visit_of_not_mem hnew, Job.bind_ok henter]
    rfl
  have hlockstep : Job.Lockstep (fun (s : Traced σ) world => world = s.world) (fun _ => False)
      (visit u.remote.traced store.traced options here w)
      (visit u.remote store options here w) :=
    visit_lockstep (fun _ => Job.lockstep_traced _ _) (fun _ => Job.lockstep_traced _ _)
      (fun _ => Job.lockstep_traced _ _) (fun _ => Job.lockstep_traced _ _)
      (fun _ _ => Job.lockstep_traced _ _) here w
  rcases hlockstep.together ⟨world, []⟩ world rfl with hnever | ⟨hresult, -⟩
  · exact hnever.elim
  · rw [hvisit] at hresult
    exact ⟨report, _, Prod.ext hresult rfl⟩

/-- **Along a way the walk comes to every directory that the limit lets pass**, each on the way to
the next. -/
theorem walkOn_along (hstore : store.NeverFails) {way : List String} (hway : way.Nodup)
    (hready : ∀ url, u.Reach root url → u.Ready options url) (world : σ) {above : List String}
    {url : String} (htrail : u.Trail root above url) (hsuffix : url :: above <:+ way)
    (hdepth : above.length ≤ limit + 1) :
    ∃ rest report world', ∀ bound,
      walkOn (u.along way).remote store (options.withDepth (some limit)) (above.length + bound)
          (.from root) world =
        walkOn (u.along way).remote store (options.withDepth (some limit)) bound
          ⟨⟨url, above.length⟩ :: rest, above, report⟩ world' := by
  induction htrail with
  | root => exact ⟨[], .empty, world, fun bound => by rw [List.length_nil, Nat.zero_add]; rfl⟩
  | @down above source url htrail hlists hnew ih =>
    obtain ⟨rest, report, world₁, hrun⟩ := ih ((List.suffix_cons _ _).trans hsuffix)
      (Nat.le_of_succ_le hdepth)
    have hadmits : (options.withDepth (some limit)).Admits ⟨source, above.length⟩ := by
      rintro _ ⟨⟩
      exact Nat.le_of_succ_le_succ hdepth
    have hsource : (u.along way).Ready (options.withDepth (some limit)) source :=
      (u.reorders_along way).ready (hready source htrail.reach)
    obtain ⟨report', world₂, hvisit⟩ := visit_of_ready hstore hadmits hsource
      (w := ⟨rest, above, report⟩) (List.nodup_cons.1 htrail.nodup).1 world₁
    have hnext : [url, source] <:+: way :=
      (List.prefix_append [url, source] above).isInfix.trans hsuffix.isInfix
    obtain ⟨more, hmore⟩ := Upstream.subdirectories_along hway hlists hnext above.length
    refine ⟨more ++ rest, report', world₂, fun bound => ?_⟩
    rw [List.length_cons, Nat.add_assoc, Nat.add_comm 1, hrun, walkOn_succ rfl, Job.bind_ok hvisit,
      hmore]
    rfl

variable (options) in
/-- **A longer way than the limit can be followed until the walk refuses a directory.** -/
theorem exists_order_of_trail (hstore : store.NeverFails)
    (hready : ∀ url, u.Reach root url → u.Ready options url) (world : σ) {above : List String}
    {url : String} (htrail : u.Trail root above url) (hdeep : limit < above.length) :
    ∃ u' : Upstream, u'.Reorders u ∧ ∃ bound url',
      (replicate u'.remote store (options.withDepth (some limit)) bound root world).1 =
        .error (.tooDeep url' (limit + 1) limit) := by
  induction htrail with
  | root => exact absurd hdeep (Nat.not_lt_zero limit)
  | @down above source url htrail hlists hnew ih =>
    by_cases hless : limit < above.length
    · exact ih hless
    · -- the way ends right behind the limit
      have hlength : (source :: above).length = limit + 1 := by
        rw [List.length_cons] at hdeep ⊢
        omega
      have htrail' : u.Trail root (source :: above) url := .down htrail hlists hnew
      obtain ⟨rest, report, world', hrun⟩ := walkOn_along hstore htrail'.nodup hready world htrail'
        List.suffix_rfl hlength.le
      refine ⟨u.along (url :: source :: above), u.reorders_along _,
        (source :: above).length + 1, url, ?_⟩
      rw [replicate, hrun, walkOn_succ rfl, hlength, visit_of_not_admits hnew rfl (Nat.lt_succ_self _)]
      rfl

end

/-- **What a limit of depth cuts off, in any order of the entries, are the ways longer than it that
come to no directory twice.** If there are none, the walk refuses no directory, however the entries
are ordered: such a failure can only be the answer to one of its calls. If there is one and all that
can be reached is ready, the walk refuses a directory for some order of the entries. -/
theorem replicate_refuses_by_order {σ : Type} (u : Upstream) (store : Store σ)
    (options : ReplicaOptions) (root : String) (limit : Nat) (world : σ) :
    let run := fun (u' : Upstream) bound => replicate u'.remote.heard store.heard
      (options.withDepth (some limit)) bound root ⟨world, []⟩
    (u.TrailsWithin root limit → ∀ u' : Upstream, u'.Reorders u → ∀ bound url depth limit',
      (run u' bound).1 = .error (.tooDeep url depth limit') →
        ∃ event ∈ (run u' bound).2.events, event.fault? = some (.tooDeep url depth limit')) ∧
    (¬ u.TrailsWithin root limit → store.NeverFails →
      (∀ url, u.Reach root url → u.Ready options url) →
        ∃ u' : Upstream, u'.Reorders u ∧ ∃ bound url,
          (run u' bound).1 = .error (.tooDeep url (limit + 1) limit)) := by
  intro run
  constructor
  · intro hu u' horder bound url depth limit' hresult
    exact exists_event_of_tooDeep rfl (horder.trailsWithin hu) (Prod.ext hresult rfl)
  · intro hu hstore hready
    simp only [Upstream.TrailsWithin, not_forall, Nat.not_le] at hu
    obtain ⟨above, url, htrail, hdeep⟩ := hu
    obtain ⟨u', horder, bound, url', hrun⟩ :=
      exists_order_of_trail options hstore hready world htrail hdeep
    refine ⟨u', horder, bound, url', ?_⟩
    rw [replicate_heard] at hrun
    exact hrun

/-- A directory that the first one lists, and that another directory before it lists too. -/
def Upstream.fork : Upstream where
  listing url := .ok <| match url with
    | "root" => [⟨"a", "top/a", .directory, none, "a"⟩, ⟨"b", "top/b", .directory, none, "b"⟩]
    | "a" => [⟨"b", "top/a/b", .directory, none, "b"⟩]
    | _ => []
  content _ := .ok .empty

theorem Upstream.lists_fork {source url : String} (h : fork.Lists source url) :
    source = "root" ∧ (url = "a" ∨ url = "b") ∨ source = "a" ∧ url = "b" := by
  obtain ⟨e, he, -, rfl⟩ := h
  by_cases hroot : source = "root"
  · subst hroot
    rcases List.mem_cons.1 he with rfl | he
    · exact .inl ⟨rfl, .inl rfl⟩
    · rw [List.mem_singleton.1 he]
      exact .inl ⟨rfl, .inr rfl⟩
  · by_cases ha : source = "a"
    · subst ha
      rw [List.mem_singleton.1 he]
      exact .inr ⟨rfl, rfl⟩
    · simp [Upstream.entries, Upstream.fork] at he

/-- The longest way to `b` leads over `a`. -/
theorem Upstream.trailsWithin_fork : fork.TrailsWithin "root" 2 := by
  intro above url htrail
  have hrank : above.length ≤ if url = "root" then 0 else if url = "a" then 1 else 2 := by
    induction htrail with
    | root => exact le_rfl
    | down _ hlists _ ih =>
      rcases lists_fork hlists with ⟨rfl, rfl | rfl⟩ | ⟨rfl, rfl⟩ <;> simp_all
  refine hrank.trans ?_
  split
  · exact Nat.zero_le 2
  · split <;> simp

theorem Upstream.trail_fork : fork.Trail "root" ["a", "root"] "b" :=
  .down (.down .root ⟨_, .head _, rfl, rfl⟩ (by decide)) ⟨_, .head _, rfl, rfl⟩ (by decide)

/-- A limit of 2 lets the walk come to `b` in any order, and a limit of 1 does not. -/
theorem replicate_refuses_by_order_fork :
    let options : ReplicaOptions := ⟨⟨"out"⟩, [], none⟩
    (∀ u' : Upstream, u'.Reorders .fork → ∀ bound url depth limit',
      (replicate u'.remote.heard Store.idle.heard (options.withDepth (some 2)) bound "root"
          ⟨(), []⟩).1 = .error (.tooDeep url depth limit') →
        ∃ event ∈ (replicate u'.remote.heard Store.idle.heard (options.withDepth (some 2)) bound
          "root" ⟨(), []⟩).2.events, event.fault? = some (.tooDeep url depth limit')) ∧
    ∃ u' : Upstream, u'.Reorders .fork ∧ ∃ bound url,
      (replicate u'.remote.heard Store.idle.heard (options.withDepth (some 1)) bound "root"
        ⟨(), []⟩).1 = .error (.tooDeep url 2 1) := by
  intro options
  refine ⟨(replicate_refuses_by_order .fork Store.idle options "root" 2 ()).1
    Upstream.trailsWithin_fork, ?_⟩
  have hbeyond : ¬ Upstream.fork.TrailsWithin "root" 1 := fun hwithin =>
    absurd (hwithin _ _ Upstream.trail_fork) (by decide)
  refine (replicate_refuses_by_order .fork Store.idle options "root" 1 ()).2 hbeyond
    Store.neverFails_idle ?_
  exact fun url _ => ⟨_, rfl, fun e _ => Upstream.serves_of_content (fun _ => ⟨_, rfl⟩) _⟩

/-- **The shortest ways do not suffice.** It is not so that a walk refuses nothing if each directory
can be reached within the limit. -/
theorem shortest_ways_do_not_suffice :
    ¬ ∀ (u : Upstream) (root : String) (limit : Nat),
      (∀ url, u.Reach root url → ∃ depth ≤ limit, ReachedIn u.Lists root depth url) →
        ∀ bound url depth limit',
          (replicate u.remote Store.idle ⟨⟨"out"⟩, [], some limit⟩ bound root ()).1 ≠
            .error (.tooDeep url depth limit') := by
  intro hall
  refine hall Upstream.fork "root" 1 ?_ 3 "b" 2 1 (by decide +kernel)
  have hstep : ∀ url, Upstream.fork.Lists "root" url →
      ∃ depth ≤ 1, ReachedIn Upstream.fork.Lists "root" depth url :=
    fun url hurl => ⟨1, le_rfl, .down .root hurl⟩
  have hb : Upstream.fork.Lists "root" "b" := ⟨_, .tail _ (.head _), rfl, rfl⟩
  intro url hurl
  induction hurl with
  | root => exact ⟨0, Nat.zero_le 1, .root⟩
  | @child source e _ he hdir _ =>
    have hlists : Upstream.fork.Lists source e.listingUrl := ⟨e, he, hdir, rfl⟩
    rcases Upstream.lists_fork hlists with ⟨rfl, -⟩ | ⟨-, hurl⟩
    · exact hstep _ hlists
    · rw [hurl]
      exact hstep "b" hb

end Vendoring
