import Mathlib.Data.Multiset.Bind
import Mathlib.Data.Set.Finite.Basic
import Vendoring.Disk
import Vendoring.Proofs.Upstream

/-!
# The walk finds exactly what can be reached

Against an upstream, `Upstream.Reach` is the least set of addresses that holds the first one and,
with each of its addresses, those of the directories in its listing. **A walk without a limit of
depth succeeds exactly if all of them are ready, and then it lists each of them once and writes
what their entries say** (`replicate_reaches`).

The invariant is `Explored`: what was visited has its directories among the visited and the pending
ones, everything known can be reached, and the record is that of the visits. With nothing pending
the visited addresses are closed, so nothing that can be reached is missing.
-/

set_option autoImplicit false

namespace Vendoring

namespace Upstream

/-- The addresses that a walk from `root` has to come to. -/
inductive Reach (u : Upstream) (root : String) : String → Prop where
  | root : u.Reach root root
  | child {url : String} {e : Entry} (hurl : u.Reach root url) (he : e ∈ u.entries url)
      (hdir : e.isDirectory = true) : u.Reach root e.listingUrl

end Upstream

/-- The address is visited, or it is pending. -/
def Walk.Knows (w : Walk) (url : String) : Prop :=
  url ∈ w.visited ∨ ∃ here ∈ w.pending, here.url = url

/-- What holds between the visits of a walk from `root`. -/
structure Explored {σ : Type} (u : Upstream) (options : ReplicaOptions) (root : String) (w : Walk)
    (s : Traced σ) : Prop where
  nodup : w.visited.Nodup
  knows_root : w.Knows root
  reach : ∀ url, w.Knows url → u.Reach root url
  closed : ∀ url ∈ w.visited, ∀ e ∈ u.entries url, e.isDirectory = true → w.Knows e.listingUrl
  ready : ∀ url ∈ w.visited, u.Ready options url
  record : s.calls = w.visited.reverse.flatMap (u.visitCalls options)

section

variable {σ : Type} {u : Upstream} {store : Store σ} {options : ReplicaOptions} {root : String}

theorem explored_from (u : Upstream) (options : ReplicaOptions) (root : String) (world : σ) :
    Explored u options root (.from root) (⟨world, []⟩ : Traced σ) where
  nodup := List.nodup_nil
  knows_root := .inr ⟨⟨root, 0⟩, List.mem_singleton_self _, rfl⟩
  reach := by
    rintro url (hurl | ⟨here, hhere, rfl⟩)
    · cases hurl
    · rw [List.mem_singleton.1 hhere]
      exact .root
  closed := fun url hurl => absurd hurl List.not_mem_nil
  ready := fun url hurl => absurd hurl List.not_mem_nil
  record := rfl

/-- Taking a visited address off the stack changes nothing about what is known. -/
theorem knows_of_mem_visited {w : Walk} {here : Pending} {rest : List Pending}
    (hpending : w.pending = here :: rest) (hmem : here.url ∈ w.visited) (url : String) :
    Walk.Knows { w with pending := rest } url ↔ w.Knows url := by
  simp only [Walk.Knows, hpending, List.mem_cons]
  constructor
  · rintro (hurl | ⟨there, hthere, rfl⟩)
    · exact .inl hurl
    · exact .inr ⟨there, .inr hthere, rfl⟩
  · rintro (hurl | ⟨there, rfl | hthere, rfl⟩)
    · exact .inl hurl
    · exact .inl hmem
    · exact .inr ⟨there, hthere, rfl⟩

/-- Entering a directory makes its own directories known, and forgets nothing. -/
theorem knows_of_entered {w : Walk} {here : Pending} {rest : List Pending}
    (hpending : w.pending = here :: rest) (entries : List Entry) (report : Report) (url : String) :
    Walk.Knows ⟨subdirectories here.depth entries ++ rest, here.url :: w.visited, report⟩ url ↔
      w.Knows url ∨ ∃ e ∈ entries, e.isDirectory = true ∧ e.listingUrl = url := by
  simp only [Walk.Knows, hpending, List.mem_cons, List.mem_append, subdirectories, List.mem_map,
    List.mem_filter]
  constructor
  · rintro ((rfl | hurl) | ⟨there, ⟨e, he, rfl⟩ | hthere, rfl⟩)
    · exact .inl (.inr ⟨here, .inl rfl, rfl⟩)
    · exact .inl (.inl hurl)
    · exact .inr ⟨e, he.1, he.2, rfl⟩
    · exact .inl (.inr ⟨there, .inr hthere, rfl⟩)
  · rintro ((hurl | ⟨there, rfl | hthere, rfl⟩) | ⟨e, he, hdir, rfl⟩)
    · exact .inl (.inr hurl)
    · exact .inl (.inl rfl)
    · exact .inr ⟨there, .inr hthere, rfl⟩
    · exact .inr ⟨_, .inl ⟨e, ⟨he, hdir⟩, rfl⟩, rfl⟩

theorem visitsKeep_explored (root : String) (hstore : store.NeverFails)
    (hdepth : options.maxDepth = none) :
    VisitsKeep u.remote.traced store.traced options (Explored u options root) := by
  intro here rest w s w' s' hw hpending hv
  have hhere : u.Reach root here.url :=
    hw.reach _ (.inr ⟨here, by rw [hpending]; exact List.mem_cons_self, rfl⟩)
  by_cases hmem : here.url ∈ w.visited
  · -- an address that is known already: nothing is listed and nothing is forgotten
    have hmem' : here.url ∈ ({ w with pending := rest } : Walk).visited := hmem
    rw [visit_of_mem hmem'] at hv
    cases hv
    have hknows := knows_of_mem_visited hpending hmem
    exact {
      nodup := hw.nodup
      knows_root := (hknows root).2 hw.knows_root
      reach := fun url hurl => hw.reach url ((hknows url).1 hurl)
      closed := fun url hurl e he hdir => (hknows _).2 (hw.closed url hurl e he hdir)
      ready := hw.ready
      record := hw.record }
  · have hmem' : here.url ∉ ({ w with pending := rest } : Walk).visited := hmem
    rw [visit_of_not_mem hmem'] at hv
    have hadmits := admits_of_unlimited hdepth here
    by_cases hready : u.Ready options here.url
    · obtain ⟨report', s₁, henter, hcalls⟩ := Upstream.enter_ok hstore hadmits hready w.report s
      rw [Job.bind_ok henter] at hv
      cases hv
      have hknows := knows_of_entered hpending (u.entries here.url) report'
      refine {
        nodup := List.nodup_cons.2 ⟨hmem, hw.nodup⟩
        knows_root := (hknows root).2 (.inl hw.knows_root)
        reach := ?_
        closed := ?_
        ready := List.forall_mem_cons.2 ⟨hready, hw.ready⟩
        record := ?_ }
      · intro url hurl
        rcases (hknows url).1 hurl with hold | ⟨e, he, hdir, rfl⟩
        · exact hw.reach url hold
        · exact .child hhere he hdir
      · intro url hurl e he hdir
        rcases List.mem_cons.1 hurl with rfl | hold
        · exact (hknows _).2 (.inr ⟨e, he, hdir, rfl⟩)
        · exact (hknows _).2 (.inl (hw.closed url hold e he hdir))
      · simp [hcalls, hw.record]
    · -- a visit that succeeds was one to a listing that is ready
      obtain ⟨fault, s₁, henter⟩ := Upstream.enter_error hstore hadmits hready w.report s
      rw [Job.bind_error henter] at hv
      cases hv

/-! ## Where the walk stops -/

theorem visit_ok (hstore : store.NeverFails) (hdepth : options.maxDepth = none) {here : Pending}
    (hready : u.Ready options here.url) (w : Walk) (s : Traced σ) :
    ∃ w' s', visit u.remote.traced store.traced options here w s = (.ok w', s') := by
  by_cases hmem : here.url ∈ w.visited
  · exact ⟨w, s, by rw [visit_of_mem hmem]; rfl⟩
  · have hadmits := admits_of_unlimited hdepth here
    obtain ⟨report, s', henter, -⟩ := Upstream.enter_ok hstore hadmits hready w.report s
    rw [visit_of_not_mem hmem, Job.bind_ok henter]
    exact ⟨_, s', rfl⟩

theorem Explored.mem_visited_iff {w : Walk} {s : Traced σ} (hw : Explored u options root w s)
    (hpending : w.pending = []) (url : String) : url ∈ w.visited ↔ u.Reach root url := by
  have hknows : ∀ url, w.Knows url → url ∈ w.visited := by
    rintro url (hurl | ⟨here, hhere, -⟩)
    · exact hurl
    · rw [hpending] at hhere
      cases hhere
  constructor
  · exact fun hurl => hw.reach url (.inl hurl)
  · intro hurl
    induction hurl with
    | root => exact hknows _ hw.knows_root
    | child _ he hdir ih => exact hknows _ (hw.closed _ ih _ he hdir)

theorem Explored.listedIn_eq {w : Walk} {s : Traced σ} (hw : Explored u options root w s) :
    listedIn s.calls = w.visited.reverse := by
  rw [hw.record, u.listedIn_visits]

theorem Explored.writtenIn_eq {w : Walk} {s : Traced σ} (hw : Explored u options root w s) :
    writtenIn s.calls = w.visited.reverse.flatMap (u.writes options) := by
  rw [hw.record, u.writtenIn_visits]

theorem Explored.settled {w : Walk} {s : Traced σ} (hw : Explored u options root w s) :
    Contents.Settled s.calls := by
  rw [hw.record]
  exact Contents.settled_flatMap fun url _ => u.settled_visitCalls options url

theorem explored_of_replicate (hstore : store.NeverFails) (hdepth : options.maxDepth = none)
    {bound : Nat} {world : σ} {report : Report} {final : Traced σ}
    (hrun : replicate u.remote.traced store.traced options bound root ⟨world, []⟩ =
      (.ok (some report), final)) :
    ∃ w, Explored u options root w final ∧ w.pending = [] := by
  have hstops := walkOn_stops (visitsKeep_explored root hstore hdepth) bound
    (explored_from u options root world)
  rw [← replicate, hrun] at hstops
  obtain ⟨w, hw, hpending, -⟩ := hstops
  exact ⟨w, hw, hpending⟩

/-- Nothing can go wrong where all is ready, so the end that comes is a good one. -/
theorem exists_replicate_of_ready (hstore : store.NeverFails) (hdepth : options.maxDepth = none)
    (hreach : {url | u.Reach root url}.Finite)
    (hready : ∀ url, u.Reach root url → u.Ready options url) (world : σ) :
    ∃ bound report final,
      replicate u.remote.traced store.traced options bound root ⟨world, []⟩ =
        (.ok (some report), final) := by
  have hkeep := visitsKeep_explored (u := u) root hstore hdepth
  have hstart := explored_from u options root world
  have hurls : ∀ w (s : Traced σ), Explored u options root w s →
      ∀ here ∈ w.pending, here.url ∈ hreach.toFinset := fun w s hw here hhere =>
    hreach.mem_toFinset.2 (hw.reach here.url (.inr ⟨here, hhere, rfl⟩))
  obtain ⟨bound, hbound⟩ := exists_bound hkeep hurls hstart
  have hstops := walkOn_stops hkeep bound hstart
  rw [← replicate] at hbound hstops
  rcases hrun : replicate u.remote.traced store.traced options bound root ⟨world, []⟩ with
    ⟨fault | _ | report, final⟩
  · -- only a visit can fail, and all visits are to addresses that are ready
    rw [hrun] at hstops
    obtain ⟨w, s, here, rest, hw, hpending, hv⟩ := hstops
    have hhere : u.Reach root here.url :=
      hw.reach _ (.inr ⟨here, by rw [hpending]; exact List.mem_cons_self, rfl⟩)
    obtain ⟨w', s', hv'⟩ :=
      visit_ok hstore hdepth (hready here.url hhere) { w with pending := rest } s
    rw [hv] at hv'
    cases hv'
  · exact absurd (by rw [hrun]) hbound
  · exact ⟨bound, report, final, hrun⟩

/-- **A walk without a limit of depth succeeds exactly if all that can be reached is ready, and then
it lists each reachable address once, writes what the entries there say, each as often as it stands
in a listing, and leaves in every path what the last entry for it says.** -/
theorem replicate_reaches (u : Upstream) (store : Store σ) (hstore : store.NeverFails)
    (options : ReplicaOptions) (hdepth : options.maxDepth = none) (root : String)
    (hreach : {url | u.Reach root url}.Finite) (world : σ) :
    ((∃ bound report final,
        replicate u.remote.traced store.traced options bound root ⟨world, []⟩ =
          (.ok (some report), final)) ↔
      ∀ url, u.Reach root url → u.Ready options url) ∧
    ∀ bound report final,
      replicate u.remote.traced store.traced options bound root ⟨world, []⟩ =
        (.ok (some report), final) →
      (listedIn final.calls).Nodup ∧
      (∀ url, url ∈ listedIn final.calls ↔ u.Reach root url) ∧
      (writtenIn final.calls : Multiset (LocalPath × ByteArray)) =
        hreach.toFinset.val.bind (fun url => (u.writes options url : Multiset _)) ∧
      ∀ (files : Contents) (path : LocalPath), files.afterAll final.calls path =
        ((((listedIn final.calls).flatMap (u.writes options)).filter (·.1 = path)).getLast?.map
          Prod.snd).or (files path) := by
  refine ⟨⟨?_, ?_⟩, ?_⟩
  · rintro ⟨bound, report, final, hrun⟩ url hurl
    obtain ⟨w, hw, hpending⟩ := explored_of_replicate hstore hdepth hrun
    exact hw.ready url ((hw.mem_visited_iff hpending url).2 hurl)
  · intro hready
    exact exists_replicate_of_ready hstore hdepth hreach hready world
  · intro bound report final hrun
    obtain ⟨w, hw, hpending⟩ := explored_of_replicate hstore hdepth hrun
    have hmem : ∀ url, url ∈ listedIn final.calls ↔ u.Reach root url := by
      intro url
      rw [hw.listedIn_eq, List.mem_reverse, hw.mem_visited_iff hpending]
    have hnodup : (listedIn final.calls).Nodup := by
      rw [hw.listedIn_eq]
      exact List.nodup_reverse.2 hw.nodup
    refine ⟨hnodup, hmem, ?_, ?_⟩
    · have hval : hreach.toFinset.val = (listedIn final.calls : Multiset String) := by
        refine (Multiset.Nodup.ext hreach.toFinset.nodup (Multiset.coe_nodup.2 hnodup)).2 ?_
        intro url
        rw [Finset.mem_val, hreach.mem_toFinset, Multiset.mem_coe, hmem]
        rfl
      rw [hval, Multiset.coe_bind, hw.writtenIn_eq, hw.listedIn_eq]
    · intro files path
      rw [hw.settled, Contents.foldl_put, hw.writtenIn_eq, hw.listedIn_eq]

end

theorem Store.neverFails_idle {σ : Type} : (Store.idle : Store σ).NeverFails where
  makeDirs _ _ := rfl
  touch _ _ := rfl
  write _ _ _ := rfl

/-- Two directories that list each other, and a file in the first of them. -/
def Upstream.circle : Upstream where
  listing
    | "a" => .ok [⟨"f", "top/f", .file, some "a/f", ""⟩, ⟨"b", "top/b", .directory, none, "b"⟩]
    | "b" => .ok [⟨"a", "top/a", .directory, none, "a"⟩]
    | _ => .ok []
  content _ := .ok .empty

theorem Upstream.reach_circle {url : String} (h : circle.Reach "a" url) :
    url = "a" ∨ url = "b" := by
  induction h with
  | root => exact .inl rfl
  | child _ he hdir ih =>
    rcases ih with rfl | rfl
    · rcases List.mem_cons.1 he with rfl | he
      · cases hdir
      · rw [List.mem_singleton.1 he]
        exact .inr rfl
    · rw [List.mem_singleton.1 he]
      exact .inl rfl

theorem replicate_circle :
    ∃ bound report final,
      replicate Upstream.circle.remote.traced Store.idle.traced ⟨⟨"out"⟩, [], none⟩ bound "a"
        ⟨(), []⟩ = (.ok (some report), final) ∧
      (listedIn final.calls).Nodup ∧ "b" ∈ listedIn final.calls := by
  have hfinite : {url | Upstream.circle.Reach "a" url}.Finite :=
    (Set.toFinite {"a", "b"}).subset fun _ hurl => Upstream.reach_circle hurl
  have hserves : ∀ f : Filing, Upstream.circle.Serves f :=
    Upstream.serves_of_content fun _ => ⟨_, rfl⟩
  have hb : Upstream.circle.Reach "a" "b" :=
    .child (e := ⟨"b", "top/b", .directory, none, "b"⟩) .root (.tail _ (.head _)) rfl
  obtain ⟨hiff, hrun⟩ := replicate_reaches Upstream.circle Store.idle Store.neverFails_idle
    ⟨⟨"out"⟩, [], none⟩ rfl "a" hfinite ()
  obtain ⟨bound, report, final, heq⟩ := hiff.2 fun url hurl => by
    rcases Upstream.reach_circle hurl with rfl | rfl <;> exact ⟨_, rfl, fun e _ => hserves _⟩
  obtain ⟨hnodup, hmem, -⟩ := hrun bound report final heq
  exact ⟨bound, report, final, heq, hnodup, (hmem "b").2 hb⟩

end Vendoring
