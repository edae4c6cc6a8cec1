import Vendoring.Proofs.Replicate.Reach
import Vendoring.Proofs.Replicate.Tally

/-!
# Leaving out more

A walk looks at the extension of a file alone, and only once it holds the listing; so what is left
out decides about this file and about nothing else. **A walk that leaves out more succeeds where one
that leaves out less does, reads the same listings in the same order, and makes the same writes but
for the files that it leaves out in addition** (`replicate_narrowed`). Each of those changes its
place in the report, and no file is missing from either.

The two walks stand at the same directories all the time (`Abreast`). That the second one does not
fail is seen listing by listing: it asks for fewer contents (`Upstream.Ready.excluding`).
-/

set_option autoImplicit false

namespace Vendoring

namespace ReplicaOptions

/-- The same options but for the extensions to leave out. -/
def excluding (options : ReplicaOptions) (extensions : List String) : ReplicaOptions :=
  { options with excludedExtensions := extensions }

/-- These extensions leave the entry out, and those of the options do not. -/
def newlyExcludes (options : ReplicaOptions) (extensions : List String) (e : Entry) : Bool :=
  isExcluded extensions e.path && !isExcluded options.excludedExtensions e.path

end ReplicaOptions

/-! ## One entry -/

theorem isExcluded_mono {extensions more : List String} (h : extensions ⊆ more) {path : String}
    (hpath : isExcluded extensions path = true) : isExcluded more path = true := by
  unfold isExcluded at hpath ⊢
  cases hext : LocalPath.extension? ⟨path⟩ with
  | none =>
    rw [hext] at hpath
    cases hpath
  | some found =>
    rw [hext, List.any_eq_true] at hpath
    obtain ⟨x, hx, hequal⟩ := hpath
    exact List.any_eq_true.2 ⟨x, h hx, hequal⟩

section

variable {options : ReplicaOptions} {more : List String}

/-- **Leaving out more changes nothing for any other entry.** -/
theorem filing_excluding (hmore : options.excludedExtensions ⊆ more) {e : Entry}
    (he : options.newlyExcludes more e = false) :
    filing (options.excluding more) e = filing options e := by
  have hsame : isExcluded more e.path = isExcluded options.excludedExtensions e.path := by
    cases hless : isExcluded options.excludedExtensions e.path with
    | true => exact isExcluded_mono hmore hless
    | false => simpa [ReplicaOptions.newlyExcludes, hless] using he
  unfold filing ReplicaOptions.excluding
  rw [hsame]

theorem filing_excluding_of_newlyExcludes {e : Entry} (he : options.newlyExcludes more e = true)
    (url : String) (path : LocalPath) : filing (options.excluding more) e ≠ .kept url path := by
  intro hkept
  obtain ⟨-, hincluded, -⟩ := filing_eq_kept_iff.1 hkept
  rw [ReplicaOptions.newlyExcludes, Bool.and_eq_true] at he
  exact absurd he.1 (by simpa [ReplicaOptions.excluding] using hincluded)

namespace Upstream

variable {u : Upstream}

theorem written?_excluding (hmore : options.excludedExtensions ⊆ more) (e : Entry) :
    u.written? (filing (options.excluding more) e) =
      if !options.newlyExcludes more e then u.written? (filing options e) else none := by
  cases he : options.newlyExcludes more e with
  | false => rw [filing_excluding hmore he]; rfl
  | true =>
    have hnot := filing_excluding_of_newlyExcludes he
    cases hf : filing (options.excluding more) e with
    | kept url path => exact absurd hf (hnot url path)
    | noContent | excluded | noPlace => rfl

/-- **Where a listing is ready, it is ready for leaving out more.** -/
theorem Ready.excluding (hmore : options.excludedExtensions ⊆ more) {url : String}
    (h : u.Ready options url) : u.Ready (options.excluding more) url := by
  obtain ⟨entries, hlisting, hserves⟩ := h
  refine ⟨entries, hlisting, fun e he => ?_⟩
  cases hnew : options.newlyExcludes more e with
  | false => rw [filing_excluding hmore hnew]; exact hserves e he
  | true =>
    have hnot := filing_excluding_of_newlyExcludes hnew
    cases hf : filing (options.excluding more) e with
    | kept url path => exact absurd hf (hnot url path)
    | noContent | excluded | noPlace => trivial

end Upstream

/-! ## One listing -/

/-- How many files a report counts, in whichever place. -/
def Report.files (r : Report) : Nat := r.updated.length + r.skipped + r.excluded

theorem files_tally (options : ReplicaOptions) (e : Entry) (report : Report) :
    ((filing options e).tally report).files = report.files + [e].countP Entry.isFile := by
  have hfile : filing options e = .noContent ↔ e.isFile = false := filing_eq_noContent_iff
  cases hf : filing options e with
  | noContent => simp [Filing.tally, hfile.1 hf]
  | excluded | noPlace | kept url path =>
    have hcontent : e.isFile = true := by simpa [hf] using hfile
    simp only [List.countP_singleton, hcontent, if_true]
    simp only [Filing.tally, Report.files, Report.countExcluded, Report.countSkipped,
      Report.addUpdated, List.length_append, List.length_singleton]
    omega

section

variable {σ : Type} {remote : Remote σ} {store : Store σ}

/-- **Entering a directory counts its files**, each in one place or another. -/
theorem enter_files (here : Pending) (report : Report) :
    (enter remote store options here report).Meets (fun _ => True)
      (fun found _ => found.2.files = report.files + found.1.countP Entry.isFile)
      (fun _ _ => True) := by
  apply (checkDepth_meets (fun _ _ _ _ _ => trivial) here).bind
  intro _
  apply (Job.Keeps.meets (I := fun _ => True) fun _ _ => trivial).bind
  intro entries
  let Inv : List Entry → Report → σ → Prop := fun done counted _ =>
    counted.files = report.files + done.countP Entry.isFile
  have hstep : ∀ done, ∀ e ∈ entries, ∀ counted,
      ((filing options e).carryOut remote store counted).Meets (Inv done counted)
        (Inv (done ++ [e])) (fun _ _ => True) := by
    intro done e _ counted
    apply Job.meets_of_each
    intro s₀ hs₀
    apply (Filing.carryOut_tally remote store (filing options e) counted).mono
    · exact fun _ _ => trivial
    · rintro _ s rfl
      show _ = _
      rw [files_tally, hs₀, List.countP_append, Nat.add_assoc]
    · exact fun _ _ _ => trivial
  have hfold : (entries.foldlM (fun report e =>
        (filing options e).carryOut remote store report) report.countListing).Meets
      (fun _ => True) (Inv entries) (fun _ _ => True) := by
    apply (Job.meets_foldlM hstep [] report.countListing).mono
    · exact fun _ _ => rfl
    · exact fun _ _ hs => hs
    · exact fun _ _ _ => trivial
  apply hfold.bind
  intro _
  exact Job.meets_pure fun _ hs => hs

end

/-! ## The walk -/

section

variable {σ : Type} {u : Upstream} {store : Store σ}

/-- The two walks stand at the same directories, and their records are those of the same visits. -/
structure Abreast (u : Upstream) (options narrowed : ReplicaOptions) (w : Walk) (s : Traced σ)
    (w' : Walk) (s' : Traced σ) : Prop where
  pending : w'.pending = w.pending
  visited : w'.visited = w.visited
  record : s.calls = w.visited.reverse.flatMap (u.visitCalls options)
  narrowed : s'.calls = w.visited.reverse.flatMap (u.visitCalls narrowed)
  files : w'.report.files = w.report.files

theorem enter_of_ready (hstore : store.NeverFails) {here : Pending} (hadmits : options.Admits here)
    (hready : u.Ready options here.url) (report : Report) (s : Traced σ) :
    ∃ report' s', enter u.remote.traced store.traced options here report s =
        (.ok (u.entries here.url, report'), s') ∧
      report'.files = report.files + (u.entries here.url).countP Entry.isFile ∧
      s'.calls = s.calls ++ u.visitCalls options here.url := by
  obtain ⟨report', s', henter, hcalls⟩ := Upstream.enter_ok hstore hadmits hready report s
  exact ⟨report', s', henter, (enter_files here report).ok trivial henter, hcalls⟩

theorem ready_of_enter_ok (hstore : store.NeverFails) {here : Pending} {report : Report}
    {found : List Entry × Report} {s s' : Traced σ}
    (h : enter u.remote.traced store.traced options here report s = (.ok found, s')) :
    options.Admits here ∧ u.Ready options here.url := by
  have hadmits : options.Admits here := admits_of_enter_ok h
  refine ⟨hadmits, ?_⟩
  by_contra hready
  obtain ⟨fault, s'', herror⟩ := Upstream.enter_error hstore hadmits hready report s
  rw [herror] at h
  cases h

theorem visit_abreast (hstore : store.NeverFails) (hmore : options.excludedExtensions ⊆ more)
    {here : Pending} {rest : List Pending} {w w' w₁ : Walk} {s s' s₁ : Traced σ}
    (h : Abreast u options (options.excluding more) w s w' s')
    (hv : visit u.remote.traced store.traced options here { w with pending := rest } s =
      (.ok w₁, s₁)) :
    ∃ w₁' s₁', visit u.remote.traced store.traced (options.excluding more) here
        { w' with pending := rest } s' = (.ok w₁', s₁') ∧
      Abreast u options (options.excluding more) w₁ s₁ w₁' s₁' := by
  by_cases hmem : here.url ∈ w.visited
  · have hmem' : here.url ∈ w'.visited := by rwa [h.visited]
    rw [visit_of_mem (w := { w with pending := rest }) hmem] at hv
    cases hv
    rw [visit_of_mem (w := { w' with pending := rest }) hmem']
    exact ⟨_, _, rfl, rfl, h.visited, h.record, h.narrowed, h.files⟩
  · have hmem' : here.url ∉ w'.visited := by rwa [h.visited]
    rw [visit_of_not_mem (w := { w with pending := rest }) hmem] at hv
    obtain ⟨found, s₂, hfound, hv⟩ := Job.bind_eq_ok hv
    cases hv
    obtain ⟨hadmits, hready⟩ := ready_of_enter_ok hstore hfound
    obtain ⟨report, s₃, henter, hfiles, hcalls⟩ := enter_of_ready hstore hadmits hready w.report s
    cases hfound.symm.trans henter
    have hadmits' : (options.excluding more).Admits here := hadmits
    obtain ⟨report', s₁', henter', hfiles', hcalls'⟩ :=
      enter_of_ready hstore hadmits' (hready.excluding hmore) w'.report s'
    rw [visit_of_not_mem (w := { w' with pending := rest }) hmem', Job.bind_ok henter']
    refine ⟨_, _, rfl, rfl, ?_, ?_, ?_, ?_⟩
    · exact congrArg (here.url :: ·) h.visited
    · simp [hcalls, h.record]
    · simp [hcalls', h.narrowed]
    · show report'.files = report.files
      rw [hfiles, hfiles', h.files]

/-- **Leaving out more only filters.** Where a walk against an upstream succeeds, one that leaves
out more does so too, in any world. Both read the same listings in the same order; the second makes
the writes of the first, in order, but for the entries that it leaves out in addition; and as many
files are written, skipped or left out by the one as by the other. -/
theorem replicate_narrowed (u : Upstream) {store : Store σ} (hstore : store.NeverFails)
    (options : ReplicaOptions) {more : List String} (hmore : options.excludedExtensions ⊆ more)
    (bound : Nat) (root : String) (world world' : σ) {report : Report} {final : Traced σ}
    (hrun : replicate u.remote.traced store.traced options bound root ⟨world, []⟩ =
      (.ok (some report), final)) :
    ∃ report' final', replicate u.remote.traced store.traced (options.excluding more) bound root
        ⟨world', []⟩ = (.ok (some report'), final') ∧
      listedIn final'.calls = listedIn final.calls ∧
      (let entries := (listedIn final.calls).flatMap u.entries
       writtenIn final.calls = entries.filterMap (fun e => u.written? (filing options e)) ∧
       writtenIn final'.calls = (entries.filter fun e => !options.newlyExcludes more e).filterMap
          fun e => u.written? (filing options e)) ∧
      report'.updated.length + report'.skipped + report'.excluded =
        report.updated.length + report.skipped + report.excluded := by
  have hstart : Abreast u options (options.excluding more) (.from root) (⟨world, []⟩ : Traced σ)
      (.from root) ⟨world', []⟩ := ⟨rfl, rfl, rfl, rfl, rfl⟩
  have hvisit : ∀ here rest w (s : Traced σ) w' s',
      Abreast u options (options.excluding more) w s w' s' → w.pending = here :: rest →
      ∀ w₁ s₁, visit u.remote.traced store.traced options here { w with pending := rest } s =
          (.ok w₁, s₁) →
        ∃ w₁' s₁', visit u.remote.traced store.traced (options.excluding more) here
          { w' with pending := rest } s' = (.ok w₁', s₁') ∧
            Abreast u options (options.excluding more) w₁ s₁ w₁' s₁' :=
    fun _ _ _ _ _ _ h _ _ _ hv => visit_abreast hstore hmore h hv
  obtain ⟨v, v', final', h, rfl, hrun'⟩ :=
    walkOn_follows (fun _ _ _ _ h => h.pending) hvisit bound hstart hrun
  have hlisted : listedIn final.calls = v.visited.reverse := by
    rw [h.record, u.listedIn_visits]
  have hlisted' : listedIn final'.calls = v.visited.reverse := by
    rw [h.narrowed, u.listedIn_visits]
  refine ⟨v'.report, final', hrun', hlisted'.trans hlisted.symm, ⟨?_, ?_⟩, h.files⟩
  · rw [hlisted, h.record, u.writtenIn_visits, List.filterMap_flatMap]
    rfl
  · rw [hlisted, h.narrowed, u.writtenIn_visits, List.filterMap_filter, List.filterMap_flatMap]
    refine List.flatMap_congr fun url _ => ?_
    exact List.filterMap_congr fun e _ => Upstream.written?_excluding hmore e

end

end

/-- A directory that is in itself, with two files that have a place, one of which may be left out,
one that may be left out and has none, and one to leave out in any case. -/
def Upstream.graded : Upstream where
  listing _ := .ok [⟨"a.cc", "cpp/a.cc", .file, some "first", ""⟩,
    ⟨"b.gradle", "cpp/b.gradle", .file, some "second", ""⟩,
    ⟨"c.gradle", "c.gradle", .file, some "third", ""⟩,
    ⟨"D.java", "cpp/D.java", .file, some "fourth", ""⟩,
    ⟨"cpp", "cpp", .directory, none, "cpp"⟩]
  content url := .ok url.toUTF8

theorem replicate_narrowed_graded :
    let options : ReplicaOptions := ⟨⟨"out"⟩, ["java"], none⟩
    let run := fun options => replicate Upstream.graded.remote.traced Store.idle.traced options 2
      "cpp" ⟨(), []⟩
    ∃ report final report' final', run options = (.ok (some report), final) ∧
      run (options.excluding ["gradle", "java"]) = (.ok (some report'), final') ∧
      writtenIn final.calls =
        [(⟨"out/a.cc"⟩, "first".toUTF8), (⟨"out/b.gradle"⟩, "second".toUTF8)] ∧
      writtenIn final'.calls = [(⟨"out/a.cc"⟩, "first".toUTF8)] ∧
      report'.updated.length + report'.skipped + report'.excluded = 4 := by
  intro options run
  obtain ⟨hsucceeds, hlisted⟩ : (run options).1.toOption =
      some (some ⟨[⟨"out/a.cc"⟩, ⟨"out/b.gradle"⟩], 1, 1, 1⟩) ∧
      listedIn (run options).2.calls = ["cpp"] := by decide +kernel
  rcases hrun : run options with ⟨fault | report?, final⟩ <;> rw [hrun] at hsucceeds hlisted
  · cases hsucceeds
  · obtain rfl := Option.some.inj hsucceeds
    have hmore : options.excludedExtensions ⊆ ["gradle", "java"] := by decide
    obtain ⟨report', final', hrun', -, ⟨hwritten, hwritten'⟩, hfiles⟩ :=
      replicate_narrowed Upstream.graded Store.neverFails_idle options hmore 2 "cpp" () () hrun
    rw [hlisted] at hwritten hwritten'
    refine ⟨_, final, report', final', rfl, hrun', ?_, ?_, hfiles⟩
    · rw [hwritten]
      decide +kernel
    · rw [hwritten']
      decide +kernel

end Vendoring
