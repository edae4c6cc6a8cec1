import Vendoring.Proofs.FileTree.Account
import Vendoring.Proofs.Replicate.Walk

/-!
# The transcript of a walk

A walk makes its calls in a fixed order: a listing, and for every file that it keeps four calls one
after the other, with nothing in between. So a transcript is made of such pieces (`Regular`), and
where the walk fails, there is **one piece more, which was cut off at its last call** (`Broken`).

What is true of all calls of a walk follows from that shape: a call that succeeded asked for a
listing, or it is one of the four for a file (`Regular.mem_cases`).
-/

set_option autoImplicit false

namespace Vendoring

/-- The four calls that keep a file, with the content that was fetched for it. -/
def keptEvents (url : String) (path : LocalPath) (data : ByteArray) : List Event :=
  [.madeDirs path.parent (.ok ()), .touched path (.ok ()), .fetched url (.ok data),
    .wrote path data (.ok ())]

/-- The calls that carry out a filing, all of which succeeded. -/
inductive Filing.Whole : Filing → List Event → Prop where
  | nothing {f : Filing} (h : ∀ url path, f ≠ .kept url path) : Whole f []
  | kept (url : String) (path : LocalPath) (data : ByteArray) :
      Whole (.kept url path) (keptEvents url path data)

/-- The calls that carry out a filing, up to one that failed. -/
inductive Filing.CutOff : Filing → List Event → Prop where
  | makeDirs (url : String) (path : LocalPath) (fault : Fault) :
      CutOff (.kept url path) [.madeDirs path.parent (.error fault)]
  | touch (url : String) (path : LocalPath) (fault : Fault) :
      CutOff (.kept url path) [.madeDirs path.parent (.ok ()), .touched path (.error fault)]
  | fetch (url : String) (path : LocalPath) (fault : Fault) :
      CutOff (.kept url path) [.madeDirs path.parent (.ok ()), .touched path (.ok ()),
        .fetched url (.error fault)]
  | write (url : String) (path : LocalPath) (data : ByteArray) (fault : Fault) :
      CutOff (.kept url path) [.madeDirs path.parent (.ok ()), .touched path (.ok ()),
        .fetched url (.ok data), .wrote path data (.error fault)]

/-- The entry is in a listing that was read. -/
def ReadEntry (events : List Event) (e : Entry) : Prop :=
  ∃ source entries, .listed source (.ok entries) ∈ events ∧ e ∈ entries

/-- The transcript of a walk between two of its pieces. -/
inductive Regular (options : ReplicaOptions) : List Event → Prop where
  | start : Regular options []
  | listing {events : List Event} (url : String) (entries : List Entry)
      (h : Regular options events) : Regular options (events ++ [.listed url (.ok entries)])
  | file {events more : List Event} {e : Entry} (h : Regular options events)
      (he : ReadEntry events e) (hmore : (filing options e).Whole more) :
      Regular options (events ++ more)

/-- The last piece of a walk that failed. A directory that lies too deep is not even asked for. -/
inductive LastPiece (options : ReplicaOptions) (events : List Event) : List Event → Prop where
  | tooDeep : LastPiece options events []
  | listing (url : String) (fault : Fault) : LastPiece options events [.listed url (.error fault)]
  | file {more : List Event} {e : Entry} (he : ReadEntry events e)
      (hmore : (filing options e).CutOff more) : LastPiece options events more

/-- The transcript of a walk that failed. -/
def Broken (options : ReplicaOptions) (events : List Event) : Prop :=
  ∃ before last, Regular options before ∧ LastPiece options before last ∧ events = before ++ last

/-- The whole content that was fetched from `url` went to `path`, for an entry that was read. -/
def Delivers (options : ReplicaOptions) (events : List Event) (url : String) (path : LocalPath)
    (data : ByteArray) : Prop :=
  (∃ e, ReadEntry events e ∧ filing options e = .kept url path) ∧
    keptEvents url path data <:+: events

/-! ## The calls of a transcript -/

theorem wrote_mem_keptEvents {url : String} {path path' : LocalPath} {data data' : ByteArray} :
    .wrote path' data' (.ok ()) ∈ keptEvents url path data ↔ path' = path ∧ data' = data := by
  simp [keptEvents]

theorem touched_mem_keptEvents {url : String} {path path' : LocalPath} {data : ByteArray} :
    .touched path' (.ok ()) ∈ keptEvents url path data ↔ path' = path := by
  simp [keptEvents]

theorem ReadEntry.append {events : List Event} {e : Entry} (h : ReadEntry events e)
    (more : List Event) : ReadEntry (events ++ more) e := by
  obtain ⟨source, entries, hlisted, he⟩ := h
  exact ⟨source, entries, List.mem_append_left more hlisted, he⟩

theorem Delivers.append {options : ReplicaOptions} {events : List Event} {url : String}
    {path : LocalPath} {data : ByteArray} (h : Delivers options events url path data)
    (more : List Event) : Delivers options (events ++ more) url path data := by
  obtain ⟨⟨e, he, hfiling⟩, hpiece⟩ := h
  exact ⟨⟨e, he.append more, hfiling⟩, hpiece.trans (List.prefix_append _ _).isInfix⟩

/-- **A call of a regular transcript asked for a listing or is one of the four for a file.** -/
theorem Regular.mem_cases {options : ReplicaOptions} {events : List Event}
    (h : Regular options events) {call : Event} (hcall : call ∈ events) :
    (∃ url entries, call = .listed url (.ok entries)) ∨
      ∃ url path data, Delivers options events url path data ∧
        call ∈ keptEvents url path data := by
  induction h with
  | start => cases hcall
  | listing url entries _ ih =>
    rcases List.mem_append.1 hcall with hcall | hcall
    · exact (ih hcall).imp_right fun ⟨url, path, data, h, hmem⟩ =>
        ⟨url, path, data, h.append _, hmem⟩
    · exact .inl ⟨url, entries, List.mem_singleton.1 hcall⟩
  | @file events more e _ he hmore ih =>
    rcases List.mem_append.1 hcall with hcall | hcall
    · exact (ih hcall).imp_right fun ⟨url, path, data, h, hmem⟩ =>
        ⟨url, path, data, h.append _, hmem⟩
    · generalize hfiling : filing options e = f at hmore
      cases hmore with
      | nothing => cases hcall
      | kept url path data =>
        refine .inr ⟨url, path, data, ⟨⟨e, he.append _, hfiling⟩, ?_⟩, hcall⟩
        exact (List.suffix_append _ _).isInfix

/-- A walk that goes on has been answered without a failure so far. -/
theorem Regular.fault?_eq_none {options : ReplicaOptions} {events : List Event}
    (h : Regular options events) {call : Event} (hcall : call ∈ events) : call.fault? = none := by
  rcases h.mem_cases hcall with ⟨url, entries, rfl⟩ | ⟨url, path, data, -, hmem⟩
  · rfl
  · have hall : ∀ call ∈ keptEvents url path data, call.fault? = none := by
      simp [keptEvents, Event.fault?]
    exact hall call hmem

/-! ## Walks have transcripts -/

section

variable {σ : Type} {remote : Remote σ} {store : Store σ} {options : ReplicaOptions}

/-- **Carrying out a filing makes all its calls or is cut off in them.** -/
theorem carryOut_meets (f : Filing) (report : Report) (before : List Event) :
    (f.carryOut remote.heard store.heard report).Meets (fun s => s.events = before)
      (fun _ s => ∃ more, f.Whole more ∧ s.events = before ++ more)
      (fun _ s => ∃ more, f.CutOff more ∧ s.events = before ++ more) := by
  cases f with
  | noContent | excluded | noPlace =>
    apply Job.meets_pure
    intro s hs
    exact ⟨[], .nothing nofun, by rw [hs, List.append_nil]⟩
  | kept url path =>
    -- a call comes behind those that are done already, and it is where the filing may be cut off
    have hcall : ∀ {α : Type} (event : Except Fault α → Event) (job : Job σ α) (done : List Event),
        (∀ fault, (Filing.kept url path).CutOff (done ++ [event (.error fault)])) →
        (job.heard event).Meets (fun s => s.events = before ++ done)
          (fun a s => s.events = before ++ (done ++ [event (.ok a)]))
          (fun _ s => ∃ more, (Filing.kept url path).CutOff more ∧ s.events = before ++ more) := by
      intro α event job done hcut
      apply (Job.meets_heard job (before ++ done)).mono
      · exact fun s hs => hs
      · intro a s hs
        rw [hs, List.append_assoc]
      · intro fault s hs
        exact ⟨_, hcut fault, by rw [hs, List.append_assoc]⟩
    have hstart : ∀ s : Heard σ, s.events = before → s.events = before ++ [] := by simp
    refine Job.Meets.mono ?_ hstart (fun _ _ hs => hs) fun _ _ hs => hs
    apply (hcall (.madeDirs path.parent) (store.makeDirs path.parent) _ (.makeDirs url path)).bind
    intro _
    apply (hcall (.touched path) (store.touch path) _ (.touch url path)).bind
    intro _
    apply (hcall (.fetched url) (remote.fetch url) _ (.fetch url path)).bind
    intro data
    apply (hcall (.wrote path data) (store.write path data) _ (.write url path data)).bind
    intro _
    apply Job.meets_pure
    intro s hs
    exact ⟨_, .kept url path data, hs⟩

/-- **The transcript of a walk is regular**, and if the walk fails, it is broken off. -/
theorem replicate_regular (bound : Nat) (url : String) :
    (replicate remote.heard store.heard options bound url).Meets (fun s => s.events = [])
      (fun _ s => Regular options s.events) (fun _ s => Broken options s.events) := by
  let Read : List Entry → Heard σ → Prop := fun entries s => ∀ e ∈ entries, ReadEntry s.events e
  have hlist : ∀ url, (remote.heard.list url).Meets (fun s => Regular options s.events)
      (fun entries s => Regular options s.events ∧ Read entries s)
      (fun _ s => Broken options s.events) := by
    intro url
    apply Job.meets_of_each
    intro s₀ hs₀
    apply (Job.meets_heard (remote.list url) s₀.events).mono
    · rintro s rfl
      rfl
    · intro entries s hs
      refine ⟨by rw [hs]; exact hs₀.listing url entries, fun e he => ⟨url, entries, ?_, he⟩⟩
      rw [hs]
      exact List.mem_append_right _ (List.mem_singleton.2 rfl)
    · intro fault s hs
      exact ⟨s₀.events, _, hs₀, .listing url fault, hs⟩
  have hfile : ∀ entries, ∀ e ∈ entries, ∀ report,
      ((filing options e).carryOut remote.heard store.heard report).Meets
        (fun s => Regular options s.events ∧ Read entries s)
        (fun _ s => Regular options s.events ∧ Read entries s)
        (fun _ s => Broken options s.events) := by
    intro entries e he report
    apply Job.meets_of_each
    rintro s₀ ⟨hs₀, hread⟩
    apply (carryOut_meets (filing options e) report s₀.events).mono
    · rintro s rfl
      rfl
    · rintro _ s ⟨more, hmore, hs⟩
      rw [hs]
      refine ⟨hs₀.file (hread e he) hmore, fun e' he' => ?_⟩
      rw [hs]
      exact (hread e' he').append more
    · rintro _ s ⟨more, hmore, hs⟩
      exact ⟨s₀.events, more, hs₀, .file (hread e he) hmore, hs⟩
  have hdeep : ∀ s : Heard σ, Regular options s.events → Broken options s.events :=
    fun s hs => ⟨s.events, [], hs, .tooDeep, (List.append_nil _).symm⟩
  apply (replicate_meets (fun _ _ _ => hdeep) hlist hfile bound url).mono
  · intro s hs
    rw [hs]
    exact .start
  · exact fun _ s hs => hs
  · exact fun _ s hs => hs

/-- **A walk on a tree accounts for the tree**, at every point and however it ends. -/
theorem replicate_account {tree : σ → FileTree} (hremote : remote.OnTree tree)
    (hstore : store.OnTree tree) (t : FileTree) (bound : Nat) (url : String) :
    (replicate remote.heard store.heard options bound url).Keeps fun s =>
      t.Account s.events (tree s.world) := by
  have hcall : ∀ {α : Type} {event : Except Fault α → Event} {job : Job σ α},
      job.OnTree tree event → (job.heard event).Keeps fun s => t.Account s.events (tree s.world) :=
    fun hjob s hs => hs.call (hjob s.world)
  apply replicate_keeps
  · exact fun url => hcall (hremote.list url)
  · exact fun url => hcall (hremote.fetch url)
  · intro e url path _
    exact ⟨hcall (hstore.makeDirs _), hcall (hstore.touch path),
      fun data => hcall (hstore.write path data)⟩

end

/-- A directory `home/out`. -/
def outPlace : Location := [.text "out", .text "home"]

/-- A file in it. -/
def keptPlace : Location := .text "kept.cc" :: outPlace

/-- A tree with the directory, the file, and beside it a link to it, `alias.cc`. -/
def aliasedTree : FileTree where
  nodes := [([.text "home"], .directory), (outPlace, .directory),
    (keptPlace, .file "old".toUTF8), (.text "alias.cc" :: outPlace, .link ⟨"kept.cc"⟩)]
  cwd := [.text "home"]
  distinct := by decide +kernel

end Vendoring
