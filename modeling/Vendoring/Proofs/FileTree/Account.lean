import Vendoring.Disk
import Vendoring.Proofs.FileTree.Changes
import Vendoring.Proofs.FileTree.Written
import Vendoring.Proofs.Transcript

/-!
# Accounting for what a run leaves

`Event.Leaves` says what one call does to the tree, by the answer that it gets: it does what the
tree does, or it fails and leaves the tree as it was, but for directories that it came to make. From
that alone follows an account of every file behind a run (`FileTree.Account`), whatever failed in
it: **a file that was written to holds what was written last, and any other file is an old one with
its old bytes, or a new one that is empty because it was only touched**.

Where a path led when it was written to does not have to be remembered. The tree retains what it
has, so the path still leads there at the end (`lastWritten_retains`).
-/

set_option autoImplicit false

namespace Vendoring

/-! ## Calls on a tree -/

/-- What becomes of the tree in a call with this answer. -/
def Event.Leaves (t t' : FileTree) : Event → Prop
  | listed _ _ | fetched _ _ => t' = t
  | madeDirs dir (.ok _) => t.makeDirs dir = (t', .ok ())
  | madeDirs _ (.error _) => t.AddsDirs t'
  | touched path (.ok _) => t.touch path = .ok t'
  | wrote path data (.ok _) => t.write path data = .ok t'
  | touched _ (.error _) | wrote _ _ (.error _) => t' = t

/-- The job does to the tree in its world what its event says. -/
def Job.OnTree {σ α : Type} (tree : σ → FileTree) (event : Except Fault α → Event)
    (job : Job σ α) : Prop :=
  ∀ s, (event (job s).1).Leaves (tree s) (tree (job s).2)

/-- The remote side leaves the tree alone. -/
structure Remote.OnTree {σ : Type} (tree : σ → FileTree) (remote : Remote σ) : Prop where
  list : ∀ url, (remote.list url).OnTree tree (.listed url)
  fetch : ∀ url, (remote.fetch url).OnTree tree (.fetched url)

/-- The store is the tree, though any of its calls may fail at any time. -/
structure Store.OnTree {σ : Type} (tree : σ → FileTree) (store : Store σ) : Prop where
  makeDirs : ∀ dir, (store.makeDirs dir).OnTree tree (.madeDirs dir)
  touch : ∀ path, (store.touch path).OnTree tree (.touched path)
  write : ∀ path data, (store.write path data).OnTree tree (.wrote path data)

namespace Store

variable (planned : List PlannedFault)

theorem onTree_change (operation : Operation) (path : LocalPath)
    {f : FileTree → Except FileFault FileTree} {event : Except Fault Unit → Event}
    (hok : ∀ {t t'}, f t = .ok t' → (event (.ok ())).Leaves t t')
    (herror : ∀ fault t, (event (.error fault)).Leaves t t) :
    (unlessPlanned planned operation path (change path f)).OnTree id event := by
  intro t
  rcases change_cases planned operation path f t with ⟨fault, h⟩ | ⟨t', hf, h⟩
  · rw [h]
    exact herror fault t
  · rw [h]
    exact hok hf

/-- **The disk is such a store**, whatever failures are planned. -/
theorem onTree_disk : (disk.withFaults planned).OnTree id where
  makeDirs dir t := by
    have heq : (disk.withFaults planned).makeDirs dir =
        unlessPlanned planned .makeDirs dir (disk.makeDirs dir) := rfl
    rw [heq]
    rcases unlessPlanned_cases planned .makeDirs dir (disk.makeDirs dir) with hjob | ⟨fault, hjob⟩
    · rw [hjob]
      show (Event.madeDirs dir ((t.makeDirs dir).2.mapError (.file dir))).Leaves t
        (t.makeDirs dir).1
      have hadds := FileTree.makeDirs_addsDirs t dir
      rcases hmade : t.makeDirs dir with ⟨t', cause | _⟩ <;> rw [hmade] at hadds
      · exact hadds
      · exact hmade
    · rw [hjob]
      exact .refl t
  touch path := onTree_change planned .touch path id fun _ _ => rfl
  write path data := onTree_change planned .write path id fun _ _ => rfl

end Store

theorem Job.OnTree.within {σ τ α : Type} {tree : σ → FileTree} {event : Except Fault α → Event}
    {job : Job σ α} (h : job.OnTree tree event) {part : τ → σ} {put : σ → τ → τ}
    (hput : ∀ s w, part (put s w) = s) : (job.within part put).OnTree (tree ∘ part) event := by
  intro w
  show (event (job (part w)).1).Leaves (tree (part w)) (tree (part (put (job (part w)).2 w)))
  rw [hput]
  exact h (part w)

theorem Remote.onTree_besideTree {τ : Type} (remote : Remote τ) :
    remote.besideTree.OnTree Prod.fst where
  list _ _ := rfl
  fetch _ _ := rfl

theorem Store.onTree_besideRemote {τ : Type} (planned : List Store.PlannedFault) :
    (besideRemote planned : Store (FileTree × τ)).OnTree Prod.fst where
  makeDirs dir := ((onTree_disk planned).makeDirs dir).within fun _ _ => rfl
  touch path := ((onTree_disk planned).touch path).within fun _ _ => rfl
  write path data := ((onTree_disk planned).write path data).within fun _ _ => rfl

namespace Event

/-- What a call that succeeded made is there. -/
def Done (t : FileTree) : Event → Prop
  | madeDirs dir (.ok _) => t.HasDir dir
  | touched path (.ok _) | wrote path _ (.ok _) => ∃ loc, t.FileAt path loc
  | _ => True

theorem Done.retains {t t' : FileTree} {e : Event} (hdone : e.Done t) (h : t.Retains t') :
    e.Done t' := by
  cases e with
  | listed | fetched => trivial
  | madeDirs dir answer =>
    cases answer with
    | error fault => trivial
    | ok => exact FileTree.HasDir.retains hdone h
  | touched path answer | wrote path data answer =>
    cases answer with
    | error fault => trivial
    | ok =>
      obtain ⟨loc, hfile⟩ := hdone
      exact ⟨loc, hfile.retains h⟩

theorem written?_eq_some {e : Event} {path : LocalPath} {data : ByteArray} :
    e.written? = some (path, data) ↔ e = .wrote path data (.ok ()) := by
  constructor
  · intro h
    cases e with
    | wrote path data answer =>
      cases answer with
      | error fault => cases h
      | ok => cases h; rfl
    | listed | fetched | madeDirs | touched => cases h
  · rintro rfl
    rfl

end Event

/-! ## What was written last -/

namespace FileTree

/-- The bytes that the calls wrote last to a location. -/
def lastWritten (t : FileTree) (events : List Event) (loc : Location) : Option ByteArray :=
  ((events.filterMap Event.written?).filter fun w =>
    (t.locate w.1).toOption = some loc).getLast?.map Prod.snd

section

variable {t t' : FileTree} {events : List Event} {loc : Location}

theorem lastWritten_append (t : FileTree) (events more : List Event) (loc : Location) :
    t.lastWritten (events ++ more) loc =
      (t.lastWritten more loc).or (t.lastWritten events loc) := by
  rw [lastWritten, List.filterMap_append, List.filter_append, List.getLast?_append, Option.map_or]
  rfl

theorem lastWritten_of_not_written {e : Event} (h : e.written? = none) :
    t.lastWritten [e] loc = none := by
  rw [lastWritten, List.filterMap_cons, h]
  rfl

theorem lastWritten_wrote {path : LocalPath} {data : ByteArray} {there : Location}
    (h : t.FileAt path there) (loc : Location) :
    t.lastWritten [.wrote path data (.ok ())] loc = if loc = there then some data else none := by
  have hlocate : (t.locate path).toOption = some there := by rw [h.locate]; rfl
  have hwritten : [Event.wrote path data (.ok ())].filterMap Event.written? = [(path, data)] := rfl
  rw [lastWritten, hwritten, List.filter_cons, hlocate]
  by_cases heq : there = loc <;> simp [heq, eq_comm]

/-- **Where the calls wrote does not change any more.** -/
theorem lastWritten_retains (h : t.Retains t') (hdone : ∀ e ∈ events, e.Done t) (loc : Location) :
    t'.lastWritten events loc = t.lastWritten events loc := by
  rw [lastWritten, lastWritten]
  congr 2
  apply List.filter_congr
  rintro ⟨path, data⟩ hwritten
  obtain ⟨e, he, hwrote⟩ := List.mem_filterMap.1 hwritten
  obtain rfl := Event.written?_eq_some.1 hwrote
  obtain ⟨there, hfile⟩ := hdone _ he
  rw [hfile.locate, (hfile.retains h).locate]

theorem exists_wrote_of_lastWritten {data : ByteArray}
    (h : t.lastWritten events loc = some data) :
    ∃ path, .wrote path data (.ok ()) ∈ events ∧ t.locate path = .ok loc := by
  obtain ⟨⟨path, data⟩, hlast, rfl⟩ := Option.map_eq_some_iff.1 h
  obtain ⟨hwritten, hloc⟩ := List.mem_filter.1 (List.mem_of_getLast? hlast)
  obtain ⟨e, he, hwrote⟩ := List.mem_filterMap.1 hwritten
  obtain rfl := Event.written?_eq_some.1 hwrote
  refine ⟨path, he, ?_⟩
  cases hlocate : t.locate path with
  | error fault => simp [hlocate, Except.toOption] at hloc
  | ok there => simpa [hlocate, Except.toOption] using hloc

theorem lastWritten_ne_none {path : LocalPath} {data : ByteArray}
    (h : .wrote path data (.ok ()) ∈ events) (hloc : t.locate path = .ok loc) :
    t.lastWritten events loc ≠ none := by
  have hmem : (path, data) ∈ (events.filterMap Event.written?).filter fun w =>
      (t.locate w.1).toOption = some loc := by
    refine List.mem_filter.2 ⟨List.mem_filterMap.2 ⟨_, h, rfl⟩, ?_⟩
    simp [hloc, Except.toOption]
  rw [lastWritten, Ne, Option.map_eq_none_iff, List.getLast?_eq_none_iff]
  exact List.ne_nil_of_mem hmem

end

/-! ## The account -/

/-- What is left of `t` behind these calls. -/
structure Account (t : FileTree) (events : List Event) (t' : FileTree) : Prop where
  retains : t.Retains t'
  done : ∀ e ∈ events, e.Done t'
  written : ∀ {loc data}, t'.lastWritten events loc = some data →
    t'.node? loc = some (.file data)
  others : ∀ {loc data}, t'.lastWritten events loc = none → t'.node? loc = some (.file data) →
    t.node? loc = some (.file data) ∨
      t.node? loc = none ∧ data = .empty ∧
        ∃ path, .touched path (.ok ()) ∈ events ∧ t'.FileAt path loc

theorem Account.start (t : FileTree) : t.Account [] t where
  retains := .refl t
  done _ he := nomatch he
  written h := nomatch h
  others _ hnode := .inl hnode

theorem Account.spare {t t₁ t₂ : FileTree} {events : List Event} (h : t.Account events t₁)
    {e : Event} (he : e.written? = none) (hretains : t₁.Retains t₂) (hdone : e.Done t₂)
    (hfiles : ∀ {loc data}, t₂.node? loc = some (.file data) →
      t₁.node? loc = some (.file data) ∨
        t₁.node? loc = none ∧ data = .empty ∧
          ∃ path, e = .touched path (.ok ()) ∧ t₂.FileAt path loc) :
    t.Account (events ++ [e]) t₂ := by
  have hlast : ∀ loc, t₂.lastWritten (events ++ [e]) loc = t₁.lastWritten events loc := by
    intro loc
    rw [lastWritten_append, lastWritten_of_not_written he, Option.none_or,
      lastWritten_retains hretains h.done]
  refine ⟨h.retains.trans hretains, ?_, ?_, ?_⟩
  · intro e' he'
    rcases List.mem_append.1 he' with he' | he'
    · exact (h.done e' he').retains hretains
    · rwa [List.mem_singleton.1 he']
  · intro loc data hwritten
    rw [hlast] at hwritten
    -- it is still a file, and it is not a new one, so it is the same
    have hnode := h.written hwritten
    obtain ⟨data', hnode'⟩ := hretains.node?_file hnode
    rcases hfiles hnode' with hsame | ⟨hnone, -⟩
    · rwa [hnode', ← hsame]
    · rw [hnode] at hnone
      cases hnone
  · intro loc data hwritten hnode
    rw [hlast] at hwritten
    rcases hfiles hnode with hold | ⟨hnone, hempty, path, rfl, hfile⟩
    · rcases h.others hwritten hold with hold | ⟨hnone, hempty, path, hpath, hfile⟩
      · exact .inl hold
      · exact .inr ⟨hnone, hempty, path, List.mem_append_left _ hpath, hfile.retains hretains⟩
    · exact .inr ⟨h.retains.node?_of_none hnone, hempty, path,
        List.mem_append_right _ (List.mem_singleton.2 rfl), hfile⟩

theorem Account.write {t t₁ t₂ : FileTree} {events : List Event} (h : t.Account events t₁)
    {path : LocalPath} {data : ByteArray} (hwrite : t₁.write path data = .ok t₂) :
    t.Account (events ++ [.wrote path data (.ok ())]) t₂ := by
  obtain ⟨there, hfile, hnode?⟩ := write_fileAt hwrite
  have hretains := (grows_of_write hwrite).retains
  -- the written file is accounted for by this call, every other one as before
  have hlast : ∀ loc, t₂.lastWritten (events ++ [.wrote path data (.ok ())]) loc =
      if loc = there then some data else t₁.lastWritten events loc := by
    intro loc
    rw [lastWritten_append, lastWritten_wrote hfile, lastWritten_retains hretains h.done]
    split <;> rfl
  refine ⟨h.retains.trans hretains, ?_, ?_, ?_⟩
  · intro e he
    rcases List.mem_append.1 he with he | he
    · exact (h.done e he).retains hretains
    · rw [List.mem_singleton.1 he]
      exact ⟨there, hfile⟩
  · intro loc data' hwritten
    rw [hlast] at hwritten
    rw [hnode?]
    by_cases heq : loc = there
    · rw [if_pos heq] at hwritten ⊢
      rw [Option.some.inj hwritten]
    · rw [if_neg heq] at hwritten ⊢
      exact h.written hwritten
  · intro loc data' hwritten hnode
    rw [hlast] at hwritten
    rw [hnode?] at hnode
    by_cases heq : loc = there
    · rw [if_pos heq] at hwritten
      cases hwritten
    · rw [if_neg heq] at hwritten hnode
      rcases h.others hwritten hnode with hold | ⟨hnone, hempty, p, hp, hat⟩
      · exact .inl hold
      · exact .inr ⟨hnone, hempty, p, List.mem_append_left _ hp, hat.retains hretains⟩

/-- **One more call keeps the account.** -/
theorem Account.call {t t₁ t₂ : FileTree} {events : List Event} (h : t.Account events t₁)
    {e : Event} (he : e.Leaves t₁ t₂) : t.Account (events ++ [e]) t₂ := by
  cases e with
  | listed | fetched =>
    obtain rfl : t₂ = t₁ := he
    exact h.spare rfl (.refl t₂) trivial .inl
  | madeDirs dir answer =>
    cases answer with
    | error fault =>
      have hadds : t₁.AddsDirs t₂ := he
      exact h.spare rfl hadds.retains trivial fun hfile => .inl (hadds.node?_file hfile)
    | ok =>
      have hmade : t₁.makeDirs dir = (t₂, .ok ()) := he
      have hadds := makeDirs_addsDirs t₁ dir
      rw [hmade] at hadds
      exact h.spare rfl hadds.retains (makeDirs_hasDir hmade) fun hfile =>
        .inl (hadds.node?_file hfile)
  | touched path answer =>
    cases answer with
    | error fault =>
      obtain rfl : t₂ = t₁ := he
      exact h.spare rfl (.refl t₂) trivial .inl
    | ok =>
      obtain ⟨hretains, there, hfile, rfl | ⟨hnone, hnode?⟩⟩ := touch_spec he
      · exact h.spare rfl hretains ⟨there, hfile⟩ .inl
      · have hdone : (Event.touched path (.ok ())).Done t₂ := ⟨there, hfile⟩
        apply h.spare rfl hretains hdone
        intro loc data hnode
        rw [hnode?] at hnode
        split at hnode
        · next hloc =>
          cases hnode
          rw [hloc]
          exact .inr ⟨hnone, rfl, path, rfl, hfile⟩
        · exact .inl hnode
  | wrote path data answer =>
    cases answer with
    | error fault =>
      obtain rfl : t₂ = t₁ := he
      exact h.spare rfl (.refl t₂) trivial .inl
    | ok => exact h.write he

end FileTree

end Vendoring
