import Vendoring.Proofs.Replicate.Transcript

/-!
# What a walk that fails leaves behind

A file is made before its content is fetched, so a walk can fail with a file made and not yet
written. It is at most one, because a walk that fails makes no more calls: **everything else that is
on disk behind a failed walk is as it was or complete** (`replicate_failure`).

The account of the tree says which files were written to and which were only touched. The shape of
the transcript says the rest: what was written is a content that was fetched for the path
(`Regular.delivers`), and what was touched was written too, unless the walk was cut off there
(`Broken.touched`).
-/

set_option autoImplicit false

namespace Vendoring

/-- The file that the last call to touch one names. -/
def FileTree.lastTouched (t : FileTree) (events : List Event) : Option Location :=
  (events.filterMap Event.touched?).getLast?.bind fun path => (t.locate path).toOption

section

variable {options : ReplicaOptions} {events : List Event} {path : LocalPath} {data : ByteArray}

/-! ## Writes and touches in a transcript -/

/-- **What a walk writes is delivered.** -/
theorem Regular.delivers (h : Regular options events)
    (hwrote : .wrote path data (.ok ()) ∈ events) :
    ∃ url, Delivers options events url path data := by
  rcases h.mem_cases hwrote with ⟨url, entries, heq⟩ | ⟨url, path', data', hdelivers, hmem⟩
  · cases heq
  · obtain ⟨rfl, rfl⟩ := wrote_mem_keptEvents.1 hmem
    exact ⟨url, hdelivers⟩

theorem Regular.touched (h : Regular options events)
    (htouched : .touched path (.ok ()) ∈ events) :
    ∃ data, .wrote path data (.ok ()) ∈ events := by
  rcases h.mem_cases htouched with ⟨url, entries, heq⟩ | ⟨url, path', data, ⟨-, hpiece⟩, hmem⟩
  · cases heq
  · obtain rfl := touched_mem_keptEvents.1 hmem
    exact ⟨data, hpiece.subset (wrote_mem_keptEvents.2 ⟨rfl, rfl⟩)⟩

theorem LastPiece.not_wrote {last : List Event} (h : LastPiece options events last)
    (path : LocalPath) (data : ByteArray) : .wrote path data (.ok ()) ∉ last := by
  cases h with
  | tooDeep => simp
  | listing => simp
  | @file _ e _ hmore =>
    generalize filing options e = f at hmore
    cases hmore <;> simp

/-- What is touched where a walk is cut off is the last that is touched. -/
theorem LastPiece.touched {last : List Event} (h : LastPiece options events last)
    (htouched : .touched path (.ok ()) ∈ last) :
    ((events ++ last).filterMap Event.touched?).getLast? = some path := by
  rw [List.filterMap_append, List.getLast?_append]
  cases h with
  | tooDeep => cases htouched
  | listing => cases List.mem_singleton.1 htouched
  | @file _ e _ hmore =>
    generalize filing options e = f at hmore
    cases hmore with
    | makeDirs | touch => simp at htouched
    | fetch url path' | write url path' =>
      obtain rfl : path = path' := by simpa using htouched
      rfl

theorem Broken.delivers (h : Broken options events)
    (hwrote : .wrote path data (.ok ()) ∈ events) :
    ∃ url, Delivers options events url path data := by
  obtain ⟨before, last, hregular, hlast, rfl⟩ := h
  rcases List.mem_append.1 hwrote with hwrote | hwrote
  · obtain ⟨url, hdelivers⟩ := hregular.delivers hwrote
    exact ⟨url, hdelivers.append last⟩
  · exact absurd hwrote (hlast.not_wrote path data)

/-- **What a walk touches it writes, unless it fails before it touches anything else.** -/
theorem Broken.touched (h : Broken options events)
    (htouched : .touched path (.ok ()) ∈ events) :
    (∃ data, .wrote path data (.ok ()) ∈ events) ∨
      (events.filterMap Event.touched?).getLast? = some path := by
  obtain ⟨before, last, hregular, hlast, rfl⟩ := h
  rcases List.mem_append.1 htouched with htouched | htouched
  · obtain ⟨data, hwrote⟩ := hregular.touched htouched
    exact .inl ⟨data, List.mem_append_left last hwrote⟩
  · exact .inr (hlast.touched htouched)

end

/-! ## The files behind a walk that failed -/

section

variable {options : ReplicaOptions} {events : List Event} {t t' : FileTree}

/-- Every file behind a walk that failed is an old one, or one that was delivered, or it is empty
and was touched last. -/
theorem FileTree.Account.files (h : t.Account events t') (hbroken : Broken options events)
    {loc : Location} {data : ByteArray} (hnode : t'.node? loc = some (.file data)) :
    t.node? loc = some (.file data) ∨
      (∃ url path, Delivers options events url path data ∧ t'.locate path = .ok loc) ∨
      t.node? loc = none ∧ data = .empty ∧ t'.lastTouched events = some loc := by
  -- it was written to, or it was at most touched
  cases hlast : t'.lastWritten events loc with
  | some data' =>
    have hdata := h.written hlast
    rw [hnode] at hdata
    cases hdata
    obtain ⟨path, hwrote, hloc⟩ := exists_wrote_of_lastWritten hlast
    obtain ⟨url, hdelivers⟩ := hbroken.delivers hwrote
    exact .inr (.inl ⟨url, path, hdelivers, hloc⟩)
  | none =>
    rcases h.others hlast hnode with hold | ⟨hnone, hempty, path, htouched, hfile⟩
    · exact .inl hold
    · refine .inr (.inr ⟨hnone, hempty, ?_⟩)
      -- a write after the touch would have led to the same file
      rcases hbroken.touched htouched with ⟨data', hwrote⟩ | htouch
      · exact absurd hlast (lastWritten_ne_none hwrote hfile.locate)
      · rw [lastTouched, htouch, Option.bind_some, hfile.locate]
        rfl

end

/-- **A walk that fails leaves everything as it was or complete, but for one empty file.** Nothing
that was there is gone or of another kind. A file that was there holds its old bytes or the whole of
a content that was fetched for a path leading to it. A new file holds such a content, or it is empty
and the one that the walk touched last. -/
theorem replicate_failure {σ : Type} {tree : σ → FileTree} {remote : Remote σ} {store : Store σ}
    (hremote : remote.OnTree tree) (hstore : store.OnTree tree) (options : ReplicaOptions)
    (bound : Nat) (url : String) (world : σ) {fault : Fault} {final : Heard σ}
    (hrun : replicate remote.heard store.heard options bound url ⟨world, []⟩ =
      (.error fault, final)) :
    let t := tree world
    let t' := tree final.world
    let Delivered := fun loc data =>
      ∃ url path, Delivers options final.events url path data ∧ t'.locate path = .ok loc
    (∀ loc node, t.node? loc = some node →
      ∃ node', t'.node? loc = some node' ∧ node'.shape = node.shape) ∧
    (∀ loc old, t.node? loc = some (.file old) →
      ∃ data, t'.node? loc = some (.file data) ∧ (data = old ∨ Delivered loc data)) ∧
    ∀ loc data, t.node? loc = none → t'.node? loc = some (.file data) →
      Delivered loc data ∨ data = .empty ∧ t'.lastTouched final.events = some loc := by
  intro t t' Delivered
  have haccount : t.Account final.events t' :=
    (replicate_account hremote hstore t bound url).of_eq (.start t) hrun
  have hbroken : Broken options final.events := (replicate_regular bound url).error rfl hrun
  refine ⟨fun loc node => haccount.retains.keeps, ?_, ?_⟩
  · intro loc old hold
    obtain ⟨data, hdata⟩ := haccount.retains.node?_file hold
    refine ⟨data, hdata, ?_⟩
    rcases haccount.files hbroken hdata with hsame | hdelivered | ⟨hnone, -⟩
    · rw [hold] at hsame
      cases hsame
      exact .inl rfl
    · exact .inr hdelivered
    · rw [hold] at hnone
      cases hnone
  · intro loc data hnone hdata
    rcases haccount.files hbroken hdata with hold | hdelivered | ⟨-, hempty, hlast⟩
    · rw [hnone] at hold
      cases hold
    · exact .inl hdelivered
    · exact .inr ⟨hempty, hlast⟩

/-- A remote side that offers `alias.cc` and `sub/lost.cc` and cannot serve the second. -/
def halfServing : Remote Unit where
  list _ := pure [⟨"alias.cc", "cpp/alias.cc", .file, some "alias", ""⟩,
    ⟨"lost.cc", "cpp/sub/Lost.cc", .file, some "lost", ""⟩]
  fetch url := if url = "lost" then throw (.network url) else pure "new".toUTF8

/-- The place of the second one. -/
def lostPlace : Location := .text "lost.cc" :: .text "sub" :: outPlace

/-- The old file is delivered over the link, and the new one is left empty. -/
theorem replicate_failure_halfServing :
    ∃ fault final, replicate halfServing.besideTree.heard (Store.besideRemote []).heard
        ⟨⟨"out"⟩, [], none⟩ 1 "cpp" ⟨(aliasedTree, ()), []⟩ = (.error fault, final) ∧
      (∃ url path, Delivers ⟨⟨"out"⟩, [], none⟩ final.events url path "new".toUTF8 ∧
        final.world.1.locate path = .ok keptPlace) ∧
      final.world.1.node? lostPlace = some (.file .empty) := by
  let run := replicate halfServing.besideTree.heard (Store.besideRemote []).heard
    ⟨⟨"out"⟩, [], none⟩ 1 "cpp" ⟨(aliasedTree, ()), []⟩
  obtain ⟨hfails, hkept, hlost⟩ : run.1.toOption.isNone = true ∧
      run.2.world.1.node? keptPlace = some (.file "new".toUTF8) ∧
      run.2.world.1.node? lostPlace = some (.file .empty) := by decide +kernel
  rcases hrun : run with ⟨fault | report, final⟩ <;> rw [hrun] at hfails hkept hlost
  · obtain ⟨-, hold, -⟩ := replicate_failure halfServing.onTree_besideTree
      (Store.onTree_besideRemote []) _ _ _ _ hrun
    obtain ⟨data, hdata, hsame | hdelivered⟩ :=
      hold keptPlace "old".toUTF8 (by decide +kernel)
    · rw [hkept, hsame] at hdata
      have hne : some (Node.file "new".toUTF8) ≠ some (.file "old".toUTF8) := by decide +kernel
      exact absurd hdata hne
    · rw [hkept] at hdata
      cases hdata
      exact ⟨fault, final, hrun, hdelivered, hlost⟩
  · cases hfails

end Vendoring
