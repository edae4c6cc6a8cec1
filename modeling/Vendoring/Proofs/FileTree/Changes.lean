import Vendoring.FileTree.Change
import Vendoring.Proofs.FileTree.Shortened

/-!
# What the operations of a run leave behind

The tree after an operation retains the tree before it, whether the operation succeeds or fails. And
an operation that succeeded can be done again: what it made is there for good, so it finds its work
done (`makeDirs_of_hasDir`, `touch_of_fileAt`), and a write finds its file (`write_of_fileAt`).

Making directories is the one operation that can stop half-way. `Chains` has a rule for each way in
which it comes to an end, so what holds of it is shown rule by rule: whatever the end is, it leaves
directories and nothing else (`makeDirs_addsDirs`).
-/

set_option autoImplicit false

namespace Vendoring

/-! ## The last step of a route -/

namespace FileTree

theorem splitLastStep_eq (p : LocalPath) : splitLastStep (Route.ofPath p).steps =
    ((Route.stepsOf (LocalPath.splitSlash p.text.toList)).dropLast,
      (Route.stepsOf (LocalPath.splitSlash p.text.toList)).getLast?) := by
  rw [splitLastStep, Route.filter_ofPath]

theorem splitLastStep_ofPath (p : LocalPath) :
    ∃ before last, splitLastStep (Route.ofPath p).steps = (before, last) ∧
      (last = none → before = []) ∧
      ((Route.ofPath p).steps = before ++ last.toList ∨
        (Route.ofPath p).steps = before ++ last.toList ++ [.enter]) := by
  have hsplit := splitLastStep_eq p
  have hsteps := Route.ofPath_steps p
  generalize Route.stepsOf (LocalPath.splitSlash p.text.toList) = steps at hsplit hsteps
  -- without a step left, the route is the one to the root
  rcases List.eq_nil_or_concat steps with rfl | ⟨before, last, rfl⟩
  · exact ⟨[], none, hsplit, fun _ => rfl, hsteps⟩
  · rw [List.concat_eq_append] at hsteps hsplit
    exact ⟨before, some last, by simpa using hsplit, nofun, hsteps⟩

/-! ## One directory -/

/-- The tree got some directories and is the same otherwise. -/
structure AddsDirs (t t' : FileTree) : Prop where
  cwd : t'.cwd = t.cwd
  keeps : ∀ {loc node}, t.node? loc = some node → t'.node? loc = some node
  adds : ∀ {loc node}, t.node? loc = none → t'.node? loc = some node → node = .directory

namespace AddsDirs

theorem refl (t : FileTree) : t.AddsDirs t where
  cwd := rfl
  keeps h := h
  adds hnone hsome := by rw [hnone] at hsome; cases hsome

theorem trans {t₁ t₂ t₃ : FileTree} (h : t₁.AddsDirs t₂) (h' : t₂.AddsDirs t₃) :
    t₁.AddsDirs t₃ where
  cwd := h'.cwd.trans h.cwd
  keeps hnode := h'.keeps (h.keeps hnode)
  adds {loc node} hnone hnode := by
    cases hnode₂ : t₂.node? loc with
    | none => exact h'.adds hnode₂ hnode
    | some node₂ =>
      have hsame := h'.keeps hnode₂
      rw [hnode] at hsame
      cases hsame
      exact h.adds hnone hnode₂

theorem retains {t t' : FileTree} (h : t.AddsDirs t') : t.Retains t' where
  cwd := h.cwd
  keeps hnode := ⟨_, h.keeps hnode, rfl⟩

theorem node?_file {t t' : FileTree} (h : t.AddsDirs t') {loc : Location} {data : ByteArray}
    (hfile : t'.node? loc = some (.file data)) : t.node? loc = some (.file data) := by
  cases hnode : t.node? loc with
  | none => cases h.adds hnode hfile
  | some node => rw [← hfile, h.keeps hnode]

theorem insert {t : FileTree} {loc : Location} (hnone : t.node? loc = none) :
    t.AddsDirs (t.insert loc .directory) := by
  have hne : loc ≠ [] := by
    rintro rfl
    cases hnone
  refine ⟨rfl, fun {l node} hnode => ?_, fun {l node} hl hnode => ?_⟩
  · rw [node?_insert t hne, if_neg, hnode]
    rintro rfl
    rw [hnone] at hnode
    cases hnode
  · rw [node?_insert t hne] at hnode
    split at hnode
    · exact (Option.some.inj hnode).symm
    · rw [hl] at hnode
      cases hnode

end AddsDirs

/-- A directory that is made is made behind a directory that is there, in the place of nothing. -/
theorem makeDir_eq_ok {t t' : FileTree} {p : LocalPath} (h : t.makeDir p = .ok t') :
    ∃ before name dir, Route.ofPath? p = .ok (.ofPath p) ∧
      splitLastStep (Route.ofPath p).steps = (before, some (.down name)) ∧
      t.locateDirectory (Route.ofPath p).absolute before = .ok dir ∧
      name.bytes.size ≤ maxNameLength ∧ t.node? (name :: dir) = none ∧
      t' = t.insert (name :: dir) .directory := by
  rw [makeDir] at h
  cases hroute : Route.ofPath? p with
  | error fault =>
    rw [hroute] at h
    cases h
  | ok route =>
    obtain rfl := (Route.ofPath?_eq_ok hroute).2
    rw [hroute] at h
    obtain ⟨before, last, hsplit, -, -⟩ := splitLastStep_ofPath p
    simp only [bind, Except.bind, hsplit] at h
    cases hdir : t.locateDirectory (Route.ofPath p).absolute before with
    | error fault =>
      rw [hdir] at h
      cases h
    | ok dir =>
      rw [hdir] at h
      dsimp only at h
      split at h
      · next name =>
        split at h
        · cases h
        · next hname =>
          split at h
          · cases h
          · next hnone =>
            cases h
            refine ⟨before, name, dir, rfl, hsplit, hdir, Nat.le_of_not_lt hname, ?_, rfl⟩
            simpa using hnone
      · cases h

/-- **A directory that was made is there**, and nothing else is new. -/
theorem makeDir_spec {t t' : FileTree} {p : LocalPath} (h : t.makeDir p = .ok t') :
    t.AddsDirs t' ∧ ∃ dir, t'.DirectoryAt p dir ∧
      ∀ loc, loc ≠ dir → t'.node? loc = t.node? loc := by
  obtain ⟨before, name, dir, hroute, hsplit, hdir, hname, hnone, rfl⟩ := makeDir_eq_ok h
  have hadds : t.AddsDirs (t.insert (name :: dir) .directory) := .insert hnone
  have hothers : ∀ loc, loc ≠ name :: dir →
      (t.insert (name :: dir) .directory).node? loc = t.node? loc := by
    intro loc hloc
    rw [node?_insert t (List.cons_ne_nil _ _), if_neg hloc]
  refine ⟨hadds, name :: dir, ⟨_, hroute, locateDirectory_eq_ok_iff.2 ?_⟩, hothers⟩
  have hnode : (t.insert (name :: dir) .directory).node? (name :: dir) = some .directory := by
    rw [node?_insert t (List.cons_ne_nil _ _), if_pos rfl]
  refine ⟨?_, hnode⟩
  -- the way to the parent is still there, and now it goes on to the new directory
  obtain ⟨hland, hparent⟩ := locateDirectory_eq_ok_iff.1 hdir
  have hparent' := hadds.retains.node?_directory hparent
  rw [land, walk_eq_ok_iff] at hland ⊢
  have hbefore := hland.reach hadds.retains hparent' (by simp)
  have hmade := hbefore.append (.down hparent' rfl hname hnode (by simp) .done)
  obtain ⟨before', last, hsplit', -, hsteps⟩ := splitLastStep_ofPath p
  rw [hsplit] at hsplit'
  cases hsplit'
  rcases hsteps with hsteps | hsteps <;> rw [hsteps]
  · exact hmade
  · exact hmade.append (.move hnode rfl .done)

/-- A directory that is there cannot be made, and not because its parent is missing. -/
theorem makeDir_of_directoryAt {t : FileTree} {p : LocalPath} {dir : Location}
    (h : t.DirectoryAt p dir) : ∃ fault, t.makeDir p = .error fault ∧ fault ≠ .notFound := by
  obtain ⟨route, hroute, hdir⟩ := h
  obtain rfl := (Route.ofPath?_eq_ok hroute).2
  obtain ⟨hland, hnode⟩ := locateDirectory_eq_ok_iff.1 hdir
  obtain ⟨before, last, hsplit, hlast, hsteps⟩ := splitLastStep_ofPath p
  rw [land, walk_eq_ok_iff] at hland
  -- a slash at the end leads nowhere else
  have hleads : t.Leads false maxLinks (if (Route.ofPath p).absolute then [] else t.cwd)
      (before ++ last.toList) (.found dir) := by
    rcases hsteps with hsteps | hsteps <;> rw [hsteps] at hland
    · exact hland
    · obtain ⟨mid, fewer, -, hfirst, henter⟩ := hland.split (List.cons_ne_nil _ _)
      cases henter with
      | move _ hstep hend =>
        cases hstep
        cases hend
        exact hfirst
  refine ⟨.alreadyExists, ?_, by simp⟩
  rw [makeDir, hroute]
  simp only [bind, Except.bind, hsplit]
  cases last with
  | none =>
    obtain rfl := hlast rfl
    have hbefore : t.locateDirectory (Route.ofPath p).absolute [] = .ok dir :=
      locateDirectory_eq_ok_iff.2 ⟨by rwa [land, walk_eq_ok_iff], hnode⟩
    rw [hbefore]
    rfl
  | some step =>
    -- the last step is taken in a directory, so that is what its parent path leads to
    obtain ⟨mid, fewer, -, hfirst, hstep⟩ := hleads.split (List.cons_ne_nil _ _)
    have hmid := hstep.node?_of_ne_nil (List.cons_ne_nil _ _)
    have hbefore : t.locateDirectory (Route.ofPath p).absolute before = .ok mid :=
      locateDirectory_eq_ok_iff.2 ⟨by rwa [land, walk_eq_ok_iff], hmid⟩
    rw [hbefore]
    cases hstep with
    | move _ hmove _ =>
      cases step with
      | down name => cases hmove
      | stay | up | enter => rfl
    | down _ _ hname hnode _ _ => simp [Nat.not_lt.2 hname, hnode]; rfl
    | follow _ _ hname hnode _ => simp [Nat.not_lt.2 hname, hnode]; rfl

/-! ## A directory with its parents -/

/-- There is no need to make the directory: it is there, or the path is empty. -/
def HasDir (t : FileTree) (p : LocalPath) : Prop := p.text = "" ∨ ∃ dir, t.DirectoryAt p dir

theorem HasDir.retains {t t' : FileTree} {p : LocalPath} (hdir : t.HasDir p) (h : t.Retains t') :
    t'.HasDir p := by
  rcases hdir with hempty | ⟨dir, hdir⟩
  · exact .inl hempty
  · exact .inr ⟨dir, hdir.retains h⟩

/-- Trying to make one directory: it is made, it is there anyhow, or it is refused. -/
inductive Tries (t : FileTree) (p : LocalPath) : FileTree → Except FileFault Unit → Prop where
  | made {t' : FileTree} (hmake : t.makeDir p = .ok t') : Tries t p t' (.ok ())
  | there {fault : FileFault} (hmake : t.makeDir p = .error fault)
      (hdir : t.isDirectory p = true) : Tries t p t (.ok ())
  | refused {fault : FileFault} (hmake : t.makeDir p = .error fault)
      (hdir : t.isDirectory p = false) : Tries t p t (.error fault)

namespace Tries

variable {t t' : FileTree} {p : LocalPath} {answer : Except FileFault Unit}

theorem of_error {fault : FileFault} (h : t.makeDir p = .error fault) :
    t.Tries p t (if t.isDirectory p then .ok () else .error fault) := by
  split
  · next hdir => exact .there h hdir
  · next hdir => exact .refused h (Bool.not_eq_true _ ▸ hdir)

theorem addsDirs (h : t.Tries p t' answer) : t.AddsDirs t' := by
  cases h with
  | made hmake => exact (makeDir_spec hmake).1
  | there | refused => exact .refl t

theorem hasDir_or_refused (h : t.Tries p t' answer) :
    t'.HasDir p ∨ ∃ fault, answer = .error fault ∧ t.makeDir p = .error fault ∧ t' = t := by
  cases h with
  | made hmake =>
    obtain ⟨-, dir, hdir, -⟩ := makeDir_spec hmake
    exact .inl (.inr ⟨dir, hdir⟩)
  | there _ hdir => exact .inl (.inr (isDirectory_iff.1 hdir))
  | refused hmake => exact .inr ⟨_, rfl, hmake, rfl⟩

theorem hasDir (h : t.Tries p t' (.ok ())) : t'.HasDir p := by
  obtain hdir | ⟨_, hanswer, -⟩ := h.hasDir_or_refused
  · exact hdir
  · cases hanswer

end Tries

/-- How a chain of directories comes to its end: its first directory is tried, and if the parent of
that is missing, then once more behind the chain of its parents. -/
inductive Chains (t : FileTree) : List LocalPath → FileTree → Except FileFault Unit → Prop where
  | nil : Chains t [] t (.ok ())
  | empty {p : LocalPath} {parents : List LocalPath} (hempty : p.text = "") :
      Chains t (p :: parents) t (.ok ())
  | alone {p : LocalPath} {parents : List LocalPath} {t' : FileTree}
      {answer : Except FileFault Unit} (hne : p.text ≠ "")
      (hmake : t.makeDir p ≠ .error .notFound) (htries : t.Tries p t' answer) :
      Chains t (p :: parents) t' answer
  | stopped {p : LocalPath} {parents : List LocalPath} {made : FileTree} {fault : FileFault}
      (hne : p.text ≠ "") (hmake : t.makeDir p = .error .notFound)
      (hparents : Chains t parents made (.error fault)) :
      Chains t (p :: parents) made (.error fault)
  | behind {p : LocalPath} {parents : List LocalPath} {made t' : FileTree}
      {answer : Except FileFault Unit} (hne : p.text ≠ "")
      (hmake : t.makeDir p = .error .notFound) (hparents : Chains t parents made (.ok ()))
      (htries : made.Tries p t' answer) : Chains t (p :: parents) t' answer

theorem chains_makeChain (t : FileTree) (paths : List LocalPath) :
    t.Chains paths (t.makeChain paths).1 (t.makeChain paths).2 := by
  induction paths with
  | nil => exact .nil
  | cons p parents ih =>
    rw [makeChain]
    split
    · next hempty => exact .empty (by simpa using hempty)
    · next hne =>
      replace hne : p.text ≠ "" := by simpa using hne
      split
      · next made hmake => exact .alone hne (by simp [hmake]) (.made hmake)
      · next hmake =>
        split
        · next made fault hparents =>
          rw [hparents] at ih
          exact .stopped hne hmake ih
        · next made hparents =>
          rw [hparents] at ih
          split
          · next whole hlast => exact .behind hne hmake ih (.made hlast)
          · next fault hlast => exact .behind hne hmake ih (.of_error hlast)
      · next fault hother hmake =>
        exact .alone hne (by rw [hmake]; rintro ⟨⟩; exact hother rfl) (.of_error hmake)

theorem chains_makeDirs {t t' : FileTree} {p : LocalPath} {answer : Except FileFault Unit}
    (h : t.makeDirs p = (t', answer)) : t.Chains (p :: p.parents) t' answer := by
  have hchains := chains_makeChain t (p :: p.parents)
  rwa [← makeDirs, h] at hchains

namespace Chains

variable {t t' : FileTree} {paths : List LocalPath} {answer : Except FileFault Unit}

/-- **Making directories adds directories**, also where it stops half-way. -/
theorem addsDirs (h : t.Chains paths t' answer) : t.AddsDirs t' := by
  induction h with
  | nil | empty => exact .refl t
  | alone _ _ htries => exact htries.addsDirs
  | stopped _ _ _ ih => exact ih
  | behind _ _ _ htries ih => exact ih.trans htries.addsDirs

theorem hasDir {p : LocalPath} {parents : List LocalPath}
    (h : t.Chains (p :: parents) t' (.ok ())) : t'.HasDir p := by
  cases h with
  | empty hempty => exact .inl hempty
  | alone _ _ htries | behind _ _ _ htries => exact htries.hasDir

end Chains

theorem makeDirs_addsDirs (t : FileTree) (p : LocalPath) : t.AddsDirs (t.makeDirs p).1 :=
  (chains_makeDirs rfl).addsDirs

theorem makeDirs_hasDir {t t' : FileTree} {p : LocalPath} (h : t.makeDirs p = (t', .ok ())) :
    t'.HasDir p :=
  (chains_makeDirs h).hasDir

/-- **What is there need not be made.** -/
theorem makeDirs_of_hasDir {t : FileTree} {p : LocalPath} (h : t.HasDir p) :
    t.makeDirs p = (t, .ok ()) := by
  rw [makeDirs, makeChain]
  rcases h with hempty | ⟨dir, hdir⟩
  · simp [hempty]
  · have hne : p.text.isEmpty = false := by
      obtain ⟨route, hroute, -⟩ := hdir
      have htext := (Route.ofPath?_eq_ok hroute).1
      simpa using htext
    obtain ⟨fault, hmake, hfault⟩ := makeDir_of_directoryAt hdir
    rw [hne, hmake, isDirectory_iff.2 ⟨dir, hdir⟩]
    cases fault <;> first | rfl | exact absurd rfl hfault

/-! ## Files -/

/-- **A file that was touched is there**: it was there before, or it is new and empty. -/
theorem touch_spec {t t' : FileTree} {p : LocalPath} (h : t.touch p = .ok t') :
    t.Retains t' ∧ ∃ loc, t'.FileAt p loc ∧ (t' = t ∨ t.node? loc = none ∧
      ∀ l, t'.node? l = if l = loc then some (.file .empty) else t.node? l) := by
  rw [touch] at h
  cases hopen : t.openFile p with
  | error fault =>
    rw [hopen] at h
    cases h
  | ok opened =>
    obtain ⟨opened, loc⟩ := opened
    rw [hopen] at h
    cases h
    obtain ⟨hopens, hne, ⟨hfile, rfl⟩ | ⟨hnone, rfl⟩⟩ := openFile_spec hopen
    · exact ⟨.refl _, loc, ⟨hopens, hfile⟩, .inl rfl⟩
    · have hretains : t.Retains (t.insert loc (.file .empty)) := by
        apply Retains.insert hne
        intro old hold
        rw [hnone] at hold
        cases hold
      have hnode : (t.insert loc (.file .empty)).node? loc = some (.file .empty) := by
        rw [node?_insert t hne, if_pos rfl]
      exact ⟨hretains, loc, hopens.fileAt hretains hnode, .inr ⟨hnone, node?_insert t hne _⟩⟩

theorem write_fileAt {t t' : FileTree} {p : LocalPath} {data : ByteArray}
    (h : t.write p data = .ok t') :
    ∃ loc, t'.FileAt p loc ∧
      ∀ l, t'.node? l = if l = loc then some (.file data) else t.node? l := by
  obtain ⟨loc, hopens, -, -, hnode?⟩ := write_spec h
  have hnode : t'.node? loc = some (.file data) := by rw [hnode?, if_pos rfl]
  exact ⟨loc, hopens.fileAt (grows_of_write h).retains hnode, hnode?⟩

theorem openFile_of_fileAt {t : FileTree} {p : LocalPath} {loc : Location} (h : t.FileAt p loc) :
    t.openFile p = .ok (t, loc) := by
  obtain ⟨⟨route, landing, hroute, hland, rfl⟩, data, hdata⟩ := h
  refine openFile_eq_ok_iff.2 ⟨route, landing, hroute, hland, rfl, ?_⟩
  cases landing with
  | missing dir name =>
    have hnone := (walk_eq_ok_iff.1 hland).node?_of_missing rfl
    rw [Landing.location, hnone] at hdata
    cases hdata
  | found loc => exact ⟨rfl, data, hdata⟩

theorem touch_of_fileAt {t : FileTree} {p : LocalPath} {loc : Location} (h : t.FileAt p loc) :
    t.touch p = .ok t := by
  rw [touch, openFile_of_fileAt h]
  rfl

theorem write_of_fileAt {t : FileTree} {p : LocalPath} {loc : Location} (h : t.FileAt p loc)
    (data : ByteArray) : t.write p data = .ok (t.insert loc (.file data)) := by
  rw [write, openFile_of_fileAt h]
  rfl

end FileTree

end Vendoring
