import Vendoring.Proofs.FileTree.Additions

/-!
# How far a chain of directories gets

To make a path, its parents are made where one is missing, the last of them first. A chain that stops
has failed at some path, but not for want of trying: **behind it there is no directory on the way
left that could be made** (`makeDirs_exhausts`). For of a path and its parents, each is a parent of
those before it (`LocalPath.pairwise_parents`); a directory can be made only where those above it are
there (`CanMake.above`), and as long as it can be made, those below it fail with the one fault over
which a chain goes on (`CanMake.below`). Whether one can be made depends on where its path leads, and
on that alone (`makeDir_isOk_iff`).

So the answer can be told from the tree that is left: it is a success exactly if the directory is
there (`makeDirs_isOk_iff`).
-/

set_option autoImplicit false

namespace Vendoring

namespace FileTree

/-! ## One directory, and those above it -/

/-- The path ends with a name that is free in the directory in front of it. A link to nowhere is not
free, and a slash at the end makes no difference. -/
def CanMake (t : FileTree) (p : LocalPath) : Prop :=
  ∃ before name dir, Route.ofPath? p = .ok (.ofPath p) ∧
    Route.stepsOf (LocalPath.splitSlash p.text.toList) = before ++ [.down name] ∧
    t.Leads false maxLinks (if (Route.ofPath p).absolute then [] else t.cwd) before (.found dir) ∧
    t.node? dir = some .directory ∧ name.bytes.size ≤ maxNameLength ∧ t.node? (name :: dir) = none

/-- **At such a path a directory can be made**, and at no other. -/
theorem makeDir_isOk_iff {t : FileTree} {p : LocalPath} :
    (∃ made, t.makeDir p = .ok made) ↔ t.CanMake p := by
  constructor
  · rintro ⟨made, hmake⟩
    obtain ⟨before, name, dir, hroute, hsplit, hdir, hname, hnone, -⟩ := makeDir_eq_ok hmake
    obtain ⟨hland, hnode⟩ := locateDirectory_eq_ok_iff.1 hdir
    rw [splitLastStep_eq, Prod.mk.injEq] at hsplit
    refine ⟨before, name, dir, hroute, ?_, walk_eq_ok_iff.1 hland, hnode, hname, hnone⟩
    rw [← hsplit.1]
    exact (List.dropLast_append_getLast? _ hsplit.2).symm
  · rintro ⟨before, name, dir, hroute, hsteps, hleads, hnode, hname, hnone⟩
    have hdir : t.locateDirectory (Route.ofPath p).absolute before = .ok dir :=
      locateDirectory_eq_ok_iff.2 ⟨walk_eq_ok_iff.2 hleads, hnode⟩
    refine ⟨t.insert (name :: dir) .directory, ?_⟩
    rw [makeDir, hroute]
    simp only [bind, Except.bind, splitLastStep_eq, hsteps, List.dropLast_concat,
      List.getLast?_concat, hdir, hnone, if_neg (Nat.not_lt.2 hname)]
    rfl

theorem not_canMake_of_error {t : FileTree} {p : LocalPath} {fault : FileFault}
    (h : t.makeDir p = .error fault) : ¬ t.CanMake p := by
  rw [← makeDir_isOk_iff]
  rintro ⟨made, hmake⟩
  rw [hmake] at h
  cases h

/-- Where a directory can be made, those above it are there. -/
theorem CanMake.above {t : FileTree} {p q : LocalPath} (h : t.CanMake p) (hq : q ∈ p.parents) :
    t.HasDir q := by
  obtain ⟨before, name, dir, hroute, hlast, hleads, hnode, -⟩ := h
  by_cases hne : q.text = ""
  · exact .inl hne
  · obtain ⟨step, rest, hsteps⟩ := LocalPath.stepsOf_of_mem_parents hq hne
    have habove := LocalPath.isAbove_of_mem_parents hq hne
    have hbefore : before = Route.stepsOf (LocalPath.splitSlash q.text.toList) ++
        (step :: rest).dropLast := by
      rw [← List.dropLast_append_cons, ← hsteps, hlast, List.dropLast_concat]
    rw [hbefore, habove.absolute] at hleads
    obtain ⟨mid, hmid, hmidNode⟩ := hleads.split_directory hnode
    refine .inr ⟨mid, _, Route.ofPath?_of_sublist habove.text.sublist hne hroute,
      locateDirectory_eq_ok_iff.2 ⟨?_, hmidNode⟩⟩
    rw [land, walk_eq_ok_iff]
    rcases Route.ofPath_steps q with hroute | hroute <;> rw [hroute]
    · exact hmid
    · exact hmid.append (.move hmidNode rfl .done)

/-- Where a directory can be made, one below it cannot: its parent is missing. -/
theorem CanMake.below {t : FileTree} {p q : LocalPath} (h : t.CanMake q) (hq : q ∈ p.parents)
    {route : Route} (hp : Route.ofPath? p = .ok route) : t.makeDir p = .error .notFound := by
  obtain ⟨before, name, dir, hroute, hlast, hleads, hnode, hname, hnone⟩ := h
  have hne : q.text ≠ "" := by simpa using (Route.ofPath?_eq_ok hroute).1
  obtain ⟨step, rest, hsteps⟩ := LocalPath.stepsOf_of_mem_parents hq hne
  rw [← (LocalPath.isAbove_of_mem_parents hq hne).absolute] at hleads
  -- the way to the parent of `p` goes over the missing directory
  have hmissing : t.locateDirectory (Route.ofPath p).absolute
      (before ++ .down name :: (step :: rest).dropLast) = .error .notFound := by
    rw [locateDirectory, land, hleads.walk_behind_missing hnode hname hnone]
    cases (step :: rest).dropLast <;> rfl
  obtain rfl := (Route.ofPath?_eq_ok hp).2
  rw [makeDir, hp]
  simp only [bind, Except.bind, splitLastStep_eq, hsteps, hlast]
  rw [List.dropLast_append_cons, List.append_assoc, List.singleton_append, hmissing]

theorem HasDir.not_canMake {t : FileTree} {p : LocalPath} (h : t.HasDir p) : ¬ t.CanMake p := by
  rcases h with hempty | ⟨dir, hdir⟩
  · rintro ⟨-, -, -, hroute, -⟩
    exact (Route.ofPath?_eq_ok hroute).1 (by simp [hempty])
  · obtain ⟨fault, hfault, -⟩ := makeDir_of_directoryAt hdir
    exact not_canMake_of_error hfault

/-! ## The chain -/

/-- **A chain does not fail over directories that are there**: the directory that it would stop at is
looked for before it does. -/
theorem Chains.isOk {t t' : FileTree} {paths : List LocalPath} {answer : Except FileFault Unit}
    (h : t.Chains paths t' answer) (hdirs : ∀ q ∈ paths, t'.HasDir q) : answer = .ok () := by
  induction h with
  | nil | empty => rfl
  | @alone p _ _ _ hne _ htries | @behind p _ _ _ _ hne _ _ htries =>
    have hdir := isDirectory_iff.2 ((hdirs p List.mem_cons_self).resolve_left hne)
    cases htries with
    | made | there => rfl
    | refused _ hnot => exact absurd hdir (ne_true_of_eq_false hnot)
  | stopped _ _ _ ih => exact ih fun q hq => hdirs q (List.mem_cons_of_mem _ hq)

/-- Where a directory is there, none above it is left to make. -/
theorem HasDir.exhausts {t : FileTree} {p : LocalPath} {parents : List LocalPath}
    (h : t.HasDir p) (hparents : ∀ q ∈ parents, q ∈ p.parents) :
    ∀ q ∈ p :: parents, ¬ t.CanMake q := by
  intro q hq
  have hmem : q ∈ p :: p.parents := List.mem_cons.2 ((List.mem_cons.1 hq).imp_right (hparents q))
  exact (h.above hmem).not_canMake

/-- **A chain leaves no directory that could still be made.** -/
theorem Chains.exhausts {t t' : FileTree} {paths : List LocalPath}
    {answer : Except FileFault Unit} (h : t.Chains paths t' answer)
    (hpaths : paths.Pairwise fun p q => q ∈ p.parents)
    (hroutes : ∀ q ∈ paths, q.text ≠ "" → ∃ route, Route.ofPath? q = .ok route) :
    ∀ q ∈ paths, ¬ t'.CanMake q := by
  induction h with
  | nil => simp
  | empty hempty => exact HasDir.exhausts (.inl hempty) (List.pairwise_cons.1 hpaths).1
  | @alone p _ _ _ hne hmake htries =>
    have hparents := (List.pairwise_cons.1 hpaths).1
    obtain hdir | ⟨fault, -, hrefused, rfl⟩ := htries.hasDir_or_refused
    · exact hdir.exhausts hparents
    · -- the parent was not missing, so none of them can be made
      obtain ⟨route, hroute⟩ := hroutes p List.mem_cons_self hne
      exact List.forall_mem_cons.2 ⟨not_canMake_of_error hrefused, fun q hq hcan =>
        hmake (hcan.below (hparents q hq) hroute)⟩
  | stopped hne hmake hstopped ih =>
    obtain ⟨hparents, hchain⟩ := List.pairwise_cons.1 hpaths
    refine List.forall_mem_cons.2 ⟨fun hcan => ?_,
      ih hchain fun q hq => hroutes q (List.mem_cons_of_mem _ hq)⟩
    -- the chain of the parents stopped where one is not there, so below it nothing can be made
    cases hstopped.isOk fun q hq => hcan.above (hparents q hq)
  | behind hne hmake hready htries ih =>
    obtain ⟨hparents, hchain⟩ := List.pairwise_cons.1 hpaths
    obtain hdir | ⟨fault, -, hrefused, rfl⟩ := htries.hasDir_or_refused
    · exact hdir.exhausts hparents
    · exact List.forall_mem_cons.2 ⟨not_canMake_of_error hrefused,
        ih hchain fun q hq => hroutes q (List.mem_cons_of_mem _ hq)⟩

/-- **Whether directories were made is to be seen in the tree**, also if the call got half-way. -/
theorem makeDirs_isOk_iff {t : FileTree} {p : LocalPath} :
    (t.makeDirs p).2 = .ok () ↔ (t.makeDirs p).1.HasDir p := by
  constructor
  · intro hok
    exact makeDirs_hasDir (Prod.ext rfl hok)
  · intro hdir
    exact (chains_makeDirs rfl).isOk fun q hq => hdir.above hq

/-- **Nothing on the way is left to make**, whatever the answer was. -/
theorem makeDirs_exhausts (t : FileTree) {p : LocalPath} {route : Route}
    (hp : Route.ofPath? p = .ok route) : ∀ q ∈ p :: p.parents, ¬ (t.makeDirs p).1.CanMake q := by
  refine (chains_makeDirs rfl).exhausts (LocalPath.pairwise_parents p) fun q hq hne => ?_
  rcases List.mem_cons.1 hq with rfl | hq
  · exact ⟨route, hp⟩
  · exact ⟨_, Route.ofPath?_of_sublist (LocalPath.isAbove_of_mem_parents hq hne).text.sublist hne hp⟩

end FileTree

end Vendoring
