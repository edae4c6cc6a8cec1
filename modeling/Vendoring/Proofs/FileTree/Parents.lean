import Vendoring.Proofs.FileTree.Changes

/-!
# The parents of a path that leads somewhere

`LocalPath.parents` cuts the text of a path, and the file system reads the text step by step. The
two agree: the route to a parent is a beginning of the route to the path, which goes on from there
with at least one step (`isAbove_of_mem_parents`). A step is taken in a directory, so **where a path
leads to anything, each of its parents leads to a directory** (`DirectoryAt.above`), links, `.` and
`..` on the way included.

The parents of a path are a chain: its parent, and the parents of that (`parents_of_eq_cons`).
-/

set_option autoImplicit false

namespace Vendoring

namespace LocalPath

/-! ## Parents as segments -/

/-- A parent's segments are what is left behind a segment that says something. -/
theorem mem_parentBodies {rest body : List (List Char)} (h : body ∈ parentBodies rest.reverse) :
    ∃ more, rest = body.reverse ++ more ∧ (∃ segment ∈ more, isFiller segment = false) ∧
      (body = [] ∨ ∃ before last, body.reverse = before ++ [last] ∧ last ≠ []) := by
  generalize hbackwards : rest.reverse = backwards at h
  induction backwards generalizing rest with
  | nil => cases h
  | cons segment before ih =>
    have hrest : rest = before.reverse ++ [segment] := by
      rw [← List.reverse_cons, ← hbackwards, List.reverse_reverse]
    have hbefore : ∀ more, before.reverse = body.reverse ++ more →
        rest = body.reverse ++ (more ++ [segment]) := by
      intro more hmore
      rw [hrest, hmore, List.append_assoc]
    rw [parentBodies] at h
    split at h
    · obtain ⟨more, hmore, ⟨piece, hpiece, hfiller⟩, hlast⟩ := ih (List.reverse_reverse _) h
      exact ⟨_, hbefore more hmore, ⟨piece, List.mem_append_left _ hpiece, hfiller⟩, hlast⟩
    · next hfiller =>
      rw [Bool.not_eq_true] at hfiller
      rcases List.mem_cons.1 h with rfl | h
      · refine ⟨_, hbefore (before.takeWhile isFiller).reverse ?_,
          ⟨segment, List.mem_concat_self, hfiller⟩, ?_⟩
        · rw [← List.reverse_append, List.takeWhile_append_dropWhile]
        · cases hbody : before.dropWhile isFiller with
          | nil => exact .inl rfl
          | cons last front =>
            refine .inr ⟨front.reverse, last, List.reverse_cons, ?_⟩
            rintro rfl
            have hnot := List.head?_dropWhile_not isFiller before
            rw [hbody] at hnot
            cases hnot
      · obtain ⟨more, hmore, ⟨piece, hpiece, hsaysFiller⟩, hlast⟩ := ih (List.reverse_reverse _) h
        exact ⟨_, hbefore more hmore, ⟨piece, List.mem_append_left _ hpiece, hsaysFiller⟩, hlast⟩

theorem joinSlash_prefix (first : List Char) (segments more : List (List Char)) :
    joinSlash (first :: segments) <+: joinSlash (first :: (segments ++ more)) := by
  induction segments generalizing first with
  | nil =>
    cases more with
    | nil => exact List.prefix_rfl
    | cons segment more =>
      rw [List.nil_append, joinSlash, joinSlash, List.intercalate_cons_cons, List.append_assoc,
        List.intercalate_singleton]
      exact List.prefix_append _ _
  | cons second segments ih =>
    rw [List.cons_append, joinSlash, joinSlash, List.intercalate_cons_cons,
      List.intercalate_cons_cons]
    exact (List.prefix_append_right_inj _).2 (ih second)

theorem slash_joinSlash {segments : List (List Char)} (hne : segments ≠ []) :
    '/' :: joinSlash segments = joinSlash ([] :: segments) := by
  obtain ⟨first, rest, rfl⟩ := List.exists_cons_of_ne_nil hne
  rw [joinSlash, joinSlash, List.intercalate_cons_cons]
  rfl

/-- The text of a parent: nothing, the root, or the first segments of the path's own text. -/
theorem text_of_mem_parents {p q : LocalPath} {first : List Char} {rest : List (List Char)}
    (hs : splitSlash p.text.toList = first :: rest) (h : q ∈ p.parents) :
    q.text = "" ∨ ∃ body ∈ parentBodies rest.reverse,
      (q.text = "/" ∧ first = [] ∧ body = [] ∨
        q.text.toList = joinSlash (first :: body.reverse) ∧ (body = [] → first ≠ [])) := by
  cases habs : p.isAbsolute with
  | true =>
    obtain ⟨second, others, hsegments⟩ := isAbsolute_iff.1 habs
    obtain rfl : first = [] := (List.cons.inj (hs.symm.trans hsegments)).1
    rw [parents_absolute hs habs] at h
    obtain ⟨body, hbody, rfl⟩ := List.mem_map.1 h
    refine .inr ⟨body, hbody, ?_⟩
    by_cases hnil : body = []
    · subst hnil
      exact .inl ⟨rfl, rfl, rfl⟩
    · rw [String.toList_ofList, slash_joinSlash (mt List.reverse_eq_nil_iff.1 hnil)]
      exact .inr ⟨rfl, fun heq => absurd heq hnil⟩
  | false =>
    rw [parents_relative hs habs] at h
    rcases List.mem_append.1 h with h | hempty
    · obtain ⟨body, hbody, rfl⟩ := List.mem_map.1 h
      refine .inr ⟨body, hbody, .inr ⟨String.toList_ofList, fun _ => ?_⟩⟩
      cases rest with
      | nil => cases hbody
      | cons second others => exact ne_nil_of_relative hs habs
    · split at hempty
      · cases hempty
      · rw [List.mem_singleton.1 hempty]
        exact .inl rfl

/-- The segments of a parent that is not the empty path: the root's, or those of the path up to one
that is not empty. Among those that the path has beyond them is a step. -/
theorem splitSlash_of_mem_parents {p q : LocalPath} (h : q ∈ p.parents) (hne : q.text ≠ "") :
    ∃ more, (∃ piece ∈ more, ∃ step, Route.stepOfText? piece = some step) ∧
      (q.text = "/" ∧ splitSlash p.text.toList = [] :: more ∨
        ∃ before last, last ≠ [] ∧ splitSlash q.text.toList = before ++ [last] ∧
          splitSlash p.text.toList = before ++ [last] ++ more) := by
  obtain ⟨first, rest, hs⟩ := exists_splitSlash_eq p.text.toList
  rcases text_of_mem_parents hs h with hempty | ⟨body, hbody, htext⟩
  · exact absurd hempty hne
  · obtain ⟨more, rfl, ⟨piece, hpiece, hfiller⟩, hlast⟩ := mem_parentBodies hbody
    have hmem : piece ∈ splitSlash p.text.toList := by
      rw [hs]
      exact List.mem_cons_of_mem _ (List.mem_append_right _ hpiece)
    have hstep : Route.stepOfText? piece ≠ none := by
      refine Route.stepOfText?_ne_none ?_ (slash_not_mem_of_mem_splitSlash hmem)
      rintro rfl
      cases hfiller
    refine ⟨more, ⟨piece, hpiece, Option.ne_none_iff_exists'.1 hstep⟩, ?_⟩
    rcases htext with ⟨hroot, rfl, rfl⟩ | ⟨htext, hfirst⟩
    · exact .inl ⟨hroot, hs⟩
    · have hparent : splitSlash q.text.toList = first :: body.reverse := by
        rw [htext]
        apply splitSlash_joinSlash (List.cons_ne_nil _ _)
        intro segment hsegment
        have hmem : segment ∈ splitSlash p.text.toList := by
          rw [hs, ← List.cons_append]
          exact List.mem_append_left _ hsegment
        exact slash_not_mem_of_mem_splitSlash hmem
      rw [hs, hparent]
      rcases hlast with rfl | ⟨before, last, hbefore, hne⟩
      · exact .inr ⟨[], first, hfirst rfl, rfl, rfl⟩
      · rw [hbefore]
        exact .inr ⟨first :: before, last, hne, rfl, by simp⟩

/-! ## Parents of parents -/

theorem parentBodies_dropWhile (backwards : List (List Char)) :
    parentBodies (backwards.dropWhile isFiller) = parentBodies backwards := by
  induction backwards with
  | nil => rfl
  | cons segment before ih =>
    by_cases hf : isFiller segment = true
    · rw [List.dropWhile_cons_of_pos hf, ih, parentBodies, if_pos hf]
    · rw [List.dropWhile_cons_of_neg hf]

/-- Behind the nearest parent's segments come those of its own parents. -/
theorem parentBodies_of_eq_cons {backwards body : List (List Char)}
    {bodies : List (List (List Char))} (h : parentBodies backwards = body :: bodies) :
    parentBodies body = bodies := by
  induction backwards with
  | nil => cases h
  | cons segment before ih =>
    rw [parentBodies] at h
    split at h
    · exact ih h
    · rw [List.cons.injEq] at h
      rw [← h.1, parentBodies_dropWhile, h.2]

/-- **The parents of a path are its parent and the parents of that.** -/
theorem parents_of_eq_cons {p q : LocalPath} {above : List LocalPath} (h : p.parents = q :: above) :
    q.parents = above := by
  obtain ⟨first, rest, hs⟩ := exists_splitSlash_eq p.text.toList
  cases habs : p.isAbsolute with
  | true =>
    obtain ⟨second, others, hsegments⟩ := isAbsolute_iff.1 habs
    obtain rfl : first = [] := (List.cons.inj (hs.symm.trans hsegments)).1
    rw [parents_absolute hs habs, List.map_eq_cons_iff] at h
    obtain ⟨body, bodies, hbodies, rfl, rfl⟩ := h
    rw [← parentBodies_of_eq_cons hbodies]
    by_cases hroot : body = []
    · subst hroot
      rfl
    · have hsplit : splitSlash (text ⟨String.ofList ('/' :: joinSlash body.reverse)⟩).toList =
          [] :: body.reverse := by
        rw [String.toList_ofList, slash_joinSlash (mt List.reverse_eq_nil_iff.1 hroot),
          splitSlash_joinSlash (List.cons_ne_nil _ _) (slash_not_mem_body hs hbodies)]
      rw [parents_absolute hsplit (by rw [isAbsolute, String.toList_ofList]; rfl),
        List.reverse_reverse]
  | false =>
    rw [parents_relative hs habs] at h
    cases hbodies : parentBodies rest.reverse with
    | nil =>
      -- the one parent is the empty path, which has none
      rw [hbodies, List.map_nil, List.nil_append] at h
      split at h
      · cases h
      · cases h
        rfl
    | cons body bodies =>
      rw [hbodies, List.map_cons, List.cons_append, List.cons.injEq] at h
      obtain ⟨rfl, rfl⟩ := h
      obtain ⟨hsplit, hrelative⟩ := splitSlash_parent_relative hs hbodies habs
      rw [parents_relative hsplit hrelative, List.reverse_reverse,
        parentBodies_of_eq_cons hbodies]

/-- **Of a path and its parents, each is a parent of those before it.** -/
theorem pairwise_parents (p : LocalPath) : (p :: p.parents).Pairwise fun p q => q ∈ p.parents := by
  refine List.pairwise_cons.2 ⟨fun q hq => hq, ?_⟩
  generalize habove : p.parents = above
  induction above generalizing p with
  | nil => exact .nil
  | cons q above ih =>
    have hq := parents_of_eq_cons habove
    refine List.pairwise_cons.2 ⟨fun r hr => ?_, ih q hq⟩
    rwa [hq]

end LocalPath

/-! ## Parents as routes -/

/-- The route to `q` is a beginning of the route to `p`, which goes on with a step. -/
structure LocalPath.IsAbove (q p : LocalPath) : Prop where
  text : q.text.toList <+: p.text.toList
  absolute : (Route.ofPath p).absolute = (Route.ofPath q).absolute
  steps : ∃ step rest, (Route.ofPath p).steps = (Route.ofPath q).steps ++ step :: rest

theorem Route.ofSegments_append {segments more : List (Option Step)} (hne : segments ≠ [])
    {step : Step} (hstep : some step ∈ more) :
    (ofSegments (segments ++ more)).absolute = (segments.head? == some none) ∧
      ∃ step rest, (ofSegments (segments ++ more)).steps =
        segments.filterMap id ++ step :: rest := by
  constructor
  · obtain ⟨first, others, rfl⟩ := List.exists_cons_of_ne_nil hne
    obtain ⟨second, more, rfl⟩ := List.exists_cons_of_ne_nil (List.ne_nil_of_mem hstep)
    have hlong : others.length + (more.length + 1) + 1 > 1 := by omega
    simp only [ofSegments, List.cons_append, List.length_cons, List.length_append, List.head?_cons,
      decide_eq_true hlong, Bool.true_and]
  · have hmore : step ∈ more.filterMap id := List.mem_filterMap.2 ⟨_, hstep, rfl⟩
    obtain ⟨next, rest, hrest⟩ := List.exists_cons_of_ne_nil (List.ne_nil_of_mem hmore)
    rw [ofSegments]
    dsimp only
    rw [List.filterMap_append, hrest]
    split
    · exact ⟨next, rest ++ [.enter], by simp⟩
    · exact ⟨next, rest, rfl⟩

/-- **A parent is a path on the way**, unless it is the empty one. -/
theorem LocalPath.isAbove_of_mem_parents {p q : LocalPath} (h : q ∈ p.parents) (hne : q.text ≠ "") :
    q.IsAbove p := by
  obtain ⟨more, ⟨piece, hmem, step, hpiece⟩, hcases⟩ := splitSlash_of_mem_parents h hne
  have hstep : some step ∈ more.map Route.stepOfText? := List.mem_map.2 ⟨piece, hmem, hpiece⟩
  have htext : p.text.toList = joinSlash (splitSlash p.text.toList) :=
    (joinSlash_splitSlash _).symm
  rcases hcases with ⟨hroot, hsplit⟩ | ⟨before, last, hlast, hparent, hsplit⟩
  · obtain rfl : q = ⟨"/"⟩ := by cases q; exact congrArg mk hroot
    have happend := Route.ofSegments_append (List.cons_ne_nil none []) hstep
    have hsegments : (splitSlash p.text.toList).map Route.stepOfText? =
        [none] ++ more.map Route.stepOfText? := by
      rw [hsplit]
      rfl
    rw [← hsegments] at happend
    refine ⟨?_, happend.1, happend.2⟩
    rw [htext, hsplit, ← slash_joinSlash (List.ne_nil_of_mem hmem)]
    exact ⟨_, rfl⟩
  · have hsegment : last ∈ splitSlash q.text.toList := by rw [hparent]; simp
    obtain ⟨final, hfinal⟩ := Option.ne_none_iff_exists'.1
      (Route.stepOfText?_ne_none hlast (slash_not_mem_of_mem_splitSlash hsegment))
    have hroute : Route.ofPath q =
        .ofSegments (before.map Route.stepOfText? ++ [some final]) := by
      rw [Route.ofPath, hparent, List.map_append, List.map_singleton, hfinal]
    have hsegments : (splitSlash p.text.toList).map Route.stepOfText? =
        (before.map Route.stepOfText? ++ [some final]) ++ more.map Route.stepOfText? := by
      rw [hsplit, List.map_append, List.map_append, List.map_singleton, hfinal]
    have happend := Route.ofSegments_append
      (List.append_ne_nil_of_right_ne_nil (before.map Route.stepOfText?)
        (List.cons_ne_nil (some final) [])) hstep
    rw [← hsegments] at happend
    refine ⟨?_, ?_, ?_⟩
    · have hparentText : q.text.toList = joinSlash (splitSlash q.text.toList) :=
        (joinSlash_splitSlash _).symm
      rw [htext, hparentText, hsplit, hparent]
      cases before with
      | nil => exact joinSlash_prefix last [] more
      | cons first before => exact joinSlash_prefix first (before ++ [last]) more
    · rw [hroute, Route.ofSegments_absolute_of_some]
      exact happend.1
    · obtain ⟨next, rest, hrest⟩ := happend.2
      refine ⟨next, rest, ?_⟩
      rw [hroute, Route.ofSegments_steps, Route.ofPath, hrest, List.filterMap_append]
      rfl

/-- Without the slashes at the end too, the route to a path goes on from the route to a parent. -/
theorem LocalPath.stepsOf_of_mem_parents {p q : LocalPath} (h : q ∈ p.parents) (hne : q.text ≠ "") :
    ∃ step rest, Route.stepsOf (splitSlash p.text.toList) =
      Route.stepsOf (splitSlash q.text.toList) ++ step :: rest := by
  obtain ⟨more, ⟨piece, hmem, step, hpiece⟩, hcases⟩ := splitSlash_of_mem_parents h hne
  have hstep : step ∈ Route.stepsOf more := List.mem_filterMap.2 ⟨piece, hmem, hpiece⟩
  obtain ⟨next, rest, hrest⟩ := List.exists_cons_of_ne_nil (List.ne_nil_of_mem hstep)
  refine ⟨next, rest, ?_⟩
  rw [← hrest]
  rcases hcases with ⟨hroot, hsplit⟩ | ⟨before, last, -, hparent, hsplit⟩
  · rw [hsplit, hroot]
    rfl
  · rw [hsplit, hparent]
    exact List.filterMap_append

/-! ## Parents on disk -/

namespace FileTree

/-- **Where a path leads to a directory, each path above it does.** -/
theorem DirectoryAt.above {t : FileTree} {p q : LocalPath} {dir : Location}
    (hdir : t.DirectoryAt p dir) (h : q.IsAbove p) (hne : q.text ≠ "") :
    ∃ dir', t.DirectoryAt q dir' := by
  obtain ⟨route, hroute, hdir⟩ := hdir
  obtain rfl := (Route.ofPath?_eq_ok hroute).2
  obtain ⟨hland, hnode⟩ := locateDirectory_eq_ok_iff.1 hdir
  obtain ⟨step, rest, hsteps⟩ := h.steps
  rw [land, walk_eq_ok_iff, hsteps, h.absolute] at hland
  obtain ⟨mid, hmid, hmidNode⟩ := hland.split_directory hnode
  refine ⟨mid, _, Route.ofPath?_of_sublist h.text.sublist hne hroute,
    locateDirectory_eq_ok_iff.2 ⟨?_, hmidNode⟩⟩
  rwa [land, walk_eq_ok_iff]

/-- The directory was made, and so was every parent that was missing. -/
theorem HasDir.parents {t : FileTree} {p q : LocalPath} (hdir : t.HasDir p) (hq : q ∈ p :: p.parents)
    (hne : q.text ≠ "") : ∃ dir, t.DirectoryAt q dir := by
  rcases List.mem_cons.1 hq with rfl | hq
  · exact hdir.resolve_left hne
  · rcases hdir with hempty | ⟨dir, hdir⟩
    · obtain rfl : p = ⟨""⟩ := by cases p; exact congrArg _ hempty
      cases hq
    · exact hdir.above (LocalPath.isAbove_of_mem_parents hq hne) hne

theorem HasDir.above {t : FileTree} {p q : LocalPath} (hdir : t.HasDir p)
    (hq : q ∈ p :: p.parents) : t.HasDir q := by
  by_cases hempty : q.text = ""
  · exact .inl hempty
  · exact .inr (hdir.parents hq hempty)

end FileTree

end Vendoring
