import Mathlib.Data.String.Basic
import Vendoring.FileTree.Inventory
import Vendoring.Proofs.FileTree.Grows
import Vendoring.Proofs.LocalPath

/-!
# A name in a directory, by path and by location

A target keeps a file at the path of its directory with the file's name behind it. On disk that is
not one step more than the directory: the directory's path may end with a slash, and the name may
belong to a link. What is true is `opens_join`: opening the path opens the name **in the location
that the directory's path leads to**, and if the name belongs to no link, that is one step below it
(`OpensIn.eq_cons`).
-/

set_option autoImplicit false

namespace Vendoring

/-! ## The route of a name behind a directory -/

namespace Route

theorem ofPath?_eq_ok {p : LocalPath} {route : Route} (h : ofPath? p = .ok route) :
    p.text.toList ≠ [] ∧ route = ofPath p := by
  rw [ofPath?] at h
  split at h
  · cases h
  · split at h
    · cases h
    · next hempty =>
      split at h
      · cases h
      · cases h
        exact ⟨by simpa using hempty, rfl⟩

/-- A text with less in it is looked at too, unless nothing is left of it. -/
theorem ofPath?_of_sublist {p q : LocalPath} (h : q.text.toList.Sublist p.text.toList)
    (hne : q.text ≠ "") {route : Route} (hp : ofPath? p = .ok route) :
    ofPath? q = .ok (ofPath q) := by
  rw [ofPath?] at hp ⊢
  split at hp
  · cases hp
  · next hnul =>
    split at hp
    · cases hp
    · split at hp
      · cases hp
      · next hlength =>
        rw [List.contains_iff_mem] at hnul
        have hle := String.utf8Len_le_of_sublist h
        rw [String.utf8Len_toList, String.utf8Len_toList] at hle
        rw [if_neg (mt List.contains_iff_mem.1 fun hmem => hnul (h.subset hmem)),
          if_neg (by simpa using hne), if_neg (by omega)]

theorem stepOfText?_of_isFileName {s : String} (h : isFileName s.toList = true) :
    stepOfText? s.toList = some (.down (.text s h)) := by
  have hdot : s.toList ≠ ['.'] := fun heq => by simp [heq, isFileName] at h
  have hdots : s.toList ≠ ['.', '.'] := fun heq => by simp [heq, isFileName] at h
  rw [stepOfText?, if_neg hdot, if_neg hdots, FileName.ofChars?, dif_pos h]
  simp

/-- A segment that is not empty is a step. -/
theorem stepOfText?_ne_none {segment : List Char} (hne : segment ≠ []) (hslash : '/' ∉ segment) :
    stepOfText? segment ≠ none := by
  rw [stepOfText?]
  split
  · simp
  · split
    · simp
    · next hdot hdots =>
      have hname : isFileName segment = true := by simp [isFileName, hne, hslash, hdot, hdots]
      simp [FileName.ofChars?, hname]

/-- The last segment of a path that does not end with a slash is a step. -/
theorem exists_last_step {front : List Char} {last : Char} (hlast : last ≠ '/') :
    ∃ before step, (LocalPath.splitSlash (front ++ [last])).map stepOfText? =
      before ++ [some step] := by
  obtain ⟨segment, hsegment, hne⟩ := LocalPath.getLast?_splitSlash front hlast
  obtain ⟨segments, hsegments⟩ := List.getLast?_eq_some_iff.1 hsegment
  have hmem : segment ∈ LocalPath.splitSlash (front ++ [last]) := by simp [hsegments]
  have hslash : '/' ∉ segment := LocalPath.slash_not_mem_of_mem_splitSlash hmem
  obtain ⟨step, hstep⟩ := Option.ne_none_iff_exists'.1 (stepOfText?_ne_none hne hslash)
  exact ⟨segments.map stepOfText?, step, by simp [hsegments, hstep]⟩

theorem ofSegments_absolute {segments : List (Option Step)} (hne : segments ≠ [])
    (last : Option Step) :
    (ofSegments (segments ++ [last])).absolute = (segments.head? == some none) := by
  obtain ⟨first, rest, rfl⟩ := List.exists_cons_of_ne_nil hne
  simp [ofSegments]

/-- Without a slash at the end, the first segment alone tells whether the route is absolute. -/
theorem ofSegments_absolute_of_some (segments : List (Option Step)) (step : Step) :
    (ofSegments (segments ++ [some step])).absolute =
      ((segments ++ [some step]).head? == some none) := by
  cases segments <;> simp [ofSegments]

theorem ofSegments_steps (segments : List (Option Step)) (step : Step) :
    (ofSegments (segments ++ [some step])).steps = segments.filterMap id ++ [step] := by
  simp [ofSegments]

theorem ofSegments_steps_none (segments : List (Option Step)) :
    (ofSegments (segments ++ [none])).steps = segments.filterMap id ∨
      (ofSegments (segments ++ [none])).steps = segments.filterMap id ++ [.enter] := by
  have hsteps : (segments ++ [none]).filterMap id = segments.filterMap id := by simp
  dsimp only [ofSegments]
  rw [hsteps]
  split
  · exact .inr rfl
  · exact .inl rfl

/-- **The route of a name behind a directory** begins like that of the directory. Only a slash at
the end of the directory's path is no longer at the end. -/
theorem ofPath_join {dir : LocalPath} (hdir : dir.text.toList ≠ []) {s : String}
    (hs : isFileName s.toList = true) :
    ∃ before, ofPath (dir.join ⟨s⟩) = ⟨(ofPath dir).absolute, before ++ [.down (.text s hs)]⟩ ∧
      ((ofPath dir).steps = before ∨ (ofPath dir).steps = before ++ [.enter]) := by
  have hname : (⟨s⟩ : LocalPath) = .ofNames [s.toList] := by
    simp [LocalPath.ofNames, LocalPath.joinSlash]
  have hnames : ∀ name ∈ [s.toList], isFileName name = true := by simpa using hs
  have habs : (⟨s⟩ : LocalPath).isAbsolute = false := by
    rw [hname]
    exact LocalPath.isAbsolute_ofNames (List.cons_ne_nil _ _) hnames
  have hsplit : LocalPath.splitSlash s.toList = [s.toList] := by
    have h := LocalPath.splitSlash_ofNames (List.cons_ne_nil _ _) hnames
    rwa [← hname] at h
  rcases LocalPath.join_cases dir habs with
    ⟨hempty, -⟩ | ⟨front, hfront, hjoin⟩ | ⟨front, last, hfront, hlast, hjoin⟩
  · exact absurd hempty hdir
  · -- the slash that ended the directory's path now stands in front of the name
    have hne : (LocalPath.splitSlash front).map stepOfText? ≠ [] :=
      mt List.map_eq_nil_iff.1 (List.splitOn_ne_nil '/' front)
    have hdirSegments : (LocalPath.splitSlash dir.text.toList).map stepOfText? =
        (LocalPath.splitSlash front).map stepOfText? ++ [none] := by
      rw [hfront, LocalPath.splitSlash_slash, List.map_append]
      rfl
    have hjoinSegments : (LocalPath.splitSlash (dir.join ⟨s⟩).text.toList).map stepOfText? =
        (LocalPath.splitSlash front).map stepOfText? ++ [some (.down (.text s hs))] := by
      rw [hjoin, LocalPath.splitSlash_slash, List.map_append, hsplit, List.map_singleton,
        stepOfText?_of_isFileName hs]
    refine ⟨((LocalPath.splitSlash front).map stepOfText?).filterMap id, ?_, ?_⟩
    · rw [ofPath, hjoinSegments, ofPath, hdirSegments, ofSegments_absolute hne,
        ← ofSegments_steps, ← ofSegments_absolute hne]
    · rw [ofPath, hdirSegments]
      exact ofSegments_steps_none _
  · obtain ⟨before, step, hdirSegments⟩ :
        ∃ before step, (LocalPath.splitSlash dir.text.toList).map stepOfText? =
          before ++ [some step] := by
      rw [hfront]
      exact exists_last_step hlast
    have hjoinSegments : (LocalPath.splitSlash (dir.join ⟨s⟩).text.toList).map stepOfText? =
        (before ++ [some step]) ++ [some (.down (.text s hs))] := by
      rw [hjoin, LocalPath.splitSlash_slash, List.map_append, hsplit, List.map_singleton,
        stepOfText?_of_isFileName hs, hdirSegments]
    refine ⟨(before ++ [some step]).filterMap id, ?_, .inl ?_⟩
    · rw [ofPath, hjoinSegments, ofPath, hdirSegments, ofSegments_absolute_of_some,
        ← ofSegments_absolute (by simp), ← ofSegments_steps]
    · rw [ofPath, hdirSegments, ofSegments_steps]
      simp

end Route

namespace FileTree

/-! ## Opening a name in a directory -/

/-- The path leads to a directory at this location. -/
def DirectoryAt (t : FileTree) (p : LocalPath) (dir : Location) : Prop :=
  ∃ route, Route.ofPath? p = .ok route ∧
    t.locateDirectory route.absolute route.steps = .ok dir

/-- Opening the name in the directory leads to this location, over a link if the name belongs to
one. -/
def OpensIn (t : FileTree) (dir : Location) (name : FileName) (loc : Location) : Prop :=
  ∃ landing, t.walk true maxLinks dir [.down name] = .ok landing ∧ landing.location = loc

theorem DirectoryAt.unique {t : FileTree} {p : LocalPath} {dir dir' : Location}
    (h : t.DirectoryAt p dir) (h' : t.DirectoryAt p dir') : dir = dir' := by
  obtain ⟨route, hroute, hdir⟩ := h
  obtain ⟨route', hroute', hdir'⟩ := h'
  rw [hroute] at hroute'
  cases hroute'
  rw [hdir] at hdir'
  cases hdir'
  rfl

theorem locateDirectory_eq_ok_iff {t : FileTree} {absolute : Bool} {steps : List Step}
    {dir : Location} : t.locateDirectory absolute steps = .ok dir ↔
      t.land false absolute steps = .ok (.found dir) ∧ t.node? dir = some .directory := by
  rw [locateDirectory]
  cases hland : t.land false absolute steps with
  | error fault => exact ⟨nofun, fun h => nomatch h.1⟩
  | ok landing =>
    cases landing with
    | missing => exact ⟨nofun, fun h => nomatch h.1⟩
    | found loc =>
      dsimp only [bind, Except.bind]
      constructor
      · intro h
        split at h
        · next hnode =>
          cases h
          exact ⟨rfl, hnode⟩
        · cases h
        · cases h
      · rintro ⟨hfound, hnode⟩
        cases hfound
        rw [hnode]
        rfl

theorem DirectoryAt.retains {t t' : FileTree} {p : LocalPath} {dir : Location}
    (hdir : t.DirectoryAt p dir) (h : t.Retains t') : t'.DirectoryAt p dir := by
  obtain ⟨route, hroute, hdir⟩ := hdir
  obtain ⟨hland, hnode⟩ := locateDirectory_eq_ok_iff.1 hdir
  rw [land, walk_eq_ok_iff] at hland
  have hnode' := h.node?_directory hnode
  refine ⟨route, hroute, locateDirectory_eq_ok_iff.2 ⟨?_, hnode'⟩⟩
  rw [land, h.cwd, walk_eq_ok_iff]
  exact hland.reach h hnode' (by simp)

theorem isDirectory_iff {t : FileTree} {p : LocalPath} :
    t.isDirectory p = true ↔ ∃ dir, t.DirectoryAt p dir := by
  rw [isDirectory]
  constructor
  · intro h
    cases hloc : t.locate p with
    | error fault =>
      rw [hloc] at h
      cases h
    | ok dir =>
      obtain ⟨route, hroute, hland⟩ := locate_eq_ok_iff.1 hloc
      refine ⟨dir, route, hroute, locateDirectory_eq_ok_iff.2 ⟨hland, ?_⟩⟩
      rw [hloc] at h
      dsimp only at h
      cases hnode : t.node? dir with
      | none => simp [hnode] at h
      | some node => cases node <;> simp [hnode, Node.isDirectory] at h ⊢
  · rintro ⟨dir, route, hroute, hdir⟩
    obtain ⟨hland, hnode⟩ := locateDirectory_eq_ok_iff.1 hdir
    simp [locate_eq_ok_iff.2 ⟨route, hroute, hland⟩, hnode, Node.isDirectory]

/-- **Opening a name behind a directory's path opens the name in that directory.** -/
theorem opens_join {t : FileTree} {p : LocalPath} {dir : Location} (hdir : t.DirectoryAt p dir)
    {s : String} (hs : isFileName s.toList = true) {loc : Location}
    (hopens : t.Opens (p.join ⟨s⟩) loc) : t.OpensIn dir (.text s hs) loc := by
  obtain ⟨route, hroute, hdir⟩ := hdir
  obtain ⟨route', landing, hroute', hland, rfl⟩ := hopens
  obtain ⟨hne, rfl⟩ := Route.ofPath?_eq_ok hroute
  obtain ⟨-, rfl⟩ := Route.ofPath?_eq_ok hroute'
  have hlanded := (locateDirectory_eq_ok_iff.1 hdir).1
  obtain ⟨before, hjoin, hsteps⟩ := Route.ofPath_join hne hs
  rw [hjoin, land, walk_eq_ok_iff] at hland
  rw [land, walk_eq_ok_iff] at hlanded
  obtain ⟨mid, fewer, hle, hbefore, hlast⟩ := hland.split (List.cons_ne_nil _ _)
  -- the cut is where the directory's own path leads, with or without a slash at its end
  have hmid : mid = dir := by
    rcases hsteps with hsteps | hsteps
    · rw [hsteps] at hlanded
      cases hbefore.unique hlanded
      rfl
    · rw [hsteps] at hlanded
      obtain ⟨mid', fewer', hle', hbefore', henter⟩ := hlanded.split (List.cons_ne_nil _ _)
      cases hbefore.unique hbefore'
      cases henter with
      | move _ hstep hend =>
        cases hstep
        cases hend
        rfl
  subst hmid
  exact ⟨landing, walk_eq_ok_iff.2 (hlast.mono hle), rfl⟩

theorem OpensIn.unique {t : FileTree} {dir : Location} {name : FileName} {loc loc' : Location}
    (h : t.OpensIn dir name loc) (h' : t.OpensIn dir name loc') : loc = loc' := by
  obtain ⟨landing, hwalk, rfl⟩ := h
  obtain ⟨landing', hwalk', rfl⟩ := h'
  rw [hwalk] at hwalk'
  cases hwalk'
  rfl

/-- A name that belongs to something else than a link is opened where it stands. -/
theorem OpensIn.eq_cons {t : FileTree} {dir : Location} {name : FileName} {loc : Location}
    (h : t.OpensIn dir name loc) {node : Node} (hnode : t.node? (name :: dir) = some node)
    (hlink : ∀ target, node ≠ .link target) : loc = name :: dir := by
  obtain ⟨landing, hwalk, rfl⟩ := h
  cases walk_eq_ok_iff.1 hwalk with
  | move _ hstep _ => cases hstep
  | missing => rfl
  | down _ _ _ _ _ hend => cases hend; rfl
  | follow _ _ _ hnode' _ =>
    rw [hnode] at hnode'
    cases hnode'
    exact absurd rfl (hlink _)

end FileTree

/-! ## Inventories -/

namespace Inventory

/-- The inventory of the directory at a location. -/
def ofDirectory (t : FileTree) (dir : Location) : Inventory :=
  ⟨(t.entriesOf dir).filterMap nameOf?⟩

theorem collect_eq_ok_iff {t : FileTree} {p : LocalPath} {inventory : Inventory} :
    collect t p = .ok inventory ↔ ∃ dir, t.DirectoryAt p dir ∧ inventory = ofDirectory t dir := by
  rw [collect]
  constructor
  · intro h
    cases hroute : Route.ofPath? p with
    | error fault =>
      rw [hroute] at h
      cases h
    | ok route =>
      rw [hroute] at h
      change (t.locateDirectory route.absolute route.steps >>= _) = _ at h
      cases hdir : t.locateDirectory route.absolute route.steps with
      | error fault =>
        rw [hdir] at h
        cases h
      | ok dir =>
        rw [hdir] at h
        cases h
        exact ⟨dir, ⟨route, hroute, hdir⟩, rfl⟩
  · rintro ⟨dir, ⟨route, hroute, hdir⟩, rfl⟩
    rw [hroute]
    change (t.locateDirectory route.absolute route.steps >>= _) = _
    rw [hdir]
    rfl

/-- **An inventory holds the names of the nodes that are no directories**, links included. -/
theorem contains_iff {t : FileTree} {dir : Location} {s : String} :
    (ofDirectory t dir).contains s = true ↔
      ∃ hs node, t.node? (.text s hs :: dir) = some node ∧ node ≠ .directory := by
  simp only [contains, ofDirectory, List.contains_eq_mem, decide_eq_true_eq, List.mem_filterMap]
  constructor
  · rintro ⟨⟨name, node⟩, hmem, hname⟩
    cases name with
    | raw => cases hname
    | text s' hs =>
      cases node with
      | directory => cases hname
      | file | link =>
        cases hname
        exact ⟨hs, _, FileTree.mem_entriesOf.1 hmem, nofun⟩
  · rintro ⟨hs, node, hnode, hdir⟩
    refine ⟨(.text s hs, node), FileTree.mem_entriesOf.2 hnode, ?_⟩
    cases node with
    | directory => exact absurd rfl hdir
    | file | link => rfl

end Inventory

end Vendoring
