import Vendoring.FileTree.Change
import Vendoring.Proofs.FileTree.Retains

/-!
# Trees that only gain files

A write gives bytes to a file, which it makes if there is none, and does nothing else. So a tree
that was written to has **all the nodes it had, of the same kinds, and files besides**
(`FileTree.Grows`, `grows_of_write`). Such a tree leads every path where the tree before led it, so
what a run of writes does can be told from the tree at its beginning (`Grows.opens`).

The other way round, a path that opens a file opens the same one in every tree that retains this
one, directories that were made included (`FileAt.retains`).
-/

set_option autoImplicit false

namespace Vendoring

namespace FileTree

/-- Every node of `t` is in `t'` with its kind, and what else is in `t'` is files. -/
structure Grows (t t' : FileTree) : Prop where
  cwd : t'.cwd = t.cwd
  keeps : ∀ {loc node}, t.node? loc = some node →
    ∃ node', t'.node? loc = some node' ∧ node'.shape = node.shape
  adds : ∀ {loc node'}, t.node? loc = none → t'.node? loc = some node' →
    ∃ data, node' = .file data

namespace Grows

theorem refl (t : FileTree) : t.Grows t where
  cwd := rfl
  keeps h := ⟨_, h, rfl⟩
  adds hnone hsome := by rw [hnone] at hsome; cases hsome

theorem retains {t t' : FileTree} (h : t.Grows t') : t.Retains t' where
  cwd := h.cwd
  keeps := h.keeps

theorem trans {t₁ t₂ t₃ : FileTree} (h : t₁.Grows t₂) (h' : t₂.Grows t₃) : t₁.Grows t₃ where
  cwd := h'.cwd.trans h.cwd
  keeps := (h.retains.trans h'.retains).keeps
  adds {loc node₃} hnone hnode₃ := by
    cases hnode₂ : t₂.node? loc with
    | none => exact h'.adds hnode₂ hnode₃
    | some node₂ =>
      obtain ⟨data, rfl⟩ := h.adds hnone hnode₂
      obtain ⟨node, hnode, hshape⟩ := h'.keeps hnode₂
      rw [hnode₃] at hnode
      cases hnode
      exact Node.shape_eq_file.1 hshape

variable {t t' : FileTree} (h : t.Grows t')

include h

theorem node?_of_directory {loc : Location} (hdir : t'.node? loc = some .directory) :
    t.node? loc = some .directory := by
  cases hnode : t.node? loc with
  | none =>
    obtain ⟨data, hdata⟩ := h.adds hnode hdir
    cases hdata
  | some node =>
    obtain ⟨node', hnode', hshape⟩ := h.keeps hnode
    rw [hdir] at hnode'
    cases hnode'
    rw [Node.shape_eq_directory.1 hshape.symm]

theorem node?_of_link {loc : Location} {target : LocalPath}
    (hlink : t'.node? loc = some (.link target)) : t.node? loc = some (.link target) := by
  cases hnode : t.node? loc with
  | none =>
    obtain ⟨data, hdata⟩ := h.adds hnode hlink
    cases hdata
  | some node =>
    obtain ⟨node', hnode', hshape⟩ := h.keeps hnode
    rw [hlink] at hnode'
    cases hnode'
    rw [Node.shape_eq_link.1 hshape.symm]

/-- **What a way leads to after the growth, it led to before**: a file that is found on it may have
been missing then, but at the same location. -/
theorem leads {making : Bool} {links : Nat} {here : Location} {steps : List Step}
    {landing' : Landing} (hleads : t'.Leads making links here steps landing') :
    ∃ landing, t.Leads making links here steps landing ∧
      landing.location = landing'.location := by
  induction hleads with
  | done => exact ⟨_, .done, rfl⟩
  | move hdir hstep _ ih =>
    obtain ⟨landing, hrest, hloc⟩ := ih
    exact ⟨landing, .move (h.node?_of_directory hdir) hstep hrest, hloc⟩
  | missing hdir hname hnode =>
    exact ⟨_, .missing (h.node?_of_directory hdir) hname (h.retains.node?_of_none hnode), rfl⟩
  | @down links here name rest node' landing' hdir hmaking hname hnode' hlink hrest' ih =>
    have hdir := h.node?_of_directory hdir
    cases hnode : t.node? (name :: here) with
    | some node =>
      obtain ⟨landing, hrest, hloc⟩ := ih
      refine ⟨landing, .down hdir hmaking hname hnode ?_ hrest, hloc⟩
      rintro target rfl
      obtain ⟨same, hsame, hshape⟩ := h.keeps hnode
      rw [hnode'] at hsame
      cases hsame
      exact hlink target (Node.shape_eq_link.1 hshape)
    | none =>
      -- a file that was made: it ends the way, so only the end of the way was missing
      obtain ⟨data, rfl⟩ := h.adds hnode hnode'
      have hend : rest = [] := by
        refine Classical.byContradiction fun hne => ?_
        rw [hrest'.node?_of_ne_nil hne] at hnode'
        cases hnode'
      subst hend
      cases hrest'
      exact ⟨_, .missing hdir hname hnode, rfl⟩
  | follow hdir hmaking hname hnode _ ih =>
    obtain ⟨landing, hrest, hloc⟩ := ih
    exact ⟨landing, .follow (h.node?_of_directory hdir) hmaking hname (h.node?_of_link hnode) hrest,
      hloc⟩

end Grows

/-! ## Opening -/

/-- Opening the path for writing leads to this location, whether or not there is a file yet. -/
def Opens (t : FileTree) (p : LocalPath) (loc : Location) : Prop :=
  ∃ route landing, Route.ofPath? p = .ok route ∧
    t.land true route.absolute route.steps = .ok landing ∧ landing.location = loc

theorem Opens.unique {t : FileTree} {p : LocalPath} {loc loc' : Location} (h : t.Opens p loc)
    (h' : t.Opens p loc') : loc = loc' := by
  obtain ⟨route, landing, hroute, hland, rfl⟩ := h
  obtain ⟨route', landing', hroute', hland', rfl⟩ := h'
  rw [hroute] at hroute'
  cases hroute'
  rw [hland] at hland'
  cases hland'
  rfl

theorem Grows.opens {t t' : FileTree} (h : t.Grows t') {p : LocalPath} {loc : Location}
    (hopens : t'.Opens p loc) : t.Opens p loc := by
  obtain ⟨route, landing', hroute, hland, rfl⟩ := hopens
  rw [land, h.cwd, walk_eq_ok_iff] at hland
  obtain ⟨landing, hleads, hloc⟩ := h.leads hland
  exact ⟨route, landing, hroute, walk_eq_ok_iff.2 hleads, hloc⟩

/-! ## Files that stay -/

/-- Opening the path for writing leads to a file, which is at this location. -/
def FileAt (t : FileTree) (p : LocalPath) (loc : Location) : Prop :=
  t.Opens p loc ∧ ∃ data, t.node? loc = some (.file data)

/-- A path that was opened leads to the file that is now at its end. -/
theorem Opens.fileAt {t t' : FileTree} {p : LocalPath} {loc : Location} (hopens : t.Opens p loc)
    (h : t.Retains t') {data : ByteArray} (hfile : t'.node? loc = some (.file data)) :
    t'.FileAt p loc := by
  obtain ⟨route, landing, hroute, hland, rfl⟩ := hopens
  rw [land, walk_eq_ok_iff] at hland
  refine ⟨⟨route, .found landing.location, hroute, ?_, rfl⟩, data, hfile⟩
  rw [land, h.cwd, walk_eq_ok_iff]
  exact hland.reach h hfile (by simp)

theorem FileAt.retains {t t' : FileTree} {p : LocalPath} {loc : Location} (hfile : t.FileAt p loc)
    (h : t.Retains t') : t'.FileAt p loc := by
  obtain ⟨hopens, data, hdata⟩ := hfile
  obtain ⟨data', hdata'⟩ := h.node?_file hdata
  exact hopens.fileAt h hdata'

theorem locate_eq_ok_iff {t : FileTree} {p : LocalPath} {loc : Location} :
    t.locate p = .ok loc ↔ ∃ route, Route.ofPath? p = .ok route ∧
      t.land false route.absolute route.steps = .ok (.found loc) := by
  rw [locate]
  cases hroute : Route.ofPath? p with
  | error fault => exact ⟨nofun, fun ⟨_, h, _⟩ => nomatch h⟩
  | ok route =>
    change (t.land false route.absolute route.steps >>= _) = _ ↔ _
    constructor
    · intro h
      refine ⟨route, rfl, ?_⟩
      cases hland : t.land false route.absolute route.steps with
      | error fault =>
        rw [hland] at h
        cases h
      | ok landing =>
        rw [hland] at h
        cases landing with
        | missing => cases h
        | found => cases h; rfl
    · rintro ⟨_, hsame, hland⟩
      cases hsame
      rw [hland]
      rfl

/-- A path that opens a file names it. -/
theorem FileAt.locate {t : FileTree} {p : LocalPath} {loc : Location} (h : t.FileAt p loc) :
    t.locate p = .ok loc := by
  obtain ⟨⟨route, landing, hroute, hland, rfl⟩, data, hdata⟩ := h
  rw [land, walk_eq_ok_iff] at hland
  refine locate_eq_ok_iff.2 ⟨route, hroute, ?_⟩
  rw [land, walk_eq_ok_iff]
  exact hland.reading.reach (.refl t) hdata (by simp)

theorem read_of_locate {t : FileTree} {p : LocalPath} {loc : Location} {data : ByteArray}
    (h : t.locate p = .ok loc) (hfile : t.node? loc = some (.file data)) :
    t.read p = .ok data := by
  rw [read, h]
  dsimp only [bind, Except.bind]
  rw [hfile]
  rfl

/-! ## Writing -/

/-- **What opening does**: a file that is found is left alone, and a name that is missing gets an
empty file. -/
theorem openFile_eq_ok_iff {t t' : FileTree} {p : LocalPath} {loc : Location} :
    t.openFile p = .ok (t', loc) ↔ ∃ route landing, Route.ofPath? p = .ok route ∧
      t.land true route.absolute route.steps = .ok landing ∧ landing.location = loc ∧
      match landing with
      | .missing _ _ => t' = t.insert loc (.file .empty)
      | .found _ => t' = t ∧ ∃ data, t.node? loc = some (.file data) := by
  rw [openFile]
  cases hroute : Route.ofPath? p with
  | error fault => exact ⟨nofun, fun ⟨_, _, h, _⟩ => nomatch h⟩
  | ok route =>
    change (t.land true route.absolute route.steps >>= _) = _ ↔ _
    constructor
    · intro h
      cases hland : t.land true route.absolute route.steps with
      | error fault =>
        rw [hland] at h
        cases h
      | ok landing =>
        rw [hland] at h
        refine ⟨route, landing, rfl, hland, ?_⟩
        cases landing with
        | missing dir name =>
          cases h
          exact ⟨rfl, rfl⟩
        | found there =>
          dsimp only [bind, Except.bind] at h
          split at h
          · next data hnode =>
            cases h
            exact ⟨rfl, rfl, data, hnode⟩
          · cases h
          · cases h
    · rintro ⟨_, landing, hsame, hland, rfl, hplace⟩
      cases hsame
      rw [hland]
      cases landing with
      | missing dir name =>
        rw [hplace]
        rfl
      | found there =>
        obtain ⟨rfl, data, hdata⟩ := hplace
        change t'.node? there = some (.file data) at hdata
        dsimp only [bind, Except.bind]
        rw [hdata]
        rfl

/-- A file that was opened is there afterwards, and there was nothing else in its place. -/
theorem openFile_spec {t t' : FileTree} {p : LocalPath} {loc : Location}
    (h : t.openFile p = .ok (t', loc)) :
    t.Opens p loc ∧ loc ≠ [] ∧
      ((∃ data, t.node? loc = some (.file data)) ∧ t' = t ∨
        t.node? loc = none ∧ t' = t.insert loc (.file .empty)) := by
  obtain ⟨route, landing, hroute, hland, rfl, hplace⟩ := openFile_eq_ok_iff.1 h
  refine ⟨⟨route, landing, hroute, hland, rfl⟩, ?_⟩
  cases landing with
  | missing dir name =>
    exact ⟨List.cons_ne_nil _ _, .inr ⟨(walk_eq_ok_iff.1 hland).node?_of_missing rfl, hplace⟩⟩
  | found there =>
    obtain ⟨hsame, data, hdata⟩ := hplace
    refine ⟨?_, .inl ⟨⟨data, hdata⟩, hsame⟩⟩
    intro hroot
    rw [hroot] at hdata
    cases hdata

/-- **What a write does**: the path is opened, where there is a file or nothing, and the bytes are
put there. -/
theorem write_spec {t t' : FileTree} {p : LocalPath} {data : ByteArray}
    (h : t.write p data = .ok t') :
    ∃ loc, t.Opens p loc ∧ (∀ node, t.node? loc = some node → ∃ old, node = .file old) ∧
      t'.cwd = t.cwd ∧ ∀ l, t'.node? l = if l = loc then some (.file data) else t.node? l := by
  rw [write] at h
  cases hopen : t.openFile p with
  | error fault =>
    rw [hopen] at h
    cases h
  | ok opened =>
    obtain ⟨opened, loc⟩ := opened
    rw [hopen] at h
    cases h
    obtain ⟨hopens, hne, ⟨⟨old, hold⟩, rfl⟩ | ⟨hnone, rfl⟩⟩ := openFile_spec hopen
    · refine ⟨loc, hopens, ?_, rfl, node?_insert _ hne _⟩
      rintro node hnode
      rw [hold] at hnode
      cases hnode
      exact ⟨old, rfl⟩
    · refine ⟨loc, hopens, ?_, rfl, fun l => ?_⟩
      · rintro node hnode
        rw [hnone] at hnode
        cases hnode
      · rw [node?_insert _ hne, node?_insert _ hne]
        split <;> rfl

theorem grows_of_write {t t' : FileTree} {p : LocalPath} {data : ByteArray}
    (h : t.write p data = .ok t') : t.Grows t' := by
  obtain ⟨loc, -, hfile, hcwd, hnode?⟩ := write_spec h
  refine ⟨hcwd, fun {l node} hnode => ?_, fun {l node'} hnone hnode' => ?_⟩
  · by_cases hl : l = loc
    · -- the node that is written to was a file, so it is one still
      subst hl
      obtain ⟨old, rfl⟩ := hfile node hnode
      exact ⟨.file data, by rw [hnode?, if_pos rfl], rfl⟩
    · exact ⟨node, by rw [hnode?, if_neg hl, hnode], rfl⟩
  · rw [hnode?] at hnode'
    split at hnode'
    · cases hnode'
      exact ⟨data, rfl⟩
    · rw [hnone] at hnode'
      cases hnode'

end FileTree

end Vendoring
