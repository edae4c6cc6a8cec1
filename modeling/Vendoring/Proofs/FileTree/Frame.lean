import Vendoring.Proofs.FileTree.Chain

/-!
# What an operation leaves alone

Each operation of the disk has its place in a tree, and **nothing else changes**
(`Store.disk_frame`), whatever the way to that place leads over: links, circles of links, `..`, names
that are too long, files where a directory is needed.

Making directories is the one operation that can stop half-way. Then too it has only added
directories, and to each of them the path leads, or a path above it (`LaysWay`). To touch and to write
a file is to open one path, which either cannot be opened (`CanOpen`), and then nothing has happened,
or leads to the one place where something is different (`SetsFile`).
-/

set_option autoImplicit false

namespace Vendoring

namespace FileTree

/-! ## Directories on the way to a path -/

/-- The tree got directories and is the same otherwise, and to each of the new ones the path leads or
a path above it. -/
structure LaysWay (t : FileTree) (p : LocalPath) (t' : FileTree) : Prop extends t.AddsDirs t' where
  onWay : ∀ {loc}, t.node? loc = none → t'.node? loc ≠ none →
    ∃ q : LocalPath, (q = p ∨ q.IsAbove p) ∧ t'.DirectoryAt q loc

theorem makeDirs_laysWay (t : FileTree) (p : LocalPath) : t.LaysWay p (t.makeDirs p).1 where
  toAddsDirs := makeDirs_addsDirs t p
  onWay {loc} hnone hnew := by
    obtain ⟨q, hq, hdir⟩ := (chains_makeDirs rfl).adds hnone hnew
    refine ⟨q, ?_, hdir⟩
    rcases List.mem_cons.1 hq with rfl | hq
    · exact .inl rfl
    · -- the chain ends with the empty path, but that leads nowhere
      obtain ⟨route, hroute, -⟩ := hdir
      have hne : q.text ≠ "" := by simpa using (Route.ofPath?_eq_ok hroute).1
      exact .inr (LocalPath.isAbove_of_mem_parents hq hne)

/-! ## The file that one path leads to -/

/-- Opening the path for writing comes to a file, or to a name that is free in its directory. -/
def CanOpen (t : FileTree) (p : LocalPath) : Prop :=
  ∃ route landing, Route.ofPath? p = .ok route ∧
    t.Leads true maxLinks (if route.absolute then [] else t.cwd) route.steps landing ∧
    match landing with
    | .missing _ _ => True
    | .found loc => ∃ data, t.node? loc = some (.file data)

theorem openFile_isOk_iff {t : FileTree} {p : LocalPath} :
    (∃ opened, t.openFile p = .ok opened) ↔ t.CanOpen p := by
  constructor
  · rintro ⟨⟨opened, loc⟩, hopen⟩
    obtain ⟨route, landing, hroute, hland, rfl, hplace⟩ := openFile_eq_ok_iff.1 hopen
    refine ⟨route, landing, hroute, walk_eq_ok_iff.1 hland, ?_⟩
    cases landing with
    | missing dir name => trivial
    | found there => exact hplace.2
  · rintro ⟨route, landing, hroute, hleads, hplace⟩
    have hland : t.land true route.absolute route.steps = .ok landing := walk_eq_ok_iff.2 hleads
    cases landing with
    | missing dir name => exact ⟨_, openFile_eq_ok_iff.2 ⟨_, _, hroute, hland, rfl, rfl⟩⟩
    | found there => exact ⟨_, openFile_eq_ok_iff.2 ⟨_, _, hroute, hland, rfl, rfl, hplace⟩⟩

/-- Touching and writing a file fail only where it cannot be opened. -/
theorem touch_isOk_iff {t : FileTree} {p : LocalPath} :
    (∃ t', t.touch p = .ok t') ↔ t.CanOpen p := by
  rw [← openFile_isOk_iff, touch]
  cases t.openFile p with
  | error fault => simp [bind, Except.bind]
  | ok opened => simp [bind, Except.bind, pure, Except.pure]

theorem write_isOk_iff {t : FileTree} {p : LocalPath} {data : ByteArray} :
    (∃ t', t.write p data = .ok t') ↔ t.CanOpen p := by
  rw [← openFile_isOk_iff, write]
  cases t.openFile p with
  | error fault => simp [bind, Except.bind]
  | ok opened => simp [bind, Except.bind, pure, Except.pure]

/-- The path leads to a file with these bytes at this location, in the place of a file or of nothing,
and everywhere else the tree is the same. -/
structure SetsFile (t : FileTree) (p : LocalPath) (loc : Location) (data : ByteArray)
    (t' : FileTree) : Prop where
  locate : t'.locate p = .ok loc
  node?_eq : t'.node? loc = some (.file data)
  before : t.node? loc = none ∨ ∃ old, t.node? loc = some (.file old)
  cwd : t'.cwd = t.cwd
  others : ∀ {l}, l ≠ loc → t'.node? l = t.node? l

theorem SetsFile.read {t t' : FileTree} {p : LocalPath} {loc : Location} {data : ByteArray}
    (h : t.SetsFile p loc data t') : t'.read p = .ok data :=
  read_of_locate h.locate h.node?_eq

/-- **A file that is touched keeps its bytes**, and one that is new has none. -/
theorem touch_setsFile {t t' : FileTree} {p : LocalPath} (h : t.touch p = .ok t') :
    ∃ loc data, t.SetsFile p loc data t' ∧ (t' = t ∨ t.node? loc = none ∧ data = .empty) := by
  obtain ⟨hretains, loc, hfile, rfl | ⟨hnone, hnode?⟩⟩ := touch_spec h
  · obtain ⟨data, hdata⟩ := hfile.2
    exact ⟨loc, data, ⟨hfile.locate, hdata, .inr ⟨data, hdata⟩, rfl, fun _ => rfl⟩, .inl rfl⟩
  · refine ⟨loc, .empty, ⟨hfile.locate, ?_, .inl hnone, hretains.cwd, ?_⟩, .inr ⟨hnone, rfl⟩⟩
    · rw [hnode?, if_pos rfl]
    · intro l hl
      rw [hnode?, if_neg hl]

theorem write_setsFile {t t' : FileTree} {p : LocalPath} {data : ByteArray}
    (h : t.write p data = .ok t') : ∃ loc, t.SetsFile p loc data t' := by
  obtain ⟨loc, hopens, hfile, hcwd, hnode?⟩ := write_spec h
  have hnode : t'.node? loc = some (.file data) := by rw [hnode?, if_pos rfl]
  refine ⟨loc, (hopens.fileAt (grows_of_write h).retains hnode).locate, hnode, ?_, hcwd, ?_⟩
  · cases hold : t.node? loc with
    | none => exact .inl rfl
    | some node =>
      obtain ⟨old, rfl⟩ := hfile node hold
      exact .inr ⟨old, rfl⟩
  · intro l hl
    rw [hnode?, if_neg hl]

end FileTree

/-! ## The operations of the disk -/

namespace Store

variable {p : LocalPath} {f : FileTree → Except FileFault FileTree} {t t' : FileTree}

theorem change_eq_ok_iff : change p f t = (.ok (), t') ↔ f t = .ok t' := by
  rw [change]
  cases f t with
  | error cause =>
    constructor <;> intro h <;> cases h
  | ok changed =>
    constructor <;> intro h <;> cases h <;> rfl

theorem change_of_error {fault : Fault} (h : change p f t = (.error fault, t')) : t' = t := by
  rw [change] at h
  cases hf : f t with
  | error cause =>
    rw [hf] at h
    cases h
    rfl
  | ok changed =>
    rw [hf] at h
    cases h

theorem makeDirs_disk (p : LocalPath) (t : FileTree) :
    disk.makeDirs p t = ((t.makeDirs p).2.mapError (.file p), (t.makeDirs p).1) :=
  rfl

theorem mapError_eq_ok_iff {outcome : Except FileFault Unit} {name : FileFault → Fault} :
    outcome.mapError name = .ok () ↔ outcome = .ok () := by
  cases outcome <;> simp [Except.mapError]

/-- **An operation of the disk changes nothing but what it is for.** For every tree, with any links,
and every path:

* To make the directories of the path, whether it succeeds or fails, takes nothing away, changes
  nothing and adds only directories, to each of which the path or one above it leads. It succeeds
  exactly if the path leads to a directory afterwards or is empty, and then it has nothing left to
  do. If the system looks at the path at all, then neither it nor one above it is left that could
  be made.
* To touch the path or to write to it succeeds exactly if the path can be opened. If it fails, the
  tree is the same.
* After a touch that succeeds the path leads to a file, and the tree is the same or has that file
  besides, with no bytes.
* After a write that succeeds the path is read as the bytes that were written. It leads to a file that
  was one before or is new, and everywhere else the tree is the same. -/
theorem disk_frame (t : FileTree) (p : LocalPath) :
    (∀ answer t', disk.makeDirs p t = (answer, t') →
      t.LaysWay p t' ∧ (answer = .ok () ↔ t'.HasDir p) ∧
        (answer = .ok () → disk.makeDirs p t' = (.ok (), t')) ∧
        ∀ route, Route.ofPath? p = .ok route → ∀ q ∈ p :: p.parents, ¬ t'.CanMake q) ∧
    ((∃ t', disk.touch p t = (.ok (), t')) ↔ t.CanOpen p) ∧
    (∀ fault t', disk.touch p t = (.error fault, t') → t' = t) ∧
    (∀ t', disk.touch p t = (.ok (), t') →
      ∃ loc data, t.SetsFile p loc data t' ∧ (t' = t ∨ t.node? loc = none ∧ data = .empty)) ∧
    ∀ data,
      ((∃ t', disk.write p data t = (.ok (), t')) ↔ t.CanOpen p) ∧
      (∀ fault t', disk.write p data t = (.error fault, t') → t' = t) ∧
      ∀ t', disk.write p data t = (.ok (), t') →
        t'.read p = .ok data ∧ ∃ loc, t.SetsFile p loc data t' := by
  refine ⟨?_, ?_, ?_, ?_, fun data => ⟨?_, ?_, ?_⟩⟩
  · intro answer t' hrun
    obtain ⟨rfl, rfl⟩ := Prod.mk.inj ((makeDirs_disk p t).symm.trans hrun)
    rw [mapError_eq_ok_iff, FileTree.makeDirs_isOk_iff]
    refine ⟨FileTree.makeDirs_laysWay t p, Iff.rfl, fun hdir => ?_,
      fun route => FileTree.makeDirs_exhausts t⟩
    rw [makeDirs_disk, FileTree.makeDirs_of_hasDir hdir]
    rfl
  · exact (exists_congr fun _ => change_eq_ok_iff (f := (·.touch p))).trans FileTree.touch_isOk_iff
  · exact fun fault t' hfails => change_of_error (f := (·.touch p)) hfails
  · exact fun t' htouch => FileTree.touch_setsFile (change_eq_ok_iff (f := (·.touch p)).1 htouch)
  · exact (exists_congr fun _ => change_eq_ok_iff (f := (·.write p data))).trans
      FileTree.write_isOk_iff
  · exact fun fault t' hfails => change_of_error (f := (·.write p data)) hfails
  · intro t' hwrite
    obtain ⟨loc, hsets⟩ :=
      FileTree.write_setsFile (change_eq_ok_iff (f := (·.write p data)).1 hwrite)
    exact ⟨hsets.read, loc, hsets⟩

/-- A bench with a link to a shelf, which holds one file, a link to a file that is not there yet, and a
link to itself. -/
def shelfTree : FileTree where
  nodes := [([.text "bench"], .directory), ([.text "shelf"], .directory),
    ([.text "bolt.cc", .text "shelf"], .file "bolt".toUTF8),
    ([.text "lead", .text "bench"], .link ⟨"../shelf/"⟩),
    ([.text "coming", .text "bench"], .link ⟨"lead/nut.cc"⟩),
    ([.text "circle", .text "bench"], .link ⟨"circle"⟩)]
  cwd := [.text "bench"]
  distinct := by decide +kernel

/-- A chain over a link and a `..` that stops half-way, and one that does not; a file behind a link to
itself, one behind a link to nothing, and one that has more bytes than it is to have. -/
theorem disk_frame_linked :
    let tray : Location := [.text "tray", .text "shelf"]
    let fresh : Location := [.text "nut.cc", .text "shelf"]
    let stuck : LocalPath := ⟨"lead/tray/../deep/leaf/."⟩
    let whole : LocalPath := ⟨"lead/tray/../deep"⟩
    (∃ t', disk.makeDirs stuck shelfTree = (.error (.file stuck .notFound), t') ∧
      shelfTree.LaysWay stuck t' ∧ ¬ t'.HasDir stuck ∧
      (∃ q : LocalPath, (q = stuck ∨ q.IsAbove stuck) ∧ t'.DirectoryAt q tray) ∧
      ∀ q ∈ stuck :: stuck.parents, ¬ t'.CanMake q) ∧
    (∃ t', disk.makeDirs whole shelfTree = (.ok (), t') ∧ shelfTree.LaysWay whole t' ∧
      t'.HasDir whole ∧ disk.makeDirs whole t' = (.ok (), t')) ∧
    (¬ shelfTree.CanOpen ⟨"circle"⟩ ∧ disk.touch ⟨"circle"⟩ shelfTree =
      (.error (.file ⟨"circle"⟩ .tooManyLinks), shelfTree)) ∧
    (∃ t' loc, disk.touch ⟨"coming"⟩ shelfTree = (.ok (), t') ∧ shelfTree.node? loc = none ∧
      shelfTree.SetsFile ⟨"coming"⟩ loc .empty t' ∧ t'.node? fresh = some (.file .empty)) ∧
    ∃ t' loc, disk.write ⟨"lead/bolt.cc"⟩ "b".toUTF8 shelfTree = (.ok (), t') ∧
      shelfTree.read ⟨"lead/bolt.cc"⟩ = .ok "bolt".toUTF8 ∧
      t'.read ⟨"lead/bolt.cc"⟩ = .ok "b".toUTF8 ∧
      shelfTree.SetsFile ⟨"lead/bolt.cc"⟩ loc "b".toUTF8 t' := by
  intro tray fresh stuck whole
  refine ⟨?_, ?_, ?_, ?_, ?_⟩
  · have hroute : Route.ofPath? stuck = .ok (.ofPath stuck) := by
      rw [Route.ofPath?, if_neg (by decide +kernel), if_neg (by decide +kernel),
        if_neg (by decide +kernel)]
    obtain ⟨hfails, hnone, hnew⟩ :
        (disk.makeDirs stuck shelfTree).1 = .error (.file stuck .notFound) ∧
          shelfTree.node? tray = none ∧
          (disk.makeDirs stuck shelfTree).2.node? tray ≠ none := by
      decide +kernel
    rcases hrun : disk.makeDirs stuck shelfTree with ⟨answer, t'⟩
    rw [hrun] at hfails hnew
    obtain rfl := hfails
    obtain ⟨hlays, hok, -, hnothing⟩ := (disk_frame shelfTree stuck).1 _ t' hrun
    have hnot : ¬ t'.HasDir stuck := by
      intro hdir
      cases hok.2 hdir
    exact ⟨t', rfl, hlays, hnot, hlays.onWay hnone hnew, hnothing _ hroute⟩
  · have hworks : (disk.makeDirs whole shelfTree).1 = .ok () := by decide +kernel
    rcases hrun : disk.makeDirs whole shelfTree with ⟨answer, t'⟩
    rw [hrun] at hworks
    obtain rfl := hworks
    obtain ⟨hlays, hok, hagain, -⟩ := (disk_frame shelfTree whole).1 _ t' hrun
    exact ⟨t', rfl, hlays, hok.1 rfl, hagain rfl⟩
  · have hfails : (disk.touch ⟨"circle"⟩ shelfTree).1 =
        .error (.file ⟨"circle"⟩ .tooManyLinks) := by
      decide +kernel
    obtain ⟨-, hopens, hsame, -⟩ := disk_frame shelfTree ⟨"circle"⟩
    rcases hrun : disk.touch ⟨"circle"⟩ shelfTree with ⟨answer, t'⟩
    rw [hrun] at hfails
    obtain rfl := hfails
    obtain rfl := hsame _ t' hrun
    refine ⟨fun hopen => ?_, rfl⟩
    obtain ⟨t', hok⟩ := hopens.2 hopen
    rw [hrun] at hok
    cases hok
  · obtain ⟨hworks, hnone, hnew⟩ : (disk.touch ⟨"coming"⟩ shelfTree).1 = .ok () ∧
        shelfTree.node? fresh = none ∧
        (disk.touch ⟨"coming"⟩ shelfTree).2.node? fresh = some (.file .empty) := by
      decide +kernel
    obtain ⟨-, -, -, htouch, -⟩ := disk_frame shelfTree ⟨"coming"⟩
    rcases hrun : disk.touch ⟨"coming"⟩ shelfTree with ⟨answer, t'⟩
    rw [hrun] at hworks hnew
    obtain rfl := hworks
    obtain ⟨loc, data, hsets, hsame | ⟨hfree, rfl⟩⟩ := htouch t' hrun
    · rw [hsame, hnone] at hnew
      cases hnew
    · exact ⟨t', loc, rfl, hfree, hsets, hnew⟩
  · have hworks : (disk.write ⟨"lead/bolt.cc"⟩ "b".toUTF8 shelfTree).1 = .ok () := by
      decide +kernel
    have hold : shelfTree.read ⟨"lead/bolt.cc"⟩ = .ok "bolt".toUTF8 := by decide +kernel
    obtain ⟨-, -, -, -, hwrites⟩ := disk_frame shelfTree ⟨"lead/bolt.cc"⟩
    rcases hrun : disk.write ⟨"lead/bolt.cc"⟩ "b".toUTF8 shelfTree with ⟨answer, t'⟩
    rw [hrun] at hworks
    obtain rfl := hworks
    obtain ⟨hread, loc, hsets⟩ := (hwrites _).2.2 t' hrun
    exact ⟨t', loc, rfl, hold, hread, hsets⟩

end Store

end Vendoring
