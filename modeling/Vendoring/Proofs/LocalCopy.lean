import Vendoring.LocalCopy
import Vendoring.Proofs.LocalPath
import Vendoring.Proofs.Text.LowerCase

/-!
# The place of a remote path in the local copy

Whatever text a remote path is, its place is a relative path of proper names
(`localPath?_eq_some`): never empty, never absolute, without a `.` or `..` step. So below any
directory it names something strictly inside that directory.

Reading the segments by their characters comes to the same as reading each of them as a path and
joining those that are names (`localPath?_by_joins`).

Lower case neither makes a step nor takes one away, and has nothing left to do on its own result. So
**the place says what the lower-cased segments behind the first one are, and nothing else**
(`localPath?_by_segments`).
-/

set_option autoImplicit false

namespace Vendoring

open LocalPath

theorem mem_remoteSegments {remotePath : String} {segment : List Char}
    (h : segment ∈ remoteSegments remotePath) : segment ≠ [] ∧ '/' ∉ segment := by
  rw [remoteSegments, List.mem_filter] at h
  exact ⟨by simpa using h.2, slash_not_mem_of_mem_splitSlash h.1⟩

/-- A segment that is a step to the directory itself or to its parent. -/
def IsStep (segment : List Char) : Prop := segment = ['.'] ∨ segment = ['.', '.']

instance (segment : List Char) : Decidable (IsStep segment) :=
  inferInstanceAs (Decidable (_ ∨ _))

/-- **Lower case makes no steps**, and leaves those that are there. -/
theorem isStep_lowerChars {segment : List Char} :
    IsStep (Text.lowerChars segment) ↔ IsStep segment := by
  have hdot : Text.lowerChars ['.'] = ['.'] := by decide +kernel
  have hdots : Text.lowerChars ['.', '.'] = ['.', '.'] := by decide +kernel
  constructor
  · rintro (h | h)
    · exact .inl (Text.eq_of_lowerCharsAfter_eq_replicate (n := 1) (by decide) h)
    · exact .inr (Text.eq_of_lowerCharsAfter_eq_replicate (n := 2) (by decide) h)
  · rintro (rfl | rfl)
    · exact .inl hdot
    · exact .inr hdots

theorem isFileName_iff {segment : List Char} :
    isFileName segment = true ↔ segment ≠ [] ∧ '/' ∉ segment ∧ ¬ IsStep segment := by
  simp [isFileName, IsStep, and_assoc]

theorem isFileName_lowerChars {segment : List Char} (hne : segment ≠ []) (hslash : '/' ∉ segment)
    (hstep : ¬ IsStep segment) : isFileName (Text.lowerChars segment) = true :=
  isFileName_iff.2 ⟨Text.lowerChars_ne_nil hne, Text.slash_not_mem_lowerChars hslash,
    isStep_lowerChars.not.2 hstep⟩

theorem localSegment?_eq (segment : List Char) :
    localSegment? segment =
      if IsStep segment then none else some (Text.lowerChars segment) := by
  by_cases hstep : IsStep segment
  · rw [if_pos hstep]
    exact if_pos (isStep_lowerChars.2 hstep)
  · rw [if_neg hstep]
    exact if_neg (isStep_lowerChars.not.2 hstep)

theorem mapM_localSegment?_eq_some_iff {segments names : List (List Char)} :
    segments.mapM localSegment? = some names ↔
      (∀ segment ∈ segments, ¬ IsStep segment) ∧ names = segments.map Text.lowerChars := by
  induction segments generalizing names with
  | nil =>
    show some [] = some names ↔ _
    simp [eq_comm]
  | cons segment segments ih =>
    rw [List.mapM_cons, localSegment?_eq, List.forall_mem_cons, List.map_cons]
    split
    · next hstep => exact ⟨nofun, fun h => absurd hstep h.1.1⟩
    · next hstep =>
      show ((segments.mapM localSegment?).bind fun others =>
        some (Text.lowerChars segment :: others)) = some names ↔ _
      rw [Option.bind_eq_some_iff]
      constructor
      · rintro ⟨others, hothers, hnames⟩
        obtain ⟨hall, rfl⟩ := ih.1 hothers
        exact ⟨⟨hstep, hall⟩, (Option.some.inj hnames).symm⟩
      · rintro ⟨⟨-, hall⟩, rfl⟩
        exact ⟨_, ih.2 ⟨hall, rfl⟩, rfl⟩

/-! ## Which paths have a place -/

/-- The segments behind the first one, in lower case. -/
def loweredSegments (remotePath : String) : List (List Char) :=
  ((remoteSegments remotePath).drop 1).map Text.lowerChars

/-- **A path has a place exactly if something is left behind its first segment and no step is among
it**, and then the place is what is left, in lower case. -/
theorem localPath?_eq_some_iff {remotePath : String} {place : LocalPath} :
    localPath? remotePath = some place ↔
      2 ≤ (remoteSegments remotePath).length ∧
      (∀ segment ∈ (remoteSegments remotePath).drop 1, ¬ IsStep segment) ∧
      place = ofNames (loweredSegments remotePath) := by
  have hlength : 2 ≤ (remoteSegments remotePath).length ↔
      (remoteSegments remotePath).drop 1 ≠ [] := by
    rw [Ne, List.drop_eq_nil_iff]
    omega
  rw [hlength]
  unfold localPath?
  split
  · next hnil => simp [hnil]
  · next hsegments =>
    rw [Option.map_eq_some_iff]
    constructor
    · rintro ⟨names, hnames, rfl⟩
      obtain ⟨hall, rfl⟩ := mapM_localSegment?_eq_some_iff.1 hnames
      exact ⟨hsegments, hall, rfl⟩
    · rintro ⟨-, hall, rfl⟩
      exact ⟨_, mapM_localSegment?_eq_some_iff.2 ⟨hall, rfl⟩, rfl⟩

theorem isFileName_of_mem_loweredSegments {remotePath : String}
    (hall : ∀ segment ∈ (remoteSegments remotePath).drop 1, ¬ IsStep segment) :
    ∀ name ∈ loweredSegments remotePath, isFileName name = true := by
  intro name hname
  obtain ⟨segment, hsegment, rfl⟩ := List.mem_map.1 hname
  obtain ⟨hne, hslash⟩ := mem_remoteSegments (List.mem_of_mem_drop hsegment)
  exact isFileName_lowerChars hne hslash (hall segment hsegment)

/-- **A place in the copy is a relative path of proper names**, the lower-cased segments behind the
first one. -/
theorem localPath?_eq_some {remotePath : String} {place : LocalPath}
    (h : localPath? remotePath = some place) :
    ∃ names, names = ((remoteSegments remotePath).drop 1).map Text.lowerChars ∧ names ≠ [] ∧
      (∀ name ∈ names, isFileName name = true) ∧ place = ofNames names := by
  obtain ⟨hlength, hall, rfl⟩ := localPath?_eq_some_iff.1 h
  refine ⟨_, rfl, ?_, isFileName_of_mem_loweredSegments hall, rfl⟩
  rw [Ne, List.map_eq_nil_iff, List.drop_eq_nil_iff]
  omega

/-- What is kept below a directory has a parent, with the same components but the last. -/
theorem exists_parent_of_localPath? {remotePath : String} {place : LocalPath}
    (h : localPath? remotePath = some place) (base : LocalPath) :
    ∃ dir, (base.join place).parent? = some dir := by
  obtain ⟨names, -, hne, hproper, rfl⟩ := localPath?_eq_some h
  cases hp : (base.join (ofNames names)).parent? with
  | some dir => exact ⟨dir, rfl⟩
  | none =>
    -- the last component is a name, and the two paths without parent do not end in one
    have hlast : (base.join (ofNames names)).components.getLast? =
        some (.name (String.ofList (names.getLast hne))) := by
      rw [components_join hne hproper, List.getLast?_append, List.getLast?_map,
        List.getLast?_eq_some_getLast hne]
      rfl
    rcases components_of_parent?_eq_none hp with hc | hc <;> rw [hc] at hlast <;> cases hlast

/-! ## The place, joined segment by segment

A segment in lower case is a path of its own. It goes behind what is there if it is one name and
nothing else, and the steps are just the segments that are not. -/

/-- Joins the lower-cased segment to the place, if it is one name as a path. -/
def joinSegment? (place : LocalPath) (segment : List Char) : Option LocalPath :=
  let lowered : LocalPath := ⟨String.ofList (Text.lowerChars segment)⟩
  match lowered.components with
  | [.name _] => some (place.join lowered)
  | _ => none

theorem joinSegment?_eq {segment : List Char} (hne : segment ≠ []) (hslash : '/' ∉ segment)
    (place : LocalPath) :
    joinSegment? place segment =
      (localSegment? segment).map fun name => place.join (ofNames [name]) := by
  rw [localSegment?_eq]
  by_cases hstep : IsStep segment
  · rw [if_pos hstep]
    rcases isStep_lowerChars.2 hstep with h | h <;> rw [joinSegment?, h] <;> rfl
  · have hname : ∀ name ∈ [Text.lowerChars segment], isFileName name = true := by
      simpa using isFileName_lowerChars hne hslash hstep
    rw [if_neg hstep, Option.map_some, joinSegment?, ← ofNames_singleton,
      components_ofNames (List.cons_ne_nil _ _) hname, List.map_singleton]

theorem foldlM_joinSegment? {segments : List (List Char)}
    (h : ∀ segment ∈ segments, segment ≠ [] ∧ '/' ∉ segment) (place : LocalPath) :
    segments.foldlM joinSegment? place = (segments.mapM localSegment?).map fun names =>
      names.foldl (fun place name => place.join (ofNames [name])) place := by
  induction segments generalizing place with
  | nil => rfl
  | cons segment segments ih =>
    obtain ⟨⟨hne, hslash⟩, hothers⟩ := List.forall_mem_cons.1 h
    rw [List.foldlM_cons, List.mapM_cons, joinSegment?_eq hne hslash]
    cases localSegment? segment with
    | none => rfl
    | some name =>
      refine (ih hothers (place.join (ofNames [name]))).trans ?_
      cases segments.mapM localSegment? <;> rfl

/-- **The place is joined from the segments behind the first one**, each read as a path for itself,
and there is none if nothing was joined. -/
theorem localPath?_by_joins (remotePath : String) :
    localPath? remotePath =
      (((remoteSegments remotePath).drop 1).foldlM joinSegment? ⟨""⟩).filter (·.text ≠ "") := by
  have hsegments : ∀ segment ∈ (remoteSegments remotePath).drop 1, segment ≠ [] ∧ '/' ∉ segment :=
    fun segment h => mem_remoteSegments (List.mem_of_mem_drop h)
  rw [foldlM_joinSegment? hsegments, localPath?]
  split
  · next hnil =>
    rw [hnil]
    rfl
  · next hsome =>
    cases hnames : ((remoteSegments remotePath).drop 1).mapM localSegment? with
    | none => rfl
    | some names =>
      obtain ⟨hall, rfl⟩ := mapM_localSegment?_eq_some_iff.1 hnames
      have hproper := isFileName_of_mem_loweredSegments hall
      have hjoined : (loweredSegments remotePath).foldl
          (fun place name => place.join (ofNames [name])) ⟨""⟩ =
          ofNames (loweredSegments remotePath) := foldl_join_ofNames [] hproper
      have htext : (ofNames (loweredSegments remotePath)).text ≠ "" :=
        text_ofNames_ne (List.map_eq_nil_iff.not.2 hsome) hproper
      rw [Option.map_some, Option.map_some, ← loweredSegments, hjoined]
      exact (if_pos (decide_eq_true htext)).symm

/-! ## File names -/

theorem fileName?_of_components {p : LocalPath} {before : List Component} {name : String}
    (h : p.components = before ++ [.name name]) : p.fileName? = some name := by
  rw [fileName?, h, List.getLast?_concat]

/-- The last segment that says something is the file name, if it is a proper one. -/
theorem fileName?_of_remoteSegments {remotePath : String} {front : List (List Char)}
    {name : List Char} (hsegments : remoteSegments remotePath = front ++ [name])
    (hfront : front ≠ []) (hname : isFileName name = true) :
    fileName? ⟨remotePath⟩ = some (String.ofList name) := by
  obtain ⟨before, last, hsplit, hbefore, hlast⟩ := List.filter_eq_append_iff.1 hsegments
  obtain ⟨blank, after, rfl, -, -, hafter⟩ := List.filter_eq_cons_iff.1 hlast
  obtain ⟨first, before, rfl⟩ := List.exists_cons_of_ne_nil
    (show before ≠ [] by rintro rfl; exact hfront hbefore.symm)
  have hnone : after.filterMap innerComponent? = [] := by
    rw [List.filterMap_eq_nil_iff]
    intro segment hsegment
    have hempty : segment = [] := by simpa using List.filter_eq_nil_iff.1 hafter segment hsegment
    rw [hempty, innerComponent?_nil]
  have hcomponents : components ⟨remotePath⟩ =
      ((firstComponent? (isAbsolute ⟨remotePath⟩) first).toList ++
        (before ++ blank).filterMap innerComponent?) ++ [.name (String.ofList name)] := by
    simp [components, hsplit, innerComponent?_of_isFileName hname, hnone]
  exact fileName?_of_components hcomponents

/-- **A remote path that has a place has a file name, and its place has that name in lower
case.** -/
theorem exists_fileName_of_localPath? {remotePath : String} {place : LocalPath}
    (h : localPath? remotePath = some place) :
    ∃ name, fileName? ⟨remotePath⟩ = some (String.ofList name) ∧ ∀ base : LocalPath,
      (base.join place).fileName? = some (String.ofList (Text.lowerChars name)) := by
  obtain ⟨names, hnames, hne, hproper, rfl⟩ := localPath?_eq_some h
  obtain ⟨first, front, name, hsegments⟩ :
      ∃ first front name, remoteSegments remotePath = (first :: front) ++ [name] := by
    rcases hall : remoteSegments remotePath with _ | ⟨first, rest⟩
    · rw [hall] at hnames
      exact absurd hnames hne
    · rcases List.eq_nil_or_concat rest with rfl | ⟨front, name, rfl⟩
      · rw [hall] at hnames
        exact absurd hnames hne
      · exact ⟨first, front, name, by simp⟩
  rw [hsegments, List.cons_append, List.drop_one, List.tail_cons, List.map_append,
    List.map_singleton] at hnames
  have hlowered : isFileName (Text.lowerChars name) = true :=
    hproper _ (by rw [hnames]; exact List.mem_append_right _ (List.mem_singleton_self _))
  refine ⟨name, fileName?_of_remoteSegments hsegments (List.cons_ne_nil _ _) ?_, fun base => ?_⟩
  · -- a step would still be one in lower case
    obtain ⟨hnil, hslash⟩ := mem_remoteSegments
      (by rw [hsegments]; exact List.mem_append_right _ (List.mem_singleton_self name))
    exact isFileName_iff.2 ⟨hnil, hslash, isStep_lowerChars.not.1 (isFileName_iff.1 hlowered).2.2⟩
  · have hcomponents := components_join hne hproper base
    rw [hnames, List.map_append, List.map_singleton, ← List.append_assoc, ← hnames] at hcomponents
    exact fileName?_of_components hcomponents

/-! ## Which paths share a place -/

/-- The segments of a place put behind another first one. -/
theorem remoteSegments_rerooted {names : List (List Char)} (hne : names ≠ [])
    (hnames : ∀ name ∈ names, isFileName name = true) {top : String} (htop : top ≠ "")
    (hslash : '/' ∉ top.toList) :
    remoteSegments (top ++ "/" ++ (ofNames names).text) = top.toList :: names := by
  have hchars : (top ++ "/" ++ (ofNames names).text).toList =
      top.toList ++ '/' :: (ofNames names).text.toList := by simp
  have hone : splitSlash top.toList = [top.toList] := by
    have hsplit := splitSlash_joinSlash (List.cons_ne_nil top.toList []) (by simpa using hslash)
    simpa [joinSlash] using hsplit
  have hfull : ∀ segment ∈ top.toList :: names, (!segment.isEmpty) = true := by
    intro segment hsegment
    rcases List.mem_cons.1 hsegment with rfl | hmem
    · simpa using htop
    · simpa using (isFileName_iff.1 (hnames segment hmem)).1
  rw [remoteSegments, hchars, splitSlash_slash, hone, splitSlash_ofNames hne hnames,
    List.singleton_append, List.filter_eq_self.2 hfull]

/-- **A place is where its own text is kept**, behind any first segment. -/
theorem localPath?_rerooted {remotePath : String} {place : LocalPath}
    (h : localPath? remotePath = some place) {top : String} (htop : top ≠ "")
    (hslash : '/' ∉ top.toList) : localPath? (top ++ "/" ++ place.text) = some place := by
  obtain ⟨names, hlowered, hne, hnames, rfl⟩ := localPath?_eq_some h
  have hsegments := remoteSegments_rerooted hne hnames htop hslash
  have hstable : names.map Text.lowerChars = names := by
    rw [hlowered, List.map_map]
    exact List.map_congr_left fun segment _ => Text.lowerChars_lowerChars segment
  refine localPath?_eq_some_iff.2 ⟨?_, ?_, ?_⟩
  · have hpos := List.length_pos_iff.2 hne
    rw [hsegments, List.length_cons]
    omega
  · rw [hsegments]
    exact fun name hname => (isFileName_iff.1 (hnames name hname)).2.2
  · rw [loweredSegments, hsegments, List.drop_one, List.tail_cons, hstable]

/-- Two places are one exactly if the segments agree in lower case. -/
theorem components_eq_iff_of_localPath? {remotePath other : String} {place place' : LocalPath}
    (h : localPath? remotePath = some place) (h' : localPath? other = some place') :
    place.components = place'.components ↔ loweredSegments remotePath = loweredSegments other := by
  have hinjective : Function.Injective fun name : List Char =>
      Component.name (String.ofList name) :=
    fun _ _ hname => String.ofList_injective (Component.name.inj hname)
  obtain ⟨names, rfl, hne, hnames, rfl⟩ := localPath?_eq_some h
  obtain ⟨names', rfl, hne', hnames', rfl⟩ := localPath?_eq_some h'
  rw [components_ofNames hne hnames, components_ofNames hne' hnames']
  exact List.map_inj_right fun _ _ hname => hinjective hname

/-- **What the place of a remote path is.** There is one exactly if the path has at least two
segments and none behind the first is a step, and then its text is the lower-cased segments behind
the first with slashes between them. So a place is its own place behind any top segment, and two
paths are kept at one place, by its text and by its components, exactly if their segments behind the
first agree one by one in lower case. -/
theorem localPath?_by_segments (remotePath : String) :
    (∀ place, localPath? remotePath = some place ↔
      2 ≤ (remoteSegments remotePath).length ∧
      (∀ segment ∈ (remoteSegments remotePath).drop 1, ¬ IsStep segment) ∧
      place.text = String.ofList (joinSlash (loweredSegments remotePath))) ∧
    (∀ place, localPath? remotePath = some place → ∀ top : String, top ≠ "" → '/' ∉ top.toList →
      localPath? (top ++ "/" ++ place.text) = some place) ∧
    ∀ place other place', localPath? remotePath = some place → localPath? other = some place' →
      (place = place' ↔ loweredSegments remotePath = loweredSegments other) ∧
      (place.components = place'.components ↔
        loweredSegments remotePath = loweredSegments other) := by
  refine ⟨fun place => ?_, fun place h top => localPath?_rerooted h, ?_⟩
  · have htext : place = ofNames (loweredSegments remotePath) ↔
        place.text = String.ofList (joinSlash (loweredSegments remotePath)) := by
      obtain ⟨text⟩ := place
      rw [ofNames, LocalPath.mk.injEq]
    rw [localPath?_eq_some_iff, htext]
  · intro place other place' h h'
    have hcomponents := components_eq_iff_of_localPath? h h'
    refine ⟨⟨?_, ?_⟩, hcomponents⟩
    · rintro rfl
      exact hcomponents.1 rfl
    · intro heq
      rw [(localPath?_eq_some_iff.1 h).2.2, (localPath?_eq_some_iff.1 h').2.2, heq]

theorem localPath?_by_segments_shared :
    localPath? "top//Sub/Äpfel.C" = some ⟨"sub/äpfel.c"⟩ ∧
      localPath? "other/SUB/äPFEL.c/" = some ⟨"sub/äpfel.c"⟩ ∧
      localPath? "new/sub/äpfel.c" = some ⟨"sub/äpfel.c"⟩ ∧
      loweredSegments "top//Sub/Äpfel.C" = loweredSegments "other/SUB/äPFEL.c/" := by
  have hplace : localPath? "top//Sub/Äpfel.C" = some ⟨"sub/äpfel.c"⟩ := by decide +kernel
  have hother : localPath? "other/SUB/äPFEL.c/" = some ⟨"sub/äpfel.c"⟩ := by decide +kernel
  obtain ⟨-, hrerooted, hshared⟩ := localPath?_by_segments "top//Sub/Äpfel.C"
  refine ⟨hplace, hother, ?_, (hshared _ _ _ hplace hother).1.1 rfl⟩
  exact hrerooted _ hplace "new" (by decide) (by decide)

end Vendoring
