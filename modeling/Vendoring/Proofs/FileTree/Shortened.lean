import Mathlib.Data.String.Basic
import Vendoring.Proofs.FileTree.Place
import Vendoring.Proofs.LocalPath.Resolve

/-!
# Where a path in its shortest writing leads

Seeing a path from a root drops what says nothing: a `.`, and the slashes but for one between two
steps. For the file system these do say something, namely that a directory is there. So the shorter
path can lead where the longer one does not; but **where the longer one leads to a directory, the
shorter one leads to the same** (`DirectoryAt.resolve`), whatever links are on the way, because
every `..` is kept and taken where it was taken before.
-/

set_option autoImplicit false

namespace Vendoring

/-! ## Steps that can be left out -/

/-- The second list is the first one without some of the steps that go nowhere. -/
inductive Step.Shortens : List Step → List Step → Prop where
  | nil : Shortens [] []
  | keep (step : Step) {steps shorter : List Step} (h : Shortens steps shorter) :
      Shortens (step :: steps) (step :: shorter)
  | drop {step : Step} {steps shorter : List Step} (hstep : step = .stay ∨ step = .enter)
      (h : Shortens steps shorter) : Shortens (step :: steps) shorter

theorem Step.Shortens.append_left {steps shorter : List Step} (h : Shortens steps shorter)
    (front : List Step) : Shortens (front ++ steps) (front ++ shorter) := by
  induction front with
  | nil => exact h
  | cons step front ih => exact .keep step ih

theorem Step.Shortens.append_enter {steps shorter : List Step} (h : Shortens steps shorter) :
    Shortens (steps ++ [.enter]) shorter := by
  induction h with
  | nil => exact .drop (.inr rfl) .nil
  | keep step _ ih => exact .keep step ih
  | drop hstep _ ih => exact .drop hstep ih

namespace FileTree

/-- **A way does not need the steps that go nowhere.** The steps of a link's target are not touched,
since they are taken wherever the link is followed. -/
theorem Leads.shorten {t : FileTree} {links : Nat} {here : Location} {steps shorter : List Step}
    {landing : Landing} (h : t.Leads false links here steps landing)
    (hshort : Step.Shortens steps shorter) : t.Leads false links here shorter landing := by
  induction h generalizing shorter with
  | done =>
    cases hshort
    exact .done
  | move hdir hstep _ ih =>
    cases hshort with
    | keep _ hshort => exact .move hdir hstep (ih hshort)
    | drop hnowhere hshort =>
      rcases hnowhere with rfl | rfl <;> cases hstep <;> exact ih hshort
  | missing hdir hname hnode =>
    cases hshort with
    | keep _ hshort =>
      cases hshort
      exact .missing hdir hname hnode
    | drop hnowhere => rcases hnowhere with h | h <;> cases h
  | down hdir _ hname hnode hlink _ ih =>
    cases hshort with
    | keep _ hshort => exact .down hdir rfl hname hnode hlink (ih hshort)
    | drop hnowhere => rcases hnowhere with h | h <;> cases h
  | follow hdir _ hname hnode _ ih =>
    cases hshort with
    | keep _ hshort => exact .follow hdir rfl hname hnode (ih (hshort.append_left _))
    | drop hnowhere => rcases hnowhere with h | h <;> cases h

end FileTree

/-! ## Routes and components -/

namespace Route

/-- The steps of a route, but for a slash at the end. -/
def stepsOf (segments : List (List Char)) : List Step := segments.filterMap stepOfText?

theorem stepOfText?_ne_enter (segment : List Char) : stepOfText? segment ≠ some .enter := by
  rw [stepOfText?]
  split
  · simp
  · split
    · simp
    · simp

/-- A slash at the end is the last step of a route or not in it. -/
theorem ofPath_steps (p : LocalPath) :
    (ofPath p).steps = stepsOf (LocalPath.splitSlash p.text.toList) ∨
      (ofPath p).steps = stepsOf (LocalPath.splitSlash p.text.toList) ++ [.enter] := by
  have hsteps : ((LocalPath.splitSlash p.text.toList).map stepOfText?).filterMap id =
      stepsOf (LocalPath.splitSlash p.text.toList) := by
    rw [List.filterMap_map]
    rfl
  rw [ofPath, ofSegments, hsteps]
  dsimp only
  split
  · exact .inr rfl
  · exact .inl rfl

theorem filter_ofPath (p : LocalPath) :
    (ofPath p).steps.filter (· != .enter) = stepsOf (LocalPath.splitSlash p.text.toList) := by
  have hkeep : (stepsOf (LocalPath.splitSlash p.text.toList)).filter (· != .enter) =
      stepsOf (LocalPath.splitSlash p.text.toList) := by
    rw [List.filter_eq_self]
    intro step hstep
    obtain ⟨segment, -, hsegment⟩ := List.mem_filterMap.1 hstep
    simp only [bne_iff_ne]
    rintro rfl
    exact stepOfText?_ne_enter segment hsegment
  rcases ofPath_steps p with hsteps | hsteps <;> simp [hsteps, hkeep]

theorem ofPath_shortens {p : LocalPath} {shorter : List Step}
    (h : Step.Shortens (stepsOf (LocalPath.splitSlash p.text.toList)) shorter) :
    Step.Shortens (ofPath p).steps shorter := by
  rcases ofPath_steps p with hsteps | hsteps <;> rw [hsteps]
  · exact h
  · exact h.append_enter

/-- A segment that stands for no component is no step, or one that goes nowhere. -/
theorem stepsOf_shortens (segments : List (List Char)) :
    Step.Shortens (stepsOf segments)
      (stepsOf ((segments.filterMap LocalPath.innerComponent?).map Component.chars)) := by
  induction segments with
  | nil => exact .nil
  | cons segment segments ih =>
    rw [stepsOf, List.filterMap_cons, List.filterMap_cons]
    cases hc : LocalPath.innerComponent? segment with
    | none =>
      rcases LocalPath.eq_of_innerComponent?_eq_none hc with rfl | rfl
      · exact ih
      · exact .drop (.inl rfl) ih
    | some c =>
      dsimp only
      rw [List.map_cons, LocalPath.chars_of_innerComponent? hc, stepsOf, List.filterMap_cons]
      cases stepOfText? segment with
      | none => exact ih
      | some step => exact .keep step ih

/-- A path that is spelt by its steps has no slash at the end. -/
theorem steps_ofPath_ofSteps (absolute : Bool) {steps : List Component}
    (h : ∀ c ∈ steps, c.IsStep) (hne : steps ≠ []) :
    (ofPath (LocalPath.ofSteps absolute steps)).steps = stepsOf (steps.map Component.chars) := by
  obtain ⟨-, -, hsplit⟩ := (LocalPath.ofSteps_cases absolute h).resolve_left fun h => hne h.1
  obtain ⟨before, c, rfl⟩ := (List.eq_nil_or_concat steps).resolve_left hne
  rw [List.concat_eq_append] at h hsplit ⊢
  have hc : c.IsStep := h c List.mem_concat_self
  obtain ⟨step, hstep⟩ := Option.ne_none_iff_exists'.1
    (stepOfText?_ne_none (LocalPath.chars_ne_nil hc) (LocalPath.slash_not_mem_chars hc))
  have hsegments : (LocalPath.segmentsOf absolute (before ++ [c])).map stepOfText? =
      (LocalPath.segmentsOf absolute before).map stepOfText? ++ [some step] := by
    simp [LocalPath.segmentsOf, hstep]
  have hbefore : stepsOf (LocalPath.segmentsOf absolute before) =
      stepsOf (before.map Component.chars) := by
    cases absolute <;> rfl
  have hlast : stepsOf [c.chars] = [step] := by rw [stepsOf, List.filterMap_cons, hstep]; rfl
  rw [ofPath, hsplit, hsegments, ofSegments_steps, List.filterMap_map, List.map_append, stepsOf,
    List.filterMap_append]
  exact congrArg₂ _ hbefore hlast.symm

theorem ofPath_absolute (p : LocalPath) : (ofPath p).absolute = p.isAbsolute := by
  obtain ⟨first, rest, hs⟩ := LocalPath.exists_splitSlash_eq p.text.toList
  have hslash : '/' ∉ first :=
    LocalPath.slash_not_mem_of_mem_splitSlash (hs ▸ List.mem_cons_self)
  have hfirst : stepOfText? first = none ↔ first = [] := by
    constructor
    · intro hnone
      by_contra hne
      exact stepOfText?_ne_none hne hslash hnone
    · rintro rfl
      rfl
  rw [Bool.eq_iff_iff, LocalPath.isAbsolute_iff, ofPath, hs]
  cases rest with
  | nil => simp [ofSegments]
  | cons second rest => simp [ofSegments, hfirst]

end Route

/-! ## Paths seen from a root -/

namespace LocalPath

theorem joinSlash_sublist {segments more : List (List Char)} (h : segments.Sublist more) :
    (joinSlash segments).Sublist (joinSlash more) := by
  induction h with
  | slnil => exact List.Sublist.refl _
  | @cons segments more segment hsub ih =>
    cases more with
    | nil =>
      rw [List.sublist_nil.1 hsub]
      exact List.nil_sublist _
    | cons second more =>
      rw [joinSlash, joinSlash, List.intercalate_cons_cons]
      exact ih.trans (List.sublist_append_right _ _)
  | @cons_cons segments more segment hsub ih =>
    cases segments with
    | nil =>
      cases more with
      | nil => exact List.Sublist.refl _
      | cons second more =>
        rw [joinSlash, joinSlash, List.intercalate_cons_cons, List.intercalate_singleton,
          List.append_assoc]
        exact List.sublist_append_left _ _
    | cons second segments =>
      cases more with
      | nil => cases hsub
      | cons third more =>
        rw [joinSlash, joinSlash, List.intercalate_cons_cons, List.intercalate_cons_cons]
        exact ih.append_left _

theorem map_chars_sublist (segments : List (List Char)) :
    ((segments.filterMap innerComponent?).map Component.chars).Sublist segments := by
  induction segments with
  | nil => exact List.Sublist.refl _
  | cons segment segments ih =>
    rw [List.filterMap_cons]
    cases hc : innerComponent? segment with
    | none => exact ih.cons segment
    | some c =>
      rw [List.map_cons, chars_of_innerComponent? hc]
      exact ih.cons_cons segment

theorem segmentsOf_sublist (p : LocalPath) :
    (segmentsOf p.isAbsolute p.steps).Sublist (splitSlash p.text.toList) := by
  rw [segmentsOf, steps]
  cases habs : p.isAbsolute with
  | false => exact map_chars_sublist _
  | true =>
    obtain ⟨second, rest, hsplit⟩ := isAbsolute_iff.1 habs
    rw [hsplit]
    exact (map_chars_sublist (second :: rest)).cons_cons []

/-- **Nothing is added to a text by writing it shorter**, unless it is empty. -/
theorem ofSteps_sublist {p : LocalPath} (hne : p.text ≠ "") :
    (ofSteps p.isAbsolute p.steps).text.toList.Sublist p.text.toList := by
  have htext : p.text.toList = joinSlash (splitSlash p.text.toList) :=
    (joinSlash_splitSlash _).symm
  rcases ofSteps_cases p.isAbsolute fun _ => isStep_of_mem_steps (p := p) with
    ⟨hsteps, hpath⟩ | ⟨-, hspelt, -⟩
  · rw [hpath]
    cases habs : p.isAbsolute with
    | true =>
      rw [isAbsolute, beq_iff_eq] at habs
      exact List.singleton_sublist.2 (List.mem_of_mem_head? habs)
    | false =>
      obtain ⟨rest, hsplit⟩ := splitSlash_of_steps_eq_nil hne habs hsteps
      rw [htext, hsplit]
      show (joinSlash [['.']]).Sublist _
      exact joinSlash_sublist (List.singleton_sublist.2 List.mem_cons_self)
  · have hsub := joinSlash_sublist (segmentsOf_sublist p)
    rwa [← htext, ← hspelt] at hsub

end LocalPath

namespace FileTree

/-- **Where a path joined to a root leads to a directory, it leads to the same as it is seen from
the root.** -/
theorem DirectoryAt.resolve {t : FileTree} {root p : LocalPath} {dir : Location}
    (h : t.DirectoryAt (root.join p) dir) : t.DirectoryAt (root.resolve p) dir := by
  obtain ⟨route, hroute, hdir⟩ := h
  obtain ⟨hne, rfl⟩ := Route.ofPath?_eq_ok hroute
  obtain ⟨hland, hnode⟩ := locateDirectory_eq_ok_iff.1 hdir
  rw [land, walk_eq_ok_iff, Route.ofPath_absolute] at hland
  have hsteps : ∀ c ∈ (root.join p).steps, c.IsStep := fun _ => LocalPath.isStep_of_mem_steps
  have hshort := hland.shorten (Route.ofPath_shortens (Route.stepsOf_shortens _))
  rw [← LocalPath.steps] at hshort
  have htext : (LocalPath.ofSteps (root.join p).isAbsolute (root.join p).steps).text ≠ "" := by
    rw [← LocalPath.resolve_eq]
    exact (LocalPath.isNormal_resolve root p).ne_empty
  have hroute' := Route.ofPath?_of_sublist
    (LocalPath.ofSteps_sublist (mt String.toList_eq_nil_iff.2 hne)) htext hroute
  rw [LocalPath.resolve_eq]
  refine ⟨_, hroute', locateDirectory_eq_ok_iff.2 ⟨?_, hnode⟩⟩
  rw [land, walk_eq_ok_iff, Route.ofPath_absolute, LocalPath.isAbsolute_ofSteps _ hsteps]
  rcases LocalPath.ofSteps_cases (root.join p).isAbsolute hsteps with ⟨hnil, hpath⟩ | ⟨hsome, -⟩
  · -- nothing is left but the directory where the path begins, and a `.` can be taken in it
    rw [hpath]
    rw [hnil] at hshort
    cases hshort
    cases habs : (root.join p).isAbsolute with
    | true => exact .done
    | false =>
      rw [habs] at hnode
      exact .move hnode rfl .done
  · rwa [Route.steps_ofPath_ofSteps _ hsteps hsome]

end FileTree

end Vendoring
