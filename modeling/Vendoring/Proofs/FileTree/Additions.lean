import Vendoring.Proofs.FileTree.Account
import Vendoring.Proofs.FileTree.Parents

/-!
# Where new nodes come from

An account says what is in the files behind a run. What it does not say is why there are new nodes
at all. Here every node that was not there is **traced to a call**: it is the file that a touched or
written path leads to, or the directory that a path leads to in the chain that a call made
(`Traces`). As long as no call fails, one more call keeps that (`Traces.call`), because what a path
led to it still leads to.
-/

set_option autoImplicit false

namespace Vendoring

namespace FileTree

/-! ## What one operation adds -/

theorem Tries.adds {t t' : FileTree} {p : LocalPath} {answer : Except FileFault Unit}
    (h : t.Tries p t' answer) {loc : Location} (hnone : t.node? loc = none)
    (hnew : t'.node? loc ≠ none) : t'.DirectoryAt p loc := by
  cases h with
  | there | refused => exact absurd hnone hnew
  | made hmake =>
    obtain ⟨-, dir, hdir, hothers⟩ := makeDir_spec hmake
    by_cases hloc : loc = dir
    · rwa [hloc]
    · rw [hothers loc hloc] at hnew
      exact absurd hnone hnew

/-- **What is new behind a chain of directories, one of its paths leads to.** -/
theorem Chains.adds {t t' : FileTree} {paths : List LocalPath} {answer : Except FileFault Unit}
    (h : t.Chains paths t' answer) {loc : Location} (hnone : t.node? loc = none)
    (hnew : t'.node? loc ≠ none) : ∃ p ∈ paths, t'.DirectoryAt p loc := by
  induction h with
  | nil | empty => exact absurd hnone hnew
  | alone _ _ htries => exact ⟨_, .head _, htries.adds hnone hnew⟩
  | stopped _ _ _ ih =>
    obtain ⟨q, hq, hdir⟩ := ih hnew
    exact ⟨q, .tail _ hq, hdir⟩
  | @behind p parents made _ _ _ _ _ htries ih =>
    -- the last directory is new, or it was made with the parents
    by_cases hnone' : made.node? loc = none
    · exact ⟨p, .head _, htries.adds hnone' hnew⟩
    · obtain ⟨q, hq, hdir⟩ := ih hnone'
      exact ⟨q, .tail _ hq, hdir.retains htries.addsDirs.retains⟩

theorem touch_adds {t t' : FileTree} {p : LocalPath} (h : t.touch p = .ok t') {loc : Location}
    (hnone : t.node? loc = none) (hnew : t'.node? loc ≠ none) : t'.FileAt p loc := by
  obtain ⟨-, there, hfile, rfl | ⟨-, hnode?⟩⟩ := touch_spec h
  · exact absurd hnone hnew
  · by_cases hloc : loc = there
    · rwa [hloc]
    · rw [hnode?, if_neg hloc] at hnew
      exact absurd hnone hnew

theorem write_adds {t t' : FileTree} {p : LocalPath} {data : ByteArray}
    (h : t.write p data = .ok t') {loc : Location} (hnone : t.node? loc = none)
    (hnew : t'.node? loc ≠ none) : t'.FileAt p loc := by
  obtain ⟨there, hfile, hnode?⟩ := write_fileAt h
  by_cases hloc : loc = there
  · rwa [hloc]
  · rw [hnode?, if_neg hloc] at hnew
    exact absurd hnone hnew

/-! ## What the calls of a run add -/

end FileTree

/-- What is at the location is what the call made, or came by. -/
def Event.Reaches (t : FileTree) (loc : Location) : Event → Prop
  | madeDirs dir _ => ∃ p ∈ dir :: dir.parents, t.DirectoryAt p loc
  | touched path _ | wrote path _ _ => t.FileAt path loc
  | listed _ _ | fetched _ _ => False

theorem Event.Reaches.retains {t t' : FileTree} {loc : Location} {e : Event}
    (h : e.Reaches t loc) (hretains : t.Retains t') : e.Reaches t' loc := by
  cases e with
  | listed | fetched => exact h
  | madeDirs dir answer =>
    obtain ⟨p, hp, hdir⟩ := h
    exact ⟨p, hp, hdir.retains hretains⟩
  | touched path answer | wrote path data answer => exact FileTree.FileAt.retains h hretains

/-- **What is new after a call that succeeds, the call reaches.** -/
theorem Event.Leaves.reaches {t t' : FileTree} {e : Event} (h : e.Leaves t t')
    (he : e.fault? = none) {loc : Location} (hnone : t.node? loc = none)
    (hnew : t'.node? loc ≠ none) : e.Reaches t' loc := by
  cases e with
  | listed | fetched =>
    obtain rfl : t' = t := h
    exact absurd hnone hnew
  | madeDirs dir answer =>
    cases answer with
    | error fault => cases he
    | ok =>
      have hmade : t.makeDirs dir = (t', .ok ()) := h
      exact (FileTree.chains_makeDirs hmade).adds hnone hnew
  | touched path answer =>
    cases answer with
    | error fault => cases he
    | ok => exact FileTree.touch_adds h hnone hnew
  | wrote path data answer =>
    cases answer with
    | error fault => cases he
    | ok => exact FileTree.write_adds h hnone hnew

namespace FileTree

/-- Whatever `t'` has and `t` had not, some call reaches, if none has failed. -/
def Traces (t : FileTree) (events : List Event) (t' : FileTree) : Prop :=
  (∀ e ∈ events, e.fault? = none) → ∀ loc, t.node? loc = none → t'.node? loc ≠ none →
    ∃ e ∈ events, e.Reaches t' loc

theorem Traces.start (t : FileTree) : t.Traces [] t :=
  fun _ _ hnone hnew => absurd hnone hnew

/-- **One more call keeps every new node traced.** -/
theorem Traces.call {t t₁ t₂ : FileTree} {events : List Event} (h : t.Traces events t₁)
    {e : Event} (he : e.Leaves t₁ t₂) : t.Traces (events ++ [e]) t₂ := by
  intro hnone loc hold hnew
  have hretains : t₁.Retains t₂ := ((Account.start t₁).call he).retains
  by_cases hbefore : t₁.node? loc = none
  · exact ⟨e, List.mem_concat_self, he.reaches (hnone e List.mem_concat_self) hbefore hnew⟩
  · obtain ⟨e', he', hreaches⟩ :=
      h (fun e' he' => hnone e' (List.mem_append_left _ he')) loc hold hbefore
    exact ⟨e', List.mem_append_left _ he', hreaches.retains hretains⟩

end FileTree

end Vendoring
