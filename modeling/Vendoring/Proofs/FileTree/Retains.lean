import Vendoring.Proofs.FileTree.Leads

/-!
# Trees that keep what they have

`t.Retains t'` asks only that every node of `t` stays in `t'`, of the same kind, whatever else may
be there. That is enough for paths: **a way that is there stays**, through the same links, and if
its end was missing and has been filled in the meantime, the way now comes to what it was filled
with (`Leads.reach`).
-/

set_option autoImplicit false

namespace Vendoring

namespace FileTree

/-- Every node of `t` is in `t'` with its kind. -/
structure Retains (t t' : FileTree) : Prop where
  cwd : t'.cwd = t.cwd
  keeps : ∀ {loc node}, t.node? loc = some node →
    ∃ node', t'.node? loc = some node' ∧ node'.shape = node.shape

namespace Retains

theorem refl (t : FileTree) : t.Retains t where
  cwd := rfl
  keeps h := ⟨_, h, rfl⟩

theorem trans {t₁ t₂ t₃ : FileTree} (h : t₁.Retains t₂) (h' : t₂.Retains t₃) : t₁.Retains t₃ where
  cwd := h'.cwd.trans h.cwd
  keeps hnode := by
    obtain ⟨node₂, hnode₂, hshape₂⟩ := h.keeps hnode
    obtain ⟨node₃, hnode₃, hshape₃⟩ := h'.keeps hnode₂
    exact ⟨node₃, hnode₃, hshape₃.trans hshape₂⟩

theorem insert {t : FileTree} {loc : Location} (hne : loc ≠ []) {node : Node}
    (h : ∀ old, t.node? loc = some old → node.shape = old.shape) :
    t.Retains (t.insert loc node) where
  cwd := rfl
  keeps {l old} hold := by
    by_cases hl : l = loc
    · subst hl
      exact ⟨node, by rw [node?_insert t hne, if_pos rfl], h old hold⟩
    · exact ⟨old, by rw [node?_insert t hne, if_neg hl, hold], rfl⟩

variable {t t' : FileTree} (h : t.Retains t') {loc : Location}

include h

theorem node?_directory (hdir : t.node? loc = some .directory) :
    t'.node? loc = some .directory := by
  obtain ⟨node, hnode, hshape⟩ := h.keeps hdir
  rw [hnode, Node.shape_eq_directory.1 hshape]

theorem node?_link {target : LocalPath} (hlink : t.node? loc = some (.link target)) :
    t'.node? loc = some (.link target) := by
  obtain ⟨node, hnode, hshape⟩ := h.keeps hlink
  rw [hnode, Node.shape_eq_link.1 hshape]

theorem node?_file {data : ByteArray} (hfile : t.node? loc = some (.file data)) :
    ∃ data', t'.node? loc = some (.file data') := by
  obtain ⟨node, hnode, hshape⟩ := h.keeps hfile
  obtain ⟨data', rfl⟩ := Node.shape_eq_file.1 hshape
  exact ⟨data', hnode⟩

theorem node?_of_none (hnone : t'.node? loc = none) : t.node? loc = none := by
  cases hnode : t.node? loc with
  | none => rfl
  | some node =>
    obtain ⟨node', hnode', -⟩ := h.keeps hnode
    rw [hnone] at hnode'
    cases hnode'

end Retains

/-! ## Ways in a tree that keeps what it has -/

/-- **A way is still there, and it leads to what is now at its end**, also where there was nothing
before, unless that is a link, which would lead on. -/
theorem Leads.reach {t t' : FileTree} (h : t.Retains t') {making : Bool} {links : Nat}
    {here : Location} {steps : List Step} {landing : Landing}
    (hleads : t.Leads making links here steps landing) {node : Node}
    (hnode : t'.node? landing.location = some node) (hlink : ∀ target, node ≠ .link target) :
    t'.Leads making links here steps (.found landing.location) := by
  induction hleads with
  | done => exact .done
  | move hdir hstep _ ih => exact .move (h.node?_directory hdir) hstep (ih hnode)
  | missing hdir hname _ =>
    -- the name that was missing is the last one, so the way ends with it
    have hmaking : ∀ making : Bool, (making && ([] : List Step) == [.enter]) = false := by decide
    exact .down (h.node?_directory hdir) (hmaking _) hname hnode hlink .done
  | @down links here name rest old landing hdir hmaking hname hold hold' _ ih =>
    obtain ⟨same, hsame, hshape⟩ := h.keeps hold
    refine .down (h.node?_directory hdir) hmaking hname hsame ?_ (ih hnode)
    rintro target rfl
    exact hold' target (Node.shape_eq_link.1 hshape.symm)
  | follow hdir hmaking hname hold _ ih =>
    exact .follow (h.node?_directory hdir) hmaking hname (h.node?_link hold) (ih hnode)

end FileTree

end Vendoring
