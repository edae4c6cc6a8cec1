import Vendoring.FileTree.Basic

/-!
# What stands where in a tree of files

A tree keeps its nodes in a list without a location twice, so `node?` is all there is to know about
it: an entry of the list is what `node?` says (`node?_eq_some_iff`), the entries of a directory are
the nodes one name below it (`mem_entriesOf`), and an insertion is a change of `node?` at one
location (`node?_insert`).
-/

set_option autoImplicit false

namespace Vendoring

/-- The kind of a node: of a file only that it is one, of a link also where it points. -/
def Node.shape : Node → Node
  | .file _ => .file .empty
  | node => node

/-- The name is this text. -/
def FileName.Spells (name : FileName) (s : String) : Prop := ∃ h, name = .text s h

namespace Node

theorem shape_eq_directory {node : Node} : node.shape = .directory ↔ node = .directory := by
  cases node <;> simp [shape]

theorem shape_eq_link {node : Node} {target : LocalPath} :
    node.shape = .link target ↔ node = .link target := by
  cases node <;> simp [shape]

theorem shape_eq_file {node : Node} {data : ByteArray} :
    node.shape = (Node.file data).shape ↔ ∃ data', node = .file data' := by
  cases node <;> simp [shape]

end Node

namespace FileTree

@[simp] theorem node?_nil (t : FileTree) : t.node? [] = some .directory := rfl

theorem lookup_eq_some_iff_mem {α β : Type} [BEq α] [LawfulBEq α] {entries : List (α × β)}
    (h : (entries.map Prod.fst).Nodup) {key : α} {value : β} :
    entries.lookup key = some value ↔ (key, value) ∈ entries := by
  induction entries with
  | nil => simp
  | cons entry entries ih =>
    obtain ⟨key', value'⟩ := entry
    rw [List.map_cons, List.nodup_cons] at h
    rw [List.lookup_cons, List.mem_cons]
    by_cases heq : key = key'
    · subst heq
      have hnot : (key, value) ∉ entries := fun hmem =>
        h.1 (List.mem_map.2 ⟨(key, value), hmem, rfl⟩)
      simp [hnot, eq_comm]
    · have hne : (key == key') = false := by simp [heq]
      simp [hne, heq, ih h.2]

/-- What is kept by its key is found as before, and what is not is not found. -/
theorem lookup_filter_key {α β : Type} [BEq α] [LawfulBEq α] (entries : List (α × β))
    (keep : α → Bool) (key : α) :
    (entries.filter fun entry => keep entry.1).lookup key =
      if keep key then entries.lookup key else none := by
  induction entries with
  | nil => simp
  | cons entry entries ih =>
    obtain ⟨key', value⟩ := entry
    by_cases heq : key = key'
    · subst heq
      cases hkeep : keep key <;> simp [hkeep, ih]
    · have hne : (key == key') = false := by simp [heq]
      cases hkeep : keep key' <;> simp [hkeep, ih, List.lookup_cons, hne]

theorem node?_eq_some_iff {t : FileTree} {loc : Location} {node : Node} (hloc : loc ≠ []) :
    t.node? loc = some node ↔ (loc, node) ∈ t.nodes := by
  rw [node?, if_neg hloc, lookup_eq_some_iff_mem t.distinct]

theorem mem_entriesOf {t : FileTree} {dir : Location} {name : FileName} {node : Node} :
    (name, node) ∈ t.entriesOf dir ↔ t.node? (name :: dir) = some node := by
  rw [node?_eq_some_iff (List.cons_ne_nil _ _), entriesOf, List.mem_filterMap]
  constructor
  · rintro ⟨⟨loc, node'⟩, hmem, heq⟩
    cases loc with
    | nil => cases heq
    | cons name' parent =>
      by_cases hparent : parent = dir
      · subst hparent
        simp only [if_true, Option.some.injEq, Prod.mk.injEq] at heq
        rwa [← heq.1, ← heq.2]
      · simp [hparent] at heq
  · intro hmem
    exact ⟨(name :: dir, node), hmem, by simp⟩

/-- **An insertion changes what stands at one location.** The root cannot be replaced. -/
theorem node?_insert (t : FileTree) {loc : Location} (hloc : loc ≠ []) (node : Node)
    (l : Location) : (t.insert loc node).node? l = if l = loc then some node else t.node? l := by
  by_cases hl : l = []
  · subst hl
    simp [hloc.symm]
  · have hfilter := lookup_filter_key t.nodes (· != loc) l
    rw [node?, if_neg hl, node?, if_neg hl]
    show ((loc, node) :: t.nodes.filter fun entry => entry.1 != loc).lookup l = _
    rw [List.lookup_cons, hfilter]
    by_cases heq : l = loc
    · simp [heq]
    · have hne : (l == loc) = false := by simp [heq]
      simp [hne, heq]

end FileTree

end Vendoring
