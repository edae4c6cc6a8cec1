import Vendoring.Disk
import Vendoring.Proofs.FileTree.Grows
import Vendoring.Proofs.Job

/-!
# Trees that were written to

`t.WrittenAt paths t'` says of a tree that it came about from `t` by writes to some of the paths:
it grew, and it differs only where **in `t`** one of the paths leads. It is what writes keep
(`WrittenAt.write`), however many there were before and wherever their links point, because
a grown tree leads no path elsewhere.
-/

set_option autoImplicit false

namespace Vendoring

namespace FileTree

/-- The tree `t'` came about from `t` by writes to these paths. -/
structure WrittenAt (t : FileTree) (paths : LocalPath → Prop) (t' : FileTree) : Prop where
  grows : t.Grows t'
  changed : ∀ {loc}, t'.node? loc ≠ t.node? loc → ∃ p, paths p ∧ t.Opens p loc

/-- The path leads to a file in `t'`, where it led in `t`. -/
def FilledAt (t : FileTree) (p : LocalPath) (t' : FileTree) : Prop :=
  ∃ loc data, t.Opens p loc ∧ t'.node? loc = some (.file data)

variable {t t₁ t₂ : FileTree} {paths : LocalPath → Prop} {p : LocalPath} {data : ByteArray}

theorem WrittenAt.refl (t : FileTree) (paths : LocalPath → Prop) : t.WrittenAt paths t where
  grows := .refl t
  changed h := absurd rfl h

theorem WrittenAt.write (h : t.WrittenAt paths t₁) (hp : paths p)
    (hwrite : t₁.write p data = .ok t₂) : t.WrittenAt paths t₂ where
  grows := h.grows.trans (grows_of_write hwrite)
  changed {l} hl := by
    obtain ⟨loc, hopens, -, -, hnode?⟩ := write_spec hwrite
    by_cases heq : l = loc
    · -- the path leads to the same location in the tree that all began with
      subst heq
      exact ⟨p, hp, h.grows.opens hopens⟩
    · rw [hnode?, if_neg heq] at hl
      exact h.changed hl

theorem filledAt_of_write (h : t.Grows t₁) (hwrite : t₁.write p data = .ok t₂) :
    t.FilledAt p t₂ := by
  obtain ⟨loc, hopens, -, -, hnode?⟩ := write_spec hwrite
  exact ⟨loc, data, h.opens hopens, by rw [hnode?, if_pos rfl]⟩

theorem FilledAt.grows (h : t.FilledAt p t₁) (hgrows : t₁.Grows t₂) : t.FilledAt p t₂ := by
  obtain ⟨loc, data, hopens, hnode⟩ := h
  obtain ⟨node, hnode', hshape⟩ := hgrows.keeps hnode
  obtain ⟨data', rfl⟩ := Node.shape_eq_file.1 hshape
  exact ⟨loc, data', hopens, hnode'⟩

end FileTree

/-! ## Writes on a disk where some operations fail -/

namespace Store

variable {planned : List PlannedFault} {I J : FileTree → Prop} {p : LocalPath} {data : ByteArray}

theorem unlessPlanned_cases {σ α : Type} (planned : List PlannedFault) (operation : Operation)
    (path : LocalPath) (job : Job σ α) :
    unlessPlanned planned operation path job = job ∨
      ∃ fault, unlessPlanned planned operation path job = throw fault := by
  rw [unlessPlanned]
  split
  · exact .inr ⟨_, rfl⟩
  · exact .inl rfl

/-- A change fails and leaves the tree alone, or it does what the tree does. -/
theorem change_cases (planned : List PlannedFault) (operation : Operation) (p : LocalPath)
    (f : FileTree → Except FileFault FileTree) (t : FileTree) :
    (∃ fault, unlessPlanned planned operation p (change p f) t = (.error fault, t)) ∨
      ∃ t', f t = .ok t' ∧ unlessPlanned planned operation p (change p f) t = (.ok (), t') := by
  rcases unlessPlanned_cases planned operation p (change p f) with hjob | ⟨fault, hjob⟩
  · rw [hjob]
    cases hf : f t with
    | error cause => exact .inl ⟨.file p cause, by rw [change, hf]⟩
    | ok t' => exact .inr ⟨t', rfl, by rw [change, hf]⟩
  · exact .inl ⟨fault, by rw [hjob]; rfl⟩

theorem write_disk_cases (planned : List PlannedFault) (p : LocalPath) (data : ByteArray)
    (t : FileTree) :
    (∃ fault, (disk.withFaults planned).write p data t = (.error fault, t)) ∨
      ∃ t', t.write p data = .ok t' ∧ (disk.withFaults planned).write p data t = (.ok (), t') :=
  change_cases planned .write p (·.write p data) t

theorem write_disk_keeps (h : ∀ {t t'}, I t → t.write p data = .ok t' → I t') :
    ((disk.withFaults planned).write p data).Keeps I := by
  intro t ht
  rcases write_disk_cases planned p data t with ⟨fault, hfault⟩ | ⟨t', hwrite, hok⟩
  · rwa [hfault]
  · rw [hok]
    exact h ht hwrite

theorem write_disk_establishes (h : ∀ {t t'}, I t → t.write p data = .ok t' → J t') :
    ((disk.withFaults planned).write p data).Establishes I J := by
  intro t ht a t' hrun
  rcases write_disk_cases planned p data t with ⟨fault, hfault⟩ | ⟨t'', hwrite, hok⟩
  · rw [hfault] at hrun
    cases hrun
  · rw [hok] at hrun
    cases hrun
    exact h ht hwrite

end Store

/-! ## A disk beside a remote side -/

section

variable {τ : Type}

/-- The remote side beside a tree of files, which it leaves alone. -/
def Remote.besideTree (remote : Remote τ) : Remote (FileTree × τ) where
  list url := (remote.list url).within Prod.snd fun w s => (s.1, w)
  fetch url := (remote.fetch url).within Prod.snd fun w s => (s.1, w)

/-- The disk beside a remote side, with failures as planned. -/
def Store.besideRemote (planned : List Store.PlannedFault) : Store (FileTree × τ) :=
  (Store.disk.withFaults planned).within Prod.fst fun t s => (t, s.2)

variable {remote : Remote τ} {planned : List Store.PlannedFault} {I J : FileTree → Prop}

theorem Remote.list_keeps_tree (url : String) :
    (remote.besideTree.list url).Keeps fun s => I s.1 :=
  fun _ hs => hs

theorem Remote.fetch_keeps_tree (url : String) :
    (remote.besideTree.fetch url).Keeps fun s => I s.1 :=
  fun _ hs => hs

theorem Store.write_keeps_tree {p : LocalPath} {data : ByteArray}
    (h : ∀ {t t'}, I t → t.write p data = .ok t' → I t') :
    ((Store.besideRemote planned : Store (FileTree × τ)).write p data).Keeps fun s => I s.1 :=
  fun s hs => Store.write_disk_keeps h s.1 hs

theorem Store.write_establishes_tree {p : LocalPath} {data : ByteArray}
    (h : ∀ {t t'}, I t → t.write p data = .ok t' → J t') :
    ((Store.besideRemote planned : Store (FileTree × τ)).write p data).Establishes
      (fun s => I s.1) (fun s => J s.1) := by
  intro s hs a s' hrun
  have hresult : ((Store.disk.withFaults planned).write p data s.1).1 = .ok a :=
    congrArg Prod.fst hrun
  obtain rfl : (((Store.disk.withFaults planned).write p data s.1).2, s.2) = s' :=
    congrArg Prod.snd hrun
  exact Store.write_disk_establishes h hs (Prod.ext hresult rfl)

end

end Vendoring
