import Vendoring.FileTree.Resolve
import Vendoring.Proofs.FileTree.Basic

/-!
# Resolution as a relation

`FileTree.Leads` has a rule for each way in which resolution can go on, the link among them, and
`walk_eq_ok_iff` says that it is the walk. A statement about where paths lead is an induction on
the derivation, whatever links are on the way.

Four such inductions are here: more links do no harm (`Leads.mono`); a way can be cut between any
two of its steps, where the first part leads to the directory in which the second one is taken
(`Leads.split`); it can go on where it has come to (`Leads.append`); and over a name that is missing
it cannot (`Leads.walk_behind_missing`).
-/

set_option autoImplicit false

namespace Vendoring

/-- Where a step leads that goes by no name. -/
def Step.move? (here : Location) : Step → Option Location
  | .stay | .enter => some here
  | .up => some here.tail
  | .down _ => none

/-- The location that was come to, or the one that the missing name would have. -/
def Landing.location : Landing → Location
  | found loc => loc
  | missing dir name => name :: dir

namespace FileTree

/-- The steps lead from a location to a landing, over at most so many links. -/
inductive Leads (t : FileTree) (making : Bool) : Nat → Location → List Step → Landing → Prop where
  | done {links : Nat} {here : Location} : Leads t making links here [] (.found here)
  | move {links : Nat} {here next : Location} {step : Step} {rest : List Step}
      {landing : Landing} (hdir : t.node? here = some .directory)
      (hstep : step.move? here = some next) (hrest : Leads t making links next rest landing) :
      Leads t making links here (step :: rest) landing
  | missing {links : Nat} {here : Location} {name : FileName}
      (hdir : t.node? here = some .directory) (hname : name.bytes.size ≤ maxNameLength)
      (hnode : t.node? (name :: here) = none) :
      Leads t making links here [.down name] (.missing here name)
  | down {links : Nat} {here : Location} {name : FileName} {rest : List Step} {node : Node}
      {landing : Landing} (hdir : t.node? here = some .directory)
      (hmaking : (making && rest == [.enter]) = false) (hname : name.bytes.size ≤ maxNameLength)
      (hnode : t.node? (name :: here) = some node) (hlink : ∀ target, node ≠ .link target)
      (hrest : Leads t making links (name :: here) rest landing) :
      Leads t making links here (.down name :: rest) landing
  | follow {links : Nat} {here : Location} {name : FileName} {rest : List Step}
      {target : LocalPath} {landing : Landing} (hdir : t.node? here = some .directory)
      (hmaking : (making && rest == [.enter]) = false) (hname : name.bytes.size ≤ maxNameLength)
      (hnode : t.node? (name :: here) = some (.link target))
      (hrest : Leads t making links (if (Route.ofPath target).absolute then [] else here)
        ((Route.ofPath target).steps ++ rest) landing) :
      Leads t making (links + 1) here (.down name :: rest) landing

variable {t : FileTree} {making : Bool}

/-! ## The relation is the walk -/

/-- How a walk goes on at a link. -/
def onward (t : FileTree) (making : Bool) : Nat → Location → List Step → Except FileFault Landing
  | 0 => fun _ _ => .error .tooManyLinks
  | links + 1 => t.walk making links

theorem walk_eq (links : Nat) :
    t.walk making links = t.walkWith making (t.onward making links) := by
  cases links <;> rfl

theorem leads_of_walkWith {links : Nat}
    (hfollow : ∀ here steps landing, t.onward making links here steps = .ok landing →
      ∃ fewer, links = fewer + 1 ∧ t.Leads making fewer here steps landing)
    {here : Location} {steps : List Step} {landing : Landing}
    (h : t.walkWith making (t.onward making links) here steps = .ok landing) :
    t.Leads making links here steps landing := by
  induction steps generalizing here with
  | nil =>
    cases h
    exact .done
  | cons step rest ih =>
    rw [walkWith.eq_def] at h
    dsimp only at h
    split at h
    · cases h
    · cases h
    · cases h
    · next hdir =>
      cases step with
      | stay | enter | up => exact .move hdir rfl (ih h)
      | down name =>
        dsimp only at h
        split at h
        · cases h
        · next hmaking =>
          rw [Bool.not_eq_true] at hmaking
          split at h
          · cases h
          · next hname =>
            rw [Nat.not_lt] at hname
            split at h
            · next hnode =>
              split at h
              · next hrest =>
                cases h
                rw [List.isEmpty_iff.1 hrest]
                exact .missing hdir hname hnode
              · cases h
            · next target hnode =>
              obtain ⟨fewer, rfl, hfewer⟩ := hfollow _ _ _ h
              exact .follow hdir hmaking hname hnode hfewer
            · next node hlink hnode =>
              exact .down hdir hmaking hname hnode hlink (ih h)

theorem leads_of_walk {links : Nat} {here : Location} {steps : List Step} {landing : Landing}
    (h : t.walk making links here steps = .ok landing) :
    t.Leads making links here steps landing := by
  induction links generalizing here steps landing with
  | zero =>
    refine leads_of_walkWith ?_ h
    rintro _ _ _ ⟨⟩
  | succ links ih => exact leads_of_walkWith (fun _ _ _ h => ⟨links, rfl, ih h⟩) h

theorem walk_of_leads {links : Nat} {here : Location} {steps : List Step} {landing : Landing}
    (h : t.Leads making links here steps landing) :
    t.walk making links here steps = .ok landing := by
  induction h with
  | done => rw [walk_eq, walkWith]
  | @move links here next step rest landing hdir hstep _ ih =>
    rw [walk_eq] at ih ⊢
    cases step with
    | down => cases hstep
    | stay | enter | up =>
      cases hstep
      simpa only [walkWith, hdir] using ih
  | missing hdir hname hnode =>
    have hrest : (([] : List Step) == [.enter]) = false := rfl
    simp [walk_eq, walkWith, hdir, hrest, Nat.not_lt.2 hname, hnode]
  | @down links here name rest node landing hdir hmaking hname hnode hlink _ ih =>
    rw [walk_eq] at ih ⊢
    rw [walkWith, hdir]
    simp only [hmaking, Bool.false_eq_true, if_false, if_neg (Nat.not_lt.2 hname), hnode]
    cases node with
    | directory => exact ih
    | file data => exact ih
    | link target => exact absurd rfl (hlink target)
  | follow hdir hmaking hname hnode _ ih =>
    rw [walk_eq, walkWith, hdir]
    simp only [hmaking, Bool.false_eq_true, if_false, if_neg (Nat.not_lt.2 hname), hnode]
    exact ih

/-- **The relation is the walk.** -/
theorem walk_eq_ok_iff {links : Nat} {here : Location} {steps : List Step} {landing : Landing} :
    t.walk making links here steps = .ok landing ↔ t.Leads making links here steps landing :=
  ⟨leads_of_walk, walk_of_leads⟩

theorem Leads.unique {links : Nat} {here : Location} {steps : List Step}
    {landing landing' : Landing} (h : t.Leads making links here steps landing)
    (h' : t.Leads making links here steps landing') : landing = landing' := by
  have heq := walk_of_leads h
  rw [walk_of_leads h'] at heq
  exact (Except.ok.inj heq).symm

/-! ## More links, and parts of a way -/

/-- A step can only be taken in a directory. -/
theorem Leads.node?_of_ne_nil {links : Nat} {here : Location} {steps : List Step}
    {landing : Landing} (h : t.Leads making links here steps landing) (hne : steps ≠ []) :
    t.node? here = some .directory := by
  cases h with
  | done => exact absurd rfl hne
  | move hdir _ _ => exact hdir
  | missing hdir _ _ => exact hdir
  | down hdir _ _ _ _ _ => exact hdir
  | follow hdir _ _ _ _ => exact hdir

theorem Leads.mono {links more : Nat} {here : Location} {steps : List Step} {landing : Landing}
    (h : t.Leads making links here steps landing) (hle : links ≤ more) :
    t.Leads making more here steps landing := by
  induction h generalizing more with
  | done => exact .done
  | move hdir hstep _ ih => exact .move hdir hstep (ih hle)
  | missing hdir hname hnode => exact .missing hdir hname hnode
  | down hdir hmaking hname hnode hlink _ ih =>
    exact .down hdir hmaking hname hnode hlink (ih hle)
  | follow hdir hmaking hname hnode _ ih =>
    cases more with
    | zero => exact absurd hle (Nat.not_succ_le_zero _)
    | succ more => exact .follow hdir hmaking hname hnode (ih (Nat.le_of_succ_le_succ hle))

/-- What is missing is not there. -/
theorem Leads.node?_of_missing {links : Nat} {here : Location} {steps : List Step}
    {landing : Landing} (h : t.Leads making links here steps landing) {dir : Location}
    {name : FileName} (hmissing : landing = .missing dir name) : t.node? (name :: dir) = none := by
  induction h with
  | done => cases hmissing
  | missing _ _ hnode =>
    cases hmissing
    exact hnode
  | move _ _ _ ih => exact ih hmissing
  | down _ _ _ _ _ _ ih => exact ih hmissing
  | follow _ _ _ _ _ ih => exact ih hmissing

/-- **A way can be cut between two steps.** Its first part leads to a node, and there the second one
begins. Up to the cut it makes no difference whether the way is for making a file. -/
theorem Leads.split {links : Nat} {here : Location} {first second : List Step} {landing : Landing}
    (h : t.Leads making links here (first ++ second) landing) (hne : second ≠ []) :
    ∃ mid fewer, fewer ≤ links ∧ t.Leads false links here first (.found mid) ∧
      t.Leads making fewer mid second landing := by
  -- by induction on the whole way: either the cut is right here, or the first step is before it
  generalize hsteps : first ++ second = steps at h
  induction h generalizing first with
  | done => exact absurd (List.append_eq_nil_iff.1 hsteps).2 hne
  | @move links here next step rest landing hdir hstep hrest ih =>
    cases first with
    | nil =>
      obtain rfl := hsteps
      exact ⟨here, links, Nat.le_refl _, .done, .move hdir hstep hrest⟩
    | cons step first =>
      cases hsteps
      obtain ⟨mid, fewer, hle, hfirst, hsecond⟩ := ih rfl
      exact ⟨mid, fewer, hle, .move hdir hstep hfirst, hsecond⟩
  | @missing links here name hdir hname hnode =>
    cases first with
    | nil =>
      obtain rfl := hsteps
      exact ⟨here, links, Nat.le_refl _, .done, .missing hdir hname hnode⟩
    | cons step first =>
      exact absurd (List.append_eq_nil_iff.1 (List.cons.inj hsteps).2).2 hne
  | @down links here name rest node landing hdir hmaking hname hnode hlink hrest ih =>
    cases first with
    | nil =>
      obtain rfl := hsteps
      exact ⟨here, links, Nat.le_refl _, .done, .down hdir hmaking hname hnode hlink hrest⟩
    | cons step first =>
      cases hsteps
      obtain ⟨mid, fewer, hle, hfirst, hsecond⟩ := ih rfl
      exact ⟨mid, fewer, hle, .down hdir rfl hname hnode hlink hfirst, hsecond⟩
  | @follow links here name rest target landing hdir hmaking hname hnode hrest ih =>
    cases first with
    | nil =>
      obtain rfl := hsteps
      exact ⟨here, links + 1, Nat.le_refl _, .done, .follow hdir hmaking hname hnode hrest⟩
    | cons step first =>
      -- the steps of the link's target come before the rest of the first part
      cases hsteps
      obtain ⟨mid, fewer, hle, hfirst, hsecond⟩ := ih (List.append_assoc _ _ _)
      exact ⟨mid, fewer, Nat.le_succ_of_le hle, .follow hdir rfl hname hnode hfirst, hsecond⟩

/-- What is found on the way to make a file is found on the way to read it. -/
theorem Leads.reading {t : FileTree} {making : Bool} {links : Nat} {here : Location}
    {steps : List Step} {landing : Landing} (h : t.Leads making links here steps landing) :
    t.Leads false links here steps landing := by
  induction h with
  | done => exact .done
  | move hdir hstep _ ih => exact .move hdir hstep ih
  | missing hdir hname hnode => exact .missing hdir hname hnode
  | down hdir _ hname hnode hlink _ ih => exact .down hdir rfl hname hnode hlink ih
  | follow hdir _ hname hnode _ ih => exact .follow hdir rfl hname hnode ih

/-- A way to a directory passes through directories. -/
theorem Leads.split_directory {t : FileTree} {making : Bool} {links : Nat} {here dir : Location}
    {first second : List Step} (h : t.Leads making links here (first ++ second) (.found dir))
    (hdir : t.node? dir = some .directory) :
    ∃ mid, t.Leads false links here first (.found mid) ∧ t.node? mid = some .directory := by
  cases second with
  | nil =>
    rw [List.append_nil] at h
    exact ⟨dir, h.reading, hdir⟩
  | cons step rest =>
    obtain ⟨mid, fewer, -, hfirst, hsecond⟩ := h.split (List.cons_ne_nil step rest)
    exact ⟨mid, hfirst, hsecond.node?_of_ne_nil (List.cons_ne_nil step rest)⟩

/-- A way goes on where it has come to, over the links that are left. -/
theorem Leads.append {t : FileTree} {links : Nat} {here mid : Location} {first second : List Step}
    {landing : Landing} (h : t.Leads false links here first (.found mid))
    (h' : t.Leads false 0 mid second landing) :
    t.Leads false links here (first ++ second) landing := by
  generalize hmid : Landing.found mid = stop at h
  induction h with
  | done =>
    cases hmid
    exact h'.mono (Nat.zero_le _)
  | missing => cases hmid
  | move hdir hstep _ ih => exact .move hdir hstep (ih hmid)
  | down hdir _ hname hnode hlink _ ih => exact .down hdir rfl hname hnode hlink (ih hmid)
  | follow hdir _ hname hnode _ ih =>
    refine .follow hdir rfl hname hnode ?_
    have hrest := ih hmid
    rwa [List.append_assoc] at hrest

/-- Behind a name that is missing nothing is found, and that is the fault. -/
theorem Leads.walk_behind_missing {t : FileTree} {links : Nat} {here dir : Location}
    {steps : List Step} (h : t.Leads false links here steps (.found dir)) {name : FileName}
    (hdir : t.node? dir = some .directory) (hname : name.bytes.size ≤ maxNameLength)
    (hnone : t.node? (name :: dir) = none) (more : List Step) :
    t.walk false links here (steps ++ .down name :: more) =
      if more.isEmpty then .ok (.missing dir name) else .error .notFound := by
  generalize hstop : Landing.found dir = stop at h
  induction h with
  | done =>
    cases hstop
    rw [List.nil_append, walk_eq, walkWith, hdir]
    simp only [Bool.false_and, Bool.false_eq_true, if_false, if_neg (Nat.not_lt.2 hname), hnone]
  | missing => cases hstop
  | @move links here next step rest landing hhere hstep _ ih =>
    rw [walk_eq] at ih ⊢
    cases step with
    | stay | up | enter =>
      cases hstep
      rw [List.cons_append, walkWith, hhere]
      exact ih hstop
    | down => cases hstep
  | @down links here name rest node landing hhere _ hname hnode hlink _ ih =>
    rw [List.cons_append, walk_eq, walkWith, hhere]
    rw [walk_eq] at ih
    simp only [Bool.false_and, Bool.false_eq_true, if_false, if_neg (Nat.not_lt.2 hname), hnode]
    cases node with
    | directory | file => exact ih hstop
    | link target => exact absurd rfl (hlink target)
  | follow hhere _ hname hnode _ ih =>
    rw [List.cons_append, walk_eq, walkWith, hhere]
    rw [List.append_assoc] at ih
    simp only [Bool.false_and, Bool.false_eq_true, if_false, if_neg (Nat.not_lt.2 hname), hnode]
    exact ih hstop

end FileTree

end Vendoring
