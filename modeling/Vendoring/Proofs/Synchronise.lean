import Vendoring.Proofs.FailFast
import Vendoring.Proofs.Refresh.Selection
import Vendoring.Proofs.Replicate.Repeat
import Vendoring.Proofs.Replicate.Tally

/-!
# A synchronisation is one job, once it is known what to do

A synchronisation looks at the tree and the settings first. What it finds is an `Undertaking`, a
refresh of certain targets or a copy with certain options, or the failure that ends it there; and
`synchronise_run` says that **nothing but the undertaking's job is done in the world**. So what holds
of both modes is proved of that job alone, which has a plan.
-/

set_option autoImplicit false

namespace Vendoring

/-- What a synchronisation is to do in the world. -/
inductive Undertaking where
  | refresh (url : String) (targets : List Target)
  | replicate (url : String) (options : ReplicaOptions)

namespace Undertaking

/-- The listing that comes first. -/
def url : Undertaking → String
  | refresh url _ | replicate url _ => url

def job (bound : Nat) : Undertaking → Program (Option Report)
  | refresh url targets => fun _ remote store => some <$> Vendoring.refresh remote store url targets
  | replicate url options => fun _ remote store => Vendoring.replicate remote store options bound url

end Undertaking

/-- The undertaking of a mode by the settings, on this tree. -/
def Settings.undertaking (s : Settings) (t : FileTree) : Mode → Except Fault Undertaking
  | .decompiler => (s.refreshment t).map fun (targets, url) => .refresh url targets
  | .processors =>
    (s.listingUrl s.processors.remotePath).map fun url => .replicate url s.processors.replicaOptions

section

variable {σ : Type} (tree : σ → FileTree) (remote : Remote σ) (store : Store σ) (bound : Nat)
  (s : Settings)

/-- **A synchronisation does its undertaking**, if there is one, and nothing otherwise. -/
theorem synchronise_run (mode : Mode) (world : σ) :
    synchronise tree remote store bound s mode world =
      match s.undertaking (tree world) mode with
      | .ok undertaking => undertaking.job bound σ remote store world
      | .error fault => (.error fault, world) := by
  cases mode with
  | processors =>
    rw [synchronise_processors, Settings.undertaking]
    cases s.listingUrl s.processors.remotePath <;> rfl
  | decompiler =>
    show (some <$> refreshBySettings tree remote store s) world = _
    have hrun := refreshBySettings_run tree remote store s world
    rw [Settings.undertaking]
    rcases hwork : s.refreshment (tree world) with fault | ⟨targets, url⟩
    · rw [hwork] at hrun
      exact Job.map_error hrun
    · rw [hwork] at hrun
      show (some <$> refreshBySettings tree remote store s) world =
        (some <$> refresh remote store url targets) world
      rcases hrefresh : refresh remote store url targets world with ⟨fault | report, world'⟩
      · rw [Job.map_error (hrun.trans hrefresh), Job.map_error hrefresh]
      · rw [Job.map_ok (hrun.trans hrefresh), Job.map_ok hrefresh]

end

namespace Undertaking

/-- **Every undertaking has a plan.** -/
theorem planned (bound : Nat) (u : Undertaking) : Planned (fun _ => True) (u.job bound) := by
  cases u with
  | refresh url targets =>
    simp only [job, map_eq_pure_bind]
    exact (planned_refresh url targets).bind fun report => planned_pure (some report)
  | replicate url options =>
    exact (planned_replicate options bound url).weaken fun _ _ => trivial

/-! ## The report of an undertaking -/

theorem wrote?_deliveries (targets : List Target) (deliveries : List Delivery) :
    (deliveries.flatMap (Delivery.events targets)).filterMap Event.wrote? =
      (deliveries.flatMap (Delivery.placements targets)).map Placement.path := by
  rw [List.filterMap_flatMap, List.map_flatMap]
  apply List.flatMap_congr
  intro d _
  have hfetched : Event.wrote? (.fetched d.url (.ok d.content)) = none := rfl
  have hplaced : ∀ p : Placement, Event.wrote? p.event = some p.path := fun _ => rfl
  rw [Delivery.events, List.filterMap_cons, hfetched, List.filterMap_map]
  simp only [Function.comp_def, hplaced]
  exact congrFun List.filterMap_eq_map' _

/-- **The report has the paths that were written**, in order. -/
theorem wrote?_eq_updated {σ : Type} {remote : Remote σ} {store : Store σ} {bound : Nat}
    {u : Undertaking} {world : σ} {report : Report} {final : Heard σ}
    (hrun : u.job bound _ remote.heard store.heard ⟨world, []⟩ = (.ok (some report), final)) :
    final.events.filterMap Event.wrote? = report.updated := by
  cases u with
  | replicate url options => exact (balanced_of_replicate hrun).wrote
  | refresh url targets =>
    have hmeets := refresh_meets remote store url targets ⟨world, []⟩ rfl
    rcases hrefresh : Vendoring.refresh remote.heard store.heard url targets ⟨world, []⟩ with
      ⟨fault | report', s⟩ <;> rw [hrefresh] at hmeets
    · have hfails := (Job.map_error hrefresh).symm.trans hrun
      cases hfails
    · have hsucceeds := (Job.map_ok hrefresh).symm.trans hrun
      cases hsucceeds
      obtain ⟨entries, deliveries, -, hevents, rfl⟩ := hmeets
      have hlisted : Event.wrote? (.listed url (.ok entries)) = none := rfl
      rw [hevents, List.singleton_append, List.filterMap_cons, hlisted]
      exact wrote?_deliveries targets deliveries

end Undertaking

end Vendoring
