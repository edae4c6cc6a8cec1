import Vendoring.Client
import Vendoring.CommandLine.Read
import Vendoring.Disk
import Vendoring.Settings.Load
import Vendoring.Synchronise

/-!
# A run of the program

A run loads the settings, sees their local paths from the root, makes a client that sends the token,
and synchronises. What fails first ends it, and only a run that comes to its end prints its summary.
Nothing is asked for and nothing is changed on disk before the settings and the token are known to be
good.

What a run prints is part of what it does, beside its work in the world (`Shown`). What it tells a log
is not: such lines go to whoever listens, and nowhere if nobody does.
-/

set_option autoImplicit false

namespace Vendoring

/-- Why a run fails. -/
inductive RunFault where
  | settings (cause : LoadFault)
  /-- There is no client. -/
  | client (cause : Fault)
  | synchronisation (mode : Mode) (cause : Fault)
  /-- The walk has not ended within its bound. -/
  | endless
  deriving DecidableEq, Repr

namespace RunFault

/-- The words for a failure, without those for its cause. -/
def message : RunFault → String
  | settings cause => cause.message
  | client _ => "Failed to build GitHub client"
  | synchronisation mode _ => "Synchronisation failed in " ++ mode.name ++ " mode"
  | endless => "Synchronisation did not end"

/-- The failure of the synchronisation behind the failure of a run. -/
def cause? : RunFault → Option Fault
  | client cause => some cause
  | synchronisation _ cause => some cause
  | settings _ | endless => none

end RunFault

/-- A world, and the output of a run in it so far. -/
structure Shown (σ : Type) where
  world : σ
  printed : String

/-- The same output beside another world. -/
def Shown.putWorld {σ : Type} (world : σ) (s : Shown σ) : Shown σ := { s with world }

/-- Prints a line. -/
def Shown.printLine {σ : Type} (line : String) (s : Shown σ) : Shown σ :=
  { s with printed := s.printed ++ (line ++ "\n") }

section

variable {σ : Type} (tree : σ → FileTree) (transport : Transport σ) (store : Store σ)

/-- Whether a run succeeds, or why it fails, and the world and the output that it leaves. A walk takes
at most `bound` steps. -/
def run (bound : Nat) (c : CommandLine) (s : Shown σ) : Except RunFault Unit × Shown σ :=
  match Settings.load (tree s.world) c.config with
  | .error cause => (.error (.settings cause), s)
  | .ok settings =>
    match Client.withToken transport c.token with
    | .error cause => (.error (.client cause), s)
    | .ok client =>
      let job := synchronise tree client.remote store bound (settings.rootedAt c.root) c.mode
      match (job.within Shown.world Shown.putWorld).run s with
      | (.ok (some report), s) => (.ok (), s.printLine report.summary)
      | (.ok none, s) => (.error .endless, s)
      | (.error cause, s) => (.error (.synchronisation c.mode cause), s)

end

end Vendoring
