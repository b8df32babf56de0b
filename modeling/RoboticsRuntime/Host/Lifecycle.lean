import Mathlib.Data.Nat.Notation

/-!
# The lifecycle of an application

`application-lifecycle/index.ts`: the phases of a run, what is observed of each, and the hooks by
which a caller completes a run. A hook is kept as whether the caller passes it; what it returns is
left to the environment.
-/

namespace RoboticsRuntime.Host

structure ArtifactRef where
  uri : String
  sha256 : String
  sizeBytes : ℕ
  deriving DecidableEq, Repr

inductive RunPhase where
  | preloading
  | ready
  | measuring
  | closingMeasurement
  | capturingLastState
  | drainingRecorders
  | exportingEvidence
  | disposing
  | verifyingCleanup
  | completed
  | retained
  | error
  deriving DecidableEq, Repr

def RunPhase.text : RunPhase → String
  | preloading => "preloading"
  | ready => "ready"
  | measuring => "measuring"
  | closingMeasurement => "closing-measurement"
  | capturingLastState => "capturing-last-state"
  | drainingRecorders => "draining-recorders"
  | exportingEvidence => "exporting-evidence"
  | disposing => "disposing"
  | verifyingCleanup => "verifying-cleanup"
  | completed => "completed"
  | retained => "retained"
  | error => "error"

inductive PhaseStatus where
  | passed
  | error
  deriving DecidableEq, Repr

structure PhaseObservation where
  phase : RunPhase
  status : PhaseStatus
  diagnostic : Option String
  deriving DecidableEq, Repr

/-- Which hooks a caller passes. -/
structure CompletionHooks where
  closeMeasurement : Bool
  captureLastState : Bool
  drainRecorders : Bool
  exportEvidence : Bool
  deriving DecidableEq, Repr

/-- The hooks that a caller passes when it passes none. -/
def CompletionHooks.absent : CompletionHooks := ⟨false, false, false, false⟩

end RoboticsRuntime.Host
