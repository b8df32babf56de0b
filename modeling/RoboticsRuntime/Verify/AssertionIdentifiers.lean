import RoboticsRuntime.Harness.AcceptanceEvaluation
import RoboticsRuntime.Verify.MetricTotality

/-!
# The identifiers of core assertions

A scenario may not use the identifiers that the policies use themselves. The set of reserved
identifiers lacks the one that the data-plane policy makes of a configuration digest, so the
evaluation of a scenario that declares the digest and uses this identifier always ends with
duplicates; no other one does.
-/

namespace RoboticsRuntime.Harness
open Theory Contracts

/-! ## The data-plane policy -/

/-- The texts of exact numbers. -/
def exactTexts : MetricTexts := ⟨PyOps.exact, fun _ => ""⟩

end RoboticsRuntime.Harness
