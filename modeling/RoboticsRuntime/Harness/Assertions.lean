import RoboticsRuntime.Contracts.AcceptanceResult

/-!
# Assertion evaluations

`metrics.AssertionEvaluation`: the outcome of one assertion of a scenario or of one policy.
-/

namespace RoboticsRuntime.Harness
open Contracts

/-- `AssertionEvaluation`. -/
structure AssertionEvaluation where
  assertionId : String
  status : AssertionStatus
  observedValue : Option ObservedValue
  unit : String
  message : String := ""
  source : AssertionSource := .core
  nameSpace : Option String := none
  evidenceSha256 : List String := []
  deriving DecidableEq, Repr

/-- The entry of `assertion_results` that `build_acceptance_result` makes of an evaluation. -/
def AssertionEvaluation.result (evaluation : AssertionEvaluation) : AssertionResult where
  assertionId := evaluation.assertionId
  source := evaluation.source
  status := evaluation.status
  observedValue := evaluation.observedValue
  unit := evaluation.unit
  message := if evaluation.message = "" then none else some evaluation.message
  nameSpace := evaluation.nameSpace.filter (· ≠ "")
  evidenceSha256 := if evaluation.evidenceSha256 = [] then none else some evaluation.evidenceSha256

end RoboticsRuntime.Harness
