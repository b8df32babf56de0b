import RoboticsRuntime.Harness.Assertions
import RoboticsRuntime.Harness.GraphWindow
import RoboticsRuntime.Harness.TimeAuthority
import RoboticsRuntime.Harness.Timing.Evaluation
import RoboticsRuntime.Harness.Timing.Hardware

/-!
# The acceptance result

`result.py`: the document of a run, with the verdict that its assertions and observations add up to.
-/

namespace RoboticsRuntime.Harness
open Theory Contracts

/-- The arguments of `build_acceptance_result` that its verdict depends on. -/
structure ResultInputs where
  targetEnvironment : TargetEnvironment
  workload : WorkloadDocument
  timing : TimingObservation
  timeAuthority : TimeAuthorityObservation
  timeAuthorityEvidenceSha256 : Option String
  assertions : List AssertionEvaluation
  unevaluated : List String
  shutdown : ShutdownDocument
  forbiddenGraph : ForbiddenGraphObservation
  hardwareTiming : Option HardwareTimingObservation
  hardwareTimingEvidenceSha256 : Option String
  evaluationMode : EvaluationMode

/-- `HarnessInputError`, or the error of a contract. -/
inductive ResultFailure where
  | input (message : String)
  | contract (failure : SemanticFailure)
  deriving DecidableEq, Repr

/-! ## The parts of the document -/

/-- The text of a kind. -/
def InterfaceKind.name : InterfaceKind → String
  | action => "action"
  | service => "service"
  | topic => "topic"

/-- `_forbidden_graph_result`. -/
def forbiddenGraphResult (observation : ForbiddenGraphObservation) : ForbiddenGraphDocument where
  passed := observation.passed
  checkedTopics := observation.checkedTopics
  checkedServices := observation.checkedServices
  checkedActions := observation.checkedActions
  violations := observation.violations.map fun violation => (violation.kind.name, violation.name)

/-- `_hardware_clock_result`. -/
def hardwareClockResult (observation : HardwareTimingObservation) (evidenceSha256 : String) :
    HardwareClockDocument where
  syncProtocol := observation.syncProtocol
  source := observation.source
  measuredAt := observation.measuredAt
  sampleCount := observation.sampleCount
  offsetMs := observation.offsetMs
  jitterMs := observation.jitterMs
  driftPpm := observation.driftPpm
  maxSampleAgeMs := observation.maxSampleAgeMs
  withinPolicy := observation.withinPolicy
  evidenceSha256 := evidenceSha256

/-- The entry `clock_observation`. -/
def clockResult (timing : TimingObservation) : ClockDocument where
  monotonic := timing.monotonic
  offsetMs := timing.offsetMs
  driftPpm := timing.driftPpm
  realTimeFactor := timing.realTimeFactor
  deadlineMissRatio := timing.deadlineMissRatio

/-- The candidates for the identifier of the time evidence. -/
def timeEvidenceId (identifier : String) : ℕ → String
  | 0 => identifier
  | n + 1 => s!"{identifier}-{n + 2}"

/-- `_append_time_evidence`. -/
def appendTimeEvidence (assertions : List AssertionEvaluation) (evaluation : AssertionEvaluation) :
    List AssertionEvaluation :=
  let existing := assertions.map (·.assertionId)
  let identifier := firstUnused existing (timeEvidenceId evaluation.assertionId)
  assertions ++ [{ evaluation with assertionId := identifier }]

/-- The evaluations, with the one of the time evidence. -/
def ResultInputs.evaluations (inputs : ResultInputs) : List AssertionEvaluation :=
  match inputs.timeAuthority.evaluation with
  | some evaluation => appendTimeEvidence inputs.assertions evaluation
  | none => inputs.assertions

/-- `effective_unevaluated`, before it is sorted. -/
def ResultInputs.effectiveUnevaluated (inputs : ResultInputs) : List String :=
  (inputs.unevaluated ++ (if inputs.assertions = [] then ["$.assertions"] else []) ++
    (if inputs.timeAuthority.evaluation.any fun evaluation =>
        evaluation.status = .skipped ∨ evaluation.status = .error then
      ["$.time_authority_observation"] else []) ++
    (inputs.evaluations.filter (·.status = .skipped)).map fun evaluation =>
      "$.assertions." ++ evaluation.assertionId).dedup

/-! ## The verdict -/

/-- An entry of `_result_assertions`. -/
structure ResultCase where
  assertionId : String
  status : AssertionStatus
  message : String
  deriving DecidableEq, Repr

/-- The case of one observation of the document. -/
def observationCase (unevaluated : List String) (assertionId field failureMessage : String)
    (passed : Bool) : ResultCase :=
  if "$." ++ field ∈ unevaluated then
    ⟨assertionId, .skipped, "unevaluated observation: $." ++ field⟩
  else if passed then ⟨assertionId, .passed, ""⟩
  else ⟨assertionId, .failed, failureMessage⟩

/-- `_result_assertions`. -/
def resultAssertions (document : AcceptanceResult) : List ResultCase :=
  let unevaluated := document.unevaluated
  document.assertionResults.map (fun result =>
      ⟨result.assertionId, result.status, result.message.getD ""⟩) ++
    [observationCase unevaluated "forbidden-ros-graph" "forbidden_graph_observation"
      "forbidden ROS interface observed" document.forbiddenGraphObservation.passed] ++
    (document.hardwareClockObservation.map fun hardware =>
      observationCase unevaluated "hardware-clock-policy" "hardware_clock_observation"
        "hardware timing out of policy" hardware.withinPolicy).toList ++
    [observationCase unevaluated "time-authority-policy" "time_authority_observation"
      "time-authority evidence is out of policy" document.timeAuthorityObservation.withinPolicy] ++
    (if unevaluated ≠ [] then
      [⟨"evaluation-coverage", .skipped,
        "unevaluated declarations: " ++ ", ".intercalate unevaluated⟩] else [])

/-- `"incomplete" if assertion["status"] == "skipped" else assertion["status"]`. -/
def verdictStatus : AssertionStatus → OutcomeStatus
  | .passed => .passed
  | .failed => .failed
  | .error => .error
  | .skipped => .incomplete

/-- The document before its status is known. -/
def ResultInputs.draft (inputs : ResultInputs) : AcceptanceResult where
  status := .passed
  evaluationMode := inputs.evaluationMode
  unevaluated := inputs.effectiveUnevaluated.insertionSort (· ≤ ·)
  assertionResults := inputs.evaluations.map AssertionEvaluation.result
  forbiddenGraphObservation := forbiddenGraphResult inputs.forbiddenGraph
  targetEnvironment := inputs.targetEnvironment
  workload := inputs.workload
  clockObservation := clockResult inputs.timing
  hardwareClockObservation := do
    return hardwareClockResult (← inputs.hardwareTiming) (← inputs.hardwareTimingEvidenceSha256)
  timeAuthorityObservation := inputs.timeAuthority.document inputs.timeAuthorityEvidenceSha256
  shutdown := inputs.shutdown

/-- The document of a run, before it is validated. -/
def assembleResult (inputs : ResultInputs) : Except ResultFailure AcceptanceResult := do
  let physical := inputs.targetEnvironment.physical
  require (¬ (physical ∧ (inputs.hardwareTiming = none ∨
      inputs.hardwareTimingEvidenceSha256 = none)))
    (.input "physical acceptance result requires hardware timing evidence")
  require (¬ (¬ physical ∧ (inputs.hardwareTiming ≠ none ∨
      inputs.hardwareTimingEvidenceSha256 ≠ none)))
    (.input "simulation acceptance result does not accept hardware timing")
  let statuses := (resultAssertions inputs.draft).map fun result => verdictStatus result.status
  let status ← (worstStatus statuses false).mapError fun error => .contract (.contract error)
  return { inputs.draft with status := status }

/-- `build_acceptance_result`. The checks of `validate_document` are a parameter. -/
def buildAcceptanceResult (validateDocument : AcceptanceResult → Except SemanticFailure Unit)
    (inputs : ResultInputs) : Except ResultFailure AcceptanceResult := do
  let document ← assembleResult inputs
  (validateDocument document).mapError ResultFailure.contract
  return document

end RoboticsRuntime.Harness
