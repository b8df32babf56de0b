import RoboticsRuntime.Contracts.Status
import RoboticsRuntime.Contracts.TimePolicy
import RoboticsRuntime.Contracts.Transport
import RoboticsRuntime.Python
import RoboticsRuntime.Theory.Checks

/-!
# The acceptance result of a run

`acceptance-result.v1`: the parts of the document that its verdict is made of, their schema, and
what `semantics._validate_result` demands of the verdict.
-/

namespace RoboticsRuntime.Contracts
open Theory

/-! ## Assertion results -/

/-- `status` of an assertion result. -/
inductive AssertionStatus where
  | passed
  | failed
  | error
  | skipped
  deriving DecidableEq, Repr

/-- The status as an outcome. -/
def AssertionStatus.outcome : AssertionStatus → OutcomeStatus
  | passed => .passed
  | failed => .failed
  | error => .error
  | skipped => .skipped

/-- `observed_value` of an assertion result, when it is not null. A document tells `-0.0`, which
no rational stands for, from `0.0`. -/
inductive ObservedValue where
  | float (value : ℚ)
  | negativeZero
  | int (value : ℤ)
  | str (value : String)
  | bool (value : Bool)
  deriving DecidableEq, Repr

/-- `source` of an assertion result. -/
inductive AssertionSource where
  | core
  | product
  deriving DecidableEq, Repr

/-- `assertionResult`. -/
structure AssertionResult where
  assertionId : String
  source : AssertionSource
  status : AssertionStatus
  observedValue : Option ObservedValue
  unit : String
  message : Option String
  nameSpace : Option String
  evidenceSha256 : Option (List String)
  deriving DecidableEq, Repr

/-! ## Observations -/

/-- `clock_observation`. -/
structure ClockDocument where
  monotonic : Bool
  offsetMs : ℚ
  driftPpm : ℚ
  realTimeFactor : ℚ
  deadlineMissRatio : ℚ
  deriving DecidableEq, Repr

/-- `hardware_clock_observation`. -/
structure HardwareClockDocument where
  syncProtocol : String
  source : String
  measuredAt : Timestamp
  sampleCount : ℤ
  offsetMs : ℚ
  jitterMs : ℚ
  driftPpm : ℚ
  maxSampleAgeMs : ℚ
  withinPolicy : Bool
  evidenceSha256 : String
  deriving DecidableEq, Repr

/-- `forbidden_graph_observation`, with its violations as pairs of a kind and a name. -/
structure ForbiddenGraphDocument where
  passed : Bool
  checkedTopics : List String
  checkedServices : List String
  checkedActions : List String
  violations : List (String × String)
  deriving DecidableEq, Repr

/-- `shutdown`. -/
structure ShutdownDocument where
  observerDetached : Bool
  recordersClosed : Bool
  evidenceIndexFinalized : Bool
  deriving DecidableEq, Repr

/-- `workload`. -/
inductive WorkloadDocument where
  | none
  | inference (runtimeFamily actualProvider modelFormat : String) (fallbackCount : ℤ)
  deriving DecidableEq, Repr

/-- `fallback_count`, when the workload is an inference. -/
def WorkloadDocument.fallbackCount : WorkloadDocument → ℤ
  | none => 0
  | inference _ _ _ fallbackCount => fallbackCount

/-- `target_environment` of an execution. -/
inductive TargetEnvironment where
  | simulation
  | hil
  | realRobot
  deriving DecidableEq, Repr

/-- `target_environment in {"hil", "real_robot"}`. -/
def TargetEnvironment.physical : TargetEnvironment → Bool
  | simulation => false
  | hil => true
  | realRobot => true

/-- `evaluation_mode`. -/
inductive EvaluationMode where
  | live
  | offline
  deriving DecidableEq, Repr

/-- The parts of `acceptance-result.v1` that its verdict is made of. -/
structure AcceptanceResult where
  status : OutcomeStatus
  evaluationMode : EvaluationMode
  unevaluated : List String
  assertionResults : List AssertionResult
  forbiddenGraphObservation : ForbiddenGraphDocument
  targetEnvironment : TargetEnvironment
  workload : WorkloadDocument
  clockObservation : ClockDocument
  hardwareClockObservation : Option HardwareClockDocument
  timeAuthorityObservation : TimeAuthorityDocument
  shutdown : ShutdownDocument

/-! ## Schema -/

/-- The bound of the schema on the message of an assertion result. -/
def AssertionResult.MessageFits (result : AssertionResult) : Prop :=
  ∀ message ∈ result.message, message.length ≤ 4096

instance (result : AssertionResult) : Decidable result.MessageFits :=
  inferInstanceAs (Decidable (∀ message ∈ result.message, message.length ≤ 4096))

/-- The ranges of the schema in `clock_observation`. -/
structure ClockDocument.InRange (clock : ClockDocument) : Prop where
  realTimeFactor_nonneg : 0 ≤ clock.realTimeFactor
  deadlineMissRatio_nonneg : 0 ≤ clock.deadlineMissRatio
  deadlineMissRatio_le_one : clock.deadlineMissRatio ≤ 1

instance (clock : ClockDocument) : Decidable clock.InRange :=
  decidable_of_iff (0 ≤ clock.realTimeFactor ∧ 0 ≤ clock.deadlineMissRatio ∧
    clock.deadlineMissRatio ≤ 1) ⟨fun ⟨a, b, c⟩ => ⟨a, b, c⟩, fun ⟨a, b, c⟩ => ⟨a, b, c⟩⟩

/-- `ContractValidationError` at a path. Its text is that of the schema engine. -/
def schemaError (jsonPath : String) : SemanticFailure :=
  .contract { message := jsonPath, errorId := "schema.validation_failed", jsonPath := some jsonPath }

/-- The constraints of the schema on a result with the status `passed`. -/
def checkPassedConstraints (document : AcceptanceResult) : Except SemanticFailure Unit := do
  require (document.assertionResults ≠ []) (schemaError "$.assertion_results")
  require (document.unevaluated = []) (schemaError "$.unevaluated")
  require (∀ result ∈ document.assertionResults, result.status = .passed)
    (schemaError "$.assertion_results")
  require (document.forbiddenGraphObservation.passed = true ∧
      document.forbiddenGraphObservation.violations = [])
    (schemaError "$.forbidden_graph_observation")
  require (1 ≤ document.timeAuthorityObservation.sampleCount ∧
      document.timeAuthorityObservation.evidenceSha256 ≠ none)
    (schemaError "$.time_authority_observation")

/-- The schema of the parts of a result. -/
def checkResultSchema (document : AcceptanceResult) : Except SemanticFailure Unit := do
  require (∀ result ∈ document.assertionResults, result.MessageFits)
    (schemaError "$.assertion_results")
  require document.clockObservation.InRange (schemaError "$.clock_observation")
  if document.status = .passed then checkPassedConstraints document
  require (document.status = .incomplete → document.unevaluated ≠ []) (schemaError "$.unevaluated")

/-- `hardware_clock_within_policy`. A policy of hardware in real time declares every limit. -/
def hardwareClockWithinPolicy (policy : TimePolicy) (sampleCount : ℤ)
    (offsetMs driftPpm maxSampleAgeMs : ℚ) (monotonic : Bool) : Bool :=
  monotonic && policy.timeAuthorityMinSamples ≤ sampleCount &&
    policy.maxClockOffsetMs.any (|offsetMs| ≤ ·) && policy.maxClockDriftPpm.any (|driftPpm| ≤ ·) &&
    policy.maxMessageAgeMs.any (maxSampleAgeMs ≤ ·)

/-- The checks of `_validate_result` that a result with the status `passed` has to pass. -/
def validatePassed (document : AcceptanceResult) : Except SemanticFailure Unit := do
  let schemaName := "acceptance-result.v1"
  require (document.workload.fallbackCount = 0)
    (.semantic schemaName "$.workload.fallback_count" "passed result cannot include fallback")
  require (document.clockObservation.monotonic = true)
    (.semantic schemaName "$.clock_observation.monotonic" "passed result requires monotonic time")
  require (document.shutdown = ⟨true, true, true⟩)
    (.semantic schemaName "$.shutdown" "passed result requires finalized evidence and shutdown")
  require (document.targetEnvironment.physical = true →
      document.hardwareClockObservation.any (·.withinPolicy) = true)
    (.semantic schemaName "$.hardware_clock_observation.within_policy"
      "passed physical result requires hardware timing within policy")
  require (document.timeAuthorityObservation.withinPolicy = true)
    (.semantic schemaName "$.time_authority_observation.within_policy"
      "passed result requires time-authority evidence within policy")

/-- `required_unevaluated` of an offline evaluation. -/
def requiredUnevaluated : Finset String :=
  {"$.clock_observation", "$.forbidden_graph_observation", "$.observed_ros_graph", "$.shutdown"}

/-- The checks of `_validate_result` on the status. -/
def validateResultStatus (document : AcceptanceResult) : Except SemanticFailure Unit := do
  let schemaName := "acceptance-result.v1"
  let statuses := document.assertionResults.map (·.status.outcome)
  if document.assertionResults ≠ [] then
    let worst ← (worstStatus (document.status :: statuses) false).mapError SemanticFailure.contract
    require (worst = document.status)
      (.semantic schemaName "$.status" "must not be less severe than an assertion result")
  require (¬ (document.assertionResults.any (·.status = .skipped) ∧ document.status = .passed))
    (.semantic schemaName "$.status" "skipped assertions require an incomplete or worse verdict")
  if document.evaluationMode = .offline then
    let missing := requiredUnevaluated \ document.unevaluated.toFinset
    require (missing = ∅)
      (.semantic schemaName "$.unevaluated"
        ("offline evaluation must declare " ++ sortedRepr missing))
    require (document.status ≠ .passed)
      (.semantic schemaName "$.status" "offline evaluation cannot claim a complete passed verdict")
  if document.status = .passed then validatePassed document

theorem validatePassed_eq_ok {document : AcceptanceResult} :
    validatePassed document = .ok () ↔
      document.workload.fallbackCount = 0 ∧ document.clockObservation.monotonic = true ∧
      document.shutdown = ⟨true, true, true⟩ ∧
      (document.targetEnvironment.physical = true →
        document.hardwareClockObservation.any (·.withinPolicy) = true) ∧
      document.timeAuthorityObservation.withinPolicy = true := by
  simp only [validatePassed, seq_eq_ok, require_eq_ok]

/-- The text of the check on the order of the latencies. -/
def latencyOrderError : SemanticFailure :=
  .semantic "acceptance-result.v1" "$.time_authority_observation"
    "delivery-latency statistics must satisfy p50 <= p95 <= max"

/-- The checks of `_validate_result` on the time-authority observation. -/
def validateTimeAuthorityObservation (evidenceDigests : List String)
    (observation : TimeAuthorityDocument) : Except SemanticFailure Unit := do
  let schemaName := "acceptance-result.v1"
  require (observation.windowStartNs ≤ observation.windowEndNs)
    (.semantic schemaName "$.time_authority_observation.window_end_ns"
      "must not be earlier than window_start_ns")
  require (observation.p50DeliveryLatencyMs ≤ observation.p95DeliveryLatencyMs ∧
      observation.p95DeliveryLatencyMs ≤ observation.maxDeliveryLatencyMs) latencyOrderError
  require (∀ digest ∈ observation.evidenceSha256, digest ∈ evidenceDigests)
    (.semantic schemaName "$.time_authority_observation.evidence_sha256"
      "must identify an item listed in evidence")

/-- `validate_document` of an acceptance result. The checks of the fields that are not modelled are
a parameter. -/
def validateDocument (remaining : AcceptanceResult → Except SemanticFailure Unit)
    (document : AcceptanceResult) : Except SemanticFailure Unit := do
  checkResultSchema document
  remaining document
  validateResultStatus document

end RoboticsRuntime.Contracts
