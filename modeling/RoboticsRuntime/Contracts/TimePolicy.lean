import Mathlib.Algebra.Order.Ring.Unbundled.Rat
import Mathlib.Order.WithBotTop

/-!
# Time policy

`timePolicy` of `acceptance-scenario-core.v1`, and the part of an acceptance result that is judged
by it.
-/

namespace RoboticsRuntime.Contracts

/-- The time-authority fields of `timePolicy`, with what the schema and
`_validate_acceptance_scenario` demand of them. -/
structure TimeAuthorityPolicy where
  timeAuthorityMinSamples : ℤ
  maxTimeAuthorityDeliveryLatencyP50Ms : ℚ
  maxTimeAuthorityDeliveryLatencyP95Ms : ℚ
  maxTimeAuthorityDeliveryLatencyMs : ℚ
  minSamples : 30 ≤ timeAuthorityMinSamples
  p50_nonneg : 0 ≤ maxTimeAuthorityDeliveryLatencyP50Ms
  p50_le_p95 : maxTimeAuthorityDeliveryLatencyP50Ms ≤ maxTimeAuthorityDeliveryLatencyP95Ms
  p95_le_max : maxTimeAuthorityDeliveryLatencyP95Ms ≤ maxTimeAuthorityDeliveryLatencyMs

/-- `time_mode` of an execution. -/
inductive TimeMode where
  | simulationRealtime
  | simulationStepped
  | playbackClocked
  | hardwareRealtime
  deriving DecidableEq, Repr

/-- The fields of `timePolicy` that the evaluation of a run reads. A field may be declared outside
of its own time mode. -/
structure TimePolicy extends TimeAuthorityPolicy where
  minRealtimeFactor : Option ℚ
  maxDeadlineMissRatio : Option ℚ
  stepSizeSec : Option ℚ
  maxSkippedSteps : Option ℤ
  minClockHz : Option ℚ
  clockSyncProtocol : Option String
  maxClockOffsetMs : Option ℚ
  maxClockDriftPpm : Option ℚ
  maxMessageAgeMs : Option ℚ
  realtimeFactor_pos : ∀ factor ∈ minRealtimeFactor, 0 < factor
  deadlineRatio_nonneg : ∀ ratio ∈ maxDeadlineMissRatio, 0 ≤ ratio
  deadlineRatio_le_one : ∀ ratio ∈ maxDeadlineMissRatio, ratio ≤ 1
  stepSize_pos : ∀ step ∈ stepSizeSec, 0 < step
  skippedSteps_nonneg : ∀ steps ∈ maxSkippedSteps, 0 ≤ steps

/-- The fields that the schema requires in a time mode. -/
def TimePolicy.Declares (policy : TimePolicy) : TimeMode → Prop
  | .simulationRealtime => policy.minRealtimeFactor.isSome ∧ policy.maxDeadlineMissRatio.isSome
  | .simulationStepped => policy.stepSizeSec.isSome ∧ policy.maxSkippedSteps.isSome
  | .playbackClocked => policy.minClockHz.isSome
  | .hardwareRealtime => policy.clockSyncProtocol.isSome ∧ policy.maxClockOffsetMs.isSome ∧
      policy.maxClockDriftPpm.isSome ∧ policy.maxMessageAgeMs.isSome

/-- `time_authority_observation` of an acceptance result. A latency is a float. -/
structure TimeAuthorityDocument where
  sourceId : String
  sampleCount : ℤ
  windowStartNs : ℤ
  windowEndNs : ℤ
  p50DeliveryLatencyMs : WithBotTop ℚ
  p95DeliveryLatencyMs : WithBotTop ℚ
  maxDeliveryLatencyMs : WithBotTop ℚ
  withinPolicy : Bool
  evidenceSha256 : Option String

/-- `within_policy` as `_validate_execution_alignment` computes it from the document. -/
def timeAuthorityWithinPolicy (policy : TimeAuthorityPolicy) (observation : TimeAuthorityDocument) :
    Bool :=
  policy.timeAuthorityMinSamples ≤ observation.sampleCount &&
    observation.p50DeliveryLatencyMs ≤ (policy.maxTimeAuthorityDeliveryLatencyP50Ms : WithBotTop ℚ) &&
    observation.p95DeliveryLatencyMs ≤ (policy.maxTimeAuthorityDeliveryLatencyP95Ms : WithBotTop ℚ) &&
    observation.maxDeliveryLatencyMs ≤ (policy.maxTimeAuthorityDeliveryLatencyMs : WithBotTop ℚ)

end RoboticsRuntime.Contracts
