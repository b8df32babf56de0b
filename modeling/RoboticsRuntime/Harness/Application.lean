import Mathlib
import RoboticsRuntime.Contracts.ExecutionAlignment
import RoboticsRuntime.Harness.Result

/-!
# A live verification

`application.run_verification`: what the snapshots, the clock samples and the metric points of a
measurement become in the acceptance result. Reading files, waiting and the evaluation of the
declared assertions are left out: their outcomes are inputs.
-/

namespace RoboticsRuntime.Harness
open Theory Contracts

/-- `HarnessInputError`, `VerificationError` and what the parts of a verification raise. -/
inductive VerificationFailure where
  | input (message : String)
  | verification (message : String)
  | hardware (failure : HardwareTimingFailure)
  | timing
  | metric (failure : MetricFailure)
  | result (failure : ResultFailure)
  deriving DecidableEq

/-! ## Inputs -/

/-- The parts of an admitted scenario that a live verification reads. The loader makes a physical
target run in hardware real time, and nothing else. -/
structure LiveScenario where
  targetEnvironment : TargetEnvironment
  timeMode : TimeMode
  timePolicy : TimePolicy
  expectedGraph : ExpectedGraph
  forbiddenGraph : ForbiddenGraph
  executionSec : ℚ
  declares : timePolicy.Declares timeMode
  physical_iff : targetEnvironment.physical = true ↔ timeMode = .hardwareRealtime
  executionSec_pos : 0 < executionSec

/-- The parts of a validated runtime manifest that the verdict depends on. -/
structure LiveRuntime where
  workload : WorkloadDocument
  clock : RuntimeClock
  noFallback : workload.fallbackCount = 0

/-- The identities that a live verification selects metric points by. -/
structure RunContext where
  runId : String
  domainId : String
  timeSourceId : String
  metricsEvidenceSha256 : String

/-- `deadline_ns`. -/
def LiveScenario.deadlineNs (py : PyOps) (scenario : LiveScenario) (startedNs : ℤ) : ℤ :=
  startedNs + ⌊py.fl (scenario.executionSec * 1000000000)⌋

/-- What was observed between the start of a measurement and its end, which the loop reaches at the
deadline. `markerPresent` is whether the completion marker is still a file when the result is made. -/
structure Measurement (py : PyOps) (scenario : LiveScenario) where
  startedNs : ℤ
  finishedNs : ℤ
  startedMonotonicNs : ℤ
  finishedMonotonicNs : ℤ
  readinessSnapshots : List GraphSnapshot
  snapshots : List GraphSnapshot
  clockSamples : List ClockSample
  metricPoints : List MetricPoint
  markerPresent : Bool
  started_nonneg : 0 ≤ startedMonotonicNs
  ended : scenario.deadlineNs py startedMonotonicNs ≤ finishedMonotonicNs

/-- The snapshot was taken from the start of the measurement on and before its deadline. -/
def Measurement.InWindow {py : PyOps} {scenario : LiveScenario} (measurement : Measurement py scenario)
    (snapshot : GraphSnapshot) : Prop :=
  measurement.startedMonotonicNs ≤ snapshot.observedAtNs ∧
    snapshot.observedAtNs < scenario.deadlineNs py measurement.startedMonotonicNs

instance {py : PyOps} {scenario : LiveScenario} (measurement : Measurement py scenario)
    (snapshot : GraphSnapshot) : Decidable (measurement.InWindow snapshot) :=
  inferInstanceAs (Decidable (_ ∧ _))

/-! ## Metrics -/

/-- The value of a deadline gauge. -/
def deadlineGauge : MetricPoint → Option ℚ
  | .scalar sample =>
    if sample.instrumentKind = .gauge ∧ sample.name = "robotics.simulation.deadline_miss_ratio" then
      some sample.value
    else none
  | .histogram _ => none

/-- `_maximum_deadline_ratio`. -/
def maximumDeadlineRatio (samples : List MetricPoint) :
    Except VerificationFailure (Option ℚ) := do
  let values := samples.filterMap deadlineGauge
  require (∀ value ∈ values, 0 ≤ value ∧ value ≤ 1)
    (.verification "all deadline gauges must be finite ratios in [0, 1]")
  return values.max?

/-- The factors between consecutive samples. -/
def sampleFactors (samples : List ClockSample) : List ℚ :=
  (pairwise samples).map fun (previous, current) =>
    let wallDelta := current.observedAtNs - previous.observedAtNs
    let sourceDelta := current.sourceTimeNs - previous.sourceTimeNs
    if 0 < wallDelta then (sourceDelta / wallDelta : ℚ) else 0

/-- `_enrich_clock_samples`. -/
def enrichClockSamples (mode : TimeMode) (samples : List ClockSample) (metrics : List MetricPoint) :
    Except VerificationFailure (List ClockSample) :=
  if mode ≠ .simulationRealtime then .ok samples
  else do
    let deadlineRatio ← maximumDeadlineRatio metrics
    let ratios := sampleFactors samples
    return samples.zipIdx.map fun (sample, index) =>
      { sample with
        realTimeFactor := ratios[min index (ratios.length - 1)]?
        deadlineMissRatio := deadlineRatio }

/-! ## Timing -/

/-- The call `ClockMeasurementWindow(...)`, with the default allowance. -/
def clockMeasurementWindow (startNs endNs : ℤ) (deadlineMissRatio : Option ℚ) :
    Except VerificationFailure ClockMeasurementWindow :=
  if h : 0 ≤ startNs ∧ startNs < endNs then
    .ok ⟨startNs, endNs, 250000000, deadlineMissRatio, h.1, h.2, by decide⟩
  else .error (.input "clock measurement requires increasing nonnegative bounds")

/-- `timing` of a hardware clock. -/
def HardwareTimingObservation.timing (observation : HardwareTimingObservation) :
    TimingObservation where
  monotonic := observation.monotonic
  offsetMs := observation.offsetMs
  driftPpm := observation.driftPpm
  realTimeFactor := 0
  deadlineMissRatio := 0
  maxMessageAgeMs := observation.maxSampleAgeMs
  clockHz := 0

/-- The clock of a simulation. -/
def simulationTiming (py : PyOps) (scenario : LiveScenario) (measurement : Measurement py scenario)
    (metrics : List MetricPoint) : Except VerificationFailure TimingEvaluation := do
  let started := measurement.startedMonotonicNs
  let finished := measurement.finishedMonotonicNs
  let raw := measurement.clockSamples.filter fun sample =>
    started ≤ sample.observedAtNs && sample.observedAtNs ≤ finished
  let clockSamples ← enrichClockSamples scenario.timeMode raw metrics
  let deadlineMissRatio ← if scenario.timeMode = .simulationRealtime then
    maximumDeadlineRatio metrics else pure none
  let window ← clockMeasurementWindow started finished deadlineMissRatio
  demand (evaluateTiming py scenario.timeMode scenario.timePolicy clockSamples 1 (some window))
    .timing

/-- What a verification knows about the clock: of a simulation or of hardware. -/
def clockEvaluation (py : PyOps) (pstdev : List ℚ → ℚ) (scenario : LiveScenario)
    (measurement : Measurement py scenario) (metrics : List MetricPoint) :
    Except VerificationFailure (TimingEvaluation ⊕ HardwareTimingObservation) := do
  if scenario.targetEnvironment.physical then
    let points := metrics.filter fun sample => sample.histogram? = none
    let hardware ← (evaluateHardwareTiming pstdev scenario.timePolicy points).mapError
      VerificationFailure.hardware
    return .inr hardware
  else return .inl (← simulationTiming py scenario measurement metrics)

/-- The observation of either clock. -/
def clockTiming : TimingEvaluation ⊕ HardwareTimingObservation → TimingObservation
  | .inl evaluation => evaluation.observation
  | .inr hardware => hardware.timing

/-! ## The verification -/

/-- The call `ExpectedGraphMonitor(...)`. -/
def expectedGraphMonitor (expectedGraph : ExpectedGraph) (startNs endNs : ℤ) :
    Except VerificationFailure ExpectedGraphMonitor :=
  if h : startNs < endNs then .ok ⟨expectedGraph, startNs, endNs, h⟩
  else .error (.input "graph measurement window must have positive duration")

/-- The assertions of a verification: the declared ones, the one about the clock of a simulation and
the one about the expected graph. -/
def verificationAssertions (py : PyOps) (monitor : ExpectedGraphMonitor)
    (snapshots : List GraphSnapshot) (clock : TimingEvaluation ⊕ HardwareTimingObservation)
    (evaluations : List AssertionEvaluation) : List AssertionEvaluation :=
  let failure := match clock with
    | .inl evaluation => evaluation.failure
    | .inr _ => none
  let assertions := evaluations ++ failure.toList
  assertions ++ monitor.assertions py (monitor.run py snapshots) (assertions.map (·.assertionId))

/-- The arguments of `build_acceptance_result` that `run_verification` collects. The index of the
evidence is a finalized one. -/
def verificationInputs (py : PyOps) (pstdev : List ℚ → ℚ) (scenario : LiveScenario)
    (runtime : LiveRuntime) (context : RunContext) (measurement : Measurement py scenario)
    (evaluations : List AssertionEvaluation) : Except VerificationFailure ResultInputs := do
  let started := measurement.startedMonotonicNs
  let monitor ← expectedGraphMonitor scenario.expectedGraph started
    (scenario.deadlineNs py started)
  require (measurement.startedNs ≤ measurement.finishedNs)
    (.verification "measurement wall clock moved backwards")
  let metrics := measurementMetrics measurement.metricPoints measurement.startedNs
    measurement.finishedNs
  let clock ← clockEvaluation py pstdev scenario measurement metrics
  let timeAuthority ← (evaluateTimeAuthority py scenario.timePolicy.toTimeAuthorityPolicy metrics
    context.runId context.domainId context.timeSourceId measurement.startedNs
    measurement.finishedNs).mapError VerificationFailure.metric
  return {
    targetEnvironment := scenario.targetEnvironment
    workload := runtime.workload
    timing := clockTiming clock
    timeAuthority := timeAuthority
    timeAuthorityEvidenceSha256 := some context.metricsEvidenceSha256
    assertions := verificationAssertions py monitor measurement.snapshots clock evaluations
    unevaluated := clock.elim TimingEvaluation.unevaluated fun _ => []
    shutdown := ⟨true, measurement.markerPresent, true⟩
    forbiddenGraph := forbiddenGraphObservation scenario.forbiddenGraph
      (measurement.readinessSnapshots ++ measurement.snapshots)
    hardwareTiming := clock.getRight?
    hardwareTimingEvidenceSha256 := clock.getRight?.map fun _ => context.metricsEvidenceSha256
    evaluationMode := .live }

/-- The metric points that a verification evaluates. -/
def Measurement.metrics {py : PyOps} {scenario : LiveScenario} (measurement : Measurement py scenario) :
    List MetricPoint :=
  measurementMetrics measurement.metricPoints measurement.startedNs measurement.finishedNs

section
variable {py : PyOps} {pstdev : List ℚ → ℚ} {scenario : LiveScenario} {runtime : LiveRuntime}
  {context : RunContext} {measurement : Measurement py scenario}
  {evaluations : List AssertionEvaluation} {inputs : ResultInputs}

theorem expectedGraphMonitor_eq_ok {expectedGraph : ExpectedGraph} {startNs endNs : ℤ}
    {monitor : ExpectedGraphMonitor} :
    expectedGraphMonitor expectedGraph startNs endNs = .ok monitor ↔
      ∃ h : startNs < endNs, ⟨expectedGraph, startNs, endNs, h⟩ = monitor := by
  unfold expectedGraphMonitor
  split
  · next h => exact ⟨fun heq => ⟨h, Except.ok.inj heq⟩, fun ⟨_, heq⟩ => heq ▸ rfl⟩
  · next h => exact iff_of_false (by simp) fun ⟨hlt, _⟩ => h hlt

/-- What a verification collects. -/
theorem verificationInputs_eq_ok :
    verificationInputs py pstdev scenario runtime context measurement evaluations = .ok inputs ↔
      ∃ monitor clock timeAuthority,
        expectedGraphMonitor scenario.expectedGraph measurement.startedMonotonicNs
          (scenario.deadlineNs py measurement.startedMonotonicNs) = .ok monitor ∧
        measurement.startedNs ≤ measurement.finishedNs ∧
        clockEvaluation py pstdev scenario measurement measurement.metrics = .ok clock ∧
        evaluateTimeAuthority py scenario.timePolicy.toTimeAuthorityPolicy measurement.metrics
          context.runId context.domainId context.timeSourceId measurement.startedNs
          measurement.finishedNs = .ok timeAuthority ∧
        inputs = {
          targetEnvironment := scenario.targetEnvironment
          workload := runtime.workload
          timing := clockTiming clock
          timeAuthority := timeAuthority
          timeAuthorityEvidenceSha256 := some context.metricsEvidenceSha256
          assertions := verificationAssertions py monitor measurement.snapshots clock evaluations
          unevaluated := clock.elim TimingEvaluation.unevaluated fun _ => []
          shutdown := ⟨true, measurement.markerPresent, true⟩
          forbiddenGraph := forbiddenGraphObservation scenario.forbiddenGraph
            (measurement.readinessSnapshots ++ measurement.snapshots)
          hardwareTiming := clock.getRight?
          hardwareTimingEvidenceSha256 := clock.getRight?.map fun _ => context.metricsEvidenceSha256
          evaluationMode := .live } := by
  simp only [verificationInputs, bind_eq_ok, require_eq_ok, mapError_eq_ok, exists_and_left]
  refine exists_congr fun monitor => ?_
  constructor
  · rintro ⟨hmonitor, hwall, _, clock, hclock, timeAuthority, htime, h⟩
    exact ⟨hmonitor, hwall, clock, hclock, timeAuthority, htime, (Except.ok.inj h).symm⟩
  · rintro ⟨hmonitor, hwall, clock, hclock, timeAuthority, htime, rfl⟩
    exact ⟨hmonitor, hwall, (), clock, hclock, timeAuthority, htime, rfl⟩

end

end RoboticsRuntime.Harness
