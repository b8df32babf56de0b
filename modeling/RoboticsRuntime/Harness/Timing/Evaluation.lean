import RoboticsRuntime.Contracts.TimePolicy
import RoboticsRuntime.Harness.Assertions
import RoboticsRuntime.Harness.Timing.Stepped

/-!
# The clock of a simulation

`timing.py`: what the clock samples of a run say about the time policy of its mode. An evaluation is
undefined where Python would raise `IndexError`, `KeyError`, `ArithmeticError` or
`HarnessInputError`.
-/

namespace RoboticsRuntime.Harness
open Theory Contracts

/-- `TimingObservation`. -/
structure TimingObservation where
  monotonic : Bool
  offsetMs : ℚ
  driftPpm : ℚ
  realTimeFactor : ℚ
  deadlineMissRatio : ℚ
  maxMessageAgeMs : ℚ
  clockHz : ℚ
  deriving DecidableEq, Repr

/-- `_TimingEvaluation`. -/
structure TimingEvaluation where
  observation : TimingObservation
  violations : List ReadinessIssue
  insufficient : List ReadinessIssue

namespace TimingEvaluation
variable (evaluation : TimingEvaluation)

/-- `issues`. -/
def issues : List ReadinessIssue := evaluation.violations ++ evaluation.insufficient

/-- The field of the result that an issue leaves open. -/
def unevaluatedField (jsonPath : String) : String :=
  if jsonPath = "$.time_policy.min_realtime_factor" then "$.clock_observation.real_time_factor"
  else if jsonPath = "$.time_policy.max_deadline_miss_ratio" then
    "$.clock_observation.deadline_miss_ratio"
  else jsonPath

/-- `unevaluated`, before it is sorted. -/
def unevaluated : List String :=
  (evaluation.insufficient.map fun issue => unevaluatedField issue.jsonPath).dedup

/-- `f"{issue.json_path}: {issue.message}"`. -/
def issueText (issue : ReadinessIssue) : String := issue.jsonPath ++ ": " ++ issue.message

/-- `message`. -/
def message : String := "; ".intercalate (evaluation.issues.map issueText)

end TimingEvaluation

/-! ## Progress -/

/-- The source clock never moves backwards between the samples. -/
def isMonotonic (samples : List ClockSample) : Bool :=
  samples ≠ [] && (pairwise samples).all fun (previous, current) =>
    previous.sourceTimeNs ≤ current.sourceTimeNs

/-- The frequency with which the source clock changed. -/
def clockFrequency (samples : List ClockSample) : ℚ :=
  match samples.head?, samples.getLast? with
  | some first, some last =>
    let elapsedNs := last.observedAtNs - first.observedAtNs
    let transitions := (pairwise samples).countP fun (previous, current) =>
      current.sourceTimeNs ≠ previous.sourceTimeNs
    if 0 < elapsedNs then (transitions * 1000000000 : ℚ) / elapsedNs else 0
  | _, _ => 0

/-- `_clock_progress`. -/
def clockProgress (samples : List ClockSample) (issues : TimingIssues) :
    (Bool × ℚ) × TimingIssues :=
  ((isMonotonic samples, clockFrequency samples),
    if samples = [] then
      issues.insufficiency "$.clock_observation.monotonic"
        "no clock samples; monotonicity unavailable"
    else issues)

/-! ## Played-back clocks -/

/-- The mode `playback_clocked`. -/
def evaluatePlayback (py : PyOps) (policy : TimePolicy) (samples : List ClockSample) (clockHz : ℚ)
    (issues : TimingIssues) : Option TimingIssues := do
  let minClockHz ← policy.minClockHz
  let issues := if clockHz < minClockHz then
    issues.violation "$.time_policy.min_clock_hz"
      ("observed clock frequency was " ++ py.number clockHz) else issues
  return if standsStill samples then
    issues.violation "$.time_policy" "playback clock did not advance" else issues

/-! ## Evaluation -/

/-- The part of the evaluation that depends on the mode: the real-time factor, the ratio of missed
deadlines and the issues. -/
def evaluateMode (py : PyOps) (mode : TimeMode) (policy : TimePolicy) (samples : List ClockSample)
    (clockHz rtfWindowSec : ℚ) (measurementWindow : Option ClockMeasurementWindow)
    (issues : TimingIssues) : Option ((ℚ × ℚ) × TimingIssues) :=
  match mode with
  | .simulationRealtime => do
    let realtime : RealtimePolicy := ⟨← policy.minRealtimeFactor, ← policy.maxDeadlineMissRatio⟩
    evaluateRealtime py realtime samples issues (rtfWindowNs rtfWindowSec) measurementWindow
  | .playbackClocked => do
    return ((0, 0), ← evaluatePlayback py policy samples clockHz issues)
  | .simulationStepped => do
    let stepped := evaluateStepped py (← policy.stepSizeSec) (← policy.maxSkippedSteps) samples issues
    return ((0, 0), ← stepped.toOption)
  | .hardwareRealtime => some ((0, 0), issues)

/-- `_evaluate_timing`. -/
def evaluateTiming (py : PyOps) (mode : TimeMode) (policy : TimePolicy)
    (samples : List ClockSample) (rtfWindowSec : ℚ)
    (measurementWindow : Option ClockMeasurementWindow) : Option TimingEvaluation :=
  if rtfWindowSec < 1 then none
  else if samples = [] ∧ mode ≠ .simulationRealtime then
    some ⟨⟨false, 0, 0, 0, 0, 0, 0⟩, [⟨"$.time_policy", "no clock samples"⟩], []⟩
  else do
    let ((monotonic, clockHz), issues) := clockProgress samples ⟨[], []⟩
    let issues := if samples ≠ [] ∧ ¬ monotonic then
      issues.violation "$.time_policy" "source clock moved backwards" else issues
    let ((realTimeFactor, deadlineMissRatio), issues) ← evaluateMode py mode policy samples clockHz
      rtfWindowSec measurementWindow issues
    return ⟨⟨monotonic, 0, 0, realTimeFactor, deadlineMissRatio, 0, clockHz⟩, issues.violations,
      issues.insufficient⟩

/-- The assertion `time-policy` of an evaluation that has issues. -/
def TimingEvaluation.failure (evaluation : TimingEvaluation) : Option AssertionEvaluation :=
  if evaluation.issues = [] then none
  else some
    { assertionId := "time-policy"
      status := if evaluation.violations ≠ [] then .failed else .skipped
      observedValue := none
      unit := "1"
      message := evaluation.message }

end RoboticsRuntime.Harness
