import RoboticsRuntime.Harness.Timing.Realtime
import RoboticsRuntime.Python.Floats
import RoboticsRuntime.Theory.Checks

/-!
# Stepped clocks

`timing.py`: the mode `simulation_stepped`. The step size is rounded to nanoseconds, and a change of
the source time is divided by it, so that an evaluation may raise an arithmetic error.
-/

namespace RoboticsRuntime.Harness
open Theory

/-- `ArithmeticError`. -/
inductive ArithmeticError where
  | zeroDivision
  | overflow (error : OverflowError)
  deriving DecidableEq, Repr

/-! ## Steps -/

/-- `pairwise`. -/
def pairwise (samples : List ClockSample) : List (ClockSample × ClockSample) :=
  samples.zip samples.tail

/-- `deltas`: the steps of the source clock. -/
def stepDeltas (samples : List ClockSample) : List ℤ :=
  let transitions := (pairwise samples).filter fun (previous, current) =>
    current.sourceTimeNs ≠ previous.sourceTimeNs
  (pairwise (samples.head?.toList ++ transitions.map (·.2))).map fun (previous, current) =>
    current.sourceTimeNs - previous.sourceTimeNs

/-- `last.source_time_ns <= first.source_time_ns`. -/
def standsStill (samples : List ClockSample) : Bool :=
  match samples.head?, samples.getLast? with
  | some first, some last => last.sourceTimeNs ≤ first.sourceTimeNs
  | _, _ => true

/-- `step_ns`. -/
def stepNanoseconds (py : PyOps) (stepSizeSec : ℚ) : Except OverflowError ℤ := do
  let seconds ← numberToFloat py.fl stepSizeSec
  let product ← toFloat py.fl "cannot convert float infinity to integer" (seconds * 1000000000)
  return roundHalfEven product

/-- `delta / step_ns`. -/
def stepQuotient (py : PyOps) (delta stepNs : ℤ) : Except ArithmeticError ℚ :=
  if stepNs = 0 then .error .zeroDivision
  else (toFloat py.fl "integer division result too large for a float" (delta / stepNs)).mapError
    .overflow

/-- The violations of a positive step that is counted as some steps. -/
def countedViolations (stepNs maxSkippedSteps delta observedSteps : ℤ) (index : ℕ) :
    List ReadinessIssue :=
  let residualNs := |delta - observedSteps * stepNs|
  let skippedSteps := observedSteps - 1
  (if 1 < residualNs then
    [⟨"$.time_policy.step_size_sec",
      s!"sample {index + 1} delta {delta} ns is not a step multiple"⟩] else []) ++
  (if maxSkippedSteps < skippedSteps then
    [⟨"$.time_policy.max_skipped_steps", s!"sample {index + 1} skipped {skippedSteps} steps"⟩]
    else [])

/-- The violations of one step of the clock. -/
def checkStep (py : PyOps) (stepNs maxSkippedSteps : ℤ) (step : ℤ × ℕ) :
    Except ArithmeticError (List ReadinessIssue) :=
  if step.1 ≤ 0 then
    .ok [⟨"$.time_policy.step_size_sec",
      s!"sample {step.2 + 1} did not advance by a positive step"⟩]
  else do
    let observedSteps := max 1 (roundHalfEven (← stepQuotient py step.1 stepNs))
    return countedViolations stepNs maxSkippedSteps step.1 observedSteps step.2

/-- The mode `simulation_stepped`. -/
def evaluateStepped (py : PyOps) (stepSizeSec : ℚ) (maxSkippedSteps : ℤ) (samples : List ClockSample)
    (issues : TimingIssues) : Except ArithmeticError TimingIssues := do
  let stepNs ← (stepNanoseconds py stepSizeSec).mapError .overflow
  let deltas := stepDeltas samples
  let issues := if deltas = [] || standsStill samples then
    issues.violation "$.time_policy" "stepped clock did not advance" else issues
  let steps ← deltas.zipIdx.mapM (checkStep py stepNs maxSkippedSteps)
  return { issues with violations := issues.violations ++ steps.flatten }

end RoboticsRuntime.Harness
