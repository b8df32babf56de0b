import Mathlib.Algebra.BigOperators.Group.List.Basic
import Mathlib.Order.WithBot
import RoboticsRuntime.Python
import RoboticsRuntime.Theory.Loops

/-!
# The real-time factor

`timing.py`: bounds on the worst real-time factor of a recorded clock, and what the policy for
simulations in real time reports about them. Numbers are exact: floats are rationals, and the only
float that is not finite is the upper bound of a window that was not observed. A function is
undefined where Python would raise `IndexError`.
-/

namespace RoboticsRuntime.Harness
open Theory

/-- `ReadinessIssue`. -/
structure ReadinessIssue where
  jsonPath : String
  message : String
  deriving DecidableEq, Repr

/-- `_TimingIssues`. -/
structure TimingIssues where
  violations : List ReadinessIssue
  insufficient : List ReadinessIssue
  deriving DecidableEq, Repr

namespace TimingIssues

/-- `issues.violations.append(ReadinessIssue(...))`. -/
def violation (issues : TimingIssues) (jsonPath message : String) : TimingIssues :=
  { issues with violations := issues.violations ++ [⟨jsonPath, message⟩] }

/-- `issues.insufficient.append(ReadinessIssue(...))`. -/
def insufficiency (issues : TimingIssues) (jsonPath message : String) : TimingIssues :=
  { issues with insufficient := issues.insufficient ++ [⟨jsonPath, message⟩] }

/-- Some violation is at a path. -/
def Violates (issues : TimingIssues) (path : String) : Prop :=
  ∃ issue ∈ issues.violations, issue.jsonPath = path

/-- Something could not be concluded at a path. -/
def Lacks (issues : TimingIssues) (path : String) : Prop :=
  ∃ issue ∈ issues.insufficient, issue.jsonPath = path

variable {issues : TimingIssues} {path message at' : String}

@[simp] theorem violates_violation :
    (issues.violation path message).Violates at' ↔ issues.Violates at' ∨ path = at' := by
  simp [Violates, violation, or_and_right, exists_or]

@[simp] theorem violates_insufficiency :
    (issues.insufficiency path message).Violates at' ↔ issues.Violates at' := Iff.rfl

@[simp] theorem lacks_violation :
    (issues.violation path message).Lacks at' ↔ issues.Lacks at' := Iff.rfl

@[simp] theorem lacks_insufficiency :
    (issues.insufficiency path message).Lacks at' ↔ issues.Lacks at' ∨ path = at' := by
  simp [Lacks, insufficiency, or_and_right, exists_or]

end TimingIssues

/-- `ClockSample`. -/
structure ClockSample where
  observedAtNs : ℤ
  sourceTimeNs : ℤ
  realTimeFactor : Option ℚ
  deadlineMissRatio : Option ℚ
  deriving DecidableEq, Repr

/-- `ClockMeasurementWindow`, with the conditions its `__post_init__` checks. -/
structure ClockMeasurementWindow where
  startNs : ℤ
  endNs : ℤ
  maxSampleGapNs : ℤ
  deadlineMissRatio : Option ℚ
  start_nonneg : 0 ≤ startNs
  start_lt_end : startNs < endNs
  gap_pos : 0 < maxSampleGapNs

/-- The limits of `time_policy` in `simulation_realtime`. -/
structure RealtimePolicy where
  minRealtimeFactor : ℚ
  maxDeadlineMissRatio : ℚ

/-- The length of the window that `_evaluate_timing` passes on. -/
def rtfWindowNs (rtfWindowSec : ℚ) : ℤ := roundHalfEven (rtfWindowSec * 1000000000)

/-! ## Coverage -/

/-- The time between consecutive callbacks. -/
def sampleGaps (samples : List ClockSample) : List ℤ :=
  (samples.zip samples.tail).map fun (a, b) => b.observedAtNs - a.observedAtNs

/-- `_clock_coverage`, of samples from `first` to `last`. -/
def clockCoverage (samples : List ClockSample) (first last : ClockSample)
    (window : ClockMeasurementWindow) (issues : TimingIssues) : Bool × TimingIssues :=
  if first.observedAtNs < window.startNs ∨ window.endNs < last.observedAtNs then
    (false, issues.violation "$.time_policy" "clock samples fall outside measurement bounds")
  else
    let maximum := max (first.observedAtNs - window.startNs)
      (max (window.endNs - last.observedAtNs) ((sampleGaps samples).max?.getD 0))
    if window.maxSampleGapNs < maximum then
      (false, issues.insufficiency "$.time_policy.min_realtime_factor"
        s!"clock coverage gap {maximum} ns exceeds allowance {window.maxSampleGapNs} ns")
    else (true, issues)

/-! ## Bounds -/

/-- The progress of the source between two recorded samples, when they are in order. -/
def recordedProgress (samples : List ClockSample) (left : ℕ) (right : ℤ) : Option ℚ :=
  if right ≤ left then some 0
  else do return (← samples[right.toNat]?).sourceTimeNs - (← samples[left]?).sourceTimeNs

/-- `_interval_realtime_factor`. The samples are in order of observation, so that bisection finds
the first sample from the start on and the last one until the end. -/
def intervalRealtimeFactor (samples : List ClockSample) (startNs endNs : ℤ) : Option ℚ := do
  let first := samples.findIdx fun sample => startNs ≤ sample.observedAtNs
  let last : ℤ := samples.findIdx (fun sample => endNs < sample.observedAtNs) - 1
  return (← recordedProgress samples first last) / (endNs - startNs)

/-- The check of the window that ends at `endNs`, with `right` as its last sample. The state is the
left position and the minimum so far. -/
def lowerCheck (samples : List ClockSample) (window : ClockMeasurementWindow) (windowNs : ℤ)
    (state : ℕ × ℚ) (endNs right : ℤ) : Option (ℕ × ℚ) :=
  let startNs := endNs - windowNs
  if startNs < window.startNs then some state
  else do
    let left ← advance (fun sample => sample.observedAtNs < startNs) samples state.1
    let progress ← recordedProgress samples left right
    return (left, min state.2 (progress / windowNs))

/-- The checks at one sample: just before it, and at it. -/
def lowerStep (samples : List ClockSample) (window : ClockMeasurementWindow) (windowNs : ℤ)
    (state : ℕ × ℚ) : ClockSample × ℕ → Option (ℕ × ℚ)
  | (current, index) => do
    let before ← lowerCheck samples window windowNs state (current.observedAtNs - 1) (index - 1)
    lowerCheck samples window windowNs before current.observedAtNs index

/-- `_measurement_realtime_factor`. -/
def measurementRealtimeFactor (samples : List ClockSample) (window : ClockMeasurementWindow)
    (windowNs : ℤ) : Option ℚ := do
  let whole ← intervalRealtimeFactor samples window.startNs window.endNs
  if window.endNs - window.startNs < windowNs then return max 0 whole
  else
    let first ← intervalRealtimeFactor samples window.startNs (window.startNs + windowNs)
    let last ← intervalRealtimeFactor samples (window.endNs - windowNs) window.endNs
    let (_, minimum) ← samples.zipIdx.foldlM (lowerStep samples window windowNs)
      (0, min whole (min first last))
    return max 0 minimum

/-- The check of the window that ends at one sample. The state is the left position and the upper
bound so far. -/
def upperStep (samples : List ClockSample) (window : ClockMeasurementWindow) (windowNs : ℤ)
    (state : ℕ × WithTop ℚ) : ClockSample × ℕ → Option (ℕ × WithTop ℚ)
  | (current, index) =>
    let startNs := current.observedAtNs - windowNs
    if startNs < window.startNs then some state
    else do
      let left := lookAhead (fun sample => sample.observedAtNs ≤ startNs) samples index state.1
      let previous ← samples[left]?
      if previous.observedAtNs ≤ startNs then
        let factor : ℚ := (current.sourceTimeNs - previous.sourceTimeNs : ℤ) / windowNs
        return (left, min state.2 factor)
      else return (left, state.2)

/-- `_measurement_realtime_factor_upper`. -/
def measurementRealtimeFactorUpper (samples : List ClockSample) (window : ClockMeasurementWindow)
    (windowNs : ℤ) : Option (WithTop ℚ) := do
  let first ← samples.head?
  let last ← samples.getLast?
  let whole : ℚ := (last.sourceTimeNs - first.sourceTimeNs : ℤ) / (window.endNs - window.startNs)
  let upper : WithTop ℚ :=
    if first.observedAtNs = window.startNs ∧ last.observedAtNs = window.endNs then whole else ⊤
  let (_, upper) ← samples.zipIdx.foldlM (upperStep samples window windowNs) (0, upper)
  return max 0 upper

/-- The check of the span that ends at one sample, without measurement bounds. -/
def spanStep (samples : List ClockSample) (windowNs : ℤ) (state : ℕ × ℚ) :
    ClockSample × ℕ → Option (ℕ × ℚ)
  | (current, index) => do
    let boundaryNs := current.observedAtNs - windowNs
    let left := lookAhead (fun sample => sample.observedAtNs ≤ boundaryNs) samples index state.1
    let previous ← samples[left]?
    let durationNs := current.observedAtNs - previous.observedAtNs
    if windowNs ≤ durationNs then
      return (left, min state.2 ((current.sourceTimeNs - previous.sourceTimeNs : ℤ) / durationNs))
    else return (left, state.2)

/-- `_windowed_realtime_factor`. -/
def windowedRealtimeFactor (samples : List ClockSample) (windowNs : ℤ) (issues : TimingIssues)
    (measurementWindow : Option ClockMeasurementWindow) :
    Option ((ℚ × WithTop ℚ) × TimingIssues) :=
  if samples.length < 2 then
    some ((0, ⊤), issues.insufficiency "$.time_policy.min_realtime_factor" "need two clock samples")
  else if ∃ pair ∈ samples.zip samples.tail, pair.2.observedAtNs ≤ pair.1.observedAtNs then
    some ((0, ⊤), issues.violation "$.time_policy" "clock observation times must increase")
  else do
    let first ← samples.head?
    let last ← samples.getLast?
    match measurementWindow with
    | some window =>
      let (covered, issues) := clockCoverage samples first last window issues
      let lower ← if covered then measurementRealtimeFactor samples window windowNs else some 0
      let upper ← measurementRealtimeFactorUpper samples window windowNs
      return ((lower, upper), issues)
    | none =>
      let elapsedNs := last.observedAtNs - first.observedAtNs
      let (_, minimum) ← samples.zipIdx.foldlM (spanStep samples windowNs)
        (0, (last.sourceTimeNs - first.sourceTimeNs : ℤ) / elapsedNs)
      return ((max 0 minimum, (max 0 minimum : ℚ)), issues)

/-! ## Policy -/

/-- `_required_values`, from the values of the attribute. -/
def requiredValues (values : List (Option ℚ)) (attributeName path : String)
    (issues : TimingIssues) : List ℚ × TimingIssues :=
  (values.filterMap id,
    if values = [] ∨ values.any Option.isNone then
      issues.insufficiency path s!"{attributeName} was not observed for every sample"
    else issues)

/-- `deadline_values`: the ratios that the policy limits. -/
def deadlineValues (samples : List ClockSample) (measured : Option ℚ) (issues : TimingIssues) :
    List ℚ × TimingIssues :=
  let (values, issues) := match measured with
    | some ratio => (ratio :: samples.filterMap ClockSample.deadlineMissRatio, issues)
    | none => requiredValues (samples.map ClockSample.deadlineMissRatio) "deadline_miss_ratio"
        "$.time_policy.max_deadline_miss_ratio" issues
  if ∃ value ∈ values, ¬ (0 ≤ value ∧ value ≤ 1) then
    ([], issues.violation "$.time_policy.max_deadline_miss_ratio"
      "all deadline ratios must be finite and in [0, 1]; statistic unavailable")
  else (values, issues)

/-- A bound, as it is printed. -/
def showBound (py : PyOps) : WithTop ℚ → String
  | some bound => py.number bound
  | none => "inf"

/-- The comparison of the bounds with the policy. -/
def reportRealtimeFactor (py : PyOps) (minimum lower : ℚ) (upper : WithTop ℚ)
    (issues : TimingIssues) : TimingIssues :=
  if upper < minimum then
    issues.violation "$.time_policy.min_realtime_factor"
      ("minimum window or integral RTF is at most " ++ showBound py upper ++
        "; recorded lower bound is " ++ py.number lower)
  else if lower < minimum then
    issues.insufficiency "$.time_policy.min_realtime_factor"
      ("RTF bound [" ++ py.number lower ++ ", " ++ showBound py upper ++
        "] does not determine whether the minimum " ++ py.declared minimum ++
        " is met; numeric RTF is a lower bound, not a measured violation")
  else issues

/-- `_evaluate_realtime`. -/
def evaluateRealtime (py : PyOps) (policy : RealtimePolicy) (samples : List ClockSample)
    (issues : TimingIssues) (windowNs : ℤ) (measurementWindow : Option ClockMeasurementWindow) :
    Option ((ℚ × ℚ) × TimingIssues) := do
  let ((lower, upper), issues) ← windowedRealtimeFactor samples windowNs issues measurementWindow
  let (values, issues) :=
    deadlineValues samples (measurementWindow.bind (·.deadlineMissRatio)) issues
  let deadlineMissRatio := values.max?.getD 0
  let issues := reportRealtimeFactor py policy.minRealtimeFactor lower upper issues
  let issues := if policy.maxDeadlineMissRatio < deadlineMissRatio then
    issues.violation "$.time_policy.max_deadline_miss_ratio"
      ("maximum observed value was " ++ py.number deadlineMissRatio) else issues
  return ((lower, deadlineMissRatio), issues)

end RoboticsRuntime.Harness
