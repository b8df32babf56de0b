import RoboticsRuntime.Harness.Assertions
import RoboticsRuntime.Harness.Metrics.Counters
import RoboticsRuntime.Harness.Metrics.HistogramEstimates
import RoboticsRuntime.Harness.Metrics.Histograms
import RoboticsRuntime.Theory.Ranking

/-!
# Metric assertions

`metrics.py`: the evaluation of the metric assertions of a scenario over the samples of a run. An
assertion selects the points of its metric, and compares a statistic of them, or the longest
contiguous time in which they satisfy a comparison, with its threshold. Interpolated percentiles are
exact.
-/

namespace RoboticsRuntime.Harness
open Theory Contracts

/-! ## Assertions -/

/-- `kind` of a duration requirement. -/
inductive DurationKind where
  | minimumContiguous
  | maximumViolation
  deriving DecidableEq, Repr

/-- `duration_requirement`. -/
structure DurationRequirement where
  kind : DurationKind
  durationSec : ℚ
  deriving DecidableEq, Repr

/-- What a metric assertion is about: a statistic, or contiguous durations. -/
inductive MetricPredicate where
  | metric (aggregation : Aggregation)
  | metricDuration (maxSampleGapSec : ℚ) (requirement : DurationRequirement)
  deriving DecidableEq, Repr

/-- An entry of `assertions` of a scenario. -/
structure MetricAssertion where
  assertionId : String
  metricName : String
  unit : String
  operator : Operator
  threshold : ℚ
  windowSec : ℚ
  attributeMatch : SeriesKey
  predicate : MetricPredicate
  deriving DecidableEq

/-- The texts of messages that the model leaves open: `format(seconds, ".6g")`. -/
structure MetricTexts extends PyOps where
  sixDigits : ℚ → String

namespace Operator

/-- The name of an operator in a document. -/
def text : Operator → String
  | lt => "lt"
  | lte => "lte"
  | gt => "gt"
  | gte => "gte"
  | eq => "eq"

/-- `_compare`. -/
def compare : Operator → ℚ → ℚ → Bool
  | lt, observed, threshold => observed < threshold
  | lte, observed, threshold => observed ≤ threshold
  | gt, observed, threshold => threshold < observed
  | gte, observed, threshold => threshold ≤ observed
  | eq, observed, threshold => observed = threshold

end Operator

/-- The name of an aggregation in a document. -/
def Aggregation.text : Aggregation → String
  | min => "min"
  | max => "max"
  | mean => "mean"
  | count => "count"
  | p50 => "p50"
  | p95 => "p95"
  | p99 => "p99"

/-- The name of a kind in a document. -/
def DurationKind.text : DurationKind → String
  | minimumContiguous => "minimum_contiguous"
  | maximumViolation => "maximum_violation"

/-- `int(float(seconds) * 1_000_000_000)`. -/
def nanoseconds (seconds : ℚ) : Except OverflowError ℤ := do
  toNanoseconds double (← numberToFloat double seconds)

/-- A value of an attribute, as it is printed. -/
def MetricAttribute.show (py : PyOps) : MetricAttribute → String
  | str value => py.text value
  | bool value => if value then "True" else "False"
  | int value => toString value
  | float value => py.number value

/-- A mapping of attributes, as it is printed. -/
def showAttributes (py : PyOps) (attributes : SeriesKey) : String :=
  "\x7b" ++ ", ".intercalate (attributes.map fun item =>
    py.text (ofLex item).1 ++ ": " ++ (ofLex item).2.show py) ++ "\x7d"

/-! ## Statistics of scalar points -/

/-- `percentile`. -/
def percentile (values : List ℚ) (quantile : ℚ) : ℚ :=
  let ordered := sortBy id values
  let position := (ordered.length - 1 : ℚ) * quantile
  let lower := ⌊position⌋.toNat
  let upper := ⌈position⌉.toNat
  if ordered.length = 1 then ordered.getD 0 0
  else if lower = upper then ordered.getD lower 0
  else ordered.getD lower 0 + (ordered.getD upper 0 - ordered.getD lower 0) * (position - lower)

/-- `_aggregate`, of at least one value; the mean is the one that `fmean` rounds. -/
def aggregate (aggregation : Aggregation) (values : List ℚ) : ℚ :=
  match aggregation with
  | .min => values.min?.getD 0
  | .max => values.max?.getD 0
  | .mean => values.sum / values.length
  | .p50 => percentile values (1 / 2)
  | .p95 => percentile values (19 / 20)
  | .p99 => percentile values (99 / 100)
  | .count => values.length

namespace MetricPoint

/-- The points that are scalars. -/
def scalar? : MetricPoint → Option MetricSample
  | scalar sample => some sample
  | histogram _ => none

/-- The points that are gauges. -/
def gauge? : MetricPoint → Option MetricSample
  | scalar sample => if sample.instrumentKind = .gauge then some sample else none
  | histogram _ => none

end MetricPoint

/-- `aggregate_metric_points` of scalar points. -/
def aggregateScalars (scalars : List MetricSample) (aggregation : Aggregation) (window : Window) :
    Except MetricFailure ℚ := do
  let inWindow := scalars.filter fun sample =>
    window.startNs ≤ sample.observedAtNs ∧ sample.observedAtNs ≤ window.endNs
  require (inWindow ≠ []) (.aggregation "no scalar samples in evaluation window")
  require (∀ sample ∈ inWindow, ∀ other ∈ inWindow, sample.instrumentKind = other.instrumentKind)
    (.aggregation "mixed scalar metric instrument kinds")
  require (∀ sample ∈ inWindow, sample.instrumentKind ≠ .sum)
    (.aggregation ("OTLP Sum cannot use generic scalar aggregation; " ++
      "evaluate its temporality-aware counter delta instead"))
  let values := inWindow.map (·.value)
  if aggregation = .mean then (fmean values).mapError .overflow
  else return aggregate aggregation values

/-- `histogram_statistic`: a mean is the quotient of two floats. -/
def floatStatistic (histogram : HistogramSample) (aggregation : Aggregation) :
    Except MetricFailure Estimate := do
  let estimate ← histogramStatistic histogram aggregation false
  if aggregation = .mean then
    let count ← (numberToFloat double histogram.count).mapError .overflow
    Estimate.exact (double (histogram.sum.getD 0 / count))
  else return estimate

/-- The value of an estimate of one value. -/
def exactValue (py : PyOps) (aggregation : Aggregation) (estimate : Estimate) :
    Except MetricFailure ℚ :=
  let bounded : MetricFailure :=
    .insufficient (aggregation.text ++ " is only bounded by " ++ estimate.describe py)
  match estimate.lower with
  | ⊥ => .error bounded
  | ⊤ => .error bounded
  | (lower : ℚ) => do
    require (estimate.upper = lower) bounded
    return lower

/-- `aggregate_metric_points`. -/
def aggregateMetricPoints (py : PyOps) (samples : List MetricPoint) (aggregation : Aggregation)
    (window : Window) : Except MetricFailure ℚ := do
  require (samples ≠ []) (.aggregation "no metric samples")
  if ∀ sample ∈ samples, sample.scalar?.isSome then
    aggregateScalars (samples.filterMap MetricPoint.scalar?) aggregation window
  else
    require (∀ sample ∈ samples, sample.histogram?.isSome)
      (.aggregation "mixed scalar and histogram points")
    let merged ← histogramWindowAggregate (samples.filterMap MetricPoint.histogram?) window
    let estimate ← floatStatistic merged aggregation
    exactValue py aggregation estimate

/-! ## Durations -/

/-- `coverage_gaps`: the times without a sample that are longer than the greatest gap. -/
def coverageGaps (timestamps : List ℤ) (maxGapNs : ℤ) (window : Window) : List ℤ :=
  (timestamps.head?.toList.map (· - window.startNs) ++
    (timestamps.zip timestamps.tail).map (fun pair : ℤ × ℤ => pair.2 - pair.1) ++
    timestamps.getLast?.toList.map (window.endNs - ·)).filter (maxGapNs < ·)

/-- The check that there are no gaps. -/
def requireNoGaps (texts : MetricTexts) (gaps : List ℤ) : Except MetricFailure Unit :=
  match gaps.max? with
  | none => .ok ()
  | some longest => do
    let seconds ← (toSeconds double longest).mapError .overflow
    .error (.aggregation ("duration predicate has an uncovered sample gap of " ++
      texts.sixDigits seconds ++ "s"))

/-- The gauges of a duration predicate, in order of time: one series without long gaps. -/
def durationGauges (texts : MetricTexts) (maxSampleGapSec : ℚ) (samples : List MetricPoint)
    (window : Window) : Except MetricFailure (List MetricSample) := do
  let gauges := sortBy (fun sample : MetricSample => sample.observedAtNs)
    (samples.filterMap MetricPoint.gauge?)
  require (gauges.length = samples.length)
    (.aggregation "duration predicates require gauge samples")
  require ((gauges.map (·.attributes)).dedup.length = 1)
    (.aggregation ("duration predicate requires exactly one attribute series; " ++
      "narrow attribute_match"))
  let maxGapNs ← (nanoseconds maxSampleGapSec).mapError .overflow
  requireNoGaps texts (coverageGaps (gauges.map (·.observedAtNs)) maxGapNs window)
  return gauges

/-- `current_value`, `current_duration_ns`, `longest_true_ns` and `longest_false_ns`. -/
structure DurationState where
  currentValue : Option Bool := none
  currentDurationNs : ℤ := 0
  longestTrueNs : ℤ := 0
  longestFalseNs : ℤ := 0
  deriving DecidableEq, Repr

/-- `segment_end - segment_start`, where the segment is the time from a sample to the next. -/
def segmentNs (window : Window) (sample : MetricSample) (following : Option MetricSample) : ℤ :=
  (following.map fun next => min next.observedAtNs window.endNs).getD window.endNs -
    max sample.observedAtNs window.startNs

/-- One segment of the scan, of a positive length. -/
def DurationState.extend (state : DurationState) (lengthNs : ℤ) (value : Bool) : DurationState :=
  let currentDurationNs :=
    (if state.currentValue = some value then state.currentDurationNs else 0) + lengthNs
  if value then
    { state with
      currentValue := some value, currentDurationNs := currentDurationNs
      longestTrueNs := max state.longestTrueNs currentDurationNs }
  else
    { state with
      currentValue := some value, currentDurationNs := currentDurationNs
      longestFalseNs := max state.longestFalseNs currentDurationNs }

/-- The scan of the gauges, in order of time. -/
def durationScan (window : Window) (holds : MetricSample → Bool) :
    DurationState → List MetricSample → DurationState
  | state, [] => state
  | state, sample :: rest =>
    if segmentNs window sample rest.head? ≤ 0 then durationScan window holds state rest
    else durationScan window holds
      (state.extend (segmentNs window sample rest.head?) (holds sample)) rest

/-- The time that a requirement is about. -/
def DurationState.observedNs (state : DurationState) : DurationKind → ℤ
  | .minimumContiguous => state.longestTrueNs
  | .maximumViolation => state.longestFalseNs

/-- Whether a time satisfies a requirement. -/
def DurationKind.passed (kind : DurationKind) (thresholdSec observedSec : ℚ) : Bool :=
  match kind with
  | .minimumContiguous => thresholdSec ≤ observedSec
  | .maximumViolation => observedSec ≤ thresholdSec

/-- `_duration_evaluation`. -/
def durationEvaluation (texts : MetricTexts) (assertion : MetricAssertion) (maxSampleGapSec : ℚ)
    (requirement : DurationRequirement) (samples : List MetricPoint) (window : Window) :
    Except MetricFailure (ℚ × Bool) := do
  let gauges ← durationGauges texts maxSampleGapSec samples window
  let state := durationScan window
    (fun sample => assertion.operator.compare sample.value assertion.threshold) {} gauges
  let thresholdSec ← (numberToFloat double requirement.durationSec).mapError .overflow
  let observedSec ← (toSeconds double (state.observedNs requirement.kind)).mapError .overflow
  return (observedSec, requirement.kind.passed thresholdSec observedSec)

/-! ## Evaluation -/

/-- The status of a comparison. -/
def Comparison.status : Comparison → AssertionStatus
  | passed => .passed
  | failed => .failed
  | skipped => .skipped

/-- A statistic, as it is reported: counts are integers. -/
def Aggregation.observed (aggregation : Aggregation) (value : ℚ) : ObservedValue :=
  if aggregation = .count then .int value.num else .float value

/-- `_histogram_assertion`. -/
def histogramAssertion (py : PyOps) (assertion : MetricAssertion) (aggregation : Aggregation)
    (samples : List HistogramSample) (window : Window) :
    Except MetricFailure AssertionEvaluation := do
  let merged ← histogramWindowAggregate samples window
  let estimate ← floatStatistic merged aggregation
  -- `math.isfinite` converts the threshold.
  let _ ← (numberToFloat double assertion.threshold).mapError MetricFailure.overflow
  let outcome ← estimate.compare assertion.operator assertion.threshold
  let displayedBound :=
    if assertion.operator = .gt ∨ assertion.operator = .gte then estimate.lower else estimate.upper
  return {
    assertionId := assertion.assertionId
    status := outcome.status
    observedValue :=
      match displayedBound with
      | ⊥ => none
      | ⊤ => none
      | (value : ℚ) => if outcome = .skipped then none else some (aggregation.observed value)
    unit := assertion.unit
    message := aggregation.text ++ " bound " ++ estimate.describe py ++ "; threshold " ++
      assertion.operator.text ++ " " ++ py.declared assertion.threshold }

/-- The evaluation of an assertion that has none of its points to judge. -/
def MetricAssertion.errorEvaluation (assertion : MetricAssertion) (message : String) :
    AssertionEvaluation where
  assertionId := assertion.assertionId
  status := .error
  observedValue := none
  unit := assertion.unit
  message := message

/-- `metric_samples`, `window` and its limits. -/
structure SelectedPoints where
  points : List MetricPoint
  inWindow : List MetricPoint
  window : Window

/-- The points in the window of an assertion, or the evaluation where they are none or have another
unit. -/
def selectPoints (py : PyOps) (assertion : MetricAssertion) (points : List MetricPoint)
    (lengthNs : ℤ) (windowStartNs windowEndNs : Option ℤ) :
    Except AssertionEvaluation SelectedPoints := do
  let endNs := windowEndNs.getD ((points.map (·.observedAtNs)).max?.getD 0)
  let earliestNs := endNs - lengthNs
  let startNs := (windowStartNs.map (max earliestNs)).getD earliestNs
  let inWindow := points.filter fun sample =>
    startNs ≤ sample.observedAtNs ∧ sample.observedAtNs ≤ endNs
  require (inWindow ≠ []) (assertion.errorEvaluation (s!"no samples for {assertion.metricName} " ++
    s!"in evaluation window [{startNs}, {endNs}]"))
  require (∀ sample ∈ inWindow, sample.unit = assertion.unit)
    (assertion.errorEvaluation (s!"expected unit {assertion.unit}; observed " ++
      showUnits py inWindow))
  return ⟨points, inWindow, ⟨startNs, endNs⟩⟩

/-- The evaluation of an assertion over its points. -/
def evaluateSelected (texts : MetricTexts) (assertion : MetricAssertion)
    (selected : SelectedPoints) : Except MetricFailure AssertionEvaluation :=
  match assertion.predicate with
  | .metricDuration maxSampleGapSec requirement => do
    let (observed, passed) ← durationEvaluation texts assertion maxSampleGapSec requirement
      selected.inWindow selected.window
    return {
      assertionId := assertion.assertionId
      status := if passed then .passed else .failed
      observedValue := some (.float observed)
      unit := "s"
      message := if passed then "" else
        requirement.kind.text ++ " " ++ texts.declared requirement.durationSec ++ "s" }
  | .metric aggregation => do
    if ∀ sample ∈ selected.points, sample.histogram?.isSome then
      histogramAssertion texts.toPyOps assertion aggregation
        (selected.points.filterMap MetricPoint.histogram?) selected.window
    else
      let observed ← aggregateMetricPoints texts.toPyOps selected.points aggregation
        selected.window
      let passed := assertion.operator.compare observed assertion.threshold
      return {
        assertionId := assertion.assertionId
        status := if passed then .passed else .failed
        observedValue := some (aggregation.observed observed)
        unit := assertion.unit
        message := if passed then "" else
          s!"threshold {assertion.operator.text} " ++ texts.declared assertion.threshold }

/-- `except MetricAggregationError` of `evaluate_metric_assertions`. -/
def MetricAssertion.recover (assertion : MetricAssertion) :
    Except MetricFailure AssertionEvaluation → Except MetricFailure AssertionEvaluation
  | .ok evaluation => .ok evaluation
  | .error (.input message) => .error (.input message)
  | .error (.aggregation message) => .ok (assertion.errorEvaluation message)
  | .error (.insufficient message) =>
    .ok { assertion.errorEvaluation message with status := .skipped }
  | .error (.overflow error) => .error (.overflow error)

/-- The evaluation of one assertion. -/
def evaluateMetricAssertion (texts : MetricTexts) (samples : List MetricPoint)
    (windowStartNs windowEndNs : Option ℤ) (assertion : MetricAssertion) :
    Except MetricFailure AssertionEvaluation := do
  let points := matchingPoints samples assertion.metricName assertion.attributeMatch
  if points = [] then
    return assertion.errorEvaluation (s!"no samples for {assertion.metricName} matching " ++
      showAttributes texts.toPyOps assertion.attributeMatch)
  else
    -- The window is converted outside of the `try`.
    let lengthNs ← (nanoseconds assertion.windowSec).mapError .overflow
    match selectPoints texts.toPyOps assertion points lengthNs windowStartNs windowEndNs with
    | .error evaluation => return evaluation
    | .ok selected => assertion.recover (evaluateSelected texts assertion selected)

/-- `evaluate_metric_assertions`. -/
def evaluateMetricAssertions (texts : MetricTexts) (assertions : List MetricAssertion)
    (samples : List MetricPoint) (windowStartNs windowEndNs : Option ℤ) :
    Except MetricFailure (List AssertionEvaluation) := do
  require (windowStartNs.isSome = windowEndNs.isSome)
    (.input "metric evaluation window requires both start and end")
  require (∀ startNs ∈ windowStartNs, ∀ endNs ∈ windowEndNs, startNs ≤ endNs)
    (.input "metric evaluation window ends before it starts")
  assertions.mapM (evaluateMetricAssertion texts samples windowStartNs windowEndNs)

end RoboticsRuntime.Harness
