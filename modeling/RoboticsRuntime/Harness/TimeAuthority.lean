import RoboticsRuntime.Contracts.TimePolicy
import RoboticsRuntime.Harness.Assertions
import RoboticsRuntime.Harness.Metrics.Counters
import RoboticsRuntime.Harness.Metrics.HistogramEstimates
import RoboticsRuntime.Harness.Metrics.Histograms

/-!
# Time authority

`time_authority.py`: the delivery latencies of the measurement window against the time policy. The
verdict is made on intervals that contain the statistics; one finite end of each interval is
published.
-/

namespace RoboticsRuntime.Harness
open Theory Contracts

/-- `TimeAuthorityObservation`. -/
structure TimeAuthorityObservation where
  sourceId : String
  sampleCount : ℤ
  windowStartNs : ℤ
  windowEndNs : ℤ
  p50Ms : ExtendedFloat
  p95Ms : ExtendedFloat
  maxMs : ExtendedFloat
  withinPolicy : Bool
  evaluation : Option AssertionEvaluation

/-- The entry `time_authority_observation` that `build_acceptance_result` writes. -/
def TimeAuthorityObservation.document (observation : TimeAuthorityObservation)
    (evidenceSha256 : Option String) : TimeAuthorityDocument where
  sourceId := observation.sourceId
  sampleCount := observation.sampleCount
  windowStartNs := observation.windowStartNs
  windowEndNs := observation.windowEndNs
  p50DeliveryLatencyMs := observation.p50Ms
  p95DeliveryLatencyMs := observation.p95Ms
  maxDeliveryLatencyMs := observation.maxMs
  withinPolicy := observation.withinPolicy
  evidenceSha256 := evidenceSha256

/-! ## Selection of the histogram -/

/-- `_LatencyContext`. -/
structure LatencyContext where
  runId : String
  domainId : String
  sourceId : String
  startNs : ℤ
  endNs : ℤ

/-- The attributes that attribute a point to the context. -/
def LatencyContext.attributes (context : LatencyContext) : SeriesKey :=
  [toLex ("run.id", .str context.runId), toLex ("domain.id", .str context.domainId),
    toLex ("time.source.id", .str context.sourceId),
    toLex ("time.measurement.method", .str "rmw_source_to_reception_latency")]

/-- `_LatencyContext.matches`. Points before the window are kept for their counts. -/
def LatencyContext.matches (context : LatencyContext) (sample : MetricPoint) : Bool :=
  sample.observedAtNs ≤ context.endNs && attributesMatch sample.attributes context.attributes

/-- `_latency_histogram`. -/
def latencyHistogram (samples : List MetricPoint) (context : LatencyContext) :
    Except MetricFailure HistogramSample := do
  let matching := samples.filter fun sample =>
    sample.name = "robotics.time_authority.delivery_latency" && context.matches sample
  require (matching ≠ [])
    (.insufficient "no attributed delivery-latency histogram in the window")
  require (∀ sample ∈ matching, sample.histogram? ≠ none ∧ sample.unit = "ms")
    (.aggregation "delivery latency requires explicit-bucket histograms in ms")
  histogramWindowAggregate (matching.filterMap MetricPoint.histogram?)
    ⟨context.startNs, context.endNs⟩

/-! ## Verdict -/

/-- `_display_bound`. -/
def displayBound (estimate : Estimate) : ExtendedFloat :=
  if isFinite estimate.upper then estimate.upper else estimate.lower

/-- `"failed" if "failed" in outcomes else "skipped" if "skipped" in outcomes else "passed"`. -/
def combinedStatus (outcomes : List Comparison) : AssertionStatus :=
  if .failed ∈ outcomes then .failed else if .skipped ∈ outcomes then .skipped else .passed

/-- The evaluation of the assertion `time-authority-evidence`. -/
def timeAuthorityEvaluation (status : AssertionStatus) (count : Option ℤ) (message : String) :
    AssertionEvaluation where
  assertionId := "time-authority-evidence"
  status := status
  observedValue := count.map ObservedValue.int
  unit := "samples"
  message := message

/-- The part of the message about one statistic. -/
def describeBound (py : PyOps) (name : String) (estimate : Estimate) (threshold : ℚ) : String :=
  name ++ " bound " ++ estimate.describe py ++ " ms <= " ++ py.number threshold

/-- `thresholds`. -/
def thresholds (policy : TimeAuthorityPolicy) :
    Except OverflowError (ℚ × ℚ × ℚ) := do
  let p50Ms ← numberToFloat double policy.maxTimeAuthorityDeliveryLatencyP50Ms
  let p95Ms ← numberToFloat double policy.maxTimeAuthorityDeliveryLatencyP95Ms
  let maxMs ← numberToFloat double policy.maxTimeAuthorityDeliveryLatencyMs
  return (p50Ms, p95Ms, maxMs)

/-- `_latency_policy`: the published latencies and the evaluation. -/
def latencyPolicy (py : PyOps) (histogram : HistogramSample) (policy : TimeAuthorityPolicy) :
    Except MetricFailure
      ((ExtendedFloat × ExtendedFloat × ExtendedFloat) × AssertionEvaluation) :=
  if histogram.count = 0 then
    .ok ((0, 0, 0),
      timeAuthorityEvaluation .failed (some 0)
        (s!"count 0 < {policy.timeAuthorityMinSamples}; " ++
          "no latency events; numeric latency fields are unavailable placeholders"))
  else do
    let p50 ← histogramStatistic histogram .p50 true
    let p95 ← histogramStatistic histogram .p95 true
    let maximum ← histogramStatistic histogram .max true
    let (p50Ms, p95Ms, maxMs) ← (thresholds policy).mapError .overflow
    let p50Outcome ← p50.compare .lte (p50Ms : ℚ)
    let p95Outcome ← p95.compare .lte (p95Ms : ℚ)
    let maxOutcome ← maximum.compare .lte (maxMs : ℚ)
    let countOutcome : Comparison :=
      if policy.timeAuthorityMinSamples ≤ histogram.count then .passed else .failed
    let message := describeBound py "p50" p50 p50Ms ++ "; " ++
      describeBound py "p95" p95 p95Ms ++ "; " ++ describeBound py "max" maximum maxMs ++
      s!"; count {histogram.count} >= {policy.timeAuthorityMinSamples}" ++
      "; numeric fields are finite bounds, not recovered event values"
    return ((displayBound p50, displayBound p95, displayBound maximum),
      timeAuthorityEvaluation
        (combinedStatus [p50Outcome, p95Outcome, maxOutcome, countOutcome])
        (some histogram.count) message)

/-- The observation that is made of a count, of the published latencies and of an evaluation. -/
def LatencyContext.observation (context : LatencyContext) (count : ℤ)
    (latencies : ExtendedFloat × ExtendedFloat × ExtendedFloat) (evaluation : AssertionEvaluation) :
    TimeAuthorityObservation where
  sourceId := context.sourceId
  sampleCount := count
  windowStartNs := context.startNs
  windowEndNs := context.endNs
  p50Ms := latencies.1
  p95Ms := latencies.2.1
  maxMs := latencies.2.2
  withinPolicy := evaluation.status = .passed
  evaluation := some evaluation

/-- The observation without latencies, when the exception is a `MetricAggregationError`. -/
def LatencyContext.unavailable (context : LatencyContext) (count : ℤ) :
    MetricFailure → Except MetricFailure TimeAuthorityObservation
  | .input message => .error (.input message)
  | .aggregation message => .ok (context.observation count (0, 0, 0)
      (timeAuthorityEvaluation .error none
        (message ++ "; unavailable numeric fields use 0 placeholders, not measured zeros")))
  | .insufficient message => .ok (context.observation count (0, 0, 0)
      (timeAuthorityEvaluation .skipped none
        (message ++ "; unavailable numeric fields use 0 placeholders, not measured zeros")))
  | .overflow error => .error (.overflow error)

/-- `_observe_latency`. -/
def observeLatency (py : PyOps) (policy : TimeAuthorityPolicy) (samples : List MetricPoint)
    (context : LatencyContext) : Except MetricFailure TimeAuthorityObservation :=
  match latencyHistogram samples context with
  | .error error => context.unavailable 0 error
  | .ok histogram =>
    match latencyPolicy py histogram policy with
    | .error error => context.unavailable histogram.count error
    | .ok (latencies, evaluation) => .ok (context.observation histogram.count latencies evaluation)

/-- `evaluate_time_authority`. -/
def evaluateTimeAuthority (py : PyOps) (timePolicy : TimeAuthorityPolicy)
    (samples : List MetricPoint) (runId domainId sourceId : String)
    (windowStartNs windowEndNs : ℤ) : Except MetricFailure TimeAuthorityObservation :=
  observeLatency py timePolicy samples ⟨runId, domainId, sourceId, windowStartNs, windowEndNs⟩

end RoboticsRuntime.Harness
