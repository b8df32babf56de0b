import RoboticsRuntime.Harness.Metrics.Windows
import RoboticsRuntime.Python

/-!
# Counters over a window

`metrics.py`: the increase of a monotonic Sum over an evaluation window, and the intervals that it
was counted in.
-/

namespace RoboticsRuntime.Harness
open Theory

/-- `MetricPoint`. -/
inductive MetricPoint where
  | scalar (sample : MetricSample)
  | histogram (sample : HistogramSample)

namespace MetricPoint

def name : MetricPoint → String
  | scalar sample => sample.name
  | histogram sample => sample.name

def unit : MetricPoint → String
  | scalar sample => sample.unit
  | histogram sample => sample.unit

def attributes : MetricPoint → SeriesKey
  | scalar sample => sample.attributes
  | histogram sample => sample.attributes

def observedAtNs : MetricPoint → ℤ
  | scalar sample => sample.observedAtNs
  | histogram sample => sample.observedAtNs

/-- The points that are histograms. -/
def histogram? : MetricPoint → Option HistogramSample
  | scalar _ => none
  | histogram sample => some sample

/-- A point of a monotonic OTLP Sum. -/
def counter? : MetricPoint → Option MetricSample
  | scalar sample => if sample.instrumentKind = .sum ∧ sample.monotonic then some sample else none
  | histogram _ => none

end MetricPoint

/-- `CounterWindowAggregate`. -/
structure CounterWindowAggregate where
  total : ExtendedFloat
  coverage : List Coverage
  temporality : MetricTemporality
  deriving DecidableEq

/-- `sample.attributes.get(key) == value` for all items of `attribute_match`. -/
def attributesMatch (attributes : SeriesKey) (attributeMatch : SeriesKey) : Bool :=
  attributeMatch.all fun item =>
    (attributes.find? fun entry => (ofLex entry).1 = (ofLex item).1).any fun entry =>
      (ofLex entry).2.equals (ofLex item).2

/-- `matching`: the points that a counter selects. -/
def matchingPoints (samples : List MetricPoint) (metricName : String)
    (attributeMatch : SeriesKey) : List MetricPoint :=
  samples.filter fun sample =>
    sample.name = metricName && attributesMatch sample.attributes attributeMatch

/-- `select_metric_points`. -/
def selectMetricPoints (samples : List MetricPoint) (runId domainId : String) : List MetricPoint :=
  samples.filter fun sample => attributesMatch sample.attributes
    [toLex ("run.id", .str runId), toLex ("domain.id", .str domainId)]

/-- The points are those of a cumulative histogram or sum. -/
def MetricPoint.cumulative : MetricPoint → Bool
  | scalar sample => sample.instrumentKind = .sum && sample.temporality = some .cumulative
  | histogram sample => sample.temporality = .cumulative

/-- `_measurement_metrics`. -/
def measurementMetrics (samples : List MetricPoint) (windowStartNs windowEndNs : ℤ) :
    List MetricPoint :=
  samples.filter fun sample => sample.observedAtNs ≤ windowEndNs &&
    (windowStartNs ≤ sample.observedAtNs || sample.cumulative)

/-- The key of a series of cumulative points with one start. -/
def MetricSample.epoch (sample : MetricSample) : SeriesKey × ℤ :=
  (sample.attributes, sample.startTimeNs)

/-- The checks of two consecutive points of a cumulative series. -/
def checkCounterPair (metricName : String) (previous current : MetricSample) :
    Except MetricFailure Unit := do
  require (current.observedAtNs ≠ previous.observedAtNs)
    (.aggregation s!"{metricName} contains duplicate cumulative observations")
  require (previous.value ≤ current.value)
    (.aggregation s!"{metricName} cumulative value moved backwards")

/-- `increase` and `interval_start_ns` of a series. -/
def counterIncrease (metricName : String) (ordered : List MetricSample) (latest : MetricSample)
    (windowStartNs : ℤ) : Except MetricFailure (ℚ × ℤ) :=
  if windowStartNs ≤ latest.startTimeNs then .ok (latest.value, latest.startTimeNs)
  else do
    let baselines := ordered.filter fun sample =>
      sample.startTimeNs = latest.startTimeNs ∧ sample.observedAtNs ≤ windowStartNs ∧
        sample.observedAtNs < latest.observedAtNs
    let baseline ← demand baselines.getLast?
      (.aggregation s!"{metricName} has no cumulative baseline at the evaluation-window start")
    -- Values are nonnegative floats, so that their difference is in range.
    return (double (latest.value - baseline.value), baseline.observedAtNs)

/-- What the points of one series with one start add to the counter. -/
def counterSeries (metricName : String) (windowStartNs : ℤ) (seriesKey : SeriesKey)
    (series : List MetricSample) : Except MetricFailure (Option (ℚ × Coverage)) := do
  let ordered := series.insertionSort fun a b => a.observedAtNs ≤ b.observedAtNs
  forM (ordered.zip ordered.tail) fun (previous, current) =>
    checkCounterPair metricName previous current
  match ordered.getLast? with
  | none => return none
  | some latest =>
    if latest.observedAtNs < windowStartNs then return none
    else
      let (increase, intervalStartNs) ←
        counterIncrease metricName ordered latest windowStartNs
      require (0 ≤ increase) (.aggregation s!"{metricName} cumulative value moved backwards")
      require (intervalStartNs < latest.observedAtNs)
        (.aggregation s!"{metricName} contains an empty or reversed cumulative interval")
      return some (increase, ⟨seriesKey, intervalStartNs, latest.observedAtNs⟩)

/-- The counter of cumulative points. -/
def cumulativeCounter (metricName : String) (counters : List MetricSample) (window : Window) :
    Except MetricFailure CounterWindowAggregate := do
  let observed := counters.filter fun sample => sample.observedAtNs ≤ window.endNs
  let results ← (groups MetricSample.epoch observed).mapM fun (epoch, series) =>
    counterSeries metricName window.startNs epoch.1 series
  let added := results.filterMap id
  require (added ≠ [])
    (.aggregation s!"{metricName} has no cumulative points in the evaluation window")
  let orderedCoverage := intervalCoverage (added.map (·.2))
  forM (groups Coverage.series orderedCoverage) fun (_, intervals) =>
    forM (intervals.zip intervals.tail) fun (previous, interval) =>
      require (previous.endNs ≤ interval.startNs)
        (.aggregation s!"{metricName} contains overlapping cumulative intervals")
  return ⟨(added.map (·.1)).foldl addFloat 0, orderedCoverage, .cumulative⟩

/-- The counter of delta points. -/
def deltaCounter (metricName : String) (counters : List MetricSample) (window : Window) :
    Except MetricFailure CounterWindowAggregate := do
  let points ← validatedDeltaPoints MetricSample.interval counters metricName window
  require (points ≠ [])
    (.aggregation s!"{metricName} has no delta points in the evaluation window")
  require (∀ sample ∈ points, 0 ≤ sample.value)
    (.aggregation s!"{metricName} contains a negative delta")
  return ⟨floatSum (points.map (·.value)), intervalCoverage (points.map (·.interval)), .delta⟩

/-- `sorted(units)`, as it is printed. -/
def showUnits (py : PyOps) (matching : List MetricPoint) : String :=
  "[" ++ ", ".intercalate (((matching.map (·.unit)).dedup.insertionSort (· ≤ ·)).map py.text) ++ "]"

/-- `counter_window_aggregate`. -/
def counterWindowAggregate (py : PyOps) (samples : List MetricPoint) (metricName : String)
    (attributeMatch : SeriesKey) (expectedUnit : String) (window : Window) :
    Except MetricFailure CounterWindowAggregate := do
  let matching := matchingPoints samples metricName attributeMatch
  require (matching ≠ []) (.aggregation s!"no counter points for {metricName}")
  require (∀ sample ∈ matching, sample.unit = expectedUnit)
    (.aggregation (s!"{metricName} requires unit {expectedUnit}; observed " ++
      showUnits py matching))
  require (∀ sample ∈ matching, sample.counter?.isSome)
    (.aggregation s!"{metricName} must be a monotonic OTLP Sum")
  let counters := matching.filterMap MetricPoint.counter?
  require (∀ sample ∈ counters, 0 ≤ sample.value)
    (.aggregation s!"{metricName} contains a negative counter value")
  require (∀ sample ∈ counters, sample.temporality = (counters.head?.bind (·.temporality)))
    (.aggregation s!"{metricName} mixes aggregation temporalities")
  match counters.head?.bind (·.temporality) with
  | some .delta => deltaCounter metricName counters window
  | some .cumulative => cumulativeCounter metricName counters window
  | _ => .error (.aggregation s!"{metricName} has unspecified aggregation temporality")

end RoboticsRuntime.Harness
