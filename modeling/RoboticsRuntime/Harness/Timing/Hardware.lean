import RoboticsRuntime.Contracts.AcceptanceResult
import RoboticsRuntime.Harness.Metrics.Counters
import RoboticsRuntime.Harness.Traces.Delivery

/-!
# The clock of hardware

`hardware_timing.py`: the measurements of a hardware clock that a host publishes as metrics, against
the time policy.
-/

namespace RoboticsRuntime.Harness
open Theory Contracts

/-- `HardwareTimingInputError`, or the `OverflowError` of a time. -/
inductive HardwareTimingFailure where
  | input (message : String)
  | overflow (error : OverflowError)
  deriving DecidableEq, Repr

/-- `HardwareTimingObservation`. -/
structure HardwareTimingObservation where
  syncProtocol : String
  source : String
  measuredAt : Timestamp
  sampleCount : ℤ
  offsetMs : ℚ
  jitterMs : ℚ
  driftPpm : ℚ
  maxSampleAgeMs : ℚ
  monotonic : Bool
  withinPolicy : Bool

def offsetMetric : String := "robotics.hardware.clock.offset"
def driftMetric : String := "robotics.hardware.clock.drift"
def ageMetric : String := "robotics.hardware.message.age"
def monotonicMetric : String := "robotics.hardware.clock.monotonic"

/-- `_METRIC_UNITS`. -/
def hardwareMetricUnits : List (String × String) :=
  [(offsetMetric, "ms"), (driftMetric, "ppm"), (ageMetric, "ms"), (monotonicMetric, "1")]

/-- `_SUPPORTED_SOURCES`. -/
def supportedSources : List String :=
  ["pmc", "chronyc_tracking", "mavlink_timesync_status", "controller_telemetry",
    "external_attestation"]

/-- The metrics of a hardware clock that are not among some names, sorted and joined. -/
def missingMetrics (names : List String) : List String :=
  ((hardwareMetricUnits.map (·.1)).filter (· ∉ names)).insertionSort (· ≤ ·)

/-! ## The points -/

/-- `_timing_samples`: the points of each metric, in the order of the first one. -/
def timingSamples (samples : List MetricPoint) :
    Except HardwareTimingFailure (List (String × List MetricSample)) := do
  let points ← (samples.filter fun sample => sample.name ∈ hardwareMetricUnits.map (·.1)).mapM
    fun sample => match sample with
      | .scalar point => .ok point
      | .histogram point => .error (.input s!"{point.name} must be an OTLP gauge or sum point")
  let grouped := groups (·.name) points
  let missing := missingMetrics (grouped.map (·.1))
  require (missing = []) (.input ("missing hardware timing metrics: " ++ ", ".intercalate missing))
  return grouped

/-- A text attribute of a point. -/
def textAttribute (sample : MetricSample) (name : String) : Option String :=
  match sample.attributes.find? fun entry => (ofLex entry).1 = name with
  | some entry => match (ofLex entry).2 with
    | .str value => some value
    | _ => none
  | none => none

/-- The protocol and the source of one point. -/
def sampleMetadata (name : String) (sample : MetricSample) :
    Except HardwareTimingFailure (String × String) := do
  let expectedUnit := (hardwareMetricUnits.lookup name).getD ""
  require (sample.unit = expectedUnit)
    (.input s!"{name} requires unit {expectedUnit}; received {sample.unit}")
  match textAttribute sample "robotics.clock.sync_protocol",
      textAttribute sample "robotics.clock.source" with
  | some protocol, some source => return (protocol, source)
  | _, _ => .error (.input (s!"{name} requires string attributes " ++
      "robotics.clock.sync_protocol and robotics.clock.source"))

/-- `_metadata`. -/
def hardwareMetadata (grouped : List (String × List MetricSample)) :
    Except HardwareTimingFailure (String × String) := do
  let metadata ← (grouped.flatMap fun (name, samples) => samples.map (name, ·)).mapM
    fun (name, sample) => sampleMetadata name sample
  match (metadata.map (·.1)).dedup, (metadata.map (·.2)).dedup with
  | [protocol], [source] => do
    require (source ∈ supportedSources)
      (.input s!"unsupported hardware timing source: {source}")
    return (protocol, source)
  | _, _ => .error (.input "hardware timing metadata changed during observation")

/-- `_aligned_points`: the values of all metrics at each time, in order of time. -/
def alignedPoints (grouped : List (String × List MetricSample)) :
    Except HardwareTimingFailure (List (ℤ × List (String × ℚ))) := do
  let entries := grouped.flatMap fun (name, samples) =>
    samples.map fun sample => (sample.observedAtNs, name, sample.value)
  forM entries.zipIdx fun ((timestamp, name, _), index) =>
    require (∀ entry ∈ entries.take index, ¬ (entry.1 = timestamp ∧ entry.2.1 = name))
      (.input s!"duplicate {name} point at {timestamp}")
  let points := (groups (fun entry : ℤ × String × ℚ => entry.1) entries).map
    fun group => (group.1, group.2.map Prod.snd)
  forM points fun (timestamp, values) =>
    let missing := missingMetrics (values.map (·.1))
    require (missing = [])
      (.input (s!"unaligned hardware timing point at {timestamp}; missing " ++
        ", ".intercalate missing))
  return points.insertionSort fun a b => a.1 ≤ b.1

/-- The values of one metric at the aligned points. -/
def metricValues (name : String) (points : List (ℤ × List (String × ℚ))) : List ℚ :=
  points.filterMap fun (_, values) => values.lookup name

/-! ## The evaluation -/

/-- `evaluate_hardware_timing`. The standard deviation of the offsets is that of Python's
`statistics.pstdev`. -/
def evaluateHardwareTiming (pstdev : List ℚ → ℚ) (timePolicy : TimePolicy)
    (samples : List MetricPoint) : Except HardwareTimingFailure HardwareTimingObservation := do
  let grouped ← timingSamples samples
  let (protocol, source) ← hardwareMetadata grouped
  require (timePolicy.clockSyncProtocol = some protocol)
    (.input "hardware timing protocol does not match scenario time policy")
  let points ← alignedPoints grouped
  let offsets := metricValues offsetMetric points
  let monotonic := (metricValues monotonicMetric points).all (· = 1)
  let offsetMs := ((offsets.map abs).max?).getD 0
  let driftPpm := (((metricValues driftMetric points).map abs).max?).getD 0
  let maxSampleAgeMs := ((metricValues ageMetric points).max?).getD 0
  let latestNs := (points.map Prod.fst).getLast?.getD 0
  let measuredAt ← (utcDatetimeFromUnixNs latestNs.toNat).mapError HardwareTimingFailure.overflow
  return {
    syncProtocol := protocol
    source := source
    measuredAt := measuredAt
    sampleCount := points.length
    offsetMs := offsetMs
    jitterMs := pstdev offsets
    driftPpm := driftPpm
    maxSampleAgeMs := maxSampleAgeMs
    monotonic := monotonic
    withinPolicy := hardwareClockWithinPolicy timePolicy points.length offsetMs driftPpm
      maxSampleAgeMs monotonic }

end RoboticsRuntime.Harness
