import RoboticsRuntime.Harness.Metrics.Samples
import RoboticsRuntime.Python.Floats
import RoboticsRuntime.Theory.OrderStatistic

/-!
# Statistics of a histogram

`_histogram_estimates.py`: an interval that contains a statistic of the recorded events, and the
comparison of such an interval with a threshold.
-/

namespace RoboticsRuntime.Harness
open Theory

/-- A float, as it is printed. -/
def showFloat (py : PyOps) : ExtendedFloat → String
  | ⊥ => "-inf"
  | ⊤ => "inf"
  | (value : ℚ) => py.number value

/-- The outcome of a comparison. -/
inductive Comparison where
  | passed
  | failed
  | skipped
  deriving DecidableEq, Repr

/-- The operators of an assertion. -/
inductive Operator where
  | lt
  | lte
  | gt
  | gte
  | eq
  deriving DecidableEq, Repr

/-- The aggregations of an assertion. -/
inductive Aggregation where
  | min
  | max
  | mean
  | count
  | p50
  | p95
  | p99
  deriving DecidableEq, Repr

/-! ## Estimates -/

/-- `Estimate`, with the condition its `__post_init__` checks. -/
structure Estimate where
  lower : ExtendedFloat
  upper : ExtendedFloat
  lowerExclusive : Bool
  consistent : ¬ (upper < lower ∨ lowerExclusive ∧ lower = upper)

/-- The call `Estimate(...)`. -/
def Estimate.make (lower upper : ExtendedFloat) (lowerExclusive : Bool) :
    Except MetricFailure Estimate :=
  if h : upper < lower ∨ lowerExclusive ∧ lower = upper then
    .error (.input "histogram statistic bounds are inconsistent")
  else .ok ⟨lower, upper, lowerExclusive, h⟩

/-- An estimate of one value. -/
def Estimate.exact (value : ℚ) : Except MetricFailure Estimate := make value value false

/-- The tests of `compare` for one operator: passed, and failed. -/
def Estimate.outcomes (estimate : Estimate) (threshold : ExtendedFloat) (operator : Operator) :
    Bool × Bool :=
  let strictlyAbove := threshold < estimate.lower ||
    (estimate.lowerExclusive && estimate.lower = threshold)
  match operator with
  | .lt => (estimate.upper < threshold, threshold ≤ estimate.lower)
  | .lte => (estimate.upper ≤ threshold, strictlyAbove)
  | .gt => (strictlyAbove, estimate.upper ≤ threshold)
  | .gte => (threshold ≤ estimate.lower, estimate.upper < threshold)
  | .eq => (estimate.lower = estimate.upper ∧ estimate.upper = threshold,
      strictlyAbove || estimate.upper < threshold)

/-- `Estimate.compare`. -/
def Estimate.compare (estimate : Estimate) (operator : Operator) (threshold : ExtendedFloat) :
    Except MetricFailure Comparison := do
  require (threshold ≠ ⊥ ∧ threshold ≠ ⊤) (.input "histogram threshold must be finite")
  let (passed, failed) := estimate.outcomes threshold operator
  return if passed then .passed else if failed then .failed else .skipped

/-- `Estimate.describe`. -/
def Estimate.describe (py : PyOps) (estimate : Estimate) : String :=
  (if estimate.lowerExclusive then "(" else "[") ++ showFloat py estimate.lower ++ ", " ++
    showFloat py estimate.upper ++ "]"

/-- A value lies in the interval of an estimate. -/
def Estimate.Contains (estimate : Estimate) (value : ℚ) : Prop :=
  estimate.lower ≤ value ∧ (estimate.lowerExclusive → estimate.lower ≠ value) ∧
    value ≤ estimate.upper

/-! ## Buckets -/

/-- `bisect.bisect_left`: the position of the first bound that is not below the value. -/
def bisectLeft (bounds : List ℚ) (value : ℚ) : ℕ := bounds.findIdx (value ≤ ·)

/-- The lower end of a bucket. -/
def bucketLower (bounds : List ℚ) : ℕ → ExtendedFloat
  | 0 => ⊥
  | index + 1 => (bounds[index]?.map fun bound : ℚ => (bound : ExtendedFloat)).getD ⊥

/-- The upper end of a bucket. -/
def bucketUpper (bounds : List ℚ) (index : ℕ) : ExtendedFloat :=
  (bounds[index]?.map fun bound : ℚ => (bound : ExtendedFloat)).getD ⊤

/-- `_bucket_estimate`. -/
def bucketEstimate (histogram : HistogramSample) (index : ℕ) (nonnegative : Bool) :
    Except MetricFailure Estimate :=
  let lower := bucketLower histogram.explicitBounds index
  let upper := bucketUpper histogram.explicitBounds index
  let clamped := if nonnegative then max 0 lower else lower
  let raised := match histogram.min with
    | some least => max (least : ExtendedFloat) clamped
    | none => clamped
  let lowered := match histogram.max with
    | some greatest => min (greatest : ExtendedFloat) upper
    | none => upper
  Estimate.make raised lowered (index ≠ 0 && raised = lower)

/-- The positions of the buckets that hold an event. -/
def occupied (counts : List ℤ) : List ℕ :=
  (counts.zipIdx.filter fun entry => entry.1 ≠ 0).map (·.2)

/-- `_validate_extrema`. -/
def validateExtrema (histogram : HistogramSample) : Except MetricFailure Unit := do
  let buckets := occupied histogram.bucketCounts
  require (∀ value ∈ histogram.min,
      some (bisectLeft histogram.explicitBounds value) = buckets.head?)
    (.input "histogram min contradicts occupied buckets")
  require (∀ value ∈ histogram.max,
      some (bisectLeft histogram.explicitBounds value) = buckets.getLast?)
    (.input "histogram max contradicts occupied buckets")

/-- `_rank_bucket`, from a bucket on. -/
def rankBucket (rank : ℤ) : ℤ → ℕ → List ℤ → Except MetricFailure ℕ
  | _, _, [] => .error (.input "histogram bucket counts do not cover the requested rank")
  | cumulative, index, count :: counts =>
    if rank ≤ cumulative + count then .ok index
    else rankBucket rank (cumulative + count) (index + 1) counts

/-- `_has_negative_event`. -/
def hasNegativeEvent (histogram : HistogramSample) : Bool :=
  (histogram.min.any (· < 0)) || (histogram.sum.any (· < 0)) ||
    (histogram.explicitBounds.zip histogram.bucketCounts).any fun (upper, count) =>
      upper < 0 && 0 < count

/-- The quantile of an aggregation, as a fraction. -/
def quantile : Aggregation → ℕ × ℕ
  | .p95 => (19, 20)
  | .p99 => (99, 100)
  | _ => (1, 2)

/-- The rank of a quantile. -/
def quantileRank (count : ℤ) (q : ℕ × ℕ) : ℤ := (count * q.1 + q.2 - 1) / q.2

/-- The estimate of the event of some rank. -/
def rankedEstimate (histogram : HistogramSample) (rank : ℤ) (nonnegative : Bool) :
    Except MetricFailure Estimate := do
  let index ← rankBucket rank 0 0 histogram.bucketCounts
  bucketEstimate histogram index nonnegative

/-- `_rank_estimate`. -/
def rankEstimate (histogram : HistogramSample) (aggregation : Aggregation) (nonnegative : Bool) :
    Except MetricFailure Estimate :=
  match aggregation, histogram.min, histogram.max with
  | .min, some least, _ => Estimate.exact least
  | .min, none, _ => rankedEstimate histogram 1 nonnegative
  | .max, _, some greatest => Estimate.exact greatest
  | .max, _, none => rankedEstimate histogram histogram.count nonnegative
  | aggregation, _, _ =>
    rankedEstimate histogram (quantileRank histogram.count (quantile aggregation)) nonnegative

/-- `estimate_statistic`. -/
def estimateStatistic (histogram : HistogramSample) (aggregation : Aggregation)
    (nonnegative : Bool) : Except MetricFailure Estimate := do
  if histogram.count ≠ 0 then validateExtrema histogram
  if aggregation = .count then Estimate.exact histogram.count
  else
    require (histogram.count ≠ 0) (.input "histogram has no recorded events")
    require (¬ (nonnegative ∧ hasNegativeEvent histogram))
      (.input "histogram records a negative value in a nonnegative domain")
    if aggregation = .mean then
      let sum ← demand histogram.sum (.input "histogram mean requires a recorded sum")
      Estimate.exact (sum / histogram.count)
    else rankEstimate histogram aggregation nonnegative

/-- `except ValueError` of `histogram_statistic`. -/
def MetricFailure.asAggregation : MetricFailure → MetricFailure
  | .input message => .aggregation message
  | .aggregation message => .aggregation message
  | .insufficient message => .aggregation message
  | .overflow error => .overflow error

/-- `metrics.histogram_statistic`. -/
def histogramStatistic (histogram : HistogramSample) (aggregation : Aggregation)
    (nonnegative : Bool) : Except MetricFailure Estimate := do
  require (¬ (aggregation ≠ .count ∧ histogram.count = 0))
    (.insufficient "histogram has no recorded events")
  require (¬ (aggregation = .mean ∧ histogram.sum = none))
    (.insufficient "histogram mean requires a recorded sum")
  (estimateStatistic histogram aggregation nonnegative).mapError MetricFailure.asAggregation

end RoboticsRuntime.Harness
