import Mathlib.Algebra.BigOperators.Group.List.Basic
import Mathlib.Data.List.Lex
import Mathlib.Data.Prod.Lex
import Mathlib.Data.String.Basic
import Mathlib.Algebra.Order.Field.Rat
import RoboticsRuntime.Python
import RoboticsRuntime.Theory.Checks

/-!
# Metric samples

`metrics.py`: the points of scalar instruments and of explicit-bucket histograms. Each dataclass
checks itself in `__post_init__`, so a sample here is a record with the proof that it passed.
Numbers are exact: floats are rationals, and no sample is infinite or NaN.
-/

namespace RoboticsRuntime.Harness
open Theory

/-- `HarnessInputError`, `MetricAggregationError`, its subclass `MetricInsufficientData`, and
`OverflowError`. -/
inductive MetricFailure where
  | input (message : String)
  | aggregation (message : String)
  | insufficient (message : String)
  | overflow (error : OverflowError)
  deriving DecidableEq, Repr

/-! ## Attributes -/

/-- `MetricAttribute`. -/
inductive MetricAttribute where
  | str (value : String)
  | bool (value : Bool)
  | int (value : ℤ)
  | float (value : ℚ)
  deriving DecidableEq, Repr

namespace MetricAttribute

/-- The sort key of a value: the name of its type, and then the value. -/
def sortKey : MetricAttribute → String ×ₗ String ×ₗ ℤ ×ₗ ℚ
  | str value => toLex ("str", toLex (value, toLex (0, 0)))
  | bool value => toLex ("bool", toLex ("", toLex (if value then 1 else 0, 0)))
  | int value => toLex ("int", toLex ("", toLex (value, 0)))
  | float value => toLex ("float", toLex ("", toLex (0, value)))

theorem sortKey_injective : Function.Injective sortKey := by
  intro a b h
  cases a <;> cases b <;> simp [sortKey] at h ⊢ <;> try exact h
  next x y => cases x <;> cases y <;> simp_all

instance : LinearOrder MetricAttribute := LinearOrder.lift' sortKey sortKey_injective

/-- The number a value stands for; `True` is one. -/
def number : MetricAttribute → Option ℚ
  | str _ => none
  | bool value => some (if value then 1 else 0)
  | int value => some value
  | float value => some value

/-- Python's `==`, which compares numbers of different types. -/
def equals (a b : MetricAttribute) : Bool :=
  match a, b with
  | str a, str b => a = b
  | a, b => a.number ≠ none && a.number = b.number

end MetricAttribute

/-- `_series_key`: the attributes of a point, sorted by name. The model keeps every mapping of
attributes in this form. -/
abbrev SeriesKey := List (String ×ₗ MetricAttribute)

/-- `MetricTemporality`. -/
inductive MetricTemporality where
  | delta
  | cumulative
  | unspecified
  deriving DecidableEq, Repr

/-! ## Scalar samples -/

/-- `instrument_kind` of a scalar sample. -/
inductive InstrumentKind where
  | gauge
  | sum
  deriving DecidableEq, Repr

/-- The fields of `MetricSample`. -/
structure MetricFields where
  name : String
  value : ℚ
  unit : String
  observedAtNs : ℤ
  attributes : SeriesKey
  instrumentKind : InstrumentKind
  temporality : Option MetricTemporality
  startTimeNs : ℤ
  monotonic : Bool
  deriving DecidableEq

/-- `MetricSample.__post_init__`. -/
def MetricFields.check (point : MetricFields) : Except MetricFailure Unit := do
  require (¬ (point.instrumentKind = .gauge ∧ point.temporality ≠ none))
    (.input "gauge samples cannot declare aggregation temporality")
  require (¬ (point.instrumentKind = .sum ∧ point.temporality = none))
    (.input "sum samples require aggregation temporality")
  require (0 ≤ point.startTimeNs ∧ 0 ≤ point.observedAtNs)
    (.input "metric timestamps cannot be negative")
  require (point.startTimeNs ≠ 0 → point.startTimeNs ≤ point.observedAtNs)
    (.input "metric start time cannot follow observation time")

/-- `MetricSample`. -/
structure MetricSample extends MetricFields where
  checked : toMetricFields.check = .ok ()
  deriving DecidableEq

/-! ## Histogram samples -/

/-- The fields of `HistogramSample`. -/
structure HistogramFields where
  name : String
  unit : String
  observedAtNs : ℤ
  count : ℤ
  bucketCounts : List ℤ
  explicitBounds : List ℚ
  attributes : SeriesKey
  temporality : MetricTemporality
  startTimeNs : ℤ
  sum : Option ℚ
  min : Option ℚ
  max : Option ℚ
  deriving DecidableEq

/-- `HistogramSample.__post_init__`. -/
def HistogramFields.check (point : HistogramFields) : Except MetricFailure Unit := do
  require (0 ≤ point.startTimeNs ∧ 0 ≤ point.observedAtNs)
    (.input "histogram timestamps cannot be negative")
  require (point.startTimeNs ≠ 0 → point.startTimeNs ≤ point.observedAtNs)
    (.input "histogram start time cannot follow observation time")
  require (0 ≤ point.count ∧ ∀ count ∈ point.bucketCounts, 0 ≤ count)
    (.input "histogram counts cannot be negative")
  require (point.bucketCounts.length = point.explicitBounds.length + 1)
    (.input "histogram requires one more bucket count than explicit bounds")
  require (point.bucketCounts.sum = point.count)
    (.input "histogram bucket counts must add up to count")
  require (point.explicitBounds.IsChain (· < ·))
    (.input "histogram explicit bounds must be strictly increasing")
  require (∀ low ∈ point.min, ∀ high ∈ point.max, low ≤ high)
    (.input "histogram min cannot exceed max")

/-- `HistogramSample`. -/
structure HistogramSample extends HistogramFields where
  checked : toHistogramFields.check = .ok ()
  deriving DecidableEq

/-- What the checks of a histogram establish. -/
theorem HistogramFields.check_eq_ok {point : HistogramFields} :
    point.check = .ok () ↔
      (0 ≤ point.startTimeNs ∧ 0 ≤ point.observedAtNs) ∧
      (point.startTimeNs ≠ 0 → point.startTimeNs ≤ point.observedAtNs) ∧
      (0 ≤ point.count ∧ ∀ count ∈ point.bucketCounts, 0 ≤ count) ∧
      point.bucketCounts.length = point.explicitBounds.length + 1 ∧
      point.bucketCounts.sum = point.count ∧
      point.explicitBounds.IsChain (· < ·) ∧
      ∀ low ∈ point.min, ∀ high ∈ point.max, low ≤ high := by
  simp only [HistogramFields.check, seq_eq_ok, require_eq_ok]

/-- The call `HistogramSample(...)`. -/
def histogramSample (point : HistogramFields) : Except MetricFailure HistogramSample :=
  match h : point.check with
  | .ok () => .ok ⟨point, h⟩
  | .error error => .error error

theorem histogramSample_eq_ok {point : HistogramFields} {sample : HistogramSample} :
    histogramSample point = .ok sample ↔ sample.toHistogramFields = point := by
  obtain ⟨p, hp⟩ := sample
  unfold histogramSample
  constructor
  · intro h
    split at h
    · cases h
      rfl
    · cases h
  · rintro rfl
    split
    · rfl
    · next error h => exact absurd (h.symm.trans hp) (by simp)

namespace HistogramSample
variable (sample : HistogramSample)

theorem start_le_observed : sample.startTimeNs ≤ sample.observedAtNs := by
  obtain ⟨⟨_, hobserved⟩, hstart, -⟩ := HistogramFields.check_eq_ok.1 sample.checked
  by_cases hz : sample.startTimeNs = 0
  · rwa [hz]
  · exact hstart hz

theorem count_nonneg : 0 ≤ sample.count := (HistogramFields.check_eq_ok.1 sample.checked).2.2.1.1

theorem bucketCounts_nonneg : ∀ count ∈ sample.bucketCounts, 0 ≤ count :=
  (HistogramFields.check_eq_ok.1 sample.checked).2.2.1.2

theorem bucketCounts_length : sample.bucketCounts.length = sample.explicitBounds.length + 1 :=
  (HistogramFields.check_eq_ok.1 sample.checked).2.2.2.1

theorem bucketCounts_sum : sample.bucketCounts.sum = sample.count :=
  (HistogramFields.check_eq_ok.1 sample.checked).2.2.2.2.1

theorem explicitBounds_increasing : sample.explicitBounds.Pairwise (· < ·) :=
  List.isChain_iff_pairwise.1 (HistogramFields.check_eq_ok.1 sample.checked).2.2.2.2.2.1

end HistogramSample

end RoboticsRuntime.Harness
