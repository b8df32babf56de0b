import RoboticsRuntime.Harness.Metrics.Evaluation

/-!
# Percentiles by the index

`metrics.py`: `percentile` with the accesses to the sorted list as Python makes them, where an index
out of the list raises.
-/

namespace RoboticsRuntime.Harness
open Theory

/-- `ordered[index]`, nothing where it raises `IndexError`. A negative index counts from the end. -/
def item (ordered : List ℚ) (index : ℤ) : Option ℚ :=
  if 0 ≤ index then ordered[index.toNat]?
  else if 0 ≤ ordered.length + index then ordered[(ordered.length + index).toNat]?
  else none

/-- `position` of the percentile in the sorted list. -/
def percentilePosition (values : List ℚ) (quantile : ℚ) : ℚ := (values.length - 1 : ℚ) * quantile

/-- `percentile`, nothing where it raises `IndexError`. -/
def indexedPercentile (values : List ℚ) (quantile : ℚ) : Option ℚ := do
  let ordered := sortBy id values
  let position := percentilePosition ordered quantile
  let lower := ⌊position⌋
  let upper := ⌈position⌉
  if ordered.length = 1 then item ordered 0
  else if lower = upper then item ordered lower
  else
    let below ← item ordered lower
    let above ← item ordered upper
    return below + (above - below) * (position - lower)

end RoboticsRuntime.Harness
