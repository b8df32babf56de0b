import RoboticsRuntime.Theory.Failures
import RoboticsRuntime.Verify.DurationRuns
import Mathlib.Algebra.Order.BigOperators.Group.List

/-!
# When an evaluation of metrics returns

The evaluation turns the errors of the metrics into evaluations. Every histogram that is built on the
way passes its other checks, and a window with contributions has a positive length, so that what is
left to end the evaluation are sums that are rounded to infinity and conversions that leave the range
of floats.
-/

namespace RoboticsRuntime.Harness
open Theory Contracts

/-- `evaluate_metric_assertions` makes an evaluation of an error. -/
def MetricFailure.Recovered : MetricFailure → Prop
  | .input _ => False
  | .aggregation _ => True
  | .insufficient _ => True
  | .overflow _ => False

/-- A part of the evaluation has no errors but those that become an evaluation. -/
abbrev Recovers (x : Except MetricFailure α) : Prop := FailsOnly MetricFailure.Recovered x

@[simp] theorem recovers_insufficient {p : Prop} [Decidable p] {message : String}
    {f : Unit → Except MetricFailure α} :
    Recovers (require p (.insufficient message) >>= f) ↔ (p → Recovers (f ())) :=
  FailsOnly.require_bind_iff trivial

@[simp] theorem isFinite_roundFloat {value : ℚ} : isFinite (roundFloat value) = true ↔ InRange value := by
  have hlimit : 0 < floatLimit := by
    rw [floatLimit_eq]
    positivity
  unfold roundFloat InRange
  rw [abs_lt]
  split_ifs with hhigh hlow
  · simp [isFinite, not_lt.2 hhigh]
  · simp [isFinite, not_lt.2 hlow]
  · simp [isFinite, not_le.1 hhigh, not_le.1 hlow]

/-- The points whose difference a series contributes. -/
inductive Subtracts (series : List HistogramSample) (windowStartNs : ℤ) :
    HistogramSample → HistogramSample → Prop
  | marked (hordered : checkedCumulativeSeries series = .ok ordered)
      (hfirst : ordered.head? = some first) (hlatest : ordered.getLast? = some latest)
      (hnew : windowStartNs < latest.observedAtNs) (hstart : windowStartNs ≤ latest.startTimeNs)
      (hmarker : first.startTimeNs = first.observedAtNs) :
      Subtracts series windowStartNs latest first
  | continued (hordered : checkedCumulativeSeries series = .ok ordered)
      (hlatest : ordered.getLast? = some latest) (hnew : windowStartNs < latest.observedAtNs)
      (hstart : latest.startTimeNs < windowStartNs)
      (hbaseline : windowBaseline ordered latest windowStartNs = .ok baseline) :
      Subtracts series windowStartNs latest baseline

/-- The baseline of a series is not newer than its latest point. -/
theorem Subtracts.observed_le {series : List HistogramSample} {windowStartNs : ℤ}
    {latest baseline : HistogramSample} (h : Subtracts series windowStartNs latest baseline) :
    baseline.observedAtNs ≤ latest.observedAtNs := by
  cases h with
  | marked hordered hfirst hlatest =>
    obtain ⟨-, hpairs⟩ := checkedCumulativeSeries_eq_ok hordered
    rcases eq_or_rel_getLast? hpairs hlatest (List.mem_of_head? hfirst) with rfl | hlt
    · exact le_rfl
    · exact hlt.1.le
  | continued _ _ hnew _ hbaseline =>
    obtain ⟨last, -, hfields, -⟩ := windowBaseline_eq_ok hbaseline
    rw [hfields]
    exact hnew.le

theorem MetricFailure.Recovered.asInsufficient {e : MetricFailure} (h : e.Recovered) :
    e.asInsufficient.Recovered := by
  cases e with
  | input _ | overflow _ => exact h
  | aggregation _ | insufficient _ => trivial

/-- The gauges leave no time without a sample that is longer than the greatest gap. -/
def Uninterrupted (maxGapNs : ℤ) (samples : List MetricPoint) (window : Window) : Prop :=
  coverageGaps ((orderedGauges samples).map (·.observedAtNs)) maxGapNs window = []

/-- An evaluation of an assertion carries its identifier, and no namespace or evidence. -/
def MetricAssertion.Evaluates (assertion : MetricAssertion) (evaluation : AssertionEvaluation) :
    Prop :=
  ∃ status observedValue unit message, evaluation = {
    assertionId := assertion.assertionId
    status := status
    observedValue := observedValue
    unit := unit
    message := message }

theorem MetricAssertion.evaluates_errorEvaluation (assertion : MetricAssertion) (message : String) :
    assertion.Evaluates (assertion.errorEvaluation message) :=
  ⟨_, _, _, _, rfl⟩

theorem evaluateSelected_evaluates {texts : MetricTexts} {assertion : MetricAssertion}
    {selected : SelectedPoints} (h : evaluateSelected texts assertion selected = .ok evaluation) :
    assertion.Evaluates evaluation := by
  unfold evaluateSelected at h
  split at h
  · obtain ⟨result, -, h⟩ := bind_eq_ok.1 h
    obtain rfl := Except.ok.inj h
    exact ⟨_, _, _, _, rfl⟩
  · split at h
    · obtain ⟨_, -, h⟩ := bind_eq_ok.1 h
      obtain ⟨_, -, h⟩ := bind_eq_ok.1 h
      obtain ⟨_, -, h⟩ := bind_eq_ok.1 h
      obtain ⟨_, -, h⟩ := bind_eq_ok.1 h
      obtain rfl := Except.ok.inj h
      exact ⟨_, _, _, _, rfl⟩
    · obtain ⟨_, -, h⟩ := bind_eq_ok.1 h
      obtain rfl := Except.ok.inj h
      exact ⟨_, _, _, _, rfl⟩

theorem selectPoints_evaluates {py : PyOps} {assertion : MetricAssertion}
    {points : List MetricPoint} {lengthNs : ℤ} {windowStartNs windowEndNs : Option ℤ}
    (h : selectPoints py assertion points lengthNs windowStartNs windowEndNs = .error evaluation) :
    assertion.Evaluates evaluation := by
  simp only [selectPoints, seq_eq_error, require_eq_error, reduceCtorEq, pure, Except.pure,
    and_false, or_false] at h
  rcases h with ⟨-, rfl⟩ | ⟨-, -, rfl⟩ <;> exact assertion.evaluates_errorEvaluation _

theorem evaluateMetricAssertion_evaluates {texts : MetricTexts} {samples : List MetricPoint}
    {windowStartNs windowEndNs : Option ℤ} {assertion : MetricAssertion}
    (h : evaluateMetricAssertion texts samples windowStartNs windowEndNs assertion =
      .ok evaluation) : assertion.Evaluates evaluation := by
  unfold evaluateMetricAssertion at h
  dsimp only at h
  split at h
  · obtain rfl := Except.ok.inj h
    exact assertion.evaluates_errorEvaluation _
  · obtain ⟨lengthNs, -, h⟩ := bind_eq_ok.1 h
    split at h
    · next hselect =>
      obtain rfl := Except.ok.inj h
      exact selectPoints_evaluates hselect
    · next selected _ =>
      cases hevaluate : evaluateSelected texts assertion selected with
      | ok e =>
        rw [hevaluate] at h
        obtain rfl := Except.ok.inj h
        exact evaluateSelected_evaluates hevaluate
      | error e =>
        rw [hevaluate] at h
        cases e with
        | input _ | overflow _ => cases h
        | aggregation _ | insufficient _ =>
          obtain rfl := Except.ok.inj h
          exact ⟨_, _, _, _, rfl⟩

theorem evaluateMetricAssertions_identifiers {texts : MetricTexts}
    {assertions : List MetricAssertion} {samples : List MetricPoint} {start stop : Option ℤ}
    (h : evaluateMetricAssertions texts assertions samples start stop = .ok evaluations) :
    evaluations.map (·.assertionId) = assertions.map (·.assertionId) := by
  simp only [evaluateMetricAssertions, seq_eq_ok] at h
  refine (map_eq_of_forall₂ (fun assertion evaluation he => ?_) (mapM_eq_ok.1 h.2.2)).symm
  obtain ⟨_, _, _, _, rfl⟩ := evaluateMetricAssertion_evaluates he
  rfl

end RoboticsRuntime.Harness
