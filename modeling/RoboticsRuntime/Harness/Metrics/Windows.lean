import Mathlib.Algebra.Order.Group.Abs
import Mathlib.Algebra.Order.Ring.Int
import Mathlib.Data.List.Sort
import RoboticsRuntime.Harness.Metrics.Samples
import RoboticsRuntime.Python.Floats
import RoboticsRuntime.Theory.Grouping
import RoboticsRuntime.Theory.Intervals

/-!
# Evaluation windows

`metrics.py`: the intervals that points contribute to an evaluation window, the selection of delta
points, and the check that the intervals of every series cover the window.
-/

namespace RoboticsRuntime.Harness
open Theory

/-- `METRIC_WINDOW_COVERAGE_TOLERANCE_NS`. -/
def metricWindowCoverageToleranceNs : ℤ := 1000000000

/-- `METRIC_WINDOW_MAX_UNCOVERED_FRACTION`. -/
def metricWindowMaxUncoveredFraction : ℚ := double (1 / 20)

/-- `window_start_ns` and `window_end_ns`. -/
structure Window where
  startNs : ℤ
  endNs : ℤ
  deriving DecidableEq, Repr

/-- An entry of `MetricIntervalCoverage`: the time after `startNs` up to `endNs`. -/
structure Coverage where
  series : SeriesKey
  startNs : ℤ
  endNs : ℤ
  deriving DecidableEq

namespace Coverage

/-- The order of `sorted` on the entries. -/
def sortKey (interval : Coverage) : SeriesKey ×ₗ ℤ ×ₗ ℤ :=
  toLex (interval.series, toLex (interval.startNs, interval.endNs))

end Coverage

/-- The interval of a point, from its start to its observation. -/
def HistogramSample.interval (sample : HistogramSample) : Coverage :=
  ⟨sample.attributes, sample.startTimeNs, sample.observedAtNs⟩

def MetricSample.interval (sample : MetricSample) : Coverage :=
  ⟨sample.attributes, sample.startTimeNs, sample.observedAtNs⟩

/-- `_interval_coverage`, from the intervals of the points. -/
def intervalCoverage (intervals : List Coverage) : List Coverage :=
  intervals.insertionSort fun a b => a.sortKey ≤ b.sortKey

theorem intervalCoverage_perm (intervals : List Coverage) :
    (intervalCoverage intervals).Perm intervals :=
  List.perm_insertionSort _ _

/-- A time lies in an interval. -/
abbrev Coverage.Contains (interval : Coverage) : ℤ → Prop :=
  Inside Coverage.startNs Coverage.endNs interval

/-- The nanoseconds of the window that lie in no interval of a series. -/
noncomputable def uncoveredNs (window : Window) (coverage : List Coverage) (series : SeriesKey) : ℕ :=
  uncovered Coverage.startNs Coverage.endNs (coverage.filter (·.series = series)) window.startNs
    window.endNs

/-- An interval is in the window. -/
def Window.Includes (window : Window) (interval : Coverage) : Prop :=
  window.startNs ≤ interval.startNs ∧ interval.endNs ≤ window.endNs

/-! ## Delta points -/

/-- The check of the points of one series, in order of time. -/
def checkDeltaSeries (metricName : String) (series : List Coverage) : Except MetricFailure Unit :=
  let ordered := series.insertionSort fun a b =>
    toLex (a.startNs, a.endNs) ≤ toLex (b.startNs, b.endNs)
  forM (ordered.zip ordered.tail) fun (previous, sample) =>
    require (previous.endNs ≤ sample.startNs)
      (.aggregation s!"{metricName} contains duplicate or overlapping delta intervals")

/-- `_validated_delta_points`, for points with the given intervals. -/
def validatedDeltaPoints (interval : α → Coverage) (samples : List α) (metricName : String)
    (window : Window) : Except MetricFailure (List α) := do
  let selected := samples.filter fun sample =>
    window.startNs ≤ (interval sample).endNs ∧ (interval sample).endNs ≤ window.endNs ∧
      window.startNs ≤ (interval sample).startNs
  forM selected fun sample =>
    require ((interval sample).startNs < (interval sample).endNs)
      (.aggregation s!"{metricName} contains an empty or reversed delta interval")
  forM (groups Coverage.series (selected.map interval)) fun (_, series) =>
    checkDeltaSeries metricName series
  return selected

theorem validatedDeltaPoints_eq_ok {interval : α → Coverage}
    (h : validatedDeltaPoints interval samples metricName window = .ok points) :
    ∀ point ∈ points, point ∈ samples ∧ window.Includes (interval point) := by
  obtain ⟨-, h⟩ := seq_eq_ok.1 h
  obtain ⟨-, h⟩ := seq_eq_ok.1 h
  obtain rfl := Except.ok.inj h
  intro point hp
  rw [List.mem_filter, decide_eq_true_eq] at hp
  exact ⟨hp.1, hp.2.2.2, hp.2.2.1⟩

/-! ## Coverage of the window -/

/-- `_interior_coverage_gap_ns`, from the end of the previous interval and the time that is
uncovered so far. -/
def interiorCoverageGapNs (metricName : String) (temporality : Option MetricTemporality)
    (window : Window) : Option ℤ → ℤ → List Coverage → Except MetricFailure ℤ
  | _, uncovered, [] => .ok uncovered
  | previous, uncovered, interval :: intervals => do
    require (interval.startNs < interval.endNs)
      (.aggregation s!"{metricName} contains empty or reversed coverage intervals")
    let gap ← match previous with
      | none => pure 0
      | some previousEnd => do
        require (previousEnd ≤ interval.startNs)
          (.aggregation s!"{metricName} contains overlapping coverage intervals")
        require (interval.startNs ≤ previousEnd ∨ temporality = some .delta)
          (.aggregation s!"{metricName} contains gapped coverage intervals")
        pure (max 0 (min interval.startNs window.endNs - max previousEnd window.startNs))
    interiorCoverageGapNs metricName temporality window (some interval.endNs) (uncovered + gap)
      intervals

/-- `effective_tolerance_ns`: the tolerance, and at most a fraction of the window that is computed
with floats. -/
def effectiveToleranceNs (window : Window) (toleranceNs : ℤ) : Except OverflowError ℤ := do
  let windowDurationNs ← numberToFloat double (window.endNs - window.startNs : ℤ)
  return min toleranceNs (truncate (double (windowDurationNs * metricWindowMaxUncoveredFraction)))

/-- The check of one series. -/
def checkSeriesCoverage (metricName : String) (temporality : Option MetricTemporality)
    (window : Window) (effectiveToleranceNs : ℤ) (intervals : List Coverage) :
    Except MetricFailure Unit :=
  match intervals.insertionSort fun a b =>
    toLex (a.startNs, a.endNs) ≤ toLex (b.startNs, b.endNs) with
  | [] => .ok ()
  | first :: rest => do
    let last := (first :: rest).getLast (List.cons_ne_nil first rest)
    let interior ← interiorCoverageGapNs metricName temporality window none 0 (first :: rest)
    require (|first.startNs - window.startNs| ≤ effectiveToleranceNs)
      (.aggregation s!"{metricName} starts outside the evaluation-window coverage tolerance")
    require (|last.endNs - window.endNs| ≤ effectiveToleranceNs)
      (.aggregation s!"{metricName} ends outside the evaluation-window coverage tolerance")
    require (max 0 (first.startNs - window.startNs) + interior +
        max 0 (window.endNs - last.endNs) ≤ effectiveToleranceNs)
      (.aggregation s!"{metricName} does not cover enough of the evaluation window")

/-- `require_window_coverage`. -/
def requireWindowCoverage (coverage : List Coverage) (metricName : String)
    (temporality : Option MetricTemporality) (window : Window) (toleranceNs : ℤ) :
    Except MetricFailure Unit := do
  require (0 ≤ toleranceNs) (.input "metric coverage tolerance cannot be negative")
  require (0 < window.endNs - window.startNs)
    (.input "metric evaluation window must have positive duration")
  let effectiveToleranceNs ←
    (effectiveToleranceNs window toleranceNs).mapError MetricFailure.overflow
  require (coverage ≠ []) (.aggregation s!"{metricName} has no interval coverage")
  forM (groups Coverage.series coverage) fun (_, intervals) =>
    checkSeriesCoverage metricName temporality window effectiveToleranceNs intervals

/-! ## The tolerance -/

theorem metricWindowMaxUncoveredFraction_eq :
    metricWindowMaxUncoveredFraction = 3602879701896397 / 72057594037927936 := by decide +kernel

theorem truncate_of_nonneg {value : ℚ} (h : 0 ≤ value) : truncate value = ⌊value⌋ := if_pos h

/-- Rounding raises a number by at most half of its last digit. -/
theorem double_le_mul {value : ℚ} (h : 1 / 64 ≤ value) :
    double value ≤ value * (1 + 1 / 9007199254740992) := by
  have habs : |value| = value := abs_of_nonneg (le_trans (by norm_num) h)
  have herror := @abs_sub_double_le value (by
    rw [habs]
    refine le_trans (zpow_le_zpow_right₀ one_le_two (by decide : (-1022 : ℤ) ≤ -6)) ?_
    exact le_trans (by norm_num) h)
  rw [habs, show (2 : ℚ) ^ (-53 : ℤ) = 1 / 9007199254740992 by norm_num] at herror
  have := (abs_le.1 herror).1
  linarith

/-- What `int(window_duration_ns * 0.05)` is computed from. -/
theorem uncoveredFraction_le {duration : ℤ} (hpos : 1 ≤ duration) :
    double (double duration * metricWindowMaxUncoveredFraction) ≤
      duration * (1 + 1 / 9007199254740992) * metricWindowMaxUncoveredFraction *
        (1 + 1 / 9007199254740992) := by
  have hone : (1 : ℚ) ≤ duration := by exact_mod_cast hpos
  have hlow : (1 : ℚ) ≤ double duration := by
    have hmono := double_mono hone
    have hexact : double 1 = 1 := by exact_mod_cast double_intCast (n := 1) (by decide)
    rwa [hexact] at hmono
  have hfraction : (1 : ℚ) / 64 ≤ metricWindowMaxUncoveredFraction := by
    rw [metricWindowMaxUncoveredFraction_eq]
    norm_num
  have hfraction' : 0 ≤ metricWindowMaxUncoveredFraction := le_trans (by norm_num) hfraction
  refine (double_le_mul (hfraction.trans (le_mul_of_one_le_left hfraction' hlow))).trans ?_
  have hround := double_le_mul (le_trans (by norm_num : (1 : ℚ) / 64 ≤ 1) hone)
  exact mul_le_mul_of_nonneg_right (mul_le_mul_of_nonneg_right hround hfraction') (by norm_num)

theorem effectiveToleranceNs_eq_ok {window : Window} {toleranceNs tolerance : ℤ} :
    effectiveToleranceNs window toleranceNs = .ok tolerance ↔
      InRange (window.endNs - window.startNs : ℤ) ∧
        tolerance = min toleranceNs (truncate (double
          (double (window.endNs - window.startNs : ℤ) * metricWindowMaxUncoveredFraction))) := by
  simp only [effectiveToleranceNs, numberToFloat, bind_eq_ok, toFloat_eq_ok, pure, Except.pure,
    Except.ok.injEq]
  constructor
  · rintro ⟨_, ⟨hrange, rfl⟩, rfl⟩
    exact ⟨hrange, rfl⟩
  · rintro ⟨hrange, rfl⟩
    exact ⟨_, ⟨hrange, rfl⟩, rfl⟩

/-- In a window of less than twenty seconds the floats give a twentieth of it exactly. -/
theorem truncate_uncoveredFraction {duration : ℤ} (hpos : 1 ≤ duration)
    (hlt : duration < 20000000000) :
    truncate (double (double duration * metricWindowMaxUncoveredFraction)) = duration / 20 := by
  have hone : (1 : ℚ) ≤ duration := by exact_mod_cast hpos
  have hbound : (duration : ℚ) < 20000000000 := by exact_mod_cast hlt
  have hexact : double duration = duration := double_intCast (by rw [abs_of_pos] <;> omega)
  have hquotient : double (duration / 20 : ℤ) = (duration / 20 : ℤ) :=
    double_intCast (by rw [abs_of_nonneg] <;> omega)
  have hmod : (duration : ℚ) = 20 * (duration / 20 : ℤ) + (duration % 20 : ℤ) := by
    exact_mod_cast (Int.mul_ediv_add_emod duration 20).symm
  have hrest : (0 : ℚ) ≤ (duration % 20 : ℤ) ∧ ((duration % 20 : ℤ) : ℚ) ≤ 19 :=
    ⟨by exact_mod_cast (by omega : 0 ≤ duration % 20),
      by exact_mod_cast (by omega : duration % 20 ≤ 19)⟩
  have hupper := uncoveredFraction_le hpos
  have hlower : ((duration / 20 : ℤ) : ℚ) ≤
      double (double duration * metricWindowMaxUncoveredFraction) := by
    rw [← hquotient]
    apply double_mono
    rw [hexact, metricWindowMaxUncoveredFraction_eq]
    linarith
  have hnonneg : (0 : ℚ) ≤ (duration / 20 : ℤ) := by
    exact_mod_cast (by omega : 0 ≤ duration / 20)
  rw [truncate_of_nonneg (hnonneg.trans hlower), Int.floor_eq_iff]
  refine ⟨hlower, hupper.trans_lt ?_⟩
  rw [metricWindowMaxUncoveredFraction_eq]
  linarith

/-- Up to a tolerance of one second, the floats tolerate a twentieth of the window exactly. -/
theorem effectiveToleranceNs_eq_twentieth {window : Window} {toleranceNs tolerance : ℤ}
    (hpos : window.startNs < window.endNs) (htolerance : toleranceNs ≤ 1000000000)
    (h : effectiveToleranceNs window toleranceNs = .ok tolerance) :
    tolerance = min toleranceNs ((window.endNs - window.startNs) / 20) := by
  obtain ⟨-, rfl⟩ := effectiveToleranceNs_eq_ok.1 h
  have hone : 1 ≤ window.endNs - window.startNs := by omega
  generalize window.endNs - window.startNs = duration at *
  rcases lt_or_ge duration 20000000000 with hlt | hge
  · rw [truncate_uncoveredFraction hone hlt]
  · -- The tolerance is the smaller one by either computation.
    have hlow : (1000000000 : ℚ) ≤ double (double duration * metricWindowMaxUncoveredFraction) := by
      have hseconds : double (20000000000 : ℤ) = (20000000000 : ℤ) := double_intCast (by decide)
      have hsecond : double (1000000000 : ℤ) = (1000000000 : ℤ) := double_intCast (by decide)
      have hduration : (20000000000 : ℚ) ≤ double duration := by
        have := double_mono (by exact_mod_cast hge : ((20000000000 : ℤ) : ℚ) ≤ duration)
        rw [hseconds] at this
        exact_mod_cast this
      have hmono := double_mono (a := (1000000000 : ℤ))
        (b := double duration * metricWindowMaxUncoveredFraction) (by
          rw [metricWindowMaxUncoveredFraction_eq]
          push_cast
          linarith)
      rw [hsecond] at hmono
      exact_mod_cast hmono
    have hfloor : 1000000000 ≤
        ⌊double (double duration * metricWindowMaxUncoveredFraction)⌋ :=
      Int.le_floor.2 (by exact_mod_cast hlow)
    rw [truncate_of_nonneg (le_trans (by norm_num) hlow), min_eq_left (htolerance.trans hfloor),
      min_eq_left (by omega)]

/-! ## What the checks of the coverage establish -/

/-- Accepted intervals of the window follow each other, and the gaps between them and up to the end
of the window add up. -/
theorem interiorCoverageGapNs_eq_ok (hpos : window.startNs ≤ previous.endNs)
    (hwithin : ∀ interval ∈ intervals, window.Includes interval)
    (h : interiorCoverageGapNs metricName temporality window (some previous.endNs) acc intervals =
      .ok gap) :
    (∀ interval ∈ intervals, interval.startNs < interval.endNs) ∧
      (previous :: intervals).IsChain (fun a b => a.endNs ≤ b.startNs) ∧
      gap + (window.endNs - ((previous :: intervals).getLast (List.cons_ne_nil _ _)).endNs) =
        acc + gaps Coverage.startNs Coverage.endNs window.endNs previous.endNs intervals := by
  induction intervals generalizing previous acc with
  | nil =>
    obtain rfl := Except.ok.inj h
    exact ⟨by simp, .singleton _, rfl⟩
  | cons interval intervals ih =>
    obtain ⟨⟨hlo, hhi⟩, hrest⟩ := List.forall_mem_cons.1 hwithin
    simp only [interiorCoverageGapNs, bind_eq_ok, require_eq_ok, exists_const] at h
    obtain ⟨hpositive, hordered, -, added, hadded, h⟩ := h
    obtain rfl := Except.ok.inj hadded
    obtain ⟨hall, hchain, hsum⟩ := ih (hlo.trans hpositive.le) hrest h
    refine ⟨List.forall_mem_cons.2 ⟨hpositive, hall⟩,
      List.isChain_cons_cons.2 ⟨hordered, hchain⟩, ?_⟩
    rw [List.getLast_cons (List.cons_ne_nil _ _), hsum, gaps, max_eq_left hpos,
      min_eq_left (hpositive.le.trans hhi), max_eq_right (sub_nonneg.2 hordered), add_assoc]

/-- An accepted series covers all of the window but the tolerance, with intervals that never
meet. -/
theorem checkSeriesCoverage_eq_ok (hwithin : ∀ interval ∈ intervals, window.Includes interval)
    (hne : intervals ≠ [])
    (h : checkSeriesCoverage metricName temporality window tolerance intervals = .ok ()) :
    (∀ interval ∈ intervals, interval.startNs < interval.endNs) ∧
      intervals.Pairwise (fun a b => ∀ t, ¬ (a.Contains t ∧ b.Contains t)) ∧
      (uncovered Coverage.startNs Coverage.endNs intervals window.startNs window.endNs : ℤ) ≤
        tolerance := by
  have hperm := List.perm_insertionSort (fun a b : Coverage =>
    toLex (a.startNs, a.endNs) ≤ toLex (b.startNs, b.endNs)) intervals
  unfold checkSeriesCoverage at h
  generalize List.insertionSort (fun a b : Coverage =>
    toLex (a.startNs, a.endNs) ≤ toLex (b.startNs, b.endNs)) intervals = ordered at h hperm
  cases ordered with
  | nil => exact absurd hperm.nil_eq.symm hne
  | cons first rest =>
    have hwithin' : ∀ interval ∈ first :: rest, window.Includes interval :=
      fun interval hi => hwithin interval (hperm.mem_iff.1 hi)
    obtain ⟨⟨hlo, hhi⟩, hrest⟩ := List.forall_mem_cons.1 hwithin'
    obtain ⟨interior, hinterior, h⟩ := bind_eq_ok.1 h
    simp only [seq_eq_ok, require_eq_ok] at h
    obtain ⟨-, -, htotal⟩ := h
    simp only [interiorCoverageGapNs, bind_eq_ok, require_eq_ok, exists_const] at hinterior
    obtain ⟨hpositive, zero, hzero, hinterior⟩ := hinterior
    obtain rfl := Except.ok.inj hzero
    obtain ⟨hall, hchain, hsum⟩ :=
      interiorCoverageGapNs_eq_ok (hlo.trans hpositive.le) hrest hinterior
    have hsuccessive : Successive Coverage.startNs Coverage.endNs (first :: rest) :=
      ⟨List.forall_mem_cons.2 ⟨hpositive, hall⟩, hchain⟩
    have hlast := (hwithin' _ (List.getLast_mem (List.cons_ne_nil first rest))).2
    refine ⟨fun interval hi => hsuccessive.1 interval (hperm.mem_iff.2 hi), ?_, ?_⟩
    · have hsymm : ∀ {a b : Coverage}, (∀ t, ¬ (a.Contains t ∧ b.Contains t)) →
          ∀ t, ¬ (b.Contains t ∧ a.Contains t) := fun h t ht => h t ht.symm
      exact (hperm.pairwise_iff hsymm).1 (hsuccessive.pairwise.imp fun h => not_inside_of_le h)
    · rw [← uncovered_perm hperm, uncovered_eq_gaps hsuccessive (hlo.trans (hpositive.le.trans hhi))
        (fun a ha => (hwithin' a ha).1) fun a ha => (hwithin' a ha).2, gaps]
      rw [max_eq_right (sub_nonneg.2 hlo), max_eq_right (sub_nonneg.2 hlast)] at htotal
      omega

theorem requireWindowCoverage_checks :
    requireWindowCoverage coverage metricName temporality window toleranceNs = .ok () ↔
      0 ≤ toleranceNs ∧ window.startNs < window.endNs ∧
        ∃ tolerance, effectiveToleranceNs window toleranceNs = .ok tolerance ∧ coverage ≠ [] ∧
          ∀ series ∈ groups Coverage.series coverage,
            checkSeriesCoverage metricName temporality window tolerance series.2 = .ok () := by
  unfold requireWindowCoverage
  simp only [seq_eq_ok, require_eq_ok, sub_pos]
  refine and_congr_right fun _ => and_congr_right fun _ => ?_
  rw [bind_eq_ok]
  simp only [mapError_eq_ok, seq_eq_ok, require_eq_ok, forM_eq_ok]

/-- An accepted coverage inside the window leaves no more than the tolerance of each series
uncovered, with intervals that never meet within a series. -/
theorem requireWindowCoverage_eq_ok (hwithin : ∀ interval ∈ coverage, window.Includes interval)
    (h : requireWindowCoverage coverage metricName temporality window toleranceNs = .ok ()) :
    (∀ interval ∈ coverage, interval.startNs < interval.endNs) ∧
      coverage.Pairwise (fun a b => a.series = b.series → ∀ t, ¬ (a.Contains t ∧ b.Contains t)) ∧
      ∃ tolerance, window.startNs < window.endNs ∧
        effectiveToleranceNs window toleranceNs = .ok tolerance ∧
        ∀ interval ∈ coverage,
          (uncoveredNs window coverage interval.series : ℤ) ≤ tolerance := by
  obtain ⟨-, hpos, tolerance, htolerance, -, hgroups⟩ := requireWindowCoverage_checks.1 h
  have hmem : ∀ interval ∈ coverage, interval ∈ coverage.filter (·.series = interval.series) :=
    fun interval hi => List.mem_filter.2 ⟨hi, by simp⟩
  have hseries := fun interval hi => checkSeriesCoverage_eq_ok
    (fun i hi => hwithin i (List.mem_filter.1 hi).1) (List.ne_nil_of_mem (hmem interval hi))
    (hgroups (interval.series, coverage.filter (·.series = interval.series))
      (mem_groups.2 ⟨⟨interval, hi, rfl⟩, rfl⟩))
  refine ⟨fun interval hi => (hseries interval hi).1 interval (hmem interval hi), ?_,
    tolerance, hpos, htolerance, fun interval hi => (hseries interval hi).2.2⟩
  rw [List.pairwise_iff_forall_sublist]
  intro a b hsub hab
  have ha : a ∈ coverage := hsub.subset (by simp)
  have hfilter := hsub.filter (fun i : Coverage => decide (i.series = a.series))
  refine List.pairwise_iff_forall_sublist.1 (hseries a ha).2.1 ?_
  simpa [hab] using hfilter

end RoboticsRuntime.Harness
