import RoboticsRuntime.Harness.Metrics.Evaluation
import RoboticsRuntime.Theory.Runs
import Mathlib.Algebra.Order.Ring.Rat
import Mathlib.Data.Rat.Cast.Order

/-!
# Contiguous durations

The scan of a duration predicate against the signal that holds the last gauge: what it reports is the
longest stretch of time in which the comparison holds, or does not hold.
-/

namespace RoboticsRuntime.Harness
open Theory

/-- The outcome of a comparison over time, which holds the last gauge until the next. -/
def heldSignal (holds : MetricSample → Bool) (gauges : List MetricSample) (t : ℚ) : Option Bool :=
  ((gauges.filter fun sample => (sample.observedAtNs : ℚ) ≤ t).getLast?).map holds

/-- The outcome whose stretches a requirement is about. -/
def DurationKind.value : DurationKind → Bool
  | minimumContiguous => true
  | maximumViolation => false

/-- The length of the longest stretch meets a requirement. -/
def DurationRequirement.Met (requirement : DurationRequirement) (seconds : ℚ) : Prop :=
  match requirement.kind with
  | .minimumContiguous => double requirement.durationSec ≤ seconds
  | .maximumViolation => seconds ≤ double requirement.durationSec

/-! ## The scan as a scan of runs -/

/-- What the scan keeps, as the runs of a signal. -/
def DurationState.runs (state : DurationState) : RunState ℚ where
  value := state.currentValue
  length := state.currentDurationNs
  longest value := if value then state.longestTrueNs else state.longestFalseNs

theorem DurationState.runs_initial : DurationState.runs {} = RunState.initial := by
  simp [DurationState.runs, RunState.initial]

theorem DurationState.runs_extend (state : DurationState) (lengthNs : ℤ) (value : Bool) :
    (state.extend lengthNs value).runs = state.runs.extend lengthNs value := by
  have hlength : (((if state.currentValue = some value then state.currentDurationNs else 0) +
      lengthNs : ℤ) : ℚ) =
      (if state.currentValue = some value then (state.currentDurationNs : ℚ) else 0) + lengthNs := by
    split <;> simp
  cases value with
  | true =>
    refine RunState.ext rfl hlength (funext fun v => ?_)
    cases v with
    | true => exact Int.cast_max.trans (congrArg (max _) hlength)
    | false => rfl
  | false =>
    refine RunState.ext rfl hlength (funext fun v => ?_)
    cases v with
    | true => rfl
    | false => exact Int.cast_max.trans (congrArg (max _) hlength)

theorem DurationState.longest_runs (state : DurationState) (kind : DurationKind) :
    state.runs.longest kind.value = state.observedNs kind := by
  cases kind <;> rfl

/-- The time at which the scan stands before the gauges that are left. -/
def scanTime (window : Window) (rest : List MetricSample) : ℤ :=
  (rest.head?.map (·.observedAtNs)).getD window.endNs

/-- From a gauge until the next, the signal is the outcome of its comparison. -/
theorem constant_heldSignal (holds : MetricSample → Bool) (window : Window)
    (before : List MetricSample) {sample : MetricSample} {rest : List MetricSample}
    (hsorted : (sample :: rest).Pairwise fun a b => a.observedAtNs ≤ b.observedAtNs) :
    Constant (heldSignal holds (before ++ sample :: rest)) (holds sample)
      (sample.observedAtNs : ℚ) (scanTime window rest : ℚ) := by
  intro t hlow hhigh
  have hrest : rest.filter (fun s => ((s.observedAtNs : ℚ) ≤ t : Bool)) = [] := by
    cases rest with
    | nil => rfl
    | cons next rest =>
      apply List.filter_eq_nil_iff.2
      intro s hs
      have hnext : next.observedAtNs ≤ s.observedAtNs := by
        rcases List.mem_cons.1 hs with rfl | hs
        · exact le_rfl
        · exact (List.pairwise_cons.1 (List.pairwise_cons.1 hsorted).2).1 s hs
      simpa using hhigh.trans_le (Int.cast_le.2 hnext)
  rw [heldSignal, List.filter_append, List.filter_cons_of_pos (by simpa using hlow), hrest,
    List.getLast?_append_cons]
  rfl

variable {holds : MetricSample → Bool} {window : Window} {start : ℚ}

/-- A scan that stands at a gauge has measured the signal until then, and in the end until the end
of the window. -/
theorem scanned_durationScan {before rest : List MetricSample} {state : DurationState}
    (hsorted : rest.Pairwise fun a b => a.observedAtNs ≤ b.observedAtNs)
    (hwithin : ∀ sample ∈ rest, window.startNs ≤ sample.observedAtNs ∧
      sample.observedAtNs ≤ window.endNs)
    (h : Scanned (heldSignal holds (before ++ rest)) start (scanTime window rest : ℚ) state.runs) :
    Scanned (heldSignal holds (before ++ rest)) start (window.endNs : ℚ)
      (durationScan window holds state rest).runs := by
  induction rest generalizing before state with
  | nil => exact h
  | cons sample rest ih =>
    obtain ⟨⟨hstart, hend⟩, hwithin'⟩ := List.forall_mem_cons.1 hwithin
    have hle : sample.observedAtNs ≤ scanTime window rest := by
      cases rest with
      | nil => exact hend
      | cons next rest => exact (List.pairwise_cons.1 hsorted).1 next List.mem_cons_self
    have hsegment : segmentNs window sample rest.head? =
        scanTime window rest - sample.observedAtNs := by
      rw [segmentNs, max_eq_left hstart]
      cases rest with
      | nil => rfl
      | cons next rest =>
        have := (hwithin' next List.mem_cons_self).2
        simp [scanTime, min_eq_left this]
    have hconstant := constant_heldSignal holds window before hsorted
    have happend : before ++ sample :: rest = (before ++ [sample]) ++ rest := by simp
    rw [happend] at h hconstant ⊢
    rw [durationScan, hsegment]
    split
    · next hempty =>
      have heq : scanTime window rest = sample.observedAtNs := by omega
      refine ih (List.pairwise_cons.1 hsorted).2 hwithin' ?_
      rw [heq]
      exact h
    · next hpositive =>
      refine ih (List.pairwise_cons.1 hsorted).2 hwithin' ?_
      have hlt : ((sample.observedAtNs : ℤ) : ℚ) < scanTime window rest :=
        Int.cast_lt.2 (by omega)
      rw [DurationState.runs_extend, Int.cast_sub]
      exact Scanned.extend h hlt hconstant

/-! ## The evaluation -/

theorem filterMap_gauge? {gauges : List MetricSample} (h : ∀ g ∈ gauges, g.instrumentKind = .gauge) :
    (gauges.map MetricPoint.scalar).filterMap MetricPoint.gauge? = gauges := by
  rw [List.filterMap_map]
  exact (List.filterMap_congr fun g hg => if_pos (h g hg)).trans List.filterMap_some

/-- Equal elements are one element. -/
theorem dedup_length_eq_one [DecidableEq α] {l : List α} (hne : l ≠ []) (h : ∀ a ∈ l, ∀ b ∈ l, a = b) :
    l.dedup.length = 1 := by
  rw [← List.toFinset_card_of_nodup (List.nodup_dedup l), Finset.card_eq_one]
  obtain ⟨a, ha⟩ := List.exists_mem_of_ne_nil l hne
  refine ⟨a, Finset.ext fun b => ?_⟩
  simp only [List.mem_toFinset, List.mem_dedup, Finset.mem_singleton]
  exact ⟨fun hb => h b hb a ha, fun hb => hb ▸ ha⟩

/-- The points are gauges of one series. -/
def IsGaugeSeries (samples : List MetricPoint) : Prop :=
  let gauges := samples.filterMap MetricPoint.gauge?
  gauges.length = samples.length ∧ (gauges.map (·.attributes)).dedup.length = 1

instance (samples : List MetricPoint) : Decidable (IsGaugeSeries samples) :=
  inferInstanceAs (Decidable (_ ∧ _))

theorem isGaugeSeries_of_gauges {gauges : List MetricSample} (hne : gauges ≠ [])
    (hgauges : ∀ g ∈ gauges, g.instrumentKind = .gauge)
    (hseries : ∀ a ∈ gauges, ∀ b ∈ gauges, a.attributes = b.attributes) :
    IsGaugeSeries (gauges.map MetricPoint.scalar) := by
  unfold IsGaugeSeries
  rw [filterMap_gauge? hgauges]
  refine ⟨(List.length_map _).symm, dedup_length_eq_one (List.map_eq_nil_iff.not.2 hne) ?_⟩
  intro a ha b hb
  obtain ⟨x, hx, rfl⟩ := List.mem_map.1 ha
  obtain ⟨y, hy, rfl⟩ := List.mem_map.1 hb
  exact hseries x hx y hy

/-- The gauges of a duration predicate, in order of time. -/
def orderedGauges (samples : List MetricPoint) : List MetricSample :=
  sortBy (fun sample : MetricSample => sample.observedAtNs) (samples.filterMap MetricPoint.gauge?)

/-- The gauges of one series, and no others, pass the checks before the one for gaps. -/
theorem durationGauges_series {samples : List MetricPoint} (h : IsGaugeSeries samples)
    (texts : MetricTexts) (maxSampleGapSec : ℚ) (window : Window) :
    durationGauges texts maxSampleGapSec samples window = (do
      let maxGapNs ← (nanoseconds maxSampleGapSec).mapError .overflow
      requireNoGaps texts
        (coverageGaps ((orderedGauges samples).map (·.observedAtNs)) maxGapNs window)
      return orderedGauges samples) := by
  have hperm := sortBy_perm (fun sample : MetricSample => sample.observedAtNs)
    (samples.filterMap MetricPoint.gauge?)
  have hseries := ((hperm.map (·.attributes)).dedup).length_eq
  rw [durationGauges]
  simp only [require_of (hperm.length_eq.trans h.1), require_of (hseries.trans h.2), ok_bind]
  rfl

/-- No gap between times of the window is longer than the window. -/
theorem le_of_mem_coverageGaps {timestamps : List ℤ} {maxGapNs gap : ℤ}
    (hsorted : timestamps.Pairwise (· ≤ ·))
    (hwithin : ∀ t ∈ timestamps, window.startNs ≤ t ∧ t ≤ window.endNs)
    (h : gap ∈ coverageGaps timestamps maxGapNs window) :
    0 ≤ gap ∧ gap ≤ window.endNs - window.startNs := by
  obtain ⟨h, -⟩ := List.mem_filter.1 h
  simp only [List.mem_append, List.mem_map, Option.mem_toList] at h
  rcases h with (⟨first, hfirst, rfl⟩ | ⟨pair, hpair, rfl⟩) | ⟨last, hlast, rfl⟩
  · have := hwithin first (List.mem_of_head? hfirst)
    omega
  · have hle := forall_zip_tail.2 hsorted.isChain pair hpair
    have hleft := hwithin pair.1 (List.of_mem_zip hpair).1
    have hright := hwithin pair.2 (List.mem_of_mem_tail (List.of_mem_zip hpair).2)
    omega
  · have := hwithin last (List.mem_of_getLast? hlast)
    omega

/-- The check finds a gap, unless its length in seconds is infinite. -/
theorem requireNoGaps_error (texts : MetricTexts) {gaps : List ℤ} (hne : gaps ≠ []) :
    ∃ longest ∈ gaps,
      (∃ message, requireNoGaps texts gaps = .error (.aggregation message)) ∨
      ¬ InRange (longest / 1000000000) ∧
        ∃ error, requireNoGaps texts gaps = .error (.overflow error) := by
  unfold requireNoGaps
  cases hmax : gaps.max? with
  | none => exact absurd (List.max?_eq_none_iff.1 hmax) hne
  | some longest =>
    refine ⟨longest, List.max?_mem hmax, ?_⟩
    dsimp only
    by_cases hrange : InRange (longest / 1000000000)
    · rw [toSeconds, toFloat_eq_ok.2 ⟨hrange, rfl⟩]
      exact .inl ⟨_, rfl⟩
    · rw [toSeconds, toFloat_of_not hrange]
      exact .inr ⟨hrange, _, rfl⟩

/-- The scan of the gauges finds the longest stretch of time from the first gauge to the end of the
window in which the comparison has an outcome. -/
theorem isGreatest_durationScan {gauges : List MetricSample} {first : MetricSample}
    (hfirst : gauges.head? = some first)
    (hsorted : gauges.Pairwise fun a b => a.observedAtNs ≤ b.observedAtNs)
    (hwithin : ∀ g ∈ gauges, window.startNs ≤ g.observedAtNs ∧ g.observedAtNs ≤ window.endNs)
    (kind : DurationKind) :
    IsGreatest (runLengths (heldSignal holds gauges) kind.value first.observedAtNs window.endNs)
      ((durationScan window holds {} gauges).observedNs kind : ℚ) := by
  cases gauges with
  | nil => cases hfirst
  | cons head rest =>
    obtain rfl := Option.some.inj hfirst
    have hstart : Scanned (heldSignal holds ([] ++ head :: rest)) (head.observedAtNs : ℚ)
        (scanTime window (head :: rest) : ℚ) (DurationState.runs {}) := by
      rw [DurationState.runs_initial]
      exact Scanned.initial
    have hgreatest := (scanned_durationScan hsorted hwithin hstart).longest kind.value
    rwa [DurationState.longest_runs] at hgreatest

/-- The longest stretch is no longer than the window. -/
theorem observedNs_bounds {gauges : List MetricSample} (hne : gauges ≠ [])
    (hsorted : gauges.Pairwise fun a b => a.observedAtNs ≤ b.observedAtNs)
    (hwithin : ∀ g ∈ gauges, window.startNs ≤ g.observedAtNs ∧ g.observedAtNs ≤ window.endNs)
    (kind : DurationKind) :
    0 ≤ (durationScan window holds {} gauges).observedNs kind ∧
      (durationScan window holds {} gauges).observedNs kind ≤ window.endNs - window.startNs := by
  have hfirst := List.head?_eq_some_head hne
  obtain ⟨a, b, ha, hab, hb, -, heq⟩ := (isGreatest_durationScan hfirst hsorted hwithin kind).1
  have hstart : (window.startNs : ℚ) ≤ (gauges.head hne).observedAtNs :=
    Int.cast_le.2 (hwithin _ (List.head_mem hne)).1
  rw [← Int.cast_nonneg_iff (R := ℚ), ← Int.cast_le (R := ℚ), ← heq]
  push_cast
  exact ⟨sub_nonneg.2 hab, by linarith⟩

/-- The numbers of a duration predicate and the length of its window are in the range of floats. -/
def DurationInRange (maxSampleGapSec : ℚ) (requirement : DurationRequirement) (window : Window) :
    Prop :=
  (∃ maxGapNs, nanoseconds maxSampleGapSec = .ok maxGapNs) ∧ InRange requirement.durationSec ∧
    InRange (window.endNs - window.startNs : ℤ)

/-- A duration predicate on the gauges of one series in the window is rejected for a gap, or reports
the longest stretch of time from the first gauge to the end of the window in which its comparison
holds, or does not hold, for the last gauge: the nearest number of seconds, which it compares with
the requirement. Nothing else ends it but a number that is out of the range of floats. -/
theorem durationEvaluation_longest (texts : MetricTexts) (assertion : MetricAssertion)
    (maxSampleGapSec : ℚ) (requirement : DurationRequirement) (gauges : List MetricSample)
    (window : Window) (hne : gauges ≠ []) (hgauges : ∀ g ∈ gauges, g.instrumentKind = .gauge)
    (hseries : ∀ a ∈ gauges, ∀ b ∈ gauges, a.attributes = b.attributes)
    (hwithin : ∀ g ∈ gauges, window.startNs ≤ g.observedAtNs ∧ g.observedAtNs ≤ window.endNs) :
    (¬ DurationInRange maxSampleGapSec requirement window ∧
      ∃ error, durationEvaluation texts assertion maxSampleGapSec requirement
        (gauges.map .scalar) window = .error (.overflow error)) ∨
    (∃ maxGapNs, nanoseconds maxSampleGapSec = .ok maxGapNs ∧
      coverageGaps ((sortBy (·.observedAtNs) gauges).map (·.observedAtNs)) maxGapNs window ≠ [] ∧
      ∃ message, durationEvaluation texts assertion maxSampleGapSec requirement
        (gauges.map .scalar) window = .error (.aggregation message)) ∨
    ∃ first longest passed, (sortBy (·.observedAtNs) gauges).head? = some first ∧
      IsGreatest (runLengths
        (heldSignal (fun sample => assertion.operator.compare sample.value assertion.threshold)
          (sortBy (·.observedAtNs) gauges))
        requirement.kind.value first.observedAtNs window.endNs) longest ∧
      durationEvaluation texts assertion maxSampleGapSec requirement (gauges.map .scalar) window =
        .ok (double (longest / 1000000000), passed) ∧
      (passed = true ↔ requirement.Met (double (longest / 1000000000))) := by
  rw [durationEvaluation, durationGauges_series (isGaugeSeries_of_gauges hne hgauges hseries),
    orderedGauges, filterMap_gauge? hgauges]
  have hsorted : (sortBy (fun sample : MetricSample => sample.observedAtNs) gauges).Pairwise
      fun a b => a.observedAtNs ≤ b.observedAtNs := pairwise_le_sortBy _ _
  have hmem : ∀ sample ∈ sortBy (fun sample : MetricSample => sample.observedAtNs) gauges,
      window.startNs ≤ sample.observedAtNs ∧ sample.observedAtNs ≤ window.endNs :=
    fun sample hs => hwithin sample (mem_sortBy.1 hs)
  have hnonempty : sortBy (fun sample : MetricSample => sample.observedAtNs) gauges ≠ [] :=
    fun hnil => hne (hnil ▸ sortBy_perm _ gauges).nil_eq.symm
  generalize sortBy (fun sample : MetricSample => sample.observedAtNs) gauges = sorted at *
  cases hgap : nanoseconds maxSampleGapSec with
  | error error =>
    refine .inl ⟨fun ⟨⟨maxGapNs, h⟩, _⟩ => ?_, error, rfl⟩
    rw [hgap] at h
    cases h
  | ok maxGapNs =>
    have hseconds : ∀ ns, 0 ≤ ns → ns ≤ window.endNs - window.startNs →
        ¬ InRange (ns / 1000000000) → ¬ DurationInRange maxSampleGapSec requirement window :=
      fun ns h0 hle hns h => hns (h.2.2.seconds h0 hle)
    by_cases hgaps : coverageGaps (sorted.map (·.observedAtNs)) maxGapNs window = []
    · set holds := fun sample : MetricSample =>
        assertion.operator.compare sample.value assertion.threshold
      have hfirst := List.head?_eq_some_head hnonempty
      have hgreatest := @isGreatest_durationScan holds window sorted _ hfirst hsorted hmem
        requirement.kind
      obtain ⟨h0, hle⟩ :=
        @observedNs_bounds holds window sorted hnonempty hsorted hmem requirement.kind
      have hnone : requireNoGaps texts (coverageGaps (sorted.map (·.observedAtNs)) maxGapNs window) =
          .ok () := by rw [hgaps]; rfl
      simp only [Except.mapError, hnone, ok_bind, pure_bind]
      by_cases hduration : InRange requirement.durationSec
      · rw [numberToFloat, toFloat_eq_ok.2 ⟨hduration, rfl⟩, toSeconds]
        by_cases hobserved :
            InRange ((durationScan window holds {} sorted).observedNs requirement.kind / 1000000000)
        · rw [toFloat_eq_ok.2 ⟨hobserved, rfl⟩]
          refine .inr (.inr ⟨_, _, _, hfirst, hgreatest, rfl, ?_⟩)
          unfold DurationKind.passed DurationRequirement.Met
          cases requirement.kind <;> simp
        · rw [toFloat_of_not hobserved]
          exact .inl ⟨hseconds _ h0 hle hobserved, _, rfl⟩
      · rw [numberToFloat, toFloat_of_not hduration]
        exact .inl ⟨fun h => hduration h.2.1, _, rfl⟩
    · have hbounds : ∀ gap ∈ coverageGaps (sorted.map (·.observedAtNs)) maxGapNs window,
          0 ≤ gap ∧ gap ≤ window.endNs - window.startNs := fun gap h =>
        le_of_mem_coverageGaps (List.pairwise_map.2 hsorted) (List.forall_mem_map.2 hmem) h
      obtain ⟨longest, hlongest, ⟨message, herror⟩ | ⟨hrange, error, herror⟩⟩ :=
        requireNoGaps_error texts hgaps
      · simp only [Except.mapError, herror, ok_bind]
        exact .inr (.inl ⟨maxGapNs, rfl, hgaps, message, rfl⟩)
      · simp only [Except.mapError, herror, ok_bind]
        exact .inl ⟨hseconds longest (hbounds _ hlongest).1 (hbounds _ hlongest).2 hrange, error, rfl⟩

/-! ## An example -/

theorem exampleGauge_checked (value : ℚ) {observedAtNs : ℤ} (h : 0 ≤ observedAtNs) :
    MetricFields.check ⟨"robot.speed", value, "m/s", observedAtNs, [], .gauge, none, 0, false⟩ =
      .ok () := by
  simp [MetricFields.check, require, h]

/-- A gauge of a speed. -/
def exampleGauge (value : ℚ) (observedAtNs : ℕ) : MetricSample :=
  ⟨⟨"robot.speed", value, "m/s", observedAtNs, [], .gauge, none, 0, false⟩,
    exampleGauge_checked value (Int.natCast_nonneg _)⟩

/-- The robot moves for at least a second. -/
def exampleDuration : MetricAssertion where
  assertionId := "moves"
  metricName := "robot.speed"
  unit := "m/s"
  operator := .gt
  threshold := 0
  windowSec := 10
  attributeMatch := []
  predicate := .metricDuration 10 ⟨.minimumContiguous, 1⟩

/-- Messages with numbers as Lean prints them. -/
def exampleTexts : MetricTexts := { PyOps.exact with sixDigits := toString }

/-- The robot moves until the gauge at 8 s: of the two gauges at 5 s the last one counts. -/
theorem durationEvaluation_longest_tied :
    ∃ longest, IsGreatest (runLengths
      (heldSignal (fun sample => Operator.gt.compare sample.value 0)
        [exampleGauge 1 0, exampleGauge 0 5000000000, exampleGauge 1 5000000000,
          exampleGauge 0 8000000000])
      true (0 : ℤ) (10000000000 : ℤ)) longest ∧ double (longest / 1000000000) = 8 ∧
    DurationRequirement.Met ⟨.minimumContiguous, 1⟩ (double (longest / 1000000000)) := by
  have hcomputed : durationEvaluation exampleTexts exampleDuration 10 ⟨.minimumContiguous, 1⟩
      ([exampleGauge 1 0, exampleGauge 0 5000000000, exampleGauge 1 5000000000,
        exampleGauge 0 8000000000].map .scalar) ⟨0, 10000000000⟩ = .ok (8, true) := by
    decide +kernel
  rcases durationEvaluation_longest exampleTexts exampleDuration 10 ⟨.minimumContiguous, 1⟩
    [exampleGauge 1 0, exampleGauge 0 5000000000, exampleGauge 1 5000000000,
      exampleGauge 0 8000000000] ⟨0, 10000000000⟩ (by simp) (by simp [exampleGauge])
    (by simp [exampleGauge]) (by simp [exampleGauge]) with
    ⟨-, error, herror⟩ | ⟨_, -, -, message, herror⟩ |
    ⟨first, longest, passed, hfirst, hgreatest, hok, hmet⟩
  · rw [hcomputed] at herror
    cases herror
  · rw [hcomputed] at herror
    cases herror
  · obtain rfl : exampleGauge 1 0 = first := Option.some.inj hfirst
    rw [hcomputed] at hok
    obtain ⟨hseconds, hpassed⟩ := Prod.mk.inj (Except.ok.inj hok)
    exact ⟨longest, hgreatest, hseconds.symm, hmet.1 hpassed.symm⟩

/-- The robot stands for 300 ms, which are reported as the float nearest to 0.3 s: a requirement of
at most so many seconds is met, although the exact time is longer. -/
theorem durationEvaluation_rounded :
    durationEvaluation exampleTexts exampleDuration 10 ⟨.maximumViolation, double (3 / 10)⟩
      ([exampleGauge 0 0, exampleGauge 1 300000000].map .scalar) ⟨0, 1000000000⟩ =
        .ok (double (3 / 10), true) ∧
      IsGreatest (runLengths
        (heldSignal (fun sample => Operator.gt.compare sample.value 0)
          [exampleGauge 0 0, exampleGauge 1 300000000]) false (0 : ℤ) (1000000000 : ℤ)) 300000000 ∧
      double (3 / 10) < 300000000 / 1000000000 := by
  refine ⟨by decide +kernel, ?_, by decide +kernel⟩
  have hgreatest := @isGreatest_durationScan (fun sample => Operator.gt.compare sample.value 0)
    ⟨0, 1000000000⟩ [exampleGauge 0 0, exampleGauge 1 300000000] (exampleGauge 0 0) rfl
    (by decide +kernel) (by decide +kernel) .maximumViolation
  have hscan : (durationScan ⟨0, 1000000000⟩ (fun sample => Operator.gt.compare sample.value 0) {}
      [exampleGauge 0 0, exampleGauge 1 300000000]).observedNs .maximumViolation = 300000000 := by
    decide +kernel
  rw [hscan] at hgreatest
  exact_mod_cast hgreatest

end RoboticsRuntime.Harness
