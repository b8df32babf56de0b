import RoboticsRuntime.Harness.Application

/-!
# The issues of a clock

What an evaluation of clock samples may report. An evaluation only adds issues to those there are,
and those it adds in a mode are listed by an inductive predicate.
-/

namespace RoboticsRuntime.Harness
open Theory Contracts

namespace TimingIssues

/-- At most `n` issues are added to those of `a`, and each of them is a `P`. -/
def Adds (P : ReadinessIssue → Prop) (n : ℕ) (a b : TimingIssues) : Prop :=
  ∃ violations insufficient,
    b = ⟨a.violations ++ violations, a.insufficient ++ insufficient⟩ ∧
      (violations ++ insufficient).length ≤ n ∧ ∀ issue ∈ violations ++ insufficient, P issue

variable {P : ReadinessIssue → Prop} {n m : ℕ} {a b c : TimingIssues} {path message : String}

theorem Adds.rfl : Adds P n a a :=
  ⟨[], [], by simp, Nat.zero_le _, by simp⟩

theorem Adds.trans (hab : Adds P n a b) (hbc : Adds P m b c) : Adds P (n + m) a c := by
  obtain ⟨v, i, rfl, hlength, hissues⟩ := hab
  obtain ⟨v', i', rfl, hlength', hissues'⟩ := hbc
  refine ⟨v ++ v', i ++ i', by simp only [List.append_assoc], ?_, fun issue h => ?_⟩
  · simp only [List.length_append] at hlength hlength' ⊢
    omega
  · simp only [List.mem_append] at h hissues hissues'
    rcases h with (h | h) | (h | h)
    · exact hissues issue (.inl h)
    · exact hissues' issue (.inl h)
    · exact hissues issue (.inr h)
    · exact hissues' issue (.inr h)

theorem Adds.mono {Q : ReadinessIssue → Prop} (h : Adds P n a b) (hPQ : ∀ issue, P issue → Q issue)
    (hnm : n ≤ m) : Adds Q m a b := by
  obtain ⟨v, i, hb, hlength, hissues⟩ := h
  exact ⟨v, i, hb, hlength.trans hnm, fun issue hi => hPQ issue (hissues issue hi)⟩

theorem adds_violation (h : P ⟨path, message⟩) : Adds P 1 a (a.violation path message) :=
  ⟨[⟨path, message⟩], [], by simp [violation], by simp, by simpa using h⟩

theorem adds_insufficiency (h : P ⟨path, message⟩) :
    Adds P 1 a (a.insufficiency path message) :=
  ⟨[], [⟨path, message⟩], by simp [insufficiency], by simp, by simpa using h⟩

theorem exists_adds (a : TimingIssues) (violations : List ReadinessIssue) :
    ∃ n, Adds (fun _ => True) n a ⟨a.violations ++ violations, a.insufficient⟩ :=
  ⟨_, violations, [], by rw [List.append_nil], le_rfl, fun _ _ => trivial⟩

/-- Where nothing is reported in the end, nothing was before. -/
theorem Adds.of_nil (h : Adds P n a b) (hv : b.violations = []) (hi : b.insufficient = []) :
    b = a := by
  obtain ⟨v, i, rfl, -⟩ := h
  simp only [List.append_eq_nil_iff] at hv hi
  rw [hv.2, hi.2, List.append_nil, List.append_nil]

end TimingIssues

open TimingIssues

/-! ## Real time -/

/-- The longest time without a callback, from the start of a measurement to its end. -/
def coverageGap (samples : List ClockSample) (first last : ClockSample)
    (window : ClockMeasurementWindow) : ℤ :=
  max (first.observedAtNs - window.startNs)
    (max (window.endNs - last.observedAtNs) ((sampleGaps samples).max?.getD 0))

/-- What an evaluation in real time may report. -/
inductive RealtimeIssue (py : PyOps) (minimum : ℚ) (samples : List ClockSample)
    (measurementWindow : Option ClockMeasurementWindow) : ReadinessIssue → Prop where
  | twoSamples : RealtimeIssue py minimum samples measurementWindow
      ⟨"$.time_policy.min_realtime_factor", "need two clock samples"⟩
  | unordered : RealtimeIssue py minimum samples measurementWindow
      ⟨"$.time_policy", "clock observation times must increase"⟩
  | outside : RealtimeIssue py minimum samples measurementWindow
      ⟨"$.time_policy", "clock samples fall outside measurement bounds"⟩
  | gap (first last : ClockSample) (window : ClockMeasurementWindow) (maximum : ℤ) :
      window ∈ measurementWindow → first ∈ samples.head? → last ∈ samples.getLast? →
        maximum = coverageGap samples first last window →
        RealtimeIssue py minimum samples measurementWindow
        ⟨"$.time_policy.min_realtime_factor",
          s!"clock coverage gap {maximum} ns exceeds allowance {window.maxSampleGapNs} ns"⟩
  | unobserved : RealtimeIssue py minimum samples measurementWindow
      ⟨"$.time_policy.max_deadline_miss_ratio",
        "deadline_miss_ratio was not observed for every sample"⟩
  | invalid : RealtimeIssue py minimum samples measurementWindow
      ⟨"$.time_policy.max_deadline_miss_ratio",
        "all deadline ratios must be finite and in [0, 1]; statistic unavailable"⟩
  | below (lower : ℚ) (upper : WithTop ℚ) : RealtimeIssue py minimum samples measurementWindow
      ⟨"$.time_policy.min_realtime_factor",
        "minimum window or integral RTF is at most " ++ showBound py upper ++
          "; recorded lower bound is " ++ py.number lower⟩
  | undetermined (lower : ℚ) (upper : WithTop ℚ) : RealtimeIssue py minimum samples measurementWindow
      ⟨"$.time_policy.min_realtime_factor",
        "RTF bound [" ++ py.number lower ++ ", " ++ showBound py upper ++
          "] does not determine whether the minimum " ++ py.declared minimum ++
          " is met; numeric RTF is a lower bound, not a measured violation"⟩
  | deadline (ratio : ℚ) : RealtimeIssue py minimum samples measurementWindow
      ⟨"$.time_policy.max_deadline_miss_ratio", "maximum observed value was " ++ py.number ratio⟩

section
variable {py : PyOps} {minimum : ℚ} {samples : List ClockSample} {issues issues' : TimingIssues}
  {measurementWindow : Option ClockMeasurementWindow}

theorem clockCoverage_adds {first last : ClockSample} (hfirst : first ∈ samples.head?)
    (hlast : last ∈ samples.getLast?) {window : ClockMeasurementWindow}
    (hwindow : window ∈ measurementWindow) :
    Adds (RealtimeIssue py minimum samples measurementWindow) 1 issues
      (clockCoverage samples first last window issues).2 := by
  unfold clockCoverage
  dsimp only
  split
  · exact adds_violation .outside
  · split
    · exact adds_insufficiency (.gap first last window _ hwindow hfirst hlast rfl)
    · exact .rfl

theorem windowedRealtimeFactor_adds {windowNs : ℤ}
    (h : windowedRealtimeFactor samples windowNs issues measurementWindow =
      some (bounds, issues')) :
    Adds (RealtimeIssue py minimum samples measurementWindow) 1 issues issues' := by
  unfold windowedRealtimeFactor at h
  split at h
  · obtain ⟨-, rfl⟩ := Prod.mk.inj (Option.some.inj h)
    exact adds_insufficiency .twoSamples
  · split at h
    · obtain ⟨-, rfl⟩ := Prod.mk.inj (Option.some.inj h)
      exact adds_violation .unordered
    · obtain ⟨first, hfirst, h⟩ := Option.bind_eq_some_iff.1 h
      obtain ⟨last, hlast, h⟩ := Option.bind_eq_some_iff.1 h
      cases measurementWindow with
      | some window =>
        have hissues : (clockCoverage samples first last window issues).2 = issues' := by
          simp only [Option.bind_eq_bind] at h
          split at h
          all_goals
            obtain ⟨lower, -, h⟩ := Option.bind_eq_some_iff.1 h
            obtain ⟨upper, -, h⟩ := Option.bind_eq_some_iff.1 h
            exact (Prod.mk.inj (Option.some.inj h)).2
        exact hissues ▸ clockCoverage_adds hfirst hlast rfl
      | none =>
        obtain ⟨state, -, h⟩ := Option.bind_eq_some_iff.1 h
        obtain ⟨-, rfl⟩ := Prod.mk.inj (Option.some.inj h)
        exact .rfl

theorem deadlineValues_adds (measured : Option ℚ) :
    Adds (RealtimeIssue py minimum samples measurementWindow) 2 issues (deadlineValues samples measured issues).2 := by
  unfold deadlineValues
  cases measured with
  | some ratio =>
    dsimp only
    split
    · exact (adds_violation .invalid).mono (fun _ hp => hp) (by omega)
    · exact .rfl
  | none =>
    have hrequired : Adds (RealtimeIssue py minimum samples measurementWindow) 1 issues
        (requiredValues (samples.map ClockSample.deadlineMissRatio) "deadline_miss_ratio"
          "$.time_policy.max_deadline_miss_ratio" issues).2 := by
      unfold requiredValues
      dsimp only
      split
      · exact adds_insufficiency .unobserved
      · exact .rfl
    generalize requiredValues (samples.map ClockSample.deadlineMissRatio) "deadline_miss_ratio"
      "$.time_policy.max_deadline_miss_ratio" issues = required at hrequired ⊢
    dsimp only
    split
    · exact hrequired.trans (adds_violation .invalid)
    · exact hrequired.mono (fun _ hp => hp) (by omega)

theorem reportRealtimeFactor_adds (lower : ℚ) (upper : WithTop ℚ) :
    Adds (RealtimeIssue py minimum samples measurementWindow) 1 issues
      (reportRealtimeFactor py minimum lower upper issues) := by
  unfold reportRealtimeFactor
  split
  · exact adds_violation (.below lower upper)
  · split
    · exact adds_insufficiency (.undetermined lower upper)
    · exact .rfl

/-- An evaluation in real time adds at most five issues. -/
theorem evaluateRealtime_adds {policy : RealtimePolicy} {windowNs : ℤ}
    (h : evaluateRealtime py policy samples issues windowNs measurementWindow =
      some (ratios, issues')) :
    Adds (RealtimeIssue py policy.minRealtimeFactor samples measurementWindow) 5 issues issues' := by
  obtain ⟨⟨⟨lower, upper⟩, windowed⟩, hwindowed, h⟩ := Option.bind_eq_some_iff.1 h
  have hbounds : Adds (RealtimeIssue py policy.minRealtimeFactor samples measurementWindow) 1
      issues windowed :=
    windowedRealtimeFactor_adds hwindowed
  have hvalues : Adds (RealtimeIssue py policy.minRealtimeFactor samples measurementWindow) 2
      windowed (deadlineValues samples (measurementWindow.bind (·.deadlineMissRatio)) windowed).2 :=
    deadlineValues_adds _
  cases hdeadline : deadlineValues samples (measurementWindow.bind (·.deadlineMissRatio))
    windowed with
  | mk values checked =>
    rw [hdeadline] at hvalues
    dsimp only at hvalues
    simp only [hdeadline] at h
    obtain ⟨-, rfl⟩ := Prod.mk.inj (Option.some.inj h)
    have hadds := (hbounds.trans hvalues).trans
      (reportRealtimeFactor_adds lower upper)
    split_ifs
    · exact hadds.trans (adds_violation (.deadline _))
    · exact hadds.mono (fun _ hp => hp) (by omega)

end

/-! ## The other modes -/

/-- What an evaluation of a played-back clock may report. -/
inductive PlaybackIssue (py : PyOps) : ReadinessIssue → Prop where
  | frequency (clockHz : ℚ) : PlaybackIssue py
      ⟨"$.time_policy.min_clock_hz", "observed clock frequency was " ++ py.number clockHz⟩
  | still : PlaybackIssue py ⟨"$.time_policy", "playback clock did not advance"⟩

section
variable {py : PyOps} {policy : TimePolicy} {samples : List ClockSample}
  {issues issues' : TimingIssues}

/-- An evaluation of a played-back clock adds at most two issues. -/
theorem evaluatePlayback_adds {clockHz : ℚ}
    (h : evaluatePlayback py policy samples clockHz issues = some issues') :
    Adds (PlaybackIssue py) 2 issues issues' := by
  obtain ⟨minimum, -, h⟩ := Option.bind_eq_some_iff.1 h
  obtain rfl := Option.some.inj h
  have hfrequency : Adds (PlaybackIssue py) 1 issues (issues.violation
      "$.time_policy.min_clock_hz" ("observed clock frequency was " ++ py.number clockHz)) :=
    adds_violation (.frequency clockHz)
  split_ifs
  · exact hfrequency.trans (adds_violation .still)
  · exact (adds_violation .still).mono (fun _ hp => hp) (by omega)
  · exact hfrequency.mono (fun _ hp => hp) (by omega)
  · exact .rfl

/-- A positive change can be divided by the step. -/
def Divisible (stepNs delta : ℤ) : Prop :=
  0 < delta → stepNs ≠ 0 ∧ InRange (delta / stepNs)

/-- `observed_steps`. -/
def countedSteps (py : PyOps) (stepNs delta : ℤ) : ℤ :=
  max 1 (roundHalfEven (py.fl (delta / stepNs)))

/-- The violations of one step of a clock that can be counted. -/
def stepViolations (py : PyOps) (stepNs maxSkippedSteps delta : ℤ) (index : ℕ) :
    List ReadinessIssue :=
  if delta ≤ 0 then
    [⟨"$.time_policy.step_size_sec", s!"sample {index + 1} did not advance by a positive step"⟩]
  else countedViolations stepNs maxSkippedSteps delta (countedSteps py stepNs delta) index

/-- The violations of all steps of a clock. -/
def steppedViolations (py : PyOps) (stepNs maxSkippedSteps : ℤ) (samples : List ClockSample) :
    List ReadinessIssue :=
  (stepDeltas samples).zipIdx.flatMap fun (delta, index) =>
    stepViolations py stepNs maxSkippedSteps delta index

theorem stepQuotient_eq_ok {delta stepNs : ℤ} {quotient : ℚ} :
    stepQuotient py delta stepNs = .ok quotient ↔
      stepNs ≠ 0 ∧ InRange (delta / stepNs) ∧ py.fl (delta / stepNs) = quotient := by
  unfold stepQuotient
  split
  · next h => simp [h]
  · next h => rw [mapError_eq_ok, toFloat_eq_ok, and_iff_right h]

theorem checkStep_eq_ok {stepNs maxSkippedSteps : ℤ} (step : ℤ × ℕ) (issues : List ReadinessIssue) :
    checkStep py stepNs maxSkippedSteps step = .ok issues ↔
      Divisible stepNs step.1 ∧ issues = stepViolations py stepNs maxSkippedSteps step.1 step.2 := by
  unfold checkStep stepViolations Divisible
  split
  · next hle => rw [and_iff_right fun hpos => absurd hle (not_le.2 hpos), Except.ok.injEq, eq_comm]
  · next hpos =>
    simp only [not_le.1 hpos, true_imp_iff, bind_eq_ok, stepQuotient_eq_ok, pure, Except.pure,
      Except.ok.injEq]
    constructor
    · rintro ⟨_, ⟨hne, hrange, rfl⟩, rfl⟩
      exact ⟨⟨hne, hrange⟩, rfl⟩
    · rintro ⟨⟨hne, hrange⟩, rfl⟩
      exact ⟨_, ⟨hne, hrange, rfl⟩, rfl⟩

theorem forall_zipIdx {p : ℤ → Prop} {deltas : List ℤ} {n : ℕ} :
    (∀ step ∈ deltas.zipIdx n, p step.1) ↔ ∀ delta ∈ deltas, p delta := by
  induction deltas generalizing n with
  | nil => simp
  | cons delta deltas ih => rw [List.zipIdx_cons, List.forall_mem_cons, List.forall_mem_cons, ih]

/-- The evaluation of a stepped clock returns when its step converts and divides every change; then
it has the violations of its steps, after the one of a clock that stands still. -/
theorem evaluateStepped_eq_ok {stepSizeSec : ℚ} {maxSkippedSteps : ℤ} :
    evaluateStepped py stepSizeSec maxSkippedSteps samples issues = .ok issues' ↔
      ∃ stepNs, stepNanoseconds py stepSizeSec = .ok stepNs ∧
        (∀ delta ∈ stepDeltas samples, Divisible stepNs delta) ∧
        issues' = ⟨issues.violations ++
          (if stepDeltas samples = [] || standsStill samples then
            [⟨"$.time_policy", "stepped clock did not advance"⟩] else []) ++
          steppedViolations py stepNs maxSkippedSteps samples, issues.insufficient⟩ := by
  simp only [evaluateStepped, bind_eq_ok, mapError_eq_ok, mapM_eq_ok_map checkStep_eq_ok,
    forall_zipIdx]
  refine exists_congr fun stepNs => and_congr_right fun _ => ?_
  constructor
  · rintro ⟨steps, ⟨hdivisible, rfl⟩, h⟩
    obtain rfl := Except.ok.inj h
    refine ⟨hdivisible, ?_⟩
    rw [steppedViolations, List.flatMap_def]
    split <;> simp [TimingIssues.violation]
  · rintro ⟨hdivisible, rfl⟩
    refine ⟨_, ⟨hdivisible, rfl⟩, ?_⟩
    rw [steppedViolations, List.flatMap_def]
    split <;> simp [TimingIssues.violation, pure, Except.pure]

end

/-! ## Evaluation -/

/-- The issues before those of the mode. -/
def progressIssues (samples : List ClockSample) : TimingIssues :=
  if samples = [] then
    ⟨[], [⟨"$.clock_observation.monotonic", "no clock samples; monotonicity unavailable"⟩]⟩
  else if isMonotonic samples then ⟨[], []⟩
  else ⟨[⟨"$.time_policy", "source clock moved backwards"⟩], []⟩

section
variable {py : PyOps} {mode : TimeMode} {policy : TimePolicy} {samples : List ClockSample}
  {rtfWindowSec : ℚ} {measurementWindow : Option ClockMeasurementWindow}
  {evaluation : TimingEvaluation}

/-- An evaluation of a simulation is the one of its mode, after the issues of its progress. -/
theorem evaluateTiming_eq_some :
    evaluateTiming py mode policy samples rtfWindowSec measurementWindow = some evaluation ↔
      1 ≤ rtfWindowSec ∧ if samples = [] ∧ mode ≠ .simulationRealtime then
        evaluation = ⟨⟨false, 0, 0, 0, 0, 0, 0⟩, [⟨"$.time_policy", "no clock samples"⟩], []⟩
      else ∃ ratios issues, evaluateMode py mode policy samples (clockFrequency samples)
          rtfWindowSec measurementWindow (progressIssues samples) = some (ratios, issues) ∧
        evaluation = ⟨⟨isMonotonic samples, 0, 0, ratios.1, ratios.2, 0, clockFrequency samples⟩,
          issues.violations, issues.insufficient⟩ := by
  have hprogress : (if samples ≠ [] ∧ ¬ isMonotonic samples then
      (clockProgress samples ⟨[], []⟩).2.violation "$.time_policy" "source clock moved backwards"
      else (clockProgress samples ⟨[], []⟩).2) = progressIssues samples := by
    unfold clockProgress progressIssues
    by_cases hnil : samples = []
    · simp [hnil, insufficiency]
    · by_cases hmono : isMonotonic samples = true <;> simp [hnil, hmono, violation]
  unfold evaluateTiming
  by_cases hsec : rtfWindowSec < 1
  · rw [if_pos hsec]
    exact iff_of_false (by simp) fun h => absurd h.1 (not_le.2 hsec)
  · rw [if_neg hsec, and_iff_right (not_lt.1 hsec)]
    split
    · rw [Option.some.injEq, eq_comm]
    · rw [← hprogress]
      simp only [Option.bind_eq_bind, Option.bind_eq_some_iff, Prod.exists]
      constructor
      · rintro ⟨rtf, ratio, issues, hmode, h⟩
        exact ⟨rtf, ratio, issues, hmode, (Option.some.inj h).symm⟩
      · rintro ⟨rtf, ratio, issues, hmode, rfl⟩
        exact ⟨rtf, ratio, issues, hmode, rfl⟩

/-- The evaluation of a mode only adds issues. -/
theorem evaluateMode_adds {clockHz : ℚ} {issues issues' : TimingIssues}
    (h : evaluateMode py mode policy samples clockHz rtfWindowSec measurementWindow issues =
      some (ratios, issues')) : ∃ n, Adds (fun _ => True) n issues issues' := by
  cases mode with
  | simulationRealtime =>
    obtain ⟨minimum, -, h⟩ := Option.bind_eq_some_iff.1 h
    obtain ⟨ratio, -, h⟩ := Option.bind_eq_some_iff.1 h
    exact ⟨5, (evaluateRealtime_adds h).mono (fun _ _ => trivial) le_rfl⟩
  | playbackClocked =>
    obtain ⟨reported, hplayback, h⟩ := Option.bind_eq_some_iff.1 h
    obtain ⟨-, rfl⟩ := Prod.mk.inj (Option.some.inj h)
    exact ⟨2, (evaluatePlayback_adds hplayback).mono (fun _ _ => trivial) le_rfl⟩
  | simulationStepped =>
    obtain ⟨step, -, h⟩ := Option.bind_eq_some_iff.1 h
    obtain ⟨maxSkippedSteps, -, h⟩ := Option.bind_eq_some_iff.1 h
    obtain ⟨reported, hstepped, h⟩ := Option.bind_eq_some_iff.1 h
    obtain ⟨-, rfl⟩ := Prod.mk.inj (Option.some.inj h)
    obtain ⟨stepNs, -, -, rfl⟩ := evaluateStepped_eq_ok.1 (toOption_eq_some.1 hstepped)
    rw [List.append_assoc]
    exact exists_adds issues _
  | hardwareRealtime =>
    obtain ⟨-, rfl⟩ := Prod.mk.inj (Option.some.inj h)
    exact ⟨0, .rfl⟩

/-- An evaluation without issues is that of its mode on a clock that has samples and never moves
backwards. -/
theorem evaluateTiming_of_issues_nil
    (h : evaluateTiming py mode policy samples rtfWindowSec measurementWindow = some evaluation)
    (hissues : evaluation.issues = []) :
    isMonotonic samples = true ∧ ∃ ratios, evaluateMode py mode policy samples
        (clockFrequency samples) rtfWindowSec measurementWindow ⟨[], []⟩ =
          some (ratios, ⟨[], []⟩) ∧
      evaluation =
        ⟨⟨true, 0, 0, ratios.1, ratios.2, 0, clockFrequency samples⟩, [], []⟩ := by
  obtain ⟨hv, hi⟩ := List.append_eq_nil_iff.1 hissues
  obtain ⟨-, h⟩ := evaluateTiming_eq_some.1 h
  split at h
  · subst h
    cases hv
  · obtain ⟨ratios, issues, hmode, rfl⟩ := h
    obtain ⟨n, hadds⟩ := evaluateMode_adds hmode
    obtain rfl := hadds.of_nil hv hi
    have hmonotonic : isMonotonic samples = true := by
      unfold progressIssues at hv hi
      split_ifs at hv hi with _ hm
      · exact hm
    have hnil : progressIssues samples = ⟨[], []⟩ := by
      cases hp : progressIssues samples
      simp_all
    rw [hnil] at hmode
    exact ⟨hmonotonic, ratios, hmode, by rw [hmonotonic, hnil]⟩

end

end RoboticsRuntime.Harness
