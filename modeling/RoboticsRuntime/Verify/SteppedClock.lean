import Mathlib
import RoboticsRuntime.Verify.NoFalsePass

/-!
# The verdict on a stepped clock

A clock that steps forward changes its source time by whole steps, to within a nanosecond, and never
by more than the policy allows. Without an arithmetic error the evaluation reports every clock that
does not. It reports one that does when the step is one or two nanoseconds and a change is the
greatest that still fits, and may do so when a change is of so many steps that their quotient loses
its fraction.
-/

namespace RoboticsRuntime.Harness
open Theory Contracts

/-! ## Changes of the source time -/

/-- The changes of the source time between consecutive samples. -/
def sourceChanges (samples : List ClockSample) : List ℤ :=
  ((pairwise samples).filter fun pair => pair.2.sourceTimeNs ≠ pair.1.sourceTimeNs).map fun pair =>
    pair.2.sourceTimeNs - pair.1.sourceTimeNs

theorem pairwise_cons_cons (a b : ClockSample) (rest : List ClockSample) :
    pairwise (a :: b :: rest) = (a, b) :: pairwise (b :: rest) := rfl

theorem sourceChanges_cons_cons (a b : ClockSample) (rest : List ClockSample) :
    sourceChanges (a :: b :: rest) =
      if b.sourceTimeNs = a.sourceTimeNs then sourceChanges (b :: rest)
      else (b.sourceTimeNs - a.sourceTimeNs) :: sourceChanges (b :: rest) := by
  rw [sourceChanges, pairwise_cons_cons, List.filter_cons]
  by_cases h : b.sourceTimeNs = a.sourceTimeNs
  · simp [h, sourceChanges]
  · simp [h, sourceChanges]

/-- The samples at which the source time changes, after one with the same source time as the first. -/
theorem differences_transitions {a start : ClockSample} (h : start.sourceTimeNs = a.sourceTimeNs)
    (rest : List ClockSample) :
    (pairwise (start :: ((pairwise (a :: rest)).filter fun pair =>
      pair.2.sourceTimeNs ≠ pair.1.sourceTimeNs).map (·.2))).map (fun pair =>
        pair.2.sourceTimeNs - pair.1.sourceTimeNs) = sourceChanges (a :: rest) := by
  induction rest generalizing a start with
  | nil => rfl
  | cons b rest ih =>
    rw [sourceChanges_cons_cons, pairwise_cons_cons, List.filter_cons]
    by_cases hb : b.sourceTimeNs = a.sourceTimeNs
    · rw [if_neg (by simpa using hb), if_pos hb]
      exact ih (h.trans hb.symm)
    · rw [if_pos (by simpa using hb), if_neg hb, List.map_cons, pairwise_cons_cons, List.map_cons,
        ih rfl, h]

/-- The steps of the clock are the changes of its source time. -/
theorem stepDeltas_eq (samples : List ClockSample) : stepDeltas samples = sourceChanges samples := by
  cases samples with
  | nil => rfl
  | cons a rest => exact differences_transitions rfl rest

theorem mem_sourceChanges {samples : List ClockSample} {delta : ℤ} :
    delta ∈ sourceChanges samples ↔ ∃ pair ∈ pairwise samples,
      pair.2.sourceTimeNs ≠ pair.1.sourceTimeNs ∧
        pair.2.sourceTimeNs - pair.1.sourceTimeNs = delta := by
  simp only [sourceChanges, List.mem_map, List.mem_filter, decide_eq_true_eq, and_assoc]

/-- A clock without changes stands still. -/
theorem standsStill_of_sourceChanges {samples : List ClockSample} (h : sourceChanges samples = []) :
    standsStill samples = true := by
  have hconstant : ∀ (a : ClockSample) (rest : List ClockSample), sourceChanges (a :: rest) = [] →
      ∀ b ∈ a :: rest, b.sourceTimeNs = a.sourceTimeNs := by
    intro a rest
    induction rest generalizing a with
    | nil => simp
    | cons b rest ih =>
      intro h
      rw [sourceChanges_cons_cons] at h
      split at h
      · next heq =>
        refine List.forall_mem_cons.2 ⟨rfl, fun c hc => ?_⟩
        rw [ih b h c hc, heq]
      · cases h
  cases samples with
  | nil => rfl
  | cons a rest =>
    have hlast := List.getLast?_eq_some_getLast (List.cons_ne_nil a rest)
    simp only [standsStill, List.head?_cons, hlast, decide_eq_true_eq]
    exact (hconstant a rest h _ (List.getLast_mem _)).le

/-! ## The checks of the steps -/

/-- A change of the source time is `k` steps to within a nanosecond, and `k` is allowed. -/
structure Fits (stepNs maxSkippedSteps delta k : ℤ) : Prop where
  pos : 1 ≤ k
  allowed : k ≤ maxSkippedSteps + 1
  residual : |delta - k * stepNs| ≤ 1

/-- The source clock never moves backwards, advances, and changes by allowed numbers of steps. -/
structure StepsForward (stepNs maxSkippedSteps : ℤ) (samples : List ClockSample) : Prop where
  monotonic : ∀ pair ∈ pairwise samples, pair.1.sourceTimeNs ≤ pair.2.sourceTimeNs
  advances : ∃ first ∈ samples.head?, ∃ last ∈ samples.getLast?,
    first.sourceTimeNs < last.sourceTimeNs
  steps : ∀ pair ∈ pairwise samples, pair.2.sourceTimeNs ≠ pair.1.sourceTimeNs →
    ∃ k, Fits stepNs maxSkippedSteps (pair.2.sourceTimeNs - pair.1.sourceTimeNs) k

theorem fits_iff {stepNs maxSkippedSteps delta k : ℤ} :
    Fits stepNs maxSkippedSteps delta k ↔
      1 ≤ k ∧ k ≤ maxSkippedSteps + 1 ∧ -1 ≤ delta - k * stepNs ∧ delta - k * stepNs ≤ 1 := by
  rw [← abs_le]
  exact ⟨fun h => ⟨h.pos, h.allowed, h.residual⟩, fun ⟨h₁, h₂, h₃⟩ => ⟨h₁, h₂, h₃⟩⟩

/-- A step has no violation when it is positive and counted as a number that fits. -/
theorem stepViolations_eq_nil {py : PyOps} {stepNs maxSkippedSteps delta : ℤ} {index : ℕ} :
    stepViolations py stepNs maxSkippedSteps delta index = [] ↔
      0 < delta ∧ Fits stepNs maxSkippedSteps delta (countedSteps py stepNs delta) := by
  have hone : 1 ≤ countedSteps py stepNs delta := le_max_left _ _
  unfold stepViolations countedViolations
  split
  · next hle => simp [not_lt.2 hle]
  · next hpos =>
    rw [and_iff_right (not_le.1 hpos), List.append_eq_nil_iff]
    constructor
    · rintro ⟨hresidual, hskipped⟩
      split_ifs at hresidual hskipped with h₁ h₂
      exact ⟨hone, by omega, not_lt.1 h₁⟩
    · intro h
      have hallowed := h.allowed
      exact ⟨if_neg (not_lt.2 h.residual), if_neg (by omega)⟩

theorem steppedViolations_eq_nil {py : PyOps} {stepNs maxSkippedSteps : ℤ}
    {samples : List ClockSample} :
    steppedViolations py stepNs maxSkippedSteps samples = [] ↔ ∀ delta ∈ sourceChanges samples,
      0 < delta ∧ Fits stepNs maxSkippedSteps delta (countedSteps py stepNs delta) := by
  simp only [steppedViolations, List.flatMap_eq_nil_iff, stepViolations_eq_nil, stepDeltas_eq]
  exact @forall_zipIdx (fun delta =>
    0 < delta ∧ Fits stepNs maxSkippedSteps delta (countedSteps py stepNs delta)) _ 0

/-! ## The verdict -/

/-- The changes of a clock that steps forward are positive, and each of them fits. -/
theorem StepsForward.changes {stepNs maxSkippedSteps : ℤ} {samples : List ClockSample}
    (h : StepsForward stepNs maxSkippedSteps samples) :
    ∀ delta ∈ sourceChanges samples, 0 < delta ∧ ∃ k, Fits stepNs maxSkippedSteps delta k := by
  intro delta hdelta
  obtain ⟨pair, hpair, hne, rfl⟩ := mem_sourceChanges.1 hdelta
  have := h.monotonic pair hpair
  exact ⟨by omega, h.steps pair hpair hne⟩

theorem isMonotonic_iff {samples : List ClockSample} (hne : samples ≠ []) :
    isMonotonic samples = true ↔
      ∀ pair ∈ pairwise samples, pair.1.sourceTimeNs ≤ pair.2.sourceTimeNs := by
  simp [isMonotonic, hne]

theorem standsStill_eq_false {samples : List ClockSample} (hne : samples ≠ []) :
    standsStill samples = false ↔ ∃ first ∈ samples.head?, ∃ last ∈ samples.getLast?,
      first.sourceTimeNs < last.sourceTimeNs := by
  simp [standsStill, List.head?_eq_some_head hne, List.getLast?_eq_some_getLast hne]

section
variable {py : PyOps} {policy : TimePolicy} {stepSizeSec rtfWindowSec : ℚ} {maxSkippedSteps : ℤ}
  {samples : List ClockSample} {measurementWindow : Option ClockMeasurementWindow}
  {evaluation : TimingEvaluation}

/-- An evaluation of samples returns when the step converts and divides every change, and reports
nothing when the clock is monotonic, advances, and every change is counted as a number of steps that
fits. -/
theorem evaluateTiming_stepped (hne : samples ≠ []) (hstep : policy.stepSizeSec = some stepSizeSec)
    (hmax : policy.maxSkippedSteps = some maxSkippedSteps)
    (h : evaluateTiming py .simulationStepped policy samples rtfWindowSec measurementWindow =
      some evaluation) :
    ∃ stepNs, stepNanoseconds py stepSizeSec = .ok stepNs ∧
      (∀ delta ∈ sourceChanges samples, Divisible stepNs delta) ∧
      (evaluation.violations = [] ↔ isMonotonic samples = true ∧ standsStill samples = false ∧
        ∀ delta ∈ sourceChanges samples,
          0 < delta ∧ Fits stepNs maxSkippedSteps delta (countedSteps py stepNs delta)) := by
  obtain ⟨-, h⟩ := evaluateTiming_eq_some.1 h
  rw [if_neg fun h => hne h.1] at h
  simp only [evaluateMode, hstep, hmax, Option.bind_eq_bind, Option.bind_some] at h
  obtain ⟨ratios, issues, hmode, rfl⟩ := h
  obtain ⟨reported, hstepped, hmode⟩ := Option.bind_eq_some_iff.1 hmode
  obtain ⟨-, rfl⟩ := Prod.mk.inj (Option.some.inj hmode)
  obtain ⟨stepNs, hstepNs, hdivisible, rfl⟩ := evaluateStepped_eq_ok.1 (toOption_eq_some.1 hstepped)
  rw [stepDeltas_eq] at hdivisible
  refine ⟨stepNs, hstepNs, hdivisible, ?_⟩
  dsimp only
  rw [← steppedViolations_eq_nil, List.append_eq_nil_iff, List.append_eq_nil_iff, progressIssues,
    if_neg hne, and_assoc, stepDeltas_eq]
  have hstill := @standsStill_of_sourceChanges samples
  by_cases hmonotonic : isMonotonic samples = true <;>
    by_cases hstands : standsStill samples = true <;>
    by_cases hchanges : sourceChanges samples = [] <;>
    simp_all

theorem evaluateTiming_stepped_returns (hrtf : 1 ≤ rtfWindowSec)
    (hstep : policy.stepSizeSec = some stepSizeSec)
    (hmax : policy.maxSkippedSteps = some maxSkippedSteps) {stepNs : ℤ}
    (hstepNs : stepNanoseconds py stepSizeSec = .ok stepNs)
    (hdivisible : ∀ delta ∈ sourceChanges samples, Divisible stepNs delta) :
    ∃ evaluation, evaluateTiming py .simulationStepped policy samples rtfWindowSec
      measurementWindow = some evaluation := by
  rw [← stepDeltas_eq] at hdivisible
  have hmode : ∃ issues, evaluateMode py .simulationStepped policy samples (clockFrequency samples)
      rtfWindowSec measurementWindow (progressIssues samples) = some ((0, 0), issues) := by
    simp only [evaluateMode, hstep, hmax, Option.bind_eq_bind, Option.bind_some,
      toOption_eq_some.2 (evaluateStepped_eq_ok.2 ⟨stepNs, hstepNs, hdivisible, rfl⟩)]
    exact ⟨_, rfl⟩
  obtain ⟨issues, hmode⟩ := hmode
  simp only [evaluateTiming_eq_some, and_iff_right hrtf]
  split
  · exact ⟨_, rfl⟩
  · exact ⟨_, _, _, hmode, rfl⟩

end

/-- The evaluation of a stepped clock returns, and reports no violation exactly of a clock that steps
forward. -/
def VerdictExact (py : PyOps) (policy : TimePolicy) (samples : List ClockSample) (rtfWindowSec : ℚ)
    (measurementWindow : Option ClockMeasurementWindow) : Prop :=
  ∃ evaluation, evaluateTiming py .simulationStepped policy samples rtfWindowSec measurementWindow =
      some evaluation ∧
    (evaluation.violations = [] ↔ ∃ stepSizeSec ∈ policy.stepSizeSec,
      ∃ maxSkippedSteps ∈ policy.maxSkippedSteps, ∃ stepNs,
        stepNanoseconds py stepSizeSec = .ok stepNs ∧ StepsForward stepNs maxSkippedSteps samples)

/-! ## Counted steps -/

/-- The greatest change that fits is counted as a number of steps that is not allowed. -/
def Miscounted (stepNs maxSkippedSteps delta : ℤ) : Prop :=
  stepNs = 1 ∧ delta = maxSkippedSteps + 2 ∨
    stepNs = 2 ∧ delta = 2 * maxSkippedSteps + 3 ∧ maxSkippedSteps % 2 = 0

/-- A quotient that is nearly an integer is rounded to it, also after an error of an eighth. -/
theorem roundHalfEven_near {stepNs delta k : ℤ} (quotient : ℚ) (hstep : 3 ≤ stepNs)
    (hresidual : |delta - k * stepNs| ≤ 1) (herror : |(delta / stepNs : ℚ) - quotient| ≤ 1 / 8) :
    roundHalfEven quotient = k := by
  have hstep' : (3 : ℚ) ≤ stepNs := by exact_mod_cast hstep
  have hpos : (0 : ℚ) < stepNs := by linarith only [hstep']
  have hresidual' : |(delta - k * stepNs : ℚ)| ≤ 1 := by exact_mod_cast hresidual
  have hsub : (delta / stepNs - k : ℚ) = (delta - k * stepNs) / stepNs := by
    field_simp
  have hnear : |(delta / stepNs - k : ℚ)| ≤ 1 / 3 := by
    rw [hsub, abs_div, abs_of_pos hpos, div_le_iff₀ hpos]
    linarith only [hresidual', hstep']
  refine roundHalfEven_eq_iff.2 (.inl ?_)
  have htriangle := abs_sub_le quotient (delta / stepNs) k
  rw [abs_sub_comm quotient (delta / stepNs : ℚ)] at htriangle
  linarith only [htriangle, hnear, herror]

/-- The quotient of a change of fewer than 2 ^ 51 steps has at least two binary digits after the
point. -/
theorem unitExponent_quotient_le {stepNs delta : ℤ} (hstep : 0 < stepNs) (hpos : 0 < delta)
    (hbound : delta < 2 ^ 51 * stepNs) : unitExponent 53 (-1074) (delta / stepNs) ≤ -2 := by
  have hstep' : (0 : ℚ) < stepNs := by exact_mod_cast hstep
  have hquotient : (0 : ℚ) < delta / stepNs := div_pos (by exact_mod_cast hpos) hstep'
  have hlt : |(delta / stepNs : ℚ)| < 2 ^ (51 : ℤ) := by
    rw [abs_of_pos hquotient, div_lt_iff₀ hstep']
    exact_mod_cast hbound
  have hexponent := binaryExponent_lt hquotient.ne' hlt
  unfold unitExponent
  omega

/-- The float quotient of a change and a step rounds as the exact one. -/
theorem roundHalfEven_double_quotient {stepNs delta k : ℤ} (hstep : 0 < stepNs) (hpos : 0 < delta)
    (hbound : delta < 2 ^ 51 * stepNs) (hresidual : |delta - k * stepNs| ≤ 1) :
    roundHalfEven (double (delta / stepNs)) = roundHalfEven (delta / stepNs) := by
  have hunit := unitExponent_quotient_le hstep hpos hbound
  by_cases hthree : 3 ≤ stepNs
  · rw [roundHalfEven_near (delta / stepNs) hthree hresidual (by simp)]
    refine roundHalfEven_near _ hthree hresidual
      ((abs_sub_roundToPrecision_le (delta / stepNs)).trans ?_)
    have hdigit := zpow_le_zpow_right₀ (one_le_two (α := ℚ)) hunit
    norm_num at hdigit ⊢
    linarith only [hdigit]
  · -- The quotient is a multiple of a half.
    have hhalf : (delta / stepNs : ℚ) = (if stepNs = 1 then 2 * delta else delta : ℤ) * 2 ^ (-1 : ℤ) := by
      obtain rfl | rfl : stepNs = 1 ∨ stepNs = 2 := by omega
      · rw [if_pos rfl]
        push_cast
        ring
      · rw [if_neg (by decide)]
        push_cast
        ring
    rw [double, roundToPrecision_of_multiple (hunit.trans (by decide)) hhalf]

/-- Of a change of fewer than 2 ^ 51 steps that fits, the number that is counted fits, too, unless it
is miscounted. -/
theorem fits_countedSteps_iff {py : PyOps} (hfl : py.fl = double) {stepNs maxSkippedSteps delta : ℤ}
    (hstep : 0 < stepNs) (hmax : 0 ≤ maxSkippedSteps) (hpos : 0 < delta)
    (hbound : delta < 2 ^ 51 * stepNs) (hfits : ∃ k, Fits stepNs maxSkippedSteps delta k) :
    Fits stepNs maxSkippedSteps delta (countedSteps py stepNs delta) ↔
      ¬ Miscounted stepNs maxSkippedSteps delta := by
  obtain ⟨k, hk, hallowed, hresidual⟩ := hfits
  have habs := abs_le.1 hresidual
  unfold Miscounted
  rw [countedSteps, hfl, roundHalfEven_double_quotient hstep hpos hbound hresidual]
  by_cases hthree : 3 ≤ stepNs
  · rw [roundHalfEven_near (delta / stepNs) hthree hresidual (by simp),
      max_eq_right hk]
    exact ⟨fun _ => by omega, fun _ => ⟨hk, hallowed, hresidual⟩⟩
  · obtain rfl | rfl : stepNs = 1 ∨ stepNs = 2 := by omega
    · rw [Int.cast_one, div_one, roundHalfEven_intCast, fits_iff]
      omega
    · rw [Int.cast_ofNat, fits_iff]
      rcases roundHalfEven_half delta with hhalf | ⟨heven, hhalf⟩
      · omega
      · rcases (abs_eq zero_le_one).1 hhalf with hhalf | hhalf <;> omega

/-! ## Main result -/

/-- A clock that the evaluation judges exactly: its step converts to nanoseconds and divides every
change into a float, and, where the clock steps forward, no change is miscounted, or of so many steps
that their quotient loses its fraction. -/
structure Judged (py : PyOps) (stepSizeSec : ℚ) (maxSkippedSteps : ℤ) (samples : List ClockSample)
    (stepNs : ℤ) : Prop where
  step : stepNanoseconds py stepSizeSec = .ok stepNs
  divisible : ∀ delta ∈ sourceChanges samples, Divisible stepNs delta
  bounded : StepsForward stepNs maxSkippedSteps samples →
    ∀ delta ∈ sourceChanges samples, delta < 2 ^ 51 * stepNs
  counted : StepsForward stepNs maxSkippedSteps samples →
    ∀ delta ∈ sourceChanges samples, ¬ Miscounted stepNs maxSkippedSteps delta

theorem stepNanoseconds_nonneg {py : PyOps} (hfl : py.fl = double) {stepSizeSec : ℚ}
    (hpos : 0 < stepSizeSec) {stepNs : ℤ} (h : stepNanoseconds py stepSizeSec = .ok stepNs) :
    0 ≤ stepNs := by
  obtain ⟨seconds, hseconds, h⟩ := bind_eq_ok.1 h
  obtain ⟨product, hproduct, h⟩ := bind_eq_ok.1 h
  obtain rfl := Except.ok.inj h
  obtain ⟨-, rfl⟩ := toFloat_eq_ok.1 hseconds
  obtain ⟨-, rfl⟩ := toFloat_eq_ok.1 hproduct
  rw [hfl]
  have hproduct : 0 ≤ double (double stepSizeSec * 1000000000) :=
    double_nonneg (mul_nonneg (double_nonneg hpos.le) (by norm_num))
  exact (roundHalfEven_intCast 0).ge.trans (roundHalfEven_mono (by exact_mod_cast hproduct))

section
variable {py : PyOps} {policy : TimePolicy} {stepSizeSec rtfWindowSec : ℚ} {maxSkippedSteps : ℤ}
  {samples : List ClockSample} {measurementWindow : Option ClockMeasurementWindow}

/-- Without samples nothing is evaluated, and no clock steps forward. -/
theorem verdictExact_nil (hrtf : 1 ≤ rtfWindowSec) :
    VerdictExact py policy [] rtfWindowSec measurementWindow := by
  refine ⟨⟨⟨false, 0, 0, 0, 0, 0, 0⟩, [⟨"$.time_policy", "no clock samples"⟩], []⟩,
    evaluateTiming_eq_some.2 ⟨hrtf, ?_⟩, iff_of_false (List.cons_ne_nil _ _) ?_⟩
  · rw [if_pos ⟨rfl, by decide⟩]
  · rintro ⟨_, _, _, _, _, _, hforward⟩
    obtain ⟨first, hfirst, -⟩ := hforward.advances
    cases hfirst

/-- The verdict on samples is exact when the step converts and divides every change and, where the
clock steps forward, every change is counted as a number of steps that fits. -/
theorem verdictExact_iff_counted (hrtf : 1 ≤ rtfWindowSec) (hne : samples ≠ [])
    (hstep : policy.stepSizeSec = some stepSizeSec)
    (hmax : policy.maxSkippedSteps = some maxSkippedSteps) :
    VerdictExact py policy samples rtfWindowSec measurementWindow ↔
      ∃ stepNs, stepNanoseconds py stepSizeSec = .ok stepNs ∧
        (∀ delta ∈ sourceChanges samples, Divisible stepNs delta) ∧
        (StepsForward stepNs maxSkippedSteps samples → ∀ delta ∈ sourceChanges samples,
          Fits stepNs maxSkippedSteps delta (countedSteps py stepNs delta)) := by
  have hforward : ∀ {stepNs}, stepNanoseconds py stepSizeSec = .ok stepNs →
      ((∃ stepSizeSec ∈ policy.stepSizeSec, ∃ maxSkippedSteps ∈ policy.maxSkippedSteps,
        ∃ stepNs, stepNanoseconds py stepSizeSec = .ok stepNs ∧
          StepsForward stepNs maxSkippedSteps samples) ↔
        StepsForward stepNs maxSkippedSteps samples) := by
    intro stepNs hstepNs
    simp [hstep, hmax, hstepNs]
  constructor
  · rintro ⟨evaluation, hevaluation, hexact⟩
    obtain ⟨stepNs, hstepNs, hdivisible, hviolations⟩ :=
      evaluateTiming_stepped hne hstep hmax hevaluation
    rw [hforward hstepNs, hviolations] at hexact
    exact ⟨stepNs, hstepNs, hdivisible, fun h delta hdelta => ((hexact.2 h).2.2 delta hdelta).2⟩
  · rintro ⟨stepNs, hstepNs, hdivisible, hfits⟩
    obtain ⟨evaluation, hevaluation⟩ := @evaluateTiming_stepped_returns py policy stepSizeSec
      rtfWindowSec maxSkippedSteps samples measurementWindow hrtf hstep hmax stepNs hstepNs hdivisible
    obtain ⟨_, hstepNs', -, hviolations⟩ := evaluateTiming_stepped hne hstep hmax hevaluation
    obtain rfl := Except.ok.inj (hstepNs'.symm.trans hstepNs)
    refine ⟨evaluation, hevaluation, ?_⟩
    rw [hforward hstepNs, hviolations, isMonotonic_iff hne, standsStill_eq_false hne]
    constructor
    · rintro ⟨hmonotonic, hadvances, hcounted⟩
      refine ⟨hmonotonic, hadvances, fun pair hpair hchange => ⟨_, (hcounted _ ?_).2⟩⟩
      exact mem_sourceChanges.2 ⟨pair, hpair, hchange, rfl⟩
    · intro h
      exact ⟨h.monotonic, h.advances,
        fun delta hdelta => ⟨(h.changes delta hdelta).1, hfits h delta hdelta⟩⟩

/-- A change that fits is of at most one more step than may be skipped, and a nanosecond. -/
theorem Fits.lt_mul {stepNs delta k : ℤ} (hstep : 0 < stepNs) (hbound : maxSkippedSteps + 2 < 2 ^ 51)
    (h : Fits stepNs maxSkippedSteps delta k) : delta < 2 ^ 51 * stepNs := by
  have hresidual := (abs_le.1 h.residual).2
  have hk : k * stepNs ≤ (maxSkippedSteps + 1) * stepNs :=
    mul_le_mul_of_nonneg_right h.allowed hstep.le
  have hmax : (maxSkippedSteps + 2) * stepNs < 2 ^ 51 * stepNs := mul_lt_mul_of_pos_right hbound hstep
  calc delta ≤ k * stepNs + 1 := by linarith
    _ ≤ (maxSkippedSteps + 1) * stepNs + stepNs := by linarith
    _ = (maxSkippedSteps + 2) * stepNs := by ring
    _ < 2 ^ 51 * stepNs := hmax

/-- The verdict on a clock is exact when its step converts to nanoseconds and divides every change
into a float, and, where it steps forward, no change is miscounted. Of policies that allow to skip
2 ^ 51 steps only this direction is proved. -/
theorem verdictExact_iff (hfl : py.fl = double) (hrtf : 1 ≤ rtfWindowSec)
    (hstep : policy.stepSizeSec = some stepSizeSec)
    (hmax : policy.maxSkippedSteps = some maxSkippedSteps) :
    (samples = [] ∨ (∃ stepNs, Judged py stepSizeSec maxSkippedSteps samples stepNs) →
      VerdictExact py policy samples rtfWindowSec measurementWindow) ∧
    (maxSkippedSteps + 2 < 2 ^ 51 →
      VerdictExact py policy samples rtfWindowSec measurementWindow →
        samples = [] ∨ ∃ stepNs, Judged py stepSizeSec maxSkippedSteps samples stepNs) := by
  have hnonneg := policy.skippedSteps_nonneg maxSkippedSteps hmax
  have hpositive : ∀ {stepNs delta}, stepNanoseconds py stepSizeSec = .ok stepNs → 0 < delta →
      Divisible stepNs delta → 0 < stepNs := by
    intro stepNs delta hstepNs hpos hdivisible
    have hne := (hdivisible hpos).1
    have := stepNanoseconds_nonneg hfl (policy.stepSize_pos stepSizeSec hstep) hstepNs
    omega
  by_cases hne : samples = []
  · subst hne
    exact ⟨fun _ => verdictExact_nil hrtf, fun _ _ => .inl rfl⟩
  rw [verdictExact_iff_counted hrtf hne hstep hmax]
  simp only [hne, false_or]
  constructor
  · rintro ⟨stepNs, hjudged⟩
    refine ⟨stepNs, hjudged.step, hjudged.divisible, fun hforward delta hdelta => ?_⟩
    obtain ⟨hpos, hfits⟩ := hforward.changes delta hdelta
    exact (fits_countedSteps_iff hfl (hpositive hjudged.step hpos (hjudged.divisible delta hdelta))
      hnonneg hpos (hjudged.bounded hforward delta hdelta) hfits).2
        (hjudged.counted hforward delta hdelta)
  · rintro hbound ⟨stepNs, hstepNs, hdivisible, hcounted⟩
    have hbounded : StepsForward stepNs maxSkippedSteps samples →
        ∀ delta ∈ sourceChanges samples, 0 < stepNs ∧ delta < 2 ^ 51 * stepNs := by
      intro hforward delta hdelta
      obtain ⟨hpos, k, hfits⟩ := hforward.changes delta hdelta
      have hstepPos := hpositive hstepNs hpos (hdivisible delta hdelta)
      exact ⟨hstepPos, hfits.lt_mul hstepPos hbound⟩
    refine ⟨stepNs, hstepNs, hdivisible, fun h delta hdelta => (hbounded h delta hdelta).2,
      fun hforward delta hdelta => ?_⟩
    obtain ⟨hpos, hfits⟩ := hforward.changes delta hdelta
    obtain ⟨hstepPos, hlt⟩ := hbounded hforward delta hdelta
    exact (fits_countedSteps_iff hfl hstepPos hnonneg hpos hlt hfits).1
      (hcounted hforward delta hdelta)

end

/-- A policy that allows no step to be skipped. -/
def unskippedPolicy (stepSizeSec : ℚ) (hpos : 0 < stepSizeSec) : TimePolicy :=
  { exampleTimePolicy with
    stepSizeSec := some stepSizeSec
    stepSize_pos := fun _ h => Option.some.inj h ▸ hpos }

/-- Steps of a hundredth of a second, the second one a nanosecond late. -/
theorem verdictExact_iff_centiseconds :
    VerdictExact ⟨double, toString, toString, id⟩ (unskippedPolicy (1 / 100) (by norm_num))
      [⟨0, 0, none, none⟩, ⟨10000005, 10000000, none, none⟩, ⟨20000005, 20000001, none, none⟩] 1
      none := by
  have hchanges : sourceChanges [⟨0, 0, none, none⟩, ⟨10000005, 10000000, none, none⟩,
      ⟨20000005, 20000001, none, none⟩] = [10000000, 10000001] := by decide
  refine (verdictExact_iff rfl le_rfl rfl rfl).1
    (.inr ⟨10000000, by decide +kernel, ?_, fun _ => ?_, fun _ => ?_⟩)
  · rw [hchanges]
    exact List.forall_mem_cons.2 ⟨fun _ => ⟨by decide, by decide +kernel⟩,
      List.forall_mem_singleton.2 fun _ => ⟨by decide, by decide +kernel⟩⟩
  · rw [hchanges]
    decide
  · simp [Miscounted]

/-- A step of a tenth of a nanosecond is rounded to zero, and no change can be divided by it. -/
theorem not_verdictExact_tinyStep :
    ¬ ∀ (py : PyOps) (policy : TimePolicy) (samples : List ClockSample) (rtfWindowSec : ℚ),
      py.fl = double → 1 ≤ rtfWindowSec → policy.Declares .simulationStepped →
      VerdictExact py policy samples rtfWindowSec none := by
  intro h
  obtain ⟨evaluation, hevaluation, -⟩ := h ⟨double, toString, toString, id⟩
    (unskippedPolicy (1 / 10 ^ 10) (by norm_num)) [⟨0, 0, none, none⟩, ⟨5, 1, none, none⟩] 1 rfl
    le_rfl ⟨rfl, rfl⟩
  have hnone : (evaluateTiming ⟨double, toString, toString, id⟩ .simulationStepped
      (unskippedPolicy (1 / 10 ^ 10) (by norm_num)) [⟨0, 0, none, none⟩, ⟨5, 1, none, none⟩] 1
      none).isNone = true := by
    decide +kernel
  rw [hevaluation] at hnone
  cases hnone

end RoboticsRuntime.Harness
