import RoboticsRuntime.Theory.Texts
import RoboticsRuntime.Verify.NoFalsePass
import RoboticsRuntime.Verify.RealTimeFactor

/-!
# A bad run is recorded

Which runs of a simulation have evaluations that the schema of a result admits. An evaluation in real
time or of a playback reports a few issues, which are short unless the declared minimum is a long
integer. The issues of a stepped clock and of the expected graph are joined without a bound, and the
schema allows 4096 characters.
-/

namespace RoboticsRuntime.Harness
open Theory Contracts TimingIssues

/-! ## Short texts -/

/-- The gap of samples in a measurement is not longer than the measurement. -/
theorem coverageGap_mem {samples : List ClockSample} {first last : ClockSample}
    {window : ClockMeasurementWindow} (hin : Within samples window) (hfirst : first ∈ samples.head?)
    (hlast : last ∈ samples.getLast?) :
    0 ≤ coverageGap samples first last window ∧
      coverageGap samples first last window ≤ window.endNs - window.startNs := by
  have hf := hin first (List.mem_of_head? hfirst)
  have hl := hin last (List.mem_of_getLast? hlast)
  have hgaps : (sampleGaps samples).max?.getD 0 ≤ window.endNs - window.startNs := by
    cases hmax : (sampleGaps samples).max? with
    | none => exact (sub_pos.2 window.start_lt_end).le
    | some gap =>
      obtain ⟨⟨a, b⟩, hab, rfl⟩ := List.mem_map.1 (List.max?_mem hmax)
      have ha := hin a (List.of_mem_zip hab).1
      have hb := hin b (List.mem_of_mem_tail (List.of_mem_zip hab).2)
      exact sub_le_sub hb.2 ha.1
  unfold coverageGap
  omega

section
variable {py : PyOps}

theorem length_showBound (h : py.ShortNumbers) (bound : WithTop ℚ) :
    (showBound py bound).length ≤ 24 := by
  cases bound with
  | top => exact (by decide : "inf".length ≤ 24)
  | coe bound => exact h.number bound

theorem length_issueText (path message : String) :
    (TimingEvaluation.issueText ⟨path, message⟩).length = path.length + message.length + 2 := by
  have h : ": ".length = 2 := rfl
  simp only [TimingEvaluation.issueText, String.length_append, h]
  omega

/-- Every issue of an evaluation in real time is short. -/
theorem RealtimeIssue.length_le {minimum : ℚ} {samples : List ClockSample}
    {window : ClockMeasurementWindow} {issue : ReadinessIssue} (hnumbers : py.ShortNumbers)
    (hminimum : (py.declared minimum).length ≤ 480) (hin : Within samples window)
    (hend : window.endNs < 2 ^ 63) (hallowance : window.maxSampleGapNs = 250000000)
    (h : RealtimeIssue py minimum samples (some window) issue) :
    (TimingEvaluation.issueText issue).length ≤ 680 := by
  have hfactor : "$.time_policy.min_realtime_factor".length = 33 := rfl
  have hratio : "$.time_policy.max_deadline_miss_ratio".length = 37 := rfl
  have hpolicy : "$.time_policy".length = 13 := rfl
  cases h with
  | twoSamples =>
    have h1 : "need two clock samples".length = 22 := rfl
    simp only [length_issueText, h1, hfactor]
    omega
  | unordered =>
    have h1 : "clock observation times must increase".length = 37 := rfl
    simp only [length_issueText, h1, hpolicy]
    omega
  | outside =>
    have h1 : "clock samples fall outside measurement bounds".length = 45 := rfl
    simp only [length_issueText, h1, hpolicy]
    omega
  | gap first last window' maximum hwindow hfirst hlast hmaximum =>
    obtain rfl := Option.some.inj hwindow
    obtain ⟨hnonneg, hle⟩ := coverageGap_mem hin hfirst hlast
    rw [← hmaximum] at hnonneg hle
    have hstart := window.start_nonneg
    have hdigits : digits maximum.toNat ≤ 19 := digits_le (by omega) (by omega)
    have hshown : (toString window.maxSampleGapNs).length = 9 := by rw [hallowance]; rfl
    have h1 : "clock coverage gap ".length = 19 := rfl
    have h2 : " ns exceeds allowance ".length = 22 := rfl
    have h3 : " ns".length = 3 := rfl
    simp only [length_issueText, String.length_append, toString_string, h1, h2, h3, hfactor,
      length_toString_int hnonneg, hshown]
    omega
  | unobserved =>
    have h1 : "deadline_miss_ratio was not observed for every sample".length = 53 := rfl
    simp only [length_issueText, h1, hratio]
    omega
  | invalid =>
    have h1 : "all deadline ratios must be finite and in [0, 1]; statistic unavailable".length =
      71 := rfl
    simp only [length_issueText, h1, hratio]
    omega
  | below lower upper =>
    have hlower := hnumbers.number lower
    have hupper := length_showBound hnumbers upper
    have h1 : "minimum window or integral RTF is at most ".length = 42 := rfl
    have h2 : "; recorded lower bound is ".length = 26 := rfl
    simp only [length_issueText, String.length_append, h1, h2, hfactor]
    omega
  | undetermined lower upper =>
    have hlower := hnumbers.number lower
    have hupper := length_showBound hnumbers upper
    have h1 : "RTF bound [".length = 11 := rfl
    have h2 : ", ".length = 2 := rfl
    have h3 : "] does not determine whether the minimum ".length = 41 := rfl
    have h4 : " is met; numeric RTF is a lower bound, not a measured violation".length = 63 := rfl
    simp only [length_issueText, String.length_append, h1, h2, h3, h4, hfactor]
    omega
  | deadline ratio =>
    have hnumber := hnumbers.number ratio
    have h1 : "maximum observed value was ".length = 27 := rfl
    simp only [length_issueText, String.length_append, h1, hratio]
    omega

theorem PlaybackIssue.length_le {issue : ReadinessIssue} (hnumbers : py.ShortNumbers)
    (h : PlaybackIssue py issue) : (TimingEvaluation.issueText issue).length ≤ 680 := by
  cases h with
  | frequency clockHz =>
    have hnumber := hnumbers.number clockHz
    have hpath : "$.time_policy.min_clock_hz".length = 26 := rfl
    have h1 : "observed clock frequency was ".length = 29 := rfl
    simp only [length_issueText, String.length_append, h1, hpath]
    omega
  | still => decide

section
variable {scenario : LiveScenario} {measurement : Measurement py scenario}

/-- The clock samples of the measurement. -/
def Measurement.samplesInside (measurement : Measurement py scenario) : List ClockSample :=
  measurement.clockSamples.filter fun sample =>
    measurement.startedMonotonicNs ≤ sample.observedAtNs &&
      sample.observedAtNs ≤ measurement.finishedMonotonicNs

/-- An evaluation has a message that fits, and ratios in range. -/
def TimingEvaluation.Fits (evaluation : TimingEvaluation) : Prop :=
  evaluation.message.length ≤ 4096 ∧ (clockResult evaluation.observation).InRange

theorem maxSampleGap_pos : (0 : ℤ) < 250000000 := by decide

/-- The window of the measurement. -/
def Measurement.window (measurement : Measurement py scenario)
    (h : measurement.startedMonotonicNs < measurement.finishedMonotonicNs) (ratio : Option ℚ) :
    ClockMeasurementWindow :=
  ⟨measurement.startedMonotonicNs, measurement.finishedMonotonicNs, 250000000, ratio,
    measurement.started_nonneg, h, maxSampleGap_pos⟩

end

end

/-! A stepped clock that moves by half a step, sixty times. -/

end RoboticsRuntime.Harness
