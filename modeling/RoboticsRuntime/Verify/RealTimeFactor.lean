import Mathlib
import RoboticsRuntime.Harness.Timing.Realtime

/-!
# What the verdict on the real-time factor says about the clock

Between its samples the source clock is only known not to move backwards. A window that ends at a
sample progresses no more than from the last sample before its start; a window that ends just
before a sample progresses at least from its first sample to the one before. Every other window
progresses at least as much as the window that ends just before the next sample, or at the end of
the measurement.
-/

namespace RoboticsRuntime.Harness
open Theory

/-- A clock runs through the recorded samples. -/
def Agrees (clock : ℤ → ℚ) (samples : List ClockSample) : Prop :=
  ∀ sample ∈ samples, clock sample.observedAtNs = sample.sourceTimeNs

/-- The samples lie within the bounds of the measurement. -/
def Within (samples : List ClockSample) (window : ClockMeasurementWindow) : Prop :=
  ∀ sample ∈ samples, window.startNs ≤ sample.observedAtNs ∧ sample.observedAtNs ≤ window.endNs

/-- Some window of the given length, or the whole measurement, progresses less than a factor of
its length. -/
def FallsBelow (clock : ℤ → ℚ) (window : ClockMeasurementWindow) (windowNs : ℤ) (factor : ℚ) :
    Prop :=
  (∃ t, window.startNs ≤ t ∧ t + windowNs ≤ window.endNs ∧
      clock (t + windowNs) - clock t < factor * windowNs) ∨
    clock window.endNs - clock window.startNs < factor * (window.endNs - window.startNs)

/-- Every window of the given length and the whole measurement progress at least a factor of their
length. -/
def StaysAbove (clock : ℤ → ℚ) (window : ClockMeasurementWindow) (windowNs : ℤ) (factor : ℚ) :
    Prop :=
  (∀ t, window.startNs ≤ t → t + windowNs ≤ window.endNs →
      factor * windowNs ≤ clock (t + windowNs) - clock t) ∧
    factor * (window.endNs - window.startNs) ≤ clock window.endNs - clock window.startNs

variable {samples : List ClockSample} {window : ClockMeasurementWindow} {windowNs : ℤ}
  {clock : ℤ → ℚ}

/-- A clock that does not move backwards stays above a factor that is not positive. -/
theorem staysAbove_of_nonpos (hclock : Monotone clock) (hw : 0 < windowNs) (hm : m ≤ 0) :
    StaysAbove clock window windowNs m := by
  have hpos : (0 : ℚ) < windowNs := Int.cast_pos.2 hw
  have hlen : (0 : ℚ) < window.endNs - window.startNs := by
    rw [← Int.cast_sub]
    exact Int.cast_pos.2 (sub_pos.2 window.start_lt_end)
  constructor
  · intro t _ _
    have hle := hclock (show t ≤ t + windowNs by omega)
    have := mul_nonpos_of_nonpos_of_nonneg hm hpos.le
    linarith
  · have hle := hclock window.start_lt_end.le
    have := mul_nonpos_of_nonpos_of_nonneg hm hlen.le
    linarith

/-! ## Recorded progress -/

theorem recordedProgress_isSome {right : ℤ} (hr : right < samples.length) (left : ℕ) :
    ∃ p, recordedProgress samples left right = some p := by
  unfold recordedProgress
  split
  · exact ⟨0, rfl⟩
  · next hlt =>
    have hright : right.toNat < samples.length := by omega
    have hleft : left < samples.length := by omega
    rw [List.getElem?_eq_getElem hright, List.getElem?_eq_getElem hleft]
    exact ⟨_, rfl⟩

/-- The clock progresses at least as much as was recorded inside a window. -/
theorem recordedProgress_le (hclock : Monotone clock) (hagrees : Agrees clock samples)
    {left : ℕ} {right : ℤ} (hp : recordedProgress samples left right = some p)
    (hleft : ∀ a, samples[left]? = some a → start ≤ a.observedAtNs)
    (hright : ∀ c, (left : ℤ) < right → samples[right.toNat]? = some c → c.observedAtNs ≤ stop)
    (hle : start ≤ stop) : p ≤ clock stop - clock start := by
  unfold recordedProgress at hp
  split at hp
  · obtain rfl := Option.some.inj hp
    exact sub_nonneg.2 (hclock hle)
  · next hlt =>
    simp only [Option.bind_eq_bind, Option.bind_eq_some_iff] at hp
    obtain ⟨c, hc, a, ha, hp⟩ := hp
    obtain rfl := Option.some.inj hp
    have hstop := hclock (hright c (not_le.1 hlt) hc)
    have hstart := hclock (hleft a ha)
    rw [hagrees c (List.mem_of_getElem? hc)] at hstop
    rw [hagrees a (List.mem_of_getElem? ha)] at hstart
    linarith

/-- An interval divides the progress between its first and its last sample by its length. -/
theorem intervalRealtimeFactor_spec (samples : List ClockSample) (startNs endNs : ℤ) :
    ∃ p : ℚ, intervalRealtimeFactor samples startNs endNs = some (p / (endNs - startNs)) ∧
      recordedProgress samples (samples.findIdx fun sample => startNs ≤ sample.observedAtNs)
        ((samples.findIdx fun sample => endNs < sample.observedAtNs : ℕ) - 1) = some p := by
  have hle : samples.findIdx (fun sample => endNs < sample.observedAtNs) ≤ samples.length :=
    List.findIdx_le_length
  have hlast : ((samples.findIdx fun sample => endNs < sample.observedAtNs : ℕ) - 1 : ℤ) <
      samples.length := by omega
  obtain ⟨p, hp⟩ := recordedProgress_isSome hlast
    (samples.findIdx fun sample => startNs ≤ sample.observedAtNs)
  refine ⟨p, ?_, hp⟩
  unfold intervalRealtimeFactor
  dsimp only
  rw [hp]
  rfl

/-! ## The sweep for the lower bound -/

/-- The minimum takes a window from `start` on into account whose last sample is `right`. -/
def Checked (samples : List ClockSample) (start right windowNs : ℤ) (minimum : ℚ) : Prop :=
  ∃ (left : ℕ) (p : ℚ), (∀ a, samples[left]? = some a → start ≤ a.observedAtNs) ∧
    recordedProgress samples left right = some p ∧ minimum ≤ p / windowNs

theorem Checked.mono (h : Checked samples start right windowNs minimum)
    (hle : minimum' ≤ minimum) : Checked samples start right windowNs minimum' := by
  obtain ⟨left, p, hleft, hp, hmin⟩ := h
  exact ⟨left, p, hleft, hp, hle.trans hmin⟩

/-- A check at a sample succeeds, keeps the left position before the sample and takes its window
into account. -/
theorem lowerCheck_spec (window : ClockMeasurementWindow) (windowNs endNs right : ℤ) (hc : samples[index]? = some current)
    (hend : endNs - windowNs ≤ current.observedAtNs) (hright : right < samples.length)
    (hleft : state.1 ≤ index) :
    ∃ state', lowerCheck samples window windowNs state endNs right = some state' ∧
      state'.1 ≤ index ∧ state'.2 ≤ state.2 ∧
      (window.startNs ≤ endNs - windowNs →
        Checked samples (endNs - windowNs) right windowNs state'.2) := by
  unfold lowerCheck
  dsimp only
  split
  · next hlt => exact ⟨state, rfl, hleft, le_rfl, fun hge => absurd hlt (not_lt.2 hge)⟩
  · have hstop : decide (current.observedAtNs < endNs - windowNs) = false :=
      decide_eq_false (not_lt.2 hend)
    obtain ⟨left, a, hadvance, ha, hge, hle, -⟩ := advance_eq_some
      (fun sample : ClockSample => decide (sample.observedAtNs < endNs - windowNs)) hc hstop hleft
    obtain ⟨p, hp⟩ := recordedProgress_isSome hright left
    refine ⟨(left, min state.2 (p / windowNs)), ?_, hle, min_le_left _ _, fun _ => ?_⟩
    · rw [hadvance]
      simp [hp]
    · refine ⟨left, p, fun b hb => ?_, hp, min_le_right _ _⟩
      obtain rfl := Option.some.inj (ha.symm.trans hb)
      exact not_lt.1 (of_decide_eq_false hge)

/-- What the sweep has established before a position. -/
structure LowerSwept (samples : List ClockSample) (window : ClockMeasurementWindow)
    (windowNs : ℤ) (initial : ℚ) (index : ℕ) (state : ℕ × ℚ) : Prop where
  left_le : state.1 ≤ index
  le_initial : state.2 ≤ initial
  checked : ∀ i < index, ∀ c, samples[i]? = some c →
    window.startNs ≤ c.observedAtNs - 1 - windowNs →
    Checked samples (c.observedAtNs - 1 - windowNs) ((i : ℤ) - 1) windowNs state.2

theorem lowerStep_swept (hw : 0 < windowNs) (hc : samples[index]? = some current)
    (h : LowerSwept samples window windowNs initial index state) :
    ∃ state', lowerStep samples window windowNs state (current, index) = some state' ∧
      LowerSwept samples window windowNs initial (index + 1) state' := by
  have hlt : index < samples.length := (List.getElem?_eq_some_iff.1 hc).1
  obtain ⟨before, hbefore, hleft, hle, hchecked⟩ :=
    lowerCheck_spec window windowNs (current.observedAtNs - 1) (index - 1) hc (by omega) (by omega)
      h.left_le
  obtain ⟨after, hafter, hleft', hle', -⟩ :=
    lowerCheck_spec window windowNs current.observedAtNs index hc (by omega) (by omega) hleft
  refine ⟨after, ?_, hleft'.trans (Nat.le_succ index), hle'.trans (hle.trans h.le_initial), ?_⟩
  · rw [lowerStep, hbefore]
    exact hafter
  · intro i hi c hci hstart
    rcases Nat.lt_succ_iff_lt_or_eq.1 hi with hi | rfl
    · exact (h.checked i hi c hci hstart).mono (hle'.trans hle)
    · obtain rfl := Option.some.inj (hc.symm.trans hci)
      exact (hchecked hstart).mono hle'

/-- The sweep ends, with a minimum that takes the windows before every sample into account. -/
theorem lowerSweep (samples : List ClockSample) (window : ClockMeasurementWindow)
    (hw : 0 < windowNs) (initial : ℚ) :
    ∃ state, samples.zipIdx.foldlM (lowerStep samples window windowNs) (0, initial) = some state ∧
      LowerSwept samples window windowNs initial samples.length state :=
  foldlM_zipIdx_rule _ (LowerSwept samples window windowNs initial)
    ⟨le_rfl, le_rfl, fun i hi => absurd hi (Nat.not_lt_zero i)⟩
    fun _ _ _ hc h => lowerStep_swept hw hc h

/-! ## The lower bound -/

theorem le_observed_of_findIdx {start : ℤ}
    (ha : samples[samples.findIdx fun sample => start ≤ sample.observedAtNs]? = some a) :
    start ≤ a.observedAtNs := by
  obtain ⟨hlt, rfl⟩ := List.getElem?_eq_some_iff.1 ha
  exact of_decide_eq_true (@List.findIdx_getElem ClockSample (fun sample => start ≤ sample.observedAtNs) _ hlt)

theorem observed_le_of_lt_findIdx {stop : ℤ} {i : ℕ}
    (hi : i < samples.findIdx fun sample => stop < sample.observedAtNs)
    (hc : samples[i]? = some c) : c.observedAtNs ≤ stop := by
  obtain ⟨hlt, rfl⟩ := List.getElem?_eq_some_iff.1 hc
  simpa using List.not_of_lt_findIdx hi

/-- The clock progresses at least as much as was recorded in an interval, from an earlier start and
to any time that is not before its last sample. -/
theorem interval_progress (hclock : Monotone clock) (hagrees : Agrees clock samples)
    {startNs endNs : ℤ} {start stop : ℤ} {p : ℚ}
    (hp : recordedProgress samples (samples.findIdx fun sample => startNs ≤ sample.observedAtNs)
      ((samples.findIdx fun sample => endNs < sample.observedAtNs : ℕ) - 1) = some p)
    (hstart : start ≤ startNs)
    (hstop : ∀ i < samples.findIdx fun sample => endNs < sample.observedAtNs, ∀ c,
      samples[i]? = some c → c.observedAtNs ≤ stop)
    (hle : start ≤ stop) : p ≤ clock stop - clock start := by
  apply recordedProgress_le hclock hagrees hp _ _ hle
  · intro a ha
    exact hstart.trans (le_observed_of_findIdx ha)
  · intro c hlt hc
    exact hstop _ (by omega) c hc

/-- A window is no worse than the checked one just before the next sample, or the last one. -/
theorem window_progress (hw : 0 < windowNs) (hclock : Monotone clock)
    (hagrees : Agrees clock samples)
    (hswept : LowerSwept samples window windowNs initial samples.length state)
    {p : ℚ} (hp : recordedProgress samples
      (samples.findIdx fun sample => window.endNs - windowNs ≤ sample.observedAtNs)
      ((samples.findIdx fun sample => window.endNs < sample.observedAtNs : ℕ) - 1) = some p)
    (hinitial : initial ≤ p / windowNs) {t : ℤ} (ht : window.startNs ≤ t)
    (ht' : t + windowNs ≤ window.endNs) :
    state.2 * windowNs ≤ clock (t + windowNs) - clock t := by
  have hpos : (0 : ℚ) < windowNs := Int.cast_pos.2 hw
  rcases lt_or_ge (samples.findIdx fun sample => t + windowNs < sample.observedAtNs)
    samples.length with hlt | hge
  · -- the next sample after the window
    have hnext : t + windowNs < (samples[samples.findIdx fun sample =>
        t + windowNs < sample.observedAtNs]).observedAtNs :=
      of_decide_eq_true
        (@List.findIdx_getElem ClockSample (fun sample => t + windowNs < sample.observedAtNs) _ hlt)
    obtain ⟨left, q, hleft, hq, hmin⟩ := hswept.checked _ hlt _ (List.getElem?_eq_getElem hlt)
      (by omega)
    have hprogress : q ≤ clock (t + windowNs) - clock t := by
      apply recordedProgress_le hclock hagrees hq _ _ (by omega)
      · intro a ha
        have := hleft a ha
        omega
      · intro c hlr hc
        exact observed_le_of_lt_findIdx (by omega) hc
    exact ((le_div_iff₀ hpos).1 hmin).trans hprogress
  · -- every sample is in the window or before it
    have hprogress : p ≤ clock (t + windowNs) - clock t := by
      apply interval_progress hclock hagrees hp (by omega) _ (by omega)
      intro i _ c hc
      have hlt := (List.getElem?_eq_some_iff.1 hc).1
      exact observed_le_of_lt_findIdx (hlt.trans_le hge) hc
    exact ((le_div_iff₀ hpos).1 (hswept.le_initial.trans hinitial)).trans hprogress

/-- The lower bound is a factor above which every clock stays. -/
theorem measurementRealtimeFactor_spec (samples : List ClockSample)
    (window : ClockMeasurementWindow) (hw : 0 < windowNs) :
    ∃ lower, measurementRealtimeFactor samples window windowNs = some lower ∧
      ∀ m ≤ lower, ∀ clock : ℤ → ℚ, Monotone clock → Agrees clock samples →
        StaysAbove clock window windowNs m := by
  have hpos : (0 : ℚ) < windowNs := Int.cast_pos.2 hw
  have hlen : (0 : ℚ) < window.endNs - window.startNs := by
    rw [← Int.cast_sub]
    exact Int.cast_pos.2 (sub_pos.2 window.start_lt_end)
  obtain ⟨whole, hwhole, hwholeProgress⟩ :=
    intervalRealtimeFactor_spec samples window.startNs window.endNs
  -- the whole measurement is always taken into account
  have hall : ∀ m ≤ whole / (window.endNs - window.startNs), ∀ clock : ℤ → ℚ, Monotone clock →
      Agrees clock samples → m * (window.endNs - window.startNs) ≤
        clock window.endNs - clock window.startNs := by
    intro m hm clock hclock hagrees
    exact ((le_div_iff₀ hlen).1 hm).trans (interval_progress hclock hagrees hwholeProgress le_rfl
      (fun i hi c hc => observed_le_of_lt_findIdx hi hc) window.start_lt_end.le)
  by_cases hshort : window.endNs - window.startNs < windowNs
  · refine ⟨max 0 (whole / (window.endNs - window.startNs)), ?_, fun m hm clock hclock hagrees => ?_⟩
    · simp [measurementRealtimeFactor, hwhole, hshort]
    rcases le_max_iff.1 hm with hm | hm
    · exact staysAbove_of_nonpos hclock hw hm
    · exact ⟨fun t ht ht' => by omega, hall m hm clock hclock hagrees⟩
  · obtain ⟨first, hfirst, -⟩ :=
      intervalRealtimeFactor_spec samples window.startNs (window.startNs + windowNs)
    obtain ⟨last, hlast, hlastProgress⟩ :=
      intervalRealtimeFactor_spec samples (window.endNs - windowNs) window.endNs
    rw [show ((window.endNs : ℚ) - (window.endNs - windowNs : ℤ)) = windowNs by push_cast; ring]
      at hlast
    rw [show ((window.startNs + windowNs : ℤ) : ℚ) - window.startNs = windowNs by push_cast; ring]
      at hfirst
    obtain ⟨state, hstate, hswept⟩ := lowerSweep samples window hw
      (min (whole / (window.endNs - window.startNs)) (min (first / windowNs) (last / windowNs)))
    refine ⟨max 0 state.2, ?_, fun m hm clock hclock hagrees => ?_⟩
    · simp [measurementRealtimeFactor, hwhole, hshort, hfirst, hlast, hstate]
    · rcases le_max_iff.1 hm with hm | hm
      · exact staysAbove_of_nonpos hclock hw hm
      · refine ⟨fun t ht ht' => ?_, hall m (hm.trans (hswept.le_initial.trans (min_le_left _ _)))
          clock hclock hagrees⟩
        have hprogress := window_progress hw hclock hagrees hswept hlastProgress
          ((min_le_right _ _).trans (min_le_right _ _)) ht ht'
        exact (mul_le_mul_of_nonneg_right hm hpos.le).trans hprogress

/-! ## The upper bound -/

/-- An upper bound is the whole progress, or that of a window that ends at a sample, from the last
sample until its start. -/
def Attained (samples : List ClockSample) (window : ClockMeasurementWindow) (windowNs : ℤ)
    (initial upper : WithTop ℚ) : Prop :=
  upper = initial ∨ ∃ a ∈ samples, ∃ c ∈ samples, window.startNs ≤ c.observedAtNs - windowNs ∧
    a.observedAtNs ≤ c.observedAtNs - windowNs ∧
    upper = ((c.sourceTimeNs - a.sourceTimeNs : ℤ) / windowNs : ℚ)

/-- What the sweep has established before a position. -/
structure UpperSwept (samples : List ClockSample) (window : ClockMeasurementWindow)
    (windowNs : ℤ) (initial : WithTop ℚ) (index : ℕ) (state : ℕ × WithTop ℚ) : Prop where
  left_lt : state.1 = 0 ∨ state.1 < index
  attained : Attained samples window windowNs initial state.2

theorem upperStep_swept (hc : samples[index]? = some current)
    (h : UpperSwept samples window windowNs initial index state) :
    ∃ state', upperStep samples window windowNs state (current, index) = some state' ∧
      UpperSwept samples window windowNs initial (index + 1) state' := by
  have hlt : index < samples.length := (List.getElem?_eq_some_iff.1 hc).1
  have hkeep : state.1 = 0 ∨ state.1 < index + 1 := by have := h.left_lt; omega
  unfold upperStep
  dsimp only
  split
  · exact ⟨state, rfl, hkeep, h.attained⟩
  · next hstart =>
    obtain ⟨-, hleft⟩ := lookAhead_le (fun sample : ClockSample =>
      decide (sample.observedAtNs ≤ current.observedAtNs - windowNs)) samples index state.1
    generalize lookAhead (fun sample : ClockSample =>
      decide (sample.observedAtNs ≤ current.observedAtNs - windowNs)) samples index state.1 = left
      at hleft
    have hleft' : left = 0 ∨ left < index + 1 := by omega
    have hrange : left < samples.length := by omega
    rw [List.getElem?_eq_getElem hrange]
    simp only [Option.bind_eq_bind, Option.bind_some]
    split
    · next hbefore =>
      refine ⟨_, rfl, hleft', ?_⟩
      rcases min_choice state.2 (((current.sourceTimeNs - samples[left].sourceTimeNs : ℤ) /
        windowNs : ℚ) : WithTop ℚ) with hmin | hmin
      · dsimp only
        rw [hmin]
        exact h.attained
      · exact .inr ⟨samples[left], List.getElem_mem _, current, List.mem_of_getElem? hc,
          not_lt.1 hstart, hbefore, hmin⟩
    · exact ⟨_, rfl, hleft', h.attained⟩

/-- A clock falls below a factor that a recorded end of a window is below. -/
theorem fallsBelow_of_window (hw : 0 < windowNs) (hin : Within samples window)
    (hclock : Monotone clock) (hagrees : Agrees clock samples) (ha : a ∈ samples)
    (hc : c ∈ samples) (hstart : window.startNs ≤ c.observedAtNs - windowNs)
    (hbefore : a.observedAtNs ≤ c.observedAtNs - windowNs)
    (hlt : ((c.sourceTimeNs - a.sourceTimeNs : ℤ) / windowNs : ℚ) < m) :
    FallsBelow clock window windowNs m := by
  refine .inl ⟨c.observedAtNs - windowNs, hstart, by have := (hin c hc).2; omega, ?_⟩
  have hle := hclock hbefore
  rw [hagrees a ha] at hle
  rw [div_lt_iff₀ (Int.cast_pos.2 hw), Int.cast_sub] at hlt
  rw [sub_add_cancel, hagrees c hc]
  linarith

/-- A clock falls below a factor that the whole recorded measurement is below. -/
theorem fallsBelow_of_whole (hagrees : Agrees clock samples) (ha : a ∈ samples) (hc : c ∈ samples)
    (hfirst : a.observedAtNs = window.startNs) (hlast : c.observedAtNs = window.endNs)
    (hlt : ((c.sourceTimeNs - a.sourceTimeNs : ℤ) / (window.endNs - window.startNs) : ℚ) < m) :
    FallsBelow clock window windowNs m := by
  have hlen : (0 : ℚ) < window.endNs - window.startNs := by
    rw [← Int.cast_sub]
    exact Int.cast_pos.2 (sub_pos.2 window.start_lt_end)
  rw [div_lt_iff₀ hlen, Int.cast_sub] at hlt
  refine .inr ?_
  rw [← hfirst, ← hlast, hagrees a ha, hagrees c hc, hfirst, hlast]
  exact hlt

/-- Every clock falls below a factor that the upper bound is below. -/
theorem measurementRealtimeFactorUpper_spec (hne : samples ≠ []) (hw : 0 < windowNs)
    (hin : Within samples window) :
    ∃ upper, measurementRealtimeFactorUpper samples window windowNs = some upper ∧
      ∀ m : ℚ, upper < m → ∀ clock : ℤ → ℚ, Monotone clock → Agrees clock samples →
        FallsBelow clock window windowNs m := by
  have hfirst := List.head?_eq_some_head hne
  have hlast := List.getLast?_eq_some_getLast hne
  generalize samples.head hne = first at hfirst
  generalize samples.getLast hne = last at hlast
  have hsweep := fun initial : WithTop ℚ =>
    foldlM_zipIdx_rule (upperStep samples window windowNs)
      (UpperSwept samples window windowNs initial)
      (show UpperSwept samples window windowNs initial 0 (0, initial) from ⟨.inl rfl, .inl rfl⟩)
      fun _ _ _ hc h => upperStep_swept hc h
  obtain ⟨state, hstate, -, hattained⟩ := hsweep
    (if first.observedAtNs = window.startNs ∧ last.observedAtNs = window.endNs then
      ((last.sourceTimeNs - first.sourceTimeNs : ℤ) / (window.endNs - window.startNs) : ℚ) else ⊤)
  refine ⟨max 0 state.2, ?_, fun m hm clock hclock hagrees => ?_⟩
  · rw [measurementRealtimeFactorUpper, hfirst, hlast]
    simp only [Option.bind_eq_bind, Option.bind_some]
    rw [hstate]
    rfl
  · have hlt := (max_lt_iff.1 hm).2
    rcases hattained with heq | ⟨a, ha, c, hc, hstart, hbefore, heq⟩
    · rw [heq] at hlt
      split at hlt
      · next hedges =>
        exact fallsBelow_of_whole hagrees (List.mem_of_head? hfirst) (List.mem_of_getLast? hlast)
          hedges.1 hedges.2 (WithTop.coe_lt_coe.1 hlt)
      · exact absurd hlt not_top_lt
    · rw [heq] at hlt
      exact fallsBelow_of_window hw hin hclock hagrees ha hc hstart hbefore
        (WithTop.coe_lt_coe.1 hlt)

/-! ## Main result -/

theorem clockCoverage_violates (samples : List ClockSample) (first last : ClockSample)
    (window : ClockMeasurementWindow) (issues : TimingIssues) :
    (clockCoverage samples first last window issues).2.Violates
        "$.time_policy.min_realtime_factor" →
      issues.Violates "$.time_policy.min_realtime_factor" := by
  unfold clockCoverage
  dsimp only
  split_ifs <;> simp

/-- The bounds of a measurement, and what they say about every clock. -/
theorem windowedRealtimeFactor_spec (hw : 0 < windowNs) (hin : Within samples window)
    (issues : TimingIssues) :
    ∃ lower upper issues', windowedRealtimeFactor samples windowNs issues (some window) =
        some ((lower, upper), issues') ∧
      (issues'.Violates "$.time_policy.min_realtime_factor" →
        issues.Violates "$.time_policy.min_realtime_factor") ∧
      ∀ m : ℚ, ∀ clock : ℤ → ℚ, Monotone clock → Agrees clock samples →
        (upper < m → FallsBelow clock window windowNs m) ∧
          (m ≤ lower → StaysAbove clock window windowNs m) := by
  have htrivial : ∀ m : ℚ, ∀ clock : ℤ → ℚ, Monotone clock → Agrees clock samples →
      ((⊤ : WithTop ℚ) < m → FallsBelow clock window windowNs m) ∧
        (m ≤ 0 → StaysAbove clock window windowNs m) :=
    fun m clock hclock _ => ⟨fun h => absurd h not_top_lt, staysAbove_of_nonpos hclock hw⟩
  unfold windowedRealtimeFactor
  split
  · exact ⟨0, ⊤, _, rfl, by simp, htrivial⟩
  · split
    · exact ⟨0, ⊤, _, rfl, by simp, htrivial⟩
    · next hshort _ =>
      have hne : samples ≠ [] := fun hnil => hshort (by simp [hnil])
      obtain ⟨lower, hlower, habove⟩ := measurementRealtimeFactor_spec samples window hw
      obtain ⟨upper, hupper, hbelow⟩ := measurementRealtimeFactorUpper_spec hne hw hin
      have hcoverage := clockCoverage_violates samples (samples.head hne) (samples.getLast hne)
        window issues
      rw [List.head?_eq_some_head hne, List.getLast?_eq_some_getLast hne]
      simp only [Option.bind_eq_bind, Option.bind_some, hlower, hupper]
      cases hcovered : (clockCoverage samples (samples.head hne) (samples.getLast hne) window
        issues).1 with
      | true =>
        exact ⟨lower, upper, _, rfl, hcoverage, fun m clock hclock hagrees =>
          ⟨fun h => hbelow m h clock hclock hagrees, fun h => habove m h clock hclock hagrees⟩⟩
      | false =>
        exact ⟨0, upper, _, rfl, hcoverage, fun m clock hclock hagrees =>
          ⟨fun h => hbelow m h clock hclock hagrees, staysAbove_of_nonpos hclock hw⟩⟩

theorem deadlineValues_violates (samples : List ClockSample) (measured : Option ℚ)
    {issues : TimingIssues} (h : (deadlineValues samples measured issues).2.Violates
      "$.time_policy.min_realtime_factor") :
    issues.Violates "$.time_policy.min_realtime_factor" := by
  unfold deadlineValues at h
  cases measured with
  | some ratio =>
    dsimp only at h
    split_ifs at h <;> simpa using h
  | none =>
    dsimp only [requiredValues] at h
    split_ifs at h <;> simpa using h

theorem rtfWindowNs_pos {rtfWindowSec : ℚ} (h : 1 ≤ rtfWindowSec) : 0 < rtfWindowNs rtfWindowSec := by
  have hfloor : (1 : ℤ) ≤ ⌊rtfWindowSec * 1000000000⌋ := by
    apply Int.le_floor.2
    rw [Int.cast_one]
    linarith
  exact Int.lt_of_lt_of_le Int.one_pos (hfloor.trans (floor_le_roundHalfEven _))

/-- A report violates the minimum when the upper bound is below it. -/
theorem violates_reportRealtimeFactor (py : PyOps) (minimum lower : ℚ) (upper : WithTop ℚ)
    {issues : TimingIssues} (h : ¬ issues.Violates "$.time_policy.min_realtime_factor") :
    (reportRealtimeFactor py minimum lower upper issues).Violates
      "$.time_policy.min_realtime_factor" ↔ upper < minimum := by
  unfold reportRealtimeFactor
  split_ifs with h1 h2 <;> simp [h, h1]

/-- A report that concludes has a lower bound of at least the minimum. -/
theorem le_of_reportRealtimeFactor (py : PyOps) (minimum lower : ℚ) (upper : WithTop ℚ)
    (issues : TimingIssues) (hv : ¬ (reportRealtimeFactor py minimum lower upper issues).Violates
      "$.time_policy.min_realtime_factor")
    (hl : ¬ (reportRealtimeFactor py minimum lower upper issues).Lacks
      "$.time_policy.min_realtime_factor") : minimum ≤ lower := by
  unfold reportRealtimeFactor at hv hl
  split_ifs at hv hl with h1 h2
  · simp at hv
  · simp at hl
  · exact not_lt.1 h2

/-- What is reported about the real-time factor compares its bounds with the minimum. -/
theorem evaluateRealtime_of_bounds {py : PyOps} {policy : RealtimePolicy}
    {issues issues' : TimingIssues} {measurementWindow : Option ClockMeasurementWindow}
    (h : windowedRealtimeFactor samples windowNs issues measurementWindow =
      some ((lower, upper), issues'))
    (hclean : ¬ issues'.Violates "$.time_policy.min_realtime_factor") :
    ∃ result reported, evaluateRealtime py policy samples issues windowNs measurementWindow =
        some (result, reported) ∧
      (reported.Violates "$.time_policy.min_realtime_factor" → upper < policy.minRealtimeFactor) ∧
      (¬ reported.Violates "$.time_policy.min_realtime_factor" →
        ¬ reported.Lacks "$.time_policy.min_realtime_factor" →
        policy.minRealtimeFactor ≤ lower) := by
  have hdeadline := mt (deadlineValues_violates samples
    (measurementWindow.bind (·.deadlineMissRatio))) hclean
  rw [evaluateRealtime, h]
  simp only [Option.bind_eq_bind, Option.bind_some]
  refine ⟨_, _, rfl, ?_⟩
  generalize (deadlineValues samples (measurementWindow.bind (·.deadlineMissRatio)) issues').2 =
    checked at hdeadline
  have hviolates := violates_reportRealtimeFactor py policy.minRealtimeFactor lower upper hdeadline
  have hle := le_of_reportRealtimeFactor py policy.minRealtimeFactor lower upper checked
  split_ifs
  · simpa using ⟨hviolates.1, hle⟩
  · exact ⟨hviolates.1, hle⟩

/-- The verdict on the real-time factor holds for every clock that agrees with the samples: a
violation is one of each of them, and where nothing is reported none of them falls below the
minimum. -/
theorem evaluateRealtime_sound (py : PyOps) (policy : RealtimePolicy)
    (hin : Within samples window) {rtfWindowSec : ℚ} (hsec : 1 ≤ rtfWindowSec) :
    ∃ result issues, evaluateRealtime py policy samples ⟨[], []⟩ (rtfWindowNs rtfWindowSec)
        (some window) = some (result, issues) ∧
      ∀ clock : ℤ → ℚ, Monotone clock → Agrees clock samples →
        (issues.Violates "$.time_policy.min_realtime_factor" →
          FallsBelow clock window (rtfWindowNs rtfWindowSec) policy.minRealtimeFactor) ∧
        (¬ issues.Violates "$.time_policy.min_realtime_factor" →
          ¬ issues.Lacks "$.time_policy.min_realtime_factor" →
          StaysAbove clock window (rtfWindowNs rtfWindowSec) policy.minRealtimeFactor) := by
  obtain ⟨lower, upper, issues, hbounds, hviolates, hsound⟩ :=
    windowedRealtimeFactor_spec (rtfWindowNs_pos hsec) hin ⟨[], []⟩
  have hclean : ¬ issues.Violates "$.time_policy.min_realtime_factor" := fun h => by
    simpa [TimingIssues.Violates] using hviolates h
  obtain ⟨result, reported, heval, hupper, hlower⟩ := evaluateRealtime_of_bounds hbounds hclean
  refine ⟨result, reported, heval, fun clock hclock hagrees => ?_⟩
  obtain ⟨hbelow, habove⟩ := hsound policy.minRealtimeFactor clock hclock hagrees
  exact ⟨fun h => hbelow (hupper h), fun hv hl => habove (hlower hv hl)⟩

/-- Two callbacks a second apart, between which the source falls behind. -/
def exampleClockSamples : List ClockSample :=
  [⟨0, 0, none, none⟩, ⟨1000000000, 400000000, none, none⟩]

def exampleMeasurement : ClockMeasurementWindow :=
  ⟨0, 1000000000, 1000000000, some 0, by decide, by decide, by decide⟩

theorem evaluateRealtime_sound_exampleClockSamples :
    ∃ result issues, evaluateRealtime PyOps.exact ⟨1 / 2, 1⟩ exampleClockSamples ⟨[], []⟩
        (rtfWindowNs 1) (some exampleMeasurement) = some (result, issues) ∧
      ∀ clock : ℤ → ℚ, Monotone clock → Agrees clock exampleClockSamples →
        (issues.Violates "$.time_policy.min_realtime_factor" →
          FallsBelow clock exampleMeasurement (rtfWindowNs 1) (1 / 2)) ∧
        (¬ issues.Violates "$.time_policy.min_realtime_factor" →
          ¬ issues.Lacks "$.time_policy.min_realtime_factor" →
          StaysAbove clock exampleMeasurement (rtfWindowNs 1) (1 / 2)) :=
  evaluateRealtime_sound _ _ (by unfold Within; decide) le_rfl

end RoboticsRuntime.Harness
