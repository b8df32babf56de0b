import RoboticsRuntime.Theory.OrderStatistic
import RoboticsRuntime.Verify.RealTimeFactor

/-!
# The sweeps are exact

The two sweeps over the recorded clock inspect the windows that end at a callback, and for the lower
bound those that end just before one and those at the edges of the measurement. Among all windows
of the measurement these attain the minimum: a window between two callbacks has the same last
sample as the one that ends just before the next callback, and no later first sample.
-/

namespace RoboticsRuntime.Harness
open Theory

/-! ## All windows -/

/-- The samples in an interval. -/
def samplesInside (samples : List ClockSample) (startNs endNs : ℤ) : List ClockSample :=
  samples.filter fun sample => startNs ≤ sample.observedAtNs && sample.observedAtNs ≤ endNs

/-- The progress between the first and the last sample in an interval. -/
def innerProgress (samples : List ClockSample) (startNs endNs : ℤ) : ℤ :=
  match (samplesInside samples startNs endNs).head?,
    (samplesInside samples startNs endNs).getLast? with
  | some first, some last => last.sourceTimeNs - first.sourceTimeNs
  | _, _ => 0

/-- The progress from the last sample until the start of an interval to the first one from its end
on. -/
def enclosingProgress (samples : List ClockSample) (startNs endNs : ℤ) : Option ℤ := do
  let before ← (samples.filter fun sample => sample.observedAtNs ≤ startNs).getLast?
  let after ← (samples.filter fun sample => endNs ≤ sample.observedAtNs).head?
  return after.sourceTimeNs - before.sourceTimeNs

/-- The inner progress per time over the whole measurement, and over every window in it. -/
def innerFactors (samples : List ClockSample) (window : ClockMeasurementWindow) (windowNs : ℤ) :
    Set ℚ :=
  {factor | factor = innerProgress samples window.startNs window.endNs /
      (window.endNs - window.startNs : ℤ) ∨
    ∃ t, window.startNs ≤ t ∧ t + windowNs ≤ window.endNs ∧
      factor = innerProgress samples t (t + windowNs) / windowNs}

/-- The enclosing progress per time over the whole measurement, and over every window in it, where
samples enclose it. -/
def enclosingFactors (samples : List ClockSample) (window : ClockMeasurementWindow)
    (windowNs : ℤ) : Set (WithTop ℚ) :=
  {factor | (∃ progress, enclosingProgress samples window.startNs window.endNs = some progress ∧
      factor = (progress / (window.endNs - window.startNs : ℤ) : ℚ)) ∨
    ∃ t progress, window.startNs ≤ t ∧ t + windowNs ≤ window.endNs ∧
      enclosingProgress samples t (t + windowNs) = some progress ∧
      factor = (progress / windowNs : ℚ)}

/-! ## Samples in order -/

/-- The observation times increase, and the source does not move backwards. -/
structure InOrder (samples : List ClockSample) : Prop where
  increasing : samples.Pairwise fun a b => a.observedAtNs < b.observedAtNs
  nondecreasing : samples.Pairwise fun a b => a.sourceTimeNs ≤ b.sourceTimeNs

variable {samples : List ClockSample} {window : ClockMeasurementWindow} {windowNs : ℤ}
  {a b : ClockSample} {i j : ℕ}

namespace InOrder

theorem observed_lt (h : InOrder samples) (ha : samples[i]? = some a) (hb : samples[j]? = some b)
    (hij : i < j) : a.observedAtNs < b.observedAtNs := by
  obtain ⟨hi, rfl⟩ := List.getElem?_eq_some_iff.1 ha
  obtain ⟨hj, rfl⟩ := List.getElem?_eq_some_iff.1 hb
  exact List.pairwise_iff_getElem.1 h.increasing i j hi hj hij

theorem observed_le (h : InOrder samples) (ha : samples[i]? = some a) (hb : samples[j]? = some b)
    (hij : i ≤ j) : a.observedAtNs ≤ b.observedAtNs := by
  rcases hij.eq_or_lt with rfl | hlt
  · exact (Option.some.inj (ha.symm.trans hb) ▸ le_rfl)
  · exact (h.observed_lt ha hb hlt).le

theorem index_le (h : InOrder samples) (ha : samples[i]? = some a) (hb : samples[j]? = some b)
    (hle : a.observedAtNs ≤ b.observedAtNs) : i ≤ j := by
  by_contra hlt
  exact absurd hle (not_le.2 (h.observed_lt hb ha (not_le.1 hlt)))

theorem source_le (h : InOrder samples) (ha : a ∈ samples) (hb : b ∈ samples)
    (hle : a.observedAtNs ≤ b.observedAtNs) : a.sourceTimeNs ≤ b.sourceTimeNs := by
  obtain ⟨i, ha⟩ := List.mem_iff_getElem?.1 ha
  obtain ⟨j, hb⟩ := List.mem_iff_getElem?.1 hb
  rcases (h.index_le ha hb hle).eq_or_lt with rfl | hlt
  · exact (Option.some.inj (ha.symm.trans hb) ▸ le_rfl)
  · obtain ⟨hi, rfl⟩ := List.getElem?_eq_some_iff.1 ha
    obtain ⟨hj, rfl⟩ := List.getElem?_eq_some_iff.1 hb
    exact List.pairwise_iff_getElem.1 h.nondecreasing i j hi hj hlt

theorem eq_of_observed (h : InOrder samples) (ha : a ∈ samples) (hb : b ∈ samples)
    (heq : a.observedAtNs = b.observedAtNs) : a = b := by
  obtain ⟨i, ha⟩ := List.mem_iff_getElem?.1 ha
  obtain ⟨j, hb⟩ := List.mem_iff_getElem?.1 hb
  have hij := le_antisymm (h.index_le ha hb heq.le) (h.index_le hb ha heq.ge)
  exact Option.some.inj (ha.symm.trans (hij ▸ hb))

/-- Bisection by a test that later samples keep. -/
theorem lt_findIdx_iff (h : InOrder samples) {p : ClockSample → Bool}
    (hp : ∀ a b : ClockSample, a.observedAtNs ≤ b.observedAtNs → p a = true → p b = true)
    (ha : samples[i]? = some a) : i < samples.findIdx p ↔ p a = false := by
  obtain ⟨hi, rfl⟩ := List.getElem?_eq_some_iff.1 ha
  constructor
  · intro hlt
    simpa using List.not_of_lt_findIdx hlt
  · intro hfalse
    by_contra hge
    have hlt : samples.findIdx p < samples.length := (not_lt.1 hge).trans_lt hi
    have hle := h.observed_le (List.getElem?_eq_getElem hlt) ha (not_lt.1 hge)
    rw [hp _ _ hle List.findIdx_getElem] at hfalse
    cases hfalse

theorem filter_head_le (h : InOrder samples) {p : ClockSample → Bool}
    (hfirst : (samples.filter p).head? = some first) (ha : a ∈ samples) (hp : p a = true) :
    first.observedAtNs ≤ a.observedAtNs := by
  rcases eq_or_rel_head? (h.increasing.filter p) hfirst (List.mem_filter.2 ⟨ha, hp⟩) with he | hlt
  · exact he ▸ le_rfl
  · exact hlt.le

theorem le_filter_getLast (h : InOrder samples) {p : ClockSample → Bool}
    (hlast : (samples.filter p).getLast? = some last) (ha : a ∈ samples) (hp : p a = true) :
    a.observedAtNs ≤ last.observedAtNs := by
  rcases eq_or_rel_getLast? (h.increasing.filter p) hlast (List.mem_filter.2 ⟨ha, hp⟩) with he | hlt
  · exact he ▸ le_rfl
  · exact hlt.le

end InOrder

/-! ## Inner progress -/

theorem mem_samplesInside : a ∈ samplesInside samples startNs endNs ↔
    a ∈ samples ∧ startNs ≤ a.observedAtNs ∧ a.observedAtNs ≤ endNs := by
  simp only [samplesInside, List.mem_filter, Bool.and_eq_true, decide_eq_true_eq]

/-- The inner progress is that between two samples in the interval, or there are none. -/
theorem innerProgress_attained (samples : List ClockSample) (startNs endNs : ℤ) :
    (samplesInside samples startNs endNs = [] ∧ innerProgress samples startNs endNs = 0) ∨
      ∃ first last, (samplesInside samples startNs endNs).head? = some first ∧
        (samplesInside samples startNs endNs).getLast? = some last ∧
        innerProgress samples startNs endNs = last.sourceTimeNs - first.sourceTimeNs := by
  unfold innerProgress
  cases hinside : samplesInside samples startNs endNs with
  | nil => exact .inl ⟨rfl, rfl⟩
  | cons first rest =>
    refine .inr ⟨first, (first :: rest).getLast (by simp), rfl, List.getLast?_eq_some_getLast _, ?_⟩
    rw [List.getLast?_eq_some_getLast (by simp)]
    rfl

/-- The inner progress is the greatest one between two samples in the interval. -/
theorem le_innerProgress (h : InOrder samples) (ha : a ∈ samplesInside samples startNs endNs)
    (hb : b ∈ samplesInside samples startNs endNs) :
    b.sourceTimeNs - a.sourceTimeNs ≤ innerProgress samples startNs endNs := by
  rcases innerProgress_attained samples startNs endNs with ⟨hnil, -⟩ | ⟨first, last, hf, hl, heq⟩
  · rw [hnil] at ha
    cases ha
  · rw [heq]
    have hmf := (mem_samplesInside.1 (List.mem_of_head? hf)).1
    have hml := (mem_samplesInside.1 (List.mem_of_getLast? hl)).1
    have hfirst := h.source_le hmf (List.mem_of_mem_filter ha)
      (h.filter_head_le hf (List.mem_of_mem_filter ha) (List.mem_filter.1 ha).2)
    have hlast := h.source_le (List.mem_of_mem_filter hb) hml
      (h.le_filter_getLast hl (List.mem_of_mem_filter hb) (List.mem_filter.1 hb).2)
    omega

theorem innerProgress_nonneg (h : InOrder samples) (startNs endNs : ℤ) :
    0 ≤ innerProgress samples startNs endNs := by
  rcases innerProgress_attained samples startNs endNs with ⟨-, heq⟩ | ⟨first, last, hf, -, -⟩
  · exact heq.ge
  · have hle := le_innerProgress h (List.mem_of_head? hf) (List.mem_of_head? hf)
    omega

/-- An interval with fewer samples has no more inner progress. -/
theorem innerProgress_mono (h : InOrder samples)
    (hsub : ∀ a ∈ samplesInside samples startNs endNs, a ∈ samplesInside samples startNs' endNs') :
    innerProgress samples startNs endNs ≤ innerProgress samples startNs' endNs' := by
  rcases innerProgress_attained samples startNs endNs with ⟨-, heq⟩ | ⟨first, last, hf, hl, heq⟩
  · exact heq.trans_le (innerProgress_nonneg h _ _)
  · rw [heq]
    exact le_innerProgress h (hsub _ (List.mem_of_head? hf)) (hsub _ (List.mem_of_getLast? hl))

/-- Enclosing samples progress at least as much as inner ones. -/
theorem innerProgress_le_enclosing (h : InOrder samples) (hle : startNs ≤ endNs)
    (henclosing : enclosingProgress samples startNs endNs = some progress) :
    innerProgress samples startNs endNs ≤ progress := by
  simp only [enclosingProgress, Option.bind_eq_bind, Option.bind_eq_some_iff] at henclosing
  obtain ⟨before, hbefore, after, hafter, heq⟩ := henclosing
  obtain rfl := Option.some.inj heq
  have hmb := List.mem_filter.1 (List.mem_of_getLast? hbefore)
  have hma := List.mem_filter.1 (List.mem_of_head? hafter)
  simp only [decide_eq_true_eq] at hmb hma
  rcases innerProgress_attained samples startNs endNs with ⟨-, heq⟩ | ⟨first, last, hf, hl, heq⟩
  · have := h.source_le hmb.1 hma.1 (hmb.2.trans (hle.trans hma.2))
    omega
  · obtain ⟨hmf, hf, -⟩ := mem_samplesInside.1 (List.mem_of_head? hf)
    obtain ⟨hml, -, hl⟩ := mem_samplesInside.1 (List.mem_of_getLast? hl)
    have hfirst := h.source_le hmb.1 hmf (hmb.2.trans hf)
    have hlast := h.source_le hml hma.1 (hl.trans hma.2)
    omega

/-- The progress between the first sample from the start on and the last one until the end is the
inner progress. -/
theorem recordedProgress_eq (h : InOrder samples) (startNs endNs : ℤ) {left : ℕ} {right : ℤ}
    (hleft : ∀ (i : ℕ) a, samples[i]? = some a → (i < left ↔ a.observedAtNs < startNs))
    (hright : ∀ (i : ℕ) a, samples[i]? = some a → ((i : ℤ) ≤ right ↔ a.observedAtNs ≤ endNs))
    (hlength : right < samples.length) :
    recordedProgress samples left right = some ↑(innerProgress samples startNs endNs) := by
  have hinside : ∀ (i : ℕ) a, samples[i]? = some a →
      (a ∈ samplesInside samples startNs endNs ↔ left ≤ i ∧ (i : ℤ) ≤ right) := by
    intro i a ha
    rw [mem_samplesInside, hright i a ha, ← not_lt, ← not_lt (a := i), hleft i a ha]
    exact and_iff_right (List.mem_of_getElem? ha)
  have hindex : ∀ a ∈ samplesInside samples startNs endNs,
      ∃ i : ℕ, samples[i]? = some a ∧ left ≤ i ∧ (i : ℤ) ≤ right := by
    intro a ha
    obtain ⟨i, hi⟩ := List.mem_iff_getElem?.1 (mem_samplesInside.1 ha).1
    exact ⟨i, hi, (hinside i a hi).1 ha⟩
  unfold recordedProgress
  split
  · next hle =>
    -- At most one sample is inside.
    rcases innerProgress_attained samples startNs endNs with ⟨-, heq⟩ | ⟨first, last, hf, hl, heq⟩
    · rw [heq, Int.cast_zero]
    · obtain ⟨i, hi, hli, hir⟩ := hindex first (List.mem_of_head? hf)
      obtain ⟨j, hj, hlj, hjr⟩ := hindex last (List.mem_of_getLast? hl)
      obtain rfl : i = j := by omega
      obtain rfl := Option.some.inj (hi.symm.trans hj)
      rw [heq, sub_self, Int.cast_zero]
  · next hlt =>
    have hr : right.toNat < samples.length := by omega
    have hl : left < samples.length := by omega
    have hgl := List.getElem?_eq_getElem hl
    have hgr := List.getElem?_eq_getElem hr
    rw [hgl, hgr]
    refine congrArg some ?_
    rw [← Int.cast_sub]
    refine congrArg Int.cast (le_antisymm ?_ ?_)
    · exact le_innerProgress h ((hinside _ _ hgl).2 (by omega)) ((hinside _ _ hgr).2 (by omega))
    · rcases innerProgress_attained samples startNs endNs with ⟨-, heq⟩ | ⟨first, last, hf, hl, heq⟩
      · have := h.source_le (List.mem_of_getElem? hgl) (List.mem_of_getElem? hgr)
          (h.observed_le hgl hgr (by omega))
        omega
      · obtain ⟨i, hi, hli, -⟩ := hindex first (List.mem_of_head? hf)
        obtain ⟨j, hj, -, hjr⟩ := hindex last (List.mem_of_getLast? hl)
        have hfirst := h.source_le (List.mem_of_getElem? hgl) (List.mem_of_getElem? hi)
          (h.observed_le hgl hi hli)
        have hlast := h.source_le (List.mem_of_getElem? hj) (List.mem_of_getElem? hgr)
          (h.observed_le hj hgr (by omega))
        omega

/-- Bisection finds the samples of an interval. -/
theorem intervalRealtimeFactor_eq (h : InOrder samples) (startNs endNs : ℤ) :
    intervalRealtimeFactor samples startNs endNs =
      some ((innerProgress samples startNs endNs : ℚ) / (endNs - startNs : ℤ)) := by
  have hlast : samples.findIdx (fun sample => endNs < sample.observedAtNs) ≤ samples.length :=
    List.findIdx_le_length
  unfold intervalRealtimeFactor
  dsimp only
  rw [recordedProgress_eq h startNs endNs]
  · rw [Int.cast_sub]
    rfl
  · intro i a ha
    rw [h.lt_findIdx_iff (fun a b hab hp => ?_) ha]
    · simp
    · simp only [decide_eq_true_eq] at hp ⊢
      exact hp.trans hab
  · intro i a ha
    have hiff := h.lt_findIdx_iff (p := fun sample => endNs < sample.observedAtNs)
      (fun a b hab hp => by
        simp only [decide_eq_true_eq] at hp ⊢
        exact hp.trans_le hab) ha
    rw [decide_eq_false_iff_not, not_lt] at hiff
    omega
  · omega

/-! ## The sweep for the lower bound -/

/-- The samples before a position were observed before a time. -/
def Behind (samples : List ClockSample) (position : ℕ) (t : ℤ) : Prop :=
  ∀ i < position, ∀ a, samples[i]? = some a → a.observedAtNs < t

/-- The minimum after the check of the window that ends at a time. -/
def lowered (samples : List ClockSample) (window : ClockMeasurementWindow) (windowNs endNs : ℤ)
    (minimum : ℚ) : ℚ :=
  if endNs - windowNs < window.startNs then minimum
  else min minimum (innerProgress samples (endNs - windowNs) endNs / windowNs)

/-- A check takes the window into account that ends at a time, when `right` is the last sample until
then. -/
theorem lowerCheck_eq (h : InOrder samples) (window : ClockMeasurementWindow)
    (windowNs endNs right : ℤ) (state : ℕ × ℚ) (hc : samples[index]? = some current)
    (hend : endNs - windowNs ≤ current.observedAtNs) (hle : state.1 ≤ index)
    (hbehind : Behind samples state.1 (endNs - windowNs))
    (hright : ∀ (i : ℕ) a, samples[i]? = some a → ((i : ℤ) ≤ right ↔ a.observedAtNs ≤ endNs))
    (hlength : right < samples.length) :
    ∃ left, lowerCheck samples window windowNs state endNs right =
        some (left, lowered samples window windowNs endNs state.2) ∧
      left ≤ index ∧ Behind samples left (endNs - windowNs) := by
  unfold lowerCheck lowered
  dsimp only
  split
  · exact ⟨state.1, rfl, hle, hbehind⟩
  · have hstop : decide (current.observedAtNs < endNs - windowNs) = false :=
      decide_eq_false (not_lt.2 hend)
    obtain ⟨left, first, hadvance, hfirst, hge, hle', hpassed⟩ := advance_eq_some
      (fun sample : ClockSample => decide (sample.observedAtNs < endNs - windowNs)) hc hstop hle
    have hbehind' : Behind samples left (endNs - windowNs) := by
      intro i hi a ha
      rcases lt_or_ge i state.1 with hlt | hge
      · exact hbehind i hlt a ha
      · exact of_decide_eq_true (hpassed i hge hi a ha)
    have hleft : ∀ (i : ℕ) a, samples[i]? = some a →
        (i < left ↔ a.observedAtNs < endNs - windowNs) := by
      intro i a ha
      refine ⟨fun hi => hbehind' i hi a ha, fun hlt => ?_⟩
      by_contra hi
      have := h.observed_le hfirst ha (not_lt.1 hi)
      exact absurd (this.trans_lt hlt) (of_decide_eq_false hge)
    refine ⟨left, ?_, hle', hbehind'⟩
    rw [hadvance]
    simp only [Option.bind_eq_bind, Option.bind_some, recordedProgress_eq h _ _ hleft hright hlength]
    rfl

/-- What the sweep has established before a position: its minimum is a factor of a window, and is
at most that of every window that it has checked. -/
structure LowerExact (samples : List ClockSample) (window : ClockMeasurementWindow)
    (windowNs : ℤ) (initial : ℚ) (index : ℕ) (state : ℕ × ℚ) : Prop where
  left_le : state.1 ≤ index
  behind : ∀ c, samples[index]? = some c → Behind samples state.1 (c.observedAtNs - 1 - windowNs)
  attained : state.2 ∈ innerFactors samples window windowNs
  le_initial : state.2 ≤ initial
  checked : ∀ i < index, ∀ c, samples[i]? = some c →
    window.startNs ≤ c.observedAtNs - 1 - windowNs →
    state.2 ≤ innerProgress samples (c.observedAtNs - 1 - windowNs) (c.observedAtNs - 1) / windowNs

/-- The minimum after a check is a factor of a window. -/
theorem lowered_mem (h : minimum ∈ innerFactors samples window windowNs)
    (hend : endNs ≤ window.endNs) :
    lowered samples window windowNs endNs minimum ∈ innerFactors samples window windowNs := by
  unfold lowered
  split
  · exact h
  · next hstart =>
    rcases min_choice minimum (innerProgress samples (endNs - windowNs) endNs / windowNs : ℚ) with
      he | he <;> rw [he]
    · exact h
    · exact .inr ⟨endNs - windowNs, not_lt.1 hstart, by omega, by rw [sub_add_cancel]⟩

theorem lowered_le (samples : List ClockSample) (window : ClockMeasurementWindow)
    (windowNs endNs : ℤ) (minimum : ℚ) : lowered samples window windowNs endNs minimum ≤ minimum := by
  unfold lowered
  split
  · exact le_rfl
  · exact min_le_left _ _

theorem lowered_le_factor (hstart : window.startNs ≤ endNs - windowNs) (minimum : ℚ) :
    lowered samples window windowNs endNs minimum ≤
      innerProgress samples (endNs - windowNs) endNs / windowNs := by
  unfold lowered
  rw [if_neg (not_lt.2 hstart)]
  exact min_le_right _ _

theorem lowerStep_exact (h : InOrder samples) (hin : Within samples window) (hw : 0 < windowNs)
    (hc : samples[index]? = some current)
    (hswept : LowerExact samples window windowNs initial index state) :
    ∃ state', lowerStep samples window windowNs state (current, index) = some state' ∧
      LowerExact samples window windowNs initial (index + 1) state' := by
  have hlt : index < samples.length := (List.getElem?_eq_some_iff.1 hc).1
  have hinside := hin current (List.mem_of_getElem? hc)
  have hat : ∀ (i : ℕ) a, samples[i]? = some a →
      ((i : ℤ) ≤ index ↔ a.observedAtNs ≤ current.observedAtNs) := by
    intro i a ha
    exact ⟨fun hi => h.observed_le ha hc (by omega), fun hi => by have := h.index_le ha hc hi; omega⟩
  have hbefore : ∀ (i : ℕ) a, samples[i]? = some a →
      ((i : ℤ) ≤ index - 1 ↔ a.observedAtNs ≤ current.observedAtNs - 1) := by
    intro i a ha
    constructor
    · intro hi
      have := h.observed_lt ha hc (by omega)
      omega
    · intro hi
      by_contra hge
      have := h.observed_le hc ha (by omega)
      omega
  obtain ⟨left, hcheck, hleft, hbehind⟩ := lowerCheck_eq h window windowNs
    (current.observedAtNs - 1) (index - 1) state hc (by omega) hswept.left_le (hswept.behind current hc) hbefore (by omega)
  obtain ⟨left', hcheck', hleft', hbehind'⟩ := lowerCheck_eq h window windowNs
    current.observedAtNs index (left, lowered samples window windowNs (current.observedAtNs - 1)
      state.2) hc (by omega) hleft (fun i hi a ha => (hbehind i hi a ha).trans_le (by omega)) hat (by omega)
  have hmono := lowered_le samples window windowNs current.observedAtNs
    (lowered samples window windowNs (current.observedAtNs - 1) state.2)
  have hmono' := lowered_le samples window windowNs (current.observedAtNs - 1) state.2
  refine ⟨(left', lowered samples window windowNs current.observedAtNs
    (lowered samples window windowNs (current.observedAtNs - 1) state.2)), ?_,
    hleft'.trans (Nat.le_succ index), ?_, ?_, hmono.trans (hmono'.trans hswept.le_initial), ?_⟩
  · rw [lowerStep, hcheck]
    exact hcheck'
  · intro c hci i hi a ha
    have hnext := h.observed_lt hc hci (Nat.lt_succ_self index)
    exact (hbehind' i hi a ha).trans_le (by omega)
  · exact lowered_mem (lowered_mem hswept.attained (by omega)) hinside.2
  · intro i hi c hci hstart
    rcases Nat.lt_succ_iff_lt_or_eq.1 hi with hi | rfl
    · exact hmono.trans (hmono'.trans (hswept.checked i hi c hci hstart))
    · obtain rfl := Option.some.inj (hc.symm.trans hci)
      exact hmono.trans (lowered_le_factor hstart _)

/-- The sweep ends with the minimum over the windows that it checks. -/
theorem lowerSweep_exact (h : InOrder samples) (hin : Within samples window) (hw : 0 < windowNs)
    (hinitial : initial ∈ innerFactors samples window windowNs) :
    ∃ state, samples.zipIdx.foldlM (lowerStep samples window windowNs) (0, initial) = some state ∧
      LowerExact samples window windowNs initial samples.length state :=
  foldlM_zipIdx_rule _ (LowerExact samples window windowNs initial)
    ⟨le_rfl, fun _ _ i hi => absurd hi (Nat.not_lt_zero i), hinitial, le_rfl,
      fun i hi => absurd hi (Nat.not_lt_zero i)⟩
    fun _ _ _ hc hswept => lowerStep_exact h hin hw hc hswept

/-- A window has no less inner progress than the checked one just before the next sample, or than
the one at the end of the measurement. -/
theorem exists_checked (h : InOrder samples) (ht : window.startNs ≤ t) (ht' : t + windowNs ≤ window.endNs) :
    (∃ (i : ℕ) (c : ClockSample), samples[i]? = some c ∧ window.startNs ≤ c.observedAtNs - 1 - windowNs ∧
      innerProgress samples (c.observedAtNs - 1 - windowNs) (c.observedAtNs - 1) ≤
        innerProgress samples t (t + windowNs)) ∨
    innerProgress samples (window.endNs - windowNs) window.endNs ≤
      innerProgress samples t (t + windowNs) := by
  rcases lt_or_ge (samples.findIdx fun sample => t + windowNs < sample.observedAtNs)
    samples.length with hlt | hge
  · have hget := List.getElem?_eq_getElem hlt
    have hnext := of_decide_eq_true (@List.findIdx_getElem ClockSample
      (fun sample => t + windowNs < sample.observedAtNs) _ hlt)
    refine .inl ⟨_, _, hget, by omega, innerProgress_mono h fun a ha => ?_⟩
    obtain ⟨hm, hstart, hend⟩ := mem_samplesInside.1 ha
    obtain ⟨j, hj⟩ := List.mem_iff_getElem?.1 hm
    refine mem_samplesInside.2 ⟨hm, by omega, observed_le_of_lt_findIdx ?_ hj⟩
    by_contra hle
    have := h.observed_le hget hj (not_lt.1 hle)
    omega
  · refine .inr (innerProgress_mono h fun a ha => ?_)
    obtain ⟨hm, hstart, -⟩ := mem_samplesInside.1 ha
    obtain ⟨j, hj⟩ := List.mem_iff_getElem?.1 hm
    have hlt := (List.getElem?_eq_some_iff.1 hj).1
    exact mem_samplesInside.2 ⟨hm, by omega, observed_le_of_lt_findIdx (hlt.trans_le hge) hj⟩

/-- The lower bound is the minimum over all windows. -/
theorem measurementRealtimeFactor_eq (h : InOrder samples) (hin : Within samples window)
    (hw : 0 < windowNs) : ∃ minimum, IsLeast (innerFactors samples window windowNs) minimum ∧
      measurementRealtimeFactor samples window windowNs = some (max 0 minimum) := by
  have hpos : (0 : ℚ) < windowNs := Int.cast_pos.2 hw
  have hwhole := intervalRealtimeFactor_eq h window.startNs window.endNs
  by_cases hshort : window.endNs - window.startNs < windowNs
  · refine ⟨_, ⟨.inl rfl, ?_⟩, ?_⟩
    · rintro factor (rfl | ⟨t, ht, ht', -⟩)
      · exact le_rfl
      · omega
    · simp [measurementRealtimeFactor, hwhole, hshort]
  · have hfirst := intervalRealtimeFactor_eq h window.startNs (window.startNs + windowNs)
    have hlast := intervalRealtimeFactor_eq h (window.endNs - windowNs) window.endNs
    rw [add_sub_cancel_left] at hfirst
    rw [sub_sub_cancel] at hlast
    have hmin : ∀ {a b : ℚ}, a ∈ innerFactors samples window windowNs →
        b ∈ innerFactors samples window windowNs →
        min a b ∈ innerFactors samples window windowNs := by
      intro a b ha hb
      rcases min_choice a b with he | he <;> rw [he] <;> assumption
    have hmemWhole : (innerProgress samples window.startNs window.endNs : ℚ) /
        (window.endNs - window.startNs : ℤ) ∈ innerFactors samples window windowNs := .inl rfl
    have hmemFirst : (innerProgress samples window.startNs (window.startNs + windowNs) : ℚ) /
        windowNs ∈ innerFactors samples window windowNs := .inr ⟨_, le_rfl, by omega, rfl⟩
    have hmemLast : (innerProgress samples (window.endNs - windowNs) window.endNs : ℚ) /
        windowNs ∈ innerFactors samples window windowNs :=
      .inr ⟨window.endNs - windowNs, by omega, by omega, by rw [sub_add_cancel]⟩
    obtain ⟨state, hstate, hswept⟩ := lowerSweep_exact h hin hw
      (hmin hmemWhole (hmin hmemFirst hmemLast))
    refine ⟨state.2, ⟨hswept.attained, ?_⟩, ?_⟩
    · rintro factor (rfl | ⟨t, ht, ht', rfl⟩)
      · exact hswept.le_initial.trans (min_le_left _ _)
      · rcases exists_checked h ht ht' with ⟨i, c, hc, hstart, hle⟩ | hle
        · have hchecked := hswept.checked i (List.getElem?_eq_some_iff.1 hc).1 c hc hstart
          exact hchecked.trans (div_le_div_of_nonneg_right (Int.cast_le.2 hle) hpos.le)
        · have hinitial := hswept.le_initial.trans ((min_le_right _ _).trans (min_le_right _ _))
          exact hinitial.trans (div_le_div_of_nonneg_right (Int.cast_le.2 hle) hpos.le)
    · rw [measurementRealtimeFactor, hwhole]
      simp only [Option.bind_eq_bind, Option.bind_some, if_neg hshort, hfirst, hlast]
      rw [hstate]
      rfl

/-! ## Enclosing progress -/

/-- A sample is the last one until a time. -/
def LastUntil (samples : List ClockSample) (t : ℤ) (a : ClockSample) : Prop :=
  a ∈ samples ∧ a.observedAtNs ≤ t ∧
    ∀ b ∈ samples, b.observedAtNs ≤ t → b.observedAtNs ≤ a.observedAtNs

/-- A sample is the first one from a time on. -/
def FirstFrom (samples : List ClockSample) (t : ℤ) (a : ClockSample) : Prop :=
  a ∈ samples ∧ t ≤ a.observedAtNs ∧
    ∀ b ∈ samples, t ≤ b.observedAtNs → a.observedAtNs ≤ b.observedAtNs

theorem getLast?_eq_some (h : InOrder samples) :
    (samples.filter fun sample => sample.observedAtNs ≤ t).getLast? = some a ↔
      LastUntil samples t a := by
  constructor
  · intro hlast
    obtain ⟨hm, ht⟩ := List.mem_filter.1 (List.mem_of_getLast? hlast)
    exact ⟨hm, of_decide_eq_true ht, fun b hb hle =>
      h.le_filter_getLast hlast hb (decide_eq_true hle)⟩
  · rintro ⟨hm, ht, hmax⟩
    have hmem : a ∈ samples.filter fun sample => sample.observedAtNs ≤ t :=
      List.mem_filter.2 ⟨hm, decide_eq_true ht⟩
    obtain ⟨last, hlast⟩ := Option.isSome_iff_exists.1
      (List.getLast?_isSome.2 (List.ne_nil_of_mem hmem))
    obtain ⟨hlm, hlt⟩ := List.mem_filter.1 (List.mem_of_getLast? hlast)
    rw [hlast, h.eq_of_observed hlm hm (le_antisymm (hmax last hlm (of_decide_eq_true hlt))
      (h.le_filter_getLast hlast hm (decide_eq_true ht)))]

theorem head?_eq_some (h : InOrder samples) :
    (samples.filter fun sample => t ≤ sample.observedAtNs).head? = some a ↔
      FirstFrom samples t a := by
  constructor
  · intro hfirst
    obtain ⟨hm, ht⟩ := List.mem_filter.1 (List.mem_of_head? hfirst)
    exact ⟨hm, of_decide_eq_true ht, fun b hb hle =>
      h.filter_head_le hfirst hb (decide_eq_true hle)⟩
  · rintro ⟨hm, ht, hmin⟩
    have hmem : a ∈ samples.filter fun sample => t ≤ sample.observedAtNs :=
      List.mem_filter.2 ⟨hm, decide_eq_true ht⟩
    obtain ⟨first, hfirst⟩ := Option.isSome_iff_exists.1
      (List.isSome_head?.2 (List.ne_nil_of_mem hmem))
    obtain ⟨hfm, hft⟩ := List.mem_filter.1 (List.mem_of_head? hfirst)
    rw [hfirst, h.eq_of_observed hfm hm (le_antisymm
      (h.filter_head_le hfirst hm (decide_eq_true ht)) (hmin first hfm (of_decide_eq_true hft)))]

theorem enclosingProgress_eq_some (h : InOrder samples) :
    enclosingProgress samples startNs endNs = some progress ↔
      ∃ before after, LastUntil samples startNs before ∧ FirstFrom samples endNs after ∧
        progress = after.sourceTimeNs - before.sourceTimeNs := by
  simp only [enclosingProgress, Option.bind_eq_bind, Option.bind_eq_some_iff, getLast?_eq_some h,
    head?_eq_some h, Option.pure_def, Option.some.injEq]
  exact ⟨fun ⟨before, hb, after, ha, he⟩ => ⟨before, after, hb, ha, he.symm⟩,
    fun ⟨before, after, hb, ha, he⟩ => ⟨before, hb, after, ha, he.symm⟩⟩

theorem firstFrom_self (hc : c ∈ samples) :
    FirstFrom samples c.observedAtNs c := ⟨hc, le_rfl, fun _ _ hle => hle⟩

/-- Some sample is the last one until a time, when there is one until then. -/
theorem exists_lastUntil (h : InOrder samples) (hm : a ∈ samples) (hle : a.observedAtNs ≤ t) :
    ∃ b, LastUntil samples t b := by
  have hmem : a ∈ samples.filter fun sample => sample.observedAtNs ≤ t :=
    List.mem_filter.2 ⟨hm, decide_eq_true hle⟩
  obtain ⟨last, hlast⟩ := Option.isSome_iff_exists.1
    (List.getLast?_isSome.2 (List.ne_nil_of_mem hmem))
  exact ⟨last, (getLast?_eq_some h).1 hlast⟩

/-- A window that samples enclose has no less enclosing progress than the one that ends at the first
sample from its end on. -/
theorem exists_recordedEnd (h : InOrder samples)
    (henclosing : enclosingProgress samples t (t + windowNs) = some progress) :
    ∃ c ∈ samples, t ≤ c.observedAtNs - windowNs ∧ ∃ progress' ≤ progress,
      enclosingProgress samples (c.observedAtNs - windowNs) c.observedAtNs = some progress' := by
  obtain ⟨before, after, hbefore, hafter, rfl⟩ := (enclosingProgress_eq_some h).1 henclosing
  have hstart : t ≤ after.observedAtNs - windowNs := by have := hafter.2.1; omega
  obtain ⟨before', hbefore'⟩ := exists_lastUntil h hbefore.1 (hbefore.2.1.trans hstart)
  refine ⟨after, hafter.1, hstart, after.sourceTimeNs - before'.sourceTimeNs, ?_,
    (enclosingProgress_eq_some h).2 ⟨before', after, hbefore', firstFrom_self hafter.1, rfl⟩⟩
  have := h.source_le hbefore.1 hbefore'.1
    (hbefore'.2.2 before hbefore.1 (hbefore.2.1.trans hstart))
  omega

/-! ## The sweep for the upper bound -/

/-- What the sweep has established before a position: its bound is a factor of an enclosed window,
and is at most that of every window that ends at a sample before the position. -/
structure UpperExact (samples : List ClockSample) (window : ClockMeasurementWindow)
    (windowNs : ℤ) (initial : WithTop ℚ) (index : ℕ) (state : ℕ × WithTop ℚ) : Prop where
  left_lt : state.1 = 0 ∨ state.1 < index
  reached : state.1 = 0 ∨ ∀ a, samples[state.1]? = some a → ∀ c, samples[index]? = some c →
    a.observedAtNs ≤ c.observedAtNs - windowNs
  attained : state.2 = ⊤ ∨ state.2 ∈ enclosingFactors samples window windowNs
  le_initial : state.2 ≤ initial
  checked : ∀ i < index, ∀ c, samples[i]? = some c → window.startNs ≤ c.observedAtNs - windowNs →
    ∀ progress, enclosingProgress samples (c.observedAtNs - windowNs) c.observedAtNs =
      some progress → state.2 ≤ (progress / windowNs : ℚ)

/-- The position where the search ends is the last sample until the start, if there is one. -/
theorem lookAhead_lastUntil (h : InOrder samples) (hw : 0 < windowNs)
    (hc : samples[index]? = some current) (hleft : left = 0 ∨ left < index)
    (hreached : left = 0 ∨ ∀ a, samples[left]? = some a →
      a.observedAtNs ≤ current.observedAtNs - windowNs) :
    ∃ found, lookAhead (fun sample => sample.observedAtNs ≤ current.observedAtNs - windowNs)
        samples index left = found ∧ (found = 0 ∨ found < index) ∧
      ∃ a, samples[found]? = some a ∧
        (a.observedAtNs ≤ current.observedAtNs - windowNs →
          LastUntil samples (current.observedAtNs - windowNs) a) ∧
        (current.observedAtNs - windowNs < a.observedAtNs → found = 0 ∧
          ∀ b ∈ samples, current.observedAtNs - windowNs < b.observedAtNs) := by
  have hlt : index < samples.length := (List.getElem?_eq_some_iff.1 hc).1
  obtain ⟨found, hfound, hge, hend, hpassed, hstopped⟩ := lookAhead_spec
    (fun sample : ClockSample => decide (sample.observedAtNs ≤ current.observedAtNs - windowNs))
    samples index left
  have hget := List.getElem?_eq_getElem (l := samples) (show found < samples.length by omega)
  refine ⟨found, hfound, by omega, _, hget, fun hle => ?_, fun hgt => ?_⟩
  · refine ⟨List.mem_of_getElem? hget, hle, fun b hb hble => ?_⟩
    obtain ⟨j, hj⟩ := List.mem_iff_getElem?.1 hb
    by_contra hlater
    have hjfound : found < j := by
      by_contra hj'
      exact hlater (h.observed_le hj hget (not_lt.1 hj'))
    have hjindex : j < index := by
      by_contra hj'
      have := h.observed_le hc hj (not_lt.1 hj')
      omega
    have hnext := List.getElem?_eq_getElem (l := samples) (show found + 1 < samples.length by omega)
    have hfalse := of_decide_eq_false (hstopped _ (by omega) hnext)
    have := h.observed_le hnext hj hjfound
    omega
  · have hsame : found = left := by
      by_contra hne
      have := of_decide_eq_true (hpassed found _ (by omega) le_rfl hget)
      omega
    have hzero : left = 0 := by
      rcases hreached with hz | hr
      · exact hz
      · rw [← hsame] at hr
        have := hr _ hget
        omega
    refine ⟨hsame.trans hzero, fun b hb => ?_⟩
    obtain ⟨j, hj⟩ := List.mem_iff_getElem?.1 hb
    exact hgt.trans_le (h.observed_le hget hj (by omega))

theorem upperStep_exact (h : InOrder samples) (hin : Within samples window) (hw : 0 < windowNs)
    (hc : samples[index]? = some current)
    (hswept : UpperExact samples window windowNs initial index state) :
    ∃ state', upperStep samples window windowNs state (current, index) = some state' ∧
      UpperExact samples window windowNs initial (index + 1) state' := by
  have hnext : ∀ c, samples[index + 1]? = some c → current.observedAtNs ≤ c.observedAtNs :=
    fun c hc' => h.observed_le hc hc' (Nat.le_succ index)
  have hreached : ∀ a, samples[state.1]? = some a → state.1 = 0 ∨
      a.observedAtNs ≤ current.observedAtNs - windowNs := fun a ha =>
    hswept.reached.imp_right fun hr => hr a ha current hc
  have hkeep : state.1 = 0 ∨ state.1 < index + 1 := by have := hswept.left_lt; omega
  unfold upperStep
  dsimp only
  split
  · next hstart =>
    refine ⟨state, rfl, hkeep, ?_, hswept.attained, hswept.le_initial, ?_⟩
    · refine hswept.reached.imp_right fun hr a ha c hc' => ?_
      have := hr a ha current hc
      have := hnext c hc'
      omega
    · intro i hi c hci hstart' progress hprogress
      rcases Nat.lt_succ_iff_lt_or_eq.1 hi with hi | rfl
      · exact hswept.checked i hi c hci hstart' progress hprogress
      · obtain rfl := Option.some.inj (hc.symm.trans hci)
        omega
  · next hstart =>
    obtain ⟨found, hfound, hlt, a, ha, hlast, hnone⟩ := lookAhead_lastUntil h hw hc hswept.left_lt
      (hswept.reached.imp_right fun hr a ha => hr a ha current hc)
    rw [hfound, ha]
    simp only [Option.bind_eq_bind, Option.bind_some]
    have hkeep' : found = 0 ∨ found < index + 1 := by omega
    split
    · next hle =>
      have henclosing := (enclosingProgress_eq_some h).2
        ⟨a, current, hlast hle, firstFrom_self (List.mem_of_getElem? hc), rfl⟩
      refine ⟨_, rfl, hkeep', ?_, ?_, (min_le_left _ _).trans hswept.le_initial, ?_⟩
      · refine .inr fun b hb c hc' => ?_
        obtain rfl := Option.some.inj (ha.symm.trans hb)
        have := hnext c hc'
        omega
      · rcases min_choice state.2 (((current.sourceTimeNs - a.sourceTimeNs : ℤ) /
          windowNs : ℚ) : WithTop ℚ) with hmin | hmin
        · dsimp only
          rw [hmin]
          exact hswept.attained
        · refine .inr (.inr ⟨current.observedAtNs - windowNs, _, not_lt.1 hstart, ?_, ?_, hmin⟩)
          · have := (hin current (List.mem_of_getElem? hc)).2
            omega
          · rw [sub_add_cancel]
            exact henclosing
      · intro i hi c hci hstart' progress hprogress
        rcases Nat.lt_succ_iff_lt_or_eq.1 hi with hi | rfl
        · exact (min_le_left _ _).trans (hswept.checked i hi c hci hstart' progress hprogress)
        · obtain rfl := Option.some.inj (hc.symm.trans hci)
          obtain rfl := Option.some.inj (henclosing.symm.trans hprogress)
          exact min_le_right _ _
    · next hgt =>
      obtain ⟨hzero, hall⟩ := hnone (not_le.1 hgt)
      refine ⟨_, rfl, hkeep', .inl hzero, hswept.attained, hswept.le_initial, ?_⟩
      intro i hi c hci hstart' progress hprogress
      rcases Nat.lt_succ_iff_lt_or_eq.1 hi with hi | rfl
      · exact hswept.checked i hi c hci hstart' progress hprogress
      · obtain rfl := Option.some.inj (hc.symm.trans hci)
        obtain ⟨before, -, hbefore, -⟩ := (enclosingProgress_eq_some h).1 hprogress
        exact absurd hbefore.2.1 (not_le.2 (hall before hbefore.1))

/-- The factor of the whole measurement is known when both of its edges are recorded. -/
theorem wholeFactor_eq (h : InOrder samples) (hin : Within samples window)
    (hfirst : samples.head? = some first) (hlast : samples.getLast? = some last) :
    enclosingProgress samples window.startNs window.endNs =
      if first.observedAtNs = window.startNs ∧ last.observedAtNs = window.endNs then
        some (last.sourceTimeNs - first.sourceTimeNs) else none := by
  have hmf := List.mem_of_head? hfirst
  have hml := List.mem_of_getLast? hlast
  split
  · next hedges =>
    refine (enclosingProgress_eq_some h).2 ⟨first, last, ⟨hmf, hedges.1.le, fun b hb hle => ?_⟩,
      ⟨hml, hedges.2.ge, fun b hb hge => ?_⟩, rfl⟩
    · exact hle.trans hedges.1.ge
    · exact hedges.2.le.trans hge
  · next hedges =>
    cases henclosing : enclosingProgress samples window.startNs window.endNs with
    | none => rfl
    | some progress =>
      obtain ⟨before, after, hbefore, hafter, -⟩ := (enclosingProgress_eq_some h).1 henclosing
      refine absurd ⟨le_antisymm ?_ (hin first hmf).1, le_antisymm (hin last hml).2 ?_⟩ hedges
      · rcases eq_or_rel_head? h.increasing hfirst hbefore.1 with he | hlt
        · exact he ▸ hbefore.2.1
        · exact hlt.le.trans hbefore.2.1
      · rcases eq_or_rel_getLast? h.increasing hlast hafter.1 with he | hlt
        · exact he ▸ hafter.2.1
        · exact hafter.2.1.trans hlt.le

/-- The upper bound is the minimum over all enclosed windows. -/
theorem measurementRealtimeFactorUpper_eq (h : InOrder samples) (hne : samples ≠ [])
    (hin : Within samples window) (hw : 0 < windowNs) :
    ∃ minimum, IsLeast (insert ⊤ (enclosingFactors samples window windowNs)) minimum ∧
      measurementRealtimeFactorUpper samples window windowNs = some (max 0 minimum) := by
  have hpos : (0 : ℚ) < windowNs := Int.cast_pos.2 hw
  have hfirst := List.head?_eq_some_head hne
  have hlast := List.getLast?_eq_some_getLast hne
  generalize samples.head hne = first at hfirst
  generalize samples.getLast hne = last at hlast
  have hwhole := wholeFactor_eq h hin hfirst hlast
  have hsweep := fun (initial : WithTop ℚ) (hinitial : initial = ⊤ ∨
      initial ∈ enclosingFactors samples window windowNs) =>
    foldlM_zipIdx_rule (upperStep samples window windowNs)
      (UpperExact samples window windowNs initial)
      (show UpperExact samples window windowNs initial 0 (0, initial) from
        ⟨.inl rfl, .inl rfl, hinitial, le_rfl, fun i hi => absurd hi (Nat.not_lt_zero i)⟩)
      fun _ _ _ hc hswept => upperStep_exact h hin hw hc hswept
  obtain ⟨state, hstate, hswept⟩ := hsweep
    (if first.observedAtNs = window.startNs ∧ last.observedAtNs = window.endNs then
      ((last.sourceTimeNs - first.sourceTimeNs : ℤ) / (window.endNs - window.startNs) : ℚ) else ⊤) (by
    split
    · next hedges =>
      rw [if_pos hedges] at hwhole
      exact .inr (.inl ⟨_, hwhole, by rw [Int.cast_sub window.endNs]⟩)
    · exact .inl rfl)
  refine ⟨state.2, ⟨hswept.attained, ?_⟩, ?_⟩
  · rintro factor (rfl | ⟨progress, hprogress, rfl⟩ | ⟨t, progress, ht, ht', hprogress, rfl⟩)
    · exact le_top
    · refine hswept.le_initial.trans ?_
      rw [hwhole] at hprogress
      split at hprogress
      · next hedges =>
        obtain rfl := Option.some.inj hprogress
        rw [if_pos hedges, Int.cast_sub window.endNs]
      · cases hprogress
    · obtain ⟨c, hc, hstart, progress', hle, hprogress'⟩ := exists_recordedEnd h hprogress
      obtain ⟨i, hi⟩ := List.mem_iff_getElem?.1 hc
      have hchecked := hswept.checked i (List.getElem?_eq_some_iff.1 hi).1 c hi (ht.trans hstart)
        progress' hprogress'
      exact hchecked.trans (WithTop.coe_le_coe.2
        (div_le_div_of_nonneg_right (Int.cast_le.2 hle) hpos.le))
  · rw [measurementRealtimeFactorUpper, hfirst, hlast]
    simp only [Option.bind_eq_bind, Option.bind_some]
    rw [hstate]
    rfl

/-! ## Main result -/

/-- The least inner factor is at most every enclosing one. -/
theorem innerFactor_le_enclosing (h : InOrder samples) (hw : 0 < windowNs)
    (hleast : IsLeast (innerFactors samples window windowNs) least)
    (hfactor : factor ∈ enclosingFactors samples window windowNs) :
    (least : WithTop ℚ) ≤ factor := by
  have hpos : (0 : ℚ) < windowNs := Int.cast_pos.2 hw
  have hlen : (0 : ℚ) < (window.endNs - window.startNs : ℤ) :=
    Int.cast_pos.2 (sub_pos.2 window.start_lt_end)
  rcases hfactor with ⟨progress, hprogress, rfl⟩ | ⟨t, progress, ht, ht', hprogress, rfl⟩
  · have hinner := innerProgress_le_enclosing h window.start_lt_end.le hprogress
    exact WithTop.coe_le_coe.2 ((hleast.2 (.inl rfl)).trans
      (div_le_div_of_nonneg_right (Int.cast_le.2 hinner) hlen.le))
  · have hinner := innerProgress_le_enclosing h (by omega) hprogress
    exact WithTop.coe_le_coe.2 ((hleast.2 (.inr ⟨t, ht, ht', rfl⟩)).trans
      (div_le_div_of_nonneg_right (Int.cast_le.2 hinner) hpos.le))

/-- The two sweeps end without an index out of range, with the minima over all windows of the inner
and of the enclosing progress, of which the first is at most the second. -/
theorem sweeps_eq_minima (hlength : 2 ≤ samples.length)
    (hincreasing : samples.Pairwise fun a b => a.observedAtNs < b.observedAtNs)
    (hnondecreasing : samples.Pairwise fun a b => a.sourceTimeNs ≤ b.sourceTimeNs)
    (hin : ∀ sample ∈ samples,
      window.startNs ≤ sample.observedAtNs ∧ sample.observedAtNs ≤ window.endNs)
    (hw : 0 < windowNs) :
    ∃ (lower : ℚ) (upper : WithTop ℚ),
      measurementRealtimeFactor samples window windowNs = some lower ∧
      measurementRealtimeFactorUpper samples window windowNs = some upper ∧
      (∃ minimum, IsLeast (innerFactors samples window windowNs) minimum ∧
        lower = max 0 minimum) ∧
      (∃ minimum, IsLeast (insert ⊤ (enclosingFactors samples window windowNs)) minimum ∧
        upper = max 0 minimum) ∧
      lower ≤ upper := by
  have h : InOrder samples := ⟨hincreasing, hnondecreasing⟩
  have hne : samples ≠ [] := List.ne_nil_of_length_pos (by omega)
  obtain ⟨inner, hinner, hlower⟩ := measurementRealtimeFactor_eq h hin hw
  obtain ⟨enclosing, henclosing, hupper⟩ := measurementRealtimeFactorUpper_eq h hne hin hw
  refine ⟨_, _, hlower, hupper, ⟨inner, hinner, rfl⟩, ⟨enclosing, henclosing, rfl⟩, ?_⟩
  have hle : (inner : WithTop ℚ) ≤ enclosing := by
    rcases henclosing.1 with rfl | hfactor
    · exact le_top
    · exact innerFactor_le_enclosing h hw hinner hfactor
  rw [WithTop.coe_max]
  exact max_le_max le_rfl hle

/-- Three callbacks, between the first two of which the source stands still. -/
def pausedClockSamples : List ClockSample :=
  [⟨10, 0, none, none⟩, ⟨20, 0, none, none⟩, ⟨30, 15, none, none⟩]

def pausedMeasurement : ClockMeasurementWindow :=
  ⟨10, 30, 10, none, by decide, by decide, by decide⟩

theorem sweeps_eq_minima_pausedClockSamples : ∃ (lower : ℚ) (upper : WithTop ℚ),
    measurementRealtimeFactor pausedClockSamples pausedMeasurement 10 = some lower ∧
    measurementRealtimeFactorUpper pausedClockSamples pausedMeasurement 10 = some upper ∧
    (∃ minimum, IsLeast (innerFactors pausedClockSamples pausedMeasurement 10) minimum ∧
      lower = max 0 minimum) ∧
    (∃ minimum, IsLeast (insert ⊤ (enclosingFactors pausedClockSamples pausedMeasurement 10))
      minimum ∧ upper = max 0 minimum) ∧
    lower ≤ upper :=
  sweeps_eq_minima (by decide) (by decide) (by decide) (by decide) (by decide)

end RoboticsRuntime.Harness
