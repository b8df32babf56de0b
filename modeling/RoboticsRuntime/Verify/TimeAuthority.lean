import RoboticsRuntime.Harness.TimeAuthority
import RoboticsRuntime.Verify.HistogramEstimates

/-!
# The time-authority verdict and its document

The harness judges intervals, and the published document holds one end of each. The verdict that
is recomputed from the document is the harness's one unless the histogram is contradictory after
its count is known, or its largest latency has no upper bound while every published end is within
its threshold, or the harness rounds a threshold up to a float that the histogram lies within.
-/

namespace RoboticsRuntime.Harness
open Theory Contracts

/-! ## Histograms of latencies -/

/-- What a histogram of latencies is checked for. -/
structure Plausible (histogram : HistogramSample) : Prop where
  extrema : validateExtrema histogram = .ok ()
  nonneg : hasNegativeEvent histogram = false
  max_nonneg : ∀ greatest ∈ histogram.max, 0 ≤ greatest

/-- The end of the open bucket that is published. -/
def overflowBound (histogram : HistogramSample) : ℚ :=
  max (histogram.min.getD 0) (max 0 (histogram.explicitBounds.getLastD 0))

/-- The number of events in the buckets that end at most at the threshold. -/
def eventsWithin (histogram : HistogramSample) (threshold : ℚ) : ℤ :=
  (histogram.bucketCounts.take (histogram.explicitBounds.findIdx (threshold < ·))).sum

/-- The bucket of a rank, or the start of the open bucket, is within the threshold. -/
def RankWithin (histogram : HistogramSample) (rank : ℤ) (threshold : ℚ) : Prop :=
  overflowBound histogram ≤ threshold ∨ rank ≤ eventsWithin histogram threshold

/-- A histogram with events in the open bucket, without a maximum, whose published ends are within
the thresholds. -/
structure Unbounded (policy : TimeAuthorityPolicy) (histogram : HistogramSample) : Prop where
  max_none : histogram.max = none
  overflow : histogram.bucketCounts.getD histogram.explicitBounds.length 0 ≠ 0
  p50 : RankWithin histogram (quantileRank histogram.count (quantile .p50))
    policy.maxTimeAuthorityDeliveryLatencyP50Ms
  p95 : RankWithin histogram (quantileRank histogram.count (quantile .p95))
    policy.maxTimeAuthorityDeliveryLatencyP95Ms
  maximum : overflowBound histogram ≤ policy.maxTimeAuthorityDeliveryLatencyMs

/-- The recorded maximum, or the bucket of a rank, ends within the threshold. -/
def UpperWithin (histogram : HistogramSample) (rank : ℤ) (threshold : ℚ) : Prop :=
  (∃ greatest ∈ histogram.max, greatest ≤ threshold) ∨ rank ≤ eventsWithin histogram threshold

/-- The latencies end within thresholds for their median, for their 95th percentile and for all of
them. -/
structure LatenciesWithin (histogram : HistogramSample) (p50Ms p95Ms maxMs : ℚ) : Prop where
  p50 : UpperWithin histogram (quantileRank histogram.count (quantile .p50)) p50Ms
  p95 : UpperWithin histogram (quantileRank histogram.count (quantile .p95)) p95Ms
  recorded : ∀ greatest ∈ histogram.max, greatest ≤ maxMs
  counted : histogram.max = none → histogram.count ≤ eventsWithin histogram maxMs

/-- The latencies end within the thresholds of the policy exactly when they end within the floats
nearest to them. -/
def RoundingAgrees (policy : TimeAuthorityPolicy) (histogram : HistogramSample) : Prop :=
  LatenciesWithin histogram policy.maxTimeAuthorityDeliveryLatencyP50Ms
      policy.maxTimeAuthorityDeliveryLatencyP95Ms policy.maxTimeAuthorityDeliveryLatencyMs ↔
    LatenciesWithin histogram (double policy.maxTimeAuthorityDeliveryLatencyP50Ms)
      (double policy.maxTimeAuthorityDeliveryLatencyP95Ms)
      (double policy.maxTimeAuthorityDeliveryLatencyMs)

/-! ## The bucket of a rank -/

section
variable {histogram : HistogramSample}

theorem take_sum_mono (histogram : HistogramSample) {i j : ℕ} (hij : i ≤ j) :
    (histogram.bucketCounts.take i).sum ≤ (histogram.bucketCounts.take j).sum := by
  have hsublist := (List.take_sublist i (histogram.bucketCounts.take j))
  rw [List.take_take, min_eq_left hij] at hsublist
  apply hsublist.sum_le_sum
  intro c hc
  exact histogram.bucketCounts_nonneg c (List.mem_of_mem_take hc)

/-- The bucket that a ranked estimate is made of. -/
theorem rankedEstimate_bucket (nonnegative : Bool) (h1 : 1 ≤ rank) (h2 : rank ≤ histogram.count) :
    ∃ k c, histogram.bucketCounts[k]? = some c ∧ 0 < c ∧
      (histogram.bucketCounts.take k).sum < rank ∧
      rank ≤ (histogram.bucketCounts.take (k + 1)).sum ∧
      rankedEstimate histogram rank nonnegative = bucketEstimate histogram k nonnegative := by
  obtain ⟨k, hk, hok, hlo, hhi⟩ := rankBucket_spec (c := 0) (i := 0) histogram.bucketCounts
    (show (0 : ℤ) < rank by omega) (by rw [histogram.bucketCounts_sum]; omega)
  rw [zero_add] at hok hlo hhi
  refine ⟨k, histogram.bucketCounts[k], List.getElem?_eq_getElem hk, ?_, hlo, hhi, ?_⟩
  · rw [List.sum_take_succ _ _ hk] at hhi
    omega
  · rw [rankedEstimate, hok]
    rfl

theorem bucket_le_length (hk : histogram.bucketCounts[k]? = some c) :
    k ≤ histogram.explicitBounds.length := by
  have := (List.getElem?_eq_some_iff.1 hk).1
  rw [histogram.bucketCounts_length] at this
  omega

/-! ## The ends of a bucket -/

/-- The lower end of the estimate of a bucket of latencies. -/
def latencyLower (histogram : HistogramSample) (k : ℕ) : ExtendedFloat :=
  match histogram.min with
  | some least => max (least : ExtendedFloat) (max 0 (bucketLower histogram.explicitBounds k))
  | none => max 0 (bucketLower histogram.explicitBounds k)

/-- The upper end of the estimate of a bucket of latencies. -/
def latencyUpper (histogram : HistogramSample) (k : ℕ) : ExtendedFloat :=
  match histogram.max with
  | some greatest => min (greatest : ExtendedFloat) (bucketUpper histogram.explicitBounds k)
  | none => bucketUpper histogram.explicitBounds k

theorem bucketEstimate_eq : bucketEstimate histogram k true =
    Estimate.make (latencyLower histogram k) (latencyUpper histogram k)
      (k ≠ 0 && latencyLower histogram k = bucketLower histogram.explicitBounds k) := by
  simp only [bucketEstimate, latencyLower, latencyUpper, if_true]
  rfl

theorem latencyLower_le_iff {a : ExtendedFloat} : latencyLower histogram k ≤ a ↔
    (∀ least ∈ histogram.min, (least : ExtendedFloat) ≤ a) ∧ 0 ≤ a ∧
      bucketLower histogram.explicitBounds k ≤ a := by
  unfold latencyLower
  cases histogram.min <;> simp

theorem le_latencyUpper_iff {a : ExtendedFloat} : a ≤ latencyUpper histogram k ↔
    (∀ greatest ∈ histogram.max, a ≤ (greatest : ExtendedFloat)) ∧
      a ≤ bucketUpper histogram.explicitBounds k := by
  unfold latencyUpper
  cases histogram.max <;> simp

theorem lt_latencyUpper_iff {a : ExtendedFloat} : a < latencyUpper histogram k ↔
    (∀ greatest ∈ histogram.max, a < (greatest : ExtendedFloat)) ∧
      a < bucketUpper histogram.explicitBounds k := by
  unfold latencyUpper
  cases histogram.max <;> simp

/-! ## Plausible histograms have estimates -/

namespace Plausible

/-- The minimum lies below the end of every bucket with events. -/
theorem min_le_upper (h : Plausible histogram) (hk : histogram.bucketCounts[k]? = some c)
    (hc : 0 < c) (hm : least ∈ histogram.min) :
    (least : ExtendedFloat) ≤ bucketUpper histogram.explicitBounds k := by
  have hextrema := h.extrema
  simp only [validateExtrema, seq_eq_ok, require_eq_ok] at hextrema
  have hfirst := hextrema.1 least hm
  have hocc := mem_occupied.2 ⟨c, hk, hc.ne'⟩
  have hle : bisectLeft histogram.explicitBounds least ≤ k := by
    rcases eq_or_rel_head? (occupied_increasing histogram.bucketCounts) hfirst.symm hocc with he | hlt
    · exact he.ge
    · exact hlt.le
  unfold bucketUpper
  cases hb : histogram.explicitBounds[k]? with
  | none => exact WithBot.coe_le_coe.2 le_top
  | some b =>
    apply WithBotTop.coe_le_coe.2
    obtain ⟨hlt, rfl⟩ := List.getElem?_eq_some_iff.1 hb
    have hin := (inBucket_bisectLeft histogram.explicitBounds least).2 _
      (List.getElem?_eq_getElem (hle.trans_lt hlt))
    rcases eq_or_lt_of_le hle with he | hlt'
    · simpa only [he] using hin
    · exact hin.trans (List.pairwise_iff_getElem.1 histogram.explicitBounds_increasing _ _ _ hlt hlt').le

/-- The maximum lies above the start of every bucket with events. -/
theorem lower_lt_max (h : Plausible histogram) (hk : histogram.bucketCounts[k]? = some c)
    (hc : 0 < c) (hm : greatest ∈ histogram.max) :
    bucketLower histogram.explicitBounds k < (greatest : ExtendedFloat) := by
  have hextrema := h.extrema
  simp only [validateExtrema, seq_eq_ok, require_eq_ok] at hextrema
  have hlast := hextrema.2 greatest hm
  have hocc := mem_occupied.2 ⟨c, hk, hc.ne'⟩
  have hle : k ≤ bisectLeft histogram.explicitBounds greatest := by
    rcases eq_or_rel_getLast? (occupied_increasing histogram.bucketCounts) hlast.symm hocc with
      he | hlt
    · exact he.le
    · exact hlt.le
  cases k with
  | zero => exact WithBot.bot_lt_coe _
  | succ k =>
    rw [bucketLower]
    cases hb : histogram.explicitBounds[k]? with
    | none => exact WithBot.bot_lt_coe _
    | some b =>
      obtain ⟨hlt, rfl⟩ := List.getElem?_eq_some_iff.1 hb
      apply WithBotTop.coe_lt_coe.2
      simpa using List.not_of_lt_findIdx (Nat.lt_of_succ_le hle)

/-- A bucket with events does not end below zero. -/
theorem upper_nonneg (h : Plausible histogram) (hk : histogram.bucketCounts[k]? = some c)
    (hc : 0 < c) : (0 : ExtendedFloat) ≤ bucketUpper histogram.explicitBounds k := by
  unfold bucketUpper
  cases hb : histogram.explicitBounds[k]? with
  | none => exact WithBot.coe_le_coe.2 le_top
  | some b =>
    apply WithBotTop.coe_le_coe.2
    by_contra hneg
    have hevent := h.nonneg
    simp only [hasNegativeEvent, Bool.or_eq_false_iff, List.any_eq_false, Bool.and_eq_true,
      decide_eq_true_eq] at hevent
    have hmem : (b, c) ∈ histogram.explicitBounds.zip histogram.bucketCounts :=
      List.mem_iff_getElem?.2 ⟨k, List.getElem?_zip_eq_some.2 ⟨hb, hk⟩⟩
    exact hevent.2 _ hmem ⟨not_le.1 hneg, hc⟩

theorem lower_lt_upper (histogram : HistogramSample) (k : ℕ) :
    bucketLower histogram.explicitBounds k < bucketUpper histogram.explicitBounds k := by
  cases k with
  | zero =>
    unfold bucketLower bucketUpper
    cases histogram.explicitBounds[0]? <;> exact WithBot.bot_lt_coe _
  | succ k =>
    rw [bucketLower, bucketUpper]
    cases hb : histogram.explicitBounds[k]? with
    | none =>
      cases histogram.explicitBounds[k + 1]? <;> exact WithBot.bot_lt_coe _
    | some b =>
      cases hb' : histogram.explicitBounds[k + 1]? with
      | none => exact WithBot.coe_lt_coe.2 (WithTop.coe_lt_top b)
      | some b' =>
        obtain ⟨hlt, rfl⟩ := List.getElem?_eq_some_iff.1 hb
        obtain ⟨hlt', rfl⟩ := List.getElem?_eq_some_iff.1 hb'
        exact WithBotTop.coe_lt_coe.2 (List.pairwise_iff_getElem.1
          histogram.explicitBounds_increasing _ _ hlt hlt' (Nat.lt_succ_self k))

/-- The estimate of a bucket with events exists. -/
theorem exists_bucketEstimate (h : Plausible histogram)
    (hk : histogram.bucketCounts[k]? = some c) (hc : 0 < c) :
    ∃ estimate, bucketEstimate histogram k true = .ok estimate := by
  have hordered := (HistogramFields.check_eq_ok.1 histogram.checked).2.2.2.2.2.2
  have hlu := lower_lt_upper histogram k
  have hu := h.upper_nonneg hk hc
  have hle : latencyLower histogram k ≤ latencyUpper histogram k := by
    rw [le_latencyUpper_iff]
    constructor
    · intro greatest hgreatest
      refine latencyLower_le_iff.2 ⟨fun least hleast => ?_, ?_, ?_⟩
      · exact WithBotTop.coe_le_coe.2 (hordered least hleast greatest hgreatest)
      · exact WithBotTop.coe_le_coe.2 (h.max_nonneg greatest hgreatest)
      · exact (h.lower_lt_max hk hc hgreatest).le
    · exact latencyLower_le_iff.2 ⟨fun least hleast => h.min_le_upper hk hc hleast, hu, hlu.le⟩
  have hlt : bucketLower histogram.explicitBounds k < latencyUpper histogram k :=
    lt_latencyUpper_iff.2 ⟨fun greatest hgreatest => h.lower_lt_max hk hc hgreatest, hlu⟩
  rw [bucketEstimate_eq]
  refine ⟨_, dif_neg ?_⟩
  rintro (hgt | ⟨hexclusive, heq⟩)
  · exact absurd hle (not_le.2 hgt)
  · simp only [Bool.and_eq_true, decide_eq_true_eq] at hexclusive
    rw [← heq, hexclusive.2] at hlt
    exact lt_irrefl _ hlt

end Plausible

/-! ## Statistics of latencies -/

theorem rank_mem_count (aggregation : Aggregation) (hcount : 1 ≤ histogram.count) :
    1 ≤ quantileRank histogram.count (quantile aggregation) ∧
      quantileRank histogram.count (quantile aggregation) ≤ histogram.count := by
  unfold quantile quantileRank
  split <;> (push_cast; omega)

/-- A rank statistic of a plausible histogram has an estimate. -/
theorem Plausible.exists_rankedEstimate (h : Plausible histogram) (h1 : 1 ≤ rank)
    (h2 : rank ≤ histogram.count) :
    ∃ estimate, rankedEstimate histogram rank true = .ok estimate := by
  obtain ⟨k, c, hk, hc, -, -, heq⟩ := rankedEstimate_bucket true h1 h2
  rw [heq]
  exact h.exists_bucketEstimate hk hc

/-- A statistic other than the count and the mean is estimated when the histogram passes its
checks. -/
theorem histogramStatistic_eq_ok (hcount : histogram.count ≠ 0) {aggregation : Aggregation}
    (hc : aggregation ≠ .count) (hm : aggregation ≠ .mean) :
    histogramStatistic histogram aggregation true = .ok estimate ↔
      validateExtrema histogram = .ok () ∧ hasNegativeEvent histogram = false ∧
        rankEstimate histogram aggregation true = .ok estimate := by
  have hstatistic : histogramStatistic histogram aggregation true = .ok estimate ↔
      estimateStatistic histogram aggregation true = .ok estimate := by
    simp only [histogramStatistic, seq_eq_ok, require_eq_ok, mapError_eq_ok, hcount, hm, and_false,
      false_and, not_false_eq_true, true_and]
  rw [hstatistic, estimateStatistic, if_pos hcount, if_neg hc, if_neg hm]
  simp only [seq_eq_ok, require_eq_ok, hcount, ne_eq, not_false_eq_true, true_and, Bool.not_eq_true]

/-! ## The published end of an estimate -/

theorem Estimate.make_eq_ok {low high : ExtendedFloat}
    (h : Estimate.make low high exclusive = .ok estimate) :
    estimate.lower = low ∧ estimate.upper = high := by
  unfold Estimate.make at h
  split at h
  · cases h
  · obtain rfl := Except.ok.inj h
    exact ⟨rfl, rfl⟩

theorem isFinite_coe (value : ℚ) : isFinite (value : ExtendedFloat) = true := by
  simp [isFinite]

theorem displayBound_of_finite (h : isFinite estimate.upper = true) :
    displayBound estimate = estimate.upper := if_pos h

theorem displayBound_of_top (h : estimate.upper = ⊤) : displayBound estimate = estimate.lower := by
  simp [displayBound, isFinite, h]

/-- The start of the open bucket. -/
theorem latencyLower_length_le (histogram : HistogramSample) (threshold : ℚ) :
    latencyLower histogram histogram.explicitBounds.length ≤ threshold ↔
      overflowBound histogram ≤ threshold := by
  have hlast : bucketLower histogram.explicitBounds histogram.explicitBounds.length ≤
      (threshold : ExtendedFloat) ↔ ∀ b ∈ histogram.explicitBounds.getLast?, b ≤ threshold := by
    cases hlen : histogram.explicitBounds.length with
    | zero => simp [List.length_eq_zero_iff.1 hlen, bucketLower]
    | succ n =>
      rw [bucketLower, List.getLast?_eq_getElem?, hlen, Nat.add_sub_cancel]
      cases hb : histogram.explicitBounds[n]? with
      | none => simp
      | some b => simp [WithBotTop.coe_le_coe]
  rw [latencyLower_le_iff, hlast, overflowBound, max_le_iff, max_le_iff, List.getLastD_eq_getLast?]
  have hzero : (0 : ExtendedFloat) ≤ threshold ↔ 0 ≤ threshold := WithBotTop.coe_le_coe
  rw [hzero]
  cases histogram.min <;> cases histogram.explicitBounds.getLast? <;>
    simp [WithBotTop.coe_le_coe]

theorem le_overflowBound {k : ℕ} (hb : histogram.explicitBounds[k]? = some b) :
    b ≤ overflowBound histogram := by
  obtain ⟨hlt, rfl⟩ := List.getElem?_eq_some_iff.1 hb
  have hne : histogram.explicitBounds ≠ [] := fun h => by simp [h] at hlt
  have hlast := List.getLast?_eq_some_getLast hne
  refine le_max_of_le_right (le_max_of_le_right ?_)
  rw [List.getLastD_eq_getLast?, hlast, Option.getD_some]
  rcases eq_or_rel_getLast? histogram.explicitBounds_increasing hlast (List.getElem_mem hlt) with
    he | hlt
  · exact he.le
  · exact hlt.le

/-- A bucket of the rank that ends within the threshold is counted. -/
theorem le_threshold_iff (hb : histogram.explicitBounds[k]? = some b)
    (hlo : (histogram.bucketCounts.take k).sum < rank)
    (hhi : rank ≤ (histogram.bucketCounts.take (k + 1)).sum) (threshold : ℚ) :
    b ≤ threshold ↔ rank ≤ eventsWithin histogram threshold := by
  obtain ⟨hlt, rfl⟩ := List.getElem?_eq_some_iff.1 hb
  constructor
  · intro hle
    refine hhi.trans (take_sum_mono histogram (Nat.succ_le_of_lt ?_))
    by_contra hge
    have hbound := List.pairwise_iff_getElem.1 histogram.explicitBounds_increasing
    have hfound := @List.findIdx_getElem ℚ (threshold < ·) histogram.explicitBounds
      ((not_lt.1 hge).trans_lt hlt)
    have hgt := of_decide_eq_true hfound
    rcases eq_or_lt_of_le (not_lt.1 hge) with he | hlt'
    · simp only [he] at hgt
      exact absurd hle (not_le.2 hgt)
    · exact absurd (hgt.trans ((hbound _ _ _ hlt hlt'))) (not_lt.2 hle)
  · intro hle
    by_contra hgt
    have hidx : histogram.explicitBounds.findIdx (threshold < ·) ≤ k := by
      by_contra hlt'
      exact absurd (not_le.1 hgt) (by simpa using List.not_of_lt_findIdx (not_le.1 hlt'))
    exact absurd (hle.trans (take_sum_mono histogram hidx)) (not_le.2 hlo)

/-- The open bucket is not counted. -/
theorem not_le_eventsWithin (hb : histogram.explicitBounds[k]? = none)
    (hlo : (histogram.bucketCounts.take k).sum < rank) (threshold : ℚ) :
    ¬ rank ≤ eventsWithin histogram threshold := by
  intro hle
  have hidx : histogram.explicitBounds.findIdx (threshold < ·) ≤ k :=
    List.findIdx_le_length.trans (List.getElem?_eq_none_iff.1 hb)
  exact absurd (hle.trans (take_sum_mono histogram hidx)) (not_le.2 hlo)

/-- The upper end of the estimate of a rank. -/
theorem upper_le_iff (h1 : 1 ≤ rank) (h2 : rank ≤ histogram.count)
    (hok : rankedEstimate histogram rank true = .ok estimate) (threshold : ℚ) :
    estimate.upper ≤ threshold ↔ UpperWithin histogram rank threshold := by
  obtain ⟨k, c, hk, hc, hlo, hhi, heq⟩ := rankedEstimate_bucket true h1 h2
  rw [heq, bucketEstimate_eq] at hok
  rw [(Estimate.make_eq_ok hok).2]
  have hbucket : bucketUpper histogram.explicitBounds k ≤ threshold ↔
      rank ≤ eventsWithin histogram threshold := by
    unfold bucketUpper
    cases hb : histogram.explicitBounds[k]? with
    | some b =>
      rw [← le_threshold_iff hb hlo hhi threshold]
      exact WithBotTop.coe_le_coe
    | none =>
      refine iff_of_false (fun hle => ?_) (not_le_eventsWithin hb hlo threshold)
      exact absurd hle (not_le.2 (WithBot.coe_lt_coe.2 (WithTop.coe_lt_top _)))
  unfold latencyUpper UpperWithin
  cases histogram.max with
  | none => simpa using hbucket
  | some greatest =>
    dsimp only
    rw [min_le_iff, hbucket]
    simp [WithBotTop.coe_le_coe]

/-- The published end of the estimate of a rank, when no maximum is recorded. -/
theorem displayBound_le_iff (h1 : 1 ≤ rank) (h2 : rank ≤ histogram.count)
    (hmax : histogram.max = none) (hok : rankedEstimate histogram rank true = .ok estimate)
    (threshold : ℚ) : displayBound estimate ≤ threshold ↔ RankWithin histogram rank threshold := by
  obtain ⟨k, c, hk, hc, hlo, hhi, heq⟩ := rankedEstimate_bucket true h1 h2
  rw [heq, bucketEstimate_eq] at hok
  obtain ⟨hlower, hupper⟩ := Estimate.make_eq_ok hok
  simp only [latencyUpper, hmax] at hupper
  rw [RankWithin]
  cases hb : histogram.explicitBounds[k]? with
  | some b =>
    simp only [bucketUpper, hb, Option.map_some, Option.getD_some] at hupper
    rw [displayBound_of_finite (by rw [hupper]; rfl), hupper, ← le_threshold_iff hb hlo hhi threshold]
    have hle : (b : ExtendedFloat) ≤ threshold ↔ b ≤ threshold := WithBotTop.coe_le_coe
    rw [hle]
    exact ⟨.inr, fun h => h.elim (le_overflowBound hb).trans id⟩
  | none =>
    have hlen : k = histogram.explicitBounds.length :=
      le_antisymm (bucket_le_length hk) (List.getElem?_eq_none_iff.1 hb)
    simp only [bucketUpper, hb, Option.map_none, Option.getD_none] at hupper
    rw [displayBound_of_top hupper, hlower, hlen, latencyLower_length_le]
    exact ⟨.inl, fun h => h.resolve_right (not_le_eventsWithin hb hlo threshold)⟩

/-- With a maximum, or without events in the open bucket, the end of an estimate is finite. -/
theorem finite_upper (h1 : 1 ≤ rank) (h2 : rank ≤ histogram.count)
    (hok : rankedEstimate histogram rank true = .ok estimate)
    (h : histogram.max ≠ none ∨
      histogram.bucketCounts.getD histogram.explicitBounds.length 0 = 0) :
    isFinite estimate.upper = true := by
  obtain ⟨k, c, hk, hc, -, -, heq⟩ := rankedEstimate_bucket true h1 h2
  rw [heq, bucketEstimate_eq] at hok
  rw [(Estimate.make_eq_ok hok).2]
  unfold latencyUpper bucketUpper
  cases hb : histogram.explicitBounds[k]? with
  | some b =>
    rw [Option.map_some, Option.getD_some]
    split
    · next greatest _ =>
      rcases min_choice (greatest : ExtendedFloat) b with he | he <;> rw [he] <;> exact isFinite_coe _
    · exact isFinite_coe b
  | none =>
    rw [Option.map_none, Option.getD_none]
    split
    · next greatest _ =>
      rw [min_eq_left (WithBot.coe_le_coe.2 le_top)]
      exact isFinite_coe greatest
    · next hmax =>
      have hlen : k = histogram.explicitBounds.length :=
        le_antisymm (bucket_le_length hk) (List.getElem?_eq_none_iff.1 hb)
      have hzero := h.resolve_left (fun hne => hne hmax)
      rw [← hlen, List.getD_eq_getElem?_getD, hk, Option.getD_some] at hzero
      omega

/-- With events in the open bucket, the closed buckets do not hold all of them. -/
theorem closed_lt_count (h : histogram.bucketCounts.getD histogram.explicitBounds.length 0 ≠ 0) :
    (histogram.bucketCounts.take histogram.explicitBounds.length).sum < histogram.count := by
  have hlt : histogram.explicitBounds.length < histogram.bucketCounts.length := by
    rw [histogram.bucketCounts_length]
    exact Nat.lt_succ_self _
  have hall := List.sum_take_succ histogram.bucketCounts _ hlt
  rw [List.take_of_length_le (by rw [histogram.bucketCounts_length]),
    histogram.bucketCounts_sum] at hall
  rw [List.getD_eq_getElem _ _ hlt] at h
  have := histogram.bucketCounts_nonneg _ (List.getElem_mem hlt)
  omega

/-! ## The verdict -/

theorem combinedStatus_eq_passed {outcomes : List Comparison} :
    combinedStatus outcomes = .passed ↔ ∀ outcome ∈ outcomes, outcome = .passed := by
  unfold combinedStatus
  split
  · next h =>
    simp only [reduceCtorEq, false_iff]
    exact fun hall => absurd (hall _ h) (by decide)
  · next hfailed =>
    split
    · next h =>
      simp only [reduceCtorEq, false_iff]
      exact fun hall => absurd (hall _ h) (by decide)
    · next hskipped =>
      refine iff_of_true rfl fun outcome h => ?_
      cases outcome with
      | passed => rfl
      | failed => exact absurd h hfailed
      | skipped => exact absurd h hskipped

theorem compare_lte (h : Estimate.compare estimate .lte (threshold : ℚ) = .ok outcome) :
    outcome = .passed ↔ estimate.upper ≤ threshold := by
  rw [Estimate.compare_eq] at h
  rw [← Except.ok.inj h]
  by_cases hle : estimate.upper ≤ threshold
  · exact iff_of_true (if_pos (by simpa [Estimate.outcomes] using hle)) hle
  · rw [if_neg (by simpa [Estimate.outcomes] using hle)]
    refine iff_of_false (fun he => ?_) hle
    split_ifs at he

theorem thresholds_eq_ok : thresholds policy = .ok rounded →
    rounded = (double policy.maxTimeAuthorityDeliveryLatencyP50Ms,
      double policy.maxTimeAuthorityDeliveryLatencyP95Ms,
      double policy.maxTimeAuthorityDeliveryLatencyMs) := by
  intro h
  obtain ⟨_, h50, h⟩ := bind_eq_ok.1 h
  obtain ⟨_, h95, h⟩ := bind_eq_ok.1 h
  obtain ⟨_, hmax, h⟩ := bind_eq_ok.1 h
  obtain rfl := Except.ok.inj h
  rw [← (toFloat_eq_ok.1 h50).2, ← (toFloat_eq_ok.1 h95).2, ← (toFloat_eq_ok.1 hmax).2]

/-- A successful evaluation publishes one end of each estimate, and passes when the upper ends and
the count meet the rounded policy. -/
theorem latencyPolicy_eq_ok (hcount : histogram.count ≠ 0)
    (h : latencyPolicy py histogram policy = .ok (latencies, evaluation)) :
    ∃ p50 p95 maximum, histogramStatistic histogram .p50 true = .ok p50 ∧
      histogramStatistic histogram .p95 true = .ok p95 ∧
      histogramStatistic histogram .max true = .ok maximum ∧
      latencies = (displayBound p50, displayBound p95, displayBound maximum) ∧
      (evaluation.status = .passed ↔
        p50.upper ≤ (double policy.maxTimeAuthorityDeliveryLatencyP50Ms : ExtendedFloat) ∧
        p95.upper ≤ (double policy.maxTimeAuthorityDeliveryLatencyP95Ms : ExtendedFloat) ∧
        maximum.upper ≤ (double policy.maxTimeAuthorityDeliveryLatencyMs : ExtendedFloat) ∧
        policy.timeAuthorityMinSamples ≤ histogram.count) := by
  rw [latencyPolicy, if_neg hcount] at h
  simp only [bind_eq_ok, mapError_eq_ok] at h
  obtain ⟨p50, h50, p95, h95, maximum, hmax, rounded, hrounded, o50, ho50, o95, ho95, omax, homax,
    h⟩ := h
  obtain rfl := thresholds_eq_ok hrounded
  obtain ⟨rfl, rfl⟩ := Prod.mk.inj (Except.ok.inj h)
  refine ⟨p50, p95, maximum, h50, h95, hmax, rfl, ?_⟩
  simp only [timeAuthorityEvaluation, combinedStatus_eq_passed, List.forall_mem_cons,
    List.not_mem_nil, false_imp_iff, implies_true, and_true, compare_lte ho50, compare_lte ho95,
    compare_lte homax]
  simp

/-- A plausible histogram is evaluated, unless a threshold is out of the range of floats. -/
theorem Plausible.latencyPolicy_error (h : Plausible histogram) (hcount : 1 ≤ histogram.count)
    {failure : MetricFailure} (herror : latencyPolicy py histogram policy = .error failure) :
    ∃ error, failure = .overflow error := by
  have hne : histogram.count ≠ 0 := by omega
  have hranked : ∀ rank, 1 ≤ rank → rank ≤ histogram.count →
      ∃ estimate, rankedEstimate histogram rank true = .ok estimate :=
    fun rank h1 h2 => h.exists_rankedEstimate h1 h2
  have hstatistic : ∀ aggregation, aggregation ≠ .count → aggregation ≠ .mean →
      (∃ estimate, rankEstimate histogram aggregation true = .ok estimate) →
      ∃ estimate, histogramStatistic histogram aggregation true = .ok estimate := by
    intro aggregation hc hm ⟨estimate, hok⟩
    exact ⟨estimate, (histogramStatistic_eq_ok hne hc hm).2 ⟨h.extrema, h.nonneg, hok⟩⟩
  obtain ⟨p50, h50⟩ := hstatistic .p50 (by decide) (by decide)
    (hranked _ (rank_mem_count _ hcount).1 (rank_mem_count _ hcount).2)
  obtain ⟨p95, h95⟩ := hstatistic .p95 (by decide) (by decide)
    (hranked _ (rank_mem_count _ hcount).1 (rank_mem_count _ hcount).2)
  have hextremum : ∃ estimate, rankEstimate histogram .max true = .ok estimate := by
    cases hmax : histogram.max with
    | some greatest =>
      obtain ⟨estimate, hok, -⟩ := Estimate.exact_contains greatest
      exact ⟨estimate, by simp only [rankEstimate, hmax, hok]⟩
    | none =>
      obtain ⟨estimate, hok⟩ := hranked histogram.count hcount le_rfl
      exact ⟨estimate, by simp only [rankEstimate, hmax, hok]⟩
  obtain ⟨maximum, hmax⟩ := hstatistic .max (by decide) (by decide) hextremum
  simp only [latencyPolicy, if_neg hne, h50, h95, hmax, ok_bind, Estimate.compare_eq] at herror
  cases hthresholds : thresholds policy with
  | error error =>
    rw [hthresholds] at herror
    exact ⟨error, (Except.error.inj herror).symm⟩
  | ok rounded =>
    rw [hthresholds] at herror
    cases herror

/-- An evaluated histogram is plausible. -/
theorem plausible_of_latencyPolicy (hcount : 1 ≤ histogram.count)
    (h : latencyPolicy py histogram policy = .ok result) : Plausible histogram := by
  have hne : histogram.count ≠ 0 := by omega
  obtain ⟨latencies, evaluation⟩ := result
  obtain ⟨p50, -, -, h50, -⟩ := latencyPolicy_eq_ok hne h
  obtain ⟨hextrema, hnonneg, hok⟩ := (histogramStatistic_eq_ok hne (by decide) (by decide)).1 h50
  refine ⟨hextrema, hnonneg, fun greatest hmax => ?_⟩
  obtain ⟨k, c, -, -, -, -, heq⟩ := rankedEstimate_bucket true
    (rank_mem_count .p50 hcount).1 (rank_mem_count .p50 hcount).2
  have hranked : rankedEstimate histogram (quantileRank histogram.count (quantile .p50)) true =
      .ok p50 := hok
  rw [heq, bucketEstimate_eq] at hranked
  obtain ⟨hlower, hupper⟩ := Estimate.make_eq_ok hranked
  have hle : p50.lower ≤ p50.upper := not_lt.1 fun hlt => p50.consistent (.inl hlt)
  rw [hlower, hupper, le_latencyUpper_iff] at hle
  have hzero : (0 : ExtendedFloat) ≤ greatest :=
    (latencyLower_le_iff.1 (hle.1 greatest hmax)).2.1
  exact WithBotTop.coe_le_coe.1 hzero

/-- Where every published end is an upper end, the document says what the harness decided. -/
theorem published_eq (hcount : 1 ≤ histogram.count) (h : histogram.max ≠ none ∨
      histogram.bucketCounts.getD histogram.explicitBounds.length 0 = 0)
    {aggregation : Aggregation} (hok : rankEstimate histogram aggregation true = .ok estimate)
    (ha : aggregation = .p50 ∨ aggregation = .p95 ∨ aggregation = .max) :
    displayBound estimate = estimate.upper := by
  apply displayBound_of_finite
  rcases ha with rfl | rfl | rfl
  · exact finite_upper (rank_mem_count .p50 hcount).1 (rank_mem_count .p50 hcount).2 hok h
  · exact finite_upper (rank_mem_count .p95 hcount).1 (rank_mem_count .p95 hcount).2 hok h
  · cases hmax : histogram.max with
    | some greatest =>
      simp only [rankEstimate, hmax] at hok
      rw [(Estimate.make_eq_ok hok).2]
      exact isFinite_coe greatest
    | none =>
      simp only [rankEstimate, hmax] at hok
      exact finite_upper hcount le_rfl hok h

/-! ## The two verdicts -/

theorem timeAuthorityWithinPolicy_iff {document : TimeAuthorityDocument} :
    timeAuthorityWithinPolicy policy document = true ↔
      policy.timeAuthorityMinSamples ≤ document.sampleCount ∧
      document.p50DeliveryLatencyMs ≤ (policy.maxTimeAuthorityDeliveryLatencyP50Ms : ExtendedFloat) ∧
      document.p95DeliveryLatencyMs ≤ (policy.maxTimeAuthorityDeliveryLatencyP95Ms : ExtendedFloat) ∧
      document.maxDeliveryLatencyMs ≤ (policy.maxTimeAuthorityDeliveryLatencyMs : ExtendedFloat) := by
  simp only [timeAuthorityWithinPolicy, Bool.and_eq_true, decide_eq_true_eq, and_assoc]

/-- Too few samples are outside the policy for both. -/
theorem verdicts_eq_of_count_lt {observation : TimeAuthorityObservation}
    (hwithin : observation.withinPolicy = false)
    (hcount : observation.sampleCount < policy.timeAuthorityMinSamples) :
    (observation.document evidence).withinPolicy =
      timeAuthorityWithinPolicy policy (observation.document evidence) := by
  have hfalse : ¬ timeAuthorityWithinPolicy policy (observation.document evidence) = true := fun h =>
    absurd (timeAuthorityWithinPolicy_iff.1 h).1 (not_le.2 hcount)
  rw [Bool.not_eq_true] at hfalse
  rw [hfalse]
  exact hwithin

/-- Enough samples without latencies are within the policy by the document only. -/
theorem verdicts_ne_of_unavailable {observation : TimeAuthorityObservation}
    (hwithin : observation.withinPolicy = false)
    (hcount : policy.timeAuthorityMinSamples ≤ observation.sampleCount)
    (h50 : observation.p50Ms = 0) (h95 : observation.p95Ms = 0) (hmax : observation.maxMs = 0) :
    (observation.document evidence).withinPolicy ≠
      timeAuthorityWithinPolicy policy (observation.document evidence) := by
  have hcoe : ∀ {threshold : ℚ}, 0 ≤ threshold → (0 : ExtendedFloat) ≤ threshold :=
    fun h => WithBotTop.coe_le_coe.2 h
  have h1 := policy.p50_nonneg
  have h2 := h1.trans policy.p50_le_p95
  have h3 := h2.trans policy.p95_le_max
  have htrue : timeAuthorityWithinPolicy policy (observation.document evidence) = true := by
    refine timeAuthorityWithinPolicy_iff.2 ⟨hcount, ?_, ?_, ?_⟩
    · exact h50.trans_le (hcoe h1)
    · exact h95.trans_le (hcoe h2)
    · exact hmax.trans_le (hcoe h3)
  rw [htrue]
  exact fun he => absurd (hwithin.symm.trans he) (by decide)

/-- An observation without latencies. -/
theorem unavailable_eq_ok {context : LatencyContext} {error : MetricFailure}
    (h : context.unavailable count error = .ok observation) :
    observation.withinPolicy = false ∧ observation.sampleCount = count ∧
      observation.p50Ms = 0 ∧ observation.p95Ms = 0 ∧ observation.maxMs = 0 := by
  cases error with
  | input _ | overflow _ => cases h
  | aggregation message | insufficient message =>
    obtain rfl := Except.ok.inj h
    exact ⟨rfl, rfl, rfl, rfl, rfl⟩

theorem not_passed_of_count_lt (h : latencyPolicy py histogram policy = .ok (latencies, evaluation))
    (hcount : histogram.count < policy.timeAuthorityMinSamples) :
    evaluation.status ≠ .passed := by
  by_cases hzero : histogram.count = 0
  · rw [latencyPolicy, if_pos hzero] at h
    obtain ⟨-, rfl⟩ := Prod.mk.inj (Except.ok.inj h)
    simp [timeAuthorityEvaluation]
  · obtain ⟨p50, p95, maximum, -, -, -, -, hpassed⟩ := latencyPolicy_eq_ok hzero h
    exact fun hp => absurd (hpassed.1 hp).2.2.2 (not_le.2 hcount)

/-- Thresholds that are floats are not rounded. -/
theorem RoundingAgrees.of_floats
    (h50 : double policy.maxTimeAuthorityDeliveryLatencyP50Ms =
      policy.maxTimeAuthorityDeliveryLatencyP50Ms)
    (h95 : double policy.maxTimeAuthorityDeliveryLatencyP95Ms =
      policy.maxTimeAuthorityDeliveryLatencyP95Ms)
    (hmax : double policy.maxTimeAuthorityDeliveryLatencyMs =
      policy.maxTimeAuthorityDeliveryLatencyMs) (histogram : HistogramSample) :
    RoundingAgrees policy histogram := by
  rw [RoundingAgrees, h50, h95, hmax]

/-- The largest latency. -/
theorem maximum_upper_le_iff (hpos : 1 ≤ histogram.count)
    (hok : rankEstimate histogram .max true = .ok maximum) (threshold : ℚ) :
    maximum.upper ≤ threshold ↔ (∀ greatest ∈ histogram.max, greatest ≤ threshold) ∧
      (histogram.max = none → histogram.count ≤ eventsWithin histogram threshold) := by
  cases hmax : histogram.max with
  | some greatest =>
    simp only [rankEstimate, hmax] at hok
    rw [(Estimate.make_eq_ok hok).2]
    simp [WithBotTop.coe_le_coe]
  | none =>
    simp only [rankEstimate, hmax] at hok
    rw [upper_le_iff hpos le_rfl hok, UpperWithin, hmax]
    simp

/-- The upper ends of the estimates are within thresholds when the latencies are. -/
theorem upper_le_iff_latenciesWithin (hpos : 1 ≤ histogram.count)
    (h50 : rankEstimate histogram .p50 true = .ok p50)
    (h95 : rankEstimate histogram .p95 true = .ok p95)
    (hmax : rankEstimate histogram .max true = .ok maximum) (p50Ms p95Ms maxMs : ℚ) :
    (p50.upper ≤ p50Ms ∧ p95.upper ≤ p95Ms ∧ maximum.upper ≤ maxMs) ↔
      LatenciesWithin histogram p50Ms p95Ms maxMs := by
  rw [upper_le_iff (rank_mem_count .p50 hpos).1 (rank_mem_count .p50 hpos).2 h50,
    upper_le_iff (rank_mem_count .p95 hpos).1 (rank_mem_count .p95 hpos).2 h95,
    maximum_upper_le_iff hpos hmax]
  exact ⟨fun ⟨h50, h95, hrecorded, hcounted⟩ => ⟨h50, h95, hrecorded, hcounted⟩,
    fun h => ⟨h.p50, h.p95, h.recorded, h.counted⟩⟩

/-- On an evaluated histogram with enough samples the verdicts differ when its latencies are
unbounded, or within the rounded thresholds only. -/
theorem verdicts_eq_iff (hcount : policy.timeAuthorityMinSamples ≤ histogram.count)
    (h : latencyPolicy py histogram policy = .ok (latencies, evaluation))
    (context : LatencyContext) (evidence : Option String) :
    ((context.observation histogram.count latencies evaluation).document evidence).withinPolicy =
      timeAuthorityWithinPolicy policy
        ((context.observation histogram.count latencies evaluation).document evidence) ↔
      ¬ Unbounded policy histogram ∧ RoundingAgrees policy histogram := by
  have hthirty := policy.minSamples
  have hpos : 1 ≤ histogram.count := by omega
  have hne : histogram.count ≠ 0 := by omega
  obtain ⟨p50, p95, maximum, h50, h95, hmax, rfl, hpassed⟩ := latencyPolicy_eq_ok hne h
  have hp50 := ((histogramStatistic_eq_ok hne (by decide) (by decide)).1 h50).2.2
  have hp95 := ((histogramStatistic_eq_ok hne (by decide) (by decide)).1 h95).2.2
  have hmaximum := ((histogramStatistic_eq_ok hne (by decide) (by decide)).1 hmax).2.2
  have hwithin := upper_le_iff_latenciesWithin hpos hp50 hp95 hmaximum
  rw [Bool.eq_iff_iff, timeAuthorityWithinPolicy_iff]
  simp only [TimeAuthorityObservation.document, LatencyContext.observation, decide_eq_true_eq,
    hpassed, hcount, and_true, true_and, hwithin]
  by_cases hbounded : histogram.max ≠ none ∨
      histogram.bucketCounts.getD histogram.explicitBounds.length 0 = 0
  · -- Every published end is an upper end.
    rw [published_eq hpos hbounded hp50 (by simp), published_eq hpos hbounded hp95 (by simp),
      published_eq hpos hbounded hmaximum (by simp), hwithin]
    have hnot : ¬ Unbounded policy histogram := fun hu =>
      hbounded.elim (absurd hu.max_none) hu.overflow
    exact Iff.comm.trans (and_iff_right hnot).symm
  · -- The largest latency has no upper end, so the harness does not pass.
    rw [not_or, not_not] at hbounded
    obtain ⟨hnone, hoverflow⟩ := hbounded
    have hclosed : ∀ threshold, ¬ histogram.count ≤ eventsWithin histogram threshold :=
      fun threshold hle => absurd (hle.trans (take_sum_mono histogram List.findIdx_le_length))
        (not_le.2 (closed_lt_count hoverflow))
    have houtside : ∀ p50Ms p95Ms maxMs, ¬ LatenciesWithin histogram p50Ms p95Ms maxMs :=
      fun _ _ maxMs hw => hclosed maxMs (hw.counted hnone)
    have hrounding : RoundingAgrees policy histogram := iff_of_false (houtside _ _ _) (houtside _ _ _)
    simp only [rankEstimate, hnone] at hmaximum
    have hlast := displayBound_le_iff hpos le_rfl hnone hmaximum
    have hranks : ∀ threshold, RankWithin histogram histogram.count threshold ↔
        overflowBound histogram ≤ threshold := fun threshold => or_iff_left (hclosed threshold)
    simp only [houtside, false_iff, hrounding, and_true]
    rw [displayBound_le_iff (rank_mem_count .p50 hpos).1
        (rank_mem_count .p50 hpos).2 hnone hp50,
      displayBound_le_iff (rank_mem_count .p95 hpos).1
        (rank_mem_count .p95 hpos).2 hnone hp95, hlast, hranks, not_iff_not]
    constructor
    · rintro ⟨hle50, hle95, hle⟩
      exact ⟨hnone, hoverflow, hle50, hle95, hle⟩
    · intro hu
      exact ⟨hu.p50, hu.p95, hu.maximum⟩

end

/-! ## Main result -/

/-- The flag of the harness is the one recomputed from its document when the histogram of the
window has too few events, or is plausible and not unbounded, and lies within the thresholds if it
lies within the floats nearest to them. -/
theorem withinPolicy_recomputed_iff
    (h : evaluateTimeAuthority py policy samples runId domainId sourceId windowStartNs windowEndNs =
      .ok observation) (evidence : Option String) :
    (observation.document evidence).withinPolicy =
        timeAuthorityWithinPolicy policy (observation.document evidence) ↔
      ∀ histogram, latencyHistogram samples
          ⟨runId, domainId, sourceId, windowStartNs, windowEndNs⟩ = .ok histogram →
        policy.timeAuthorityMinSamples ≤ histogram.count →
          Plausible histogram ∧ ¬ Unbounded policy histogram ∧ RoundingAgrees policy histogram := by
  have hthirty := policy.minSamples
  unfold evaluateTimeAuthority observeLatency at h
  generalize hc : (⟨runId, domainId, sourceId, windowStartNs, windowEndNs⟩ : LatencyContext) =
    context at h ⊢
  cases hhistogram : latencyHistogram samples context with
  | error error =>
    rw [hhistogram] at h
    refine iff_of_true ?_ (fun histogram heq => by cases heq)
    obtain ⟨hwithin, hcount, -⟩ := unavailable_eq_ok h
    exact verdicts_eq_of_count_lt hwithin (by omega)
  | ok histogram =>
    rw [hhistogram] at h
    simp only [Except.ok.injEq, forall_eq']
    cases hpolicy : latencyPolicy py histogram policy with
    | error error =>
      simp only [hpolicy] at h
      obtain ⟨hwithin, hsamples, h50, h95, hmax⟩ := unavailable_eq_ok h
      by_cases hcount : policy.timeAuthorityMinSamples ≤ histogram.count
      · refine iff_of_false
          (verdicts_ne_of_unavailable hwithin (by rwa [hsamples]) h50 h95 hmax) fun hp => ?_
        obtain ⟨overflow, rfl⟩ := (hp hcount).1.latencyPolicy_error (by omega) hpolicy
        cases h
      · exact iff_of_true (verdicts_eq_of_count_lt hwithin (by rw [hsamples]; omega))
          fun hle => absurd hle hcount
    | ok result =>
      obtain ⟨latencies, evaluation⟩ := result
      simp only [hpolicy] at h
      obtain rfl := Except.ok.inj h
      by_cases hcount : policy.timeAuthorityMinSamples ≤ histogram.count
      · rw [verdicts_eq_iff hcount hpolicy]
        have hp := plausible_of_latencyPolicy (by omega) hpolicy
        exact ⟨fun hu _ => ⟨hp, hu⟩, fun hu => (hu hcount).2⟩
      · refine iff_of_true (verdicts_eq_of_count_lt ?_ (not_le.1 hcount)) fun hle => absurd hle hcount
        exact decide_eq_false (not_passed_of_count_lt hpolicy (not_le.1 hcount))

/-! A window with one latency above every bound: the harness skips, and the published ends are all
within the policy. -/

/-- Twenty-nine latencies of at most half a millisecond, and one of more than two. -/
private def openLatencies : HistogramFields where
  name := "robotics.time_authority.delivery_latency"
  unit := "ms"
  observedAtNs := 40
  count := 30
  bucketCounts := [29, 0, 0, 1]
  explicitBounds := [1 / 2, 1, 2]
  attributes := LatencyContext.attributes ⟨"run", "camera", "clock", 10, 40⟩
  temporality := .delta
  startTimeNs := 10
  sum := none
  min := none
  max := none

private def unboundedLatencies : HistogramSample := ⟨openLatencies, by decide +kernel⟩

private def boundedLatencies : HistogramSample :=
  ⟨{ openLatencies with max := some 3 }, by decide +kernel⟩

private def latencyPolicyOfTwo : TimeAuthorityPolicy where
  timeAuthorityMinSamples := 30
  maxTimeAuthorityDeliveryLatencyP50Ms := 1 / 2
  maxTimeAuthorityDeliveryLatencyP95Ms := 1
  maxTimeAuthorityDeliveryLatencyMs := 2
  minSamples := le_rfl
  p50_nonneg := by decide +kernel
  p50_le_p95 := by decide +kernel
  p95_le_max := by decide +kernel

theorem withinPolicy_not_recomputed :
    ¬ ∀ (policy : TimeAuthorityPolicy) (samples : List MetricPoint)
      (runId domainId sourceId : String) (windowStartNs windowEndNs : ℤ)
      (observation : TimeAuthorityObservation) (evidence : Option String),
      evaluateTimeAuthority .exact policy samples runId domainId sourceId windowStartNs
          windowEndNs = .ok observation →
        (observation.document evidence).withinPolicy =
          timeAuthorityWithinPolicy policy (observation.document evidence) := by
  intro h
  obtain ⟨observation, hok, hdiffer⟩ := exists_ok_of_any (by decide +kernel :
    (evaluateTimeAuthority .exact latencyPolicyOfTwo [.histogram unboundedLatencies]
      "run" "camera" "clock" 10 40).toOption.any (fun observation =>
        decide ((observation.document none).withinPolicy ≠
          timeAuthorityWithinPolicy latencyPolicyOfTwo (observation.document none))) = true)
  exact of_decide_eq_true hdiffer (h _ _ _ _ _ _ _ _ none hok)

theorem withinPolicy_recomputed_iff_recordedMax :
    ∃ observation, evaluateTimeAuthority .exact latencyPolicyOfTwo
        [.histogram boundedLatencies] "run" "camera" "clock" 10 40 =
          .ok observation ∧
      (observation.document none).withinPolicy =
        timeAuthorityWithinPolicy latencyPolicyOfTwo (observation.document none) := by
  obtain ⟨observation, hok, -⟩ := exists_ok_of_any (by decide +kernel :
    (evaluateTimeAuthority .exact latencyPolicyOfTwo
      [.histogram boundedLatencies] "run" "camera" "clock" 10 40).toOption.any
      (fun _ => true) = true)
  refine ⟨observation, hok, (withinPolicy_recomputed_iff hok none).2 fun histogram hh _ => ?_⟩
  obtain ⟨merged, hmerged, hm⟩ := exists_ok_of_any (by decide +kernel :
    (latencyHistogram [.histogram boundedLatencies]
      ⟨"run", "camera", "clock", 10, 40⟩).toOption.any (fun histogram =>
        decide (validateExtrema histogram = .ok () ∧ hasNegativeEvent histogram = false ∧
          histogram.max = some 3)) = true)
  obtain rfl := Except.ok.inj (hh.symm.trans hmerged)
  obtain ⟨hextrema, hnonneg, hmax⟩ := of_decide_eq_true hm
  refine ⟨⟨hextrema, hnonneg, fun greatest hg => ?_⟩, fun hu => ?_, .of_floats ?_ ?_ ?_ _⟩
  · obtain rfl := Option.some.inj (hmax.symm.trans hg)
    decide +kernel
  · exact absurd (hu.max_none.symm.trans hmax) (by simp)
  · decide +kernel
  · decide +kernel
  · decide +kernel

end RoboticsRuntime.Harness
