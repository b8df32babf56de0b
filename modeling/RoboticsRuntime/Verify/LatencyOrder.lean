import RoboticsRuntime.Verify.TimeAuthority

/-!
# The published latencies are ordered

The three published numbers are ends of three intervals, and may be ends of different kinds: the
end of a bucket, a recorded extremum, or the start of the open bucket. They are finite, not
negative and in the order of their ranks.
-/

namespace RoboticsRuntime.Harness
open Theory Contracts

section
variable {histogram : HistogramSample}

/-! ## One published end -/

theorem latencyLower_nonneg (histogram : HistogramSample) (k : ℕ) :
    0 ≤ latencyLower histogram k := (latencyLower_le_iff.1 le_rfl).2.1

theorem latencyLower_ne_top (histogram : HistogramSample) (k : ℕ) :
    latencyLower histogram k ≠ ⊤ := by
  have hbucket : bucketLower histogram.explicitBounds k < ⊤ := 
    (Plausible.lower_lt_upper histogram k).trans_le le_top
  have hcoe (value : ℚ) : (value : ExtendedFloat) < ⊤ :=
    WithBot.coe_lt_coe.2 (WithTop.coe_lt_top value)
  apply ne_of_lt
  unfold latencyLower
  cases histogram.min with
  | none => exact max_lt (hcoe 0) hbucket
  | some least => exact max_lt (hcoe least) (max_lt (hcoe 0) hbucket)

theorem exists_coe {value : ExtendedFloat} (h0 : 0 ≤ value) (htop : value ≠ ⊤) :
    ∃ q : ℚ, value = q ∧ 0 ≤ q := by
  induction value using WithBotTop.rec with
  | bot => exact absurd h0 (not_le.2 (WithBot.bot_lt_coe _))
  | top => exact absurd rfl htop
  | coe q => exact ⟨q, rfl, WithBotTop.coe_le_coe.1 h0⟩

/-- The published end of an estimate that starts at a latency is a latency. -/
theorem exists_displayBound (h0 : 0 ≤ estimate.lower) (htop : estimate.lower ≠ ⊤) :
    ∃ q : ℚ, displayBound estimate = q ∧ 0 ≤ q := by
  have hle : estimate.lower ≤ estimate.upper := not_lt.1 fun hlt => estimate.consistent (.inl hlt)
  unfold displayBound
  split
  · next hfinite =>
    refine exists_coe (h0.trans hle) fun h => ?_
    simp [isFinite, h] at hfinite
  · exact exists_coe h0 htop

/-- The ends of the estimate of a rank are those of the bucket that holds the rank. -/
theorem rankedEstimate_ends (h1 : 1 ≤ rank) (h2 : rank ≤ histogram.count)
    (hok : rankedEstimate histogram rank true = .ok estimate) :
    ∃ k, (histogram.bucketCounts.take k).sum < rank ∧
      rank ≤ (histogram.bucketCounts.take (k + 1)).sum ∧
      estimate.lower = latencyLower histogram k ∧ estimate.upper = latencyUpper histogram k := by
  obtain ⟨k, c, -, -, hlo, hhi, heq⟩ := rankedEstimate_bucket true h1 h2
  rw [heq, bucketEstimate_eq] at hok
  exact ⟨k, hlo, hhi, Estimate.make_eq_ok hok⟩

theorem exists_rankBound (h1 : 1 ≤ rank) (h2 : rank ≤ histogram.count)
    (hok : rankedEstimate histogram rank true = .ok estimate) :
    ∃ q : ℚ, displayBound estimate = q ∧ 0 ≤ q := by
  obtain ⟨k, -, -, hlower, -⟩ := rankedEstimate_ends h1 h2 hok
  exact exists_displayBound (hlower ▸ latencyLower_nonneg histogram k)
    (hlower ▸ latencyLower_ne_top histogram k)

/-! ## Two published ends -/

theorem bucketUpper_mono (histogram : HistogramSample) {k k' : ℕ} (hk : k ≤ k') :
    bucketUpper histogram.explicitBounds k ≤ bucketUpper histogram.explicitBounds k' := by
  rcases hk.eq_or_lt with rfl | hlt
  · exact le_rfl
  unfold bucketUpper
  cases hb' : histogram.explicitBounds[k']? with
  | none => exact le_top
  | some b' =>
    obtain ⟨hlt', rfl⟩ := List.getElem?_eq_some_iff.1 hb'
    rw [List.getElem?_eq_getElem (hlt.trans hlt')]
    exact WithBotTop.coe_le_coe.2 (List.pairwise_iff_getElem.1
      histogram.explicitBounds_increasing _ _ _ hlt' hlt).le

theorem latencyUpper_mono (histogram : HistogramSample) {k k' : ℕ} (hk : k ≤ k') :
    latencyUpper histogram k ≤ latencyUpper histogram k' := by
  obtain ⟨hmax, hbucket⟩ := le_latencyUpper_iff.1 (le_refl (latencyUpper histogram k))
  exact le_latencyUpper_iff.2 ⟨hmax, hbucket.trans (bucketUpper_mono histogram hk)⟩

/-- A lower rank is within every threshold that a higher one is within. -/
theorem RankWithin.anti (h : RankWithin histogram rank' threshold) (hle : rank ≤ rank') :
    RankWithin histogram rank threshold := h.imp id hle.trans

/-- The published ends of two ranks are in the order of the ranks. -/
theorem displayBound_mono (h1 : 1 ≤ rank) (hle : rank ≤ rank') (h2 : rank' ≤ histogram.count)
    (hok : rankedEstimate histogram rank true = .ok estimate)
    (hok' : rankedEstimate histogram rank' true = .ok estimate') :
    displayBound estimate ≤ displayBound estimate' := by
  cases hmax : histogram.max with
  | none =>
    -- The end of the higher rank is a threshold that both ranks are within.
    obtain ⟨q, hq, -⟩ := exists_rankBound (h1.trans hle) h2 hok'
    rw [hq]
    have hwithin := (displayBound_le_iff (h1.trans hle) h2 hmax hok' q).1 hq.le
    exact (displayBound_le_iff h1 (hle.trans h2) hmax hok q).2 (hwithin.anti hle)
  | some greatest =>
    have hrecorded : histogram.max ≠ none := by simp [hmax]
    rw [displayBound_of_finite (finite_upper h1 (hle.trans h2) hok (.inl hrecorded)),
      displayBound_of_finite (finite_upper (h1.trans hle) h2 hok' (.inl hrecorded))]
    obtain ⟨k, hlo, -, -, hupper⟩ := rankedEstimate_ends h1 (hle.trans h2) hok
    obtain ⟨k', -, hhi', -, hupper'⟩ := rankedEstimate_ends (h1.trans hle) h2 hok'
    rw [hupper, hupper']
    apply latencyUpper_mono
    by_contra hlt
    exact absurd (hhi'.trans (take_sum_mono histogram (Nat.succ_le_of_lt (not_le.1 hlt))))
      (not_le.2 (hlo.trans_le hle))

/-- The published end of a rank is at most the published largest latency. -/
theorem displayBound_le_max (h1 : 1 ≤ rank) (h2 : rank ≤ histogram.count)
    (hok : rankedEstimate histogram rank true = .ok estimate)
    (hmaximum : rankEstimate histogram .max true = .ok maximum) :
    displayBound estimate ≤ displayBound maximum := by
  cases hmax : histogram.max with
  | none =>
    simp only [rankEstimate, hmax] at hmaximum
    exact displayBound_mono h1 h2 le_rfl hok hmaximum
  | some greatest =>
    simp only [rankEstimate, hmax] at hmaximum
    have hupper := (Estimate.make_eq_ok hmaximum).2
    rw [displayBound_of_finite (finite_upper h1 h2 hok (.inl (by simp [hmax]))),
      displayBound_of_finite (hupper ▸ isFinite_coe greatest), hupper]
    obtain ⟨k, -, -, -, hk⟩ := rankedEstimate_ends h1 h2 hok
    rw [hk]
    exact (le_latencyUpper_iff.1 le_rfl).1 greatest hmax

/-! ## The three latencies -/

/-- Three finite latencies in order. -/
def Ordered (latencies : ExtendedFloat × ExtendedFloat × ExtendedFloat) : Prop :=
  ∃ p50 p95 maximum : ℚ, latencies = (↑p50, ↑p95, ↑maximum) ∧
    0 ≤ p50 ∧ p50 ≤ p95 ∧ p95 ≤ maximum

theorem ordered_zero : Ordered (0, 0, 0) := ⟨0, 0, 0, rfl, le_rfl, le_rfl, le_rfl⟩

theorem ordered_of_latencyPolicy (hcount : 0 < histogram.count)
    (h : latencyPolicy py histogram policy = .ok (latencies, evaluation)) : Ordered latencies := by
  have hpos : 1 ≤ histogram.count := hcount
  have hne : histogram.count ≠ 0 := hcount.ne'
  obtain ⟨p50, p95, maximum, h50, h95, hmax, rfl, -⟩ := latencyPolicy_eq_ok hne h
  have hp50 := ((histogramStatistic_eq_ok hne (by decide) (by decide)).1 h50).2.2
  have hp95 := ((histogramStatistic_eq_ok hne (by decide) (by decide)).1 h95).2.2
  have hmaximum := ((histogramStatistic_eq_ok hne (by decide) (by decide)).1 hmax).2.2
  obtain ⟨h50one, h50count⟩ := rank_mem_count .p50 hpos
  obtain ⟨h95one, h95count⟩ := rank_mem_count .p95 hpos
  have hranks : quantileRank histogram.count (quantile .p50) ≤
      quantileRank histogram.count (quantile .p95) := by
    simp only [quantileRank, quantile]
    push_cast
    omega
  have hlow := displayBound_mono h50one hranks h95count hp50 hp95
  have hhigh := displayBound_le_max h95one h95count hp95 hmaximum
  obtain ⟨a, ha, ha0⟩ := exists_rankBound h50one h50count hp50
  obtain ⟨b, hb, -⟩ := exists_rankBound h95one h95count hp95
  obtain ⟨c, hc⟩ : ∃ c : ℚ, displayBound maximum = c := by
    cases hrecorded : histogram.max with
    | none =>
      simp only [rankEstimate, hrecorded] at hmaximum
      obtain ⟨c, hc, -⟩ := exists_rankBound hpos le_rfl hmaximum
      exact ⟨c, hc⟩
    | some greatest =>
      simp only [rankEstimate, hrecorded] at hmaximum
      have hupper := (Estimate.make_eq_ok hmaximum).2
      exact ⟨greatest, by rw [displayBound_of_finite (hupper ▸ isFinite_coe greatest), hupper]⟩
  rw [ha, hb] at hlow
  rw [hb, hc] at hhigh
  exact ⟨a, b, c, by rw [ha, hb, hc], ha0, WithBotTop.coe_le_coe.1 hlow,
    WithBotTop.coe_le_coe.1 hhigh⟩

/-- Every observation of the harness has ordered latencies, the unavailable ones included. -/
theorem ordered_of_evaluate (h : evaluateTimeAuthority py policy samples runId domainId sourceId
      windowStartNs windowEndNs = .ok observation) :
    Ordered (observation.p50Ms, observation.p95Ms, observation.maxMs) := by
  have hunavailable : ∀ {context : LatencyContext} {count : ℤ} {error : MetricFailure},
      context.unavailable count error = .ok observation →
      Ordered (observation.p50Ms, observation.p95Ms, observation.maxMs) := by
    intro context count error hok
    obtain ⟨-, -, h50, h95, hmax⟩ := unavailable_eq_ok hok
    rw [h50, h95, hmax]
    exact ordered_zero
  unfold evaluateTimeAuthority observeLatency at h
  split at h
  · exact hunavailable h
  · next histogram _ =>
    split at h
    · exact hunavailable h
    · next latencies evaluation hpolicy =>
      obtain rfl := Except.ok.inj h
      by_cases hzero : histogram.count = 0
      · rw [latencyPolicy, if_pos hzero] at hpolicy
        obtain ⟨rfl, -⟩ := Prod.mk.inj (Except.ok.inj hpolicy)
        exact ordered_zero
      · exact ordered_of_latencyPolicy
          (lt_of_le_of_ne histogram.count_nonneg (Ne.symm hzero)) hpolicy

/-- Ordered latencies pass the clause of the validator about their order. -/
theorem validateTimeAuthorityObservation_ne (observation : TimeAuthorityDocument)
    (h : Ordered (observation.p50DeliveryLatencyMs, observation.p95DeliveryLatencyMs,
      observation.maxDeliveryLatencyMs)) (digests : List String) :
    validateTimeAuthorityObservation digests observation ≠ .error latencyOrderError := by
  obtain ⟨p50, p95, maximum, heq, -, hlow, hhigh⟩ := h
  obtain ⟨h50, h95, hmax⟩ : observation.p50DeliveryLatencyMs = p50 ∧
      observation.p95DeliveryLatencyMs = p95 ∧ observation.maxDeliveryLatencyMs = maximum := by
    simpa only [Prod.mk.injEq] using heq
  have hordered : observation.p50DeliveryLatencyMs ≤ observation.p95DeliveryLatencyMs ∧
      observation.p95DeliveryLatencyMs ≤ observation.maxDeliveryLatencyMs := by
    rw [h50, h95, hmax]
    exact ⟨WithBotTop.coe_le_coe.2 hlow, WithBotTop.coe_le_coe.2 hhigh⟩
  simp only [validateTimeAuthorityObservation, latencyOrderError, ne_eq, seq_eq_error,
    require_eq_error, require_eq_ok]
  rintro (⟨-, h⟩ | ⟨-, ⟨h, -⟩ | ⟨-, -, h⟩⟩)
  · simp at h
  · exact h hordered
  · simp at h

end

/-! ## Main result -/

/-- The published latencies of a histogram with events are finite, not negative and ordered, and
the validator never rejects an observation of the harness for their order. -/
theorem publishedLatencies_ordered (py : PyOps) (policy : TimeAuthorityPolicy) :
    (∀ (histogram : HistogramSample) latencies evaluation, 0 < histogram.count →
      latencyPolicy py histogram policy = .ok (latencies, evaluation) →
      ∃ p50 p95 maximum : ℚ, latencies = (↑p50, ↑p95, ↑maximum) ∧
        0 ≤ p50 ∧ p50 ≤ p95 ∧ p95 ≤ maximum) ∧
    ∀ samples runId domainId sourceId windowStartNs windowEndNs observation,
      evaluateTimeAuthority py policy samples runId domainId sourceId windowStartNs windowEndNs =
        .ok observation →
      ∀ evidence digests, validateTimeAuthorityObservation digests (observation.document evidence) ≠
        .error latencyOrderError := by
  refine ⟨fun histogram latencies evaluation hcount h => ordered_of_latencyPolicy hcount h, ?_⟩
  intro samples runId domainId sourceId windowStartNs windowEndNs observation h evidence digests
  exact validateTimeAuthorityObservation_ne _ (ordered_of_evaluate h) digests

/-- Two latencies in the open bucket, without extrema. -/
def overflowLatencies : HistogramSample where
  name := "robotics.time_authority.delivery_latency"
  unit := "ms"
  observedAtNs := 50
  count := 6
  bucketCounts := [3, 1, 2]
  explicitBounds := [1, 4]
  attributes := LatencyContext.attributes ⟨"run", "camera", "clock", 20, 50⟩
  temporality := .delta
  startTimeNs := 20
  sum := none
  min := none
  max := none
  checked := by decide +kernel

def exampleLatencyPolicy : TimeAuthorityPolicy where
  timeAuthorityMinSamples := 50
  maxTimeAuthorityDeliveryLatencyP50Ms := 3
  maxTimeAuthorityDeliveryLatencyP95Ms := 5
  maxTimeAuthorityDeliveryLatencyMs := 7
  minSamples := by decide
  p50_nonneg := by decide +kernel
  p50_le_p95 := by decide +kernel
  p95_le_max := by decide +kernel

theorem publishedLatencies_ordered_overflowLatencies :
    (∃ latencies evaluation,
      latencyPolicy .exact overflowLatencies exampleLatencyPolicy = .ok (latencies, evaluation) ∧
      ∃ p50 p95 maximum : ℚ, latencies = (↑p50, ↑p95, ↑maximum) ∧
        0 ≤ p50 ∧ p50 ≤ p95 ∧ p95 ≤ maximum) ∧
    ∃ observation, evaluateTimeAuthority .exact exampleLatencyPolicy
        [.histogram overflowLatencies] "run" "camera" "clock" 20 50 = .ok observation ∧
      validateTimeAuthorityObservation ["digest"] (observation.document "digest") ≠
        .error latencyOrderError := by
  obtain ⟨⟨latencies, evaluation⟩, hok, -⟩ := exists_ok_of_any (by decide +kernel :
    (latencyPolicy .exact overflowLatencies exampleLatencyPolicy).toOption.any
      (fun _ => true) = true)
  obtain ⟨observation, hobserved, -⟩ := exists_ok_of_any (by decide +kernel :
    (evaluateTimeAuthority .exact exampleLatencyPolicy [.histogram overflowLatencies]
      "run" "camera" "clock" 20 50).toOption.any (fun _ => true) = true)
  have h := publishedLatencies_ordered .exact exampleLatencyPolicy
  exact ⟨⟨latencies, evaluation, hok, h.1 overflowLatencies _ _ (by decide) hok⟩,
    observation, hobserved, h.2 _ _ _ _ _ _ _ hobserved _ _⟩

end RoboticsRuntime.Harness
