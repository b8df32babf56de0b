import Mathlib.Algebra.BigOperators.Ring.Finset
import Mathlib.Algebra.Order.BigOperators.Group.List
import Mathlib.Data.Rat.Floor
import Mathlib.Tactic.Linarith
import Mathlib.Tactic.FieldSimp
import RoboticsRuntime.Harness.Metrics.HistogramEstimates
import RoboticsRuntime.Theory.Rounding

/-!
# A histogram estimate contains the statistic of the recorded events

A histogram records a list of events when its buckets count the events between its bounds and
each of its sum, minimum and maximum is absent or that of the events. The events of a bucket are
those that `bisect_left` puts there, so the bucket of a rank is the bucket of the event of that
rank, whatever the extrema and the declared domain clip from it.
-/

namespace RoboticsRuntime.Harness
open Theory

/-! ## The buckets of events -/

/-- A bucket is open below and closed above, without a lower end at the first bucket and without
an upper end at the last one. -/
def InBucket (bounds : List ℚ) (i : ℕ) (x : ℚ) : Prop :=
  (∀ b ∈ bounds[i - 1]?, 0 < i → b < x) ∧ ∀ b ∈ bounds[i]?, x ≤ b

instance (bounds : List ℚ) (i : ℕ) (x : ℚ) : Decidable (InBucket bounds i x) :=
  inferInstanceAs (Decidable (_ ∧ _))

/-- The number of events in each bucket. -/
def bucketSizes (bounds events : List ℚ) : List ℤ :=
  (List.range (bounds.length + 1)).map fun i => (events.countP (InBucket bounds i) : ℤ)

theorem inBucket_bisectLeft (bounds : List ℚ) (x : ℚ) :
    InBucket bounds (bisectLeft bounds x) x := by
  constructor
  · intro b hb hpos
    obtain ⟨hlt, rfl⟩ := List.getElem?_eq_some_iff.1 hb
    have hbefore : bisectLeft bounds x - 1 < bounds.findIdx (x ≤ ·) :=
      Nat.sub_lt hpos Nat.one_pos
    simpa using List.not_of_lt_findIdx hbefore
  · intro b hb
    obtain ⟨hlt, rfl⟩ := List.getElem?_eq_some_iff.1 hb
    exact of_decide_eq_true (@List.findIdx_getElem ℚ (x ≤ ·) bounds hlt)

theorem InBucket.le {bounds : List ℚ} (hb : bounds.Pairwise (· < ·)) (hi : i ≤ bounds.length)
    (h : InBucket bounds i x) (h' : InBucket bounds j x) : i ≤ j := by
  by_contra hlt
  have hj : j < bounds.length := by omega
  have hi' : i - 1 < bounds.length := by omega
  have hupper : x ≤ bounds[j] := h'.2 _ (List.getElem?_eq_getElem hj)
  have hlower : bounds[i - 1] < x := h.1 _ (List.getElem?_eq_getElem hi') (by omega)
  rcases eq_or_lt_of_le (show j ≤ i - 1 by omega) with rfl | hji
  · exact absurd hlower (not_lt.2 hupper)
  · have := List.pairwise_iff_getElem.1 hb _ _ hj hi' hji
    exact absurd (hupper.trans_lt (this.trans hlower)) (lt_irrefl x)

/-- Between increasing bounds an event is in one bucket, where `bisect_left` puts it. -/
theorem inBucket_iff {bounds : List ℚ} (hb : bounds.Pairwise (· < ·)) (hi : i ≤ bounds.length)
    (x : ℚ) : InBucket bounds i x ↔ bisectLeft bounds x = i := by
  constructor
  · intro h
    have hx := inBucket_bisectLeft bounds x
    exact le_antisymm (hx.le hb List.findIdx_le_length h) (h.le hb hi hx)
  · rintro rfl
    exact inBucket_bisectLeft bounds x

theorem bisectLeft_mono (bounds : List ℚ) : Monotone (bisectLeft bounds) := by
  intro x y hxy
  apply List.findIdx_le_findIdx
  intro b _ hb
  simp only [decide_eq_true_eq] at hb ⊢
  exact hxy.trans hb

@[simp] theorem bucketSizes_length (bounds events : List ℚ) :
    (bucketSizes bounds events).length = bounds.length + 1 := by
  simp [bucketSizes]

theorem bucketSizes_nonneg {bounds events : List ℚ} : ∀ c ∈ bucketSizes bounds events, 0 ≤ c := by
  intro c hc
  obtain ⟨i, -, rfl⟩ := List.mem_map.1 hc
  exact Int.natCast_nonneg _

/-- The sizes of the first buckets add up to the number of events that are in them. -/
theorem sum_take_bucketSizes {bounds : List ℚ} (hb : bounds.Pairwise (· < ·)) (events : List ℚ)
    (hk : k ≤ bounds.length + 1) : ((bucketSizes bounds events).take k).sum =
      (events.countP (bisectLeft bounds · < k) : ℤ) := by
  rw [← sum_class_sizes, bucketSizes, ← List.map_take, List.take_range, min_eq_left hk,
    Nat.cast_list_sum, List.map_map]
  congr 1
  apply List.map_congr_left
  intro i hi
  have hle : i ≤ bounds.length := Nat.lt_succ_iff.1 ((List.mem_range.1 hi).trans_le hk)
  simp only [Function.comp_apply, inBucket_iff hb hle]

theorem bucketSizes_sum {bounds : List ℚ} (hb : bounds.Pairwise (· < ·)) (events : List ℚ) :
    (bucketSizes bounds events).sum = events.length := by
  have h := sum_take_bucketSizes hb events le_rfl
  rw [List.take_of_length_le (by simp)] at h
  rw [h, Nat.cast_inj, List.countP_eq_length]
  intro x _
  exact decide_eq_true (Nat.lt_succ_of_le List.findIdx_le_length)

/-! ## Recorded events -/

/-- A histogram records events. -/
structure Records (histogram : HistogramSample) (events : List ℚ) : Prop where
  bucketCounts : histogram.bucketCounts = bucketSizes histogram.explicitBounds events
  sum_eq : ∀ s ∈ histogram.sum, s = events.sum
  min_eq : ∀ m ∈ histogram.min, events.min? = some m
  max_eq : ∀ m ∈ histogram.max, events.max? = some m

/-- The statistic of the events that an aggregation asks for. A quantile is the inverse of the
empirical distribution function. -/
def statistic (aggregation : Aggregation) (events : List ℚ) : Option ℚ :=
  match aggregation with
  | .min => events.min?
  | .max => events.max?
  | .mean => if events = [] then none else some (events.sum / events.length)
  | .count => some events.length
  | .p50 => orderStatistic events ⌈(1 / 2 * events.length : ℚ)⌉₊
  | .p95 => orderStatistic events ⌈(95 / 100 * events.length : ℚ)⌉₊
  | .p99 => orderStatistic events ⌈(99 / 100 * events.length : ℚ)⌉₊

/-- The relation an operator asserts. -/
def Operator.Holds : Operator → ℚ → ℚ → Prop
  | .lt, value, threshold => value < threshold
  | .lte, value, threshold => value ≤ threshold
  | .gt, value, threshold => threshold < value
  | .gte, value, threshold => threshold ≤ value
  | .eq, value, threshold => value = threshold

namespace Records
variable {histogram : HistogramSample} {events : List ℚ}

theorem count (h : Records histogram events) : histogram.count = events.length := by
  rw [← histogram.bucketCounts_sum, h.bucketCounts,
    bucketSizes_sum histogram.explicitBounds_increasing]

theorem min_le (h : Records histogram events) (hm : m ∈ histogram.min) :
    m ∈ events ∧ ∀ x ∈ events, m ≤ x :=
  List.min?_eq_some_iff.1 (h.min_eq m hm)

theorem le_max (h : Records histogram events) (hm : m ∈ histogram.max) :
    m ∈ events ∧ ∀ x ∈ events, x ≤ m :=
  List.max?_eq_some_iff.1 (h.max_eq m hm)

end Records

/-- Any events are recorded over any increasing bounds, with or without their sum and extrema. -/
theorem exists_records {bounds : List ℚ} (hb : bounds.IsChain (· < ·)) (events : List ℚ)
    (withSum withMin withMax : Bool) :
    ∃ histogram, Records histogram events ∧ histogram.explicitBounds = bounds ∧
      histogram.sum = (if withSum then some events.sum else none) ∧
      histogram.min = (if withMin then events.min? else none) ∧
      histogram.max = (if withMax then events.max? else none) := by
  let point : HistogramFields :=
    { name := "", unit := "", observedAtNs := 0, count := events.length
      bucketCounts := bucketSizes bounds events, explicitBounds := bounds, attributes := []
      temporality := .delta, startTimeNs := 0
      sum := if withSum then some events.sum else none
      min := if withMin then events.min? else none
      max := if withMax then events.max? else none }
  have hordered : ∀ low ∈ point.min, ∀ high ∈ point.max, low ≤ high := by
    intro low hlow high hhigh
    have hlow := (Option.ite_none_right_eq_some.1 hlow).2
    have hhigh := (Option.ite_none_right_eq_some.1 hhigh).2
    exact (List.min?_eq_some_iff.1 hlow).2 _ (List.max?_eq_some_iff.1 hhigh).1
  have hchecked : point.check = .ok () :=
    HistogramFields.check_eq_ok.2 ⟨⟨le_rfl, le_rfl⟩, fun h => absurd rfl h,
      ⟨Int.natCast_nonneg _, bucketSizes_nonneg⟩, bucketSizes_length bounds events,
      bucketSizes_sum (List.isChain_iff_pairwise.1 hb) events, hb, hordered⟩
  refine ⟨⟨point, hchecked⟩, ⟨rfl, ?_, ?_, ?_⟩, rfl, rfl, rfl, rfl⟩
  · intro s hs
    exact (Option.some.inj (Option.ite_none_right_eq_some.1 hs).2).symm
  · intro m hm
    exact (Option.ite_none_right_eq_some.1 hm).2
  · intro m hm
    exact (Option.ite_none_right_eq_some.1 hm).2

/-! ## The bucket of a rank -/

/-- The search for a rank stops at the bucket in which the cumulated counts reach it. -/
theorem rankBucket_spec (counts : List ℤ) (hlo : c < rank) (hhi : rank ≤ c + counts.sum) :
    ∃ k < counts.length, rankBucket rank c i counts = .ok (i + k) ∧
      c + (counts.take k).sum < rank ∧ rank ≤ c + (counts.take (k + 1)).sum := by
  induction counts generalizing c i with
  | nil => simp at hhi; omega
  | cons count counts ih =>
    rw [List.sum_cons] at hhi
    unfold rankBucket
    split
    · next hle => exact ⟨0, by simp, rfl, by simpa using hlo, by simpa using hle⟩
    · next hgt =>
      obtain ⟨k, hk, hok, hbelow, hreach⟩ :=
        ih (i := i + 1) (not_le.1 hgt) (by rwa [add_assoc])
      refine ⟨k + 1, Nat.succ_lt_succ hk, ?_, ?_, ?_⟩
      · rw [hok, Nat.add_assoc, Nat.add_comm 1]
      · rwa [List.take_succ_cons, List.sum_cons, ← add_assoc]
      · rwa [List.take_succ_cons, List.sum_cons, ← add_assoc]

/-- The bucket of a rank is the bucket of the event of that rank. -/
theorem Records.rankBucket_eq {histogram : HistogramSample} {events : List ℚ}
    (h : Records histogram events) {r : ℕ} {v : ℚ} (hv : HasRank events r v)
    (h1 : 1 ≤ r) (h2 : r ≤ events.length) :
    rankBucket r 0 0 histogram.bucketCounts = .ok (bisectLeft histogram.explicitBounds v) := by
  have hb := histogram.explicitBounds_increasing
  rw [h.bucketCounts]
  obtain ⟨k, hk, hok, hbelow, hreach⟩ :=
    rankBucket_spec (bucketSizes histogram.explicitBounds events) (i := 0)
      (show (0 : ℤ) < r by omega) (by rw [bucketSizes_sum hb]; omega)
  rw [bucketSizes_length] at hk
  rw [zero_add, sum_take_bucketSizes hb _ (by omega)] at hbelow hreach
  have hreach' : r ≤ events.countP (bisectLeft histogram.explicitBounds · ≤ k) := by
    simpa only [Nat.lt_succ_iff, Nat.cast_le] using hreach
  rw [hok, zero_add, hv.class_eq (bisectLeft_mono _) (Nat.cast_lt.1 hbelow) hreach']

/-- The rank of a quantile is the least integer from the fraction of the count on. -/
theorem quantileRank_eq_ceil (n a : ℕ) {b : ℕ} (hb : 0 < b) :
    quantileRank n (a, b) = ⌈(a / b * n : ℚ)⌉₊ := by
  have hdiv : (a / b * n : ℚ) = ((n * a : ℤ) : ℚ) / (b : ℕ) := by push_cast; ring
  rw [Int.natCast_ceil_eq_ceil (by positivity), hdiv, ceil_div_eq _ hb, quantileRank]

/-! ## Intervals -/

theorem Estimate.make_of_contained {lower upper : ExtendedFloat} {exclusive : Bool} {v : ℚ}
    (hl : lower ≤ v) (hne : exclusive → lower ≠ v) (hu : v ≤ upper) :
    ∃ estimate, Estimate.make lower upper exclusive = .ok estimate ∧ estimate.Contains v := by
  have h : ¬ (upper < lower ∨ exclusive ∧ lower = upper) := by
    rintro (hlt | ⟨hx, rfl⟩)
    · exact absurd (hl.trans hu) (not_le.2 hlt)
    · exact hne hx (le_antisymm hl hu)
  exact ⟨⟨lower, upper, exclusive, h⟩, dif_neg h, hl, hne, hu⟩

theorem Estimate.exact_contains (v : ℚ) :
    ∃ estimate, Estimate.exact v = .ok estimate ∧ estimate.Contains v :=
  make_of_contained le_rfl (by simp) le_rfl

theorem InBucket.bucketLower_lt (h : InBucket bounds i v) (hi : 0 < i) :
    bucketLower bounds i < v := by
  cases i with
  | zero => omega
  | succ i =>
    cases hb : bounds[i]? with
    | none =>
      simp only [bucketLower, hb]
      exact WithBot.bot_lt_coe _
    | some b =>
      simp only [bucketLower, hb]
      exact WithBotTop.coe_lt_coe.2 (h.1 b hb hi)

theorem InBucket.le_bucketUpper (h : InBucket bounds i v) : v ≤ bucketUpper bounds i := by
  unfold bucketUpper
  cases hb : bounds[i]? with
  | none => exact WithBot.coe_le_coe.2 le_top
  | some b => exact WithBotTop.coe_le_coe.2 (h.2 b hb)

/-- The estimate of a bucket contains every event of the bucket. -/
theorem Records.bucketEstimate_contains {histogram : HistogramSample} {events : List ℚ}
    (h : Records histogram events) (hv : v ∈ events)
    (hi : InBucket histogram.explicitBounds i v) (hnn : nonnegative = true → 0 ≤ v) :
    ∃ estimate, bucketEstimate histogram i nonnegative = .ok estimate ∧ estimate.Contains v := by
  have hlower : bucketLower histogram.explicitBounds i ≤ v := by
    rcases Nat.eq_zero_or_pos i with rfl | hpos
    · exact bot_le
    · exact (hi.bucketLower_lt hpos).le
  have hclamped : (if nonnegative then max 0 (bucketLower histogram.explicitBounds i)
      else bucketLower histogram.explicitBounds i) ≤ v := by
    split
    · next hn => exact max_le (WithBotTop.coe_le_coe.2 (hnn hn)) hlower
    · exact hlower
  apply Estimate.make_of_contained
  · split
    · next m hm => exact max_le (WithBotTop.coe_le_coe.2 ((h.min_le hm).2 v hv)) hclamped
    · exact hclamped
  · intro hx heq
    simp only [ne_eq, Bool.and_eq_true, decide_eq_true_eq] at hx
    exact absurd (hx.2 ▸ heq) (hi.bucketLower_lt (Nat.pos_of_ne_zero hx.1)).ne
  · split
    · next m hm => exact le_min (WithBotTop.coe_le_coe.2 ((h.le_max hm).2 v hv)) hi.le_bucketUpper
    · exact hi.le_bucketUpper

theorem Records.rankedEstimate_contains {histogram : HistogramSample} {events : List ℚ}
    (h : Records histogram events) (hv : v ∈ events) {r : ℕ} (hr : HasRank events r v)
    (h1 : 1 ≤ r) (h2 : r ≤ events.length) (hnn : nonnegative = true → 0 ≤ v) :
    ∃ estimate, rankedEstimate histogram r nonnegative = .ok estimate ∧ estimate.Contains v := by
  obtain ⟨estimate, hok, hc⟩ :=
    h.bucketEstimate_contains hv (inBucket_bisectLeft _ v) hnn
  exact ⟨estimate, bind_eq_ok.2 ⟨_, h.rankBucket_eq hr h1 h2, hok⟩, hc⟩

/-! ## The extrema -/

theorem mem_occupied {counts : List ℤ} : i ∈ occupied counts ↔ ∃ c, counts[i]? = some c ∧ c ≠ 0 := by
  simp only [occupied, List.mem_map, List.mem_filter, List.mem_zipIdx_iff_getElem?,
    decide_eq_true_eq]
  constructor
  · rintro ⟨⟨c, j⟩, ⟨hc, hne⟩, rfl⟩
    exact ⟨c, hc, hne⟩
  · rintro ⟨c, hc, hne⟩
    exact ⟨(c, i), ⟨hc, hne⟩, rfl⟩

theorem occupied_increasing (counts : List ℤ) : (occupied counts).Pairwise (· < ·) := by
  have h : ((counts.zipIdx).map (·.2)).Pairwise (· < ·) := by
    rw [show (fun e : ℤ × ℕ => e.2) = Prod.snd from rfl, List.zipIdx_map_snd]
    exact List.pairwise_lt_range' 1
  exact h.sublist (List.filter_sublist.map _)

/-- The occupied buckets are those of the events. -/
theorem mem_occupied_bucketSizes {bounds events : List ℚ} (hb : bounds.Pairwise (· < ·)) :
    i ∈ occupied (bucketSizes bounds events) ↔ ∃ x ∈ events, bisectLeft bounds x = i := by
  rw [mem_occupied]
  constructor
  · rintro ⟨c, hc, hne⟩
    obtain ⟨hi, rfl⟩ := List.getElem?_eq_some_iff.1 hc
    rw [bucketSizes_length] at hi
    simp only [bucketSizes, List.getElem_map, List.getElem_range, ne_eq, Nat.cast_eq_zero,
      List.countP_eq_zero, decide_eq_true_eq, not_forall, not_not] at hne
    obtain ⟨x, hx, hin⟩ := hne
    exact ⟨x, hx, (inBucket_iff hb (Nat.le_of_lt_succ hi) x).1 hin⟩
  · rintro ⟨x, hx, rfl⟩
    have hi : bisectLeft bounds x < (bucketSizes bounds events).length := by
      rw [bucketSizes_length]
      exact Nat.lt_succ_of_le List.findIdx_le_length
    refine ⟨_, List.getElem?_eq_getElem hi, ?_⟩
    simp only [bucketSizes, List.getElem_map, List.getElem_range, ne_eq, Nat.cast_eq_zero,
      List.countP_eq_zero, decide_eq_true_eq, not_forall, not_not]
    exact ⟨x, hx, inBucket_bisectLeft bounds x⟩

namespace Records
variable {histogram : HistogramSample} {events : List ℚ}

/-- Recorded extrema lie in the first and in the last occupied bucket. -/
theorem validateExtrema_ok (h : Records histogram events) : validateExtrema histogram = .ok () := by
  have hb := histogram.explicitBounds_increasing
  have hinc := occupied_increasing (bucketSizes histogram.explicitBounds events)
  simp only [validateExtrema, seq_eq_ok, require_eq_ok, h.bucketCounts]
  constructor
  · intro m hm
    obtain ⟨hmem, hle⟩ := h.min_le hm
    symm
    apply head?_eq_of_le hinc ((mem_occupied_bucketSizes hb).2 ⟨m, hmem, rfl⟩)
    intro i hi
    obtain ⟨x, hx, rfl⟩ := (mem_occupied_bucketSizes hb).1 hi
    exact bisectLeft_mono _ (hle x hx)
  · intro m hm
    obtain ⟨hmem, hle⟩ := h.le_max hm
    symm
    apply getLast?_eq_of_le hinc ((mem_occupied_bucketSizes hb).2 ⟨m, hmem, rfl⟩)
    intro i hi
    obtain ⟨x, hx, rfl⟩ := (mem_occupied_bucketSizes hb).1 hi
    exact bisectLeft_mono _ (hle x hx)

/-- Events that are not negative leave no trace of a negative one. -/
theorem hasNegativeEvent_eq_false (h : Records histogram events) (hnn : ∀ x ∈ events, 0 ≤ x) :
    hasNegativeEvent histogram = false := by
  simp only [hasNegativeEvent, Bool.or_eq_false_iff, Option.any_eq_false, List.any_eq_false,
    decide_eq_true_eq, decide_eq_false_iff_not, Bool.and_eq_true, not_lt]
  refine ⟨⟨fun m hm => hnn m (h.min_le hm).1, fun s hs => ?_⟩, fun entry he hneg => ?_⟩
  · rw [h.sum_eq s hs]
    exact List.sum_nonneg hnn
  · obtain ⟨i, hi⟩ := List.mem_iff_getElem?.1 he
    obtain ⟨hupper, hcount⟩ := List.getElem?_zip_eq_some.1 hi
    rw [h.bucketCounts] at hcount
    have hocc : i ∈ occupied (bucketSizes histogram.explicitBounds events) :=
      mem_occupied.2 ⟨_, hcount, hneg.2.ne'⟩
    obtain ⟨x, hx, hbucket⟩ := (mem_occupied_bucketSizes histogram.explicitBounds_increasing).1 hocc
    have hin : InBucket histogram.explicitBounds i x := hbucket ▸ inBucket_bisectLeft _ x
    exact absurd (hnn x hx) (not_le.2 ((hin.2 _ hupper).trans_lt hneg.1))

/-! ## The estimate of a statistic -/

/-- The estimate of a quantile contains it. -/
theorem quantile_contains (h : Records histogram events) (hne : events ≠ [])
    (hnn : nonnegative = true → ∀ x ∈ events, 0 ≤ x) {a b : ℕ} (ha : 0 < a) (hab : a ≤ b) :
    ∃ estimate value, rankedEstimate histogram (quantileRank histogram.count (a, b)) nonnegative
        = .ok estimate ∧
      orderStatistic events ⌈(a / b * events.length : ℚ)⌉₊ = some value ∧
      estimate.Contains value := by
  have hlen : (0 : ℚ) < events.length := Nat.cast_pos.2 (List.length_pos_iff.2 hne)
  have ha' : (0 : ℚ) < a := Nat.cast_pos.2 ha
  have hb' : (0 : ℚ) < b := Nat.cast_pos.2 (ha.trans_le hab)
  have h1 : 1 ≤ ⌈(a / b * events.length : ℚ)⌉₊ := Nat.ceil_pos.2 (by positivity)
  have h2 : ⌈(a / b * events.length : ℚ)⌉₊ ≤ events.length := by
    apply Nat.ceil_le.2
    have hle : (a / b : ℚ) ≤ 1 := (div_le_one hb').2 (Nat.cast_le.2 hab)
    exact mul_le_of_le_one_left hlen.le hle
  obtain ⟨value, hvalue, hrank⟩ := orderStatistic_hasRank h1 h2
  have hmem := mem_of_orderStatistic hvalue
  rw [h.count, quantileRank_eq_ceil _ _ (ha.trans_le hab)]
  obtain ⟨estimate, hok, hc⟩ :=
    h.rankedEstimate_contains hmem hrank h1 h2 fun hn => hnn hn value hmem
  exact ⟨estimate, value, hok, hvalue, hc⟩

/-- The estimate of an extremum or a quantile contains it. -/
theorem rankEstimate_contains (h : Records histogram events) (hne : events ≠ [])
    (hnn : nonnegative = true → ∀ x ∈ events, 0 ≤ x) (aggregation : Aggregation)
    (hcount : aggregation ≠ .count) (hmean : aggregation ≠ .mean) :
    ∃ estimate value, rankEstimate histogram aggregation nonnegative = .ok estimate ∧
      statistic aggregation events = some value ∧ estimate.Contains value := by
  have hpos : 1 ≤ events.length := List.length_pos_iff.2 hne
  cases aggregation with
  | count => exact absurd rfl hcount
  | mean => exact absurd rfl hmean
  | min =>
    cases hm : histogram.min with
    | some m =>
      obtain ⟨estimate, hok, hc⟩ := Estimate.exact_contains m
      exact ⟨estimate, m, by simp only [rankEstimate, hm, hok], h.min_eq m hm, hc⟩
    | none =>
      obtain ⟨m, hmin⟩ := Option.isSome_iff_exists.1 (List.isSome_min?_of_ne_nil hne)
      obtain ⟨hmem, hle⟩ := List.min?_eq_some_iff.1 hmin
      obtain ⟨estimate, hok, hc⟩ := h.rankedEstimate_contains hmem (hasRank_one hmem hle)
        le_rfl hpos fun hn => hnn hn m hmem
      rw [Nat.cast_one] at hok
      exact ⟨estimate, m, by simpa only [rankEstimate, hm] using hok, hmin, hc⟩
  | max =>
    cases hm : histogram.max with
    | some m =>
      obtain ⟨estimate, hok, hc⟩ := Estimate.exact_contains m
      exact ⟨estimate, m, by simp only [rankEstimate, hm, hok], h.max_eq m hm, hc⟩
    | none =>
      obtain ⟨m, hmax⟩ := Option.isSome_iff_exists.1 (List.isSome_max?_of_ne_nil hne)
      obtain ⟨hmem, hle⟩ := List.max?_eq_some_iff.1 hmax
      obtain ⟨estimate, hok, hc⟩ := h.rankedEstimate_contains hmem (hasRank_length hmem hle)
        hpos le_rfl fun hn => hnn hn m hmem
      rw [← h.count] at hok
      exact ⟨estimate, m, by simpa only [rankEstimate, hm] using hok, hmax, hc⟩
  | p50 =>
    have h50 := h.quantile_contains hne hnn (show 0 < 1 by omega) (show 1 ≤ 2 by omega)
    rw [Nat.cast_one, Nat.cast_ofNat] at h50
    exact h50
  | p95 =>
    have h95 := h.quantile_contains hne hnn (show 0 < 19 by omega) (show 19 ≤ 20 by omega)
    rw [show ((19 : ℕ) / (20 : ℕ) : ℚ) = 95 / 100 by norm_num] at h95
    exact h95
  | p99 =>
    have h99 := h.quantile_contains hne hnn (show 0 < 99 by omega) (show 99 ≤ 100 by omega)
    rw [Nat.cast_ofNat, Nat.cast_ofNat] at h99
    exact h99

end Records

/-! ## Comparison with a threshold -/

theorem Estimate.Contains.lt_of_above {estimate : Estimate} {value : ℚ}
    (hc : estimate.Contains value) {threshold : ℚ} (h : (threshold : ExtendedFloat) < estimate.lower ∨
      estimate.lowerExclusive = true ∧ estimate.lower = threshold) : threshold < value := by
  obtain ⟨hlower, hne, -⟩ := hc
  have hlt : (threshold : ExtendedFloat) < value := by
    rcases h with h | ⟨hx, he⟩
    · exact h.trans_le hlower
    · exact he ▸ lt_of_le_of_ne hlower (hne hx)
  exact WithBotTop.coe_lt_coe.1 hlt

/-- The two tests of an operator decide the relation for every value of the interval. -/
theorem Estimate.Contains.outcomes_sound {estimate : Estimate} {value : ℚ}
    (hc : estimate.Contains value) (operator : Operator) (threshold : ℚ) :
    ((estimate.outcomes threshold operator).1 = true → operator.Holds value threshold) ∧
      ((estimate.outcomes threshold operator).2 = true → ¬ operator.Holds value threshold) := by
  have habove : _ → threshold < value := hc.lt_of_above
  obtain ⟨hlower, -, hupper⟩ := hc
  have hbelow : estimate.upper < threshold → value < threshold := fun h =>
    WithBotTop.coe_lt_coe.1 (hupper.trans_lt h)
  have hle : estimate.upper ≤ threshold → value ≤ threshold := fun h =>
    WithBotTop.coe_le_coe.1 (hupper.trans h)
  have hge : (threshold : ExtendedFloat) ≤ estimate.lower → threshold ≤ value := fun h =>
    WithBotTop.coe_le_coe.1 (h.trans hlower)
  cases operator <;>
    simp only [outcomes, Operator.Holds, Bool.or_eq_true, Bool.and_eq_true, decide_eq_true_eq,
      not_lt, not_le]
  · exact ⟨hbelow, hge⟩
  · exact ⟨hle, habove⟩
  · exact ⟨habove, hle⟩
  · exact ⟨hge, hbelow⟩
  · refine ⟨fun ⟨heq, hu⟩ => ?_, ?_⟩
    · exact le_antisymm (hle hu.le) (hge (heq.trans hu).ge)
    · rintro (h | h)
      · exact (habove h).ne'
      · exact (hbelow h).ne

theorem Estimate.compare_eq (estimate : Estimate) (operator : Operator) (threshold : ℚ) :
    estimate.compare operator threshold =
      .ok (if (estimate.outcomes threshold operator).1 then .passed
        else if (estimate.outcomes threshold operator).2 then .failed else .skipped) := by
  have hfinite : (threshold : ExtendedFloat) ≠ ⊥ ∧ (threshold : ExtendedFloat) ≠ ⊤ :=
    ⟨WithBotTop.coe_ne_bot threshold, WithBotTop.coe_ne_top threshold⟩
  exact seq_eq_ok.2 ⟨require_of hfinite, rfl⟩

/-- A comparison of an interval with a finite threshold passes or fails only when the relation
holds or fails for the value in the interval. -/
theorem Estimate.Contains.compare_sound {estimate : Estimate} {value : ℚ}
    (hc : estimate.Contains value) (operator : Operator) (threshold : ℚ) :
    ∃ comparison, estimate.compare operator threshold = .ok comparison ∧
      (comparison = .passed → operator.Holds value threshold) ∧
      (comparison = .failed → ¬ operator.Holds value threshold) := by
  obtain ⟨hpass, hfail⟩ := hc.outcomes_sound operator threshold
  refine ⟨_, estimate.compare_eq operator threshold, ?_, ?_⟩
  · intro h
    split at h
    · next hp => exact hpass hp
    · split at h <;> cases h
  · intro h
    split at h
    · cases h
    · split at h
      · next hf => exact hfail hf
      · cases h

/-! ## Main result -/

/-- On a histogram that passes its checks an aggregation is the count, the mean or an event. -/
theorem estimateStatistic_eq {histogram : HistogramSample} (hcount : histogram.count ≠ 0)
    (hextrema : validateExtrema histogram = .ok ())
    (hnegative : ¬ (nonnegative = true ∧ hasNegativeEvent histogram = true)) :
    estimateStatistic histogram aggregation nonnegative =
      if aggregation = .count then Estimate.exact histogram.count
      else if aggregation = .mean then do
        let sum ← demand histogram.sum (.input "histogram mean requires a recorded sum")
        Estimate.exact (sum / histogram.count)
      else rankEstimate histogram aggregation nonnegative := by
  unfold estimateStatistic
  rw [if_pos hcount, hextrema, require_of hcount, require_of hnegative]
  rfl

/-- A verdict on a statistic of a histogram is a verdict on the statistic of the events that the
histogram records. -/
theorem histogramStatistic_sound {histogram : HistogramSample} {events : List ℚ}
    (h : Records histogram events) (hne : events ≠ []) (aggregation : Aggregation)
    (hmean : aggregation = .mean → histogram.sum ≠ none) (nonnegative : Bool)
    (hnn : nonnegative = true → ∀ x ∈ events, 0 ≤ x) :
    ∃ estimate value, histogramStatistic histogram aggregation nonnegative = .ok estimate ∧
      statistic aggregation events = some value ∧ estimate.Contains value ∧
      ∀ operator (threshold : ℚ), ∃ comparison,
        estimate.compare operator threshold = .ok comparison ∧
        (comparison = .passed → operator.Holds value threshold) ∧
        (comparison = .failed → ¬ operator.Holds value threshold) := by
  have hcount : histogram.count ≠ 0 := by
    rw [h.count]
    exact Nat.cast_ne_zero.2 (List.length_pos_iff.2 hne).ne'
  suffices hs : ∃ estimate value, estimateStatistic histogram aggregation nonnegative = .ok estimate ∧
      statistic aggregation events = some value ∧ estimate.Contains value by
    obtain ⟨estimate, value, hok, hvalue, hc⟩ := hs
    refine ⟨estimate, value, ?_, hvalue, hc, hc.compare_sound⟩
    simp only [histogramStatistic, seq_eq_ok, require_eq_ok, mapError_eq_ok, hok, and_true]
    exact ⟨fun hz => hcount hz.2, fun hm => hmean hm.1 hm.2⟩
  have hnegative : ¬ (nonnegative = true ∧ hasNegativeEvent histogram = true) := fun hn =>
    absurd hn.2 (by simp [h.hasNegativeEvent_eq_false (hnn hn.1)])
  rw [estimateStatistic_eq hcount h.validateExtrema_ok hnegative]
  split
  · next hc =>
    obtain ⟨estimate, hok, hcontains⟩ := Estimate.exact_contains histogram.count
    refine ⟨estimate, histogram.count, hok, ?_, hcontains⟩
    rw [hc, h.count, Int.cast_natCast]
    rfl
  · next hc =>
    split
    · next hm =>
      obtain ⟨s, hs⟩ := Option.ne_none_iff_exists'.1 (hmean hm)
      obtain ⟨estimate, hok, hcontains⟩ := Estimate.exact_contains (s / histogram.count)
      refine ⟨estimate, _, bind_eq_ok.2 ⟨s, demand_eq_ok.2 hs, hok⟩, ?_, hcontains⟩
      rw [hm, statistic, if_neg hne, h.count, h.sum_eq s hs, Int.cast_natCast]
    · next hm => exact h.rankEstimate_contains hne hnn aggregation hc hm

/-- Three latencies over two bounds, without a recorded maximum. -/
def recordedLatencies : HistogramSample where
  name := "latency"
  unit := "ms"
  observedAtNs := 0
  count := 3
  bucketCounts := [1, 1, 1]
  explicitBounds := [1, 5 / 2]
  attributes := []
  temporality := .delta
  startTimeNs := 0
  sum := some 6
  min := some 1
  max := none
  checked := by decide +kernel

theorem records_recordedLatencies : Records recordedLatencies [3, 1, 2] where
  bucketCounts := by decide +kernel
  sum_eq := by decide +kernel
  min_eq := by decide +kernel
  max_eq := by decide +kernel

theorem histogramStatistic_sound_recordedLatencies :
    ∃ estimate value, histogramStatistic recordedLatencies .p95 true = .ok estimate ∧
      statistic .p95 [3, 1, 2] = some value ∧ estimate.Contains value ∧
      ∀ operator (threshold : ℚ), ∃ comparison,
        estimate.compare operator threshold = .ok comparison ∧
        (comparison = .passed → operator.Holds value threshold) ∧
        (comparison = .failed → ¬ operator.Holds value threshold) :=
  histogramStatistic_sound records_recordedLatencies (by simp) .p95 (by simp) true (by simp)

end RoboticsRuntime.Harness
