import RoboticsRuntime.Harness.Metrics.Windows

/-!
# Histograms over a window

`metrics.py`: what the points of a histogram contribute to an evaluation window, and the merge of
the contributions into one histogram.
-/

namespace RoboticsRuntime.Harness
open Theory

/-- `!=` of two mappings of attributes, with Python's equality of the values. -/
def sameAttributes (a b : SeriesKey) : Bool :=
  a.length = b.length && (a.zip b).all fun (x, y) =>
    (ofLex x).1 = (ofLex y).1 && (ofLex x).2.equals (ofLex y).2

/-! ## Computed sums -/

/-- The value of a float that is finite. -/
def finite? : ExtendedFloat → Option ℚ
  | ⊥ => none
  | ⊤ => none
  | (value : ℚ) => some value

/-- The call `HistogramSample(...)` with a computed sum, which may be infinite. -/
def histogramOfSum (sum : Option ExtendedFloat) (point : HistogramFields) :
    Except MetricFailure HistogramSample := do
  let sample ← histogramSample { point with sum := sum.bind finite? }
  require (∀ value ∈ sum, isFinite value) (.input "histogram summary values must be finite")
  return sample

theorem histogramOfSum_eq_ok {sum : Option ExtendedFloat} {point : HistogramFields}
    {sample : HistogramSample} :
    histogramOfSum sum point = .ok sample ↔
      sample.toHistogramFields = { point with sum := sum.bind finite? } ∧
        ∀ value ∈ sum, isFinite value := by
  simp only [histogramOfSum, bind_eq_ok, histogramSample_eq_ok, require_eq_ok]
  constructor
  · rintro ⟨s, hs, _, hfinite, h⟩
    obtain rfl := Except.ok.inj h
    exact ⟨hs, hfinite⟩
  · rintro ⟨hs, hfinite⟩
    exact ⟨sample, hs, (), hfinite, rfl⟩

/-! ## Cumulative points -/

/-- `sum_value` of `_subtract_histograms`. -/
def differenceOfSums (latest baseline : HistogramSample) : Option ExtendedFloat := do
  let baselineSum := if baseline.count = 0 then some 0 else baseline.sum
  return roundFloat ((← latest.sum) - (← baselineSum))

/-- `_subtract_histograms`. -/
def subtractHistograms (latest baseline : HistogramSample) :
    Except MetricFailure HistogramSample := do
  require (latest.name = baseline.name ∧ latest.unit = baseline.unit ∧
      sameAttributes latest.attributes baseline.attributes)
    (.aggregation "cumulative histogram identity changed between baseline and current point")
  require (latest.explicitBounds = baseline.explicitBounds)
    (.aggregation "cumulative histogram bucket boundaries changed")
  let bucketCounts := List.zipWith (· - ·) latest.bucketCounts baseline.bucketCounts
  let count := latest.count - baseline.count
  require (0 ≤ count ∧ ∀ value ∈ bucketCounts, 0 ≤ value)
    (.aggregation "cumulative histogram counters moved backwards")
  require (baseline.count ≠ 0 → (latest.sum = none ↔ baseline.sum = none))
    (.aggregation "cumulative histogram sum availability changed")
  histogramOfSum (differenceOfSums latest baseline)
    { name := latest.name
      unit := latest.unit
      observedAtNs := latest.observedAtNs
      count := count
      bucketCounts := bucketCounts
      explicitBounds := latest.explicitBounds
      attributes := latest.attributes
      temporality := .delta
      startTimeNs := baseline.observedAtNs
      sum := none
      min := if baseline.count = 0 then latest.min else none
      max := if baseline.count = 0 then latest.max else none }

/-- A histogram that was subtracted from another. -/
structure Difference (latest baseline difference : HistogramSample) : Prop where
  interval : difference.interval =
    ⟨latest.attributes, baseline.observedAtNs, latest.observedAtNs⟩
  bounds : difference.explicitBounds = latest.explicitBounds
  bounds_eq : latest.explicitBounds = baseline.explicitBounds
  bucketCounts : difference.bucketCounts =
    List.zipWith (· - ·) latest.bucketCounts baseline.bucketCounts
  count : difference.count = latest.count - baseline.count

theorem subtractHistograms_eq_ok (h : subtractHistograms latest baseline = .ok difference) :
    Difference latest baseline difference := by
  simp only [subtractHistograms, seq_eq_ok, require_eq_ok, histogramOfSum_eq_ok] at h
  obtain ⟨-, hbounds, -, -, h, -⟩ := h
  constructor <;> simp only [HistogramSample.interval, h, hbounds]

/-- The checks of two consecutive points of a cumulative series. -/
def checkCumulativePair (previous current : HistogramSample) : Except MetricFailure Unit := do
  require (current.name = previous.name ∧ current.unit = previous.unit)
    (.aggregation "cumulative histogram identity changed")
  require (current.observedAtNs ≠ previous.observedAtNs)
    (.aggregation "duplicate cumulative histogram observations")
  require (current.explicitBounds = previous.explicitBounds)
    (.aggregation "cumulative histogram bucket boundaries changed")
  require (∀ pair ∈ previous.bucketCounts.zip current.bucketCounts, pair.1 ≤ pair.2)
    (.insufficient "cumulative histogram reset has no new start timestamp")

/-- `_checked_cumulative_series`. -/
def checkedCumulativeSeries (samples : List HistogramSample) :
    Except MetricFailure (List HistogramSample) := do
  let ordered := samples.insertionSort fun a b => a.observedAtNs ≤ b.observedAtNs
  forM (ordered.zip ordered.tail) fun (previous, current) => checkCumulativePair previous current
  return ordered

/-- A point of a cumulative series is older than another and counts no more. -/
def Precedes (a b : HistogramSample) : Prop := a.observedAtNs < b.observedAtNs ∧ a.count ≤ b.count

instance : IsTrans HistogramSample Precedes :=
  ⟨fun _ _ _ h h' => ⟨h.1.trans h'.1, h.2.trans h'.2⟩⟩

theorem sum_le_of_zip {a b : List ℤ} (hlen : a.length = b.length)
    (h : ∀ pair ∈ a.zip b, pair.1 ≤ pair.2) : a.sum ≤ b.sum := by
  induction a generalizing b with
  | nil => cases b <;> simp_all
  | cons x a ih =>
    cases b with
    | nil => simp at hlen
    | cons y b =>
      rw [List.zip_cons_cons, List.forall_mem_cons] at h
      have := ih (Nat.succ_inj.1 hlen) h.2
      have := h.1
      simp only [List.sum_cons]
      omega

theorem checkCumulativePair_precedes (h : checkCumulativePair a b = .ok ())
    (hab : a.observedAtNs ≤ b.observedAtNs) : Precedes a b := by
  simp only [checkCumulativePair, seq_eq_ok, require_eq_ok] at h
  obtain ⟨-, hne, hbounds, hcounts⟩ := h
  refine ⟨lt_of_le_of_ne hab (Ne.symm hne), ?_⟩
  rw [← a.bucketCounts_sum, ← b.bucketCounts_sum]
  apply sum_le_of_zip _ hcounts
  rw [a.bucketCounts_length, b.bucketCounts_length, hbounds]

/-- An accepted series is one in which points get newer and never lose events. -/
theorem checkedCumulativeSeries_eq_ok (h : checkedCumulativeSeries samples = .ok ordered) :
    ordered.Perm samples ∧ ordered.Pairwise Precedes := by
  obtain ⟨hpairs, h⟩ := seq_eq_ok.1 h
  obtain rfl := Except.ok.inj h
  refine ⟨List.perm_insertionSort _ _, List.isChain_iff_pairwise.1 ?_⟩
  have hsorted := List.pairwise_insertionSort
    (fun a b : HistogramSample => a.observedAtNs ≤ b.observedAtNs) samples
  rw [forM_eq_ok] at hpairs
  rw [← forall_zip_tail]
  intro pair hpair
  exact checkCumulativePair_precedes (hpairs pair hpair)
    (forall_zip_tail.2 hsorted.isChain pair hpair)

/-- The histogram that a series that starts before the window is counted from. -/
def windowBaseline (ordered : List HistogramSample) (latest : HistogramSample)
    (windowStartNs : ℤ) : Except MetricFailure HistogramSample := do
  let baselines := ordered.filter fun sample => sample.observedAtNs ≤ windowStartNs
  let baseline ← demand baselines.getLast?
    (.insufficient "cumulative histogram has no baseline at the evaluation-window start")
  if baseline.observedAtNs < windowStartNs then
    let following := (ordered.find? fun sample => windowStartNs < sample.observedAtNs).getD latest
    require (baseline.bucketCounts = following.bucketCounts)
      (.insufficient
        "cumulative histogram baseline precedes the window; event times are unknown")
    histogramSample { baseline.toHistogramFields with observedAtNs := windowStartNs }
  else return baseline

/-- `_cumulative_window_sample`. -/
def cumulativeWindowSample (samples : List HistogramSample) (windowStartNs : ℤ) :
    Except MetricFailure (Option HistogramSample) := do
  let ordered ← checkedCumulativeSeries samples
  match ordered.head?, ordered.getLast? with
  | some first, some latest =>
    if latest.observedAtNs ≤ windowStartNs then return none
    else if windowStartNs ≤ latest.startTimeNs then
      -- The unknown-start marker carries the events from before its start.
      if first.startTimeNs = first.observedAtNs then
        return some (← subtractHistograms latest first)
      else return some latest
    else
      let baseline ← windowBaseline ordered latest windowStartNs
      return some (← subtractHistograms latest baseline)
  | _, _ => return none

/-- A baseline holds the events up to the window start: those of the last point until then,
unless it counts fewer than the next one. -/
theorem windowBaseline_eq_ok (h : windowBaseline ordered latest windowStartNs = .ok baseline) :
    ∃ last, (ordered.filter fun sample => sample.observedAtNs ≤ windowStartNs).getLast? =
        some last ∧
      baseline.toHistogramFields =
        { last.toHistogramFields with observedAtNs := windowStartNs } ∧
      (last.observedAtNs < windowStartNs → last.bucketCounts =
        ((ordered.find? fun sample => windowStartNs < sample.observedAtNs).getD
          latest).bucketCounts) := by
  obtain ⟨last, hlast, h⟩ := bind_eq_ok.1 h
  rw [demand_eq_ok] at hlast
  refine ⟨last, hlast, ?_⟩
  split at h
  · simp only [seq_eq_ok, require_eq_ok, histogramSample_eq_ok] at h
    exact ⟨h.2, fun _ => h.1⟩
  · next hge =>
    obtain rfl := Except.ok.inj h
    have hle := (List.mem_filter.1 (List.mem_of_getLast? hlast)).2
    have heq : last.observedAtNs = windowStartNs :=
      le_antisymm (by simpa using hle) (not_lt.1 hge)
    exact ⟨by rw [← heq], fun hlt => absurd hlt hge⟩

/-- What an accepted series contributes, by its oldest and its latest point. -/
inductive Contributes (ordered : List HistogramSample) (first latest : HistogramSample)
    (windowStartNs : ℤ) : Option HistogramSample → Prop
  | past (h : latest.observedAtNs ≤ windowStartNs) : Contributes ordered first latest windowStartNs none
  | fresh (hlatest : windowStartNs < latest.observedAtNs)
      (hstart : windowStartNs ≤ latest.startTimeNs) (hfirst : first.startTimeNs ≠ first.observedAtNs) :
      Contributes ordered first latest windowStartNs (some latest)
  | marked (hlatest : windowStartNs < latest.observedAtNs)
      (hstart : windowStartNs ≤ latest.startTimeNs) (hfirst : first.startTimeNs = first.observedAtNs)
      (h : Difference latest first contribution) :
      Contributes ordered first latest windowStartNs (some contribution)
  | continued (hlatest : windowStartNs < latest.observedAtNs)
      (hstart : latest.startTimeNs < windowStartNs)
      (hbaseline : windowBaseline ordered latest windowStartNs = .ok baseline)
      (h : Difference latest baseline contribution) :
      Contributes ordered first latest windowStartNs (some contribution)

theorem cumulativeWindowSample_eq_ok (hne : samples ≠ [])
    (h : cumulativeWindowSample samples windowStartNs = .ok contribution) :
    ∃ ordered first latest, ordered.Perm samples ∧ ordered.Pairwise Precedes ∧
      ordered.head? = some first ∧ ordered.getLast? = some latest ∧
      Contributes ordered first latest windowStartNs contribution := by
  obtain ⟨ordered, hordered, h⟩ := bind_eq_ok.1 h
  obtain ⟨hperm, hpairs⟩ := checkedCumulativeSeries_eq_ok hordered
  have hne : ordered ≠ [] := fun hnil => hne (hnil ▸ hperm).nil_eq.symm
  have hfirst := List.head?_eq_some_head hne
  have hlast := List.getLast?_eq_some_getLast hne
  refine ⟨ordered, _, _, hperm, hpairs, hfirst, hlast, ?_⟩
  rw [hfirst, hlast] at h
  dsimp only at h
  split at h
  · next hle =>
    obtain rfl := Except.ok.inj h
    exact .past hle
  · next hlatest =>
    split at h
    · next hstart =>
      split at h
      · next heq =>
        obtain ⟨c, hc, h⟩ := bind_eq_ok.1 h
        obtain rfl := Except.ok.inj h
        exact .marked (not_le.1 hlatest) hstart heq (subtractHistograms_eq_ok hc)
      · next hne =>
        obtain rfl := Except.ok.inj h
        exact .fresh (not_le.1 hlatest) hstart hne
    · next hstart =>
      obtain ⟨b, hb, h⟩ := bind_eq_ok.1 h
      obtain ⟨c, hc, h⟩ := bind_eq_ok.1 h
      obtain rfl := Except.ok.inj h
      exact .continued (not_le.1 hlatest) (not_le.1 hstart) hb (subtractHistograms_eq_ok hc)

/-! ## Contributions -/

/-- The key of a series of cumulative points with one start. -/
def HistogramSample.epoch (sample : HistogramSample) : SeriesKey × ℤ :=
  (sample.attributes, sample.startTimeNs)

/-- The contributions of cumulative points. -/
def cumulativeContributions (samples : List HistogramSample) (window : Window) :
    Except MetricFailure (List HistogramSample) := do
  let observed := samples.filter fun sample => sample.observedAtNs ≤ window.endNs
  let contributions ← (groups HistogramSample.epoch observed).mapM fun (_, series) =>
    cumulativeWindowSample series window.startNs
  return contributions.filterMap id

/-- `_histogram_contributions`. -/
def histogramContributions (samples : List HistogramSample) (window : Window) :
    Except MetricFailure (List HistogramSample) :=
  match samples with
  | [] => .error (.insufficient "no histogram samples")
  | first :: rest => do
    require (∀ sample ∈ rest, sample.temporality = first.temporality)
      (.aggregation "mixed histogram aggregation temporalities")
    match first.temporality with
    | .unspecified => .error (.aggregation "histogram aggregation temporality is unspecified")
    | .delta => validatedDeltaPoints HistogramSample.interval (first :: rest) first.name window
    | .cumulative => cumulativeContributions (first :: rest) window

/-- A contribution of cumulative points is that of one of their epochs. -/
theorem mem_cumulativeContributions (h : cumulativeContributions samples window = .ok contributions)
    (hc : contribution ∈ contributions) :
    ∃ sample ∈ samples, sample.observedAtNs ≤ window.endNs ∧
      ∃ ordered first latest, ordered.Perm ((samples.filter fun s =>
          s.observedAtNs ≤ window.endNs).filter fun s => s.epoch = sample.epoch) ∧
        ordered.Pairwise Precedes ∧ ordered.head? = some first ∧ ordered.getLast? = some latest ∧
        Contributes ordered first latest window.startNs (some contribution) := by
  obtain ⟨results, hresults, h⟩ := bind_eq_ok.1 h
  obtain rfl := Except.ok.inj h
  obtain ⟨result, hresult, heq⟩ := List.mem_filterMap.1 hc
  obtain rfl : result = some contribution := heq
  obtain ⟨group, hgroup, hsample⟩ := exists_of_forall₂_mem (mapM_eq_ok.1 hresults) hresult
  obtain ⟨⟨sample, hmem, hepoch⟩, heq⟩ := mem_groups.1 hgroup
  obtain ⟨hmem, hobserved⟩ := List.mem_filter.1 hmem
  refine ⟨sample, hmem, by simpa using hobserved, ?_⟩
  rw [hepoch, ← heq]
  exact cumulativeWindowSample_eq_ok (groups_ne_nil hgroup) hsample

/-! ## Merging -/

/-- An optional statistic of the histograms with events, when each of them records it. -/
def mergedExtremum (select : ℚ → ℚ → ℚ) : List (Option ℚ) → Option ℚ
  | [] => none
  | [value] => value
  | value :: values => do return select (← value) (← mergedExtremum select values)

/-- The sum of optional numbers, when all of them are there. -/
def mergedSum (values : List (Option ℚ)) : Option ExtendedFloat :=
  if none ∈ values then none else some (floatSum (values.filterMap id))

/-- `_merge_histograms`. -/
def mergeHistograms : List HistogramSample → Except MetricFailure HistogramSample
  | [] => .error (.insufficient "no histogram events in evaluation window")
  | first :: rest => do
    let samples := first :: rest
    require (∀ sample ∈ rest, sample.name = first.name ∧ sample.unit = first.unit)
      (.aggregation "incompatible histogram names or units")
    require (∀ sample ∈ rest, sample.explicitBounds = first.explicitBounds)
      (.aggregation "incompatible histogram bucket boundaries")
    let recorded := samples.filter fun sample => sample.count ≠ 0
    histogramOfSum (mergedSum (recorded.map (·.sum)))
      { name := first.name
        unit := first.unit
        observedAtNs := (rest.map (·.observedAtNs)).foldl max first.observedAtNs
        count := (samples.map (·.count)).sum
        bucketCounts := (List.range (first.explicitBounds.length + 1)).map fun index =>
          (samples.map fun sample => sample.bucketCounts.getD index 0).sum
        explicitBounds := first.explicitBounds
        attributes := []
        temporality := .delta
        startTimeNs := 0
        sum := none
        min := mergedExtremum min (recorded.map (·.min))
        max := mergedExtremum max (recorded.map (·.max)) }

/-- A histogram that was merged from others. -/
structure Merges (samples : List HistogramSample) (merged : HistogramSample) : Prop where
  bounds : ∀ sample ∈ samples, sample.explicitBounds = merged.explicitBounds
  bucketCounts : merged.bucketCounts =
    (List.range (merged.explicitBounds.length + 1)).map fun index =>
      (samples.map fun sample => sample.bucketCounts.getD index 0).sum
  count : merged.count = (samples.map (·.count)).sum

theorem mergeHistograms_eq_ok (h : mergeHistograms samples = .ok merged) :
    Merges samples merged := by
  cases samples with
  | nil => cases h
  | cons first rest =>
    simp only [mergeHistograms, seq_eq_ok, require_eq_ok, histogramOfSum_eq_ok] at h
    obtain ⟨-, hbounds, h, -⟩ := h
    constructor
    · rw [h]
      exact List.forall_mem_cons.2 ⟨rfl, hbounds⟩
    · rw [h]
    · rw [h]

/-- `except MetricAggregationError` of `histogram_window_aggregate`. -/
def MetricFailure.asInsufficient : MetricFailure → MetricFailure
  | .input message => .input message
  | .aggregation message => .insufficient message
  | .insufficient message => .insufficient message
  | .overflow error => .overflow error

/-- `histogram_window_aggregate`. -/
def histogramWindowAggregate (samples : List HistogramSample) (window : Window) :
    Except MetricFailure HistogramSample := do
  let contributions ← histogramContributions samples window
  let merged ← mergeHistograms contributions
  (requireWindowCoverage (intervalCoverage (contributions.map (·.interval))) merged.name
    (samples.head?.map (·.temporality)) window metricWindowCoverageToleranceNs).mapError
    MetricFailure.asInsufficient
  return merged

theorem histogramWindowAggregate_eq_ok (h : histogramWindowAggregate samples window = .ok merged) :
    ∃ contributions, histogramContributions samples window = .ok contributions ∧
      mergeHistograms contributions = .ok merged ∧
      requireWindowCoverage (intervalCoverage (contributions.map (·.interval))) merged.name
        (samples.head?.map (·.temporality)) window metricWindowCoverageToleranceNs = .ok () := by
  obtain ⟨contributions, hcontributions, h⟩ := bind_eq_ok.1 h
  obtain ⟨result, hmerged, h⟩ := bind_eq_ok.1 h
  obtain ⟨hcoverage, h⟩ := seq_eq_ok.1 h
  obtain rfl := Except.ok.inj h
  exact ⟨contributions, hcontributions, hmerged, mapError_eq_ok.1 hcoverage⟩

/-- The part of an interval in a window, when it has one. -/
def Coverage.clip? (window : Window) (interval : Coverage) : Option Coverage :=
  let startNs := max interval.startNs window.startNs
  let endNs := min interval.endNs window.endNs
  if startNs < endNs then some ⟨interval.series, startNs, endNs⟩ else none

/-- `histogram_window_coverage`. -/
def histogramWindowCoverage (samples : List HistogramSample) (window : Window) :
    Except MetricFailure (List Coverage) := do
  require (samples ≠ []) (.aggregation "no histogram samples")
  let contributions ← histogramContributions samples window
  return (intervalCoverage (contributions.map (·.interval))).filterMap (·.clip? window)

end RoboticsRuntime.Harness
