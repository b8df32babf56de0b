import RoboticsRuntime.Harness.Metrics.Histograms
import RoboticsRuntime.Verify.HistogramEstimates

/-!
# A histogram over a window holds the events of the intervals it covers

A log dates the events of every series. A delta point renders the events of its interval, and a
cumulative point those since the start of its epoch, after whatever an unknown-start marker carried
over. Each contribution to a window then renders the events of its own interval, and intervals of
one series never meet, so that the merged histogram counts the events between them once.
-/

namespace RoboticsRuntime.Harness
open Theory

/-! ## Logs and their renderings -/

/-- The events of each series, with the times at which they happened. -/
abbrev Log := SeriesKey → List (ℤ × ℚ)

/-- The events after `start` up to `stop`. -/
def eventsIn (events : List (ℤ × ℚ)) (start stop : ℤ) : List ℚ :=
  (events.filter fun event => start < event.1 ∧ event.1 ≤ stop).map (·.2)

/-- A point counts the events of its interval. -/
def RendersInterval (log : Log) (sample : HistogramSample) : Prop :=
  sample.bucketCounts = bucketSizes sample.explicitBounds
    (eventsIn (log sample.attributes) sample.startTimeNs sample.observedAtNs)

/-- Delta points that render a log. -/
structure RendersDelta (log : Log) (samples : List HistogramSample) : Prop where
  temporality : ∀ sample ∈ samples, sample.temporality = .delta
  counts : ∀ sample ∈ samples, RendersInterval log sample

/-- Cumulative points that render a log from the starts of their epochs on. An epoch that carries
over an earlier population has an unknown-start marker. -/
structure RendersCumulative (log : Log) (population : SeriesKey → ℤ → List ℚ)
    (samples : List HistogramSample) : Prop where
  temporality : ∀ sample ∈ samples, sample.temporality = .cumulative
  counts : ∀ sample ∈ samples, sample.bucketCounts = bucketSizes sample.explicitBounds
    (population sample.attributes sample.startTimeNs ++
      eventsIn (log sample.attributes) sample.startTimeNs sample.observedAtNs)
  marker : ∀ sample ∈ samples, population sample.attributes sample.startTimeNs ≠ [] →
    ∃ marker ∈ samples, marker.epoch = sample.epoch ∧ marker.observedAtNs = marker.startTimeNs

/-- The events of the log that lie in an interval of their series. -/
def coveredEvents (log : Log) (coverage : List Coverage) : List ℚ :=
  (firsts (coverage.map (·.series))).flatMap fun series =>
    ((log series).filter fun event =>
      ∃ interval ∈ coverage, interval.series = series ∧ interval.Contains event.1).map (·.2)

/-- A histogram holds the events of a log in the intervals that it covers in a window. -/
structure Conserves (log : Log) (window : Window) (coverage : List Coverage)
    (merged : HistogramSample) : Prop where
  bucketCounts : merged.bucketCounts =
    bucketSizes merged.explicitBounds (coveredEvents log coverage)
  count : merged.count = (coveredEvents log coverage).length
  disjoint : coverage.Pairwise fun a b =>
    a.series = b.series → ∀ t, ¬ (a.Contains t ∧ b.Contains t)
  within : ∀ interval ∈ coverage, window.startNs ≤ interval.startNs ∧
    interval.startNs < interval.endNs ∧ interval.endNs ≤ window.endNs
  uncovered : ∀ interval ∈ coverage, (uncoveredNs window coverage interval.series : ℤ) ≤
    min 1000000000 ((window.endNs - window.startNs) / 20)

/-! ## Buckets of events -/

theorem bucketSizes_perm (bounds : List ℚ) {events events' : List ℚ} (h : events.Perm events') :
    bucketSizes bounds events = bucketSizes bounds events' := by
  simp only [bucketSizes, h.countP_eq]

theorem bucketSizes_append (bounds events events' : List ℚ) :
    bucketSizes bounds (events ++ events') =
      List.zipWith (· + ·) (bucketSizes bounds events) (bucketSizes bounds events') := by
  simp only [bucketSizes, List.countP_append, Nat.cast_add, List.zipWith_map, List.zipWith_self]

theorem zipWith_sub_cancel {a b : List ℤ} (h : a.length = b.length) :
    List.zipWith (· - ·) (List.zipWith (· + ·) a b) a = b := by
  induction a generalizing b with
  | nil => cases b <;> simp_all
  | cons x a ih =>
    cases b with
    | nil => simp at h
    | cons y b => simp [ih (Nat.succ_inj.1 h)]

/-- The events of adjacent intervals are the events of their union. -/
theorem eventsIn_append_perm (events : List (ℤ × ℚ)) (h₁ : a ≤ b) (h₂ : b ≤ c) :
    (eventsIn events a b ++ eventsIn events b c).Perm (eventsIn events a c) := by
  simp only [eventsIn, ← List.map_append]
  apply List.Perm.map
  refine (filter_append_filter_perm ?_).trans (List.Perm.of_eq (List.filter_congr ?_))
  · intro event _ h
    simp only [decide_eq_true_eq] at h
    omega
  · intro event _
    rw [Bool.eq_iff_iff]
    simp only [Bool.or_eq_true, decide_eq_true_eq]
    omega

@[simp] theorem eventsIn_self (events : List (ℤ × ℚ)) (a : ℤ) : eventsIn events a a = [] := by
  simp only [eventsIn, List.map_eq_nil_iff, List.filter_eq_nil_iff, decide_eq_true_eq]
  omega

/-- What a cumulative series gains between two observations is what happened between them. -/
theorem bucketSizes_gain (bounds before : List ℚ) (events : List (ℤ × ℚ)) (h₁ : a ≤ b)
    (h₂ : b ≤ c) :
    List.zipWith (· - ·) (bucketSizes bounds (before ++ eventsIn events a c))
      (bucketSizes bounds (before ++ eventsIn events a b)) =
      bucketSizes bounds (eventsIn events b c) := by
  have hperm : (before ++ eventsIn events a c).Perm
      ((before ++ eventsIn events a b) ++ eventsIn events b c) := by
    rw [List.append_assoc]
    exact ((eventsIn_append_perm events h₁ h₂).symm).append_left before
  rw [bucketSizes_perm bounds hperm, bucketSizes_append]
  exact zipWith_sub_cancel (by simp)

/-! ## Contributions of cumulative points -/

/-- The points of one epoch, counted from its start after the events of an earlier population. -/
structure RendersEpoch (log : Log) (epoch : SeriesKey × ℤ) (population : List ℚ)
    (samples : List HistogramSample) : Prop where
  epoch_eq : ∀ sample ∈ samples, sample.epoch = epoch
  counts : ∀ sample ∈ samples, sample.bucketCounts = bucketSizes sample.explicitBounds
    (population ++ eventsIn (log epoch.1) epoch.2 sample.observedAtNs)
  marker : population ≠ [] → ∃ marker ∈ samples, marker.observedAtNs = epoch.2

namespace RendersEpoch
variable {log : Log} {epoch : SeriesKey × ℤ} {population : List ℚ} {samples : List HistogramSample}

theorem of_perm (h : RendersEpoch log epoch population samples) (hp : ordered.Perm samples) :
    RendersEpoch log epoch population ordered where
  epoch_eq s hs := h.epoch_eq s (hp.mem_iff.1 hs)
  counts s hs := h.counts s (hp.mem_iff.1 hs)
  marker hne := by
    obtain ⟨m, hm, heq⟩ := h.marker hne
    exact ⟨m, hp.mem_iff.2 hm, heq⟩

theorem attributes_eq (h : RendersEpoch log epoch population samples) (hs : s ∈ samples) :
    s.attributes = epoch.1 :=
  congrArg Prod.fst (h.epoch_eq s hs)

theorem start_eq (h : RendersEpoch log epoch population samples) (hs : s ∈ samples) :
    s.startTimeNs = epoch.2 :=
  congrArg Prod.snd (h.epoch_eq s hs)

theorem start_le (h : RendersEpoch log epoch population samples) (hs : s ∈ samples) :
    epoch.2 ≤ s.observedAtNs :=
  h.start_eq hs ▸ s.start_le_observed

theorem count_eq (h : RendersEpoch log epoch population samples) (hs : s ∈ samples) :
    s.count = population.length +
      (eventsIn (log epoch.1) epoch.2 s.observedAtNs).length := by
  rw [← s.bucketCounts_sum, h.counts s hs, bucketSizes_sum s.explicitBounds_increasing,
    List.length_append, Nat.cast_add]

/-- Equal counts of two points prove that nothing happened between them. -/
theorem eventsIn_eq_nil (h : RendersEpoch log epoch population samples) (ha : a ∈ samples)
    (hb : b ∈ samples) (hab : a.observedAtNs ≤ b.observedAtNs)
    (heq : a.bucketCounts = b.bucketCounts) :
    eventsIn (log epoch.1) a.observedAtNs b.observedAtNs = [] := by
  have hlen := (eventsIn_append_perm (log epoch.1) (h.start_le ha) hab).length_eq
  have hcount : a.count = b.count := by rw [← a.bucketCounts_sum, heq, b.bucketCounts_sum]
  rw [h.count_eq ha, h.count_eq hb] at hcount
  rw [List.length_append] at hlen
  exact List.length_eq_zero_iff.1 (by omega)

/-- A baseline that was moved to the window start still holds all events until then. -/
theorem baseline_counts (h : RendersEpoch log epoch population samples)
    (hlatest : latest ∈ samples) (hw : windowStartNs < latest.observedAtNs)
    (hbaseline : windowBaseline samples latest windowStartNs = .ok baseline) :
    baseline.observedAtNs = windowStartNs ∧ epoch.2 ≤ windowStartNs ∧
      baseline.bucketCounts = bucketSizes baseline.explicitBounds
        (population ++ eventsIn (log epoch.1) epoch.2 windowStartNs) := by
  obtain ⟨last, hlast, hfields, hgap⟩ := windowBaseline_eq_ok hbaseline
  obtain ⟨hmem, hle⟩ := List.mem_filter.1 (List.mem_of_getLast? hlast)
  have hle : last.observedAtNs ≤ windowStartNs := by simpa using hle
  have hcounts := h.counts last hmem
  have hstart := (h.start_le hmem).trans hle
  rw [hfields]
  refine ⟨rfl, hstart, ?_⟩
  dsimp only
  rw [hcounts]
  rcases hle.lt_or_eq with hlt | heq
  · -- nothing happened until the next point, which was observed in the window
    have hnext : ∃ next ∈ samples, windowStartNs < next.observedAtNs ∧
        last.bucketCounts = next.bucketCounts := by
      cases hfind : samples.find? fun sample => windowStartNs < sample.observedAtNs with
      | none => exact ⟨latest, hlatest, hw, by simpa [hfind] using hgap hlt⟩
      | some next =>
        exact ⟨next, List.mem_of_find?_eq_some hfind, by simpa using List.find?_some hfind,
          by simpa [hfind] using hgap hlt⟩
    obtain ⟨next, hnext, hafter, heq⟩ := hnext
    have hnil := h.eventsIn_eq_nil hmem hnext (hle.trans hafter.le) heq
    have hsplit := (eventsIn_append_perm (log epoch.1) hle hafter.le).length_eq
    rw [hnil, List.length_append, List.length_nil] at hsplit
    have hquiet : eventsIn (log epoch.1) last.observedAtNs windowStartNs = [] :=
      List.length_eq_zero_iff.1 (by omega)
    have hperm := eventsIn_append_perm (log epoch.1) (h.start_le hmem) hle
    rw [hquiet, List.append_nil] at hperm
    exact bucketSizes_perm _ (hperm.append_left population)
  · rw [heq]

/-- What an epoch contributes to a window are the events of the interval it covers there. -/
theorem contributes (h : RendersEpoch log epoch population samples)
    (hpairs : samples.Pairwise Precedes) (hfirst : samples.head? = some first)
    (hlatest : samples.getLast? = some latest)
    (hc : Contributes samples first latest windowStartNs (some contribution)) :
    RendersInterval log contribution ∧ windowStartNs ≤ contribution.startTimeNs ∧
      contribution.observedAtNs = latest.observedAtNs := by
  have hfirst' := List.mem_of_head? hfirst
  have hlatest' := List.mem_of_getLast? hlatest
  have hcounts := h.counts latest hlatest'
  cases hc with
  | fresh hw hstart hne =>
    -- without a marker at the start of the epoch nothing was carried over
    have hnone : population = [] := by
      by_contra hpop
      obtain ⟨m, hm, heq⟩ := h.marker hpop
      have hle : first.observedAtNs ≤ m.observedAtNs := by
        obtain ⟨rest, rfl⟩ := List.head?_eq_some_iff.1 hfirst
        rcases List.mem_cons.1 hm with rfl | hm
        · exact le_rfl
        · exact ((List.pairwise_cons.1 hpairs).1 m hm).1.le
      have := h.start_le hfirst'
      exact hne (by rw [h.start_eq hfirst']; omega)
    refine ⟨?_, hstart, rfl⟩
    rw [RendersInterval, hcounts, hnone, List.nil_append, h.attributes_eq hlatest',
      h.start_eq hlatest']
  | marked hw hstart heq hd =>
    have hobserved : first.observedAtNs = epoch.2 := heq.symm.trans (h.start_eq hfirst')
    have hinterval := hd.interval
    simp only [HistogramSample.interval, Coverage.mk.injEq] at hinterval
    refine ⟨?_, ?_, hinterval.2.2⟩
    · rw [RendersInterval, hd.bucketCounts, hcounts, h.counts first hfirst', hd.bounds,
        ← hd.bounds_eq, hinterval.1, hinterval.2.1, hinterval.2.2, h.attributes_eq hlatest',
        hobserved]
      exact bucketSizes_gain _ _ _ le_rfl (h.start_le hlatest')
    · rw [hinterval.2.1, hobserved, ← h.start_eq hlatest']
      exact hstart
  | continued hw hstart hbaseline hd =>
    obtain ⟨hat, hle, hbefore⟩ := h.baseline_counts hlatest' hw hbaseline
    have hinterval := hd.interval
    simp only [HistogramSample.interval, Coverage.mk.injEq] at hinterval
    refine ⟨?_, by rw [hinterval.2.1, hat], hinterval.2.2⟩
    rw [RendersInterval, hd.bucketCounts, hcounts, hbefore, hd.bounds, ← hd.bounds_eq,
      hinterval.1, hinterval.2.1, hinterval.2.2, h.attributes_eq hlatest', hat]
    exact bucketSizes_gain _ _ _ hle hw.le

end RendersEpoch

/-- The points of an epoch until the end of the window. -/
theorem RendersCumulative.rendersEpoch {log : Log} {population : SeriesKey → ℤ → List ℚ}
    (h : RendersCumulative log population samples) (hs : sample ∈ samples)
    (hobserved : sample.observedAtNs ≤ windowEndNs) :
    RendersEpoch log sample.epoch (population sample.attributes sample.startTimeNs)
      ((samples.filter fun s => s.observedAtNs ≤ windowEndNs).filter fun s =>
        s.epoch = sample.epoch) := by
  have hmem : ∀ s ∈ (samples.filter fun s => s.observedAtNs ≤ windowEndNs).filter fun s =>
      s.epoch = sample.epoch, s ∈ samples ∧ s.epoch = sample.epoch := fun s hs => by
    simp only [List.mem_filter, decide_eq_true_eq] at hs
    exact ⟨hs.1.1, hs.2⟩
  refine ⟨fun s hs => (hmem s hs).2, fun s hs => ?_, fun hne => ?_⟩
  · obtain ⟨hs, hepoch⟩ := hmem s hs
    have hcounts := h.counts s hs
    have hattributes : s.attributes = sample.attributes := congrArg Prod.fst hepoch
    have hstart : s.startTimeNs = sample.startTimeNs := congrArg Prod.snd hepoch
    rwa [hattributes, hstart] at hcounts
  · obtain ⟨marker, hm, hepoch, hat⟩ := h.marker sample hs hne
    have hstart : marker.startTimeNs = sample.startTimeNs := congrArg Prod.snd hepoch
    have hle := (hat.trans hstart).le.trans (sample.start_le_observed.trans hobserved)
    refine ⟨marker, ?_, hat.trans hstart⟩
    simp only [List.mem_filter, decide_eq_true_eq]
    exact ⟨⟨hm, hle⟩, hepoch⟩

/-! ## Contributions to a window -/

/-- Samples that render a log, as delta points or as cumulative points. -/
def Renders (log : Log) (samples : List HistogramSample) : Prop :=
  RendersDelta log samples ∨ ∃ population, RendersCumulative log population samples

/-- Every contribution renders the events of its interval, which lies in the window. -/
theorem histogramContributions_render {log : Log} (hs : Renders log samples)
    (h : histogramContributions samples window = .ok contributions) :
    ∀ contribution ∈ contributions, RendersInterval log contribution ∧
      window.Includes contribution.interval := by
  intro contribution hc
  cases samples with
  | nil => cases h
  | cons first rest =>
    obtain ⟨-, h⟩ := seq_eq_ok.1 h
    rcases hs with hs | ⟨population, hs⟩
    · rw [hs.temporality first List.mem_cons_self] at h
      obtain ⟨hmem, hwithin⟩ := validatedDeltaPoints_eq_ok h contribution hc
      exact ⟨hs.counts contribution hmem, hwithin⟩
    · rw [hs.temporality first List.mem_cons_self] at h
      obtain ⟨sample, hsample, hobserved, ordered, oldest, latest, hperm, hpairs, holdest,
        hlatest, hc⟩ := mem_cumulativeContributions h hc
      have hepoch := (hs.rendersEpoch hsample hobserved).of_perm hperm
      obtain ⟨hrenders, hstart, hend⟩ := hepoch.contributes hpairs holdest hlatest hc
      have hle := hperm.mem_iff.1 (List.mem_of_getLast? hlatest)
      simp only [List.mem_filter, decide_eq_true_eq] at hle
      exact ⟨hrenders, hstart, hend.trans_le hle.1.2⟩

/-! ## The merged histogram -/

/-- The events of an interval of a log. -/
def Log.eventsOf (log : Log) (interval : Coverage) : List ℚ :=
  eventsIn (log interval.series) interval.startNs interval.endNs

/-- Merged contributions count the events of one interval after another. -/
theorem Merges.bucketCounts_eq {log : Log} (h : Merges samples merged)
    (hs : ∀ sample ∈ samples, RendersInterval log sample) :
    merged.bucketCounts = bucketSizes merged.explicitBounds
      ((samples.map (·.interval)).flatMap log.eventsOf) := by
  rw [h.bucketCounts, bucketSizes, List.flatMap_map]
  apply List.map_congr_left
  intro index hi
  rw [List.countP_flatMap, Nat.cast_list_sum, List.map_map]
  congr 1
  apply List.map_congr_left
  intro sample hsample
  rw [hs sample hsample, h.bounds sample hsample]
  have hlt : index < (bucketSizes merged.explicitBounds
      (eventsIn (log sample.attributes) sample.startTimeNs sample.observedAtNs)).length := by
    simpa using hi
  rw [List.getD_eq_getElem?_getD, List.getElem?_eq_getElem hlt, Option.getD_some]
  simp [bucketSizes, Log.eventsOf, HistogramSample.interval]

/-- Between intervals that never meet, every event of a series is in one of them at most. -/
theorem flatMap_eventsOf_perm (log : Log) {coverage : List Coverage}
    (h : coverage.Pairwise fun a b => a.series = b.series → ∀ t, ¬ (a.Contains t ∧ b.Contains t)) :
    (coverage.flatMap log.eventsOf).Perm (coveredEvents log coverage) := by
  refine ((groups_perm Coverage.series coverage).flatMap_right log.eventsOf).symm.trans ?_
  rw [List.flatMap_assoc, groups, List.flatMap_map, coveredEvents]
  apply List.Perm.flatMap_left
  intro series _
  have hevents : ∀ interval ∈ coverage.filter (·.series = series), log.eventsOf interval =
      ((log series).filter fun event => interval.Contains event.1).map (·.2) := by
    intro interval hi
    have hseries : interval.series = series := by simpa using (List.mem_filter.1 hi).2
    rw [← hseries]
    rfl
  have hpairs : (coverage.filter (·.series = series)).Pairwise fun a b =>
      ∀ event : ℤ × ℚ, ¬ (a.Contains event.1 ∧ b.Contains event.1) := by
    rw [List.pairwise_filter]
    refine h.imp fun hab ha hb event => ?_
    simp only [decide_eq_true_eq] at ha hb
    exact hab (ha.trans hb.symm) event.1
  rw [List.flatMap_congr hevents, ← List.map_flatMap]
  apply List.Perm.map
  refine (flatMap_filter_perm (fun (interval : Coverage) (event : ℤ × ℚ) =>
    interval.Contains event.1) (log series) hpairs).trans (List.Perm.of_eq ?_)
  apply List.filter_congr
  intro event _
  simp only [List.mem_filter, decide_eq_true_eq, and_assoc]

/-! ## Main result -/

/-- A histogram that was aggregated holds the events of the intervals of its contributions. -/
theorem conserves_of_aggregate {log : Log} (hs : Renders log samples)
    (h : histogramWindowAggregate samples window = .ok merged)
    (hcontributions : histogramContributions samples window = .ok contributions) :
    Conserves log window (intervalCoverage (contributions.map (·.interval))) merged := by
  obtain ⟨_, hc, hmerged, hcoverage⟩ := histogramWindowAggregate_eq_ok h
  obtain rfl := Except.ok.inj (hcontributions.symm.trans hc)
  have hrender := histogramContributions_render hs hc
  have hperm := intervalCoverage_perm (contributions.map (·.interval))
  have hwithin : ∀ interval ∈ intervalCoverage (contributions.map (·.interval)),
      window.Includes interval := by
    intro interval hi
    obtain ⟨contribution, hc, rfl⟩ := List.mem_map.1 (hperm.mem_iff.1 hi)
    exact (hrender contribution hc).2
  obtain ⟨hpositive, hdisjoint, tolerance, hpos, htolerance, huncovered⟩ :=
    requireWindowCoverage_eq_ok hwithin hcoverage
  rw [effectiveToleranceNs_eq_twentieth hpos le_rfl htolerance] at huncovered
  have hcounts := (mergeHistograms_eq_ok hmerged).bucketCounts_eq fun c hc => (hrender c hc).1
  rw [bucketSizes_perm _ ((hperm.symm.flatMap_right log.eventsOf).trans
    (flatMap_eventsOf_perm log hdisjoint))] at hcounts
  refine ⟨hcounts, ?_, hdisjoint, fun interval hi =>
    ⟨(hwithin interval hi).1, hpositive interval hi, (hwithin interval hi).2⟩, huncovered⟩
  rw [← merged.bucketCounts_sum, hcounts, bucketSizes_sum merged.explicitBounds_increasing]

/-- A histogram over a window holds exactly the events of its contribution intervals, which cover
the window up to the tolerance. Two renderings of one log over the same intervals agree. -/
theorem histogramWindowAggregate_conserves {log : Log} (hs : Renders log samples)
    (h : histogramWindowAggregate samples window = .ok merged) :
    ∃ contributions, histogramContributions samples window = .ok contributions ∧
      Conserves log window (intervalCoverage (contributions.map (·.interval))) merged ∧
      ∀ samples' contributions' merged', Renders log samples' →
        histogramWindowAggregate samples' window = .ok merged' →
        histogramContributions samples' window = .ok contributions' →
        intervalCoverage (contributions'.map (·.interval)) =
          intervalCoverage (contributions.map (·.interval)) →
        merged'.count = merged.count ∧
          (merged'.explicitBounds = merged.explicitBounds →
            merged'.bucketCounts = merged.bucketCounts) := by
  obtain ⟨contributions, hc, -, -⟩ := histogramWindowAggregate_eq_ok h
  have hconserves := conserves_of_aggregate hs h hc
  refine ⟨contributions, hc, hconserves, ?_⟩
  intro samples' contributions' merged' hs' h' hc' hcoverage
  have hconserves' := conserves_of_aggregate hs' h' hc'
  rw [hcoverage] at hconserves'
  refine ⟨hconserves'.count.trans hconserves.count.symm, fun hbounds => ?_⟩
  rw [hconserves'.bucketCounts, hbounds, hconserves.bucketCounts]

/-- One event before the start of an epoch and two after it. -/
def exampleLog : Log := fun _ => [(5, 3), (20, 1), (35, 5)]

/-- A point of the series, with a bucket up to 2 and one above. -/
def examplePoint (temporality : MetricTemporality) (startTimeNs observedAtNs : ℤ)
    (low high : ℤ) : HistogramFields where
  name := "latency"
  unit := "ms"
  observedAtNs := observedAtNs
  count := low + high
  bucketCounts := [low, high]
  explicitBounds := [2]
  attributes := []
  temporality := temporality
  startTimeNs := startTimeNs
  sum := none
  min := none
  max := none

/-- An unknown-start marker that carries the early event over, and a point at the end. -/
def exampleCumulative : List HistogramSample :=
  [⟨examplePoint .cumulative 10 10 0 1, by decide +kernel⟩,
    ⟨examplePoint .cumulative 10 40 1 2, by decide +kernel⟩]

/-- The point of the same interval without the early event. -/
def exampleDelta : List HistogramSample := [⟨examplePoint .delta 10 40 1 1, by decide +kernel⟩]

theorem renders_exampleCumulative : Renders exampleLog exampleCumulative := by
  refine .inr ⟨fun _ _ => [3], by decide +kernel, by decide +kernel, ?_⟩
  intro sample hs _
  refine ⟨_, List.mem_cons_self, ?_⟩
  simp only [exampleCumulative, List.mem_cons, List.not_mem_nil, or_false] at hs
  rcases hs with rfl | rfl <;> exact ⟨rfl, rfl⟩

theorem renders_exampleDelta : Renders exampleLog exampleDelta :=
  .inl ⟨by decide +kernel, by unfold RendersInterval; decide +kernel⟩

/-- Both renderings of the example have the events at 20 and 35 in the window. -/
theorem histogramWindowAggregate_conserves_example :
    ∃ merged merged', histogramWindowAggregate exampleCumulative ⟨10, 40⟩ = .ok merged ∧
      histogramWindowAggregate exampleDelta ⟨10, 40⟩ = .ok merged' ∧
      Conserves exampleLog ⟨10, 40⟩ (intervalCoverage (exampleDelta.map (·.interval))) merged ∧
      merged'.count = merged.count := by
  obtain ⟨merged, hmerged, -⟩ := exists_ok_of_any
    (show (histogramWindowAggregate exampleCumulative ⟨10, 40⟩).toOption.any
      (fun merged => merged.count = 2) = true by decide +kernel)
  obtain ⟨merged', hmerged', -⟩ := exists_ok_of_any
    (show (histogramWindowAggregate exampleDelta ⟨10, 40⟩).toOption.any
      (fun merged => merged.count = 2) = true by decide +kernel)
  have hcumulative : histogramContributions exampleCumulative ⟨10, 40⟩ = .ok exampleDelta := by
    decide +kernel
  have hdelta : histogramContributions exampleDelta ⟨10, 40⟩ = .ok exampleDelta := by
    decide +kernel
  obtain ⟨contributions, hc, hconserves, hagree⟩ :=
    histogramWindowAggregate_conserves renders_exampleCumulative hmerged
  obtain rfl := Except.ok.inj (hcumulative.symm.trans hc)
  exact ⟨merged, merged', hmerged, hmerged', hconserves,
    (hagree _ _ merged' renders_exampleDelta hmerged' hdelta rfl).1⟩

end RoboticsRuntime.Harness
