import Mathlib.Algebra.BigOperators.Ring.Finset
import Mathlib.Tactic.Linarith
import Mathlib.Tactic.NormNum
import RoboticsRuntime.Harness.Metrics.Counters
import RoboticsRuntime.Harness.Metrics.Histograms
import RoboticsRuntime.Theory.OrderStatistic

/-!
# Counters and histograms over the same window

A counter and the total count of a histogram are read alike: the readings of one epoch, in order of
time, determine what each of the two adds for a window. They differ on an unknown-start marker,
whose population only the counter adds, on an epoch that ends at the window start, whose last
increase only the counter adds, and where the counter rounds: it adds floats.
-/

namespace RoboticsRuntime.Harness
open Theory

/-! ## Readings -/

/-- A number that was read from a cumulative point, with the interval of the point. -/
structure Reading where
  interval : Coverage
  value : ℚ
  deriving DecidableEq

namespace Reading

/-- The key of the epoch of a reading. -/
def epoch (reading : Reading) : SeriesKey × ℤ := (reading.interval.series, reading.interval.startNs)

/-- A reading is earlier than another and not greater. -/
def Precedes (a b : Reading) : Prop := a.interval.endNs < b.interval.endNs ∧ a.value ≤ b.value

instance : IsTrans Reading Precedes :=
  ⟨fun _ _ _ h h' => ⟨h.1.trans h'.1, h.2.trans h'.2⟩⟩

end Reading

def HistogramSample.reading (sample : HistogramSample) : Reading := ⟨sample.interval, sample.count⟩

def MetricSample.reading (sample : MetricSample) : Reading := ⟨sample.interval, sample.value⟩

/-- The readings until the end of the window. -/
def readingsUntil (readings : List Reading) (windowEndNs : ℤ) : List Reading :=
  readings.filter fun reading => reading.interval.endNs ≤ windowEndNs

/-- The epochs that have been read until the end of the window. -/
def epochs (readings : List Reading) (windowEndNs : ℤ) : List (SeriesKey × ℤ) :=
  firsts ((readingsUntil readings windowEndNs).map Reading.epoch)

/-- The readings of one epoch, in order of time. -/
def epochReadings (readings : List Reading) (windowEndNs : ℤ) (epoch : SeriesKey × ℤ) :
    List Reading :=
  ((readingsUntil readings windowEndNs).filter fun reading => reading.epoch = epoch).insertionSort
    fun a b => a.interval.endNs ≤ b.interval.endNs

/-- What a histogram adds for an epoch. -/
def histogramGain (windowStartNs : ℤ) (series : List Reading) : ℚ :=
  match series.head?, series.getLast? with
  | some first, some latest =>
    if latest.interval.endNs ≤ windowStartNs then 0
    else if windowStartNs ≤ latest.interval.startNs then
      if first.interval.startNs = first.interval.endNs then latest.value - first.value
      else latest.value
    else latest.value - (((series.filter fun reading =>
      reading.interval.endNs ≤ windowStartNs).getLast?.map Reading.value).getD 0)
  | _, _ => 0

/-- What a counter adds for an epoch. -/
def counterGain (windowStartNs : ℤ) (series : List Reading) : ℚ :=
  match series.getLast? with
  | some latest =>
    if latest.interval.endNs < windowStartNs then 0
    else if windowStartNs ≤ latest.interval.startNs then latest.value
    else latest.value - (((series.filter fun reading =>
      reading.interval.endNs ≤ windowStartNs ∧
        reading.interval.endNs < latest.interval.endNs).getLast?.map Reading.value).getD 0)
  | none => 0

/-- The readings leave no difference between a counter and a histogram: no marker in the window
carries a population, and no epoch that ends at the window start has just increased. -/
structure WindowsAgree (window : Window) (readings : List Reading) : Prop where
  marker : ∀ m ∈ readings, m.interval.startNs = m.interval.endNs →
    window.startNs ≤ m.interval.startNs → m.interval.endNs ≤ window.endNs → m.value = 0
  boundary : ∀ p ∈ readings, p.interval.endNs = window.startNs → p.interval.endNs ≤ window.endNs →
    (∀ q ∈ readings, q.epoch = p.epoch → q.interval.endNs ≤ window.endNs →
      q.interval.endNs ≤ window.startNs) →
    ∃ q ∈ readings, q.epoch = p.epoch ∧ q.interval.endNs < window.startNs ∧ q.value = p.value

/-! ## One epoch -/

/-- The readings of an epoch as both functions accept them. -/
structure EpochSeries (start : ℤ) (series : List Reading) : Prop where
  precedes : series.Pairwise Reading.Precedes
  start_eq : ∀ r ∈ series, r.interval.startNs = start
  start_le : ∀ r ∈ series, start ≤ r.interval.endNs
  nonneg : ∀ r ∈ series, 0 ≤ r.value

/-- What a counter requires of the latest reading of an epoch. -/
structure CounterAccepts (windowStartNs : ℤ) (series : List Reading) (latest : Reading) : Prop where
  interval : windowStartNs ≤ latest.interval.endNs →
    windowStartNs ≤ latest.interval.startNs → latest.interval.startNs < latest.interval.endNs
  baseline : windowStartNs ≤ latest.interval.endNs → latest.interval.startNs < windowStartNs →
    ∃ b, (series.filter fun reading => reading.interval.endNs ≤ windowStartNs ∧
      reading.interval.endNs < latest.interval.endNs).getLast? = some b

/-- The condition for one epoch. -/
def SeriesAgrees (windowStartNs : ℤ) (series : List Reading) : Prop :=
  (∀ m ∈ series, m.interval.startNs = m.interval.endNs → windowStartNs ≤ m.interval.startNs →
    m.value = 0) ∧
  ∀ p ∈ series, p.interval.endNs = windowStartNs →
    (∀ q ∈ series, q.interval.endNs ≤ windowStartNs) →
    ∃ q ∈ series, q.interval.endNs < windowStartNs ∧ q.value = p.value

namespace EpochSeries
variable {start windowStartNs : ℤ} {series : List Reading} {first latest : Reading}

theorem le_latest (h : EpochSeries start series) (hlatest : series.getLast? = some latest)
    (hr : r ∈ series) : r.interval.endNs ≤ latest.interval.endNs := by
  rcases eq_or_rel_getLast? h.precedes hlatest hr with rfl | hlt
  · exact le_rfl
  · exact hlt.1.le

theorem eq_latest (h : EpochSeries start series) (hlatest : series.getLast? = some latest)
    (hr : r ∈ series) (heq : latest.interval.endNs ≤ r.interval.endNs) : r = latest := by
  rcases eq_or_rel_getLast? h.precedes hlatest hr with rfl | hlt
  · rfl
  · exact absurd hlt.1 (not_lt.2 heq)

/-- A point at the start of its epoch is the first one. -/
theorem eq_first (h : EpochSeries start series) (hfirst : series.head? = some first)
    (hr : r ∈ series) (heq : r.interval.startNs = r.interval.endNs) : r = first := by
  rcases eq_or_rel_head? h.precedes hfirst hr with rfl | hlt
  · rfl
  · have := h.start_le first (List.mem_of_head? hfirst)
    have := h.start_eq r hr
    have := hlt.1
    omega

/-- An epoch that ends before the window adds nothing. -/
theorem gain_past (h : EpochSeries start series) (hlatest : series.getLast? = some latest)
    (hlt : latest.interval.endNs < windowStartNs) : SeriesAgrees windowStartNs series := by
  constructor
  · intro m hm hmark hstart
    have := h.le_latest hlatest hm
    omega
  · intro p hp heq
    have := h.le_latest hlatest hp
    omega

/-- An epoch that ends at the window start adds its last increase to the counter. -/
theorem gain_boundary (h : EpochSeries start series) (hlatest : series.getLast? = some latest)
    (heq : latest.interval.endNs = windowStartNs) (hstart : start < windowStartNs)
    (hb : (series.filter fun reading => reading.interval.endNs ≤ windowStartNs ∧
      reading.interval.endNs < latest.interval.endNs).getLast? = some b) :
    b.value ≤ latest.value ∧ (b.value = latest.value ↔ SeriesAgrees windowStartNs series) := by
  obtain ⟨hmem, hbefore⟩ := List.mem_filter.1 (List.mem_of_getLast? hb)
  simp only [decide_eq_true_eq] at hbefore
  have hle : b.value ≤ latest.value := by
    rcases eq_or_rel_getLast? h.precedes hlatest hmem with rfl | hlt
    · exact le_rfl
    · exact hlt.2
  refine ⟨hle, fun hvalue => ⟨?_, ?_⟩, fun hagrees => ?_⟩
  · intro m hm _ hw
    have := h.start_eq m hm
    omega
  · intro p hp hat _
    obtain rfl := h.eq_latest hlatest hp (heq.trans hat.symm).le
    exact ⟨b, hmem, hbefore.2.trans_eq heq, hvalue⟩
  · obtain ⟨q, hq, hlt, hvalue⟩ := hagrees.2 latest (List.mem_of_getLast? hlatest) heq
      fun q hq => heq ▸ h.le_latest hlatest hq
    have hq' : q ∈ series.filter fun reading => reading.interval.endNs ≤ windowStartNs ∧
        reading.interval.endNs < latest.interval.endNs := by
      simp only [List.mem_filter, decide_eq_true_eq]
      exact ⟨hq, hlt.le, hlt.trans_eq heq.symm⟩
    have hqb : q.value ≤ b.value := by
      rcases eq_or_rel_getLast? (h.precedes.filter _) hb hq' with rfl | hlt
      · exact le_rfl
      · exact hlt.2
    exact le_antisymm hle (hvalue ▸ hqb)

/-- An epoch that starts in the window adds the population of its marker to the counter. -/
theorem gain_fresh (h : EpochSeries start series) (hfirst : series.head? = some first)
    (hlatest : series.getLast? = some latest) (hlt : windowStartNs < latest.interval.endNs)
    (hstart : windowStartNs ≤ start) :
    SeriesAgrees windowStartNs series ↔
      (first.interval.startNs = first.interval.endNs → first.value = 0) := by
  have hmem := List.mem_of_head? hfirst
  constructor
  · intro hagrees hmark
    exact hagrees.1 first hmem hmark (h.start_eq first hmem ▸ hstart)
  · intro hzero
    refine ⟨fun m hm hmark _ => ?_, fun p hp heq hall => ?_⟩
    · obtain rfl := h.eq_first hfirst hm hmark
      exact hzero hmark
    · have := hall latest (List.mem_of_getLast? hlatest)
      omega

/-- An epoch that runs into the window from before is counted alike. -/
theorem gain_continued (h : EpochSeries start series) (hlatest : series.getLast? = some latest)
    (hlt : windowStartNs < latest.interval.endNs) (hstart : start < windowStartNs) :
    SeriesAgrees windowStartNs series := by
  constructor
  · intro m hm _ hw
    have := h.start_eq m hm
    omega
  · intro p _ _ hall
    have := hall latest (List.mem_of_getLast? hlatest)
    omega

/-- A counter never adds less than a histogram for an epoch, and as much when the readings leave no
difference. -/
theorem gains (h : EpochSeries start series) (hfirst : series.head? = some first)
    (hlatest : series.getLast? = some latest) (hc : CounterAccepts windowStartNs series latest) :
    histogramGain windowStartNs series ≤ counterGain windowStartNs series ∧
      (histogramGain windowStartNs series = counterGain windowStartNs series ↔
        SeriesAgrees windowStartNs series) := by
  have hmem := List.mem_of_getLast? hlatest
  have hstart := h.start_eq latest hmem
  simp only [histogramGain, counterGain, hfirst, hlatest, hstart]
  rcases lt_trichotomy latest.interval.endNs windowStartNs with hlt | heq | hgt
  · rw [if_pos hlt.le, if_pos hlt]
    exact ⟨le_rfl, fun _ => h.gain_past hlatest hlt, fun _ => rfl⟩
  · have hbefore : start < windowStartNs := by
      by_contra hge
      have := hc.interval heq.ge (hstart ▸ not_lt.1 hge)
      omega
    obtain ⟨b, hb⟩ := hc.baseline heq.ge (hstart ▸ hbefore)
    obtain ⟨hle, hiff⟩ := h.gain_boundary hlatest heq hbefore hb
    rw [if_pos heq.le, if_neg (not_lt.2 heq.ge), if_neg (not_le.2 hbefore), hb, ← hiff]
    simp only [Option.map_some, Option.getD_some]
    exact ⟨sub_nonneg.2 hle, by rw [eq_comm, sub_eq_zero, eq_comm]⟩
  · rw [if_neg (not_le.2 hgt), if_neg (not_lt.2 hgt.le)]
    by_cases hw : windowStartNs ≤ start
    · rw [if_pos hw, if_pos hw, h.gain_fresh hfirst hlatest hgt hw]
      have hnonneg := h.nonneg first (List.mem_of_head? hfirst)
      split
      · next hmark => simpa [hmark] using hnonneg
      · next hmark => simp [hmark]
    · have hfilter : (series.filter fun reading => reading.interval.endNs ≤ windowStartNs ∧
          reading.interval.endNs < latest.interval.endNs) =
          series.filter fun reading => reading.interval.endNs ≤ windowStartNs := by
        apply List.filter_congr
        intro r _
        rw [decide_eq_decide]
        exact ⟨And.left, fun hle => ⟨hle, hle.trans_lt hgt⟩⟩
      rw [if_neg hw, if_neg hw, hfilter]
      exact ⟨le_rfl, fun _ => h.gain_continued hlatest hgt (not_le.1 hw), fun _ => rfl⟩

end EpochSeries

/-! ## All epochs -/

theorem mem_epochReadings {readings : List Reading} : r ∈ epochReadings readings windowEndNs epoch ↔
    r ∈ readings ∧ r.interval.endNs ≤ windowEndNs ∧ r.epoch = epoch := by
  simp only [epochReadings, readingsUntil, List.mem_insertionSort, List.mem_filter,
    decide_eq_true_eq, and_assoc]

theorem mem_epochs {readings : List Reading} : epoch ∈ epochs readings windowEndNs ↔
    ∃ r ∈ readings, r.interval.endNs ≤ windowEndNs ∧ r.epoch = epoch := by
  simp only [epochs, readingsUntil, mem_firsts, List.mem_map, List.mem_filter, decide_eq_true_eq,
    and_assoc]

theorem epochs_perm {readings readings' : List Reading} (h : readings.Perm readings')
    (windowEndNs : ℤ) : (epochs readings windowEndNs).Perm (epochs readings' windowEndNs) := by
  apply (List.perm_ext_iff_of_nodup (nodup_firsts _) (nodup_firsts _)).2
  intro epoch
  change epoch ∈ epochs readings windowEndNs ↔ epoch ∈ epochs readings' windowEndNs
  simp only [mem_epochs, h.mem_iff]

/-- Readings that are in order are the readings of their epoch. -/
theorem eq_epochReadings {readings series : List Reading} (hs : series.Pairwise Reading.Precedes)
    (hp : series.Perm ((readingsUntil readings windowEndNs).filter fun r => r.epoch = epoch)) :
    series = epochReadings readings windowEndNs epoch := by
  have hsort : (epochReadings readings windowEndNs epoch).Perm
      ((readingsUntil readings windowEndNs).filter fun r => r.epoch = epoch) :=
    List.perm_insertionSort _ _
  have hdistinct : Distinct (·.interval.endNs) series :=
    List.pairwise_map.2 (hs.imp fun h => h.1.ne)
  have hperm := hp.trans hsort.symm
  have hle : series.Pairwise fun a b => a.interval.endNs ≤ b.interval.endNs :=
    hs.imp fun h => h.1.le
  refine List.Perm.eq_of_pairwise ?_ hle (List.pairwise_insertionSort _ _) hperm
  intro a b ha hb hab hba
  exact hdistinct.eq_of_mem ha (hperm.mem_iff.2 hb) (le_antisymm hab hba)

theorem epochReadings_perm {readings readings' : List Reading} (h : readings.Perm readings')
    (hs : (epochReadings readings windowEndNs epoch).Pairwise Reading.Precedes) :
    epochReadings readings windowEndNs epoch = epochReadings readings' windowEndNs epoch := by
  apply eq_epochReadings hs
  exact (List.perm_insertionSort _ _).trans ((h.filter _).filter _)

/-- The condition on the readings is the condition on each epoch. -/
theorem windowsAgree_iff {readings : List Reading} : WindowsAgree window readings ↔
    ∀ epoch ∈ epochs readings window.endNs,
      SeriesAgrees window.startNs (epochReadings readings window.endNs epoch) := by
  constructor
  · intro h epoch _
    refine ⟨fun m hm hmark hw => ?_, fun p hp hat hall => ?_⟩
    · obtain ⟨hm, hle, -⟩ := mem_epochReadings.1 hm
      exact h.marker m hm hmark hw hle
    · obtain ⟨hp, hle, hepoch⟩ := mem_epochReadings.1 hp
      obtain ⟨q, hq, hqe, hlt, hvalue⟩ := h.boundary p hp hat hle fun q hq hqe hqle =>
        hall q (mem_epochReadings.2 ⟨hq, hqle, hqe.trans hepoch⟩)
      exact ⟨q, mem_epochReadings.2 ⟨hq, (hlt.trans_eq hat.symm).le.trans hle, hqe.trans hepoch⟩,
        hlt, hvalue⟩
  · intro h
    refine ⟨fun m hm hmark hw hle => ?_, fun p hp hat hle hall => ?_⟩
    · exact (h m.epoch (mem_epochs.2 ⟨m, hm, hle, rfl⟩)).1 m
        (mem_epochReadings.2 ⟨hm, hle, rfl⟩) hmark hw
    · obtain ⟨q, hq, hlt, hvalue⟩ := (h p.epoch (mem_epochs.2 ⟨p, hp, hle, rfl⟩)).2 p
        (mem_epochReadings.2 ⟨hp, hle, rfl⟩) hat fun q hq => by
          obtain ⟨hq, hqle, hqe⟩ := mem_epochReadings.1 hq
          exact hall q hq hqe hqle
      obtain ⟨hq, -, hqe⟩ := mem_epochReadings.1 hq
      exact ⟨q, hq, hqe, hlt, hvalue⟩

/-- Sums over a list of terms that are ordered one by one are equal when all terms are. -/
theorem sum_eq_sum_iff_of_le {l : List α} {f g : α → ℚ} (h : ∀ a ∈ l, f a ≤ g a) :
    (l.map f).sum ≤ (l.map g).sum ∧
      ((l.map f).sum = (l.map g).sum ↔ ∀ a ∈ l, f a = g a) := by
  induction l with
  | nil => simp
  | cons a l ih =>
    obtain ⟨ha, hl⟩ := List.forall_mem_cons.1 h
    obtain ⟨hle, hiff⟩ := ih hl
    rw [List.map_cons, List.map_cons, List.sum_cons, List.sum_cons, List.forall_mem_cons, ← hiff]
    refine ⟨add_le_add ha hle, fun heq => ?_, fun ⟨h1, h2⟩ => by rw [h1, h2]⟩
    constructor <;> linarith

/-- The terms of a sum that some elements of a list add. -/
theorem sum_filterMap_of_forall₂ {results : List (Option β)} {l : List α} {v : β → ℚ} {w : α → ℚ}
    (h : List.Forall₂ (fun r a => (r.map v).getD 0 = w a) results l) :
    ((results.filterMap id).map v).sum = (l.map w).sum := by
  induction h with
  | nil => rfl
  | @cons r a results l ha _ ih =>
    rw [List.map_cons, List.sum_cons, ← ih, ← ha]
    cases r <;> simp

section
variable {reading : α → Reading} {samples ordered : List α}

theorem map_group_eq {g : (SeriesKey × ℤ) × List α}
    (hg : g ∈ groups (fun s => (reading s).epoch) (samples.filter fun s =>
      (reading s).interval.endNs ≤ windowEndNs))
    (hp : ordered.Perm g.2) (hs : (ordered.map reading).Pairwise Reading.Precedes) :
    ordered.map reading = epochReadings (samples.map reading) windowEndNs g.1 := by
  apply eq_epochReadings hs
  refine (hp.map reading).trans (List.Perm.of_eq ?_)
  rw [(mem_groups.1 hg).2, readingsUntil, List.filter_map, List.filter_map]
  rfl

/-- What a function makes group by group it makes epoch by epoch. -/
theorem forall₂_epochs {β : Type} {f : (SeriesKey × ℤ) × List α → Except MetricFailure β}
    {Q : β → List Reading → Prop} {windowEndNs : ℤ} {results : List β}
    (hgroup : ∀ g ∈ groups (fun s => (reading s).epoch) (samples.filter fun s =>
        (reading s).interval.endNs ≤ windowEndNs), ∀ result, f g = .ok result →
      Q result (epochReadings (samples.map reading) windowEndNs g.1))
    (h : (groups (fun s => (reading s).epoch) (samples.filter fun s =>
      (reading s).interval.endNs ≤ windowEndNs)).mapM f = .ok results) :
    List.Forall₂ (fun result epoch => Q result (epochReadings (samples.map reading) windowEndNs epoch))
      results (epochs (samples.map reading) windowEndNs) := by
  have hepochs : epochs (samples.map reading) windowEndNs =
      (groups (fun s => (reading s).epoch) (samples.filter fun s =>
        (reading s).interval.endNs ≤ windowEndNs)).map Prod.fst := by
    rw [groups, List.map_map, epochs, readingsUntil, List.filter_map, List.map_map]
    exact (List.map_id _).symm
  rw [hepochs, List.forall₂_map_right_iff]
  refine List.Forall₂.flip ?_
  exact ((List.forall₂_and_left _ _).2 ⟨fun _ hg => hg, mapM_eq_ok.1 h⟩).imp
    fun g result hr => hgroup g hr.1 result hr.2

end

/-! ## The histogram -/

/-- The events that an epoch contributes to a histogram. -/
theorem Contributes.count_eq {ordered : List HistogramSample} (hfirst : ordered.head? = some first)
    (hlatest : ordered.getLast? = some latest)
    (h : Contributes ordered first latest windowStartNs contribution) :
    (contribution.map fun c => (c.count : ℚ)).getD 0 =
      histogramGain windowStartNs (ordered.map HistogramSample.reading) := by
  simp only [histogramGain, List.head?_map, List.getLast?_map, hfirst, hlatest, Option.map_some]
  cases h with
  | past hle =>
    rw [if_pos (show latest.reading.interval.endNs ≤ windowStartNs from hle)]
    rfl
  | fresh hw hstart hne =>
    rw [if_neg (not_le.2 (show windowStartNs < latest.reading.interval.endNs from hw)),
      if_pos (show windowStartNs ≤ latest.reading.interval.startNs from hstart),
      if_neg (show first.reading.interval.startNs ≠ first.reading.interval.endNs from hne)]
    rfl
  | marked hw hstart heq hd =>
    rw [if_neg (not_le.2 (show windowStartNs < latest.reading.interval.endNs from hw)),
      if_pos (show windowStartNs ≤ latest.reading.interval.startNs from hstart),
      if_pos (show first.reading.interval.startNs = first.reading.interval.endNs from heq),
      Option.map_some, Option.getD_some, hd.count, Int.cast_sub]
    rfl
  | continued hw hstart hbaseline hd =>
    obtain ⟨last, hlast, hfields, -⟩ := windowBaseline_eq_ok hbaseline
    have hfilter : (ordered.map HistogramSample.reading).filter (fun reading =>
        reading.interval.endNs ≤ windowStartNs) = (ordered.filter fun sample =>
        sample.observedAtNs ≤ windowStartNs).map HistogramSample.reading := List.filter_map
    rw [if_neg (not_le.2 (show windowStartNs < latest.reading.interval.endNs from hw)),
      if_neg (not_le.2 (show latest.reading.interval.startNs < windowStartNs from hstart)),
      hfilter, List.getLast?_map, hlast, Option.map_some, Option.getD_some, hd.count, hfields,
      Int.cast_sub]
    rfl

theorem Precedes.reading (h : Precedes a b) : Reading.Precedes a.reading b.reading :=
  ⟨h.1, Int.cast_le.2 h.2⟩

/-- The contributions of cumulative points count what every epoch adds. -/
theorem cumulativeContributions_sum {samples : List HistogramSample}
    (h : cumulativeContributions samples window = .ok contributions) :
    (contributions.map fun c => (c.count : ℚ)).sum =
        ((epochs (samples.map HistogramSample.reading) window.endNs).map fun epoch =>
          histogramGain window.startNs
            (epochReadings (samples.map HistogramSample.reading) window.endNs epoch)).sum ∧
      ∀ epoch ∈ epochs (samples.map HistogramSample.reading) window.endNs,
        (epochReadings (samples.map HistogramSample.reading) window.endNs epoch).Pairwise
          Reading.Precedes := by
  obtain ⟨results, hresults, h⟩ := bind_eq_ok.1 h
  obtain rfl := Except.ok.inj h
  let Counts (result : Option HistogramSample) (series : List Reading) : Prop :=
    series.Pairwise Reading.Precedes ∧
      (result.map fun c => (c.count : ℚ)).getD 0 = histogramGain window.startNs series
  have hcounts : ∀ g ∈ groups HistogramSample.epoch (samples.filter fun sample =>
      sample.observedAtNs ≤ window.endNs), ∀ result,
      cumulativeWindowSample g.2 window.startNs = .ok result →
      Counts result (epochReadings (samples.map HistogramSample.reading) window.endNs g.1) := by
    intro g hg result hresult
    obtain ⟨ordered, first, latest, hperm, hpairs, hfirst, hlatest, hc⟩ :=
      cumulativeWindowSample_eq_ok (groups_ne_nil hg) hresult
    have hreadings : (ordered.map HistogramSample.reading).Pairwise Reading.Precedes :=
      List.pairwise_map.2 (hpairs.imp Precedes.reading)
    rw [← map_group_eq hg hperm hreadings]
    exact ⟨hreadings, hc.count_eq hfirst hlatest⟩
  have hepochs : List.Forall₂ (fun result epoch =>
      Counts result (epochReadings (samples.map HistogramSample.reading) window.endNs epoch))
      results (epochs (samples.map HistogramSample.reading) window.endNs) :=
    forall₂_epochs hcounts hresults
  refine ⟨sum_filterMap_of_forall₂ (hepochs.imp fun _ _ h => h.2), fun epoch he => ?_⟩
  obtain ⟨_, -, hprecedes, -⟩ := exists_of_forall₂_mem hepochs he
  exact hprecedes

/-! ## Adding floats -/

/-- Adding numbers to a total rounds nothing. -/
def AddsExactly : ℚ → List ℚ → Prop
  | _, [] => True
  | total, gain :: gains => double gain = gain ∧ InRange (total + gain) ∧
      double (total + gain) = total + gain ∧ AddsExactly (total + gain) gains

/-- One event more than `2 ^ 53` is lost. -/
example : [9007199254740992, 1].foldl addFloat 0 = ((9007199254740992 : ℚ) : ExtendedFloat) := by
  decide +kernel

/-- What a counter adds for the gain of an epoch: the gain or its float, or nothing. -/
inductive AddsGain : Option ℚ → ℚ → Prop
  | skipped : AddsGain none 0
  | taken (gain : ℚ) : AddsGain (some gain) gain
  | rounded (gain : ℚ) : AddsGain (some (double gain)) gain

theorem roundFloat_of_inRange {value : ℚ} (h : InRange value) :
    roundFloat value = (double value : ℚ) := by
  obtain ⟨hlow, hhigh⟩ := abs_lt.1 h
  rw [roundFloat, if_neg (not_le.2 hhigh), if_neg (not_le.2 hlow)]

theorem inRange_of_lt {n : ℕ} (h : n < 2 ^ 53) : InRange n := by
  have hn : (n : ℚ) < 2 ^ 53 := by exact_mod_cast h
  have hone : (1 : ℚ) ≤ 2 ^ (970 : ℤ) := one_le_zpow₀ one_le_two (by decide)
  rw [InRange, Nat.abs_cast, floatLimit_eq]
  calc (n : ℚ) < (2 ^ 54 - 1) * 1 := by linarith only [hn]
    _ ≤ (2 ^ 54 - 1) * 2 ^ (970 : ℤ) := mul_le_mul_of_nonneg_left hone (by norm_num)

theorem double_natCast {n : ℕ} (h : n < 2 ^ 53) : double n = n := by
  have := double_intCast (n := n) (by rw [Nat.abs_cast]; exact_mod_cast h)
  exact_mod_cast this

/-- Exact additions give the exact total. -/
theorem foldl_addFloat_of_exact {added : List (Option ℚ)} {gains : List ℚ}
    (h : List.Forall₂ AddsGain added gains) {total : ℚ} (hexact : AddsExactly total gains) :
    (added.filterMap id).foldl addFloat (total : ExtendedFloat) =
      ((total + gains.sum : ℚ) : ExtendedFloat) := by
  induction h generalizing total with
  | nil => simp
  | @cons a gain added gains ha _ ih =>
    obtain ⟨hgain, hrange, hsum, hexact⟩ := hexact
    have hrest := ih hexact
    have hadd : addFloat (total : ExtendedFloat) gain = ((total + gain : ℚ) : ExtendedFloat) := by
      rw [show addFloat (total : ExtendedFloat) gain = roundFloat (total + gain) from rfl,
        roundFloat_of_inRange hrange, hsum]
    rw [List.sum_cons, ← add_assoc, ← hrest]
    cases ha with
    | skipped => simp
    | taken => simp [hadd]
    | rounded => simp [hgain, hadd]

theorem double_two_pow : double (2 ^ 53) = 2 ^ 53 := by
  have := @roundToPrecision_two_zpow 53 (-1074) (by decide) 53 (by decide)
  exact_mod_cast this

/-- A total that needs more than 53 digits does not fall below. -/
theorem le_roundFloat {value : ℚ} (h : 2 ^ 53 ≤ value) :
    ((2 ^ 53 : ℚ) : ExtendedFloat) ≤ roundFloat value := by
  have hpos : 0 < floatLimit := by
    rw [floatLimit_eq]
    positivity
  unfold roundFloat
  split_ifs with hhigh hlow
  · exact le_top
  · linarith only [h, hlow, hpos]
  · exact WithBotTop.coe_le_coe.2 (double_two_pow ▸ double_mono h)

theorem le_foldl_addFloat {values : List ℚ} (hvalues : ∀ v ∈ values, 0 ≤ v) {total : ExtendedFloat}
    (h : ((2 ^ 53 : ℚ) : ExtendedFloat) ≤ total) :
    ((2 ^ 53 : ℚ) : ExtendedFloat) ≤ values.foldl addFloat total := by
  induction values generalizing total with
  | nil => exact h
  | cons value values ih =>
    obtain ⟨hvalue, hvalues⟩ := List.forall_mem_cons.1 hvalues
    refine ih hvalues ?_
    match total with
    | ⊥ => exact absurd h (by simp)
    | ⊤ => exact le_top
    | (t : ℚ) => exact le_roundFloat ((WithBotTop.coe_le_coe.1 h).trans (le_add_of_nonneg_right hvalue))

namespace AddsGain

theorem eq_zero {n : ℕ} (h : AddsGain none (n : ℚ)) : n = 0 := by
  generalize hgain : (n : ℚ) = gain at h
  cases h
  exact_mod_cast hgain

theorem eq_or {value gain : ℚ} (h : AddsGain (some value) gain) :
    value = gain ∨ value = double gain := by
  cases h with
  | taken => exact .inl rfl
  | rounded => exact .inr rfl

theorem eq_of_lt {value : ℚ} {n : ℕ} (h : AddsGain (some value) n) (hn : n < 2 ^ 53) :
    value = n := by
  rcases h.eq_or with rfl | rfl
  · rfl
  · exact double_natCast hn

/-- A sum that reaches `2 ^ 53` does so after its last number was rounded. -/
theorem le_add {value : ℚ} {n : ℕ} (h : AddsGain (some value) n) {total : ℚ}
    (hsum : 2 ^ 53 ≤ total + n) (htotal : 0 ≤ total) : 2 ^ 53 ≤ total + value := by
  rcases lt_or_ge n (2 ^ 53) with hn | hn
  · rwa [h.eq_of_lt hn]
  · have hcast : (2 ^ 53 : ℚ) ≤ n := by exact_mod_cast hn
    refine (?_ : (2 ^ 53 : ℚ) ≤ value).trans (le_add_of_nonneg_left htotal)
    rcases h.eq_or with rfl | rfl
    · exact hcast
    · exact double_two_pow ▸ double_mono hcast

theorem nonneg {added : List (Option ℚ)} {gains : List ℚ} (h : List.Forall₂ AddsGain added gains)
    (hgains : ∀ gain ∈ gains, ∃ n : ℕ, gain = n) : ∀ value ∈ added.filterMap id, 0 ≤ value := by
  intro value hvalue
  obtain ⟨a, ha, rfl : a = some value⟩ := List.mem_filterMap.1 hvalue
  obtain ⟨gain, hgain, hadds⟩ := exists_of_forall₂_mem h.flip ha
  obtain ⟨n, rfl⟩ := hgains gain hgain
  rcases eq_or hadds with rfl | rfl
  · exact n.cast_nonneg
  · exact double_nonneg n.cast_nonneg

end AddsGain

/-- A total of integers below `2 ^ 53` was never rounded. -/
theorem addsExactly_of_lt {added : List (Option ℚ)} {gains : List ℚ}
    (h : List.Forall₂ AddsGain added gains) (hgains : ∀ gain ∈ gains, ∃ n : ℕ, gain = n) {total : ℕ}
    (htotal : total < 2 ^ 53) {result : ℚ}
    (hresult : (added.filterMap id).foldl addFloat ((total : ℚ) : ExtendedFloat) = result)
    (hlt : result < 2 ^ 53) : AddsExactly total gains := by
  induction h generalizing total with
  | nil => trivial
  | @cons a gain added gains ha hrest ih =>
    obtain ⟨⟨n, rfl⟩, hnext⟩ := List.forall_mem_cons.1 hgains
    cases a with
    | none =>
      obtain rfl : n = 0 := ha.eq_zero
      refine ⟨double_natCast (by decide), ?_, ?_, ?_⟩ <;> rw [Nat.cast_zero, add_zero]
      · exact inRange_of_lt htotal
      · exact double_natCast htotal
      · exact ih hnext htotal hresult
    | some value =>
      have hsmall : total + n < 2 ^ 53 := by
        by_contra hlarge
        have hle : (2 ^ 53 : ℚ) ≤ total + value := by
          have : (2 ^ 53 : ℚ) ≤ total + n := by exact_mod_cast not_lt.1 hlarge
          exact ha.le_add this (by positivity)
        have hrounded : ((2 ^ 53 : ℚ) : ExtendedFloat) ≤ result :=
          hresult ▸ le_foldl_addFloat (AddsGain.nonneg hrest hnext) (le_roundFloat hle)
        exact absurd (WithBotTop.coe_le_coe.1 hrounded) (not_le.2 hlt)
      obtain rfl : value = n := ha.eq_of_lt (by omega)
      have hsum : ((total + n : ℕ) : ℚ) = total + n := Nat.cast_add total n
      have hadd : addFloat ((total : ℚ) : ExtendedFloat) n = (((total + n : ℕ) : ℚ) : ExtendedFloat) := by
        rw [← double_natCast hsmall, ← roundFloat_of_inRange (inRange_of_lt hsmall), hsum]
        rfl
      refine ⟨double_natCast (by omega), ?_, ?_, ?_⟩ <;> rw [← hsum]
      · exact inRange_of_lt hsmall
      · exact double_natCast hsmall
      · refine ih hnext hsmall ?_
        rw [← hadd]
        exact hresult

/-! ## The counter -/

/-- What a counter accepts as the readings of an epoch. -/
def CounterSeries (windowStartNs : ℤ) (series : List Reading) : Prop :=
  series.Pairwise Reading.Precedes ∧
    ∃ latest, series.getLast? = some latest ∧ CounterAccepts windowStartNs series latest

theorem counterIncrease_eq_ok
    (h : counterIncrease metricName ordered latest windowStartNs = .ok added) :
    (windowStartNs ≤ latest.startTimeNs ∧ added = (latest.value, latest.startTimeNs)) ∨
      (latest.startTimeNs < windowStartNs ∧ ∃ b, (ordered.filter fun sample =>
          sample.startTimeNs = latest.startTimeNs ∧ sample.observedAtNs ≤ windowStartNs ∧
            sample.observedAtNs < latest.observedAtNs).getLast? = some b ∧
        added = (double (latest.value - b.value), b.observedAtNs)) := by
  unfold counterIncrease at h
  split at h
  · next hle => exact .inl ⟨hle, (Except.ok.inj h).symm⟩
  · next hlt =>
    obtain ⟨b, hb, h⟩ := bind_eq_ok.1 h
    exact .inr ⟨not_le.1 hlt, b, demand_eq_ok.1 hb, (Except.ok.inj h).symm⟩

theorem counterPairs_precede {ordered : List MetricSample}
    (hpairs : ∀ pair ∈ ordered.zip ordered.tail, checkCounterPair metricName pair.1 pair.2 = .ok ())
    (hsorted : ordered.Pairwise fun a b => a.observedAtNs ≤ b.observedAtNs) :
    (ordered.map MetricSample.reading).Pairwise Reading.Precedes := by
  rw [← List.isChain_iff_pairwise, List.isChain_map, ← forall_zip_tail]
  intro pair hpair
  have hle := forall_zip_tail.2 hsorted.isChain pair hpair
  have hchecked := hpairs pair hpair
  simp only [checkCounterPair, seq_eq_ok, require_eq_ok] at hchecked
  exact ⟨lt_of_le_of_ne hle (Ne.symm hchecked.1), hchecked.2⟩

/-- The increase that an epoch adds to a counter. -/
theorem counterSeries_eq_ok {series : List MetricSample} (hne : series ≠ [])
    (hstart : ∀ sample ∈ series, sample.startTimeNs = start)
    (h : counterSeries metricName windowStartNs seriesKey series = .ok result) :
    ∃ ordered : List MetricSample, ordered.Perm series ∧
      CounterSeries windowStartNs (ordered.map MetricSample.reading) ∧
      AddsGain (result.map (·.1)) (counterGain windowStartNs (ordered.map MetricSample.reading)) := by
  have hperm := List.perm_insertionSort
    (fun a b : MetricSample => a.observedAtNs ≤ b.observedAtNs) series
  have hsorted := List.pairwise_insertionSort
    (fun a b : MetricSample => a.observedAtNs ≤ b.observedAtNs) series
  obtain ⟨hpairs, h⟩ := seq_eq_ok.1 h
  generalize List.insertionSort (fun a b : MetricSample => a.observedAtNs ≤ b.observedAtNs)
    series = ordered at hperm hsorted hpairs h
  have hne : ordered ≠ [] := fun hnil => hne (hnil ▸ hperm).nil_eq.symm
  have hlatest := List.getLast?_eq_some_getLast hne
  generalize ordered.getLast hne = latest at hlatest
  have hprecedes := counterPairs_precede (forM_eq_ok.1 hpairs) hsorted
  have hlast : (ordered.map MetricSample.reading).getLast? = some latest.reading := by
    rw [List.getLast?_map, hlatest, Option.map_some]
  have hfilter : (ordered.map MetricSample.reading).filter (fun reading =>
      reading.interval.endNs ≤ windowStartNs ∧
        reading.interval.endNs < latest.reading.interval.endNs) = (ordered.filter fun sample =>
      sample.startTimeNs = latest.startTimeNs ∧ sample.observedAtNs ≤ windowStartNs ∧
        sample.observedAtNs < latest.observedAtNs).map MetricSample.reading := by
    have hlatest' := hstart latest (hperm.mem_iff.1 (List.mem_of_getLast? hlatest))
    rw [List.filter_map]
    congr 1
    apply List.filter_congr
    intro sample hs
    rw [Function.comp_apply, decide_eq_decide, hstart sample (hperm.mem_iff.1 hs), hlatest']
    exact ⟨fun h => ⟨rfl, h⟩, And.right⟩
  suffices hs : CounterAccepts windowStartNs (ordered.map MetricSample.reading) latest.reading ∧
      AddsGain (result.map (·.1)) (counterGain windowStartNs (ordered.map MetricSample.reading)) from
    ⟨ordered, hperm, ⟨hprecedes, latest.reading, hlast, hs.1⟩, hs.2⟩
  simp only [counterGain, hlast]
  rw [hlatest] at h
  dsimp only at h
  split at h
  · next hpast =>
    obtain rfl := Except.ok.inj h
    have hpast : latest.reading.interval.endNs < windowStartNs := hpast
    rw [if_pos hpast]
    exact ⟨⟨fun hge => absurd hpast (not_lt.2 hge), fun hge => absurd hpast (not_lt.2 hge)⟩,
      .skipped⟩
  · next hnow =>
    obtain ⟨added, hadded, h⟩ := bind_eq_ok.1 h
    simp only [seq_eq_ok, require_eq_ok] at h
    obtain ⟨-, hpositive, h⟩ := h
    obtain rfl := Except.ok.inj h
    rw [if_neg (show ¬ latest.reading.interval.endNs < windowStartNs from hnow)]
    rcases counterIncrease_eq_ok hadded with ⟨hw, rfl⟩ | ⟨hw, b, hb, rfl⟩
    · have hw : windowStartNs ≤ latest.reading.interval.startNs := hw
      rw [if_pos hw]
      exact ⟨⟨fun _ _ => hpositive, fun _ hlt => absurd hlt (not_lt.2 hw)⟩, .taken _⟩
    · have hw : latest.reading.interval.startNs < windowStartNs := hw
      rw [if_neg (not_le.2 hw), hfilter, List.getLast?_map, hb]
      refine ⟨⟨fun _ hle => absurd hw (not_lt.2 hle), fun _ _ => ⟨b.reading, ?_⟩⟩, .rounded _⟩
      rw [hfilter, List.getLast?_map, hb, Option.map_some]

/-- What every epoch adds to a counter, in the order of the first reading of each. -/
def counterGains (window : Window) (readings : List Reading) : List ℚ :=
  (epochs readings window.endNs).map fun epoch =>
    counterGain window.startNs (epochReadings readings window.endNs epoch)

/-- A counter of cumulative points adds up what every epoch adds. -/
theorem cumulativeCounter_total {counters : List MetricSample}
    (h : cumulativeCounter metricName counters window = .ok result) :
    (∃ added, List.Forall₂ AddsGain added
        (counterGains window (counters.map MetricSample.reading)) ∧
      result.total = (added.filterMap id).foldl addFloat 0) ∧
      ∀ epoch ∈ epochs (counters.map MetricSample.reading) window.endNs,
        CounterSeries window.startNs
          (epochReadings (counters.map MetricSample.reading) window.endNs epoch) := by
  obtain ⟨results, hresults, h⟩ := bind_eq_ok.1 h
  obtain ⟨-, h⟩ := seq_eq_ok.1 h
  obtain ⟨-, h⟩ := seq_eq_ok.1 h
  obtain rfl := Except.ok.inj h
  let Adds (result : Option (ℚ × Coverage)) (series : List Reading) : Prop :=
    CounterSeries window.startNs series ∧
      AddsGain (result.map (·.1)) (counterGain window.startNs series)
  have hadds : ∀ g ∈ groups MetricSample.epoch (counters.filter fun sample =>
      sample.observedAtNs ≤ window.endNs), ∀ result,
      counterSeries metricName window.startNs g.1.1 g.2 = .ok result →
      Adds result (epochReadings (counters.map MetricSample.reading) window.endNs g.1) := by
    intro g hg result hresult
    obtain ⟨ordered, hperm, hseries, hgain⟩ := counterSeries_eq_ok (groups_ne_nil hg)
      (fun sample hs => congrArg Prod.snd (mem_of_mem_groups hg hs).2) hresult
    rw [← map_group_eq hg hperm hseries.1]
    exact ⟨hseries, hgain⟩
  have hepochs : List.Forall₂ (fun result epoch =>
      Adds result (epochReadings (counters.map MetricSample.reading) window.endNs epoch))
      results (epochs (counters.map MetricSample.reading) window.endNs) :=
    forall₂_epochs hadds hresults
  refine ⟨⟨results.map fun result => result.map (·.1), ?_, ?_⟩, fun epoch he => ?_⟩
  · rw [counterGains, List.forall₂_map_left_iff, List.forall₂_map_right_iff]
    exact hepochs.imp fun _ _ h => h.2
  · rw [List.filterMap_map]
    change ((results.filterMap id).map (·.1)).foldl addFloat 0 = _
    rw [List.map_filterMap]
    rfl
  · obtain ⟨_, -, hseries, -⟩ := exists_of_forall₂_mem hepochs he
    exact hseries

/-- Over the same readings, the counter adds up to the histogram when no epoch differs. -/
theorem gains_sum_iff {readings readings' : List Reading} {window : Window}
    (hperm : readings'.Perm readings)
    (hseries : ∀ epoch ∈ epochs readings window.endNs,
      EpochSeries epoch.2 (epochReadings readings window.endNs epoch))
    (haccepted : ∀ epoch ∈ epochs readings' window.endNs,
      CounterSeries window.startNs (epochReadings readings' window.endNs epoch)) :
    (counterGains window readings').sum =
      ((epochs readings window.endNs).map fun epoch =>
        histogramGain window.startNs (epochReadings readings window.endNs epoch)).sum ↔
      WindowsAgree window readings := by
  have hepochs := epochs_perm hperm window.endNs
  have hsame : ∀ epoch ∈ epochs readings window.endNs,
      epochReadings readings window.endNs epoch = epochReadings readings' window.endNs epoch :=
    fun epoch he => epochReadings_perm hperm.symm (hseries epoch he).precedes
  have hgains : ∀ epoch ∈ epochs readings window.endNs,
      histogramGain window.startNs (epochReadings readings window.endNs epoch) ≤
          counterGain window.startNs (epochReadings readings window.endNs epoch) ∧
        (histogramGain window.startNs (epochReadings readings window.endNs epoch) =
            counterGain window.startNs (epochReadings readings window.endNs epoch) ↔
          SeriesAgrees window.startNs (epochReadings readings window.endNs epoch)) := by
    intro epoch he
    obtain ⟨-, latest, hlatest, haccepts⟩ := haccepted epoch (hepochs.mem_iff.2 he)
    rw [← hsame epoch he] at hlatest haccepts
    have hne := List.ne_nil_of_mem (List.mem_of_getLast? hlatest)
    exact (hseries epoch he).gains (List.head?_eq_some_head hne) hlatest haccepts
  have hcounter : (counterGains window readings').sum =
      ((epochs readings window.endNs).map fun epoch =>
        counterGain window.startNs (epochReadings readings window.endNs epoch)).sum := by
    rw [counterGains, (hepochs.map _).sum_eq]
    exact congrArg List.sum (List.map_congr_left fun epoch he => by rw [hsame epoch he])
  rw [hcounter, windowsAgree_iff, eq_comm,
    (sum_eq_sum_iff_of_le fun epoch he => (hgains epoch he).1).2]
  exact forall₂_congr fun epoch he => (hgains epoch he).2

/-! ## Main result -/

/-- The points that a counter selects. -/
def selectedCounters (samples : List MetricPoint) (metricName : String)
    (attributeMatch : SeriesKey) : List MetricSample :=
  (matchingPoints samples metricName attributeMatch).filterMap MetricPoint.counter?

/-- A counter and a histogram are given the same cumulative points. -/
structure SamePoints (counters : List MetricSample) (histograms : List HistogramSample) : Prop where
  counter_temporality : ∀ counter ∈ counters, counter.temporality = some .cumulative
  histogram_temporality : ∀ histogram ∈ histograms, histogram.temporality = .cumulative
  readings : (counters.map MetricSample.reading).Perm (histograms.map HistogramSample.reading)

theorem counterWindowAggregate_eq_ok
    (h : counterWindowAggregate py samples metricName attributeMatch expectedUnit window =
      .ok counter)
    (hc : ∀ counter ∈ selectedCounters samples metricName attributeMatch,
      counter.temporality = some .cumulative) :
    cumulativeCounter metricName (selectedCounters samples metricName attributeMatch) window =
      .ok counter := by
  simp only [counterWindowAggregate, seq_eq_ok, require_eq_ok] at h
  obtain ⟨-, -, -, -, -, h⟩ := h
  rw [← selectedCounters] at h
  cases hcounters : selectedCounters samples metricName attributeMatch with
  | nil =>
    rw [hcounters] at h
    cases h
  | cons first rest =>
    have hfirst := hc first (hcounters ▸ List.mem_cons_self)
    rw [hcounters, List.head?_cons, Option.bind_some, hfirst] at h
    exact h

theorem histogramWindowAggregate_cumulative {histograms : List HistogramSample}
    (h : histogramWindowAggregate histograms window = .ok merged)
    (hc : ∀ histogram ∈ histograms, histogram.temporality = .cumulative) :
    ∃ contributions, cumulativeContributions histograms window = .ok contributions ∧
      (merged.count : ℚ) = (contributions.map fun c => (c.count : ℚ)).sum := by
  obtain ⟨contributions, hcontributions, hmerged, -⟩ := histogramWindowAggregate_eq_ok h
  refine ⟨contributions, ?_, ?_⟩
  · cases histograms with
    | nil => cases hcontributions
    | cons first rest =>
      obtain ⟨-, hcontributions⟩ := seq_eq_ok.1 hcontributions
      rwa [hc first List.mem_cons_self] at hcontributions
  · rw [(mergeHistograms_eq_ok hmerged).count, Int.cast_list_sum, List.map_map]
    rfl

/-- The readings of an epoch of histogram points. -/
theorem epochSeries_of_histograms {histograms : List HistogramSample}
    (h : (epochReadings (histograms.map HistogramSample.reading) windowEndNs epoch).Pairwise
      Reading.Precedes) :
    EpochSeries epoch.2 (epochReadings (histograms.map HistogramSample.reading) windowEndNs epoch) := by
  refine ⟨h, fun r hr => congrArg Prod.snd (mem_epochReadings.1 hr).2.2, fun r hr => ?_,
    fun r hr => ?_⟩
  · obtain ⟨hr, -, hepoch⟩ := mem_epochReadings.1 hr
    obtain ⟨sample, -, rfl⟩ := List.mem_map.1 hr
    exact hepoch ▸ sample.start_le_observed
  · obtain ⟨sample, -, rfl⟩ := List.mem_map.1 (mem_epochReadings.1 hr).1
    exact Int.cast_nonneg sample.count_nonneg

/-- The gain of an epoch whose readings are counts is a count. -/
theorem exists_counterGain {series : List Reading} (hprecedes : series.Pairwise Reading.Precedes)
    (hcounts : ∀ r ∈ series, ∃ n : ℕ, r.value = n) (windowStartNs : ℤ) :
    ∃ n : ℕ, counterGain windowStartNs series = n := by
  cases hlatest : series.getLast? with
  | none => exact ⟨0, by simp [counterGain, hlatest]⟩
  | some latest =>
    obtain ⟨count, hcount⟩ := hcounts latest (List.mem_of_getLast? hlatest)
    simp only [counterGain, hlatest]
    split
    · exact ⟨0, Nat.cast_zero.symm⟩
    · split
      · exact ⟨count, hcount⟩
      · cases hb : (series.filter fun reading => reading.interval.endNs ≤ windowStartNs ∧
            reading.interval.endNs < latest.interval.endNs).getLast? with
        | none => exact ⟨count, by simp [hcount]⟩
        | some b =>
          have hmem := (List.mem_filter.1 (List.mem_of_getLast? hb)).1
          obtain ⟨base, hbase⟩ := hcounts b hmem
          have hle : b.value ≤ latest.value := by
            rcases eq_or_rel_getLast? hprecedes hlatest hmem with rfl | hlt
            · exact le_rfl
            · exact hlt.2
          rw [hbase, hcount, Nat.cast_le] at hle
          exact ⟨count - base, by simp [hcount, hbase, Nat.cast_sub hle]⟩

/-- A counter and a histogram over the same cumulative points add up to the same total when no
marker in the window carries a population, no epoch that ends at the window start has just
increased, and the counter rounds nothing. As long as the events are fewer than `2 ^ 53`, they do
not otherwise. -/
theorem counterWindow_eq_histogramWindow_iff {histograms : List HistogramSample}
    (hpoints : SamePoints (selectedCounters samples metricName attributeMatch) histograms)
    (hcounter : counterWindowAggregate py samples metricName attributeMatch expectedUnit window =
      .ok counter)
    (hhistogram : histogramWindowAggregate histograms window = .ok merged) :
    (WindowsAgree window (histograms.map HistogramSample.reading) ∧
        AddsExactly 0 (counterGains window
          ((selectedCounters samples metricName attributeMatch).map MetricSample.reading)) →
      counter.total = ((merged.count : ℚ) : ExtendedFloat)) ∧
    (merged.count < 2 ^ 53 → counter.total = ((merged.count : ℚ) : ExtendedFloat) →
      WindowsAgree window (histograms.map HistogramSample.reading) ∧
        AddsExactly 0 (counterGains window
          ((selectedCounters samples metricName attributeMatch).map MetricSample.reading))) := by
  have hcounter := counterWindowAggregate_eq_ok hcounter hpoints.counter_temporality
  obtain ⟨⟨added, hadded, htotal⟩, haccepted⟩ := cumulativeCounter_total hcounter
  obtain ⟨contributions, hcontributions, hcount⟩ :=
    histogramWindowAggregate_cumulative hhistogram hpoints.histogram_temporality
  obtain ⟨hsum, hseries⟩ := cumulativeContributions_sum hcontributions
  have hagree := gains_sum_iff hpoints.readings
    (fun epoch he => epochSeries_of_histograms (hseries epoch he)) haccepted
  rw [← hsum, ← hcount] at hagree
  have hexact := fun h => @foldl_addFloat_of_exact _ _ hadded 0 h
  simp only [zero_add] at hexact
  rw [htotal]
  refine ⟨fun ⟨hwindows, hadds⟩ => ?_, fun hlt heq => ?_⟩
  · rw [← hagree.2 hwindows]
    exact hexact hadds
  · have hcounts : ∀ gain ∈ counterGains window
        ((selectedCounters samples metricName attributeMatch).map MetricSample.reading),
        ∃ n : ℕ, gain = n := by
      intro gain hgain
      obtain ⟨epoch, he, rfl⟩ := List.mem_map.1 hgain
      refine exists_counterGain (haccepted epoch he).1 (fun r hr => ?_) _
      have hmem := hpoints.readings.mem_iff.1 (mem_epochReadings.1 hr).1
      obtain ⟨sample, -, rfl⟩ := List.mem_map.1 hmem
      obtain ⟨n, hn⟩ := Int.eq_ofNat_of_zero_le sample.count_nonneg
      exact ⟨n, by simp [HistogramSample.reading, hn]⟩
    have hadds := @addsExactly_of_lt _ _ hadded hcounts 0 (by decide) _ heq
      (by exact_mod_cast hlt)
    rw [Nat.cast_zero] at hadds
    have hgains := WithBotTop.coe_injective ((hexact hadds).symm.trans heq)
    exact ⟨hagree.1 hgains, hadds⟩

/-- A cumulative histogram point with a single bucket. -/
def exampleHistogramPoint (startTimeNs observedAtNs count : ℤ) : HistogramFields where
  name := "requests"
  unit := "1"
  observedAtNs := observedAtNs
  count := count
  bucketCounts := [count]
  explicitBounds := []
  attributes := []
  temporality := .cumulative
  startTimeNs := startTimeNs
  sum := none
  min := none
  max := none

/-- The point of a counter with the same count. -/
def exampleCounterPoint (startTimeNs observedAtNs count : ℤ) : MetricFields where
  name := "requests"
  value := count
  unit := "1"
  observedAtNs := observedAtNs
  attributes := []
  instrumentKind := .sum
  temporality := some .cumulative
  startTimeNs := startTimeNs
  monotonic := true

/-- An unknown-start marker that carries 100 events over, and 40 events after it. -/
def exampleMarkerHistograms : List HistogramSample :=
  [⟨exampleHistogramPoint 10 10 100, by decide +kernel⟩,
    ⟨exampleHistogramPoint 10 40 140, by decide +kernel⟩]

def exampleMarkerCounters : List MetricPoint :=
  [.scalar ⟨exampleCounterPoint 10 10 100, by decide +kernel⟩,
    .scalar ⟨exampleCounterPoint 10 40 140, by decide +kernel⟩]

theorem samePoints_exampleMarker :
    SamePoints (selectedCounters exampleMarkerCounters "requests" []) exampleMarkerHistograms :=
  ⟨by decide +kernel, by decide +kernel, List.Perm.of_eq (by decide +kernel)⟩

/-- The counter adds the population of the marker, and the histogram does not. -/
theorem exampleMarker_totals : ∃ counter merged,
    counterWindowAggregate PyOps.exact exampleMarkerCounters "requests" [] "1" ⟨10, 40⟩ =
      .ok counter ∧
    histogramWindowAggregate exampleMarkerHistograms ⟨10, 40⟩ = .ok merged ∧
    counter.total = ((140 : ℚ) : ExtendedFloat) ∧ merged.count = 40 := by
  obtain ⟨counter, hcounter, htotal⟩ := exists_ok_of_any
    (show (counterWindowAggregate PyOps.exact exampleMarkerCounters "requests" [] "1"
      ⟨10, 40⟩).toOption.any (fun counter => counter.total = ((140 : ℚ) : ExtendedFloat)) = true
      by decide +kernel)
  obtain ⟨merged, hmerged, hcount⟩ := exists_ok_of_any
    (show (histogramWindowAggregate exampleMarkerHistograms ⟨10, 40⟩).toOption.any
      (fun merged => merged.count = 40) = true by decide +kernel)
  exact ⟨counter, merged, hcounter, hmerged, of_decide_eq_true htotal, of_decide_eq_true hcount⟩

theorem counterWindow_eq_histogramWindow_iff_exampleMarker : ∃ counter merged,
    counterWindowAggregate PyOps.exact exampleMarkerCounters "requests" [] "1" ⟨10, 40⟩ =
      .ok counter ∧
    histogramWindowAggregate exampleMarkerHistograms ⟨10, 40⟩ = .ok merged ∧
    (WindowsAgree ⟨10, 40⟩ (exampleMarkerHistograms.map HistogramSample.reading) ∧
        AddsExactly 0 (counterGains ⟨10, 40⟩
          ((selectedCounters exampleMarkerCounters "requests" []).map MetricSample.reading)) ↔
      counter.total = ((merged.count : ℚ) : ExtendedFloat)) := by
  obtain ⟨counter, merged, hcounter, hmerged, -, hcount⟩ := exampleMarker_totals
  have h := counterWindow_eq_histogramWindow_iff samePoints_exampleMarker hcounter hmerged
  exact ⟨counter, merged, hcounter, hmerged, h.1, h.2 (by rw [hcount]; decide)⟩

/-- A counter and a histogram over the same cumulative points may add up to different totals. -/
theorem counterWindow_ne_histogramWindow :
    ¬ ∀ (py : PyOps) (samples : List MetricPoint) (metricName : String)
        (attributeMatch : SeriesKey) (expectedUnit : String) (window : Window)
        (histograms : List HistogramSample) (counter : CounterWindowAggregate)
        (merged : HistogramSample),
      SamePoints (selectedCounters samples metricName attributeMatch) histograms →
      counterWindowAggregate py samples metricName attributeMatch expectedUnit window =
        .ok counter →
      histogramWindowAggregate histograms window = .ok merged →
      counter.total = ((merged.count : ℚ) : ExtendedFloat) := by
  intro hall
  obtain ⟨counter, merged, hcounter, hmerged, htotal, hcount⟩ := exampleMarker_totals
  have h := hall _ _ _ _ _ _ _ counter merged samePoints_exampleMarker hcounter hmerged
  rw [htotal, hcount] at h
  have := WithBotTop.coe_injective h
  norm_num at this

end RoboticsRuntime.Harness
