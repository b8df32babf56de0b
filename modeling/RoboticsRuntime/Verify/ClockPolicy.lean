import RoboticsRuntime.Theory.Dictionary
import RoboticsRuntime.Verify.NoFalsePass
import RoboticsRuntime.Verify.RealTimeFactor

/-!
# The clock policy of the harness and of the bundle

A passed result whose clock has no issue satisfies the clauses of the bundle verifier about clocks
when its mode measures what the policy declares, and when the runtime manifest already has the
offset and the drift that are measured later. Other modes than real time publish a real-time factor
of zero, which the verifier compares with a declared minimum.
-/

namespace RoboticsRuntime.Harness
open Theory Contracts TimingIssues

/-! ## What hardware measures -/

/-- The greatest magnitude of a metric over some points. -/
def Measures (name : String) (samples : List MetricPoint) (value : ℚ) : Prop :=
  IsGreatest {x : ℚ | ∃ sample : MetricSample, MetricPoint.scalar sample ∈ samples ∧
    sample.name = name ∧ x = |sample.value|} value

theorem missingMetrics_eq_nil {names : List String} :
    missingMetrics names = [] ↔ ∀ name ∈ hardwareMetricUnits.map (·.1), name ∈ names := by
  rw [missingMetrics, ← List.length_eq_zero_iff, List.length_insertionSort,
    List.length_eq_zero_iff, List.filter_eq_nil_iff]
  simp

/-- The points of a hardware clock are the scalar ones with its names, by their names. -/
theorem timingSamples_eq_ok {samples : List MetricPoint}
    {grouped : List (String × List MetricSample)} (h : timingSamples samples = .ok grouped) :
    ∃ points, grouped = groups (·.name) points ∧ missingMetrics (grouped.map (·.1)) = [] ∧
      ∀ sample, sample ∈ points ↔ MetricPoint.scalar sample ∈ samples ∧
        sample.name ∈ hardwareMetricUnits.map (·.1) := by
  obtain ⟨points, hpoints, h⟩ := bind_eq_ok.1 h
  obtain ⟨hmissing, h⟩ := seq_eq_ok.1 h
  obtain rfl := Except.ok.inj h
  refine ⟨points, rfl, require_eq_ok.1 hmissing, fun sample => ?_⟩
  have hscalar : (samples.filter fun sample =>
      sample.name ∈ hardwareMetricUnits.map (·.1)).map id = points.map MetricPoint.scalar := by
    refine map_eq_of_forall₂ (fun point sample hok => ?_) (mapM_eq_ok.1 hpoints)
    cases point with
    | scalar point => exact congrArg MetricPoint.scalar (Except.ok.inj hok)
    | histogram point => cases hok
  rw [List.map_id] at hscalar
  have hmem : MetricPoint.scalar sample ∈ points.map MetricPoint.scalar ↔ sample ∈ points := by
    simp
  rw [← hmem, ← hscalar, List.mem_filter, decide_eq_true_eq]
  rfl

/-- The measurements of all metrics, with their times. -/
def timingEntries (grouped : List (String × List MetricSample)) : List (ℤ × String × ℚ) :=
  grouped.flatMap fun (name, samples) =>
    samples.map fun sample => (sample.observedAtNs, name, sample.value)

/-- Points are aligned when no metric has two of them at one time. -/
theorem alignedPoints_eq_ok {grouped : List (String × List MetricSample)}
    {points : List (ℤ × List (String × ℚ))} (h : alignedPoints grouped = .ok points) :
    (timingEntries grouped).Pairwise (fun a b => ¬ (a.1 = b.1 ∧ a.2.1 = b.2.1)) ∧
      points.Perm ((groups (fun entry : ℤ × String × ℚ => entry.1) (timingEntries grouped)).map
        fun group => (group.1, group.2.map Prod.snd)) := by
  obtain ⟨hunique, h⟩ := seq_eq_ok.1 h
  obtain ⟨-, h⟩ := seq_eq_ok.1 h
  obtain rfl := Except.ok.inj h
  refine ⟨List.pairwise_iff_getElem.2 fun i j hi hj hij => ?_, List.perm_insertionSort _ _⟩
  have hcheck := forM_eq_ok.1 hunique ((timingEntries grouped)[j], j)
    (List.mk_mem_zipIdx_iff_getElem?.2 (List.getElem?_eq_getElem hj))
  exact require_eq_ok.1 hcheck _ (List.mem_take_iff_getElem.2 ⟨i, lt_min hij hi, rfl⟩)

/-- The values of a metric at the aligned points are those it was measured to have. -/
theorem mem_metricValues {grouped : List (String × List MetricSample)}
    {points : List (ℤ × List (String × ℚ))} (h : alignedPoints grouped = .ok points) {name : String}
    {value : ℚ} :
    value ∈ metricValues name points ↔ ∃ time, (time, name, value) ∈ timingEntries grouped := by
  obtain ⟨hpairwise, hperm⟩ := alignedPoints_eq_ok h
  rw [metricValues, List.mem_filterMap]
  simp only [hperm.mem_iff, List.mem_map]
  constructor
  · rintro ⟨_, ⟨group, hgroup, rfl⟩, hlookup⟩
    obtain ⟨entry, hentry, heq⟩ := List.mem_map.1 (mem_of_lookup hlookup)
    obtain ⟨hmem, -⟩ := mem_of_mem_groups hgroup hentry
    refine ⟨entry.1, ?_⟩
    rwa [← heq]
  · rintro ⟨time, hentry⟩
    obtain ⟨group, hgroup, htime⟩ := exists_mem_groups (fun entry : ℤ × String × ℚ => entry.1) hentry
    refine ⟨_, ⟨group, hgroup, rfl⟩, lookup_of_mem ?_ ?_⟩
    · rw [(mem_groups.1 hgroup).2, List.map_map, List.Nodup, List.pairwise_map]
      refine (hpairwise.filter _).imp_of_mem fun ha hb hne heq => hne ⟨?_, heq⟩
      have ha := of_decide_eq_true (List.mem_filter.1 ha).2
      have hb := of_decide_eq_true (List.mem_filter.1 hb).2
      exact ha.trans hb.symm
    · refine List.mem_map.2 ⟨(time, name, value), ?_, rfl⟩
      rw [(mem_groups.1 hgroup).2, List.mem_filter, decide_eq_true_eq]
      exact ⟨hentry, htime.symm⟩

/-- The published magnitude of a metric is the greatest one among the points. -/
theorem measures_of_alignedPoints {samples : List MetricPoint}
    {grouped : List (String × List MetricSample)} {points : List (ℤ × List (String × ℚ))}
    (hgrouped : timingSamples samples = .ok grouped) (hpoints : alignedPoints grouped = .ok points)
    {name : String} (hname : name ∈ hardwareMetricUnits.map (·.1)) :
    Measures name samples ((((metricValues name points).map abs).max?).getD 0) := by
  obtain ⟨scalars, rfl, hmissing, hscalars⟩ := timingSamples_eq_ok hgrouped
  have hentries : ∀ time value, (time, name, value) ∈ timingEntries (groups (·.name) scalars) ↔
      ∃ sample : MetricSample, MetricPoint.scalar sample ∈ samples ∧ sample.name = name ∧
        (sample.observedAtNs, sample.value) = (time, value) := by
    intro time value
    simp only [timingEntries, List.mem_flatMap, List.mem_map, Prod.mk.injEq]
    constructor
    · rintro ⟨group, hgroup, sample, hsample, rfl, rfl, rfl⟩
      obtain ⟨hmem, hkey⟩ := mem_of_mem_groups hgroup hsample
      exact ⟨sample, ((hscalars sample).1 hmem).1, hkey, rfl, rfl⟩
    · rintro ⟨sample, hmem, rfl, rfl, rfl⟩
      have hsample := (hscalars sample).2 ⟨hmem, hname⟩
      obtain ⟨group, hgroup, hkey⟩ := exists_mem_groups (fun s : MetricSample => s.name) hsample
      refine ⟨group, hgroup, sample, ?_, rfl, hkey, rfl⟩
      rw [(mem_groups.1 hgroup).2, List.mem_filter, decide_eq_true_eq]
      exact ⟨hsample, hkey.symm⟩
  have hmem : ∀ x, x ∈ (metricValues name points).map abs ↔
      ∃ sample : MetricSample, MetricPoint.scalar sample ∈ samples ∧ sample.name = name ∧
        x = |sample.value| := by
    intro x
    simp only [List.mem_map, mem_metricValues hpoints, hentries]
    constructor
    · rintro ⟨value, ⟨time, sample, hmem, hkey, heq⟩, rfl⟩
      obtain ⟨-, rfl⟩ := Prod.mk.inj heq
      exact ⟨sample, hmem, hkey, rfl⟩
    · rintro ⟨sample, hmem, hkey, rfl⟩
      exact ⟨_, ⟨_, sample, hmem, hkey, rfl⟩, rfl⟩
  cases hmax : ((metricValues name points).map abs).max? with
  | some greatest =>
    obtain ⟨hin, hle⟩ := List.max?_eq_some_iff.1 hmax
    exact ⟨(hmem greatest).1 hin, fun x hx => hle x ((hmem x).2 hx)⟩
  | none =>
    -- A metric without a point would be missing.
    exfalso
    obtain ⟨group, hgroup, rfl⟩ := List.mem_map.1 (missingMetrics_eq_nil.1 hmissing name hname)
    obtain ⟨⟨sample, hsample, hkey⟩, -⟩ := mem_groups.1 hgroup
    have hin := (hmem |sample.value|).2 ⟨sample, ((hscalars sample).1 hsample).1, hkey, rfl⟩
    rw [List.max?_eq_none_iff.1 hmax] at hin
    cases hin

/-- What an observation of hardware says about its points and its policy. -/
theorem evaluateHardwareTiming_eq_ok {pstdev : List ℚ → ℚ} {policy : TimePolicy}
    {samples : List MetricPoint} {observation : HardwareTimingObservation}
    (h : evaluateHardwareTiming pstdev policy samples = .ok observation) :
    policy.clockSyncProtocol = some observation.syncProtocol ∧
      Measures offsetMetric samples observation.offsetMs ∧
      Measures driftMetric samples observation.driftPpm ∧
      hardwareClockWithinPolicy policy observation.sampleCount observation.offsetMs
        observation.driftPpm observation.maxSampleAgeMs observation.monotonic =
          observation.withinPolicy := by
  simp only [evaluateHardwareTiming, bind_eq_ok, require_eq_ok] at h
  obtain ⟨grouped, hgrouped, metadata, -, -, hprotocol, points, hpoints, measuredAt, -, h⟩ := h
  obtain rfl := Except.ok.inj h
  exact ⟨hprotocol, measures_of_alignedPoints hgrouped hpoints (by decide),
    measures_of_alignedPoints hgrouped hpoints (by decide), rfl⟩

/-- Histograms are not measured. -/
theorem measures_filter {name : String} {samples : List MetricPoint} {value : ℚ} :
    Measures name (samples.filter fun sample => sample.histogram? = none) value ↔
      Measures name samples value := by
  have hmem : ∀ sample : MetricSample,
      MetricPoint.scalar sample ∈ samples.filter (fun sample => sample.histogram? = none) ↔
        MetricPoint.scalar sample ∈ samples := by
    intro sample
    rw [List.mem_filter]
    exact and_iff_left rfl
  simp only [Measures, hmem]

/-! ## What a clock of a simulation publishes -/

/-- An evaluation in real time that reports nothing publishes ratios within the policy. -/
theorem evaluateRealtime_within {py : PyOps} {policy : RealtimePolicy} {samples : List ClockSample}
    {windowNs : ℤ} {measurementWindow : Option ClockMeasurementWindow}
    (h : evaluateRealtime py policy samples ⟨[], []⟩ windowNs measurementWindow =
      some (ratios, ⟨[], []⟩)) :
    policy.minRealtimeFactor ≤ ratios.1 ∧ ratios.2 ≤ policy.maxDeadlineMissRatio := by
  obtain ⟨⟨⟨lower, upper⟩, windowed⟩, -, h⟩ := Option.bind_eq_some_iff.1 h
  cases hdeadline : deadlineValues samples (measurementWindow.bind (·.deadlineMissRatio))
    windowed with
  | mk values checked =>
    simp only [hdeadline] at h
    obtain ⟨rfl, hissues⟩ := Prod.mk.inj (Option.some.inj h)
    split_ifs at hissues with hratio
    · have : (TimingIssues.mk [] []).violations ≠ [] := by
        rw [← hissues]
        simp [TimingIssues.violation]
      exact absurd rfl this
    · refine ⟨le_of_reportRealtimeFactor py policy.minRealtimeFactor lower upper checked ?_ ?_,
        not_lt.1 hratio⟩
      · rw [hissues]
        simp [TimingIssues.Violates]
      · rw [hissues]
        simp [TimingIssues.Lacks]

/-- A placeholder of zero is below every minimum that is declared. -/
theorem realtimeWithinPolicy_placeholder {policy : TimePolicy} {clock : ClockDocument}
    (hrtf : clock.realTimeFactor = 0) (hratio : clock.deadlineMissRatio = 0) :
    realtimeWithinPolicy policy clock = true ↔ policy.minRealtimeFactor = none := by
  have hdeadline : (0 : ℚ) ≤ policy.maxDeadlineMissRatio.getD 1 := by
    cases hmax : policy.maxDeadlineMissRatio with
    | none => exact zero_le_one
    | some ratio => exact policy.deadlineRatio_nonneg ratio hmax
  rw [realtimeWithinPolicy, hrtf, hratio, Bool.and_eq_true, decide_eq_true_eq, decide_eq_true_eq,
    and_iff_left hdeadline]
  cases hmin : policy.minRealtimeFactor with
  | none => simp
  | some factor => simpa using policy.realtimeFactor_pos factor hmin

/-- The ratios of a mode that reports nothing are within the policy when the mode measures the
real-time factor or no minimum is declared. -/
theorem evaluateMode_within {py : PyOps} {mode : TimeMode} {policy : TimePolicy}
    {samples : List ClockSample} {clockHz rtfWindowSec : ℚ}
    {measurementWindow : Option ClockMeasurementWindow} {clock : ClockDocument}
    (h : evaluateMode py mode policy samples clockHz rtfWindowSec measurementWindow ⟨[], []⟩ =
      some (ratios, ⟨[], []⟩)) (hrtf : clock.realTimeFactor = ratios.1)
    (hratio : clock.deadlineMissRatio = ratios.2) :
    realtimeWithinPolicy policy clock = true ↔
      mode = .simulationRealtime ∨ policy.minRealtimeFactor = none := by
  cases mode with
  | simulationRealtime =>
    obtain ⟨minimum, hmin, h⟩ := Option.bind_eq_some_iff.1 h
    obtain ⟨ratio, hmax, h⟩ := Option.bind_eq_some_iff.1 h
    obtain ⟨hfactor, hdeadline⟩ := evaluateRealtime_within h
    refine iff_of_true ?_ (.inl rfl)
    rw [realtimeWithinPolicy, hrtf, hratio, hmin, hmax]
    simpa using ⟨hfactor, hdeadline⟩
  | playbackClocked =>
    obtain ⟨reported, -, h⟩ := Option.bind_eq_some_iff.1 h
    obtain ⟨rfl, -⟩ := Prod.mk.inj (Option.some.inj h)
    rw [realtimeWithinPolicy_placeholder hrtf hratio, or_iff_right (by decide)]
  | simulationStepped =>
    obtain ⟨step, -, h⟩ := Option.bind_eq_some_iff.1 h
    obtain ⟨maxSkippedSteps, -, h⟩ := Option.bind_eq_some_iff.1 h
    obtain ⟨reported, -, h⟩ := Option.bind_eq_some_iff.1 h
    obtain ⟨rfl, -⟩ := Prod.mk.inj (Option.some.inj h)
    rw [realtimeWithinPolicy_placeholder hrtf hratio, or_iff_right (by decide)]
  | hardwareRealtime =>
    obtain ⟨rfl, -⟩ := Prod.mk.inj (Option.some.inj h)
    rw [realtimeWithinPolicy_placeholder hrtf hratio, or_iff_right (by decide)]

/-! ## Main result -/

/-- The runtime manifest has the clock that hardware is measured to have. -/
structure MatchesHardware (policy : TimePolicy) (metrics : List MetricPoint)
    (runtimeClock : RuntimeClock) : Prop where
  protocol : policy.clockSyncProtocol = some runtimeClock.syncProtocol
  offset : Measures offsetMetric metrics runtimeClock.offsetMs
  drift : Measures driftMetric metrics runtimeClock.driftPpm

/-- The clauses about a hardware clock accept an observation when the manifest has its clock. -/
theorem validateHardwareClock_eq_ok {py : PyOps} {pstdev : List ℚ → ℚ} {policy : TimePolicy}
    {metrics : List MetricPoint} {runtimeClock : RuntimeClock}
    {observation : HardwareTimingObservation}
    (h : evaluateHardwareTiming pstdev policy metrics = .ok observation)
    (domainId evidenceSha256 : String) :
    validateHardwareClock py domainId policy runtimeClock observation.monotonic
        (hardwareClockResult observation evidenceSha256) = .ok () ↔
      MatchesHardware policy metrics runtimeClock := by
  obtain ⟨hprotocol, hoffset, hdrift, hwithin⟩ := evaluateHardwareTiming_eq_ok h
  simp only [validateHardwareClock, seq_eq_ok, requireEqual_eq_ok, hardwareClockResult, hprotocol,
    hwithin, Option.getD_some, true_and, and_true]
  constructor
  · rintro ⟨hp, ho, hd⟩
    exact ⟨by rw [hprotocol, hp], ho ▸ hoffset, hd ▸ hdrift⟩
  · rintro ⟨hp, ho, hd⟩
    exact ⟨Option.some.inj (hprotocol.symm.trans hp), ho.unique hoffset, hd.unique hdrift⟩

section
variable {py : PyOps} {pstdev : List ℚ → ℚ} {scenario : LiveScenario} {runtime : LiveRuntime}
  {context : RunContext} {measurement : Measurement py scenario}
  {evaluations : List AssertionEvaluation}
  {validate : AcceptanceResult → Except SemanticFailure Unit}

/-- The clauses of the bundle verifier about clocks accept a passed result of a live run when its
mode measures what is declared and its hardware is the one of the manifest. -/
theorem validateClockAlignment_iff {inputs : ResultInputs} {document : AcceptanceResult}
    (hinputs : verificationInputs py pstdev scenario runtime context measurement evaluations =
      .ok inputs)
    (hresult : buildAcceptanceResult validate inputs = .ok document)
    (hpassed : document.status = .passed) (domainId : String) :
    validateClockAlignment py domainId scenario.timePolicy runtime.clock document = .ok () ↔
      (scenario.timeMode = .simulationRealtime ∨ scenario.timePolicy.minRealtimeFactor = none) ∧
      (scenario.targetEnvironment.physical = true →
        MatchesHardware scenario.timePolicy measurement.metrics runtime.clock) := by
  obtain ⟨assembled, hdocument, h⟩ := bind_eq_ok.1 hresult
  obtain ⟨-, h⟩ := seq_eq_ok.1 h
  obtain rfl := Except.ok.inj h
  obtain ⟨monitor, clock, timeAuthority, -, -, hclock, -, hrecord⟩ :=
    verificationInputs_eq_ok.1 hinputs
  have hflawless := (passes_iff_flawless hinputs hclock).1 ((status_eq_passed hdocument).1 hpassed)
  obtain ⟨-, -, status, -, hdraft⟩ := assembleResult_eq_ok.1 hdocument
  have hclockDocument : assembled.clockObservation = clockResult (clockTiming clock) := by
    rw [← hdraft, hrecord]
    rfl
  have hhardware : assembled.hardwareClockObservation = clock.getRight?.map fun observation =>
      hardwareClockResult observation context.metricsEvidenceSha256 := by
    rw [← hdraft, hrecord]
    cases clock <;> rfl
  simp only [validateClockAlignment, seq_eq_ok, require_eq_ok, hpassed, forall_const,
    hclockDocument, hhardware]
  unfold clockEvaluation at hclock
  split at hclock
  · next hphysical =>
    obtain ⟨observation, hok, h⟩ := bind_eq_ok.1 hclock
    obtain rfl := Except.ok.inj h
    have hmode := (scenario.physical_iff).1 hphysical
    rw [hmode, or_iff_right (by decide), realtimeWithinPolicy_placeholder rfl rfl,
      imp_iff_right hphysical]
    refine and_congr_right fun _ => ?_
    have hvalidate : validateHardwareClock py domainId scenario.timePolicy runtime.clock
        observation.monotonic (hardwareClockResult observation context.metricsEvidenceSha256) =
          .ok () ↔ _ := validateHardwareClock_eq_ok (mapError_eq_ok.1 hok) _ _
    refine hvalidate.trans ⟨fun hm => ⟨hm.protocol, ?_, ?_⟩, fun hm => ⟨hm.protocol, ?_, ?_⟩⟩
    · exact measures_filter.1 hm.offset
    · exact measures_filter.1 hm.drift
    · exact measures_filter.2 hm.offset
    · exact measures_filter.2 hm.drift
  · next hphysical =>
    obtain ⟨evaluation, hok, h⟩ := bind_eq_ok.1 hclock
    obtain rfl := Except.ok.inj h
    obtain ⟨samples, window, hevaluate⟩ := simulationTiming_eq_ok hok
    obtain ⟨-, ratios, hmode, heq⟩ := evaluateTiming_of_issues_nil hevaluate
      (List.append_eq_nil_iff.2 (hflawless.timing evaluation rfl))
    rw [evaluateMode_within hmode (by rw [heq]; rfl) (by rw [heq]; rfl)]
    exact and_congr_right fun _ => ⟨fun _ h => absurd h hphysical, fun _ => rfl⟩

end

/-- The stepped simulation, with a minimum that its mode does not measure. -/
def declaringScenario : LiveScenario :=
  { exampleScenario with
    timePolicy := { exampleTimePolicy with
      minRealtimeFactor := some (1 / 2)
      realtimeFactor_pos := by decide +kernel }
    declares := ⟨rfl, rfl⟩ }

def declaringRun : Measurement .exact declaringScenario :=
  { exampleRun true with ended := by decide +kernel }

theorem validateClockAlignment_rejects :
    ¬ ∀ (scenario : LiveScenario) (runtime : LiveRuntime) (context : RunContext)
      (measurement : Measurement .exact scenario) (evaluations : List AssertionEvaluation)
      (inputs : ResultInputs) (document : AcceptanceResult),
      verificationInputs .exact (fun _ => 0) scenario runtime context measurement evaluations =
          .ok inputs →
        buildAcceptanceResult (validateDocument fun _ => .ok ()) inputs = .ok document →
        document.status = .passed →
          validateClockAlignment .exact "camera" scenario.timePolicy runtime.clock document =
            .ok () := by
  intro h
  obtain ⟨inputs, hinputs, hrejected⟩ := exists_ok_of_any (by decide +kernel :
    (verificationInputs .exact (fun _ => 0) declaringScenario exampleRuntime exampleContext
      declaringRun [examplePassed]).toOption.any (fun inputs =>
        (buildAcceptanceResult (validateDocument fun _ => .ok ()) inputs).toOption.any
          fun document => document.status = .passed ∧
            (validateClockAlignment .exact "camera" declaringScenario.timePolicy
              exampleRuntime.clock document).toOption.isNone) = true)
  obtain ⟨document, hdocument, hnone⟩ := exists_ok_of_any hrejected
  obtain ⟨hpassed, hnone⟩ := of_decide_eq_true hnone
  rw [h _ _ _ _ _ inputs document hinputs hdocument hpassed] at hnone
  cases hnone

theorem validateClockAlignment_iff_exampleRun :
    ∃ inputs document, verificationInputs .exact (fun _ => 0) exampleScenario exampleRuntime
        exampleContext (exampleRun true) [examplePassed] = .ok inputs ∧
      buildAcceptanceResult (validateDocument fun _ => .ok ()) inputs = .ok document ∧
      document.status = .passed ∧
      validateClockAlignment .exact "camera" exampleScenario.timePolicy exampleRuntime.clock
        document = .ok () := by
  obtain ⟨inputs, hinputs, hbuilt⟩ := exists_ok_of_any (by decide +kernel :
    (verificationInputs .exact (fun _ => 0) exampleScenario exampleRuntime exampleContext
      (exampleRun true) [examplePassed]).toOption.any (fun inputs =>
        (buildAcceptanceResult (validateDocument fun _ => .ok ()) inputs).toOption.any
          fun document => document.status = .passed) = true)
  obtain ⟨document, hdocument, hpassed⟩ := exists_ok_of_any hbuilt
  have hstatus := of_decide_eq_true hpassed
  exact ⟨inputs, document, hinputs, hdocument, hstatus,
    (validateClockAlignment_iff hinputs hdocument hstatus "camera").2 ⟨.inr rfl, fun h => absurd h (by decide)⟩⟩

end RoboticsRuntime.Harness
