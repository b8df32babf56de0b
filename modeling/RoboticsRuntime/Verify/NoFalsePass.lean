import Mathlib
import RoboticsRuntime.Verify.TimingIssues

/-!
# No false pass

The status of a live result is `passed` only when every fact of the run is good, whichever way the
fact reaches the result: as a declared assertion, as the assertion about the clock or about the
expected graph, as an entry of `unevaluated`, or as an observation of the document. The clauses of
`_validate_result` on the status then accept the document, but for the one on the shutdown: no check
of the verdict looks at it.
-/

namespace RoboticsRuntime.Harness
open Theory Contracts

/-! ## The verdict -/

theorem verdictStatus_ne_cancelled (status : AssertionStatus) : verdictStatus status ≠ .cancelled := by
  cases status <;> decide

theorem verdictStatus_eq_passed {status : AssertionStatus} :
    verdictStatus status = .passed ↔ status = .passed := by
  cases status <;> decide

/-- The verdict is at least as bad as the outcome of every assertion. -/
theorem outcome_le_verdictStatus (status : AssertionStatus) :
    status.outcome ≤ verdictStatus status := by
  cases status <;> decide

theorem observationCase_passed {unevaluated : List String}
    {assertionId field failureMessage : String} {passed : Bool} :
    (observationCase unevaluated assertionId field failureMessage passed).status = .passed ↔
      "$." ++ field ∉ unevaluated ∧ passed = true := by
  unfold observationCase
  split
  · next h => exact iff_of_false (by simp) fun hp => hp.1 h
  · next h =>
    rw [and_iff_right h]
    cases passed <;> simp

/-- The worst of some cases. -/
theorem worstStatus_verdictStatus {cases : List ResultCase} {status : OutcomeStatus} :
    worstStatus (cases.map fun result => verdictStatus result.status) false = .ok status ↔
      (∃ result ∈ cases, verdictStatus result.status = status) ∧
      ∀ result ∈ cases, verdictStatus result.status ≤ status := by
  rw [worstStatus_eq_ok, List.mem_map, List.forall_mem_map]
  rw [List.mem_map]
  exact fun ⟨result, _, h⟩ => verdictStatus_ne_cancelled _ h

/-- The cases of a document all passed when nothing is left open and every check holds. -/
theorem resultAssertions_passed {document : AcceptanceResult} :
    (∀ result ∈ resultAssertions document, result.status = .passed) ↔
      document.unevaluated = [] ∧
      (∀ result ∈ document.assertionResults, result.status = .passed) ∧
      document.forbiddenGraphObservation.passed = true ∧
      (∀ hardware ∈ document.hardwareClockObservation, hardware.withinPolicy = true) ∧
      document.timeAuthorityObservation.withinPolicy = true := by
  by_cases hopen : document.unevaluated = []
  · have hhardware : (∀ result ∈ (document.hardwareClockObservation.map fun hardware =>
        observationCase [] "hardware-clock-policy" "hardware_clock_observation"
          "hardware timing out of policy" hardware.withinPolicy).toList, result.status = .passed) ↔
        ∀ hardware ∈ document.hardwareClockObservation, hardware.withinPolicy = true := by
      cases document.hardwareClockObservation <;> simp [observationCase_passed]
    simp only [resultAssertions, hopen, ne_eq, not_true_eq_false, if_false, List.append_nil,
      List.forall_mem_append, List.forall_mem_map, List.forall_mem_singleton, hhardware,
      observationCase_passed, List.not_mem_nil, not_false_eq_true, true_and, and_assoc]
  · refine iff_of_false (fun h => ?_) fun h => hopen h.1
    have := h ⟨"evaluation-coverage", .skipped, _⟩ (by
      rw [resultAssertions, if_pos hopen]
      exact List.mem_append_right _ (List.mem_singleton_self _))
    cases this

namespace ResultInputs
variable {inputs : ResultInputs}

/-- Nothing is left open when no part of the run is. -/
theorem effectiveUnevaluated_eq_nil :
    inputs.effectiveUnevaluated = [] ↔
      inputs.unevaluated = [] ∧ inputs.assertions ≠ [] ∧
      (∀ evaluation ∈ inputs.timeAuthority.evaluation,
        evaluation.status ≠ .skipped ∧ evaluation.status ≠ .error) ∧
      ∀ evaluation ∈ inputs.evaluations, evaluation.status ≠ .skipped := by
  rw [effectiveUnevaluated, List.dedup_eq_nil, List.append_eq_nil_iff, List.append_eq_nil_iff,
    List.append_eq_nil_iff, List.map_eq_nil_iff, List.filter_eq_nil_iff]
  have hauthority : (inputs.timeAuthority.evaluation.any fun evaluation =>
      evaluation.status = .skipped ∨ evaluation.status = .error) = false ↔
      ∀ evaluation ∈ inputs.timeAuthority.evaluation,
        evaluation.status ≠ .skipped ∧ evaluation.status ≠ .error := by
    cases inputs.timeAuthority.evaluation <;> simp
  rw [← hauthority, ite_eq_right_iff, ite_eq_right_iff]
  simp [and_assoc]

/-- The added evaluation passes when the one of the time authority does. -/
theorem evaluations_passed :
    (∀ evaluation ∈ inputs.evaluations, evaluation.status = .passed) ↔
      (∀ evaluation ∈ inputs.assertions, evaluation.status = .passed) ∧
      ∀ evaluation ∈ inputs.timeAuthority.evaluation, evaluation.status = .passed := by
  unfold evaluations
  cases inputs.timeAuthority.evaluation with
  | none => simp
  | some evaluation =>
    simp only [appendTimeEvidence, List.forall_mem_append, List.forall_mem_singleton,
      Option.mem_some_iff, forall_eq']

/-- The facts that make a verdict pass. -/
structure Passes (inputs : ResultInputs) : Prop where
  evaluated : inputs.unevaluated = []
  asserted : inputs.assertions ≠ []
  assertions : ∀ evaluation ∈ inputs.assertions, evaluation.status = .passed
  authority : ∀ evaluation ∈ inputs.timeAuthority.evaluation, evaluation.status = .passed
  within : inputs.timeAuthority.withinPolicy = true
  forbidden : inputs.forbiddenGraph.passed = true
  hardware : ∀ hardware ∈ inputs.draft.hardwareClockObservation, hardware.withinPolicy = true

/-- All cases of a draft pass when the facts do. -/
theorem draft_passed :
    (∀ result ∈ resultAssertions inputs.draft, result.status = .passed) ↔ inputs.Passes := by
  have hopen : inputs.draft.unevaluated = [] ↔ inputs.effectiveUnevaluated = [] := by
    rw [draft, ← List.length_eq_zero_iff, List.length_insertionSort, List.length_eq_zero_iff]
  have hresults : (∀ result ∈ inputs.draft.assertionResults, result.status = .passed) ↔
      ∀ evaluation ∈ inputs.evaluations, evaluation.status = .passed := by
    simp only [draft, List.forall_mem_map, AssertionEvaluation.result]
  rw [resultAssertions_passed, hopen, hresults]
  constructor
  · rintro ⟨hnil, hall, hforbidden, hhardware, hwithin⟩
    obtain ⟨hevaluated, hasserted, -, -⟩ := effectiveUnevaluated_eq_nil.1 hnil
    obtain ⟨hassertions, hauthority⟩ := evaluations_passed.1 hall
    exact ⟨hevaluated, hasserted, hassertions, hauthority, hwithin, hforbidden, hhardware⟩
  · intro h
    have hall := evaluations_passed.2 ⟨h.assertions, h.authority⟩
    refine ⟨effectiveUnevaluated_eq_nil.2 ⟨h.evaluated, h.asserted, fun evaluation he => ?_,
      fun evaluation he => ?_⟩, hall, h.forbidden, h.hardware, h.within⟩
    · simp [h.authority evaluation he]
    · simp [hall evaluation he]

end ResultInputs

/-- What an assembled document is. -/
theorem assembleResult_eq_ok {inputs : ResultInputs} {document : AcceptanceResult} :
    assembleResult inputs = .ok document ↔
      (inputs.targetEnvironment.physical = true →
        inputs.hardwareTiming ≠ none ∧ inputs.hardwareTimingEvidenceSha256 ≠ none) ∧
      (inputs.targetEnvironment.physical = false →
        inputs.hardwareTiming = none ∧ inputs.hardwareTimingEvidenceSha256 = none) ∧
      ∃ status, worstStatus ((resultAssertions inputs.draft).map fun result =>
          verdictStatus result.status) false = .ok status ∧
        { inputs.draft with status := status } = document := by
  simp only [assembleResult, bind_eq_ok, require_eq_ok, mapError_eq_ok]
  cases inputs.targetEnvironment.physical <;> simp [pure, Except.pure, not_or]

/-- A document is assembled of every run whose target has the clock it needs. -/
theorem exists_assembleResult {inputs : ResultInputs}
    (hphysical : inputs.targetEnvironment.physical = inputs.hardwareTiming.isSome)
    (hevidence : inputs.hardwareTimingEvidenceSha256.isSome = inputs.hardwareTiming.isSome) :
    ∃ document, assembleResult inputs = .ok document := by
  have hne : (resultAssertions inputs.draft).map (fun result => verdictStatus result.status) ≠ [] := by
    simp [resultAssertions]
  obtain ⟨status, hstatus⟩ := exists_worstStatus hne false
  refine ⟨_, assembleResult_eq_ok.2 ⟨fun h => ?_, fun h => ?_, status, hstatus, rfl⟩⟩
  · rw [hphysical] at h
    rw [h] at hevidence
    exact ⟨Option.isSome_iff_ne_none.1 h, Option.isSome_iff_ne_none.1 hevidence⟩
  · rw [hphysical] at h
    rw [h] at hevidence
    exact ⟨Option.not_isSome_iff_eq_none.1 (by simp [h]),
      Option.not_isSome_iff_eq_none.1 (by simp [hevidence])⟩

/-- The status of a document is that of its worst case. -/
theorem status_eq_passed {inputs : ResultInputs} {document : AcceptanceResult}
    (h : assembleResult inputs = .ok document) : document.status = .passed ↔ inputs.Passes := by
  obtain ⟨-, -, status, hstatus, rfl⟩ := assembleResult_eq_ok.1 h
  obtain ⟨⟨worst, hworst, heq⟩, hle⟩ := worstStatus_verdictStatus.1 hstatus
  rw [← ResultInputs.draft_passed]
  constructor
  · rintro (rfl : status = .passed)
    intro result hresult
    exact verdictStatus_eq_passed.1 (le_antisymm (hle result hresult) (OutcomeStatus.passed_le _))
  · intro hall
    exact heq.symm.trans (verdictStatus_eq_passed.2 (hall worst hworst))

/-- The status of a document is not better than the outcome of any of its assertions. -/
theorem outcome_le_status {inputs : ResultInputs} {document : AcceptanceResult}
    (h : assembleResult inputs = .ok document) {result : AssertionResult}
    (hresult : result ∈ document.assertionResults) : result.status.outcome ≤ document.status := by
  obtain ⟨-, -, status, hstatus, rfl⟩ := assembleResult_eq_ok.1 h
  refine (outcome_le_verdictStatus result.status).trans ((worstStatus_verdictStatus.1 hstatus).2
    ⟨result.assertionId, result.status, result.message.getD ""⟩ ?_)
  simp only [resultAssertions, List.append_assoc]
  exact List.mem_append_left _ (List.mem_map.2 ⟨result, hresult, rfl⟩)

/-- On the document of a live run only the checks of a passed one can fail. -/
theorem validateResultStatus_eq_ok {inputs : ResultInputs} {document : AcceptanceResult}
    (h : assembleResult inputs = .ok document) (hlive : inputs.evaluationMode = .live) :
    validateResultStatus document = .ok () ↔
      (document.status = .passed → validatePassed document = .ok ()) := by
  have hmode : document.evaluationMode ≠ .offline := by
    obtain ⟨-, -, status, -, rfl⟩ := assembleResult_eq_ok.1 h
    simp [ResultInputs.draft, hlive]
  have hcancelled : document.status ≠ .cancelled := by
    obtain ⟨-, -, status, hstatus, rfl⟩ := assembleResult_eq_ok.1 h
    obtain ⟨⟨worst, -, rfl⟩, -⟩ := worstStatus_verdictStatus.1 hstatus
    exact verdictStatus_ne_cancelled worst.status
  have hworst : worstStatus (document.status ::
      document.assertionResults.map fun result => result.status.outcome) false =
        .ok document.status := by
    refine (worstStatus_eq_ok ?_).2 ⟨List.mem_cons_self, ?_⟩
    · simp only [List.mem_cons, List.mem_map, not_or, not_exists, not_and]
      refine ⟨hcancelled.symm, fun result _ heq => ?_⟩
      cases hs : result.status <;> simp [hs, AssertionStatus.outcome] at heq
    · simp only [List.forall_mem_cons, List.forall_mem_map, le_refl, true_and]
      exact fun result hresult => outcome_le_status h hresult
  have hskipped : ¬ (document.assertionResults.any (·.status = .skipped) ∧
      document.status = .passed) := by
    rintro ⟨hany, hpassed⟩
    obtain ⟨result, hresult, heq⟩ := List.any_eq_true.1 hany
    have hle := outcome_le_status h hresult
    rw [hpassed, of_decide_eq_true heq] at hle
    exact absurd hle (by decide)
  have hlast : (if document.status = .passed then validatePassed document else pure ()) =
      (.ok () : Except SemanticFailure Unit) ↔
      (document.status = .passed → validatePassed document = .ok ()) := by
    split
    · next hp => exact ⟨fun hok _ => hok, fun hok => hok hp⟩
    · next hp => exact ⟨fun _ hpassed => absurd hpassed hp, fun _ => rfl⟩
  rw [← hlast]
  simp only [validateResultStatus, hworst, if_neg hmode, require_of hskipped]
  split
  · simp only [bind_eq_ok, mapError_eq_ok, Except.ok.injEq, exists_eq_left', require_eq_ok,
      true_and, exists_const]
  · exact Iff.rfl

/-! ## The parts of a live run -/

/-- Every observation of the time authority is within the policy when its evaluation passed. -/
theorem evaluateTimeAuthority_evaluation {py : PyOps} {policy : TimeAuthorityPolicy}
    {samples : List MetricPoint} {runId domainId sourceId : String} {startNs endNs : ℤ}
    {observation : TimeAuthorityObservation}
    (h : evaluateTimeAuthority py policy samples runId domainId sourceId startNs endNs =
      .ok observation) :
    ∃ evaluation, observation.evaluation = some evaluation ∧
      (observation.withinPolicy = true ↔ evaluation.status = .passed) := by
  have hcontext : ∀ (context : LatencyContext) count latencies evaluation,
      ∃ evaluation', (context.observation count latencies evaluation).evaluation =
          some evaluation' ∧
        ((context.observation count latencies evaluation).withinPolicy = true ↔
          evaluation'.status = .passed) :=
    fun _ _ _ evaluation => ⟨evaluation, rfl, decide_eq_true_iff⟩
  have hunavailable : ∀ (context : LatencyContext) count error,
      context.unavailable count error = .ok observation →
        ∃ latencies evaluation, context.observation count latencies evaluation = observation := by
    intro context count error herror
    cases error with
    | input _ | overflow _ => cases herror
    | aggregation _ | insufficient _ => exact ⟨_, _, Except.ok.inj herror⟩
  unfold evaluateTimeAuthority observeLatency at h
  split at h
  · obtain ⟨_, _, rfl⟩ := hunavailable _ _ _ h
    exact hcontext _ _ _ _
  · split at h
    · obtain ⟨_, _, rfl⟩ := hunavailable _ _ _ h
      exact hcontext _ _ _ _
    · obtain rfl := Except.ok.inj h
      exact hcontext _ _ _ _

/-- Hardware within the policy has a clock that never moved backwards. -/
theorem monotonic_of_withinPolicy {pstdev : List ℚ → ℚ} {policy : TimePolicy}
    {samples : List MetricPoint} {observation : HardwareTimingObservation}
    (h : evaluateHardwareTiming pstdev policy samples = .ok observation)
    (hwithin : observation.withinPolicy = true) : observation.monotonic = true := by
  simp only [evaluateHardwareTiming, bind_eq_ok] at h
  obtain ⟨grouped, -, metadata, -, -, -, points, -, measuredAt, -, h⟩ := h
  obtain rfl := Except.ok.inj h
  simp only [hardwareClockWithinPolicy, Bool.and_eq_true] at hwithin
  exact hwithin.1.1.1.1

section
variable {py : PyOps} {pstdev : List ℚ → ℚ} {scenario : LiveScenario} {runtime : LiveRuntime}
  {context : RunContext} {measurement : Measurement py scenario}
  {evaluations : List AssertionEvaluation}

/-- A physical target has a clock of hardware, and a simulation none. -/
theorem isRight_clockEvaluation {metrics : List MetricPoint}
    {clock : TimingEvaluation ⊕ HardwareTimingObservation}
    (h : clockEvaluation py pstdev scenario measurement metrics = .ok clock) :
    clock.getRight?.isSome = scenario.targetEnvironment.physical := by
  unfold clockEvaluation at h
  split at h
  · next hp =>
    obtain ⟨hardware, -, h⟩ := bind_eq_ok.1 h
    obtain rfl := Except.ok.inj h
    exact hp.symm
  · next hp =>
    obtain ⟨evaluation, -, h⟩ := bind_eq_ok.1 h
    obtain rfl := Except.ok.inj h
    exact ((Bool.not_eq_true _).mp hp).symm

/-- The clock of a simulation is the evaluation of some samples. -/
theorem simulationTiming_eq_ok {metrics : List MetricPoint} {evaluation : TimingEvaluation}
    (h : simulationTiming py scenario measurement metrics = .ok evaluation) :
    ∃ samples window, evaluateTiming py scenario.timeMode scenario.timePolicy samples 1
      (some window) = some evaluation := by
  obtain ⟨samples, -, h⟩ := bind_eq_ok.1 h
  split at h
  all_goals
    obtain ⟨ratio, -, h⟩ := bind_eq_ok.1 h
    obtain ⟨window, -, h⟩ := bind_eq_ok.1 h
    exact ⟨samples, window, demand_eq_ok.1 h⟩

/-- A clock that is within its policy never moved backwards. -/
theorem monotonic_clockTiming {metrics : List MetricPoint}
    {clock : TimingEvaluation ⊕ HardwareTimingObservation}
    (h : clockEvaluation py pstdev scenario measurement metrics = .ok clock)
    (htiming : ∀ evaluation, clock = .inl evaluation → evaluation.issues = [])
    (hhardware : ∀ hardware, clock = .inr hardware → hardware.withinPolicy = true) :
    (clockTiming clock).monotonic = true := by
  unfold clockEvaluation at h
  split at h
  · obtain ⟨hardware, hok, h⟩ := bind_eq_ok.1 h
    obtain rfl := Except.ok.inj h
    exact monotonic_of_withinPolicy (mapError_eq_ok.1 hok) (hhardware hardware rfl)
  · obtain ⟨evaluation, hok, h⟩ := bind_eq_ok.1 h
    obtain rfl := Except.ok.inj h
    obtain ⟨samples, window, hevaluate⟩ := simulationTiming_eq_ok hok
    obtain ⟨-, ratios, -, heq⟩ := evaluateTiming_of_issues_nil hevaluate (htiming evaluation rfl)
    rw [heq]
    rfl

/-! ## Identifiers -/

/-- A text that a number is appended to. -/
def numbered (start : String) (n : ℕ) : String := s!"{start}-{n}"

theorem ne_numbered (start : String) (n : ℕ) : start ≠ numbered start n := fun h => by
  have hlength := congrArg String.length h
  have hdash : (toString "-").length = 1 := by decide
  simp only [numbered, String.length_append, hdash] at hlength
  rw [show (toString start).length = start.length from rfl] at hlength
  omega

theorem numbered_injective (start : String) : Function.Injective (numbered start) :=
  fun m n h => by simpa [numbered, Nat.repr_inj] using h

theorem timeEvidenceId_injective (identifier : String) :
    Function.Injective (timeEvidenceId identifier) := by
  rintro (_ | m) (_ | n) h
  · rfl
  · exact absurd h (ne_numbered _ _)
  · exact absurd h.symm (ne_numbered _ _)
  · exact congrArg (· - 1) (numbered_injective identifier h)

theorem graphAssertionId_injective : Function.Injective graphAssertionId := by
  have hstart : toString "expected-ros-graph-" =
      toString "expected-ros-graph" ++ toString "-" := by decide
  have hnumbered (n : ℕ) : s!"expected-ros-graph-{n}" = numbered "expected-ros-graph" n :=
    congrArg (· ++ toString n) hstart
  rintro (_ | m) (_ | n) h
  · rfl
  · exact absurd (h.trans (hnumbered _)) (ne_numbered _ _)
  · exact absurd (h.symm.trans (hnumbered _)) (ne_numbered _ _)
  · exact numbered_injective _ ((hnumbered _).symm.trans (h.trans (hnumbered _)))

/-- An evaluation with an unused identifier can be added. -/
theorem distinct_concat {assertions : List AssertionEvaluation}
    (h : Distinct (·.assertionId) assertions) {evaluation : AssertionEvaluation}
    (hnew : evaluation.assertionId ∉ assertions.map (·.assertionId)) :
    Distinct (·.assertionId) (assertions ++ [evaluation]) := by
  rw [Distinct, List.map_append, List.map_singleton]
  refine List.nodup_append.2 ⟨h, List.nodup_singleton _, fun id hid other hother heq => ?_⟩
  exact hnew (List.mem_singleton.1 hother ▸ heq ▸ hid)

/-- What the monitor and the time evidence add to a run takes identifiers that are not in use. -/
theorem verificationInputs_identifiers {inputs : ResultInputs}
    (hinputs : verificationInputs py pstdev scenario runtime context measurement evaluations =
      .ok inputs) (hdistinct : Distinct (·.assertionId) evaluations)
    (hpolicy : "time-policy" ∉ evaluations.map (·.assertionId)) :
    Distinct (·.assertionId) inputs.evaluations := by
  obtain ⟨monitor, clock, timeAuthority, -, -, -, -, rfl⟩ := verificationInputs_eq_ok.1 hinputs
  have hgraph : ∀ {assertions : List AssertionEvaluation}, Distinct (·.assertionId) assertions →
      Distinct (·.assertionId) (assertions ++ monitor.assertions py
        (monitor.run py measurement.snapshots) (assertions.map (·.assertionId))) := by
    intro assertions hassertions
    unfold ExpectedGraphMonitor.assertions
    dsimp only
    split
    · rwa [List.append_nil]
    · exact distinct_concat hassertions (firstUnused_not_mem _ graphAssertionId_injective)
  have hassertions : Distinct (·.assertionId)
      (verificationAssertions py monitor measurement.snapshots clock evaluations) := by
    refine hgraph ?_
    cases clock with
    | inr hardware => rwa [Option.toList_none, List.append_nil]
    | inl evaluation =>
      dsimp only
      unfold TimingEvaluation.failure
      split
      · rwa [Option.toList_none, List.append_nil]
      · exact distinct_concat hdistinct hpolicy
  unfold ResultInputs.evaluations appendTimeEvidence
  dsimp only
  split
  · exact distinct_concat hassertions (firstUnused_not_mem _ (timeEvidenceId_injective _))
  · exact hassertions

/-! ## Main result -/

/-- The facts that a live run has to show: its assertions passed, its clock has neither a violation
nor an insufficiency, hardware and the time authority are within the policy, no snapshot shows a
forbidden interface, and those of the measurement window show the expected graph. -/
structure Flawless (measurement : Measurement py scenario)
    (clock : TimingEvaluation ⊕ HardwareTimingObservation) (authority : TimeAuthorityObservation)
    (evaluations : List AssertionEvaluation) : Prop where
  asserted : evaluations ≠ []
  assertions : ∀ evaluation ∈ evaluations, evaluation.status = .passed
  timing : ∀ evaluation, clock = .inl evaluation →
    evaluation.violations = [] ∧ evaluation.insufficient = []
  hardware : ∀ observation, clock = .inr observation → observation.withinPolicy = true
  authority : authority.withinPolicy = true
  forbidden : ∀ snapshot ∈ measurement.readinessSnapshots ++ measurement.snapshots,
    findForbiddenGraphViolations scenario.forbiddenGraph snapshot = []
  expected : ∀ snapshot ∈ measurement.snapshots, measurement.InWindow snapshot →
    evaluateGraph py scenario.expectedGraph snapshot = []
  observed : scenario.expectedGraph.anything = true →
    ∃ snapshot ∈ measurement.snapshots, measurement.InWindow snapshot

/-- What a document with the status `passed` says, and what is true of its run. -/
structure SoundPass (measurement : Measurement py scenario)
    (clock : TimingEvaluation ⊕ HardwareTimingObservation) (authority : TimeAuthorityObservation)
    (evaluations : List AssertionEvaluation) (document : AcceptanceResult) : Prop
    extends Flawless measurement clock authority evaluations where
  results : ∀ result ∈ document.assertionResults, result.status = .passed
  evaluated : document.unevaluated = []
  monotonic : document.clockObservation.monotonic = true
  timeAuthority : document.timeAuthorityObservation.withinPolicy = true
  hardwareClock : scenario.targetEnvironment.physical = true →
    document.hardwareClockObservation.any (·.withinPolicy) = true

theorem timing_failure_eq_none {evaluation : TimingEvaluation} :
    evaluation.failure = none ↔ evaluation.issues = [] := by
  unfold TimingEvaluation.failure
  split <;> simp_all

/-- The assertion about the clock never passes. -/
theorem timing_failure_not_passed {evaluation : TimingEvaluation} {failure : AssertionEvaluation}
    (h : evaluation.failure = some failure) : failure.status ≠ .passed := by
  unfold TimingEvaluation.failure at h
  split at h
  · cases h
  · obtain rfl := Option.some.inj h
    dsimp only
    split <;> simp

/-- Of the assertions of a run, only the declared ones can pass. -/
theorem verificationAssertions_passed {monitor : ExpectedGraphMonitor}
    {clock : TimingEvaluation ⊕ HardwareTimingObservation} {snapshots : List GraphSnapshot} :
    (∀ evaluation ∈ verificationAssertions py monitor snapshots clock evaluations,
        evaluation.status = .passed) ↔
      (∀ evaluation ∈ evaluations, evaluation.status = .passed) ∧
      (∀ evaluation, clock = .inl evaluation → evaluation.issues = []) ∧
      monitor.reportedIssues (monitor.run py snapshots) = [] := by
  have hgraph : ∀ used, (∀ evaluation ∈ monitor.assertions py (monitor.run py snapshots) used,
      evaluation.status = .passed) ↔ monitor.reportedIssues (monitor.run py snapshots) = [] := by
    intro used
    rw [← monitor.assertions_eq_nil py _ used, List.eq_nil_iff_forall_not_mem]
    refine forall₂_congr fun evaluation hmem => ?_
    have hstatus := monitor.not_passed_of_mem_assertions py hmem
    exact iff_of_false (fun h => by simp [h] at hstatus) id
  simp only [verificationAssertions, List.forall_mem_append, hgraph, Option.mem_toList, and_assoc]
  refine and_congr_right fun _ => and_congr_left fun _ => ?_
  cases clock with
  | inl evaluation =>
    simp only [Sum.inl.injEq, forall_eq']
    rw [← timing_failure_eq_none]
    cases hf : evaluation.failure with
    | none => simp
    | some failure => simpa using timing_failure_not_passed hf
  | inr hardware => simp

/-- A run without issues has only its declared assertions. -/
theorem verificationAssertions_of_clean {monitor : ExpectedGraphMonitor}
    {clock : TimingEvaluation ⊕ HardwareTimingObservation} {snapshots : List GraphSnapshot}
    (htiming : ∀ evaluation, clock = .inl evaluation → evaluation.issues = [])
    (hreported : monitor.reportedIssues (monitor.run py snapshots) = []) :
    verificationAssertions py monitor snapshots clock evaluations = evaluations := by
  have hgraph : ∀ used, monitor.assertions py (monitor.run py snapshots) used = [] :=
    fun used => (monitor.assertions_eq_nil py _ used).2 hreported
  simp only [verificationAssertions, hgraph, List.append_nil]
  cases clock with
  | inl evaluation =>
    simp only [timing_failure_eq_none.2 (htiming evaluation rfl), Option.toList_none,
      List.append_nil]
  | inr hardware => exact List.append_nil _

/-- The verdict passes when the run is flawless. -/
theorem passes_iff_flawless {inputs : ResultInputs}
    {clock : TimingEvaluation ⊕ HardwareTimingObservation}
    (hinputs : verificationInputs py pstdev scenario runtime context measurement evaluations =
      .ok inputs)
    (hclock : clockEvaluation py pstdev scenario measurement measurement.metrics = .ok clock) :
    inputs.Passes ↔ Flawless measurement clock inputs.timeAuthority evaluations := by
  obtain ⟨monitor, clock', timeAuthority, hmonitor, -, hclock', htime, rfl⟩ :=
    verificationInputs_eq_ok.1 hinputs
  obtain rfl := Except.ok.inj (hclock.symm.trans hclock')
  obtain ⟨hstart, rfl⟩ := expectedGraphMonitor_eq_ok.1 hmonitor
  obtain ⟨evaluation, hevaluation, hwithin⟩ := evaluateTimeAuthority_evaluation htime
  constructor
  · intro h
    obtain ⟨hdeclared, htiming, hreported⟩ := verificationAssertions_passed.1 h.assertions
    obtain ⟨hexpected, hobserved⟩ := (ExpectedGraphMonitor.reportedIssues_eq_nil py _ _).1 hreported
    refine ⟨?_, hdeclared, fun evaluation he => List.append_eq_nil_iff.1 (htiming evaluation he),
      fun observation he => ?_, h.within, (forbiddenGraphObservation_passed _ _).1 h.forbidden,
      hexpected, hobserved⟩
    · have hne := h.asserted
      rwa [verificationAssertions_of_clean htiming hreported] at hne
    · subst he
      exact h.hardware _ rfl
  · intro h
    have htiming : ∀ evaluation, clock = .inl evaluation → evaluation.issues = [] :=
      fun evaluation he => List.append_eq_nil_iff.2 (h.timing evaluation he)
    have hreported := (ExpectedGraphMonitor.reportedIssues_eq_nil py
      ⟨scenario.expectedGraph, _, _, hstart⟩ measurement.snapshots).2 ⟨h.expected, h.observed⟩
    refine ⟨?_, ?_, verificationAssertions_passed.2 ⟨h.assertions, htiming, hreported⟩,
      fun e he => ?_, h.authority, (forbiddenGraphObservation_passed _ _).2 h.forbidden,
      fun hardware hh => ?_⟩
    · cases clock with
      | inl evaluation =>
        change evaluation.unevaluated = []
        rw [TimingEvaluation.unevaluated, (h.timing evaluation rfl).2]
        rfl
      | inr observation => rfl
    · rw [verificationAssertions_of_clean htiming hreported]
      exact h.asserted
    · obtain rfl := Option.some.inj (hevaluation.symm.trans he)
      exact hwithin.1 h.authority
    · cases clock with
      | inl evaluation => cases hh
      | inr observation =>
        obtain rfl := Option.some.inj hh
        exact h.hardware observation rfl

/-- A live result has the status `passed` only when its run is flawless, and the clauses on the
status accept it when its completion marker is still a file or something else is wrong. -/
theorem result_sound_iff {inputs : ResultInputs}
    {clock : TimingEvaluation ⊕ HardwareTimingObservation}
    (hinputs : verificationInputs py pstdev scenario runtime context measurement evaluations =
      .ok inputs)
    (hclock : clockEvaluation py pstdev scenario measurement measurement.metrics = .ok clock) :
    ∃ document, assembleResult inputs = .ok document ∧
      ((document.status = .passed →
          SoundPass measurement clock inputs.timeAuthority evaluations document) ∧
        validateResultStatus document = .ok () ↔
          measurement.markerPresent = true ∨
            ¬ Flawless measurement clock inputs.timeAuthority evaluations) := by
  have hpasses := passes_iff_flawless hinputs hclock
  obtain ⟨monitor, clock', timeAuthority, hmonitor, -, hclock', htime, hrecord⟩ :=
    verificationInputs_eq_ok.1 hinputs
  obtain rfl := Except.ok.inj (hclock.symm.trans hclock')
  have hright := isRight_clockEvaluation hclock
  obtain ⟨document, hdocument⟩ : ∃ document, assembleResult inputs = .ok document := by
    apply exists_assembleResult
    · rw [hrecord]
      exact hright.symm
    · rw [hrecord]
      exact Option.isSome_map
  have hlive : inputs.evaluationMode = .live := by rw [hrecord]
  have hpassed : document.status = .passed ↔
      Flawless measurement clock inputs.timeAuthority evaluations :=
    (status_eq_passed hdocument).trans hpasses
  obtain ⟨-, -, status, -, hdraft⟩ := assembleResult_eq_ok.1 hdocument
  have hsound : document.status = .passed →
      SoundPass measurement clock inputs.timeAuthority evaluations document := by
    intro hp
    have hflawless := hpassed.1 hp
    obtain ⟨hevaluated, hresults, -, hhardware, hauthority⟩ :=
      resultAssertions_passed.1 (ResultInputs.draft_passed.2 (hpasses.2 hflawless))
    refine ⟨hflawless, ?_, ?_, ?_, ?_, fun hphysical => ?_⟩
    · rwa [← hdraft]
    · rwa [← hdraft]
    · rw [← hdraft, hrecord]
      exact monotonic_clockTiming hclock
        (fun evaluation he => List.append_eq_nil_iff.2 (hflawless.timing evaluation he))
        hflawless.hardware
    · rwa [← hdraft]
    · rw [← hright, Option.isSome_iff_exists] at hphysical
      obtain ⟨hardware, hh⟩ := hphysical
      have hsome : inputs.draft.hardwareClockObservation =
          some (hardwareClockResult hardware context.metricsEvidenceSha256) := by
        rw [hrecord]
        simp only [ResultInputs.draft, hh]
        rfl
      rw [← hdraft]
      simp only [hsome, Option.any_some]
      exact hhardware _ hsome
  have hworkload : document.workload.fallbackCount = 0 := by
    rw [← hdraft, hrecord]
    exact runtime.noFallback
  have hshutdown : document.shutdown = ⟨true, measurement.markerPresent, true⟩ := by
    rw [← hdraft, hrecord]
    rfl
  have henvironment : document.targetEnvironment = scenario.targetEnvironment := by
    rw [← hdraft, hrecord]
    rfl
  refine ⟨document, hdocument, ?_⟩
  rw [validateResultStatus_eq_ok hdocument hlive, validatePassed_eq_ok, hworkload, hshutdown,
    henvironment, and_iff_right hsound, ← hpassed]
  constructor
  · intro h
    by_cases hp : document.status = .passed
    · have := (h hp).2.2.1
      exact .inl (by simpa using this)
    · exact .inr hp
  · intro h hp
    have hmarker := h.resolve_right (not_not.2 hp)
    have hpass := hsound hp
    exact ⟨rfl, hpass.monotonic, by rw [hmarker], hpass.hardwareClock, hpass.timeAuthority⟩

end

/-! A stepped simulation of a second, with thirty latencies of at most a millisecond. -/

def exampleLatencies : HistogramSample where
  name := "robotics.time_authority.delivery_latency"
  unit := "ms"
  observedAtNs := 40
  count := 40
  bucketCounts := [40, 0]
  explicitBounds := [1]
  attributes := LatencyContext.attributes ⟨"run", "camera", "clock", 10, 40⟩
  temporality := .delta
  startTimeNs := 10
  sum := none
  min := none
  max := some 1
  checked := by decide +kernel

def exampleTimePolicy : TimePolicy where
  timeAuthorityMinSamples := 40
  maxTimeAuthorityDeliveryLatencyP50Ms := 1
  maxTimeAuthorityDeliveryLatencyP95Ms := 1
  maxTimeAuthorityDeliveryLatencyMs := 1
  minSamples := by decide
  p50_nonneg := by decide +kernel
  p50_le_p95 := le_rfl
  p95_le_max := le_rfl
  minRealtimeFactor := none
  maxDeadlineMissRatio := none
  stepSizeSec := some 1
  maxSkippedSteps := some 0
  minClockHz := none
  clockSyncProtocol := none
  maxClockOffsetMs := none
  maxClockDriftPpm := none
  maxMessageAgeMs := none
  realtimeFactor_pos := by simp
  deadlineRatio_nonneg := by simp
  deadlineRatio_le_one := by simp
  stepSize_pos := by simp
  skippedSteps_nonneg := by simp

def exampleScenario : LiveScenario where
  targetEnvironment := .simulation
  timeMode := .simulationStepped
  timePolicy := exampleTimePolicy
  expectedGraph := ⟨[], [], [], []⟩
  forbiddenGraph := ⟨[], [], []⟩
  executionSec := 1
  declares := ⟨rfl, rfl⟩
  physical_iff := by decide
  executionSec_pos := by decide +kernel

def exampleRuntime : LiveRuntime := ⟨.none, ⟨"none", 0, 0⟩, rfl⟩

def exampleContext : RunContext := ⟨"run", "camera", "clock", "metrics"⟩

def exampleRun (markerPresent : Bool) : Measurement .exact exampleScenario where
  startedNs := 10
  finishedNs := 40
  startedMonotonicNs := 0
  finishedMonotonicNs := 1000000000
  readinessSnapshots := []
  snapshots := []
  clockSamples := [⟨0, 0, none, none⟩, ⟨1000000000, 1000000000, none, none⟩]
  metricPoints := [.histogram exampleLatencies]
  markerPresent := markerPresent
  started_nonneg := le_rfl
  ended := by decide +kernel

def examplePassed : AssertionEvaluation where
  assertionId := "camera-age"
  status := .passed
  observedValue := none
  unit := "ms"

/-- When the marker is gone at the end of a flawless run, its document says `passed` and is
rejected. -/
theorem passed_rejected_of_marker_gone :
    ¬ ∀ (scenario : LiveScenario) (runtime : LiveRuntime) (context : RunContext)
      (measurement : Measurement .exact scenario) (evaluations : List AssertionEvaluation)
      (inputs : ResultInputs) (document : AcceptanceResult),
      verificationInputs .exact (fun _ => 0) scenario runtime context measurement evaluations =
          .ok inputs →
        assembleResult inputs = .ok document → validateResultStatus document = .ok () := by
  intro h
  obtain ⟨inputs, hinputs, hrejected⟩ := exists_ok_of_any (by decide +kernel :
    (verificationInputs .exact (fun _ => 0) exampleScenario exampleRuntime exampleContext
      (exampleRun false) [examplePassed]).toOption.any (fun inputs =>
        (assembleResult inputs).toOption.any fun document =>
          (validateResultStatus document).toOption.isNone) = true)
  obtain ⟨document, hdocument, hnone⟩ := exists_ok_of_any hrejected
  rw [h _ _ _ _ _ inputs document hinputs hdocument] at hnone
  cases hnone

theorem result_sound_iff_exampleRun :
    ∃ inputs clock, verificationInputs .exact (fun _ => 0) exampleScenario exampleRuntime
        exampleContext (exampleRun true) [examplePassed] = .ok inputs ∧
      ∃ document, assembleResult inputs = .ok document ∧
        ((document.status = .passed →
            SoundPass (exampleRun true) clock inputs.timeAuthority [examplePassed] document) ∧
          validateResultStatus document = .ok () ↔
            (exampleRun true).markerPresent = true ∨
              ¬ Flawless (exampleRun true) clock inputs.timeAuthority [examplePassed]) := by
  obtain ⟨inputs, hinputs, -⟩ := exists_ok_of_any (by decide +kernel :
    (verificationInputs .exact (fun _ => 0) exampleScenario exampleRuntime exampleContext
      (exampleRun true) [examplePassed]).toOption.any (fun _ => true) = true)
  obtain ⟨clock, hclock, -⟩ := exists_ok_of_any (by decide +kernel :
    (clockEvaluation .exact (fun _ => 0) exampleScenario (exampleRun true)
      (exampleRun true).metrics).toOption.any (fun _ => true) = true)
  exact ⟨inputs, clock, hinputs, result_sound_iff hinputs hclock⟩

end RoboticsRuntime.Harness
