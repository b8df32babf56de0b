import RoboticsRuntime.Contracts.NativeResult
import RoboticsRuntime.Harness.AcceptanceEvaluation

/-!
# Native assessments

`native.evaluate_native`: the assessment of captured native observations, up to the result document
and its validation. Documents are loaded, and so accepted by their validators; the clock, the files
that the assessment writes and the evaluators of products are inputs.
-/

namespace RoboticsRuntime.Harness
open Theory Contracts

/-! ## Inputs -/

/-- A loaded native scenario. -/
structure LoadedScenario where
  data : NativeScenario
  sha256 : String
  accepted : validateNativeScenario data = .ok ()

/-- The parts of a loaded `runtime-manifest.v2` that an assessment reads. -/
structure NativeRuntime where
  execution : NativeExecution
  nativeModel : Option ArtifactReference := none
  sha256 : String
  deriving DecidableEq, Repr

/-- The parts of a loaded `acceptance-run.v1` that an assessment reads. -/
structure LoadedRun where
  timeAuthority : TimeAuthority
  sha256 : String
  deriving DecidableEq, Repr

/-- A loaded observation document of the evidence. -/
structure LoadedObservation (ν : Type) where
  data : AcceptanceObservation ν
  sha256 : String
  accepted : validateNativeObservation data = .ok ()

/-- A local file of the evidence index whose kind is `acceptance_observation`, as it is loaded. -/
inductive IndexedObservation (ν : Type) where
  | v2 (loaded : LoadedObservation ν)
  | other

/-! ## Metrics -/

/-- `OTLP_JSON_LINES_MEDIA_TYPE`. -/
def otlpJsonLinesMediaType : String := "application/x-ndjson"

/-- The scenario can only be assessed with metrics. -/
def AssessedScenario.requiresMetrics : AssessedScenario → Bool
  | v1 _ _ => true
  | v2 scenario selected => (nativeControls scenario selected).metricDefinitions ≠ []

/-- `_offline_metric_samples`, of the resolved path of the metrics. What `load_otlp_json_metrics`
reads from a file with a digest is a parameter. -/
def offlineMetricSamples (context : EvaluationContext)
    (loadMetrics : String → String → Except AcceptanceFailure (List MetricPoint)) :
    Option String → Except AcceptanceFailure (List MetricPoint × Option EvidenceLink)
  | none => do
    require (context.scenario.requiresMetrics = false)
      (.verification "this scenario requires --otel-metrics evidence")
    return ([], none)
  | some path => do
    let link ← demand
      ((context.evidence.localFile? path).filter (·.mediaType = otlpJsonLinesMediaType))
      (.verification
        ("OTLP metrics must be verified local " ++ otlpJsonLinesMediaType ++ " evidence"))
    let points ← loadMetrics path link.sha256
    return (measurementMetrics (selectMetricPoints points context.runId context.domainId)
      context.window.startNs context.window.endNs, some link)

/-- The metrics come from a link of the evidence. -/
theorem mem_links_of_offlineMetricSamples {context : EvaluationContext}
    {loadMetrics : String → String → Except AcceptanceFailure (List MetricPoint)}
    {path : Option String} {samples : List MetricPoint} {link : EvidenceLink}
    (h : offlineMetricSamples context loadMetrics path = .ok (samples, some link)) :
    link ∈ context.evidence.links := by
  cases path with
  | none =>
    obtain ⟨-, h⟩ := seq_eq_ok.1 h
    cases h
  | some path =>
    obtain ⟨found, hfound, h⟩ := bind_eq_ok.1 h
    obtain ⟨points, -, h⟩ := bind_eq_ok.1 h
    cases h
    exact VerifiedEvidence.mem_links_of_localFile
      (Option.filter_eq_some_iff.1 (demand_eq_ok.1 hfound)).1

/-- `EvaluationContext` and the run of a native assessment, with the metrics that are read from the
file at `otelMetricsPath`. -/
structure NativeInputs (ν : Type) where
  runId : String
  domainId : String
  scenario : LoadedScenario
  runtime : NativeRuntime
  run : LoadedRun
  evidence : VerifiedEvidence
  indexedObservations : List (IndexedObservation ν)
  window : Window
  selected : Option AssessmentControls := none
  originalResult : Option (NativeResult ν × String) := none
  operatorProfile : Bool := false
  otelMetricsPath : Option String := none
  loadMetrics : String → String → Except AcceptanceFailure (List MetricPoint)
  metrics : List MetricPoint × Option EvidenceLink
  metrics_read : offlineMetricSamples ⟨runId, domainId, .v2 scenario.data selected, evidence, [],
    window, none⟩ loadMetrics otelMetricsPath = .ok metrics

/-- What one assessment meets: the clock, its identifier, the artifacts that it writes, and what
the evaluators of products do. -/
structure AssessmentRun where
  startedAtNs : ℤ
  finishedAtNs : ℤ
  resultId : String
  version : String
  configuration : ArtifactReference
  environment : ArtifactReference
  installed : EvaluatorRequirement → Except AcceptanceFailure EvaluatorRun
  respond : OciRequirement → Except EvaluatorFailure EvaluatorResponse
  requestSha256 : OciRequirement → String

namespace NativeInputs
variable {ν : Type} (inputs : NativeInputs ν)

/-- `metric_samples`. -/
def metricSamples : List MetricPoint := inputs.metrics.1

/-- `metric_evidence_sha256`. -/
def metricEvidenceSha256 : Option String := inputs.metrics.2.map (·.sha256)

theorem metricEvidence_mem {sha256 : String} (h : sha256 ∈ inputs.metricEvidenceSha256) :
    sha256 ∈ inputs.evidence.links.map (·.sha256) := by
  obtain ⟨link, hlink, rfl⟩ := Option.map_eq_some_iff.1 h
  have hread := inputs.metrics_read
  rw [show inputs.metrics = (inputs.metrics.1, some link) from Prod.ext rfl hlink] at hread
  exact List.mem_map_of_mem (mem_links_of_offlineMetricSamples hread)

/-- `method_controls`. -/
def controls : MethodControls := nativeControls inputs.scenario.data inputs.selected

/-- The `EvaluationContext` of the inputs. -/
def context : EvaluationContext where
  runId := inputs.runId
  domainId := inputs.domainId
  scenario := .v2 inputs.scenario.data inputs.selected
  evidence := inputs.evidence
  metricSamples := inputs.metricSamples
  window := inputs.window
  metricEvidenceSha256 := inputs.metricEvidenceSha256

/-- `_validate_native_admission`. -/
def validateAdmission : Except AcceptanceFailure Unit :=
  match inputs.controls.evaluatorRequirements with
  | .oci requirements => do
    require (inputs.originalResult.isSome = true)
      (.evaluation "versioned assessment controls require an original v2 result")
    require (requirements = [] ∨ inputs.operatorProfile = true)
      (.evaluation "OCI evaluator execution requires an operator profile")
  | .installed _ => require (inputs.operatorProfile = false)
      (.evaluation "OCI operator profile requires versioned assessment controls")

/-! ## The source -/

/-- The loop of `_load_observation`, with the matches so far. -/
def matchObservation (found : List (LoadedObservation ν)) (indexed : IndexedObservation ν) :
    Except AcceptanceFailure (List (LoadedObservation ν)) :=
  match indexed with
  | .other => .error (.bundle "$.observation.schema_version"
      "native assessment requires v2 observations")
  | .v2 loaded => .ok
      (if loaded.data.runId = inputs.runId ∧ loaded.data.domainId = inputs.domainId
        then found ++ [loaded] else found)

/-- `_load_observation`. -/
def loadObservation : Except AcceptanceFailure (LoadedObservation ν) := do
  let found ← inputs.indexedObservations.foldlM inputs.matchObservation []
  match found with
  | [loaded] => return loaded
  | _ => .error (.bundle "$.observations"
      "native assessment requires exactly one indexed observation for this run and domain")

/-- `expected` of `_validate_source`, with what the source says. -/
def sourceIdentities (source : AcceptanceObservation ν) : List (String × String × String) :=
  [("run_id", inputs.runId, source.runId), ("domain_id", inputs.domainId, source.domainId),
    ("scenario_id", inputs.scenario.data.scenarioId, source.scenarioId),
    ("scenario_sha256", inputs.scenario.sha256, source.scenarioSha256),
    ("runtime_manifest_sha256", inputs.runtime.sha256, source.runtimeManifestSha256)]

/-- The references that must be in the evidence: `_references(retained)`. -/
def retainedReferences (source : AcceptanceObservation ν) : List ArtifactReference :=
  inputs.scenario.data.profile.references ++ inputs.runtime.nativeModel.toList ++ source.evidence

/-- `_validate_source`. -/
def validateSource (source : AcceptanceObservation ν) : Except AcceptanceFailure Unit := do
  (inputs.sourceIdentities source).forM fun entry => require (entry.2.2 = entry.2.1)
    (.bundle ("$.observation." ++ entry.1) "identifies another execution input")
  require (source.nativeModel = inputs.runtime.nativeModel)
    (.bundle "$.observation.native_model" "does not identify the model bytes actually loaded")
  require (∀ entry ∈ source.observations,
      entry.1 ∈ inputs.scenario.data.profile.observations.map (·.1))
    (.bundle "$.observations" "includes observations outside the selected profile")
  require (∀ reference ∈ inputs.retainedReferences source,
      ∃ link ∈ inputs.evidence.links, link.key = reference.key)
    (.bundle "$.evidence" "a native source binding is absent from verified evidence")

/-- The body of the loop of `_observations`. -/
def resolveObservation (supplied : List (String × NativeObservation ν))
    (entry : String × ObservationRequirement) :
    Except AcceptanceFailure (String × NativeObservation ν) :=
  match entry.2.requirement with
  | .notApplicable reason => do
    let observed := (supplied.lookup entry.1).getD (.notApplicable reason)
    require (observed.inapplicable? = some reason)
      (.bundle (observationPath entry.1) "contradicts declared inapplicability")
    return (entry.1, observed)
  | _ => do
    let observed := (supplied.lookup entry.1).getD
      (.unobserved "producer supplied no observation")
    require (observed.inapplicable? = none)
      (.bundle (observationPath entry.1) "inapplicability is not declared by the profile")
    return (entry.1, observed)

/-- `_observations`. -/
def resolveObservations (source : AcceptanceObservation ν) :
    Except AcceptanceFailure (List (String × NativeObservation ν)) :=
  inputs.scenario.data.profile.observations.mapM (resolveObservation source.observations)

/-- `_measurement_window`. -/
def measurementWindow (source : AcceptanceObservation ν) :
    Except AcceptanceFailure (Option MeasurementWindow) :=
  match source.measurementWindow with
  | none => do
    require (inputs.controls.metricDefinitions = [])
      (.bundle "$.measurement_window" "metric assessment requires a captured source window")
    return none
  | some window => do
    require (window.clock = inputs.run.timeAuthority)
      (.bundle "$.measurement_window.clock" "differs from the run's declared measurement clock")
    require (inputs.controls.metricDefinitions = [] ∨ window.timestampEncoding = .unixNs)
      (.bundle "$.measurement_window"
        "OTLP metric assessment requires unix_ns source timestamps")
    require (window.startNs ≤ inputs.window.startNs ∧ inputs.window.startNs < inputs.window.endNs ∧
        inputs.window.endNs ≤ window.endNs)
      (.bundle "$.evaluation.window" "must lie within the captured source window")
    return some { window with startNs := inputs.window.startNs, endNs := inputs.window.endNs }

/-- The check of the clock of the profile in `_evaluate_native`. -/
def validateProfileClock : Except AcceptanceFailure Unit :=
  match inputs.scenario.data.profile.clock with
  | none => .ok ()
  | some clock => require (clock.kind = inputs.run.timeAuthority.kind.text ∧
        clock.sourceId = inputs.run.timeAuthority.sourceId)
      (.bundle "$.profile.clock" "differs from the original run's declared clock")

/-- What an original result must say of the execution, beside its identities. -/
def checkOriginalResult (source : LoadedObservation ν) (original : OriginalExecution)
    (baseline : NativeResult ν) : Except AcceptanceFailure Unit := do
  let path (key : String) := "$.original_result." ++ key
  let differs := "differs from original execution"
  require (baseline.runId = inputs.runId) (.bundle (path "run_id") differs)
  require (baseline.domainId = inputs.domainId) (.bundle (path "domain_id") differs)
  require (baseline.scenarioId = inputs.scenario.data.scenarioId)
    (.bundle (path "scenario_id") differs)
  require (baseline.scenarioSha256 = inputs.scenario.sha256)
    (.bundle (path "scenario_sha256") differs)
  require (baseline.runtimeManifestSha256 = inputs.runtime.sha256)
    (.bundle (path "runtime_manifest_sha256") differs)
  require (baseline.execution = inputs.runtime.execution) (.bundle (path "execution") differs)
  require (baseline.profile = inputs.scenario.data.profile) (.bundle (path "profile") differs)
  require (baseline.nativeModel = source.data.nativeModel) (.bundle (path "native_model") differs)
  require ({ baseline.originalExecution with originalResultSha256 := none } = original)
    (.bundle (path "original_execution") differs)

/-- `_original_execution`. -/
def originalExecution (source : LoadedObservation ν) (startedAtNs : ℤ) :
    Except AcceptanceFailure OriginalExecution :=
  let original : OriginalExecution :=
    ⟨inputs.run.sha256, source.sha256, inputs.evidence.indexSha256, source.data.startedAtNs,
      source.data.finishedAtNs, none⟩
  match inputs.originalResult with
  | none => .ok original
  | some (baseline, sha256) => do
    require (inputs.selected.isSome = true ∧ baseline.schemaName = "acceptance-result.v2")
      (.bundle "$.original_result" "requires selected native v2 controls and result")
    inputs.checkOriginalResult source original baseline
    require (baseline.evaluation.finishedAtNs ≤ startedAtNs)
      (.bundle "$.original_result.evaluation"
        "original assessment finishes after new assessment starts")
    return { original with originalResultSha256 := some sha256 }

/-! ## The evaluations -/

/-- The run of an OCI evaluator, by the response that it gives. -/
def ociRun (py : PyOps) (run : AssessmentRun) (requirement : OciRequirement) : EvaluatorRun :=
  match run.respond requirement with
  | .error failure => ⟨[], some failure⟩
  | .ok response =>
    match decodeEvaluatorResponse py response (run.requestSha256 requirement)
      requirement.nameSpace requirement.expectedAssertionIds inputs.context.evidenceSha256 with
    | .ok evaluations => ⟨evaluations.map .evaluation, none⟩
    | .error failure => ⟨[], some failure.inEvaluator⟩

/-- The evaluators of the method, in the order of its requirements: `_selected_native_evaluators`
or `_installed_evaluators`. -/
def evaluators (py : PyOps) (run : AssessmentRun) :
    Except AcceptanceFailure (List (String × EvaluatorRun)) :=
  match inputs.controls.evaluatorRequirements with
  | .oci requirements => .ok (requirements.map fun requirement =>
      (requirement.nameSpace, inputs.ociRun py run requirement))
  | .installed requirements => requirements.mapM fun requirement => do
      let evaluatorRun ← run.installed requirement
      return (requirement.nameSpace, evaluatorRun)

/-- `_criterion_evidence`. -/
def criterionEvidence (item : AssertionEvaluation) : List String :=
  if item.status = .passed ∨ item.status = .failed then
    if item.source = .product then
      sortedSet (item.evidenceSha256.filter (· ∈ inputs.context.originalEvidenceSha256))
    else if item.observedValue = none then []
    else inputs.metricEvidenceSha256.toList
  else []

/-- `declared` of `_criterion_coverage`. -/
def declaredIds : List String :=
  inputs.controls.assertions.map (·.assertionId) ++
    inputs.controls.evaluatorRequirements.assignedIds

/-- `criteria` of `_criterion_coverage`. -/
def criteria (assertions : List AssertionEvaluation) : List AssertionEvaluation :=
  assertions.filter fun item => item.source = .product ∨ item.assertionId ∈ inputs.declaredIds

/-- The classification of one identifier, covered or not. -/
def criterion (assertions : List AssertionEvaluation) (identifier : String) :
    CoveredAssertion ⊕ UncoveredAssertion :=
  match (inputs.criteria assertions).reverse.find? (·.assertionId = identifier) with
  | none => .inr ⟨identifier, "method returned no outcome"⟩
  | some item =>
    let evidence := inputs.criterionEvidence item
    if evidence = [] then
      .inr ⟨identifier, if item.message = "" then "method has no observed source-bound outcome"
        else item.message⟩
    else .inl ⟨identifier, evidence⟩

/-- The identifiers that are classified. -/
def criterionIds (assertions : List AssertionEvaluation) : List String :=
  sortedSet ((inputs.criteria assertions).map (·.assertionId) ++ inputs.declaredIds)

/-- `_criterion_coverage`. -/
def criterionCoverage (assertions : List AssertionEvaluation) : AssessmentCoverage :=
  let classified := (inputs.criterionIds assertions).map (inputs.criterion assertions)
  ⟨classified.filterMap Sum.getLeft?, classified.filterMap Sum.getRight?⟩

/-- The paths of the required observations that are missing. -/
def missingRequired (observations : List (String × NativeObservation ν)) : List String :=
  inputs.scenario.data.profile.observations.filterMap fun entry =>
    if entry.2.requirement = .required ∧ (observations.lookup entry.1).any (·.isMissing)
    then some (observationPath entry.1) else none

/-- `unevaluated`, before it is sorted. -/
def unevaluatedPaths (observations : List (String × NativeObservation ν))
    (assertions : List AssertionEvaluation) (coverage : AssessmentCoverage) : List String :=
  inputs.missingRequired observations ++
  (if observations.any (·.2.isMeasured) then [] else ["$.observations"]) ++
  (if inputs.controls.assertions = [] ∧ ∀ item ∈ assertions, item.source ≠ .product
    then ["$.assertions"] else []) ++
  coverage.uncoveredAssertions.map (assertionPath ·.assertionId) ++
  (assertions.filter (·.status = .skipped)).map (assertionPath ·.assertionId)

/-! ## The result -/

/-- `result` of `_evaluate_native`, of a source, its resolved parts and the evaluations. -/
def draft (run : AssessmentRun) (observations : List (String × NativeObservation ν))
    (window : Option MeasurementWindow) (original : OriginalExecution)
    (assertions : List AssertionEvaluation) (status : OutcomeStatus) : NativeResult ν :=
  let coverage := inputs.criterionCoverage assertions
  { resultId := run.resultId
    runId := inputs.runId
    scenarioId := inputs.scenario.data.scenarioId
    domainId := inputs.domainId
    scenarioSha256 := inputs.scenario.sha256
    runtimeManifestSha256 := inputs.runtime.sha256
    execution := inputs.runtime.execution
    profile := inputs.scenario.data.profile
    nativeModel := inputs.runtime.nativeModel
    originalExecution := original
    evaluation := {
      method := ⟨"robotics_acceptance_harness.evaluate_acceptance", run.version,
        run.configuration⟩
      environment := run.environment
      calibration := some ((inputs.selected.map (·.calibration)).getD
        (.unobserved "original method has no explicit calibration selection"))
      coverage := some coverage
      window := window
      startedAtNs := run.startedAtNs
      finishedAtNs := run.finishedAtNs }
    observations := observations
    unevaluated := sortedSet (inputs.unevaluatedPaths observations assertions coverage)
    status := status
    assertionResults := assertions.map (·.result)
    evaluators := inputs.controls.evaluatorRequirements
    evidence := inputs.evidence.links }

/-- `_evaluate_native`, up to the result that it validates. -/
def assemble (texts : MetricTexts) (run : AssessmentRun) :
    Except AcceptanceFailure (NativeResult ν) := do
  inputs.validateAdmission
  let source ← inputs.loadObservation
  inputs.validateSource source.data
  let observations ← inputs.resolveObservations source.data
  let window ← inputs.measurementWindow source.data
  inputs.validateProfileClock
  let original ← inputs.originalExecution source run.startedAtNs
  let evaluators ← inputs.evaluators texts.toPyOps run
  let assertions ← evaluateAcceptance texts inputs.context evaluators
  let unevaluated := inputs.unevaluatedPaths observations assertions
    (inputs.criterionCoverage assertions)
  let status ← (assessmentStatus (assertions.map (·.status)) unevaluated).mapError
    fun error => .evaluation error.message
  return inputs.draft run observations window original assertions status

end NativeInputs

end RoboticsRuntime.Harness
