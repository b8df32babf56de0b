import RoboticsRuntime.Contracts.NativeScenario
import RoboticsRuntime.Contracts.Status

/-!
# Native acceptance results

`acceptance-result.v2` and `acceptance-result.v3`, with `_validate_native_result`: the observations
of a source, the evaluations of a method and what of both is left unevaluated.
-/

namespace RoboticsRuntime.Contracts
open Theory

/-! ## Documents -/

/-- `evaluationMethod`. -/
structure EvaluationMethod where
  implementation : String
  version : String
  configuration : ArtifactReference
  deriving DecidableEq, Repr

/-- An entry of `covered_assertions`. -/
structure CoveredAssertion where
  assertionId : String
  evidenceSha256 : List String
  deriving DecidableEq, Repr

/-- An entry of `uncovered_assertions`. -/
structure UncoveredAssertion where
  assertionId : String
  reason : String
  deriving DecidableEq, Repr

/-- `assessmentCoverage`. -/
structure AssessmentCoverage where
  coveredAssertions : List CoveredAssertion
  uncoveredAssertions : List UncoveredAssertion
  deriving DecidableEq, Repr

/-- `evaluation` of a native result. -/
structure NativeAssessment where
  method : EvaluationMethod
  environment : ArtifactReference
  calibration : Option CalibrationSelection := none
  coverage : Option AssessmentCoverage := none
  window : Option MeasurementWindow := none
  startedAtNs : ℤ
  finishedAtNs : ℤ
  deriving DecidableEq, Repr

/-- `originalExecution`. -/
structure OriginalExecution where
  acceptanceRunSha256 : String
  observationSha256 : String
  evidenceIndexSha256 : String
  startedAtNs : ℤ
  finishedAtNs : ℤ
  originalResultSha256 : Option String := none
  deriving DecidableEq, Repr

/-- A native result. Its version is that of its evaluators. -/
structure NativeResult (ν : Type) where
  resultId : String
  runId : String
  scenarioId : String
  domainId : String
  scenarioSha256 : String
  runtimeManifestSha256 : String
  execution : NativeExecution
  profile : NativeProfile
  nativeModel : Option ArtifactReference := none
  originalExecution : OriginalExecution
  evaluation : NativeAssessment
  observations : List (String × NativeObservation ν)
  unevaluated : List String
  status : OutcomeStatus
  assertionResults : List AssertionResult
  evaluators : EvaluatorRequirements
  evidence : List EvidenceLink

/-- The schema of a result with such evaluators. -/
def EvaluatorRequirements.resultSchema : EvaluatorRequirements → String
  | installed _ => "acceptance-result.v2"
  | oci _ => "acceptance-result.v3"

namespace NativeResult
variable {ν : Type} (document : NativeResult ν)

/-- `schema_version`. -/
def schemaName : String := document.evaluators.resultSchema

/-- `uncovered_assertions`, of which a result without coverage has none. -/
def uncoveredAssertions : List UncoveredAssertion :=
  (document.evaluation.coverage.map (·.uncoveredAssertions)).getD []

/-- The digests of the listed evidence. -/
def evidenceDigests : List String := document.evidence.map (·.sha256)

end NativeResult

/-! ## Missing observations and assertions -/

/-- The path of an observation in `unevaluated`. -/
def observationPath (name : String) : String := "$.observations." ++ name

/-- The path of an assertion in `unevaluated`. -/
def assertionPath (assertionId : String) : String := "$.assertions." ++ assertionId

/-- The body of the loop of `_native_missing_observations`: the path that it adds, if any. -/
def missingObservation {ν : Type} (schemaName : String)
    (observations : List (String × NativeObservation ν)) (entry : String × ObservationRequirement) :
    Except SemanticFailure (Option String) := do
  let observation ← demand (observations.lookup entry.1) (.keyError entry.1)
  match entry.2.requirement with
  | .notApplicable reason =>
    require (observation.inapplicable? = some reason)
      (.semantic schemaName (observationPath entry.1)
        "must preserve the profile's declared inapplicability and reason")
    return none
  | .optional =>
    require (observation.inapplicable? = none)
      (.semantic schemaName (observationPath entry.1)
        "profile has not declared this observation inapplicable")
    return none
  | .required =>
    require (observation.inapplicable? = none)
      (.semantic schemaName (observationPath entry.1)
        "profile has not declared this observation inapplicable")
    return if observation.isMissing then some (observationPath entry.1) else none

/-- `_native_missing_observations`. -/
def nativeMissingObservations {ν : Type} (document : NativeResult ν) :
    Except SemanticFailure (List String) := do
  let requirements := document.profile.observations
  let observations := document.observations
  require ((∀ entry ∈ observations, entry.1 ∈ requirements.map (·.1)) ∧
      ∀ entry ∈ requirements, entry.1 ∈ observations.map (·.1))
    (.semantic document.schemaName "$.observations"
      "must account for exactly the profile's declared observations")
  let missing ← requirements.mapM (missingObservation document.schemaName observations)
  return missing.filterMap id

/-- An assertion of the native evidence policy. -/
def nativePolicyAssertion (result : AssertionResult) : Bool :=
  result.source = .core && startsWith result.assertionId "policy-native-"

/-- `missing` after the observations. -/
def missingAssessment {ν : Type} (document : NativeResult ν) (missingObservations : List String) :
    List String :=
  missingObservations ++
    (if document.observations.any (·.2.isMeasured) then [] else ["$.observations"]) ++
    (if document.assertionResults.all nativePolicyAssertion then ["$.assertions"] else []) ++
    (document.assertionResults.filter (·.status = .skipped)).map (assertionPath ·.assertionId) ++
    document.uncoveredAssertions.map (assertionPath ·.assertionId)

/-- The status that an assertion has for the assessment. -/
def AssertionStatus.assessed : AssertionStatus → OutcomeStatus
  | passed => .passed
  | failed => .failed
  | error => .error
  | skipped => .incomplete

/-- The status of an assessment with such results and missing parts. -/
def assessmentStatus (statuses : List AssertionStatus) (missing : List String) :
    Except ContractError OutcomeStatus :=
  worstStatus (statuses.map (·.assessed) ++ if missing = [] then [] else [.incomplete]) false

/-! ## Coverage -/

/-- `owners.get(assertion_id)`. -/
def ociOwner (requirements : List OciRequirement) (assertionId : String) : Option String :=
  (requirements.reverse.find? (assertionId ∈ ·.expectedAssertionIds)).map (·.nameSpace)

/-- `_validate_oci_assessment_coverage`. -/
def validateOciAssessmentCoverage {ν : Type} (document : NativeResult ν)
    (requirements : List OciRequirement) (coverage : AssessmentCoverage) :
    Except SemanticFailure Unit := do
  let schemaName := document.schemaName
  validateOciRequirements schemaName requirements "$.evaluators"
  let expected := requirements.flatMap (·.expectedAssertionIds)
  let rows := document.assertionResults.filter fun item => item.source = .product ∧
    ∃ requirement ∈ requirements, item.nameSpace = some requirement.nameSpace
  let coveredIds := coverage.coveredAssertions.map (·.assertionId)
  let uncoveredIds := coverage.uncoveredAssertions.map (·.assertionId)
  require (∀ item ∈ document.assertionResults, item.source = .core → item.assertionId ∉ expected)
    (.semantic schemaName "$.assertion_results" "OCI assertion ID cannot be claimed by a core row")
  require (∀ item ∈ rows, ociOwner requirements item.assertionId = item.nameSpace)
    (.semantic schemaName "$.assertion_results"
      "OCI product assertion is not assigned to its evaluator")
  require (∀ id ∈ expected, id ∈ coveredIds ∨ id ∈ uncoveredIds)
    (.semantic schemaName "$.evaluation.coverage"
      "OCI expected assertions must be covered or uncovered")
  require (∀ id ∈ coveredIds, id ∈ expected → id ∈ rows.map (·.assertionId))
    (.semantic schemaName "$.evaluation.coverage"
      "covered OCI assertions require their product result")

/-- The part of `_validate_native_assessment_coverage` that depends on the version. -/
def validateVersionedCoverage {ν : Type} (document : NativeResult ν)
    (coverage : AssessmentCoverage) : Except SemanticFailure Unit :=
  match document.evaluators with
  | .installed _ => .ok ()
  | .oci requirements => validateOciAssessmentCoverage document requirements coverage

/-- The check of one covered criterion. -/
def validateCovered {ν : Type} (document : NativeResult ν) (item : CoveredAssertion) :
    Except SemanticFailure Unit := do
  let assertion ← demand
    (document.assertionResults.reverse.find? (·.assertionId = item.assertionId))
    (.semantic document.schemaName "$.evaluation.coverage"
      "covered criterion has no observed outcome")
  require (assertion.status = .passed ∨ assertion.status = .failed)
    (.semantic document.schemaName "$.evaluation.coverage"
      "covered criterion has no observed outcome")
  require (∀ sha256 ∈ item.evidenceSha256, sha256 ∈ document.evidenceDigests)
    (.semantic document.schemaName "$.evaluation.coverage"
      "coverage must bind original raw evidence")

/-- `_validate_native_assessment_coverage`. -/
def validateNativeAssessmentCoverage {ν : Type} (document : NativeResult ν) :
    Except SemanticFailure Unit :=
  let schemaName := document.schemaName
  match document.evaluation.coverage with
  | none =>
    match document.evaluators with
    | .installed _ => .ok ()
    | .oci requirements => require (requirements = [])
        (.semantic schemaName "$.evaluation.coverage" "OCI assessment requires declared coverage")
  | some coverage => do
    let covered := coverage.coveredAssertions
    let uncovered := coverage.uncoveredAssertions
    validateVersionedCoverage document coverage
    requireDistinct schemaName covered "assertion_id" (·.assertionId)
      "$.evaluation.coverage.covered_assertions"
    requireDistinct schemaName uncovered "assertion_id" (·.assertionId)
      "$.evaluation.coverage.uncovered_assertions"
    require (∀ item ∈ covered, item.assertionId ∉ uncovered.map (·.assertionId))
      (.semantic schemaName "$.evaluation.coverage" "covered and uncovered criteria overlap")
    covered.forM (validateCovered document)
    require (∀ item ∈ uncovered, assertionPath item.assertionId ∈ document.unevaluated)
      (.semantic schemaName "$.evaluation.coverage" "uncovered criterion must remain unevaluated")

/-! ## Sources of the assertions -/

/-- The check of one assertion in `_validate_native_assertion_sources`. -/
def validateAssertionSource {ν : Type} (document : NativeResult ν)
    (evidenceDigests : List String) (entry : AssertionResult × ℕ) :
    Except SemanticFailure Unit :=
  let assertion := entry.1
  let path := s!"$.assertion_results[{entry.2}]"
  match assertion.source with
  | .core => require (assertion.nameSpace = none)
      (.semantic document.schemaName (path ++ ".namespace")
        "core assertions must not claim a product namespace")
  | .product => do
    let nameSpace ← demand assertion.nameSpace (.keyError "namespace")
    require (nameSpace ∈ document.evaluators.nameSpaces ∧
        startsWith assertion.assertionId (nameSpace ++ ".") = true)
      (.semantic document.schemaName (path ++ ".namespace")
        "must belong to a declared evaluator namespace")
    let cited ← demand assertion.evidenceSha256 (.keyError "evidence_sha256")
    require (∀ sha256 ∈ cited, sha256 ∈ evidenceDigests)
      (.semantic document.schemaName (path ++ ".evidence_sha256")
        "must reference the retained evidence listed in the result")

/-- The digests that a product assertion may cite. -/
def NativeResult.citableDigests {ν : Type} (document : NativeResult ν) : List String :=
  document.evidenceDigests ++
    (document.evaluation.calibration.toList.flatMap (·.artifacts)).map (·.sha256)

/-- `_validate_native_assertion_sources`. -/
def validateNativeAssertionSources {ν : Type} (document : NativeResult ν) :
    Except SemanticFailure Unit :=
  document.assertionResults.zipIdx.forM
    (validateAssertionSource document document.citableDigests)

/-! ## The validator -/

/-- The checks of the instants of a result. -/
def validateNativeTimes {ν : Type} (document : NativeResult ν) : Except SemanticFailure Unit := do
  let schemaName := document.schemaName
  let original := document.originalExecution
  let evaluation := document.evaluation
  nativeTimeOrder schemaName original.startedAtNs original.finishedAtNs "$.original_execution"
  nativeTimeOrder schemaName evaluation.startedAtNs evaluation.finishedAtNs "$.evaluation"
  require (∀ window ∈ evaluation.window, window.startNs < window.endNs)
    (.semantic schemaName "$.evaluation.window" "must have positive duration")
  require (original.finishedAtNs ≤ evaluation.startedAtNs)
    (.semantic schemaName "$.evaluation.started_at"
      "assessment must not precede the completed original execution")

/-- The checks of `unevaluated` and of `status`. -/
def validateNativeVerdict {ν : Type} (document : NativeResult ν) :
    Except SemanticFailure Unit := do
  let schemaName := document.schemaName
  let missingObservations ← nativeMissingObservations document
  requireDistinct schemaName document.assertionResults "assertion_id" (·.assertionId)
    "$.assertion_results"
  requireDistinct schemaName document.evaluators.nameSpaces "namespace" id "$.evaluators"
  let missing := missingAssessment document missingObservations
  require ((∀ path ∈ document.unevaluated, path ∈ missing) ∧
      ∀ path ∈ missing, path ∈ document.unevaluated)
    (.semantic schemaName "$.unevaluated"
      "must describe exactly the missing required observations and assertions")
  let expected ← (assessmentStatus (document.assertionResults.map (·.status)) missing).mapError
    .contract
  require (document.status = expected)
    (.semantic schemaName "$.status"
      ("must equal assessment and coverage status '" ++ expected.name ++ "'"))

/-- `_validate_native_result`. -/
def validateNativeResult {ν : Type} (document : NativeResult ν) :
    Except SemanticFailure Unit := do
  validateNativeProfile document.schemaName document.profile
  validateNativeAssessmentCoverage document
  validateNativeTimes document
  validateNativeVerdict document
  validateNativeObservationEvidence document.schemaName document.observations
    (document.evidence.map (·.key))
  validateNativeAssertionSources document

end RoboticsRuntime.Contracts
