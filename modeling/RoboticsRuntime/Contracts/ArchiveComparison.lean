import RoboticsRuntime.Contracts.ArchiveCoverage
import RoboticsRuntime.Theory.Ranking

/-!
# The comparison of two assessments in an archive

`_qualification_archive._comparison`: the original result of a domain against its assessment, where
both were made by the same method in the same environment. The canonical text of an outcome is left
open.
-/

namespace RoboticsRuntime.Contracts
open Theory

/-- A result of a domain in an archive, with the controls of its method and what the evidence index
of its domain lists. -/
structure ArchivedResult (ν : Type) where
  subjectName : String
  result : NativeResult ν
  controls : MethodControls
  indexed : List EvidenceArtifact

/-! ## The methods -/

/-- What `_identity` returns. -/
structure ArtifactIdentity where
  sha256 : String
  sizeBytes : ℕ
  deriving DecidableEq, Repr

/-- `_identity`. -/
def artifactIdentity (reference : ArtifactReference) : ArtifactIdentity :=
  ⟨reference.sha256, reference.sizeBytes⟩

/-- The order of identities. -/
def ArtifactIdentity.key (identity : ArtifactIdentity) : String ×ₗ ℕ :=
  toLex (identity.sha256, identity.sizeBytes)

/-- What `_calibration_identity` returns. -/
inductive CalibrationIdentity where
  | selected (artifacts : List ArtifactIdentity)
  | notApplicable (reason : String)
  deriving DecidableEq, Repr

/-- `_calibration_identity`. -/
def calibrationIdentity (evaluation : NativeAssessment) : Option CalibrationIdentity :=
  match evaluation.calibration with
  | none => none
  | some (.unobserved _) => none
  | some (.selected artifacts) =>
    some (.selected (sortBy ArtifactIdentity.key (artifacts.map artifactIdentity)))
  | some (.notApplicable reason) => some (.notApplicable reason)

/-- A reason of a comparison. -/
inductive ComparisonReason where
  | methodChanged
  | environmentChanged
  | windowChanged
  | calibrationUnobserved
  | calibrationChanged
  | coverageUnobserved
  | noCoveredAssertions
  | assertionOutcomeChanged
  deriving DecidableEq, Repr

/-- The reason as the document has it. -/
def ComparisonReason.text : ComparisonReason → String
  | methodChanged => "method_changed"
  | environmentChanged => "environment_changed"
  | windowChanged => "window_changed"
  | calibrationUnobserved => "calibration_unobserved"
  | calibrationChanged => "calibration_changed"
  | coverageUnobserved => "coverage_unobserved"
  | noCoveredAssertions => "no_covered_assertions"
  | assertionOutcomeChanged => "assertion_outcome_changed"

/-- The method of an assessment as far as comparisons read it. -/
def NativeAssessment.methodIdentity (evaluation : NativeAssessment) :
    String × String × ArtifactIdentity :=
  (evaluation.method.implementation, evaluation.method.version,
    artifactIdentity evaluation.method.configuration)

/-- The reason that the calibrations of two assessments give, if any. -/
def calibrationReasons (before after : NativeAssessment) : List ComparisonReason :=
  if calibrationIdentity before = none ∨ calibrationIdentity after = none then
    [.calibrationUnobserved]
  else if calibrationIdentity before ≠ calibrationIdentity after then [.calibrationChanged]
  else []

/-- `_comparison_reasons`. -/
def comparisonReasons (before after : NativeAssessment) : List ComparisonReason :=
  (if before.methodIdentity ≠ after.methodIdentity then [.methodChanged] else []) ++
  (if artifactIdentity before.environment ≠ artifactIdentity after.environment then
    [.environmentChanged] else []) ++
  (if before.window ≠ after.window then [.windowChanged] else []) ++
  calibrationReasons before after ++
  (if before.coverage = none ∨ after.coverage = none then [.coverageUnobserved] else [])

/-! ## The outcomes -/

/-- What `_outcome` keeps of an assertion. -/
structure AssertionOutcome where
  source : AssertionSource
  nameSpace : Option String
  status : AssertionStatus
  observedValue : Option ObservedValue
  unit : String
  evidenceSha256 : List String
  deriving DecidableEq, Repr

/-- `_outcome`. -/
def assertionOutcome (assertion : AssertionResult) : AssertionOutcome where
  source := assertion.source
  nameSpace := assertion.nameSpace
  status := assertion.status
  observedValue := assertion.observedValue
  unit := assertion.unit
  evidenceSha256 := sortBy id (assertion.evidenceSha256.getD [])

/-- `status` of a comparison. -/
inductive ComparisonStatus where
  | notComparable
  | different
  | matched
  deriving DecidableEq, Repr

/-- The comparison of a domain. -/
structure DomainComparison where
  domainId : String
  originalResult : String
  assessmentResult : String
  status : ComparisonStatus
  comparedAssertions : List String
  excludedAssertions : List String
  reasons : List ComparisonReason
  deriving DecidableEq, Repr

/-- What `_coverage` returns: the covered identifiers, the expected ones and the criteria. -/
abbrev CoverageReport := List String × List String × List AssertionResult

/-- `_coverage` of a domain. -/
def ArchivedResult.coverage {ν : Type} (archived : ArchivedResult ν) :
    Except QualificationError CoverageReport :=
  archiveCoverage archived.result archived.controls archived.indexed

/-- The canonical text of the outcome of a criterion. -/
def outcomeText {τ : Type} (dumps : AssertionOutcome → τ) (report : CoverageReport) (id : String) :
    Option τ :=
  (report.2.2.find? (·.assertionId = id)).map fun assertion => dumps (assertionOutcome assertion)

/-- `covered` of `_comparison`. -/
def coveredByBoth (before after : CoverageReport) : List String :=
  before.1.filter (· ∈ after.1)

/-- `reasons` of `_comparison` before the outcomes are compared. -/
def incomparableReasons (original assessment : NativeAssessment) (before after : CoverageReport) :
    List ComparisonReason :=
  comparisonReasons original assessment ++
    if coveredByBoth before after = [] then [.noCoveredAssertions] else []

/-- `compared` of `_comparison`. -/
def comparedAssertions (original assessment : NativeAssessment) (before after : CoverageReport) :
    List String :=
  if incomparableReasons original assessment before after = [] then
    sortedDistinct (coveredByBoth before after)
  else []

/-- `status` of `_comparison`. -/
def comparisonStatus {τ : Type} [DecidableEq τ] (dumps : AssertionOutcome → τ)
    (before after : CoverageReport) (compared : List String) : ComparisonStatus :=
  if compared = [] then .notComparable
  else if ∃ id ∈ compared, outcomeText dumps before id ≠ outcomeText dumps after id then .different
  else .matched

/-- `reasons` that `_comparison` lists. -/
def reportedReasons (status : ComparisonStatus) (reasons : List ComparisonReason) :
    List ComparisonReason :=
  sortBy ComparisonReason.text
    (if status = .different then reasons ++ [.assertionOutcomeChanged] else reasons)

/-- What `_comparison` returns for two results with such coverage. -/
def comparisonOf {ν τ : Type} [DecidableEq τ] (dumps : AssertionOutcome → τ) (domain : String)
    (original assessment : ArchivedResult ν) (before after : CoverageReport) : DomainComparison :=
  let reasons := incomparableReasons original.result.evaluation assessment.result.evaluation
    before after
  let compared := comparedAssertions original.result.evaluation assessment.result.evaluation
    before after
  let status := comparisonStatus dumps before after compared
  { domainId := domain
    originalResult := original.subjectName
    assessmentResult := assessment.subjectName
    status
    comparedAssertions := compared
    excludedAssertions := sortedDistinct ((before.2.1 ++ after.2.1).filter (· ∉ compared))
    reasons := reportedReasons status reasons }

/-- `_comparison`. -/
def domainComparison {ν τ : Type} [DecidableEq τ] (dumps : AssertionOutcome → τ) (domain : String)
    (original assessment : ArchivedResult ν) : Except QualificationError DomainComparison := do
  let before ← original.coverage
  let after ← assessment.coverage
  return comparisonOf dumps domain original assessment before after

end RoboticsRuntime.Contracts
