import RoboticsRuntime.Contracts.NativeRederivation

/-!
# Coverage in an archive

`_qualification_archive._coverage`: the criteria of a result against its declared coverage, and the
evidence of each covered criterion against the sources that the evidence index of its domain lists.
-/

namespace RoboticsRuntime.Contracts
open Theory

/-- `raw_sources`. -/
def rawSources (indexed : List EvidenceArtifact) : List String :=
  (indexed.filter (·.kind ≠ "acceptance_observation")).map (·.sha256)

/-- `metric_sources`. -/
def metricSources (indexed : List EvidenceArtifact) : List String :=
  (indexed.filter (·.kind = "metrics")).map (·.sha256)

/-- An assertion of a result that is not of its evidence policy. -/
def isCriterion (item : AssertionResult) : Prop :=
  item.source = .product ∨ item.assertionId ∉ nativePolicyAssertions

instance : DecidablePred isCriterion := fun _ => inferInstanceAs (Decidable (_ ∨ _))

/-- `_criterion_results`. -/
def criterionResults {ν : Type} (result : NativeResult ν) :
    Except QualificationError (List AssertionResult) := do
  let selected := result.assertionResults.filter (isCriterion ·)
  require (Distinct (·.assertionId) selected)
    { message := "archive coverage has ambiguous assertion identities" }
  return selected

/-- `expected` of `_coverage`. -/
def expectedCriteria {ν : Type} (result : NativeResult ν) (controls : MethodControls)
    (criteria : List AssertionResult) : List String :=
  criteria.map (·.assertionId) ++
    match result.evaluators with
    | .installed _ => []
    | .oci _ => controls.evaluatorRequirements.assignedIds

/-- The failure of the classification of the criteria. -/
def unclassified : QualificationError where
  message := "archive coverage must classify each actual criterion exactly once"

/-- A covered criterion with its assertion. -/
def coveredCriterion (criteria : List AssertionResult) (item : CoveredAssertion) :
    Except QualificationError (CoveredAssertion × AssertionResult) := do
  let assertion ← demand (criteria.find? (·.assertionId = item.assertionId)) unclassified
  return (item, assertion)

/-- The covered criteria with their assertions, where the coverage classifies each criterion
once. -/
def classifiedCriteria (coverage : AssessmentCoverage) (criteria : List AssertionResult)
    (expected : List String) :
    Except QualificationError (List (CoveredAssertion × AssertionResult)) := do
  let covered := coverage.coveredAssertions.map (·.assertionId)
  let uncovered := coverage.uncoveredAssertions.map (·.assertionId)
  require (covered.Nodup ∧ uncovered.Nodup ∧ (∀ id ∈ covered, id ∉ uncovered) ∧
      (∀ id ∈ covered ++ uncovered, id ∈ expected) ∧ ∀ id ∈ expected, id ∈ covered ++ uncovered)
    unclassified
  coverage.coveredAssertions.mapM (coveredCriterion criteria)

/-- The body of the loop of `_coverage` over the covered criteria. -/
def checkCoveredCriterion (indexed : List EvidenceArtifact)
    (entry : CoveredAssertion × AssertionResult) : Except QualificationError Unit :=
  let declared := entry.1.evidenceSha256
  let assertion := entry.2
  let unbound : QualificationError :=
    { message := "archive covered criterion lacks its original raw source binding" }
  match assertion.source with
  | .core => do
    require (declared.dedup.length = 1 ∧ ∀ sha256 ∈ declared, sha256 ∈ metricSources indexed)
      { message := "archive metric coverage lacks its captured OTLP source" }
    require (assertion.observedValue.isSome = true)
      { message := "archive covered metric has no measured value" }
    require (declared ≠ [] ∧ assertion.status ≠ .skipped) unbound
  | .product => do
    let actual := (assertion.evidenceSha256.getD []).filter (· ∈ rawSources indexed)
    require (actual ≠ [] ∧ ((∀ sha256 ∈ declared, sha256 ∈ actual) ∧
      ∀ sha256 ∈ actual, sha256 ∈ declared) ∧ assertion.status ≠ .skipped) unbound

/-- The criteria that `_coverage` returns: a covered metric cites the source of its coverage. -/
def citedCriteria (covered : List CoveredAssertion) (criteria : List AssertionResult) :
    List AssertionResult :=
  criteria.map fun assertion =>
    match assertion.source, covered.find? (·.assertionId = assertion.assertionId) with
    | .core, some item => { assertion with evidenceSha256 := some item.evidenceSha256.dedup }
    | _, _ => assertion

/-- `_coverage`: the covered identifiers, the expected ones and the criteria. -/
def archiveCoverage {ν : Type} (result : NativeResult ν) (controls : MethodControls)
    (indexed : List EvidenceArtifact) :
    Except QualificationError (List String × List String × List AssertionResult) := do
  let criteria ← criterionResults result
  match result.evaluation.coverage with
  | none => return ([], criteria.map (·.assertionId), criteria)
  | some coverage => do
    let expected := expectedCriteria result controls criteria
    let classified ← classifiedCriteria coverage criteria expected
    classified.forM (checkCoveredCriterion indexed)
    return (coverage.coveredAssertions.map (·.assertionId), expected,
      citedCriteria coverage.coveredAssertions criteria)

end RoboticsRuntime.Contracts
