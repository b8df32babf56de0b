import RoboticsRuntime.Contracts.ExecutionAlignment
import RoboticsRuntime.Contracts.NativeResult

/-!
# The bundle verifier's clauses about native results

`_qualification_native.py` derives a native result again from the observation of its source and the
controls of its method: the observations, the window, the assertions and what is missing. The
documents are loaded; how `repr` prints them is left open.
-/

namespace RoboticsRuntime.Contracts
open Theory

/-- The `repr` of the documents that a message prints. -/
structure NativeTexts (ν : Type) where
  authority : TimeAuthority → String
  encoding : TimestampEncoding → String
  observations : List (String × NativeObservation ν) → String

/-! ## Observations -/

/-- The body of the loop of `_resolved_observations`. -/
def resolvedObservation {ν : Type} (supplied : List (String × NativeObservation ν))
    (entry : String × ObservationRequirement) :
    Except QualificationError (String × NativeObservation ν) := do
  let name := entry.1
  match entry.2.requirement with
  | .notApplicable reason =>
    let value := (supplied.lookup name).getD (.notApplicable reason)
    require (value.inapplicable? = some reason)
      { message := s!"source observation {name} must preserve declared non-applicability and reason" }
    return (name, value)
  | _ =>
    let value := (supplied.lookup name).getD (.unobserved "producer supplied no observation")
    require (value.inapplicable? = none)
      { message := s!"source observation {name} is applicable under its profile" }
    return (name, value)

/-- `_resolved_observations`. -/
def resolvedObservations {ν : Type} (profile : NativeProfile)
    (observation : AcceptanceObservation ν) :
    Except QualificationError (List (String × NativeObservation ν)) := do
  require (∀ entry ∈ observation.observations, entry.1 ∈ profile.observations.map (·.1))
    { message := "source observation includes names outside its declared profile" }
  profile.observations.mapM (resolvedObservation observation.observations)

/-! ## Windows -/

/-- The comparison of the window of an assessment with that of the source. -/
def compareWindows {ν : Type} (texts : NativeTexts ν) (domain : String)
    (timeAuthority : TimeAuthority) (window sourceWindow : MeasurementWindow) :
    Except QualificationError Unit := do
  requireEqual texts.authority s!"domain {domain} assessment clock" sourceWindow.clock window.clock
  requireEqual texts.encoding s!"domain {domain} timestamp encoding" sourceWindow.timestampEncoding
    window.timestampEncoding
  requireEqual texts.authority s!"domain {domain} captured measurement clock" timeAuthority
    sourceWindow.clock
  require (sourceWindow.startNs ≤ window.startNs ∧ window.startNs < window.endNs ∧
      window.endNs ≤ sourceWindow.endNs)
    { message := s!"domain {domain} assessment window exceeds its actual source interval" }

/-- `_domain_window`. -/
def domainWindow {ν : Type} (texts : NativeTexts ν) (domain : String)
    (timeAuthority : TimeAuthority) (result : NativeResult ν)
    (observation : AcceptanceObservation ν) (controls : MethodControls) :
    Except QualificationError Unit :=
  match result.evaluation.window with
  | none => require (controls.metricDefinitions = [])
      { message := s!"domain {domain} metric assessment has no captured measurement window" }
  | some window => do
    require (controls.metricDefinitions = [] ∨ window.timestampEncoding = .unixNs)
      { message := s!"domain {domain} OTLP metric assessment requires unix_ns timestamps" }
    let sourceWindow ← demand observation.measurementWindow
      { message := s!"domain {domain} assessment window has no captured measurement window" }
    compareWindows texts domain timeAuthority window sourceWindow

/-! ## Assertions -/

/-- `_NATIVE_POLICY_ASSERTIONS`. -/
def nativePolicyAssertions : List String :=
  ["artifact-size", "archive-size", "upload-lag", "upload-mode", "retention", "remote-sink",
    "required-sink"].map ("policy-native-" ++ ·)

/-- The identifiers of the core assertions of a result. -/
def NativeResult.coreIds {ν : Type} (result : NativeResult ν) : List String :=
  (result.assertionResults.filter (·.source = .core)).map (·.assertionId)

/-- `coverage_ids`. -/
def NativeResult.coverageIds {ν : Type} (result : NativeResult ν) : List String :=
  (result.evaluation.coverage.map fun coverage =>
    coverage.coveredAssertions.map (·.assertionId) ++
      coverage.uncoveredAssertions.map (·.assertionId)).getD []

/-- The check of one product assertion in `_domain_assertion_registry`. -/
def checkProductAssertion (domain : String) (nameSpaces evidence : List String)
    (assertion : AssertionResult) : Except QualificationError Unit :=
  match assertion.source with
  | .core => .ok ()
  | .product => do
    require (∃ nameSpace ∈ nameSpaces, assertion.nameSpace = some nameSpace ∧
        startsWith assertion.assertionId (nameSpace ++ ".") = true)
      { message := s!"result {domain} product assertion is outside its evaluator namespace" }
    require (∀ sha256 ∈ assertion.evidenceSha256.getD [], sha256 ∈ evidence)
      { message := s!"result {domain} product assertion references unknown original evidence" }

/-- The check of the identifiers of a covered assessment. -/
def checkCoverageIds {ν : Type} (domain : String) (result : NativeResult ν)
    (controls : MethodControls) : Except QualificationError Unit :=
  match result.evaluators with
  | .installed _ => .ok ()
  | .oci _ => require (∀ id ∈ result.coverageIds,
      id ∈ controls.assertions.map (·.assertionId) ∨ id ∈ nativePolicyAssertions ∨
        id ∈ controls.evaluatorRequirements.assignedIds)
      { message := s!"result {domain} coverage includes an undeclared assertion" }

/-- `_domain_assertion_registry`. -/
def domainAssertionRegistry {ν : Type} (domain : String) (result : NativeResult ν)
    (controls : MethodControls) : Except QualificationError Unit := do
  let expected := controls.assertions.map (·.assertionId) ++ nativePolicyAssertions
  require ((∀ id ∈ result.coreIds, id ∈ expected) ∧ ∀ id ∈ expected, id ∈ result.coreIds)
    { message :=
        s!"result {domain} core assertions differ from declared metrics and native policy" }
  checkCoverageIds domain result controls
  let evidence := result.evidenceDigests ++
    (controls.calibration.toList.flatMap (·.artifacts)).map (·.sha256)
  result.assertionResults.forM
    (checkProductAssertion domain controls.evaluatorRequirements.nameSpaces evidence)

/-! ## Coverage -/

/-- `_missing_observation_coverage`. -/
def missingObservationCoverage {ν : Type} (profile : NativeProfile)
    (expected : List (String × NativeObservation ν)) : List String :=
  (profile.observations.filterMap fun entry =>
    if entry.2.requirement = .required ∧ ¬ (expected.lookup entry.1).any (·.isMeasured)
    then some (observationPath entry.1) else none) ++
  if expected.any (·.2.isMeasured) then [] else ["$.observations"]

/-- `_missing_criterion_coverage`. -/
def missingCriterionCoverage {ν : Type} (controls : MethodControls) (result : NativeResult ν) :
    List String :=
  (if controls.assertions = [] ∧ ∀ item ∈ result.assertionResults, item.source ≠ .product
    then ["$.assertions"] else []) ++
  (result.assertionResults.filter (·.status = .skipped)).map (assertionPath ·.assertionId)

/-- `_domain_coverage`. Dictionaries are equal where they have the same items. -/
def domainCoverage {ν : Type} [DecidableEq ν] (texts : NativeTexts ν) (domain : String)
    (profile : NativeProfile) (result : NativeResult ν) (observation : AcceptanceObservation ν)
    (controls : MethodControls) : Except QualificationError Unit := do
  let expected ← resolvedObservations profile observation
  require (expected.Perm result.observations)
    { message := s!"result {domain} observations does not match: expected " ++
        texts.observations expected ++ ", received " ++ texts.observations result.observations }
  let missing := missingObservationCoverage profile expected ++
    missingCriterionCoverage controls result
  require (∀ path ∈ missing, path ∈ result.unevaluated)
    { message := s!"result {domain} omits unevaluated source and criterion coverage" }
  require (missing = [] ∨ (worstStatus [result.status, .incomplete] false).toOption =
      some result.status)
    { message := s!"result {domain} is passing despite missing source or criterion coverage" }

end RoboticsRuntime.Contracts
