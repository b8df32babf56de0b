import RoboticsRuntime.Harness.Policy

/-!
# The evaluation of a scenario

`evaluation.evaluate_acceptance`: the metric assertions of a scenario or of the controls of an
assessment, the policies and the results of the product evaluators. What an evaluator yields is an
input, since it is code of a product.
-/

namespace RoboticsRuntime.Harness
open Theory Contracts

/-- The exceptions that end an evaluation: `EvaluationError`, `MetricDefinitionError`, those of the
metrics, `BundleValidationError` and `VerificationError`. -/
inductive AcceptanceFailure where
  | evaluation (message : String)
  | definition (message : String)
  | metric (failure : MetricFailure)
  | bundle (jsonPath message : String)
  | verification (message : String)
  deriving DecidableEq, Repr

/-! ## Declared metrics -/

/-- The kind of the instrument that a point shows. -/
def MetricPoint.declaredKind : MetricPoint → DeclaredInstrument
  | scalar sample => if sample.instrumentKind = .gauge then .gauge else .sum
  | histogram _ => .histogram

/-- The name of a temporality in a definition. -/
def MetricTemporality.declared : MetricTemporality → DeclaredTemporality
  | delta => .delta
  | cumulative => .cumulative
  | unspecified => .unspecified

/-- The temporality that a point shows. -/
def MetricPoint.declaredTemporality : MetricPoint → Option DeclaredTemporality
  | scalar sample =>
    if sample.instrumentKind = .gauge then some .instantaneous
    else sample.temporality.map MetricTemporality.declared
  | histogram sample => some sample.temporality.declared

/-- The check of one definition in `validate_metric_definitions`. -/
def checkMetricDefinition (py : PyOps) (samples : List MetricPoint)
    (definition : MetricDefinition) : Except AcceptanceFailure Unit := do
  let observed := samples.filter (·.name = definition.metricName)
  let declared := "declared metric " ++ py.text definition.metricName
  require (∀ sample ∈ observed, sample.unit = definition.unit)
    (.definition (declared ++ " expects unit " ++ py.text definition.unit ++ "; observed " ++
      showUnits py observed))
  require (∀ sample ∈ observed, sample.declaredKind = definition.instrumentKind)
    (.definition (declared ++ " expects " ++ definition.instrumentKind.text ++ "; observed " ++
      reprSorted py (observed.map (·.declaredKind.text))))
  require (∀ sample ∈ observed, sample.declaredTemporality = some definition.temporality)
    (.definition (declared ++ " expects temporality " ++ py.text definition.temporality.text ++
      "; observed " ++ reprSorted py
        (observed.map fun sample => (sample.declaredTemporality.map (·.text)).getD "None")))
  require (definition.monotonic = true → ∀ sample ∈ observed, sample.counter?.isSome)
    (.definition (declared ++ " is not monotonic"))

/-- `validate_metric_definitions`. -/
def validateMetricDefinitions (py : PyOps) (definitions : List MetricDefinition)
    (samples : List MetricPoint) : Except AcceptanceFailure Unit :=
  definitions.forM (checkMetricDefinition py samples)

/-! ## Contexts -/

/-- `AssessmentControls`: controls with a calibration, whose inputs have distinct digests. -/
structure AssessmentControls where
  data : MethodControls
  sha256 : String
  sizeBytes : ℕ
  calibration : CalibrationSelection
  declared : data.calibration = some calibration
  accepted : validateAssessmentControls data = .ok ()
  inputs_nodup : (calibration.artifacts.map (·.sha256)).Nodup

/-- The scenario that is assessed, with what the assessment reads besides it: the runtime manifest
of `acceptance-scenario.v1`, or the selected controls of `acceptance-scenario.v2`. -/
inductive AssessedScenario where
  | v1 (scenario : AcceptanceScenario) (dataPlane : DataPlane)
  | v2 (scenario : NativeScenario) (selected : Option AssessmentControls)

/-- `EvaluationContext`. -/
structure EvaluationContext where
  runId : String
  domainId : String
  scenario : AssessedScenario
  evidence : VerifiedEvidence
  metricSamples : List MetricPoint
  window : Window
  metricEvidenceSha256 : Option String := none

/-- `method_controls` of a native scenario. -/
def nativeControls (scenario : NativeScenario) (selected : Option AssessmentControls) :
    MethodControls :=
  (selected.map (·.data)).getD scenario.controls

namespace EvaluationContext

/-- `original_evidence_sha256`. -/
def originalEvidenceSha256 (context : EvaluationContext) : List String :=
  context.evidence.links.map (·.sha256)

/-- The digests of the captured inputs of the method. -/
def methodInputs (context : EvaluationContext) : List String :=
  match context.scenario with
  | .v1 _ _ => []
  | .v2 _ selected => (selected.map (·.calibration.artifacts.map (·.sha256))).getD []

/-- `evidence_sha256`. -/
def evidenceSha256 (context : EvaluationContext) : List String :=
  context.originalEvidenceSha256 ++ context.methodInputs

/-- `metric_definitions` of the method. -/
def metricDefinitions (context : EvaluationContext) : List MetricDefinition :=
  match context.scenario with
  | .v1 scenario _ => scenario.metricDefinitions
  | .v2 scenario selected => (nativeControls scenario selected).metricDefinitions

/-- `assertions` of the method. -/
def assertions (context : EvaluationContext) : List MetricAssertion :=
  match context.scenario with
  | .v1 scenario _ => scenario.assertions
  | .v2 scenario selected => (nativeControls scenario selected).assertions

/-- The evaluations of the policies of a scenario. -/
def policyEvaluations (texts : MetricTexts) (context : EvaluationContext) :
    Except MetricFailure (List AssertionEvaluation) :=
  match context.scenario with
  | .v1 scenario dataPlane => do
    let transport ← evaluateDataPlanePolicy texts scenario.dataPlanePolicy dataPlane
      context.metricSamples context.domainId context.window
    return transport ++
      evaluateEvidencePolicy texts.toPyOps scenario.evidencePolicy context.evidence
  | .v2 scenario selected =>
    .ok (evaluateNativeEvidencePolicy (nativeControls scenario selected).evidencePolicy
      context.evidence)

end EvaluationContext

/-! ## Product evaluators -/

/-- What an evaluator yields. -/
inductive Produced where
  | evaluation (evaluation : AssertionEvaluation)
  | other (typeName : String)
  deriving DecidableEq, Repr

/-- The exception that ends an evaluator. -/
inductive EvaluatorFailure where
  | evaluation (message : String)
  | other (text : String)
  deriving DecidableEq, Repr

/-- An exception of this package, where an evaluator raises it. -/
def AcceptanceFailure.inEvaluator : AcceptanceFailure → EvaluatorFailure
  | evaluation message => .evaluation message
  | definition message => .other message
  | metric (.input message) => .other message
  | metric (.aggregation message) => .other message
  | metric (.insufficient message) => .other message
  | metric (.overflow error) => .other error.message
  | bundle jsonPath message => .other (jsonPath ++ ": " ++ message)
  | verification message => .other message

/-- A run of an evaluator: what it yields, and the exception that ends it. -/
structure EvaluatorRun where
  produced : List Produced
  failure : Option EvaluatorFailure := none
  deriving DecidableEq, Repr

/-- `_validate_product_evaluation`. -/
def validateProductEvaluation (py : PyOps) (nameSpace : String) (evidenceSha256 : List String)
    (produced : Produced) : Except AcceptanceFailure AssertionEvaluation :=
  match produced with
  | .other typeName => .error (.evaluation ("evaluator " ++ py.text nameSpace ++ " returned " ++
      typeName ++ "; expected AssertionEvaluation"))
  | .evaluation evaluation => do
    let id := py.text evaluation.assertionId
    require (evaluation.source = .product ∧ evaluation.nameSpace = some nameSpace)
      (.evaluation ("evaluator " ++ py.text nameSpace ++
        " must mark every result as its product namespace"))
    require (startsWith evaluation.assertionId (nameSpace ++ ".") = true)
      (.evaluation ("assertion " ++ id ++ " is outside namespace " ++ py.text nameSpace))
    require (evaluation.evidenceSha256 ≠ [])
      (.evaluation ("product assertion " ++ id ++ " has no evidence digest"))
    require (∀ sha256 ∈ evaluation.evidenceSha256, sha256 ∈ evidenceSha256)
      (.evaluation ("product assertion " ++ id ++ " references unknown evidence " ++
        reprSorted py (evaluation.evidenceSha256.filter (· ∉ evidenceSha256))))
    return evaluation

/-- The evaluations of one evaluator. -/
def productEvaluations (py : PyOps) (evidenceSha256 : List String)
    (evaluator : String × EvaluatorRun) : Except AcceptanceFailure (List AssertionEvaluation) := do
  require ('.' ∈ evaluator.1.toList) (.evaluation ("evaluator namespace " ++ py.text evaluator.1 ++
    " must be a reverse-domain name"))
  let evaluations ←
    evaluator.2.produced.mapM (validateProductEvaluation py evaluator.1 evidenceSha256)
  match evaluator.2.failure with
  | none => return evaluations
  | some (.evaluation message) => .error (.evaluation message)
  | some (.other text) =>
    .error (.evaluation ("evaluator " ++ py.text evaluator.1 ++ " failed: " ++ text))

/-- `_validate_selected_calibration`. -/
def validateSelectedCalibration (context : EvaluationContext) : Except AcceptanceFailure Unit :=
  match context.scenario with
  | .v2 _ (some selected) =>
    match selected.calibration with
    | .selected _ =>
      require (selected.data.assertions = [] ∧ selected.data.evaluatorRequirements.nameSpaces ≠ [])
        (.evaluation "core metric methods cannot apply selected calibration")
    | _ => .ok ()
  | _ => .ok ()

/-- The check of the calibration inputs, where the method has product evaluations to bind them. -/
def checkCalibrationBindings (context : EvaluationContext) (artifacts : List ArtifactReference)
    (product : List AssertionEvaluation) : Except AcceptanceFailure Unit := do
  require (∀ artifact ∈ artifacts, artifact.sha256 ∈ product.flatMap (·.evidenceSha256))
    (.evaluation "selected calibration has no product assertion source binding")
  require (∀ evaluation ∈ product, ∃ sha256 ∈ evaluation.evidenceSha256,
      sha256 ∈ context.originalEvidenceSha256)
    (.evaluation "calibrated product assertions require original raw evidence")

/-- `_validate_calibration_bindings`. -/
def validateCalibrationBindings (context : EvaluationContext)
    (evaluations : List AssertionEvaluation) : Except AcceptanceFailure Unit :=
  match context.scenario with
  | .v2 _ (some selected) =>
    match selected.calibration with
    | .selected artifacts =>
      let product := evaluations.filter (·.source = .product)
      if product = [] ∧ selected.data.evaluatorRequirements.assignedIds ≠ [] then .ok ()
      else checkCalibrationBindings context artifacts product
    | _ => .ok ()
  | _ => .ok ()

/-- The message of the last check of `evaluate_acceptance`. -/
def duplicateIdentifiers (py : PyOps) (identifiers : List String) : AcceptanceFailure :=
  .evaluation ("duplicate assertion identifiers: " ++
    reprSorted py (identifiers.filter fun id => 1 < identifiers.count id))

/-- `evaluate_acceptance`. -/
def evaluateAcceptance (texts : MetricTexts) (context : EvaluationContext)
    (evaluators : List (String × EvaluatorRun)) :
    Except AcceptanceFailure (List AssertionEvaluation) := do
  validateSelectedCalibration context
  validateMetricDefinitions texts.toPyOps context.metricDefinitions context.metricSamples
  let metrics ← (evaluateMetricAssertions texts context.assertions context.metricSamples
    (some context.window.startNs) (some context.window.endNs)).mapError .metric
  let policies ← (context.policyEvaluations texts).mapError .metric
  let products ← evaluators.mapM (productEvaluations texts.toPyOps context.evidenceSha256)
  let evaluations := metrics ++ policies ++ products.flatten
  validateCalibrationBindings context evaluations
  let identifiers := evaluations.map (·.assertionId)
  require identifiers.Nodup (duplicateIdentifiers texts.toPyOps identifiers)
  return evaluations

/-! ## Responses of OCI evaluators -/

/-- An entry of `assertion_results` of a response. -/
structure ResponseRow where
  assertionId : String
  nameSpace : String
  status : AssertionStatus
  observedValue : Option ObservedValue
  unit : String
  message : Option String := none
  evidenceSha256 : List String
  deriving DecidableEq, Repr

/-- A response that its schema accepts. -/
structure EvaluatorResponse where
  requestSha256 : String
  assertionResults : List ResponseRow
  deriving DecidableEq, Repr

/-- The evaluation that a row of a response says. -/
def ResponseRow.evaluation (row : ResponseRow) : AssertionEvaluation where
  assertionId := row.assertionId
  status := row.status
  observedValue := row.observedValue
  unit := row.unit
  message := row.message.getD ""
  source := .product
  nameSpace := some row.nameSpace
  evidenceSha256 := row.evidenceSha256

/-- `_expected_ids`, without the patterns of the names. -/
def checkExpectedIds (py : PyOps) (nameSpace : String) (identifiers : List String) :
    Except AcceptanceFailure Unit := do
  require (nameSpace.length ≤ 128)
    (.evaluation "evaluator namespace exceeds 128 characters")
  require (1 ≤ identifiers.length ∧ identifiers.length ≤ 256)
    (.evaluation "expected_assertion_ids must contain 1 to 256 identifiers")
  identifiers.forM fun id => require (startsWith id (nameSpace ++ ".") = true)
    (.evaluation ("expected assertion " ++ py.text id ++ " is outside namespace"))
  require identifiers.Nodup
    (.evaluation "expected_assertion_ids contains duplicate identifiers")

/-- The body of the loop over the rows, with the evaluations so far. -/
def decodeRow (py : PyOps) (nameSpace : String) (allowed : List String)
    (evaluations : List AssertionEvaluation) (row : ResponseRow) :
    Except AcceptanceFailure (List AssertionEvaluation) := do
  let evaluation ← validateProductEvaluation py nameSpace allowed (.evaluation row.evaluation)
  require (evaluation.assertionId ∉ evaluations.map (·.assertionId))
    (.evaluation ("duplicate assertion ID " ++ py.text evaluation.assertionId))
  return evaluations ++ [evaluation]

/-- `decode_evaluator_response`. -/
def decodeEvaluatorResponse (py : PyOps) (response : EvaluatorResponse)
    (requestSha256 nameSpace : String) (expectedAssertionIds allowed : List String) :
    Except AcceptanceFailure (List AssertionEvaluation) := do
  checkExpectedIds py nameSpace expectedAssertionIds
  require (response.requestSha256 = requestSha256)
    (.evaluation "evaluator response does not match the captured request SHA-256")
  let evaluations ← response.assertionResults.foldlM (decodeRow py nameSpace allowed) []
  let identifiers := evaluations.map (·.assertionId)
  require ((∀ id ∈ identifiers, id ∈ expectedAssertionIds) ∧
      ∀ id ∈ expectedAssertionIds, id ∈ identifiers)
    (.evaluation ("evaluator response assertion IDs differ from expected set: missing=" ++
      reprSorted py (expectedAssertionIds.filter (· ∉ identifiers)) ++ ", extra=" ++
      reprSorted py (identifiers.filter (· ∉ expectedAssertionIds))))
  return evaluations

end RoboticsRuntime.Harness
