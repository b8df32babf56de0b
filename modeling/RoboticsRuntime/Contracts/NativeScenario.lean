import RoboticsRuntime.Contracts.AcceptanceScenario
import RoboticsRuntime.Contracts.EvidenceIndex

/-!
# Native scenarios

`acceptance-scenario.v2`, the controls of an assessment and the observations that a native producer
captures, with their validators. The instants of the documents are the nanoseconds that
`parse_timestamp_ns` makes of them.
-/

namespace RoboticsRuntime.Contracts
open Theory Harness

/-! ## References -/

/-- `artifactRef`. -/
structure ArtifactReference where
  uri : String
  sha256 : String
  sizeBytes : ℕ
  mediaType : Option String := none
  immutableRevision : Option String := none
  deriving DecidableEq, Repr

/-- `_native_reference_key`. -/
def ArtifactReference.key (reference : ArtifactReference) : String × String × ℕ :=
  (reference.uri, reference.sha256, reference.sizeBytes)

def EvidenceLink.key (link : EvidenceLink) : String × String × ℕ :=
  (link.uri, link.sha256, link.sizeBytes)

/-! ## Profiles -/

/-- `implementation`. -/
structure Implementation where
  implementation : String
  version : String
  configuration : Option ArtifactReference := none
  deriving DecidableEq, Repr

/-- `sourceType`. -/
structure SourceType where
  name : String
  typeSupport : Option Implementation := none
  codec : Option Implementation := none
  descriptor : Option ArtifactReference := none
  deriving DecidableEq, Repr

/-- `recorder`. -/
structure Recorder where
  implementation : String
  version : String
  transformation : String
  configuration : Option ArtifactReference := none
  deriving DecidableEq, Repr

/-- `channel` of a profile. -/
structure NativeChannel where
  name : String
  originalType : SourceType
  backend : String
  wireEnvelope : String
  nativeEncoding : String
  recorder : Recorder
  deriving DecidableEq, Repr

/-- `kind` of a required observation. -/
inductive ObservationKind where
  | metric | commandAcceptance | nativeFinalState | postcondition | graph | clock | shutdown | other
  deriving DecidableEq, Repr

/-- `requirement` of an observation, with the reason where it is not applicable. -/
inductive RequirementLevel where
  | required
  | optional
  | notApplicable (reason : String)
  deriving DecidableEq, Repr

/-- An entry of `observations` of a profile. -/
structure ObservationRequirement where
  kind : ObservationKind
  requirement : RequirementLevel
  deriving DecidableEq, Repr

/-- `clock` of a profile. -/
structure ProfileClock where
  kind : String
  sourceId : String
  configuration : Option ArtifactReference := none
  deriving DecidableEq, Repr

/-- `profile`. -/
structure NativeProfile where
  profileId : String
  channels : List NativeChannel
  executor : Option Implementation := none
  clock : Option ProfileClock := none
  observations : List (String × ObservationRequirement)
  names_nodup : (observations.map (·.1)).Nodup
  observations_ne_nil : observations ≠ []
  deriving DecidableEq

/-- The references in an implementation. -/
def Implementation.references (implementation : Implementation) : List ArtifactReference :=
  implementation.configuration.toList

/-- The references in a channel. -/
def NativeChannel.references (channel : NativeChannel) : List ArtifactReference :=
  channel.originalType.typeSupport.toList.flatMap (·.references) ++
    channel.originalType.codec.toList.flatMap (·.references) ++
    channel.originalType.descriptor.toList ++ channel.recorder.configuration.toList

/-- `_references` of a profile. -/
def NativeProfile.references (profile : NativeProfile) : List ArtifactReference :=
  profile.channels.flatMap (·.references) ++ profile.executor.toList.flatMap (·.references) ++
    profile.clock.toList.flatMap (·.configuration.toList)

/-- `target_environment` of a native execution. -/
inductive NativeEnvironment where
  | software | dataOnly | simulation | hil | realRobot
  deriving DecidableEq, Repr

/-- `execution` of a native scenario. -/
structure NativeExecution where
  targetEnvironment : NativeEnvironment
  dataSource : String
  plantBackend : Option String := none
  timeMode : Option String := none
  securityProfile : Option String := none
  hardwareScope : Option (List String) := none
  physicalEffect : Option String := none
  deriving DecidableEq, Repr

/-! ## Controls -/

/-- `upload_mode` of a native evidence policy. -/
inductive NativeUploadMode where
  | localOnly | remoteOptional | remoteRequired
  deriving DecidableEq, Repr

def NativeUploadMode.text : NativeUploadMode → String
  | localOnly => "local_only"
  | remoteOptional => "remote_optional"
  | remoteRequired => "remote_required"

/-- `evidence_policy` of a native scenario or of the controls of an assessment. -/
structure NativeEvidencePolicy where
  maxArtifactSizeBytes : ℕ
  maxArchiveSizeBytes : ℕ
  maxUploadLagSec : ℚ
  uploadMode : NativeUploadMode
  retentionClass : String
  remoteSinkAllowed : Bool
  deriving DecidableEq, Repr

/-- `calibrationSelection`. -/
inductive CalibrationSelection where
  | notApplicable (reason : String)
  | unobserved (reason : String)
  | selected (artifacts : List ArtifactReference)
  deriving DecidableEq, Repr

/-- `calibration.get("artifacts", ())`. -/
def CalibrationSelection.artifacts : CalibrationSelection → List ArtifactReference
  | notApplicable _ => []
  | unobserved _ => []
  | selected artifacts => artifacts

/-- `evaluatorRequirement`. -/
structure EvaluatorRequirement where
  nameSpace : String
  entryPoint : String
  distribution : String
  version : String
  artifactSha256 : String
  receiptSha256 : String
  deriving DecidableEq, Repr

/-- `ociEvaluatorRequirement`, with the digest and the receipt of its execution subject. -/
structure OciRequirement where
  nameSpace : String
  digest : String
  provenanceReceiptSha256 : Option String := none
  expectedAssertionIds : List String
  deriving DecidableEq, Repr

/-- `evaluator_requirements`. They are of OCI images where the controls say that they are
`assessment-controls.v1`, and only there. -/
inductive EvaluatorRequirements where
  | installed (requirements : List EvaluatorRequirement)
  | oci (requirements : List OciRequirement)
  deriving DecidableEq, Repr

namespace EvaluatorRequirements

def nameSpaces : EvaluatorRequirements → List String
  | installed requirements => requirements.map (·.nameSpace)
  | oci requirements => requirements.map (·.nameSpace)

/-- The assertion identifiers that are assigned to evaluators. -/
def assignedIds : EvaluatorRequirements → List String
  | installed _ => []
  | oci requirements => requirements.flatMap (·.expectedAssertionIds)

end EvaluatorRequirements

/-- The payload of the controls of an assessment, or of a scenario. -/
structure MethodControls where
  metricDefinitions : List MetricDefinition
  assertions : List MetricAssertion
  evaluatorRequirements : EvaluatorRequirements
  evidencePolicy : NativeEvidencePolicy
  calibration : Option CalibrationSelection := none

/-- The body of the loop of `_validate_oci_requirements`, with the identifiers assigned so far. -/
def checkOciRequirement (schemaName path : String) (assigned : List String)
    (entry : OciRequirement × ℕ) : Except SemanticFailure (List String) := do
  let requirement := entry.1
  require (∀ id ∈ requirement.expectedAssertionIds, id ∉ assigned)
    (.semantic schemaName path "OCI assertion ID is assigned to more than one evaluator")
  require (∀ id ∈ requirement.expectedAssertionIds,
      startsWith id (requirement.nameSpace ++ ".") = true)
    (.semantic schemaName (path ++ s!"[{entry.2}].expected_assertion_ids")
      "must belong to the evaluator namespace")
  return assigned ++ requirement.expectedAssertionIds

/-- `_validate_oci_requirements`. -/
def validateOciRequirements (schemaName : String) (requirements : List OciRequirement)
    (path : String) : Except SemanticFailure Unit := do
  let _ ← requirements.zipIdx.foldlM (checkOciRequirement schemaName path) []

/-- The checks that only the controls of OCI evaluators have. -/
def validateOciControls (schemaName : String) (controls : MethodControls) :
    Except SemanticFailure Unit :=
  match controls.evaluatorRequirements with
  | .installed _ => .ok ()
  | .oci requirements => do
    validateOciRequirements schemaName requirements "$.evaluator_requirements"
    require (∀ assertion ∈ controls.assertions,
        assertion.assertionId ∉ requirements.flatMap (·.expectedAssertionIds))
      (.semantic schemaName "$.assertions" "core and OCI evaluator assertion IDs must be disjoint")

/-- `_validate_native_assessment_controls`. -/
def validateNativeAssessmentControls (schemaName : String) (controls : MethodControls) :
    Except SemanticFailure Unit := do
  requireDistinct schemaName controls.assertions "assertion_id" (·.assertionId) "$.assertions"
  requireDistinct schemaName controls.evaluatorRequirements.nameSpaces "namespace" id
    "$.evaluator_requirements"
  validateOciControls schemaName controls
  validateMetricDeclarations schemaName controls.metricDefinitions controls.assertions
  controls.assertions.forM fun assertion =>
    require (assertion.assertionId ∉ reservedAssertionIds ∧
        startsWith assertion.assertionId "observation-" = false ∧
        startsWith assertion.assertionId "policy-native-" = false)
      (.semantic schemaName "$.assertions" "uses a reserved core assertion identifier")
  require (controls.evidencePolicy.maxArtifactSizeBytes ≤ controls.evidencePolicy.maxArchiveSizeBytes)
    (.semantic schemaName "$.evidence_policy" "artifact size must not exceed archive size")

/-- `validate_assessment_controls`, of a payload that its schema accepts. -/
def validateAssessmentControls (controls : MethodControls) : Except SemanticFailure Unit :=
  validateNativeAssessmentControls
    (match controls.evaluatorRequirements with
      | .installed _ => "acceptance-result.v2"
      | .oci _ => "acceptance-result.v3") controls

/-! ## Scenarios -/

/-- An `acceptance-scenario.v2` document. -/
structure NativeScenario where
  scenarioId : String
  execution : NativeExecution
  profile : NativeProfile
  nativeModel : Option ArtifactReference := none
  metricDefinitions : List MetricDefinition
  assertions : List MetricAssertion
  evaluatorRequirements : List EvaluatorRequirement
  evidencePolicy : NativeEvidencePolicy

/-- The controls that a scenario has of itself. -/
def NativeScenario.controls (scenario : NativeScenario) : MethodControls where
  metricDefinitions := scenario.metricDefinitions
  assertions := scenario.assertions
  evaluatorRequirements := .installed scenario.evaluatorRequirements
  evidencePolicy := scenario.evidencePolicy

/-- `_validate_native_profile`. -/
def validateNativeProfile (schemaName : String) (profile : NativeProfile) :
    Except SemanticFailure Unit :=
  requireDistinct schemaName profile.channels "name" (·.name) "$.profile.channels"

/-- `schema_name` of the validator of native scenarios. -/
def nativeScenarioSchema : String := "acceptance-scenario.v2"

/-- `_validate_native_scenario`. -/
def validateNativeScenario (document : NativeScenario) : Except SemanticFailure Unit := do
  validateNativeProfile nativeScenarioSchema document.profile
  validateNativeAssessmentControls nativeScenarioSchema document.controls

/-! ## Observations -/

/-- `observation`. The JSON value of a measurement is of an arbitrary type. -/
inductive NativeObservation (ν : Type) where
  | measured (value : ν) (evidence : ArtifactReference)
  | notApplicable (reason : String)
  | unobserved (reason : String)
  | invalid (reason : String) (evidence : Option ArtifactReference)
  deriving DecidableEq

namespace NativeObservation
variable {ν : Type}

/-- The reason of an observation that is not applicable. -/
def inapplicable? : NativeObservation ν → Option String
  | notApplicable reason => some reason
  | _ => none

/-- `observation.get("evidence")`. -/
def evidence? : NativeObservation ν → Option ArtifactReference
  | measured _ evidence => some evidence
  | invalid _ evidence => evidence
  | _ => none

/-- `state == "measured"`. -/
def isMeasured : NativeObservation ν → Bool
  | measured _ _ => true
  | _ => false

/-- `state in {"unobserved", "invalid"}`. -/
def isMissing : NativeObservation ν → Bool
  | unobserved _ => true
  | invalid _ _ => true
  | _ => false

end NativeObservation

/-- `kind` of a time authority. -/
inductive TimeAuthorityKind where
  | simClock | playbackClock | ptp | chronyNtp | mavlinkTimesync | external
  deriving DecidableEq, Repr

def TimeAuthorityKind.text : TimeAuthorityKind → String
  | simClock => "sim_clock"
  | playbackClock => "playback_clock"
  | ptp => "ptp"
  | chronyNtp => "chrony_ntp"
  | mavlinkTimesync => "mavlink_timesync"
  | external => "external"

/-- `time_authority` of a run. -/
structure TimeAuthority where
  kind : TimeAuthorityKind
  sourceId : String
  configurationSha256 : Option String := none
  deriving DecidableEq, Repr

inductive TimestampEncoding where
  | unixNs | nativeNs
  deriving DecidableEq, Repr

/-- `measurementWindow`. -/
structure MeasurementWindow where
  startNs : ℤ
  endNs : ℤ
  clock : TimeAuthority
  timestampEncoding : TimestampEncoding
  deriving DecidableEq, Repr

/-- An `acceptance-observation.v2` document. -/
structure AcceptanceObservation (ν : Type) where
  runId : String
  domainId : String
  scenarioId : String
  scenarioSha256 : String
  runtimeManifestSha256 : String
  startedAtNs : ℤ
  finishedAtNs : ℤ
  observations : List (String × NativeObservation ν)
  evidence : List ArtifactReference
  nativeModel : Option ArtifactReference := none
  measurementWindow : Option MeasurementWindow := none
  names_nodup : (observations.map (·.1)).Nodup

/-- `_native_time_order`. -/
def nativeTimeOrder (schemaName : String) (startedAtNs finishedAtNs : ℤ) (path : String) :
    Except SemanticFailure Unit :=
  require (startedAtNs ≤ finishedAtNs)
    (.semantic schemaName (path ++ ".finished_at") "must not be earlier than started_at")

/-- `_validate_native_observation_evidence`, against the keys of the listed evidence. -/
def validateNativeObservationEvidence {ν : Type} (schemaName : String)
    (observations : List (String × NativeObservation ν)) (evidence : List (String × String × ℕ)) :
    Except SemanticFailure Unit :=
  observations.forM fun entry =>
    require (∀ reference ∈ entry.2.evidence?, reference.key ∈ evidence)
      (.semantic schemaName s!"$.observations.{entry.1}.evidence"
        "must identify retained evidence listed in this document")

/-- `schema_name` of the validator of native observations. -/
def nativeObservationSchema : String := "acceptance-observation.v2"

/-- `_validate_native_observation`. -/
def validateNativeObservation {ν : Type} (document : AcceptanceObservation ν) :
    Except SemanticFailure Unit := do
  nativeTimeOrder nativeObservationSchema document.startedAtNs document.finishedAtNs "$"
  require (∀ window ∈ document.measurementWindow, window.startNs < window.endNs)
    (.semantic nativeObservationSchema "$.measurement_window" "must have positive duration")
  validateNativeObservationEvidence nativeObservationSchema document.observations
    (document.evidence.map (·.key))

end RoboticsRuntime.Contracts
