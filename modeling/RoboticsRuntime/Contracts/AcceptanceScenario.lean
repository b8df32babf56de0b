import RoboticsRuntime.Contracts.MetricDeclarations
import RoboticsRuntime.Contracts.AcceptanceResult

/-!
# Acceptance scenarios

`acceptance-scenario.v1`: the parts of the document that `_validate_acceptance_scenario` and the
evaluation of its assertions and policies read.
-/

namespace RoboticsRuntime.Contracts
open Theory Harness

/-- `data_plane_policy`. -/
structure DataPlanePolicy where
  maxMessageAgeMs : ℚ
  maxLossRatio : ℚ
  shmTransport : Bool
  dataSharing : Bool
  privateIpc : Bool
  middlewareConfigurationSha256 : Option String := none
  deriving DecidableEq, Repr

/-- `recording_mode` of an evidence policy. -/
inductive RecordingMode where
  | bounded | snapshot | onFailure
  deriving DecidableEq, Repr

def RecordingMode.text : RecordingMode → String
  | bounded => "bounded"
  | snapshot => "snapshot"
  | onFailure => "on_failure"

/-- `upload_mode` of an evidence policy. -/
inductive UploadMode where
  | localOnly | closedSegmentsDuringRun
  deriving DecidableEq, Repr

def UploadMode.text : UploadMode → String
  | localOnly => "local_only"
  | closedSegmentsDuringRun => "closed_segments_during_run"

/-- `evidence_policy`. Its compression is `zstd`. -/
structure EvidencePolicy where
  topics : List String
  recordingMode : RecordingMode
  maxSegmentSizeBytes : ℕ
  maxSegmentDurationSec : ℚ
  maxSpoolSizeBytes : ℕ
  spoolHighWatermarkRatio : ℚ
  maxUploadLagSec : ℚ
  uploadMode : UploadMode
  retentionClass : String
  remoteSinkAllowed : Bool
  deriving DecidableEq, Repr

/-- `expected_ros_graph` by the names and stability of its entries. -/
structure ScenarioGraph where
  topics : List String
  services : List String
  actions : List String
  lifecycleNodes : List (String × ℚ)
  deriving DecidableEq, Repr

/-- `forbidden_ros_graph`. -/
structure ForbiddenInterfaces where
  topics : List String
  services : List String
  actions : List String
  deriving DecidableEq, Repr

/-- `delivery_latency` thresholds of `time_policy`. -/
structure DeliveryLatencyThresholds where
  p50Ms : ℚ
  p95Ms : ℚ
  maximumMs : ℚ
  deriving DecidableEq, Repr

/-- An `acceptance-scenario.v1` document. -/
structure AcceptanceScenario where
  scenarioId : String
  graphReadySec : ℚ
  stableForSec : ℚ
  expectedRosGraph : ScenarioGraph
  forbiddenRosGraph : ForbiddenInterfaces
  targetEnvironment : TargetEnvironment
  evaluatorNamespaces : List String
  metricDefinitions : List MetricDefinition
  assertions : List MetricAssertion
  timePolicy : DeliveryLatencyThresholds
  dataPlanePolicy : DataPlanePolicy
  evidencePolicy : EvidencePolicy

/-- `RESERVED_ASSERTION_IDS`. -/
def reservedAssertionIds : List String :=
  ["data-plane-data-sharing", "data-plane-middleware-profile", "data-plane-loss-ratio",
    "data-plane-message-age", "data-plane-private-ipc", "data-plane-sequence-integrity",
    "data-plane-shm-transport", "policy-evidence-compression", "policy-evidence-recording-mode",
    "policy-evidence-remote-sink", "policy-evidence-retention", "policy-evidence-segment-duration",
    "policy-evidence-segment-size", "policy-evidence-spool-size", "policy-evidence-spool-watermark",
    "policy-evidence-topics", "policy-evidence-upload-lag", "policy-evidence-upload-mode",
    "time-policy"]

end RoboticsRuntime.Contracts
