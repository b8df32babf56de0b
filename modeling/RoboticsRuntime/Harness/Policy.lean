import RoboticsRuntime.Contracts.AcceptanceScenario
import RoboticsRuntime.Contracts.BagDataset
import RoboticsRuntime.Contracts.NativeScenario
import RoboticsRuntime.Harness.Traces.CausalChain
import RoboticsRuntime.Harness.Traces.Delivery

/-!
# Data-plane and evidence policies

`policy.py`: the transport facts and the message telemetry of a run against the data-plane policy of
its scenario, and its retained evidence against the evidence policy. Ratios of the evidence are
exact.
-/

namespace RoboticsRuntime.Harness
open Theory Contracts

/-- `MESSAGE_COUNTER_UNIT`. -/
def messageCounterUnit : String := "\x7bmessage\x7d"

/-- `SEQUENCE_METHOD_ATTRIBUTE`. -/
def sequenceMethodAttribute : String := "sequence.measurement.method"

/-- `SINGLE_PUBLISHER_SEQUENCE_METHOD`. -/
def singlePublisherSequenceMethod : String := "rmw_publication_sequence_single_publisher"

/-- `_boolean_evaluation`. -/
def booleanEvaluation (assertionId : String) (passed : Bool) (message : String) :
    AssertionEvaluation where
  assertionId := assertionId
  status := if passed then .passed else .failed
  observedValue := some (.int (if passed then 1 else 0))
  unit := "1"
  message := if passed then "" else message

/-! ## The data plane -/

/-- `data_plane` of a runtime manifest. -/
structure DataPlane where
  shmTransport : Bool
  dataSharing : Bool
  privateIpc : Bool
  middlewareConfigurationSha256 : Option String := none
  deriving DecidableEq, Repr

/-- `repr` of a boolean. -/
def reprBool (value : Bool) : String := if value then "True" else "False"

/-- The evaluation of one static fact, by its field and the identifier made of it. -/
def staticEvaluation (assertionId field : String) (expected observed : Bool) :
    AssertionEvaluation :=
  booleanEvaluation assertionId (observed = expected)
    (s!"expected {field}={reprBool expected}; observed {reprBool observed}")

/-- `evaluations` before the telemetry is read. -/
def staticEvaluations (policy : DataPlanePolicy) (observed : DataPlane) :
    List AssertionEvaluation :=
  [staticEvaluation "data-plane-shm-transport" "shm_transport" policy.shmTransport
      observed.shmTransport,
    staticEvaluation "data-plane-data-sharing" "data_sharing" policy.dataSharing
      observed.dataSharing,
    staticEvaluation "data-plane-private-ipc" "private_ipc" policy.privateIpc
      observed.privateIpc] ++
    policy.middlewareConfigurationSha256.toList.map fun sha256 =>
      booleanEvaluation "data-plane-middleware-configuration"
        (observed.middlewareConfigurationSha256 = some sha256)
        "middleware configuration digest differs"

/-- `attributes.get(key)`. -/
def attributeOf (attributes : SeriesKey) (key : String) : Option MetricAttribute :=
  (attributes.find? fun entry => (ofLex entry).1 = key).map fun entry => (ofLex entry).2

/-- `measured_names`. -/
def measuredNames : List String :=
  ["robotics.message.age", "robotics.message.received", "robotics.message.lost",
    "robotics.message.sequence_error"]

/-- `channel`: the one string that the measured points have as their channel. -/
def measuredChannel (samples : List MetricPoint) (domainId : String) :
    Except MetricFailure String :=
  let channels := (samples.filter fun sample => sample.name ∈ measuredNames ∧
    (attributeOf sample.attributes "domain.id").any (·.equals (.str domainId))).map fun sample =>
      attributeOf sample.attributes "channel"
  match channels with
  | some (.str channel) :: rest => do
    require (∀ other ∈ rest, other = some (.str channel))
      (.aggregation "data-plane evidence must identify exactly one measured channel")
    return channel
  | _ => .error (.aggregation "data-plane evidence must identify exactly one measured channel")

/-- `attribute_match`. -/
def channelMatch (domainId channel : String) : SeriesKey :=
  [toLex ("channel", .str channel), toLex ("domain.id", .str domainId)]

/-- `counter_attribute_match`. -/
def counterMatch (domainId channel : String) : SeriesKey :=
  channelMatch domainId channel ++
    [toLex (sequenceMethodAttribute, .str singlePublisherSequenceMethod)]

/-- The assertion on the age of the messages. -/
def messageAgeAssertion (policy : DataPlanePolicy) (domainId channel : String) :
    MetricAssertion where
  assertionId := "data-plane-message-age"
  metricName := "robotics.message.age"
  unit := "ms"
  operator := .lte
  threshold := policy.maxMessageAgeMs
  windowSec := 86400
  attributeMatch := channelMatch domainId channel
  predicate := .metric .p95

/-- The check that the histograms of the message age cover the window. -/
def checkMessageAge (samples : List MetricPoint) (domainId channel : String) (window : Window) :
    Except MetricFailure Unit := do
  let points := matchingPoints samples "robotics.message.age" (channelMatch domainId channel)
  require (points ≠ [] ∧ ∀ point ∈ points, point.histogram?.isSome)
    (.aggregation "robotics.message.age must be an OTLP Histogram")
  let histograms := points.filterMap MetricPoint.histogram?
  let coverage ← histogramWindowCoverage histograms window
  requireWindowCoverage coverage "robotics.message.age" (histograms.head?.map (·.temporality))
    window metricWindowCoverageToleranceNs

/-- The channel and the evaluation of the age of its messages. -/
def messageAge (texts : MetricTexts) (policy : DataPlanePolicy) (samples : List MetricPoint)
    (domainId : String) (window : Window) :
    Except MetricFailure (String × List AssertionEvaluation) := do
  let channel ← measuredChannel samples domainId
  checkMessageAge samples domainId channel window
  let evaluations ← evaluateMetricAssertions texts [messageAgeAssertion policy domainId channel]
    samples (some window.startNs) (some window.endNs)
  return (channel, evaluations)

/-- `is_integer`. -/
def isInteger : ExtendedFloat → Bool
  | ⊥ => false
  | ⊤ => false
  | (value : ℚ) => value.isInt

/-- The totals of the counters `received`, `lost` and `sequence_errors`. -/
structure MessageCounters where
  received : ℚ
  lost : ℚ
  sequenceErrors : ℚ
  deriving DecidableEq, Repr

/-- `received`, `lost` and `sequence_errors`, which count whole messages in the same intervals. -/
def messageCounters (py : PyOps) (samples : List MetricPoint) (domainId channel : String)
    (window : Window) : Except MetricFailure MessageCounters := do
  let counter (metricName : String) := counterWindowAggregate py samples metricName
    (counterMatch domainId channel) messageCounterUnit window
  let received ← counter "robotics.message.received"
  let lost ← counter "robotics.message.lost"
  let sequenceErrors ← counter "robotics.message.sequence_error"
  require (received.temporality = lost.temporality ∧
      lost.temporality = sequenceErrors.temporality)
    (.aggregation "message counters use different aggregation temporalities")
  require (received.coverage = lost.coverage ∧ lost.coverage = sequenceErrors.coverage)
    (.aggregation "message counters do not cover the same collection intervals")
  requireWindowCoverage received.coverage "message counters" (some received.temporality) window
    metricWindowCoverageToleranceNs
  require (isInteger received.total ∧ isInteger lost.total ∧ isInteger sequenceErrors.total)
    (.aggregation "message counters must contain whole-message counts")
  let count (counter : CounterWindowAggregate) := (finite? counter.total).getD 0
  return ⟨count received, count lost, count sequenceErrors⟩

/-- The evaluation of the sequence errors. -/
def sequenceIntegrity (counters : MessageCounters) : AssertionEvaluation where
  assertionId := "data-plane-sequence-integrity"
  status := if counters.sequenceErrors = 0 then .passed else .failed
  observedValue := some (.float counters.sequenceErrors)
  unit := messageCounterUnit
  message := if counters.sequenceErrors = 0 then "" else
    "DDS publication sequence metadata is unavailable or non-monotonic"

/-- The evaluation of the loss ratio. -/
def lossRatio (py : PyOps) (policy : DataPlanePolicy) (counters : MessageCounters) :
    Except MetricFailure AssertionEvaluation := do
  let total := roundFloat (counters.received + counters.lost)
  require (0 < total) (.aggregation "message counters contain no observations")
  -- A share of infinitely many messages is zero.
  let ratio := ((finite? total).map fun total => double (counters.lost / total)).getD 0
  let passed := ratio ≤ double policy.maxLossRatio
  return {
    assertionId := "data-plane-loss-ratio"
    status := if passed then .passed else .failed
    observedValue := some (.float ratio)
    unit := "1"
    message := if passed then "" else "threshold lte " ++ py.declared policy.maxLossRatio }

/-- The body of the `try`: the evaluations that it appends, and the failure that ends it early. -/
def dataPlaneTelemetry (texts : MetricTexts) (policy : DataPlanePolicy)
    (samples : List MetricPoint) (domainId : String) (window : Window) :
    List AssertionEvaluation × Option MetricFailure :=
  match messageAge texts policy samples domainId window with
  | .error failure => ([], some failure)
  | .ok (channel, age) =>
    match messageCounters texts.toPyOps samples domainId channel window with
    | .error failure => (age, some failure)
    | .ok counters =>
      match lossRatio texts.toPyOps policy counters with
      | .error failure => (age ++ [sequenceIntegrity counters], some failure)
      | .ok loss => (age ++ [sequenceIntegrity counters, loss], none)

/-- An evaluation of the telemetry that could not be made. -/
def telemetryError (assertionId unit message : String) : AssertionEvaluation where
  assertionId := assertionId
  status := .error
  observedValue := none
  unit := unit
  message := message

/-- `any(evaluation.assertion_id == assertion_id for evaluation in evaluations)`. -/
def evaluated (assertionId : String) (evaluations : List AssertionEvaluation) : Bool :=
  evaluations.any (·.assertionId = assertionId)

/-- `except MetricAggregationError` of `evaluate_data_plane_policy`. -/
def recoverTelemetry (evaluations : List AssertionEvaluation) (message : String) :
    List AssertionEvaluation :=
  let withAge := evaluations ++
    if evaluated "data-plane-message-age" evaluations then []
    else [telemetryError "data-plane-message-age" "ms" message]
  let withLoss := withAge ++ [telemetryError "data-plane-loss-ratio" "1" message]
  withLoss ++
    if evaluated "data-plane-sequence-integrity" withLoss then []
    else [telemetryError "data-plane-sequence-integrity" messageCounterUnit message]

/-- `evaluate_data_plane_policy`. -/
def evaluateDataPlanePolicy (texts : MetricTexts) (policy : DataPlanePolicy) (observed : DataPlane)
    (samples : List MetricPoint) (domainId : String) (window : Window) :
    Except MetricFailure (List AssertionEvaluation) :=
  let telemetry := dataPlaneTelemetry texts policy samples domainId window
  let evaluations := staticEvaluations policy observed ++ telemetry.1
  match telemetry.2 with
  | none => .ok evaluations
  | some (.input message) => .error (.input message)
  | some (.aggregation message) => .ok (recoverTelemetry evaluations message)
  | some (.insufficient message) => .ok (recoverTelemetry evaluations message)
  | some (.overflow error) => .error (.overflow error)

/-! ## Evidence -/

/-- A recording summary, with its compressions. -/
structure RecordedSummary extends RecordingSummary where
  compressions : List String
  deriving DecidableEq, Repr

/-- `_result_link`: an artifact without its storage. -/
def resultLink (artifact : EvidenceArtifact) : EvidenceLink where
  artifactId := artifact.artifactId
  kind := artifact.kind
  uri := artifact.uri
  immutableRevision := artifact.immutableRevision
  receiptSha256 := artifact.receiptSha256
  mediaType := artifact.mediaType
  sha256 := artifact.sha256
  sizeBytes := artifact.sizeBytes
  retentionClass := artifact.retentionClass
  segmentIndex := artifact.segmentIndex

/-- `VerifiedEvidence`, with the path that the location of a local artifact resolves to. -/
structure VerifiedEvidence where
  index : EvidenceIndex
  indexSha256 : String
  recordingSummaries : List RecordedSummary
  resolvedPath : String → String := id
  accepted : validateEvidenceIndex index = .ok ()

/-- `links`: `load_evidence_index` makes one of each artifact, in their order. -/
def VerifiedEvidence.links (evidence : VerifiedEvidence) : List EvidenceLink :=
  evidence.index.artifacts.map resultLink

/-- `local_files.get`: of the local artifacts at a path the last one stays. -/
def VerifiedEvidence.localFile? (evidence : VerifiedEvidence) (path : String) :
    Option EvidenceLink :=
  (evidence.index.artifacts.reverse.find? fun artifact =>
    artifact.storageState = .local ∧ evidence.resolvedPath artifact.uri = path).map resultLink

theorem VerifiedEvidence.links_distinct (evidence : VerifiedEvidence) :
    Distinct (·.artifactId) evidence.links := by
  obtain ⟨-, hdistinct, -⟩ := validateEvidenceIndex_eq_ok.1 evidence.accepted
  rw [Distinct, links, List.map_map]
  exact hdistinct

theorem VerifiedEvidence.mem_links_of_localFile {evidence : VerifiedEvidence} {path : String}
    {link : EvidenceLink} (h : evidence.localFile? path = some link) : link ∈ evidence.links := by
  obtain ⟨artifact, hfound, rfl⟩ := Option.map_eq_some_iff.1 h
  exact List.mem_map_of_mem (List.mem_reverse.1 (List.mem_of_find?_eq_some hfound))

theorem sortedSet_nodup (texts : List String) : (sortedSet texts).Nodup :=
  (List.perm_insertionSort _ _).nodup_iff.2 texts.nodup_dedup

/-- `sorted` of a set of texts, as it is printed. -/
def reprSorted (py : PyOps) (texts : List String) : String := reprList py (sortedSet texts)

/-- `checks` of `evaluate_evidence_policy`: the name, the outcome and the message of each. -/
def evidenceChecks (py : PyOps) (policy : EvidencePolicy) (evidence : VerifiedEvidence) :
    List (String × Bool × String) :=
  let observation := evidence.index.policyObservation
  let artifacts := evidence.index.artifacts
  let summaries := evidence.recordingSummaries
  let channels := (summaries.flatMap (·.channels)).filterMap fun channel =>
    if 0 < channel.messageCount then some channel.topic else none
  let durationsSec := summaries.map fun summary =>
    ((summary.statistics.messageEndTimeNs : ℚ) - summary.statistics.messageStartTimeNs) / 1000000000
  let compressions := summaries.flatMap (·.compressions)
  let segmentSizes := artifacts.filterMap fun artifact =>
    if artifact.kind = "recording" then some artifact.sizeBytes else none
  let retentionClasses := artifacts.map (·.retentionClass)
  let expectedRemote : Bool := policy.uploadMode ≠ .localOnly
  let spoolRatio : ℚ := observation.spoolPeakSizeBytes / policy.maxSpoolSizeBytes
  [("evidence-topics", policy.topics.all (· ∈ channels),
      "missing recorded topics: " ++ reprSorted py (policy.topics.filter (· ∉ channels))),
    ("evidence-recording-mode", observation.recordingMode = policy.recordingMode.text,
      "recording mode differs"),
    ("evidence-compression", compressions ≠ [] ∧ compressions.all (· = "zstd") ∧
        observation.compression = "zstd",
      "expected only zstd; observed " ++ reprSorted py compressions),
    ("evidence-segment-size", segmentSizes.max?.getD 0 ≤ policy.maxSegmentSizeBytes,
      "segment size limit exceeded"),
    ("evidence-segment-duration", durationsSec.max?.getD 0 ≤ policy.maxSegmentDurationSec,
      "segment duration limit exceeded"),
    ("evidence-spool-size", observation.spoolPeakSizeBytes ≤ policy.maxSpoolSizeBytes,
      "spool size limit exceeded"),
    ("evidence-spool-watermark", spoolRatio ≤ policy.spoolHighWatermarkRatio,
      "spool high-watermark ratio exceeded"),
    ("evidence-upload-lag", observation.uploadLagMaxSec ≤ policy.maxUploadLagSec,
      "upload lag limit exceeded"),
    ("evidence-upload-mode", observation.uploadMode = policy.uploadMode.text,
      "upload mode differs"),
    ("evidence-retention", retentionClasses ≠ [] ∧
        retentionClasses.all (· = policy.retentionClass),
      "retention class differs: " ++ reprSorted py retentionClasses),
    ("evidence-remote-sink", observation.remoteSinkUsed = expectedRemote ∧
        policy.remoteSinkAllowed = expectedRemote,
      "remote sink policy differs")]

/-- `evaluate_evidence_policy`. -/
def evaluateEvidencePolicy (py : PyOps) (policy : EvidencePolicy) (evidence : VerifiedEvidence) :
    List AssertionEvaluation :=
  (evidenceChecks py policy evidence).map fun check =>
    booleanEvaluation ("policy-" ++ check.1) check.2.1 check.2.2

/-- `checks` of `evaluate_native_evidence_policy`. -/
def nativeEvidenceChecks (policy : NativeEvidencePolicy) (evidence : VerifiedEvidence) :
    List (String × Bool) :=
  let observation := evidence.index.policyObservation
  let sizes := evidence.links.map (·.sizeBytes)
  let retained := evidence.index.artifacts.any (·.storageState = .retained)
  [("native-artifact-size", sizes.max?.getD 0 ≤ policy.maxArtifactSizeBytes),
    ("native-archive-size", sizes.sum ≤ policy.maxArchiveSizeBytes),
    ("native-upload-lag", observation.uploadLagMaxSec ≤ policy.maxUploadLagSec),
    ("native-upload-mode", observation.uploadMode = policy.uploadMode.text),
    ("native-retention", evidence.links.all (·.retentionClass = policy.retentionClass)),
    ("native-remote-sink", !retained || policy.remoteSinkAllowed),
    ("native-required-sink", policy.uploadMode ≠ .remoteRequired || retained)]

/-- `evaluate_native_evidence_policy`. -/
def evaluateNativeEvidencePolicy (policy : NativeEvidencePolicy) (evidence : VerifiedEvidence) :
    List AssertionEvaluation :=
  (nativeEvidenceChecks policy evidence).map fun check =>
    booleanEvaluation ("policy-" ++ check.1) check.2
      s!"native evidence policy {check.1} failed"

end RoboticsRuntime.Harness
