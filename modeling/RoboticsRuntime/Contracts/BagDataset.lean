import RoboticsRuntime.Contracts.Errors
import RoboticsRuntime.Contracts.Json
import RoboticsRuntime.Python.Paths
import RoboticsRuntime.Theory.Checks
import RoboticsRuntime.Theory.Counter

/-!
# Recorded bag datasets

`datasets.py`, with `_validate_dataset` and `_validate_recording_summary` of `semantics.py`: the
manifest of a bag, the finalized summaries of its members and the native metadata of rosbag2. The
integers of the schemas are integers, and the native metadata is any value that its file holds.
-/

namespace RoboticsRuntime.Contracts
open Theory Python

/-! ## Documents -/

/-- `basis` of the recorded time. -/
inductive RecordedTimeBasis where
  | rosTime | systemTime | ptpTime
  deriving DecidableEq, Repr

def RecordedTimeBasis.text : RecordedTimeBasis → String
  | rosTime => "ros_time"
  | systemTime => "system_time"
  | ptpTime => "ptp_time"

inductive DataClassification where
  | «public» | internal | confidential | restricted
  deriving DecidableEq, Repr

def DataClassification.text : DataClassification → String
  | «public» => "public"
  | internal => "internal"
  | confidential => "confidential"
  | restricted => "restricted"

inductive QosProfile where
  | systemDefault | sensorData | servicesDefault | parameters | transientLocal | custom
  deriving DecidableEq, Repr

/-- `artifactRef`. -/
structure ArtifactRef where
  uri : String
  sha256 : String
  deriving DecidableEq, Repr

/-- `bagMember`. -/
structure BagMember where
  segmentIndex : ℕ
  relativePath : String
  recording : ArtifactRef
  recordingSummary : ArtifactRef
  deriving DecidableEq, Repr

/-- `bag`. -/
structure Bag where
  metadata : ArtifactRef
  members : List BagMember
  messageCount : ℕ
  members_ne_nil : members ≠ []
  messageCount_pos : 0 < messageCount

/-- An entry of `channels`. -/
structure DatasetChannel where
  topic : String
  type : String
  typeHash : String
  qosProfile : QosProfile
  qosProfileSha256 : Option String
  messageCount : ℕ
  deriving DecidableEq, Repr

/-- `time`, with the times of its clock jumps. -/
structure DatasetTime where
  basis : RecordedTimeBasis
  startNs : ℕ
  endNs : ℕ
  clockJumps : List ℕ
  deriving DecidableEq, Repr

/-- `governance`. -/
structure Governance where
  license : String
  dataClassification : DataClassification
  retentionClass : String
  deriving DecidableEq, Repr

/-- An entry of `topic_remaps`. -/
structure TopicRemap where
  source : String
  target : String
  deriving DecidableEq, Repr

/-- A `dataset-manifest.v2` document. -/
structure DatasetManifest where
  bag : Bag
  channels : List DatasetChannel
  time : DatasetTime
  capturedAt : String
  governance : Governance
  topicRemaps : List TopicRemap
  channels_ne_nil : channels ≠ []

/-- `statistics` of a summary. -/
structure RecordingStatistics where
  messageCount : ℕ
  channelCount : ℕ
  messageStartTimeNs : ℕ
  messageEndTimeNs : ℕ
  deriving DecidableEq, Repr

/-- An entry of `channels` of a summary. -/
structure RecordingChannel where
  topic : String
  schemaName : String
  messageCount : ℕ
  deriving DecidableEq, Repr

/-- A `recording-summary.v1` document. -/
structure RecordingSummary where
  sourceSha256 : String
  statistics : RecordingStatistics
  channels : List RecordingChannel
  deriving DecidableEq, Repr

/-! ## Semantics of the documents -/

/-- `DatasetValidationError`. -/
structure DatasetValidationError where
  message : String
  deriving DecidableEq, Repr

/-- The failure of `_require`. -/
def mismatch (label : String) : DatasetValidationError :=
  ⟨label ++ " does not match the complete dataset"⟩

/-- The identities that earlier members have. -/
structure SeenMembers where
  paths : List String
  recordings : List String
  summaries : List String
  uris : List String

/-- A relative path of MCAP files below the bag. -/
def ConfinedPath (name : String) : Prop :=
  (purePosixPath name).absolute = false ∧ '\\' ∉ name.toList ∧
    (∀ part ∈ splitSlash name, part ≠ "" ∧ part ≠ "." ∧ part ≠ "..") ∧
    (name.toList.any fun character => character.toNat < 32 ∨ character.toNat = 127) = false ∧
    suffix (purePosixPath name).name = ".mcap"

instance (name : String) : Decidable (ConfinedPath name) :=
  inferInstanceAs (Decidable (_ ∧ _ ∧ _ ∧ _ ∧ _))

/-- The inner loop over the references of a member. -/
def checkAlias (uris : List String) (reference : ArtifactRef) :
    Except DatasetValidationError (List String) := do
  require (reference.uri ∉ uris) ⟨"bag references must not alias one URI"⟩
  return reference.uri :: uris

/-- The body of the loop over the members and their positions. -/
def checkMember (seen : SeenMembers) (entry : BagMember × ℕ) :
    Except DatasetValidationError SeenMembers := do
  let member := entry.1
  require (ConfinedPath member.relativePath)
    ⟨"bag member path must be a confined relative MCAP path"⟩
  require (entry.2 = member.segmentIndex) (mismatch "bag member segment index")
  require (member.relativePath ∉ seen.paths ∧ member.recording.sha256 ∉ seen.recordings)
    ⟨"bag members must have unique paths and recording identities"⟩
  require (member.recordingSummary.sha256 ∉ seen.summaries)
    ⟨"bag members must have distinct recording summary identities"⟩
  let uris ← [member.recording, member.recordingSummary].foldlM checkAlias seen.uris
  return ⟨member.relativePath :: seen.paths, member.recording.sha256 :: seen.recordings,
    member.recordingSummary.sha256 :: seen.summaries, uris⟩

/-- `validate_bag_structure`. -/
def validateBagStructure (document : DatasetManifest) : Except DatasetValidationError Unit := do
  let _ ← document.bag.members.zipIdx.foldlM checkMember ⟨[], [], [], [document.bag.metadata.uri]⟩

/-- An error of either kind of validator. -/
inductive DatasetFailure where
  | invalid (error : DatasetValidationError)
  | semantic (failure : SemanticFailure)
  deriving DecidableEq, Repr

/-- `schema_name` of the validator of datasets. -/
def datasetSchema : String := "dataset-manifest.v2"

/-- The loop over the remaps, with the sources and the targets so far. -/
def checkRemap (names : List String) (seen : List String × List String)
    (entry : TopicRemap × ℕ) : Except SemanticFailure (List String × List String) := do
  require (entry.1.source ∈ names)
    (.semantic datasetSchema s!"$.topic_remaps[{entry.2}].from" "must identify a recorded channel")
  require (entry.1.source ∉ seen.1 ∧ entry.1.target ∉ seen.2)
    (.semantic datasetSchema "$.topic_remaps" "remaps must be one-to-one")
  return (entry.1.source :: seen.1, entry.1.target :: seen.2)

/-- What `_validate_dataset` checks after the structure. -/
def validateDatasetFacts (document : DatasetManifest) : Except SemanticFailure Unit := do
  let time := document.time
  require (Distinct (·.topic) document.channels)
    (.semantic datasetSchema "$.channels" "topic values must be unique")
  require (time.startNs < time.endNs)
    (.semantic datasetSchema "$.time.end_ns" "must be greater than start_ns")
  time.clockJumps.zipIdx.forM fun jump =>
    require (time.startNs ≤ jump.1 ∧ jump.1 ≤ time.endNs)
      (.semantic datasetSchema s!"$.time.clock_jumps[{jump.2}].at_ns"
        "must fall within the recorded interval")
  let _ ← document.topicRemaps.zipIdx.foldlM
    (checkRemap (document.channels.map (·.topic))) ([], [])

/-- `_validate_dataset`. -/
def validateDataset (document : DatasetManifest) : Except DatasetFailure Unit := do
  (validateBagStructure document).mapError .invalid
  (validateDatasetFacts document).mapError .semantic

/-- `schema_name` of the validator of summaries. -/
def recordingSummarySchema : String := "recording-summary.v1"

/-- `_validate_recording_summary`. -/
def validateRecordingSummary (document : RecordingSummary) : Except SemanticFailure Unit := do
  let statistics := document.statistics
  require (Distinct (·.topic) document.channels)
    (.semantic recordingSummarySchema "$.channels" "topic values must be unique")
  require (statistics.channelCount = document.channels.length)
    (.semantic recordingSummarySchema "$.statistics.channel_count"
      "must equal the number of summarized channels")
  require (statistics.messageStartTimeNs ≤ statistics.messageEndTimeNs)
    (.semantic recordingSummarySchema "$.statistics.message_end_time_ns"
      "must not be earlier than message_start_time_ns")

/-! ## The manifest and its summaries -/

namespace RecordingSummary

/-- What the loop over the channels of a summary adds to the counter. -/
def channelCounts (summary : RecordingSummary) : List ((String × String) × ℕ) :=
  summary.channels.map fun channel => ((channel.topic, channel.schemaName), channel.messageCount)

/-- The interval of a member with messages. -/
def interval? (summary : RecordingSummary) : Option (ℕ × ℕ) :=
  let stats := summary.statistics
  if stats.messageCount ≠ 0 then some (stats.messageStartTimeNs, stats.messageEndTimeNs) else none

end RecordingSummary

/-- `expected` and `expected_counts`: the counts of the channels of the manifest. -/
def DatasetManifest.channelCounts (document : DatasetManifest) : List ((String × String) × ℕ) :=
  document.channels.foldl
    (fun counts channel => assign counts (channel.topic, channel.type) channel.messageCount) []

/-- `validate_bag_summaries`. -/
def validateBagSummaries (document : DatasetManifest) (summaries : List RecordingSummary) :
    Except DatasetValidationError Unit := do
  validateBagStructure document
  let members := document.bag.members
  require (members.length = summaries.length) (mismatch "bag summary cardinality")
  (members.zip summaries).forM fun entry =>
    require (entry.1.recording.sha256 = entry.2.sourceSha256) (mismatch "member summary source")
  let total := (summaries.map (·.statistics.messageCount)).sum
  let counts := (summaries.flatMap (·.channelCounts)).foldl addCount []
  let intervals := summaries.filterMap (·.interval?)
  require (document.bag.messageCount = total) (mismatch "bag message count")
  require (CountsAgree document.channelCounts counts) (mismatch "bag channel counts")
  require (intervals ≠ []) ⟨"bag dataset has no recorded messages"⟩
  require (some document.time.startNs = (intervals.map (·.1)).min?) (mismatch "bag start time")
  require (some document.time.endNs = (intervals.map (·.2)).max?) (mismatch "bag end time")

/-! ## Native metadata -/

/-- The error of any `KeyError`, `TypeError`, `IndexError` or `ValueError`. -/
def malformed : DatasetValidationError := ⟨"native bag metadata is incomplete or malformed"⟩

/-- A value of the native metadata. -/
abbrev NativeValue := Json String

namespace NativeValue

/-- `value[key]`. -/
def item (key : String) : NativeValue → Except DatasetValidationError NativeValue
  | .dict members => demand (members.lookup key) malformed
  | _ => .error malformed

/-- The items that a loop over a value has. -/
def iterate : NativeValue → Except DatasetValidationError (List NativeValue)
  | .list items => .ok items
  | .dict members => .ok (members.map fun entry => .str entry.1)
  | .str value => .ok (value.toList.map fun character => .str (String.singleton character))
  | _ => .error malformed

/-- The number that a value equals. -/
def number? : NativeValue → Option ℚ
  | .bool value => some (if value then 1 else 0)
  | .int value => some value
  | .float value => some value.value
  | _ => none

/-- `==` of values that can be keys. -/
def sameKey : NativeValue → NativeValue → Bool
  | .str a, .str b => a = b
  | .null, .null => true
  | a, b => a.number?.isSome && a.number? = b.number?

/-- `hash(value)` is there. -/
def hashable : NativeValue → Bool
  | .list _ | .dict _ => false
  | _ => true

/-- `bool(value)`. -/
def truthy : NativeValue → Bool
  | .null => false
  | .str value => value ≠ ""
  | .list items => items.length ≠ 0
  | .dict members => members.length ≠ 0
  | value => value.number? ≠ some 0

/-- `value == text`. -/
def isText (value : NativeValue) (text : String) : Bool :=
  match value with
  | .str other => other = text
  | _ => false

/-- `value == number and type(value) is int`. -/
def isInt (value : NativeValue) (number : ℤ) : Bool :=
  match value with
  | .int other => other = number
  | _ => false

end NativeValue

open NativeValue

/-- `_require` of a text. -/
def requireText (label expected : String) (actual : NativeValue) :
    Except DatasetValidationError Unit :=
  require (actual.isText expected) (mismatch label)

/-- `_require` of an integer. -/
def requireInt (label : String) (expected : ℤ) (actual : NativeValue) :
    Except DatasetValidationError Unit :=
  require (actual.isInt expected) (mismatch label)

/-- `_require` of a list of texts, against the items of a list. -/
def requireTexts (label : String) (expected : List String) (actual : List NativeValue) :
    Except DatasetValidationError Unit :=
  require (List.Forall₂ (fun text value => value.isText text = true) expected actual)
    (mismatch label)

/-- `_require` of a list of texts, against a value. -/
def requireTextList (label : String) (expected : List String) (actual : NativeValue) :
    Except DatasetValidationError Unit :=
  match actual with
  | .list items => requireTexts label expected items
  | _ => .error (mismatch label)

/-- One file of the native metadata and its summary. -/
def checkNativeFile (entry : NativeValue × RecordingSummary) : Except DatasetValidationError Unit := do
  let stats := entry.2.statistics
  let messageCount ← entry.1.item "message_count"
  requireInt "native member count" stats.messageCount messageCount
  if stats.messageCount ≠ 0 then
    let startingTime ← entry.1.item "starting_time"
    let nanosecondsSinceEpoch ← startingTime.item "nanoseconds_since_epoch"
    requireInt "native member start" stats.messageStartTimeNs nanosecondsSinceEpoch
    let duration ← entry.1.item "duration"
    let nanoseconds ← duration.item "nanoseconds"
    requireInt "native member duration" (stats.messageEndTimeNs - stats.messageStartTimeNs)
      nanoseconds

/-- One topic of the native metadata: its name, its type, its count and its metadata. -/
structure NativeTopic where
  name : NativeValue
  type : NativeValue
  messageCount : NativeValue
  topicMetadata : NativeValue

/-- One item of `topics_with_message_count`. -/
def nativeTopic (item : NativeValue) : Except DatasetValidationError NativeTopic := do
  let topicMetadata ← item.item "topic_metadata"
  let name ← topicMetadata.item "name"
  let type ← topicMetadata.item "type"
  let messageCount ← item.item "message_count"
  require (name.hashable ∧ type.hashable) malformed
  return { name, type, messageCount, topicMetadata }

/-- Two topics have one key in `actual_counts`. -/
def NativeTopic.same (a b : NativeTopic) : Bool := a.name.sameKey b.name && a.type.sameKey b.type

/-- `expected_counts == actual_counts`, where the topics have distinct keys. -/
def NativeCountsEqual (expected : List ((String × String) × ℕ)) (topics : List NativeTopic) : Prop :=
  expected.length = topics.length ∧ ∀ entry ∈ expected, ∃ topic ∈ topics,
    topic.name.isText entry.1.1 ∧ topic.type.isText entry.1.2 ∧
      topic.messageCount.number? = some (entry.2 : ℚ)

instance (expected : List ((String × String) × ℕ)) (topics : List NativeTopic) :
    Decidable (NativeCountsEqual expected topics) :=
  inferInstanceAs (Decidable (_ ∧ _))

/-- The body of the loop over the channels. The last topic of a name counts. -/
def checkNativeChannel (document : DatasetManifest) (topics : List NativeTopic)
    (channel : DatasetChannel) : Except DatasetValidationError Unit := do
  let topic ← demand (topics.reverse.find? fun topic => topic.name.isText channel.topic) malformed
  let typeHash ← topic.topicMetadata.item "type_description_hash"
  requireText "native channel type hash" channel.typeHash typeHash
  if channel.qosProfile = .custom then
    let offered ← topic.topicMetadata.item "offered_qos_profiles"
    require offered.truthy ⟨"native custom QoS must retain its offered profiles"⟩
    let sha256 ← demand channel.qosProfileSha256 malformed
    require (document.bag.metadata.sha256 = sha256) (mismatch "native channel QoS metadata")

/-- The comparisons with `custom_data`. -/
def checkCustomData (document : DatasetManifest) (custom : NativeValue)
    (expectedRunId : Option String) : Except DatasetValidationError Unit := do
  expectedRunId.forM fun runId => do
    let actual ← custom.item "run_id"
    requireText "native capture run" runId actual
  let basis ← custom.item "record_timestamp_basis"
  requireText "native recorded time basis" document.time.basis.text basis
  [(document.governance.license, "dataset_license"),
    (document.governance.dataClassification.text, "data_classification"),
    (document.governance.retentionClass, "retention_class")].forM fun entry => do
      let actual ← custom.item entry.2
      requireText "native capture governance" entry.1 actual
  let capturedAt ← custom.item "captured_at"
  requireText "native capture timestamp" document.capturedAt capturedAt

/-- `validate_bag_metadata`. -/
def validateBagMetadata (document : DatasetManifest) (metadata : NativeValue)
    (summaries : List RecordingSummary) (expectedRunId : Option String) :
    Except DatasetValidationError Unit := do
  validateBagSummaries document summaries
  let info ← metadata.item "rosbag2_bagfile_information"
  let names := document.bag.members.map (·.relativePath)
  let storage ← info.item "storage_identifier"
  requireText "native storage" "mcap" storage
  let paths ← info.item "relative_file_paths"
  requireTextList "native member order" names paths
  let files ← info.item "files"
  let items ← files.iterate
  let filePaths ← items.mapM (item "path")
  requireTexts "native file order" names filePaths
  let messageCount ← info.item "message_count"
  requireInt "native message count" document.bag.messageCount messageCount
  (items.zip summaries).forM checkNativeFile
  require (items.length = summaries.length) malformed
  let startingTime ← info.item "starting_time"
  let nanosecondsSinceEpoch ← startingTime.item "nanoseconds_since_epoch"
  requireInt "native bag start" document.time.startNs nanosecondsSinceEpoch
  let duration ← info.item "duration"
  let nanoseconds ← duration.item "nanoseconds"
  requireInt "native bag duration" (document.time.endNs - document.time.startNs) nanoseconds
  let topicItems ← info.item "topics_with_message_count"
  let topicValues ← topicItems.iterate
  let topics ← topicValues.mapM nativeTopic
  require (topics.Pairwise fun a b => a.same b = false)
    ⟨"native channel inventory contains duplicate identities"⟩
  require (NativeCountsEqual document.channelCounts topics) (mismatch "native channel counts")
  document.channels.forM (checkNativeChannel document topics)
  let custom ← info.item "custom_data"
  checkCustomData document custom expectedRunId

end RoboticsRuntime.Contracts
