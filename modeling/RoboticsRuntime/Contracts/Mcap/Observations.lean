import Mathlib.Data.Finset.Basic
import Mathlib.Data.Prod.Lex
import Mathlib.Data.String.Basic
import RoboticsRuntime.Contracts.Errors
import RoboticsRuntime.Theory.Counter
import RoboticsRuntime.Theory.Ranking

/-!
# Observed MCAP facts

`_mcap_observations.py` and the checks of `_mcap_summary.py` on what was observed. A dictionary is the
list of its items; the metadata of a channel, which is only compared, is the set of its items. What
is not read from the records of the `mcap` package is left out.
-/

namespace RoboticsRuntime.Contracts.Mcap
open Theory

/-- `mcap.records.Schema`. -/
structure Schema where
  id : ℕ
  name : String
  encoding : String
  data : List UInt8
  deriving DecidableEq

/-- `mcap.records.Channel`. -/
structure Channel where
  id : ℕ
  topic : String
  messageEncoding : String
  metadata : Finset (String × String)
  schemaId : ℕ
  deriving DecidableEq

/-- `mcap.records.Message`. -/
structure Message where
  channelId : ℕ
  logTime : ℕ
  deriving DecidableEq

/-- `mcap.records.McapRecord`, by what `observe` does with it. -/
inductive McapRecord where
  | schema (record : Schema)
  | channel (record : Channel)
  | message (record : Message)
  | attachment
  | metadata
  | dataEnd
  | other
  deriving DecidableEq

/-- `_invalid`. -/
def invalid (message : String) : ContractError := { message, errorId := "writer.invalid_mcap" }

/-- `_definition`, for the records of a type with some name. -/
def definition {ρ : Type} [DecidableEq ρ] (typeName : String) (id : ρ → ℕ)
    (definitions : List (ℕ × ρ)) (record : ρ) (inSummary : Bool) :
    Except ContractError (List (ℕ × ρ)) :=
  match definitions.lookup (id record) with
  | some previous =>
    if record ≠ previous then .error (invalid s!"conflicting MCAP {typeName} ID {id record}")
    else .ok definitions
  | none =>
    if inSummary then .error (invalid s!"MCAP summary {typeName} lacks a data definition")
    else .ok (assign definitions (id record) record)

/-- `Observations`. The least and the greatest log time are `start` and `finish`. -/
structure Observations where
  schemas : List (ℕ × Schema)
  channels : List (ℕ × Channel)
  messages : List (ℕ × ℕ)
  attachments : ℕ
  metadata : ℕ
  start : Option ℕ
  finish : ℕ
  inSummary : Bool

/-- `Observations()`. -/
def Observations.initial : Observations := ⟨[], [], [], 0, 0, none, 0, false⟩

/-- `statistics` of a recording, but for its chunks. -/
structure RecordStatistics where
  messageCount : ℕ
  schemaCount : ℕ
  channelCount : ℕ
  attachmentCount : ℕ
  metadataCount : ℕ
  messageStartTimeNs : ℕ
  messageEndTimeNs : ℕ
  deriving DecidableEq, Repr

namespace Observations
variable (observed : Observations)

/-- `Observations.definition` of a schema. -/
def schemaDefinition (record : Schema) : Except ContractError Observations := do
  require (record.id ≠ 0) (invalid "MCAP schema ID must be nonzero")
  let schemas ← definition "Schema" Schema.id observed.schemas record observed.inSummary
  return { observed with schemas }

/-- `Observations.definition` of a channel. -/
def channelDefinition (record : Channel) : Except ContractError Observations := do
  require (record.schemaId ≠ 0)
    (invalid "recording-summary.v1 requires a named schema for every channel")
  require (record.schemaId ∈ observed.schemas.map (·.1))
    (invalid s!"MCAP channel refers to undefined schema {record.schemaId}")
  let channels ← definition "Channel" Channel.id observed.channels record observed.inSummary
  return { observed with channels }

/-- `Observations.message`. -/
def message (record : Message) : Except ContractError Observations := do
  require (observed.inSummary = false) (invalid "MCAP message occurs after DataEnd")
  require (record.channelId ∈ observed.channels.map (·.1))
    (invalid s!"MCAP message refers to undefined channel {record.channelId}")
  return { observed with
    messages := increment observed.messages record.channelId
    start := some ((observed.start.map (min · record.logTime)).getD record.logTime)
    finish := max observed.finish record.logTime }

/-- `Observations.observe`. -/
def observe : McapRecord → Except ContractError Observations
  | .dataEnd => do
    require (observed.inSummary = false) (invalid "duplicate MCAP DataEnd")
    return { observed with inSummary := true }
  | .schema record => observed.schemaDefinition record
  | .channel record => observed.channelDefinition record
  | .message record => observed.message record
  | .attachment => do
    require (observed.inSummary = false) (invalid "MCAP attachment/metadata occurs after DataEnd")
    return { observed with attachments := observed.attachments + 1 }
  | .metadata => do
    require (observed.inSummary = false) (invalid "MCAP attachment/metadata occurs after DataEnd")
    return { observed with metadata := observed.metadata + 1 }
  | .other => .ok observed

/-- `Observations.statistics`. -/
def statistics : Except ContractError RecordStatistics := do
  require (observed.inSummary = true) (invalid "MCAP requires DataEnd before its summary")
  return {
    messageCount := totalCount observed.messages
    schemaCount := observed.schemas.length
    channelCount := observed.channels.length
    attachmentCount := observed.attachments
    metadataCount := observed.metadata
    messageStartTimeNs := observed.start.getD 0
    messageEndTimeNs := observed.finish }

end Observations

/-- `_observed_statistics`, over the records that the reader of the stream yields. -/
def observedStatistics (records : List McapRecord) : Except ContractError Observations :=
  records.foldlM Observations.observe .initial

/-- `channel_message_counts` of a `Statistics` record. -/
structure ChannelMessageCounts where
  items : List (ℕ × ℕ)
  nodup : (items.map (·.1)).Nodup

/-- `_check_channel_counts`. -/
def checkChannelCounts (counts : ChannelMessageCounts) (observed : Observations) :
    Except ContractError Unit :=
  require (¬ (counts.items ≠ [] ∧
      (¬ CountsAgree (positiveCounts counts.items) observed.messages ∨
        ¬ counts.items.map (·.1) ⊆ observed.channels.map (·.1))))
    (invalid "MCAP per-channel Statistics contradict its messages")

/-- An entry of `channels` in a recording summary. -/
structure ChannelSummary where
  topic : String
  messageEncoding : String
  schemaName : String
  messageCount : ℕ
  deriving DecidableEq, Repr

/-- The `KeyError` of a subscript. -/
structure MissingSchema where
  id : ℕ
  deriving DecidableEq, Repr

/-- `_channels`. -/
def channels (observed : Observations) : Except MissingSchema (List ChannelSummary) :=
  (sortBy (fun channel => toLex (channel.topic, channel.id)) (observed.channels.map (·.2))).mapM
    fun channel => do
      let schema ← demand (observed.schemas.lookup channel.schemaId) ⟨channel.schemaId⟩
      return ⟨channel.topic, channel.messageEncoding, schema.name,
        countOf observed.messages channel.id⟩

end RoboticsRuntime.Contracts.Mcap
