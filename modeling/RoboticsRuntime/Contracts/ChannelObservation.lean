import RoboticsRuntime.Contracts.Transport

/-!
# The schema and the validator of a channel observation

`transport-channel-observation.v1`, as `write_contract_json` checks it. The engine of the JSON
schema, which searches the patterns of the identifiers, is a parameter.
-/

namespace RoboticsRuntime.Contracts
open Theory

/-- `$defs/identifier` of the common schema. -/
def identifierPattern : String := "^[a-z][a-z0-9]*(?:[._-][a-z0-9]+)*$"

/-- `$defs/runId` of the common schema. -/
def runIdPattern : String :=
  "^run-[0-9a-f]\x7b8\x7d-[0-9a-f]\x7b4\x7d-4[0-9a-f]\x7b3\x7d-[89ab][0-9a-f]\x7b3\x7d-[0-9a-f]\x7b12\x7d$"

/-- `$defs/sha256` of the common schema. -/
def sha256Pattern : String := "^[a-f0-9]\x7b64\x7d$"

/-- The pattern of `observation_id`. -/
def observationIdPattern : String :=
  "^observation-[0-9a-f]\x7b8\x7d-[0-9a-f]\x7b4\x7d-4[0-9a-f]\x7b3\x7d-[89ab][0-9a-f]\x7b3\x7d-[0-9a-f]\x7b12\x7d$"

/-- An identifier of the common schema: a pattern and a bound on its length. -/
def IsIdentifier (search : String → String → Bool) (id : String) : Prop :=
  search identifierPattern id ∧ id.length ≤ 128

/-- `transport-channel-observation.v1.schema.json`. The counters cannot be negative, and the status
and the codes are those of their enumerations. -/
structure ChannelObservationSchema (search : String → String → Bool)
    (document : ChannelObservationDocument) : Prop where
  observationId : search observationIdPattern document.observationId
  runId : search runIdPattern document.runId
  channelId : IsIdentifier search document.channelId
  channelContractSha256 : search sha256Pattern document.channelContractSha256
  lossRatio_nonneg : 0 ≤ document.lossRatio
  lossRatio_le_one : document.lossRatio ≤ 1
  maxMessageAgeMs_nonneg : 0 ≤ document.maxMessageAgeMs
  uniqueViolations : document.violations.Nodup
  messages : ∀ violation ∈ document.violations,
    1 ≤ violation.2.length ∧ violation.2.length ≤ 512
  passed_iff : document.status = .passed ↔ document.violations = []

/-- `semantics._validate_transport_channel_observation`. -/
def validateTransportChannelObservation (py : PyOps) (document : ChannelObservationDocument) :
    Except SemanticFailure Unit := do
  let schemaName := "transport-channel-observation.v1"
  let sent : ℤ := document.sentCount
  let received : ℤ := document.receivedCount
  let lost : ℤ := document.lostCount
  let duplicates : ℤ := document.duplicateCount
  require (document.startedAt.us < document.finishedAt.us)
    (.semantic schemaName "$.finished_at" "must be later than started_at")
  require (lost ≤ sent) (.semantic schemaName "$.lost_count" "must not exceed sent_count")
  require (received = sent - lost + duplicates)
    (.semantic schemaName "$.received_count"
      "must equal sent_count - lost_count + duplicate_count")
  require ((document.outOfOrderCount : ℤ) ≤ sent - lost)
    (.semantic schemaName "$.out_of_order_count"
      "must not exceed the number of matched messages")
  require (¬ (document.status = .passed ∧ sent = 0))
    (.semantic schemaName "$.status" "passed observation requires at least one source message")
  let expectedRatio := if sent ≠ 0 then py.fl (lost / sent) else 0
  require (|py.fl (document.lossRatio - expectedRatio)| ≤ py.fl (1 / 1000000000000))
    (.semantic schemaName "$.loss_ratio" "must equal lost_count / sent_count")

/-- The counters of an accepted observation agree. -/
structure CountersAgree (py : PyOps) (document : ChannelObservationDocument) : Prop where
  lost_le : document.lostCount ≤ document.sentCount
  received_eq :
    document.receivedCount = document.sentCount - document.lostCount + document.duplicateCount
  outOfOrder_le : document.outOfOrderCount ≤ document.sentCount - document.lostCount
  sent_of_passed : document.status = .passed → document.sentCount ≠ 0
  lossRatio : |py.fl (document.lossRatio - if document.sentCount ≠ 0 then
    py.fl (document.lostCount / document.sentCount) else 0)| ≤ py.fl (1 / 1000000000000)

theorem validateTransportChannelObservation_eq_ok {py : PyOps}
    {document : ChannelObservationDocument} :
    validateTransportChannelObservation py document = .ok () ↔
      document.startedAt.us < document.finishedAt.us ∧ CountersAgree py document := by
  simp only [validateTransportChannelObservation, seq_eq_ok, require_eq_ok, Int.natCast_ne_zero,
    Int.cast_natCast]
  refine and_congr_right fun _ => ?_
  constructor
  · rintro ⟨hlost, hreceived, horder, hpassed, hratio⟩
    have hlost : document.lostCount ≤ document.sentCount := by omega
    exact ⟨hlost, by omega, by omega, fun hs h0 => hpassed ⟨hs, by omega⟩, hratio⟩
  · rintro ⟨hlost, hreceived, horder, hpassed, hratio⟩
    exact ⟨by omega, by omega, by omega, fun h => hpassed h.1 (by omega), hratio⟩

end RoboticsRuntime.Contracts
