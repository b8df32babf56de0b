import Mathlib.Data.Finset.Sort
import Mathlib.Data.String.Basic
import RoboticsRuntime.Contracts.QualificationPolicy
import RoboticsRuntime.Theory.Checks
import RoboticsRuntime.Python

/-!
# Transport contracts and documents

The `transport-channel.v1` and `causal-chain.v1` contracts with their semantic validators, and the
sections of `transport-qualification-result.v1` that the validators and the harness exchange.
Properties of the schemas that nothing below reads (implementation binding, QoS, evidence links)
are left out.
-/

namespace RoboticsRuntime.Contracts
open Theory

/-- Python's `repr` of a sorted list of identifiers. -/
def sortedRepr (ids : Finset String) : String :=
  "[" ++ ", ".intercalate ((ids.sort (· ≤ ·)).map fun id => "'" ++ id ++ "'") ++ "]"

/-! ## Contracts -/

/-- `$defs/endpoint` of `transport-channel.v1`. -/
structure ChannelEndpoint where
  domainId : String
  rosDomainId : ℕ
  topic : String
  messageType : String
  typeHash : String
  deriving DecidableEq, Repr

/-- `trace.relationship`. -/
inductive Relationship where
  | link
  | parent
  deriving DecidableEq, Repr

def Relationship.name : Relationship → String
  | link => "link"
  | parent => "parent"

/-- The `trace` section of a channel contract. -/
structure ChannelTrace where
  relationship : Relationship
  producerSpanName : String
  consumerSpanName : String
  deriving DecidableEq, Repr

/-- `transport-channel.v1`. -/
structure TransportChannel where
  channelId : String
  source : ChannelEndpoint
  destination : ChannelEndpoint
  delivery : Delivery
  trace : ChannelTrace

/-- `semantics._validate_transport_channel`. -/
def validateTransportChannel (document : TransportChannel) : Except SemanticFailure Unit := do
  let schemaName := "transport-channel.v1"
  let source := document.source
  let destination := document.destination
  require (source.domainId ≠ destination.domainId)
    (.semantic schemaName "$.destination.domain_id" "must differ from source.domain_id")
  require (source.rosDomainId ≠ destination.rosDomainId)
    (.semantic schemaName "$.destination.ros_domain_id" "must differ from source.ros_domain_id")
  require (source.messageType = destination.messageType)
    (.semantic schemaName "$.destination.message_type" "must equal source.message_type")
  require (source.typeHash = destination.typeHash)
    (.semantic schemaName "$.destination.type_hash" "must equal source.type_hash")
  require (document.trace.producerSpanName ≠ document.trace.consumerSpanName)
    (.semantic schemaName "$.trace.consumer_span_name" "must differ from producer_span_name")

/-- An accepted channel joins two domains with differently named spans. -/
theorem validateTransportChannel_eq_ok {c : TransportChannel} :
    validateTransportChannel c = .ok () ↔
      c.source.domainId ≠ c.destination.domainId ∧
      c.source.rosDomainId ≠ c.destination.rosDomainId ∧
      c.source.messageType = c.destination.messageType ∧
      c.source.typeHash = c.destination.typeHash ∧
      c.trace.producerSpanName ≠ c.trace.consumerSpanName := by
  simp only [validateTransportChannel, seq_eq_ok, require_eq_ok]

/-- A reference to a channel contract by name and digest. -/
structure ChannelReference where
  channelId : String
  sha256 : String
  deriving DecidableEq, Repr

/-- `causal-chain.v1`; the schema requires at least one channel. -/
structure CausalChainContract where
  chainId : String
  requiredDomainIds : List String
  channelContracts : List ChannelReference
  channelContracts_ne_nil : channelContracts ≠ []

/-- `semantics._validate_causal_chain`. -/
def validateCausalChain (document : CausalChainContract) : Except SemanticFailure Unit :=
  require (Distinct (·.channelId) document.channelContracts)
    (.semantic "causal-chain.v1" "$.channel_contracts" "channel_id values must be unique")

/-- `time_policy.cross_domain_clock` of a scenario. -/
structure ClockPolicy where
  minimumSamples : ℕ
  maximumAbsoluteSkewMs : ℚ
  deriving DecidableEq, Repr

/-- The observations that `shared_clock_identity` refers to. -/
structure SharedClockIdentity where
  sourceObservationSha256 : String
  destinationObservationSha256 : String
  deriving DecidableEq, Repr

/-- `clock-relation.v1`; `shared_clock_identity` is present for the method of that name. -/
structure ClockRelation where
  relationId : String
  runId : String
  scenarioSha256 : String
  sourceDomainId : String
  destinationDomainId : String
  policy : ClockPolicy
  sharedClockIdentity : Option SharedClockIdentity
  evidenceSha256 : String
  status : ChannelObservationStatus
  deriving DecidableEq, Repr

/-- The domain pair a clock relation relates. -/
def ClockRelation.pair (r : ClockRelation) : String × String :=
  (r.sourceDomainId, r.destinationDomainId)

/-- The domain pair a channel crosses. -/
def TransportChannel.pair (c : TransportChannel) : String × String :=
  (c.source.domainId, c.destination.domainId)

/-! ## The observation of a channel -/

/-- `transport-channel-observation.v1`; the two times are those its text encodes, which
`parse_timestamp` reads back. -/
structure ChannelObservationDocument where
  observationId : String
  runId : String
  channelId : String
  channelContractSha256 : String
  startedAt : Timestamp
  finishedAt : Timestamp
  sentCount : ℕ
  receivedCount : ℕ
  lostCount : ℕ
  duplicateCount : ℕ
  outOfOrderCount : ℕ
  lossRatio : ℚ
  maxMessageAgeMs : ℚ
  status : ChannelObservationStatus
  violations : List (ChannelViolationCode × String)
  deriving DecidableEq, Repr

/-! ## Sections of the qualification result -/

/-- An item of `trace_evidence`. -/
structure TraceEvidence where
  domainId : String
  deriving DecidableEq, Repr

/-- `$defs/clockRelationReference`. -/
structure ClockRelationReference where
  relationId : String
  sourceDomainId : String
  destinationDomainId : String
  sha256 : String
  status : ChannelObservationStatus
  deriving DecidableEq, Repr

/-- `$defs/causalChainContract`. -/
structure CausalChainReference where
  chainId : String
  sha256 : String
  deriving DecidableEq, Repr

/-- `$defs/channelContract`. -/
structure ChannelContractReference where
  channelId : String
  sourceDomainId : String
  destinationDomainId : String
  sha256 : String
  deriving DecidableEq, Repr

/-- `$defs/channelObservation`. -/
structure ChannelObservationReference where
  channelId : String
  observationId : String
  sha256 : String
  status : ChannelObservationStatus
  deriving DecidableEq, Repr

/-- `$defs/spanReference`. -/
structure SpanReference where
  domainId : String
  traceId : String
  spanId : String
  messageId : String
  deriving DecidableEq, Repr

/-- `$defs/violation`. -/
structure ChainViolationDocument where
  code : String
  channelId : Option String
  message : String
  deriving DecidableEq, Repr

/-- `$defs/hop`; its status is `passed` or `failed`. -/
structure HopDocument where
  channelId : String
  relationship : Relationship
  producer : SpanReference
  consumer : SpanReference
  status : ChannelObservationStatus
  violations : List ChainViolationDocument
  deriving DecidableEq, Repr

/-- `$defs/causalChain`; `root_trace_id` and `trace_ids` are absent when nothing was observed. -/
structure CausalChainDocument where
  chainId : String
  expectedContractSha256 : String
  channelIds : List String
  status : ChannelObservationStatus
  hops : List HopDocument
  violations : List ChainViolationDocument
  rootTraceId : Option String
  traceIds : Option (List String)
  deriving DecidableEq, Repr

/-- `$defs/verdict`. -/
structure TransportVerdict where
  status : OutcomeStatus
  evaluatedAt : Timestamp
  chainCount : ℕ
  passedChainCount : ℕ
  failedChainCount : ℕ
  incompleteChainCount : ℕ
  errorChainCount : ℕ
  deriving DecidableEq, Repr

/-- `transport-qualification-result.v1`. -/
structure TransportQualification where
  runId : String
  scenarioSha256 : String
  traceEvidence : List TraceEvidence
  clockRelations : List ClockRelationReference
  causalChainContracts : List CausalChainReference
  channelContracts : List ChannelContractReference
  channelObservations : List ChannelObservationReference
  causalChains : List CausalChainDocument
  verdict : TransportVerdict
  deriving DecidableEq, Repr

/-- The domain pair a referenced channel crosses. -/
def ChannelContractReference.pair (c : ChannelContractReference) : String × String :=
  (c.sourceDomainId, c.destinationDomainId)

/-- The domain pair a referenced clock relation relates. -/
def ClockRelationReference.pair (r : ClockRelationReference) : String × String :=
  (r.sourceDomainId, r.destinationDomainId)

/-- The span a reference identifies. -/
def SpanReference.identity (r : SpanReference) : String × String :=
  (r.traceId, r.spanId)

end RoboticsRuntime.Contracts
