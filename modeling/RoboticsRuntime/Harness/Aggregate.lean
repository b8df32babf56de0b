import RoboticsRuntime.Contracts.TransportQualification
import RoboticsRuntime.Contracts.Qualification
import RoboticsRuntime.Harness.Traces.CausalChain
import RoboticsRuntime.Harness.Traces.Delivery

/-!
# The transport qualification the harness writes

`aggregate.evaluate_transport_qualification`, from the loaded documents and spans to the result
document, before it is written and validated. Reading and verifying the evidence files is left to
the caller: the inputs carry what the loaders establish, among it that every contract has passed
its semantic validator.
-/

namespace RoboticsRuntime.Harness
open Theory Contracts

/-- A loaded transport channel. -/
structure LoadedChannel where
  data : TransportChannel
  sha256 : String
  accepted : validateTransportChannel data = .ok ()

/-- A loaded causal-chain contract. -/
structure LoadedChain where
  data : CausalChainContract
  sha256 : String
  accepted : validateCausalChain data = .ok ()

/-- A loaded clock relation. -/
structure LoadedRelation where
  data : ClockRelation
  sha256 : String
  deriving DecidableEq, Repr

/-- The failures of `evaluate_transport_qualification`. -/
inductive TransportFailure where
  | bundle (jsonPath message : String)
  | trace (error : TraceInputError)
  | observation (error : ObservationFailure)
  | contract (error : ContractError)
  deriving DecidableEq, Repr

/-- What `evaluate_transport_qualification` is given and has loaded. -/
structure TransportInputs where
  runId : String
  scenarioSha256 : String
  clockPolicy : ClockPolicy
  chainContracts : List LoadedChain
  channelContracts : List LoadedChannel
  spans : SpansByDomain
  evidenceSha256ByDomain : List (String × List String)
  clockRelations : List LoadedRelation
  evaluatedAt : Timestamp
  observationId : String → String
  observationSha256 : ChannelObservationDocument → String

/-! ## Hops and chains -/

/-- `_span_reference`. -/
def spanReference (span : TraceSpan) : Except TransportFailure SpanReference := do
  let messageId ← demand span.messageId (.bundle "$.causal_chains.hops"
    "a verified causal hop must carry messaging.message.id")
  return ⟨span.domainId, span.traceId, span.spanId, messageId⟩

/-- `_hop_document`. -/
def hopDocument (hop : CausalHop) : Except TransportFailure HopDocument := do
  let producer ← spanReference hop.producer
  let consumer ← spanReference hop.consumer
  return ⟨hop.channelId, hop.relationship, producer, consumer, .passed, []⟩

theorem hopDocument_eq_ok {hop : CausalHop} {document : HopDocument} :
    hopDocument hop = .ok document ↔
      ∃ producerId, hop.producer.messageId = some producerId ∧
        ∃ consumerId, hop.consumer.messageId = some consumerId ∧
          document = ⟨hop.channelId, hop.relationship,
            ⟨hop.producer.domainId, hop.producer.traceId, hop.producer.spanId, producerId⟩,
            ⟨hop.consumer.domainId, hop.consumer.traceId, hop.consumer.spanId, consumerId⟩,
            .passed, []⟩ := by
  simp only [hopDocument, spanReference, bind_eq_ok, demand_eq_ok]
  constructor
  · rintro ⟨_, ⟨producerId, hp, h1⟩, _, ⟨consumerId, hc, h2⟩, h⟩
    cases h1; cases h2; cases h
    exact ⟨producerId, hp, consumerId, hc, rfl⟩
  · rintro ⟨producerId, hp, consumerId, hc, rfl⟩
    exact ⟨_, ⟨producerId, hp, rfl⟩, _, ⟨consumerId, hc, rfl⟩, rfl⟩

/-- `_chain_violation_document`; an empty channel id is left out. -/
def chainViolationDocument (violation : ChainViolation ChainViolationCode) :
    ChainViolationDocument :=
  ⟨violation.code.name, violation.channelId.filter (· ≠ ""), violation.message⟩

/-- The document of one evaluated chain. -/
def chainDocument (contract : LoadedChain) (chain : CausalChainEvaluation) :
    Except TransportFailure CausalChainDocument := do
  let hops ← chain.hops.mapM hopDocument
  return {
    chainId := contract.data.chainId
    expectedContractSha256 := contract.sha256
    channelIds := chain.channelIds
    status := chain.status
    hops
    violations := chain.violations.map chainViolationDocument
    rootTraceId := chain.rootTraceId
    traceIds := if chain.traceIds = [] then none else some chain.traceIds }

/-- The loaded channels of a chain, in the order of its contract. -/
def resolveChannels (channelContracts : List LoadedChannel) (chain : LoadedChain) :
    Except TransportFailure (List LoadedChannel) :=
  chain.data.channelContracts.mapM fun reference =>
    demand ((channelContracts.find? fun c => c.data.channelId = reference.channelId).filter
        fun c => c.sha256 = reference.sha256)
      (.bundle s!"$.causal_chain_contracts.{chain.data.chainId}"
        "referenced channel contract is absent or has another digest")

/-- The domains a list of channels touches. -/
def touchedDomains (channels : List LoadedChannel) : Finset String :=
  (channels.flatMap fun c => [c.data.source.domainId, c.data.destination.domainId]).toFinset

/-- A chain with its loaded channels, which must touch the domains it requires. -/
def resolveChain (channelContracts : List LoadedChannel) (chain : LoadedChain) :
    Except TransportFailure (LoadedChain × List LoadedChannel) := do
  let channels ← resolveChannels channelContracts chain
  require (chain.data.requiredDomainIds.toFinset = touchedDomains channels)
    (.bundle s!"$.causal_chain_contracts.{chain.data.chainId}.required_domain_ids"
      "must equal the domains touched by the referenced channels")
  return (chain, channels)

/-- The checks of the contracts against each other and against the domains of the run. -/
def resolveChains (inputs : TransportInputs) :
    Except TransportFailure (List (LoadedChain × List LoadedChannel)) := do
  require (inputs.chainContracts ≠ [] ) (.bundle "$.causal_chain_contracts"
    "at least one causal-chain contract is required")
  require (Distinct (·.data.chainId) inputs.chainContracts)
    (.bundle "$.causal_chain_contracts" "chain_id values must be unique")
  require (Distinct (·.data.channelId) inputs.channelContracts)
    (.bundle "$.channel_contracts" "channel_id values must be unique")
  let chains ← inputs.chainContracts.mapM (resolveChain inputs.channelContracts)
  require ((chains.flatMap fun chain => chain.1.data.channelContracts.map (·.channelId)).toFinset =
      (inputs.channelContracts.map (·.data.channelId)).toFinset)
    (.bundle "$.channel_contracts" "every supplied channel contract must belong to a causal chain")
  let runDomains := (inputs.spans.domains.map (·.1)).toFinset
  forM inputs.channelContracts fun contract =>
    require (touchedDomains [contract] ⊆ runDomains)
      (.bundle s!"$.channel_contracts.{contract.data.channelId}"
        "channel references a domain outside the acceptance run")
  require (touchedDomains inputs.channelContracts = runDomains)
    (.bundle "$.channel_contracts"
      "causal chains must collectively traverse every acceptance-run domain")
  return chains

/-- What the resolution of the contracts establishes: distinct names, and for each chain the
loaded channel of each of its references. -/
structure Resolved (inputs : TransportInputs) (chains : List (LoadedChain × List LoadedChannel)) :
    Prop where
  ne_nil : inputs.chainContracts ≠ []
  distinct_chains : Distinct (·.data.chainId) inputs.chainContracts
  distinct_channels : Distinct (·.data.channelId) inputs.channelContracts
  chains_eq : chains.map (·.1) = inputs.chainContracts
  channels : ∀ chain ∈ chains, List.Forall₂
    (fun reference channel =>
      channel ∈ inputs.channelContracts ∧ channel.data.channelId = reference.channelId)
    chain.1.data.channelContracts chain.2

theorem resolveChain_eq_ok {channelContracts : List LoadedChannel} {chain : LoadedChain}
    {entry : LoadedChain × List LoadedChannel}
    (h : resolveChain channelContracts chain = .ok entry) :
    entry.1 = chain ∧ List.Forall₂
      (fun reference channel =>
        channel ∈ channelContracts ∧ channel.data.channelId = reference.channelId)
      entry.1.data.channelContracts entry.2 := by
  obtain ⟨channels, hchannels, h⟩ := bind_eq_ok.1 h
  obtain ⟨-, h⟩ := seq_eq_ok.1 h
  cases h
  refine ⟨rfl, (mapM_eq_ok.1 hchannels).imp fun reference channel h => ?_⟩
  rw [demand_eq_ok, Option.filter_eq_some_iff] at h
  exact ⟨List.mem_of_find?_eq_some h.1, by simpa using List.find?_some h.1⟩

theorem resolveChains_eq_ok {inputs : TransportInputs}
    {chains : List (LoadedChain × List LoadedChannel)} (h : resolveChains inputs = .ok chains) :
    Resolved inputs chains := by
  obtain ⟨hne, h⟩ := seq_eq_ok.1 h
  obtain ⟨hchains, h⟩ := seq_eq_ok.1 h
  obtain ⟨hchannels, h⟩ := seq_eq_ok.1 h
  obtain ⟨_, hresolved, h⟩ := bind_eq_ok.1 h
  obtain ⟨-, h⟩ := seq_eq_ok.1 h
  obtain ⟨-, h⟩ := seq_eq_ok.1 h
  obtain ⟨-, h⟩ := seq_eq_ok.1 h
  cases h
  refine ⟨require_eq_ok.1 hne, require_eq_ok.1 hchains, require_eq_ok.1 hchannels, ?_, ?_⟩
  · have hmap : inputs.chainContracts.map id = chains.map (·.1) :=
      map_eq_of_forall₂ (fun _ _ h => (resolveChain_eq_ok h).1.symm) (mapM_eq_ok.1 hresolved)
    rw [← hmap, List.map_id]
  · intro entry hm
    obtain ⟨chain, -, h⟩ := exists_of_forall₂_mem (mapM_eq_ok.1 hresolved) hm
    exact (resolveChain_eq_ok h).2

/-! ## Clock relations -/

/-- `validate_clock_relation_evidence`. -/
def validateClockRelationEvidence (relation : ClockRelation)
    (evidence : List (String × List String)) : Except TransportFailure Unit := do
  require (relation.evidenceSha256 ∈ evidence.flatMap (·.2))
    (.bundle "$.clock_relations" "clock relation references unretained evidence")
  match relation.sharedClockIdentity with
  | none => .ok ()
  | some identity =>
    forM [(relation.sourceDomainId, "source_observation", identity.sourceObservationSha256),
        (relation.destinationDomainId, "destination_observation",
          identity.destinationObservationSha256)] fun (domainId, field, digest) =>
      require (∃ domainEvidence ∈ evidence.lookup domainId, digest ∈ domainEvidence)
        (.bundle "$.clock_relations" s!"{field} is not retained by domain {domainId}")

/-- The reference of a loaded clock relation. -/
def clockRelationReference (relation : LoadedRelation) : ClockRelationReference :=
  ⟨relation.data.relationId, relation.data.sourceDomainId, relation.data.destinationDomainId,
    relation.sha256, relation.data.status⟩

/-- The loop over the clock relations, with the pairs observed so far. -/
def clockRelationReferences (inputs : TransportInputs) (required : Finset (String × String)) :
    List (String × String) → List LoadedRelation →
      Except TransportFailure (List ClockRelationReference)
  | _, [] => .ok []
  | observed, relation :: relations => do
    let data := relation.data
    require (data.runId = inputs.runId)
      (.bundle "$.clock_relations" "clock relation belongs to another run")
    require (data.scenarioSha256 = inputs.scenarioSha256)
      (.bundle "$.clock_relations" "clock relation belongs to another scenario")
    require (data.policy = inputs.clockPolicy)
      (.bundle "$.clock_relations" "clock relation policy differs from the scenario")
    require (data.pair ∈ required ∧ data.pair ∉ observed) (.bundle "$.clock_relations"
      "clock relation domain pairs must uniquely match channel directions")
    validateClockRelationEvidence data inputs.evidenceSha256ByDomain
    let references ← clockRelationReferences inputs required (data.pair :: observed) relations
    return clockRelationReference relation :: references

/-- The relations that pass are referenced in order, and relate required pairs. -/
theorem clockRelationReferences_eq_ok {inputs : TransportInputs}
    {required : Finset (String × String)} {observed : List (String × String)}
    {relations : List LoadedRelation} {references : List ClockRelationReference}
    (h : clockRelationReferences inputs required observed relations = .ok references) :
    references = relations.map clockRelationReference ∧
      ∀ relation ∈ relations, relation.data.pair ∈ required := by
  induction relations generalizing observed references with
  | nil => cases h; exact ⟨rfl, fun _ h => (nomatch h)⟩
  | cons relation relations ih =>
    obtain ⟨-, h⟩ := seq_eq_ok.1 h
    obtain ⟨-, h⟩ := seq_eq_ok.1 h
    obtain ⟨-, h⟩ := seq_eq_ok.1 h
    obtain ⟨hpair, h⟩ := seq_eq_ok.1 h
    obtain ⟨-, h⟩ := seq_eq_ok.1 h
    obtain ⟨rest, hrest, h⟩ := bind_eq_ok.1 h
    cases h
    obtain ⟨rfl, hmem⟩ := ih hrest
    exact ⟨rfl, List.forall_mem_cons.2 ⟨(require_eq_ok.1 hpair).1, hmem⟩⟩

/-! ## The verdict -/

/-- The number of chains with a status. -/
def chainCount (status : ChannelObservationStatus) (chains : List CausalChainDocument) : ℕ :=
  chains.countP fun chain => chain.status = status

/-- The verdict: the worst of the observation, chain and clock statuses, where a required domain
pair without a relation counts as incomplete. -/
def transportVerdict (evaluatedAt : Timestamp) (requiredClockPairs : Finset (String × String))
    (relations : List ClockRelationReference) (observations : List ChannelObservationReference)
    (chains : List CausalChainDocument) : Except ContractError TransportVerdict := do
  let observedClockPairs := (relations.map (·.pair)).toFinset
  let clockStatuses := relations.map (·.status.toOutcome) ++
    if observedClockPairs ≠ requiredClockPairs then [.incomplete] else []
  let transportStatus ← worstStatus (observations.map (·.status.toOutcome) ++
    chains.map (·.status.toOutcome) ++ clockStatuses) true
  return {
    status := transportStatus
    evaluatedAt
    chainCount := chains.length
    passedChainCount := chainCount .passed chains
    failedChainCount := chainCount .failed chains
    incompleteChainCount := chainCount .incomplete chains
    errorChainCount := chainCount .error chains }

/-- The reference of a loaded channel. -/
def channelContractReference (contract : LoadedChannel) : ChannelContractReference :=
  ⟨contract.data.channelId, contract.data.source.domainId, contract.data.destination.domainId,
    contract.sha256⟩

/-- The observation of one channel and its reference. -/
def channelObservation (py : PyOps) (inputs : TransportInputs) (contract : LoadedChannel) :
    Except ObservationFailure ChannelObservationReference := do
  let channelId := contract.data.channelId
  let observationId := inputs.observationId channelId
  let document ← channelObservationDocument py inputs.runId observationId contract.sha256
    inputs.evaluatedAt contract.data inputs.spans
  return ⟨channelId, observationId, inputs.observationSha256 document, document.status⟩

/-- `required_clock_pairs`. -/
def requiredClockPairs (inputs : TransportInputs) : Finset (String × String) :=
  (inputs.channelContracts.map (·.data.pair)).toFinset

/-- The channels in the order of the document. -/
def sortedChannels (inputs : TransportInputs) : List LoadedChannel :=
  inputs.channelContracts.insertionSort fun a b => a.data.channelId ≤ b.data.channelId

/-- The verdict and the document over the references of relations, observations and chains. -/
def qualificationDocument (inputs : TransportInputs) (relations : List ClockRelationReference)
    (observations : List ChannelObservationReference) (chains : List LoadedChain)
    (chainDocuments : List CausalChainDocument) :
    Except TransportFailure TransportQualification := do
  let verdict ← (transportVerdict inputs.evaluatedAt (requiredClockPairs inputs) relations
    observations chainDocuments).mapError TransportFailure.contract
  return {
    runId := inputs.runId
    scenarioSha256 := inputs.scenarioSha256
    traceEvidence := (inputs.spans.domains.map fun entry => entry.1).insertionSort (· ≤ ·)
      |>.map TraceEvidence.mk
    clockRelations := relations.insertionSort fun a b => toLex a.pair ≤ toLex b.pair
    causalChainContracts := chains.map fun chain => ⟨chain.data.chainId, chain.sha256⟩
    channelContracts := (sortedChannels inputs).map channelContractReference
    channelObservations := observations
    causalChains := chainDocuments
    verdict }

theorem qualificationDocument_eq_ok {inputs : TransportInputs}
    {relations : List ClockRelationReference} {observations : List ChannelObservationReference}
    {chains : List LoadedChain} {chainDocuments : List CausalChainDocument}
    {document : TransportQualification}
    (h : qualificationDocument inputs relations observations chains chainDocuments =
      .ok document) :
    document.causalChainContracts = chains.map (fun chain => ⟨chain.data.chainId, chain.sha256⟩) ∧
      document.channelContracts = (sortedChannels inputs).map channelContractReference ∧
      document.causalChains = chainDocuments := by
  obtain ⟨verdict, -, h⟩ := bind_eq_ok.1 h
  obtain rfl := Except.ok.inj h
  exact ⟨rfl, rfl, rfl⟩

/-- The document of one chain over its channels. -/
def evaluateChain (py : PyOps) (spans : SpansByDomain) (contract : LoadedChain)
    (channels : List LoadedChannel) : Except TransportFailure CausalChainDocument := do
  let chain ← (evaluateCausalChain py contract.data (channels.map (·.data)) spans).mapError
    TransportFailure.trace
  chainDocument contract chain

/-- `evaluate_transport_qualification`. -/
def evaluateTransportQualification (py : PyOps) (inputs : TransportInputs) :
    Except TransportFailure TransportQualification := do
  let chains ← resolveChains inputs
  (validateTraceSet py inputs.spans).mapError TransportFailure.trace
  (requireAttributableChannels py (inputs.channelContracts.map (·.data)) inputs.spans).mapError
    TransportFailure.trace
  let relations ←
    clockRelationReferences inputs (requiredClockPairs inputs) [] inputs.clockRelations
  let observations ← ((sortedChannels inputs).mapM (channelObservation py inputs)).mapError
    TransportFailure.observation
  let chains := chains.insertionSort fun a b => a.1.data.chainId ≤ b.1.data.chainId
  let chainDocuments ← chains.mapM fun chain => evaluateChain py inputs.spans chain.1 chain.2
  qualificationDocument inputs relations observations (chains.map (·.1)) chainDocuments

/-- The parts of a document that `evaluate_transport_qualification` returns. -/
theorem evaluateTransportQualification_eq_ok {py : PyOps} {inputs : TransportInputs}
    {document : TransportQualification}
    (h : evaluateTransportQualification py inputs = .ok document) :
    ∃ chains observations chainDocuments,
      Resolved inputs chains ∧
      validateTraceSet py inputs.spans = .ok () ∧
      (∀ relation ∈ inputs.clockRelations, relation.data.pair ∈ requiredClockPairs inputs) ∧
      (sortedChannels inputs).mapM (channelObservation py inputs) = .ok observations ∧
      List.Forall₂ (fun chain chainDocument =>
        evaluateChain py inputs.spans chain.1 chain.2 = .ok chainDocument)
        (chains.insertionSort fun a b => a.1.data.chainId ≤ b.1.data.chainId) chainDocuments ∧
      qualificationDocument inputs (inputs.clockRelations.map clockRelationReference) observations
        ((chains.insertionSort fun a b => a.1.data.chainId ≤ b.1.data.chainId).map (·.1))
        chainDocuments = .ok document := by
  obtain ⟨chains, hchains, h⟩ := bind_eq_ok.1 h
  obtain ⟨hset, h⟩ := seq_eq_ok.1 h
  obtain ⟨-, h⟩ := seq_eq_ok.1 h
  obtain ⟨relations, hrelations, h⟩ := bind_eq_ok.1 h
  obtain ⟨observations, hobservations, h⟩ := bind_eq_ok.1 h
  obtain ⟨chainDocuments, hdocuments, h⟩ := bind_eq_ok.1 h
  obtain ⟨rfl, hpairs⟩ := clockRelationReferences_eq_ok hrelations
  exact ⟨chains, observations, chainDocuments, resolveChains_eq_ok hchains,
    mapError_eq_ok.1 hset, hpairs, mapError_eq_ok.1 hobservations, mapM_eq_ok.1 hdocuments, h⟩

end RoboticsRuntime.Harness
