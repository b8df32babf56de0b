import Mathlib.Data.Finset.Dedup
import RoboticsRuntime.Contracts.Transport

/-!
# The validator of a transport qualification result

`semantics._validate_transport_qualification`, clause by clause in the order of the source. The
clauses about one causal chain and those about the hops of a passed chain are functions of their
own; the loop over hops carries the transitions seen so far.
-/

namespace RoboticsRuntime.Contracts
open Theory

/-- `schema_name` of the document. -/
def transportSchema : String := "transport-qualification-result.v1"

namespace TransportQualification
variable (document : TransportQualification)

/-- `result_domains`. -/
def resultDomains : Finset String :=
  (document.channelContracts.flatMap fun c => [c.sourceDomainId, c.destinationDomainId]).toFinset

/-- `contract_ids`. -/
def contractIds : Finset String :=
  (document.channelContracts.map (·.channelId)).toFinset

/-- `contract_by_id[channel_id]`. -/
def contractById (channelId : String) : Except SemanticFailure ChannelContractReference :=
  demand (document.channelContracts.find? fun c => c.channelId = channelId) (.keyError channelId)

/-- `chain_contract_by_id[chain_id]`. -/
def chainContractById (chainId : String) : Except SemanticFailure CausalChainReference :=
  demand (document.causalChainContracts.find? fun c => c.chainId = chainId) (.keyError chainId)

/-- `set(relation_by_domains)`. -/
def relationPairs : Finset (String × String) :=
  (document.clockRelations.map (·.pair)).toFinset

/-- `expected_relations`. -/
def expectedRelations : Finset (String × String) :=
  (document.channelContracts.map (·.pair)).toFinset

end TransportQualification

open TransportQualification

/-- The domain references of a hop. -/
def HopDocument.domains (hop : HopDocument) : Finset String :=
  {hop.producer.domainId, hop.consumer.domainId}

/-- `transition_id`: the producer and the consumer span of a hop. -/
def HopDocument.transitionId (hop : HopDocument) : (String × String) × (String × String) :=
  (hop.producer.identity, hop.consumer.identity)

/-- The checks of one hop of a passed chain, after the transitions `transitionIds`. -/
def validatePassedHop (document : TransportQualification) (index hopIndex : ℕ)
    (transitionIds : List ((String × String) × (String × String))) (hop : HopDocument) :
    Except SemanticFailure Unit := do
  let path := s!"$.causal_chains[{index}].hops[{hopIndex}]"
  let channelContract ← document.contractById hop.channelId
  let unknownDomains := hop.domains \ document.resultDomains
  require (unknownDomains = ∅) (.semantic transportSchema path
    s!"references unknown qualification domains: {sortedRepr unknownDomains}")
  require (hop.producer.domainId ≠ hop.consumer.domainId) (.semantic transportSchema path
    "cross-domain hop requires distinct producer and consumer domains")
  require (hop.producer.domainId = channelContract.sourceDomainId ∧
      hop.consumer.domainId = channelContract.destinationDomainId)
    (.semantic transportSchema path "observed domains must match the referenced channel direction")
  require (hop.transitionId ∉ transitionIds) (.semantic transportSchema path
    "observed span transition is duplicated across channels")
  require (hop.producer.identity ≠ hop.consumer.identity) (.semantic transportSchema path
    "producer and consumer must identify distinct spans")
  require (hop.producer.messageId = hop.consumer.messageId) (.semantic transportSchema path
    "producer and consumer message_id values must match")
  require (hop.relationship = .parent → hop.producer.traceId = hop.consumer.traceId)
    (.semantic transportSchema path
      "parent relationship requires producer and consumer to share trace_id")

/-- What the validator asks of a hop of a passed chain, its transition apart. -/
structure SoundHop (document : TransportQualification) (hop : HopDocument) : Prop where
  direction : ∃ contract, document.contractById hop.channelId = .ok contract ∧
    hop.producer.domainId = contract.sourceDomainId ∧
    hop.consumer.domainId = contract.destinationDomainId
  known : hop.domains \ document.resultDomains = ∅
  domainId_ne : hop.producer.domainId ≠ hop.consumer.domainId
  identity_ne : hop.producer.identity ≠ hop.consumer.identity
  messageId_eq : hop.producer.messageId = hop.consumer.messageId
  parent : hop.relationship = .parent → hop.producer.traceId = hop.consumer.traceId

theorem validatePassedHop_eq_ok {document : TransportQualification} {index hopIndex : ℕ}
    {transitionIds : List ((String × String) × (String × String))} {hop : HopDocument} :
    validatePassedHop document index hopIndex transitionIds hop = .ok () ↔
      SoundHop document hop ∧ hop.transitionId ∉ transitionIds := by
  simp only [validatePassedHop]
  rw [bind_eq_ok]
  constructor
  · rintro ⟨contract, hc, h⟩
    obtain ⟨h1, h⟩ := seq_eq_ok.1 h
    obtain ⟨h2, h⟩ := seq_eq_ok.1 h
    obtain ⟨h3, h⟩ := seq_eq_ok.1 h
    obtain ⟨h4, h⟩ := seq_eq_ok.1 h
    obtain ⟨h5, h⟩ := seq_eq_ok.1 h
    obtain ⟨h6, h⟩ := seq_eq_ok.1 h
    simp only [require_eq_ok] at h1 h2 h3 h4 h5 h6 h
    exact ⟨⟨⟨contract, hc, h3⟩, h1, h2, h5, h6, h⟩, h4⟩
  · rintro ⟨⟨⟨contract, hc, h3⟩, h1, h2, h5, h6, h⟩, h4⟩
    refine ⟨contract, hc, ?_⟩
    simp only [require_of h1, require_of h2, require_of h3, require_of h4, require_of h5,
      require_of h6, require_of h]
    rfl

/-- The loop over the hops of a passed chain. -/
def validatePassedHops (document : TransportQualification) (index : ℕ) :
    ℕ → List ((String × String) × (String × String)) → List HopDocument →
      Except SemanticFailure Unit
  | _, _, [] => .ok ()
  | hopIndex, transitionIds, hop :: hops => do
    validatePassedHop document index hopIndex transitionIds hop
    validatePassedHops document index (hopIndex + 1) (hop.transitionId :: transitionIds) hops

/-- The hops of a passed chain are accepted when each of them is, and no transition occurs
twice. -/
theorem validatePassedHops_eq_ok {document : TransportQualification} {index hopIndex : ℕ}
    {transitionIds : List ((String × String) × (String × String))} {hops : List HopDocument} :
    validatePassedHops document index hopIndex transitionIds hops = .ok () ↔
      (∀ hop ∈ hops, SoundHop document hop) ∧ Distinct HopDocument.transitionId hops ∧
        ∀ hop ∈ hops, hop.transitionId ∉ transitionIds := by
  induction hops generalizing hopIndex transitionIds with
  | nil => simp [validatePassedHops, Distinct]
  | cons hop hops ih =>
    simp only [validatePassedHops, seq_eq_ok, validatePassedHop_eq_ok, ih, Distinct, List.map_cons,
      List.nodup_cons, List.mem_map, List.mem_cons, forall_eq_or_imp, not_or]
    constructor
    · rintro ⟨⟨h1, h2⟩, h3, h4, h5⟩
      refine ⟨⟨h1, h3⟩, ⟨?_, h4⟩, h2, fun hop' hm => (h5 hop' hm).2⟩
      rintro ⟨hop', hm, he⟩
      exact (h5 hop' hm).1 he
    · rintro ⟨⟨h1, h3⟩, ⟨hn, h4⟩, h2, h5⟩
      exact ⟨⟨h1, h2⟩, h3, h4, fun hop' hm => ⟨fun he => hn ⟨hop', hm, he⟩, h5 hop' hm⟩⟩

/-- The clauses that only a passed chain must meet. -/
def validatePassedChain (document : TransportQualification) (index : ℕ)
    (chain : CausalChainDocument) : Except SemanticFailure Unit := do
  let traceIds ← demand chain.traceIds (.keyError "trace_ids")
  let rootTraceId ← demand chain.rootTraceId (.keyError "root_trace_id")
  require (rootTraceId ∈ traceIds) (.semantic transportSchema
    s!"$.causal_chains[{index}].root_trace_id" "must be present in trace_ids")
  let observedTraceIds :=
    chain.hops.flatMap fun hop => [hop.producer.traceId, hop.consumer.traceId]
  require (observedTraceIds.toFinset = traceIds.toFinset) (.semantic transportSchema
    s!"$.causal_chains[{index}].trace_ids" "must equal the trace IDs used by the verified hops")
  validatePassedHops document index 0 [] chain.hops

/-- `_require_known_hop_channels`. -/
def requireKnownHopChannels (chainIndex : ℕ) (hopIds : List String) (contractIds : Finset String) :
    Except SemanticFailure Unit :=
  forM hopIds.zipIdx fun (hopId, hopIndex) =>
    require (hopId ∈ contractIds) (.semantic transportSchema
      s!"$.causal_chains[{chainIndex}].hops[{hopIndex}].channel_id"
      s!"unknown channel contract: '{hopId}'")

/-- Two consecutive channels of a chain: the second continues from the first. -/
def validateContinuation (document : TransportQualification) (index channelIndex : ℕ)
    (previousId channelId : String) : Except SemanticFailure Unit := do
  let previous ← document.contractById previousId
  let current ← document.contractById channelId
  require (previous.destinationDomainId = current.sourceDomainId) (.semantic transportSchema
    s!"$.causal_chains[{index}].channel_ids[{channelIndex}]"
    "must continue from the preceding channel destination")

/-- The destination of one channel is the source of another. -/
def ContinuesFrom (document : TransportQualification) (previousId channelId : String) : Prop :=
  ∃ previous, document.contractById previousId = .ok previous ∧
    ∃ current, document.contractById channelId = .ok current ∧
      previous.destinationDomainId = current.sourceDomainId

theorem validateContinuation_eq_ok {document : TransportQualification} {index channelIndex : ℕ}
    {previousId channelId : String} :
    validateContinuation document index channelIndex previousId channelId = .ok () ↔
      ContinuesFrom document previousId channelId := by
  simp only [validateContinuation, bind_eq_ok, require_eq_ok, ContinuesFrom]

/-- The body of the loop over `causal_chains`. -/
def validateChain (document : TransportQualification) (index : ℕ) (chain : CausalChainDocument) :
    Except SemanticFailure Unit := do
  let unknown := chain.channelIds.toFinset \ document.contractIds
  require (unknown = ∅) (.semantic transportSchema s!"$.causal_chains[{index}].channel_ids"
    s!"unknown channel contracts: {sortedRepr unknown}")
  let expectedContract ← document.chainContractById chain.chainId
  require (chain.expectedContractSha256 = expectedContract.sha256) (.semantic transportSchema
    s!"$.causal_chains[{index}].expected_contract_sha256"
    "must match the referenced causal chain contract sha256")
  forM ((chain.channelIds.zip chain.channelIds.tail).zipIdx 1)
    fun ((previousId, channelId), channelIndex) =>
      validateContinuation document index channelIndex previousId channelId
  let hopIds := chain.hops.map (·.channelId)
  requireKnownHopChannels index hopIds document.contractIds
  require hopIds.Nodup (.semantic transportSchema s!"$.causal_chains[{index}].hops"
    "channel_id values must be unique")
  require (chain.status = .passed → hopIds = chain.channelIds) (.semantic transportSchema
    s!"$.causal_chains[{index}].hops" "passed requires one ordered hop for every channel")
  require (¬ ((∃ hop ∈ chain.hops, hop.status ≠ .passed) ∧ chain.status = .passed))
    (.semantic transportSchema s!"$.causal_chains[{index}].status"
      "passed requires every observed hop to pass")
  if chain.status = .passed then validatePassedChain document index chain else .ok ()

/-- What the validator asks of a passed chain, the repetition of transitions apart. -/
structure SoundChain (document : TransportQualification) (chain : CausalChainDocument) :
    Prop where
  known : chain.channelIds.toFinset \ document.contractIds = ∅
  contract : ∃ contract, document.chainContractById chain.chainId = .ok contract ∧
    chain.expectedContractSha256 = contract.sha256
  continues : chain.channelIds.IsChain (ContinuesFrom document)
  hops_known : ∀ hopId ∈ chain.hops.map (·.channelId), hopId ∈ document.contractIds
  hops_nodup : (chain.hops.map (·.channelId)).Nodup
  hops_eq : chain.hops.map (·.channelId) = chain.channelIds
  hops_passed : ∀ hop ∈ chain.hops, hop.status = .passed
  traces : ∃ traceIds, chain.traceIds = some traceIds ∧
    ∃ rootTraceId, chain.rootTraceId = some rootTraceId ∧ rootTraceId ∈ traceIds ∧
    (chain.hops.flatMap fun hop => [hop.producer.traceId, hop.consumer.traceId]).toFinset =
      traceIds.toFinset
  hops : ∀ hop ∈ chain.hops, SoundHop document hop

theorem validatePassedChain_eq_ok {document : TransportQualification} {index : ℕ}
    {chain : CausalChainDocument} :
    validatePassedChain document index chain = .ok () ↔
      (∃ traceIds, chain.traceIds = some traceIds ∧
        ∃ rootTraceId, chain.rootTraceId = some rootTraceId ∧ rootTraceId ∈ traceIds ∧
        (chain.hops.flatMap fun hop => [hop.producer.traceId, hop.consumer.traceId]).toFinset =
          traceIds.toFinset) ∧
      (∀ hop ∈ chain.hops, SoundHop document hop) ∧
      Distinct HopDocument.transitionId chain.hops := by
  simp only [validatePassedChain, bind_eq_ok, demand_eq_ok, require_eq_ok, exists_const,
    validatePassedHops_eq_ok]
  constructor
  · rintro ⟨traceIds, ht, rootTraceId, hr, hmem, hset, hops, hdist, -⟩
    exact ⟨⟨traceIds, ht, rootTraceId, hr, hmem, hset⟩, hops, hdist⟩
  · rintro ⟨⟨traceIds, ht, rootTraceId, hr, hmem, hset⟩, hops, hdist⟩
    exact ⟨traceIds, ht, rootTraceId, hr, hmem, hset, hops, hdist,
      fun _ _ => List.not_mem_nil⟩

/-- A passed chain is accepted when it is sound and uses no transition twice. -/
theorem validateChain_eq_ok {document : TransportQualification} {index : ℕ}
    {chain : CausalChainDocument} (hp : chain.status = .passed) :
    validateChain document index chain = .ok () ↔
      SoundChain document chain ∧ Distinct HopDocument.transitionId chain.hops := by
  have hcontinues : ∀ k, forM ((chain.channelIds.zip chain.channelIds.tail).zipIdx k)
      (fun ((previousId, channelId), channelIndex) =>
        validateContinuation document index channelIndex previousId channelId) = .ok () ↔
      chain.channelIds.IsChain (ContinuesFrom document) := fun k => by
    rw [← forall_zip_tail]
    exact forM_zipIdx_eq_ok fun _ _ => validateContinuation_eq_ok
  have hknown : requireKnownHopChannels index (chain.hops.map (·.channelId))
      document.contractIds = .ok () ↔
      ∀ hopId ∈ chain.hops.map (·.channelId), hopId ∈ document.contractIds :=
    forM_zipIdx_eq_ok fun _ _ => require_eq_ok
  have hpassed : ¬ ((∃ hop ∈ chain.hops, hop.status ≠ .passed) ∧ chain.status = .passed) ↔
      ∀ hop ∈ chain.hops, hop.status = .passed := by
    simp [hp]
  unfold validateChain
  dsimp only
  rw [if_pos hp, seq_eq_ok, bind_eq_ok]
  simp only [require_eq_ok]
  constructor
  · rintro ⟨h1, contract, h2, h⟩
    obtain ⟨h3, h⟩ := seq_eq_ok.1 h
    obtain ⟨h4, h⟩ := seq_eq_ok.1 h
    obtain ⟨h5, h⟩ := seq_eq_ok.1 h
    obtain ⟨h6, h⟩ := seq_eq_ok.1 h
    obtain ⟨h7, h⟩ := seq_eq_ok.1 h
    obtain ⟨h8, h⟩ := seq_eq_ok.1 h
    obtain ⟨traces, hops, hdist⟩ := validatePassedChain_eq_ok.1 h
    exact ⟨⟨h1, ⟨contract, h2, require_eq_ok.1 h3⟩, (hcontinues _).1 h4, hknown.1 h5,
      require_eq_ok.1 h6, require_eq_ok.1 h7 hp, hpassed.1 (require_eq_ok.1 h8), traces, hops⟩,
      hdist⟩
  · rintro ⟨h, hdist⟩
    obtain ⟨contract, h2, h3⟩ := h.contract
    refine ⟨h.known, contract, h2, seq_eq_ok.2 ⟨require_of h3, seq_eq_ok.2 ⟨(hcontinues _).2
      h.continues, seq_eq_ok.2 ⟨hknown.2 h.hops_known, seq_eq_ok.2 ⟨require_of h.hops_nodup,
      seq_eq_ok.2 ⟨require_of fun _ => h.hops_eq, seq_eq_ok.2 ⟨require_of (hpassed.2
      h.hops_passed), validatePassedChain_eq_ok.2 ⟨h.traces, h.hops, hdist⟩⟩⟩⟩⟩⟩⟩⟩

/-- `_require_unique`. -/
def requireUnique {α : Type} (items : List α) (key : String) (f : α → String) (path : String) :
    Except SemanticFailure Unit :=
  require (Distinct f items) (.semantic transportSchema path s!"{key} values must be unique")

/-- The number of chains with a status. -/
def countStatus (status : ChannelObservationStatus) (chains : List CausalChainDocument) : ℕ :=
  chains.countP fun chain => chain.status = status

/-- `expected_e2e`: the status the document's relations, observations and chains demand. -/
def expectedTransportStatus (document : TransportQualification) :
    Except ContractError OutcomeStatus :=
  let missingClockRelations := document.relationPairs ≠ document.expectedRelations
  worstStatus
    (.passed :: (if missingClockRelations then [.incomplete] else []) ++
      document.clockRelations.map (·.status.toOutcome) ++
      document.channelObservations.map (·.status.toOutcome) ++
      document.causalChains.map (·.status.toOutcome))
    true

/-- The `verdict` clauses. -/
def validateTransportVerdict (document : TransportQualification) : Except SemanticFailure Unit := do
  let verdict := document.verdict
  let chains := document.causalChains
  require (verdict.chainCount = chains.length)
    (.semantic transportSchema "$.verdict.chain_count" "must equal the number of causal chains")
  require (verdict.passedChainCount = countStatus .passed chains)
    (.semantic transportSchema "$.verdict.passed_chain_count"
      "must equal the number of passed causal chains")
  require (verdict.failedChainCount = countStatus .failed chains)
    (.semantic transportSchema "$.verdict.failed_chain_count"
      "must equal the number of failed causal chains")
  require (verdict.incompleteChainCount = countStatus .incomplete chains)
    (.semantic transportSchema "$.verdict.incomplete_chain_count"
      "must equal the number of incomplete causal chains")
  require (verdict.errorChainCount = countStatus .error chains)
    (.semantic transportSchema "$.verdict.error_chain_count"
      "must equal the number of errored causal chains")
  let expected ← (expectedTransportStatus document).mapError SemanticFailure.contract
  require (verdict.status = expected) (.semantic transportSchema "$.verdict.status"
    s!"must equal the aggregate transport status '{expected.name}'")

/-- `semantics._validate_transport_qualification`. -/
def validateTransportQualification (document : TransportQualification) :
    Except SemanticFailure Unit := do
  requireUnique document.traceEvidence "domain_id" (·.domainId) "$.trace_evidence"
  require ((document.traceEvidence.map (·.domainId)).toFinset = document.resultDomains)
    (.semantic transportSchema "$.trace_evidence"
      "must contain exactly one trace file for every qualification domain")
  requireUnique document.channelContracts "channel_id" (·.channelId) "$.channel_contracts"
  forM document.channelContracts.zipIdx fun (contract, contractIndex) =>
    require (contract.sourceDomainId ≠ contract.destinationDomainId) (.semantic transportSchema
      s!"$.channel_contracts[{contractIndex}]"
      "cross-domain channel requires distinct source and destination domains")
  requireUnique document.clockRelations "relation_id" (·.relationId) "$.clock_relations"
  require (document.relationPairs.card = document.clockRelations.length)
    (.semantic transportSchema "$.clock_relations"
      "source and destination domain pairs must be unique")
  require (document.relationPairs ⊆ document.expectedRelations)
    (.semantic transportSchema "$.clock_relations"
      "contains a relation outside the channel domain pairs")
  requireUnique document.channelObservations "channel_id" (·.channelId) "$.channel_observations"
  require ((document.channelObservations.map (·.channelId)).toFinset = document.contractIds)
    (.semantic transportSchema "$.channel_observations"
      "must contain exactly one observation for every channel contract")
  requireUnique document.causalChains "chain_id" (·.chainId) "$.causal_chains"
  requireUnique document.causalChainContracts "chain_id" (·.chainId) "$.causal_chain_contracts"
  require ((document.causalChains.map (·.chainId)).toFinset =
      (document.causalChainContracts.map (·.chainId)).toFinset)
    (.semantic transportSchema "$.causal_chains"
      "must contain exactly one result for every causal chain contract")
  forM document.causalChains.zipIdx fun (chain, index) => validateChain document index chain
  require ((document.causalChains.flatMap (·.channelIds)).toFinset = document.contractIds)
    (.semantic transportSchema "$.causal_chains" "must collectively cover every channel contract")
  validateTransportVerdict document

/-- Where the parts of a document demand a passed verdict, all of them have passed. -/
theorem expectedTransportStatus_passed {document : TransportQualification}
    (h : expectedTransportStatus document = .ok .passed) :
    document.relationPairs = document.expectedRelations ∧
      (∀ relation ∈ document.clockRelations, relation.status = .passed) ∧
      (∀ observation ∈ document.channelObservations, observation.status = .passed) ∧
      ∀ chain ∈ document.causalChains, chain.status = .passed := by
  unfold expectedTransportStatus at h
  have hpassed {status : ChannelObservationStatus} (hle : status.toOutcome ≤ .passed) :
      status = .passed :=
    ChannelObservationStatus.toOutcome_injective (le_antisymm hle (OutcomeStatus.passed_le _))
  have hle := ((worstStatus_eq_ok ?_).1 h).2
  · refine ⟨by_contra fun hmissing => ?_, fun relation hm => hpassed (hle _ ?_),
      fun observation hm => hpassed (hle _ ?_), fun chain hm => hpassed (hle _ ?_)⟩
    · have hincomplete := hle .incomplete (by simp [hmissing])
      exact absurd hincomplete (by decide)
    all_goals simp only [List.mem_cons, List.mem_append, List.mem_map]
    · exact .inl (.inl (.inr ⟨relation, hm, rfl⟩))
    · exact .inl (.inr ⟨observation, hm, rfl⟩)
    · exact .inr ⟨chain, hm, rfl⟩
  · simp

/-- What a document that the validator accepts with a passed verdict shows: every pair of domains
is related, whatever is in it has passed, and its chains are sound. -/
theorem validateTransportQualification_passed {document : TransportQualification}
    (h : validateTransportQualification document = .ok ())
    (hpassed : document.verdict.status = .passed) :
    document.relationPairs = document.expectedRelations ∧
      (∀ relation ∈ document.clockRelations, relation.status = .passed) ∧
      (∀ observation ∈ document.channelObservations, observation.status = .passed) ∧
      ∀ chain ∈ document.causalChains, chain.status = .passed ∧ SoundChain document chain ∧
        Distinct HopDocument.transitionId chain.hops := by
  simp only [validateTransportQualification, seq_eq_ok, validateTransportVerdict] at h
  obtain ⟨-, -, -, -, -, -, -, -, -, -, -, -, hchains, -, -, -, -, -, -, hverdict⟩ := h
  obtain ⟨expected, hexpected, hstatus⟩ := bind_eq_ok.1 hverdict
  rw [mapError_eq_ok, ← require_eq_ok.1 hstatus, hpassed] at hexpected
  obtain ⟨hrelated, hrelations, hobservations, hall⟩ := expectedTransportStatus_passed hexpected
  refine ⟨hrelated, hrelations, hobservations, fun chain hm => ?_⟩
  obtain ⟨index, hindex, rfl⟩ := List.mem_iff_getElem.1 hm
  have hentry : (document.causalChains[index], index) ∈ document.causalChains.zipIdx :=
    List.mem_zipIdx_iff_getElem?.2 (List.getElem?_eq_getElem hindex)
  exact ⟨hall _ hm, (validateChain_eq_ok (hall _ hm)).1 (forM_eq_ok.1 hchains _ hentry)⟩

end RoboticsRuntime.Contracts
