import RoboticsRuntime.Harness.Aggregate
import RoboticsRuntime.Verify.CausalPath

/-!
# A passed causal chain before the validator

The chain documents of `evaluate_transport_qualification` against the clauses of
`_validate_transport_qualification` for passed chains. Every clause follows from the search
constraints except the last: on a cyclic trace graph the path may cross one producer-consumer
transition for two channels of the chain.
-/

namespace RoboticsRuntime.Harness
open Theory Contracts

/-- The producer and the consumer identity of a pair. -/
def transition (pair : MessagePair) : SpanKey × SpanKey := (pair.1.key, pair.2.key)

/-! ## The evaluation of a passed chain -/

/-- A passed chain consists of the hops along a path of the search. -/
structure PassedChain (contract : CausalChainContract) (channels : List TransportChannel)
    (spans : SpansByDomain) (chain : CausalChainEvaluation) (path : List MessagePair) : Prop where
  identities : Distinct TraceSpan.key spans.values
  expected : channels.map (·.channelId) = contract.channelContracts.map (·.channelId)
  channelIds : chain.channelIds = contract.channelContracts.map (·.channelId)
  found : (chainPathSearch (pairsByChannel channels spans) (traceGraph spans)).1 = some path
  hops : chain.hops = channels.zipWith hop path
  rootTraceId : chain.rootTraceId = chain.hops.head?.map (·.producer.traceId)
  traceIds : chain.traceIds = sortedSet (hopTraceIds chain.hops)

theorem evaluateCausalChain_passed {py : PyOps} {contract : CausalChainContract}
    {channels : List TransportChannel} {spans : SpansByDomain} {chain : CausalChainEvaluation}
    (h : evaluateCausalChain py contract channels spans = .ok chain) (hp : chain.status = .passed) :
    ∃ path, PassedChain contract channels spans chain path := by
  obtain ⟨hset, h⟩ := seq_eq_ok.1 h
  obtain ⟨hids, h⟩ := seq_eq_ok.1 h
  obtain rfl := Except.ok.inj h
  obtain ⟨path, hfound, hhops⟩ := chainHops_passed (chainStatus_eq_passed.1 hp)
  exact ⟨path, validateTraceSet_eq_ok.1 hset, require_eq_ok.1 hids, rfl, hfound, hhops, rfl, rfl⟩

namespace PassedChain
variable {contract : CausalChainContract} {channels : List TransportChannel}
  {spans : SpansByDomain} {chain : CausalChainEvaluation} {path : List MessagePair}

/-- The path takes one pair of each channel. -/
theorem channelPair (h : PassedChain contract channels spans chain path) :
    List.Forall₂ (fun channel pair => ChannelPair channel spans pair) channels path := by
  have hsel := mem_selections_iff.1 (chainPathSearch_sound h.found).1
  rw [pairsByChannel, List.forall₂_map_right_iff] at hsel
  exact hsel.flip.imp fun _ _ hm => channelPair_of_mem hm

/-- The path is the first admissible selection of pairs. -/
theorem first (h : PassedChain contract channels spans chain path) :
    FirstIn (Admissible (traceGraph spans)) (selections (pairsByChannel channels spans))
      (some path) :=
  h.found ▸ chainPathSearch_first (consumersAgree_of_distinct h.identities channels)

end PassedChain

/-! ## The hops of a passed chain in the document -/

section
variable {inputs : TransportInputs} {document : TransportQualification}

/-- The channel contracts of a document are the supplied ones, under distinct names. -/
structure ListsChannels (inputs : TransportInputs) (document : TransportQualification) :
    Prop where
  contracts : document.channelContracts = (sortedChannels inputs).map channelContractReference
  distinct : Distinct (·.data.channelId) inputs.channelContracts

theorem mem_sortedChannels {channel : LoadedChannel} :
    channel ∈ sortedChannels inputs ↔ channel ∈ inputs.channelContracts :=
  List.mem_insertionSort _

namespace ListsChannels
variable {channel : LoadedChannel}

theorem mem (h : ListsChannels inputs document) (hc : channel ∈ inputs.channelContracts) :
    channelContractReference channel ∈ document.channelContracts :=
  h.contracts ▸ List.mem_map_of_mem (mem_sortedChannels.2 hc)

/-- The validator finds every supplied contract under its name. -/
theorem contractById (h : ListsChannels inputs document)
    (hc : channel ∈ inputs.channelContracts) :
    document.contractById channel.data.channelId = .ok (channelContractReference channel) := by
  have hdistinct : Distinct (·.channelId) document.channelContracts := by
    rw [h.contracts, Distinct, List.map_map]
    exact ((List.perm_insertionSort _ _).map _).nodup_iff.2 h.distinct
  exact demand_eq_ok.2 (hdistinct.find?_eq (h.mem hc))

theorem mem_contractIds (h : ListsChannels inputs document)
    (hc : channel ∈ inputs.channelContracts) : channel.data.channelId ∈ document.contractIds :=
  List.mem_toFinset.2 (List.mem_map_of_mem (h.mem hc))

theorem mem_resultDomains (h : ListsChannels inputs document)
    (hc : channel ∈ inputs.channelContracts) :
    channel.data.source.domainId ∈ document.resultDomains ∧
      channel.data.destination.domainId ∈ document.resultDomains := by
  simp only [TransportQualification.resultDomains, List.mem_toFinset, List.mem_flatMap]
  exact ⟨⟨_, h.mem hc, by simp [channelContractReference]⟩,
    ⟨_, h.mem hc, by simp [channelContractReference]⟩⟩

/-- A pair of a channel makes a hop that the validator accepts. -/
theorem soundHop (h : ListsChannels inputs document) (hc : channel ∈ inputs.channelContracts)
    (hset : Distinct TraceSpan.key inputs.spans.values) {pair : MessagePair}
    (hp : ChannelPair channel.data inputs.spans pair) {hopDoc : HopDocument}
    (hd : hopDocument (hop channel.data pair) = .ok hopDoc) : SoundHop document hopDoc := by
  obtain ⟨hsource, hproducer, -⟩ := mem_selectSpans hp.producer_mem
  obtain ⟨hdestination, hconsumer, -⟩ := mem_selectSpans hp.consumer_mem
  obtain ⟨hne, -⟩ := validateTransportChannel_eq_ok.1 channel.accepted
  obtain ⟨producerId, hpid, consumerId, hcid, rfl⟩ := hopDocument_eq_ok.1 hd
  obtain ⟨hs, hd⟩ := h.mem_resultDomains hc
  have hdomains : pair.1.domainId ≠ pair.2.domainId := by
    rw [hproducer, hconsumer]
    exact hne
  refine ⟨⟨_, h.contractById hc, hproducer, hconsumer⟩, ?_, hdomains, fun he => ?_, ?_,
    fun hr => ?_⟩
  · rw [Finset.sdiff_eq_empty_iff_subset]
    intro domain hm
    simp only [HopDocument.domains, hop, Finset.mem_insert, Finset.mem_singleton] at hm
    rcases hm with rfl | rfl
    · rwa [hproducer]
    · rwa [hconsumer]
  · have hspan : pair.1 = pair.2 :=
      hset.eq_of_mem hsource hdestination he
    exact hdomains (by rw [hspan])
  · have := hp.messageId_eq
    rw [show pair.1.messageId = some producerId from hpid,
      show pair.2.messageId = some consumerId from hcid] at this
    exact Option.some.inj this
  · have hrelated := hp.related
    rw [show channel.data.trace.relationship = .parent from hr] at hrelated
    simp only [relationshipMatches, Bool.and_eq_true, decide_eq_true_eq] at hrelated
    exact hrelated.1.symm

/-- Channels whose pairs continue each other continue from domain to domain. -/
theorem continuesFrom (h : ListsChannels inputs document) {next : LoadedChannel}
    (hc : channel ∈ inputs.channelContracts) (hn : next ∈ inputs.channelContracts)
    {pair nextPair : MessagePair} {graph : TraceGraph}
    (hp : ChannelPair channel.data inputs.spans pair)
    (hnp : ChannelPair next.data inputs.spans nextPair)
    (hcontinues : Continues graph pair.2 nextPair) :
    ContinuesFrom document channel.data.channelId next.data.channelId := by
  obtain ⟨-, hconsumer, -⟩ := mem_selectSpans hp.consumer_mem
  obtain ⟨-, hproducer, -⟩ := mem_selectSpans hnp.producer_mem
  exact ⟨_, h.contractById hc, _, h.contractById hn,
    hconsumer.symm.trans (hcontinues.1.symm.trans hproducer)⟩

end ListsChannels

/-! ## The document of a passed chain -/

variable {contract : LoadedChain} {channels : List LoadedChannel} {chain : CausalChainEvaluation}
  {path : List MessagePair} {chainDoc : CausalChainDocument}

/-- The hops of the document, beside the channel and the pair each is made of. -/
theorem PassedChain.hopDocuments
    (h : PassedChain contract.data (channels.map (·.data)) inputs.spans chain path)
    (hd : chainDocument contract chain = .ok chainDoc) :
    List.Forall₂ (fun entry hopDoc => hopDocument (hop entry.1.data entry.2) = .ok hopDoc)
      (channels.zip path) chainDoc.hops := by
  obtain ⟨hops, hm, hd⟩ := bind_eq_ok.1 hd
  obtain rfl := Except.ok.inj hd
  have hhops : chain.hops = (channels.zip path).map fun entry => hop entry.1.data entry.2 := by
    rw [h.hops, List.zipWith_map_left, List.map_zip_eq_zipWith]
    rfl
  rw [hhops, mapM_eq_ok, List.forall₂_map_left_iff] at hm
  exact hm

/-- The parts of a chain document that are copied from the evaluation. -/
theorem chainDocument_eq_ok (hd : chainDocument contract chain = .ok chainDoc) :
    chainDoc.chainId = contract.data.chainId ∧ chainDoc.expectedContractSha256 = contract.sha256 ∧
      chainDoc.channelIds = chain.channelIds ∧ chainDoc.status = chain.status ∧
      chainDoc.rootTraceId = chain.rootTraceId ∧
      chainDoc.traceIds = if chain.traceIds = [] then none else some chain.traceIds := by
  obtain ⟨hops, -, hd⟩ := bind_eq_ok.1 hd
  obtain rfl := Except.ok.inj hd
  exact ⟨rfl, rfl, rfl, rfl, rfl, rfl⟩

/-- The trace clauses hold, because a chain has a channel and so a hop. -/
theorem PassedChain.traces
    (h : PassedChain contract.data (channels.map (·.data)) inputs.spans chain path)
    (hd : chainDocument contract chain = .ok chainDoc) :
    ∃ traceIds, chainDoc.traceIds = some traceIds ∧
      ∃ rootTraceId, chainDoc.rootTraceId = some rootTraceId ∧ rootTraceId ∈ traceIds ∧
      (chainDoc.hops.flatMap fun hop => [hop.producer.traceId, hop.consumer.traceId]).toFinset =
        traceIds.toFinset := by
  obtain ⟨-, -, -, -, hroot, htraces⟩ := chainDocument_eq_ok hd
  have hdocs : chainDoc.hops.flatMap (fun hop => [hop.producer.traceId, hop.consumer.traceId]) =
      hopTraceIds chain.hops := by
    obtain ⟨hops, hm, hd⟩ := bind_eq_ok.1 hd
    obtain rfl := Except.ok.inj hd
    rw [hopTraceIds, List.flatMap_def, List.flatMap_def]
    refine congrArg List.flatten (map_eq_of_forall₂ (fun a b hab => ?_) (mapM_eq_ok.1 hm)).symm
    obtain ⟨_, -, _, -, rfl⟩ := hopDocument_eq_ok.1 hab
    rfl
  have hne : chain.hops ≠ [] := by
    have hlen := congrArg List.length h.expected
    have hpath := h.channelPair.length_eq
    have hpos := List.length_pos_iff.2 contract.data.channelContracts_ne_nil
    rw [h.hops, ← List.length_pos_iff, List.length_zipWith, ← hpath]
    simp only [List.length_map] at hlen ⊢
    omega
  obtain ⟨first, rest, hfirst⟩ := List.exists_cons_of_ne_nil hne
  have hmem : first.producer.traceId ∈ chain.traceIds := by
    rw [h.traceIds, mem_sortedSet, hfirst]
    simp [hopTraceIds]
  refine ⟨chain.traceIds, by rw [htraces, if_neg (List.ne_nil_of_mem hmem)],
    first.producer.traceId, by rw [hroot, h.rootTraceId, hfirst]; rfl, hmem, ?_⟩
  rw [hdocs, h.traceIds]
  ext traceId
  simp

/-- The document of a passed chain is sound, and its transitions are those of the path. -/
theorem PassedChain.soundChain (hlist : ListsChannels inputs document)
    (hcontract : document.chainContractById contract.data.chainId =
      .ok ⟨contract.data.chainId, contract.sha256⟩)
    (hchannels : ∀ channel ∈ channels, channel ∈ inputs.channelContracts)
    (h : PassedChain contract.data (channels.map (·.data)) inputs.spans chain path)
    (hd : chainDocument contract chain = .ok chainDoc) :
    SoundChain document chainDoc ∧
      chainDoc.hops.map HopDocument.transitionId = path.map transition := by
  obtain ⟨hid, hsha, hids, -, -, -⟩ := chainDocument_eq_ok hd
  have hdocs := h.hopDocuments hd
  have hpairs : List.Forall₂ (fun channel pair => ChannelPair channel.data inputs.spans pair)
      channels path := List.forall₂_map_left_iff.1 h.channelPair
  have hlen := hpairs.length_eq
  have hentry : ∀ entry ∈ channels.zip path, entry.1 ∈ inputs.channelContracts ∧
      ChannelPair entry.1.data inputs.spans entry.2 := fun entry hm =>
    ⟨hchannels _ (List.of_mem_zip hm).1, List.forall₂_zip hpairs hm⟩
  have hfst : (channels.zip path).map (·.1.data.channelId) =
      channels.map (·.data.channelId) := by
    have := congrArg (List.map fun channel => channel.data.channelId) (List.map_fst_zip hlen.le)
    rwa [List.map_map] at this
  have hexpected : channels.map (·.data.channelId) = chainDoc.channelIds := by
    rw [hids, h.channelIds, ← h.expected, List.map_map]
    rfl
  have hhopIds : chainDoc.hops.map (·.channelId) = chainDoc.channelIds := by
    rw [← hexpected, ← hfst]
    refine (map_eq_of_forall₂ (fun a b hab => ?_) hdocs).symm
    obtain ⟨_, -, _, -, rfl⟩ := hopDocument_eq_ok.1 hab
    rfl
  have hknown : ∀ channelId ∈ chainDoc.channelIds, channelId ∈ document.contractIds := by
    rw [← hexpected]
    intro channelId hm
    obtain ⟨channel, hc, rfl⟩ := List.mem_map.1 hm
    exact hlist.mem_contractIds (hchannels channel hc)
  refine ⟨⟨?_, ?_, ?_, by rwa [hhopIds], ?_, hhopIds, ?_, h.traces hd, ?_⟩, ?_⟩
  · rw [Finset.sdiff_eq_empty_iff_subset]
    exact fun channelId hm => hknown channelId (List.mem_toFinset.1 hm)
  · exact ⟨_, by rw [hid, hcontract], hsha⟩
  · -- the pairs of the path continue each other, so their channels do
    have hchain := (chainPathSearch_sound h.found).2
    rw [Admissible, ← List.map_snd_zip hlen.ge, List.isChain_map] at hchain
    rw [← hexpected, ← hfst, List.isChain_map]
    refine hchain.imp_of_mem_imp fun a b ha hb hcontinues => ?_
    obtain ⟨hca, hpa⟩ := hentry a ha
    obtain ⟨hcb, hpb⟩ := hentry b hb
    exact hlist.continuesFrom hca hcb hpa hpb hcontinues
  · rw [hhopIds, hids, h.channelIds]
    exact require_eq_ok.1 contract.accepted
  · intro hopDoc hm
    obtain ⟨entry, -, hab⟩ := exists_of_forall₂_mem hdocs hm
    obtain ⟨_, -, _, -, rfl⟩ := hopDocument_eq_ok.1 hab
    rfl
  · intro hopDoc hm
    obtain ⟨entry, he, hab⟩ := exists_of_forall₂_mem hdocs hm
    exact hlist.soundHop (hentry entry he).1 h.identities (hentry entry he).2 hab
  · rw [← List.map_snd_zip hlen.ge, List.map_map]
    refine (map_eq_of_forall₂ (fun a b hab => ?_) hdocs).symm
    obtain ⟨_, -, _, -, rfl⟩ := hopDocument_eq_ok.1 hab
    rfl

/-! ## Acceptance -/

/-- The channels a chain names, in its order. -/
def namedChannels (inputs : TransportInputs) (channelIds : List String) : List TransportChannel :=
  channelIds.filterMap fun channelId =>
    (inputs.channelContracts.find? fun channel => channel.data.channelId = channelId).map (·.data)

/-- The first admissible selection of pairs of the named channels, if any, crosses no transition
for two of them. -/
def FirstPathDistinct (inputs : TransportInputs) (channelIds : List String) : Prop :=
  ∀ selection, FirstIn (Admissible (traceGraph inputs.spans))
    (selections (pairsByChannel (namedChannels inputs channelIds) inputs.spans))
    (some selection) → Distinct transition selection

/-- A resolved chain names its channels. -/
theorem Resolved.namedChannels_eq {chains : List (LoadedChain × List LoadedChannel)}
    (h : Resolved inputs chains) {entry : LoadedChain × List LoadedChannel}
    (hm : entry ∈ chains) :
    namedChannels inputs (entry.1.data.channelContracts.map (·.channelId)) =
      entry.2.map (·.data) := by
  unfold namedChannels
  rw [List.filterMap_map]
  have hch := h.channels entry hm
  generalize entry.1.data.channelContracts = references at hch
  generalize entry.2 = channels at hch
  induction hch with
  | nil => rfl
  | @cons reference channel references channels hc _ ih =>
    have hfind := h.distinct_channels.find?_eq hc.1
    rw [hc.2] at hfind
    rw [List.filterMap_cons_some, ih, List.map_cons]
    simp only [Function.comp_apply, hfind, Option.map_some]

end

variable {py : PyOps} {inputs : TransportInputs} {document : TransportQualification}

/-- Where a chain of a document comes from. -/
theorem exists_evaluated (h : evaluateTransportQualification py inputs = .ok document)
    {chain : CausalChainDocument} (hm : chain ∈ document.causalChains) :
    ListsChannels inputs document ∧ ∃ (contract : LoadedChain) (channels : List LoadedChannel)
      (evaluated : CausalChainEvaluation), document.chainContractById contract.data.chainId =
        .ok ⟨contract.data.chainId, contract.sha256⟩ ∧
      (∀ channel ∈ channels, channel ∈ inputs.channelContracts) ∧
      namedChannels inputs (contract.data.channelContracts.map (·.channelId)) =
        channels.map (·.data) ∧
      evaluateCausalChain py contract.data (channels.map (·.data)) inputs.spans = .ok evaluated ∧
      chainDocument contract evaluated = .ok chain := by
  obtain ⟨chains, observations, chainDocuments, hresolved, -, -, -, hdocs, htail⟩ :=
    evaluateTransportQualification_eq_ok h
  obtain ⟨hcontracts, hchannels, hchains⟩ := qualificationDocument_eq_ok htail
  rw [hchains] at hm
  obtain ⟨entry, he, heval⟩ := exists_of_forall₂_mem hdocs hm
  rw [List.mem_insertionSort] at he
  obtain ⟨evaluated, heval, hd⟩ := bind_eq_ok.1 heval
  refine ⟨⟨hchannels, hresolved.distinct_channels⟩, entry.1, entry.2, evaluated, ?_, ?_,
    hresolved.namedChannels_eq he, mapError_eq_ok.1 heval, hd⟩
  · have hdistinct : Distinct (·.chainId) document.causalChainContracts := by
      rw [hcontracts, Distinct, List.map_map, List.map_map]
      refine ((List.perm_insertionSort _ _).map _).nodup_iff.2 ?_
      have := hresolved.distinct_chains
      rwa [← hresolved.chains_eq, Distinct, List.map_map] at this
    have hmem : (⟨entry.1.data.chainId, entry.1.sha256⟩ : CausalChainReference) ∈
        document.causalChainContracts := by
      rw [hcontracts]
      exact List.mem_map.2 ⟨entry.1, List.mem_map.2
        ⟨entry, (List.mem_insertionSort _).2 he, rfl⟩, rfl⟩
    exact demand_eq_ok.2 (hdistinct.find?_eq hmem)
  · intro channel hc
    obtain ⟨_, -, hmem, -⟩ := exists_of_forall₂_mem (hresolved.channels entry he) hc
    exact hmem

/-- Every passed chain of the document meets every clause of the validator, if and only if the
first admissible selection of pairs crosses no producer-consumer transition twice. -/
theorem passedChain_accepted_iff (h : evaluateTransportQualification py inputs = .ok document)
    {chain : CausalChainDocument} (hm : chain ∈ document.causalChains)
    (hp : chain.status = .passed) (index : ℕ) :
    validateChain document index chain = .ok () ↔ FirstPathDistinct inputs chain.channelIds := by
  obtain ⟨hlist, contract, channels, evaluated, hcontract, hchannels, hnamed, heval, hd⟩ :=
    exists_evaluated h hm
  obtain ⟨-, -, hids, hstatus, -, -⟩ := chainDocument_eq_ok hd
  obtain ⟨path, hpassed⟩ := evaluateCausalChain_passed heval (hstatus.symm.trans hp)
  obtain ⟨hsound, htransitions⟩ := hpassed.soundChain hlist hcontract hchannels hd
  have hfirst := hpassed.first
  rw [validateChain_eq_ok hp, Distinct, htransitions, FirstPathDistinct, hids, hpassed.channelIds,
    hnamed]
  constructor
  · rintro ⟨-, hdist⟩ selection hsel
    obtain rfl := Option.some.inj (hsel.unique hfirst)
    exact hdist
  · exact fun hdist => ⟨hsound, hdist path hfirst⟩

/-! ## Channels without a way back

A path that repeats a transition runs from its consumer back to its producer, so there is none
where the trace graph has no such way. -/

/-- No transition that two channels of the chain have in common lies on a cycle of the trace
graph. -/
def OneWay (inputs : TransportInputs) (channelIds : List String) : Prop :=
  (namedChannels inputs channelIds).Pairwise fun channel other =>
    ∀ pair otherPair, ChannelPair channel inputs.spans pair →
      ChannelPair other inputs.spans otherPair → transition pair = transition otherPair →
        ¬ (traceGraph inputs.spans).Reaches pair.2.key pair.1.key

/-- Every cycle of the graph stays at one span. -/
def Acyclic (graph : TraceGraph) : Prop :=
  ∀ a b, graph.Reaches a b → graph.Reaches b a → a = b

/-- A graph is acyclic where no span starts together with a cause of it. -/
theorem acyclic_of_starts_ne {spans : SpansByDomain} (hset : Distinct TraceSpan.key spans.values)
    (hstarts : ∀ source ∈ spans.values, ∀ span ∈ spans.values, source.key ∈ span.causes →
      source.startTimeUnixNano ≠ span.startTimeUnixNano) : Acyclic (traceGraph spans) := by
  have hunique := hset
  -- what a span reaches starts later
  have hlater : ∀ {a b}, (traceGraph spans).Reaches a b → a = b ∨
      ∃ source ∈ spans.values, ∃ span ∈ spans.values, source.key = a ∧ span.key = b ∧
        source.startTimeUnixNano < span.startTimeUnixNano := by
    intro a b h
    induction h with
    | refl => exact .inl rfl
    | tail _ hedge ih =>
      obtain ⟨middle, hmm, span, hm, hmiddle, hspan, hc, hle⟩ := exists_cause_of_edge hset hedge
      have hlt := lt_of_le_of_ne hle (hstarts middle hmm span hm hc)
      rcases ih with rfl | ⟨source, hs, middle', hmm', hsource, hmiddle', hbefore⟩
      · exact .inr ⟨middle, hmm, span, hm, hmiddle, hspan, hlt⟩
      · obtain rfl := hunique.eq_of_mem hmm hmm' (hmiddle.trans hmiddle'.symm)
        exact .inr ⟨source, hs, span, hm, hsource, hspan, hbefore.trans hlt⟩
  intro a b hab hba
  rcases hlater hab with he | ⟨source, hs, span, hm, hsource, hspan, hlt⟩
  · exact he
  rcases hlater hba with he | ⟨source', hs', span', hm', hsource', hspan', hlt'⟩
  · exact he.symm
  obtain rfl := hunique.eq_of_mem hs hm' (hsource.trans hspan'.symm)
  obtain rfl := hunique.eq_of_mem hm hs' (hspan.trans hsource'.symm)
  exact absurd hlt' hlt.not_gt

/-- The producer of a pair reaches its consumer. -/
theorem ChannelPair.reaches {contract : TransportChannel} {spans : SpansByDomain}
    (hset : Distinct TraceSpan.key spans.values) (hids : ∀ span ∈ spans.values, span.spanId ≠ "")
    {pair : MessagePair} (h : ChannelPair contract spans pair) :
    (traceGraph spans).Reaches pair.1.key pair.2.key := by
  obtain ⟨hs, -, -⟩ := mem_selectSpans h.producer_mem
  obtain ⟨hm, -, -⟩ := mem_selectSpans h.consumer_mem
  refine reaches_of_cause hset hs hm ?_ h.ordered
  have hrelated := h.related
  cases hr : contract.trace.relationship with
  | parent =>
    simp only [hr, relationshipMatches, Bool.and_eq_true, decide_eq_true_eq] at hrelated
    refine List.mem_append_left _ ?_
    rw [if_neg (hrelated.2 ▸ hids _ hs), hrelated.1, hrelated.2]
    exact List.mem_singleton_self _
  | link =>
    simp only [hr, relationshipMatches, List.any_eq_true, Bool.and_eq_true,
      decide_eq_true_eq] at hrelated
    obtain ⟨link, hl, ⟨ht, hi⟩, -⟩ := hrelated
    exact List.mem_append_right _ (List.mem_map.2 ⟨link, hl, by rw [ht, hi]; rfl⟩)

/-- The producer and the consumer of a pair are two spans. -/
theorem ChannelPair.key_ne {channel : LoadedChannel} {spans : SpansByDomain}
    (hset : Distinct TraceSpan.key spans.values) {pair : MessagePair}
    (h : ChannelPair channel.data spans pair) : pair.1.key ≠ pair.2.key := by
  obtain ⟨hs, hsource, -⟩ := mem_selectSpans h.producer_mem
  obtain ⟨hd, hdestination, -⟩ := mem_selectSpans h.consumer_mem
  intro he
  have hspan : pair.1 = pair.2 := hset.eq_of_mem hs hd he
  refine (validateTransportChannel_eq_ok.1 channel.accepted).1 ?_
  exact hsource.symm.trans ((congrArg TraceSpan.domainId hspan).trans hdestination)

theorem exists_of_mem_namedChannels {inputs : TransportInputs} {channelIds : List String}
    {contract : TransportChannel} (h : contract ∈ namedChannels inputs channelIds) :
    ∃ channel : LoadedChannel, channel.data = contract := by
  obtain ⟨channelId, -, hfind⟩ := List.mem_filterMap.1 h
  obtain ⟨channel, -, hdata⟩ := Option.map_eq_some_iff.1 hfind
  exact ⟨channel, hdata⟩

/-- There is no way back in an acyclic trace graph. -/
theorem oneWay_of_acyclic {inputs : TransportInputs} {channelIds : List String}
    (hset : Distinct TraceSpan.key inputs.spans.values)
    (hids : ∀ span ∈ inputs.spans.values, span.spanId ≠ "")
    (hacyclic : Acyclic (traceGraph inputs.spans)) : OneWay inputs channelIds := by
  refine List.Pairwise.imp_of_mem (fun {contract _} hc _ _ => ?_) (List.pairwise_of_forall
    (R := fun _ _ => True) fun _ _ => trivial)
  intro pair otherPair hpair _ _ hback
  obtain ⟨channel, rfl⟩ := exists_of_mem_namedChannels hc
  exact hpair.key_ne hset (hacyclic _ _ (hpair.reaches hset hids) hback)

/-- The pairs of an admissible selection reach the later ones. -/
theorem reaches_of_admissible {spans : SpansByDomain} {channels : List TransportChannel}
    (hset : Distinct TraceSpan.key spans.values) (hids : ∀ span ∈ spans.values, span.spanId ≠ "")
    {selection : List MessagePair}
    (hpairs : List.Forall₂ (fun channel pair => ChannelPair channel spans pair) channels selection)
    (hadmissible : Admissible (traceGraph spans) selection) :
    selection.Pairwise fun a b => (traceGraph spans).Reaches a.2.key b.1.key := by
  -- each pair continues from the one before it and reaches its own consumer
  let Follows (a b : MessagePair) : Prop :=
    (traceGraph spans).Reaches a.2.key b.1.key ∧ (traceGraph spans).Reaches b.1.key b.2.key
  have : Trans Follows Follows Follows :=
    ⟨fun hab hbc => ⟨hab.1.trans (hab.2.trans hbc.1), hbc.2⟩⟩
  have hfollows : selection.IsChain Follows := hadmissible.imp_of_mem_imp fun a b _ hb h => by
    obtain ⟨channel, -, hpair⟩ := exists_of_forall₂_mem hpairs hb
    exact ⟨h.2.2, hpair.reaches hset hids⟩
  exact (List.isChain_iff_pairwise.1 hfollows).imp And.left

theorem firstPathDistinct_of_oneWay {inputs : TransportInputs} {channelIds : List String}
    (hset : Distinct TraceSpan.key inputs.spans.values)
    (hids : ∀ span ∈ inputs.spans.values, span.spanId ≠ "")
    (honeWay : OneWay inputs channelIds) : FirstPathDistinct inputs channelIds := by
  intro selection hsel
  have hpairs : List.Forall₂ (fun channel pair => ChannelPair channel inputs.spans pair)
      (namedChannels inputs channelIds) selection := by
    have hmem := mem_selections_iff.1 hsel.mem
    rw [pairsByChannel, List.forall₂_map_right_iff] at hmem
    exact hmem.flip.imp fun _ _ hm => channelPair_of_mem hm
  have hreaches := reaches_of_admissible hset hids hpairs hsel.holds
  rw [Distinct, List.Nodup, List.pairwise_map]
  refine (pairwise_and_of_forall₂ hpairs honeWay hreaches).imp ?_
  rintro pair otherPair ⟨channel, other, hpair, hother, hno, hreach⟩ he
  -- the later pair starts again at the producer of the earlier one
  have hproducer : pair.1.key = otherPair.1.key := (Prod.mk.inj he).1
  exact hno pair otherPair hpair hother he (hproducer ▸ hreach)

/-- Every passed chain of the document meets every clause of the validator where no transition that
two of its channels have in common lies on a cycle of the trace graph. Span ids are not empty, as
the OTLP reader demands. -/
theorem passedChain_accepted_of_oneWay
    (h : evaluateTransportQualification py inputs = .ok document)
    (hids : ∀ span ∈ inputs.spans.values, span.spanId ≠ "")
    {chain : CausalChainDocument} (hm : chain ∈ document.causalChains)
    (hp : chain.status = .passed) (honeWay : OneWay inputs chain.channelIds) (index : ℕ) :
    validateChain document index chain = .ok () := by
  obtain ⟨-, contract, channels, evaluated, -, -, -, heval, hd⟩ := exists_evaluated h hm
  obtain ⟨-, -, -, hstatus, -, -⟩ := chainDocument_eq_ok hd
  obtain ⟨path, hpassed⟩ := evaluateCausalChain_passed heval (hstatus.symm.trans hp)
  exact (passedChain_accepted_iff h hm hp index).2
    (firstPathDistinct_of_oneWay hpassed.identities hids honeWay)

/-! ## Examples

Channels between the domains `a` and `b` and four spans, each caused by the one before it. When
the first is also caused by the last, a chain may cross the first two again. -/

def examplePy : PyOps := ⟨id, toString, toString, fun text => "'" ++ text ++ "'"⟩

def exampleDelivery : Delivery where
  observationWindowSec := 10
  minimumSourceMessages := 1
  maxLossRatio := 0
  maxDuplicateCount := 0
  maxOutOfOrderCount := 0
  maxMessageAgeMs := 100
  observationWindowSec_pos := by norm_num
  minimumSourceMessages_pos := le_rfl
  maxLossRatio_nonneg := le_rfl
  maxLossRatio_le_one := zero_le_one
  maxMessageAgeMs_nonneg := by norm_num

def exampleEndpoint (forward : Bool) : ChannelEndpoint :=
  if forward then ⟨"a", 1, "/topic", "std_msgs/String", "hash"⟩
  else ⟨"b", 2, "/topic", "std_msgs/String", "hash"⟩

/-- A channel from `a` to `b`, or back. -/
def exampleChannel (channelId : String) (forward : Bool) : LoadedChannel where
  data := ⟨channelId, exampleEndpoint forward, exampleEndpoint (!forward), exampleDelivery,
    ⟨.link, "send", "receive"⟩⟩
  sha256 := channelId
  accepted := by cases forward <;> rfl

/-- One chain over all channels. -/
def exampleInputs (channels : List LoadedChannel) (chain : LoadedChain) (spans : SpansByDomain) :
    TransportInputs where
  runId := "run"
  scenarioSha256 := "scenario"
  clockPolicy := ⟨1, 1⟩
  chainContracts := [chain]
  channelContracts := channels
  spans := spans
  evidenceSha256ByDomain := []
  clockRelations := []
  evaluatedAt := .epoch
  observationId := id
  observationSha256 := fun document => document.observationId

/-- The chain of three channels that goes to `b`, back to `a` and to `b` again. -/
private def returningChain : LoadedChain where
  data := ⟨"chain", ["a", "b"], [⟨"x", "x"⟩, ⟨"y", "y"⟩, ⟨"z", "z"⟩], by decide⟩
  sha256 := "chain"
  accepted := by rfl

private def cyclicSpans : SpansByDomain where
  domains := [("a", [exampleSpan "p" "send" "a" 1 ["r"], exampleSpan "r" "receive" "a" 1 ["q"]]),
    ("b", [exampleSpan "c" "receive" "b" 1 ["p"], exampleSpan "q" "send" "b" 1 ["c"]])]
  distinct := by decide
  domainId_eq := by decide

private def cyclicInputs : TransportInputs :=
  exampleInputs [exampleChannel "x" true, exampleChannel "y" false, exampleChannel "z" true]
    returningChain cyclicSpans

theorem passedChain_rejected :
    ¬ ∀ (py : PyOps) (inputs : TransportInputs) (document : TransportQualification),
      evaluateTransportQualification py inputs = .ok document →
        ∀ chain ∈ document.causalChains, chain.status = .passed →
          ∀ index, validateChain document index chain = .ok () := by
  intro h
  obtain ⟨document, he, hcheck⟩ := exists_ok_of_any (by decide +kernel :
    (evaluateTransportQualification examplePy cyclicInputs).toOption.any (fun document =>
      document.causalChains.any fun chain => chain.status = .passed &&
        (validateChain document 0 chain).toOption.isNone) = true)
  obtain ⟨chain, hm, hchain⟩ := List.any_eq_true.1 hcheck
  simp only [Bool.and_eq_true, decide_eq_true_eq] at hchain
  rw [h _ _ _ he chain hm hchain.1 0] at hchain
  exact absurd hchain.2 (by decide)

/-- The same domains crossed by two messages, and by spans that start one after another. -/
private def returningSpans : SpansByDomain where
  domains := [("a", [exampleSpan "p" "send" "a" 1 [], exampleSpan "r" "receive" "a" 4 ["q"],
      { exampleSpan "s" "send" "a" 5 ["r"] with messageId := some "n" }]),
    ("b", [exampleSpan "c" "receive" "b" 2 ["p"], exampleSpan "q" "send" "b" 3 ["c"],
      { exampleSpan "d" "receive" "b" 6 ["s"] with messageId := some "n" }])]
  distinct := by decide
  domainId_eq := by decide

private def returningInputs : TransportInputs :=
  exampleInputs [exampleChannel "x" true, exampleChannel "y" false, exampleChannel "z" true]
    returningChain returningSpans

theorem passedChain_accepted_of_oneWay_returning :
    ∃ document, evaluateTransportQualification examplePy returningInputs = .ok document ∧
      ∃ chain ∈ document.causalChains, chain.status = .passed ∧
        validateChain document 0 chain = .ok () := by
  obtain ⟨document, he, hcheck⟩ := exists_ok_of_any (by decide +kernel :
    (evaluateTransportQualification examplePy returningInputs).toOption.any fun document =>
      document.causalChains.any fun chain => chain.status = .passed)
  obtain ⟨chain, hm, hchain⟩ := List.any_eq_true.1 hcheck
  have hids : ∀ span ∈ returningInputs.spans.values, span.spanId ≠ "" := by decide
  have hset : Distinct TraceSpan.key returningInputs.spans.values := by decide +kernel
  refine ⟨document, he, chain, hm, of_decide_eq_true hchain,
    passedChain_accepted_of_oneWay he hids hm (of_decide_eq_true hchain)
      (oneWay_of_acyclic hset hids (acyclic_of_starts_ne hset ?_)) 0⟩
  decide +kernel

end RoboticsRuntime.Harness
