import RoboticsRuntime.Harness.Traces.PathSearch

/-!
# The evaluation of a causal chain

`evaluate_causal_chain`: the pairs of every channel of a chain, and when no channel has a violation
of its own, one path of pairs across all channels.
-/

namespace RoboticsRuntime.Harness
open Theory Contracts

/-- `traces.CausalHop`. -/
structure CausalHop where
  channelId : String
  relationship : Relationship
  producer : TraceSpan
  consumer : TraceSpan
  deriving DecidableEq, Repr

/-- `traces.CausalChainEvaluation`. -/
structure CausalChainEvaluation where
  status : ChannelObservationStatus
  rootTraceId : Option String
  traceIds : List String
  channelIds : List String
  hops : List CausalHop
  violations : List (ChainViolation ChainViolationCode)
  deriving DecidableEq, Repr

/-- `_hop`. -/
def hop (contract : TransportChannel) (pair : MessagePair) : CausalHop :=
  ⟨contract.channelId, contract.trace.relationship, pair.1, pair.2⟩

/-- Each channel's earliest delivery, for the channels that have one. -/
def earliestHops (channelContracts : List TransportChannel)
    (pairsByChannel : List (List MessagePair)) : List CausalHop :=
  (channelContracts.zip pairsByChannel).filterMap fun (contract, pairs) =>
    pairs.head?.map (hop contract)

/-- `_connected_hops`. -/
def connectedHops (channelContracts : List TransportChannel)
    (pairsByChannel : List (List MessagePair)) (spans : SpansByDomain) :
    List CausalHop × Option (ChainViolation ChainViolationCode) :=
  match chainPathSearch pairsByChannel (traceGraph spans) with
  | (some path, _) => (channelContracts.zipWith hop path, none)
  | (none, search) =>
    let channelId := channelContracts[search.failedIndex]?.map (·.channelId)
    (earliestHops channelContracts pairsByChannel, some <|
      if search.sawEarlierProducer then
        ⟨.temporalOrderMismatch,
          "the next channel producer starts before the preceding consumer span", channelId⟩
      else
        ⟨.relationshipMismatch,
          "no preceding consumer causally reaches the next channel producer", channelId⟩)

/-- `sorted` of the set of the elements of a list. -/
def sortedSet (items : List String) : List String :=
  items.dedup.insertionSort (· ≤ ·)

@[simp] theorem mem_sortedSet {items : List String} {a : String} :
    a ∈ sortedSet items ↔ a ∈ items := by
  simp [sortedSet]

/-- The trace ids of the two spans of each hop. -/
def hopTraceIds (hops : List CausalHop) : List String :=
  hops.flatMap fun hop => [hop.producer.traceId, hop.consumer.traceId]

/-- The status of a chain with these violations. -/
def chainStatus (violations : List (ChainViolation ChainViolationCode)) :
    ChannelObservationStatus :=
  if violations = [] then .passed
  else if violations.any fun violation => violation.code ≠ .missingSpan then .failed
  else if violations.any fun violation => violation.code = .missingSpan then .incomplete
  else .error

theorem chainStatus_eq_passed {violations : List (ChainViolation ChainViolationCode)} :
    chainStatus violations = .passed ↔ violations = [] := by
  unfold chainStatus
  split
  · simp_all
  · split
    · simp_all
    · split <;> simp_all

/-- The pair lists of the channels, as the search is given them. -/
def pairsByChannel (channelContracts : List TransportChannel) (spans : SpansByDomain) :
    List (List MessagePair) :=
  channelContracts.map fun contract => (channelPairs contract spans).1

/-- The violations of the channels of their own. -/
def channelViolations (channelContracts : List TransportChannel) (spans : SpansByDomain) :
    List (ChainViolation ChainViolationCode) :=
  channelContracts.filterMap fun contract => (channelPairs contract spans).2

/-- The hops of a chain and its violations: those of its channels, or that of the path when no
channel has one. -/
def chainHops (channelContracts : List TransportChannel) (spans : SpansByDomain) :
    List CausalHop × List (ChainViolation ChainViolationCode) :=
  let pairs := pairsByChannel channelContracts spans
  if channelViolations channelContracts spans = [] then
    let (hops, pathViolation) := connectedHops channelContracts pairs spans
    (hops, pathViolation.toList)
  else (earliestHops channelContracts pairs, channelViolations channelContracts spans)

/-- `evaluate_causal_chain`. -/
def evaluateCausalChain (py : PyOps) (chainContract : CausalChainContract)
    (channelContracts : List TransportChannel) (spans : SpansByDomain) :
    Except TraceInputError CausalChainEvaluation := do
  validateTraceSet py spans
  let expectedChannelIds := chainContract.channelContracts.map (·.channelId)
  require (channelContracts.map (·.channelId) = expectedChannelIds)
    ⟨"channel contracts differ from the causal-chain contract"⟩
  let result := chainHops channelContracts spans
  return {
    status := chainStatus result.2
    rootTraceId := result.1.head?.map (·.producer.traceId)
    traceIds := sortedSet (hopTraceIds result.1)
    channelIds := expectedChannelIds
    hops := result.1
    violations := result.2 }

/-- A chain without violation consists of the hops along a path of the search. -/
theorem chainHops_passed {channelContracts : List TransportChannel} {spans : SpansByDomain}
    (h : (chainHops channelContracts spans).2 = []) :
    ∃ path, (chainPathSearch (pairsByChannel channelContracts spans) (traceGraph spans)).1 =
        some path ∧
      (chainHops channelContracts spans).1 = channelContracts.zipWith hop path := by
  unfold chainHops at h ⊢
  dsimp only at h ⊢
  split at h
  · next hc =>
    rw [if_pos hc]
    unfold connectedHops at h ⊢
    cases hs : chainPathSearch (pairsByChannel channelContracts spans) (traceGraph spans) with
    | mk o search =>
      rw [hs] at h
      cases o with
      | some path => exact ⟨path, rfl, rfl⟩
      | none => simp at h
  · next hc => exact absurd h hc

end RoboticsRuntime.Harness
