import Mathlib.Data.Prod.Lex
import Mathlib.Data.List.Sort
import RoboticsRuntime.Contracts.Transport

/-!
# Trace spans and the spans of a channel

`traces.py`: the spans of a run by domain, the spans a channel contract selects as producers and
consumers, and the message-correlated pairs of a channel. `SpansByDomain` carries what
`load_otlp_json_traces` establishes, that every span is filed under its own domain.
-/

namespace RoboticsRuntime.Harness
open Theory Contracts

/-- `traces.TraceInputError`. -/
structure TraceInputError where
  message : String
  deriving DecidableEq, Repr

/-- `traces.TraceLink`. -/
structure TraceLink where
  traceId : String
  spanId : String
  messageId : Option String
  deriving DecidableEq, Repr

/-- `traces.TraceSpan`. -/
structure TraceSpan where
  traceId : String
  spanId : String
  parentSpanId : String
  name : String
  runId : String
  domainId : String
  messageId : Option String
  startTimeUnixNano : ℕ
  endTimeUnixNano : ℕ
  links : List TraceLink
  destination : Option String
  deriving DecidableEq, Repr

/-- A span identity: trace and span id. -/
abbrev SpanKey := String × String

/-- `_span_key`. -/
def TraceSpan.key (span : TraceSpan) : SpanKey := (span.traceId, span.spanId)

/-- A producer and a consumer of one message. -/
abbrev MessagePair := TraceSpan × TraceSpan

/-- `spans_by_domain`, as `load_otlp_json_traces` fills it for each domain. -/
structure SpansByDomain where
  domains : List (String × List TraceSpan)
  distinct : Distinct (·.1) domains
  domainId_eq : ∀ entry ∈ domains, ∀ span ∈ entry.2, span.domainId = entry.1

namespace SpansByDomain
variable (spans : SpansByDomain)

/-- `spans_by_domain.get(domain, ())`. -/
def get (domain : String) : List TraceSpan :=
  ((spans.domains.find? fun entry => entry.1 = domain).map (·.2)).getD []

/-- Every span of every domain. -/
def values : List TraceSpan := spans.domains.flatMap (·.2)

variable {spans}

theorem mem_get {domain : String} {span : TraceSpan} (h : span ∈ spans.get domain) :
    span ∈ spans.values ∧ span.domainId = domain := by
  unfold get at h
  cases hf : spans.domains.find? fun entry => entry.1 = domain with
  | none => simp [hf] at h
  | some entry =>
    simp only [hf, Option.map_some, Option.getD_some] at h
    have hm := List.mem_of_find?_eq_some hf
    have hd : entry.1 = domain := by simpa using List.find?_some hf
    exact ⟨List.mem_flatMap.2 ⟨entry, hm, h⟩, (spans.domainId_eq entry hm span h).trans hd⟩

end SpansByDomain

/-- `validate_trace_set`, over the spans still to visit and the identities seen so far. -/
def validateTraceSetFrom (py : PyOps) : List (SpanKey × String) → List (String × TraceSpan) →
    Except TraceInputError Unit
  | _, [] => .ok ()
  | identities, (domainId, span) :: spans =>
    match identities.lookup span.key with
    | some previousDomain => .error {
        message := s!"span identity {span.traceId}/{span.spanId} appears in domains "
          ++ py.text previousDomain ++ " and " ++ py.text domainId }
    | none => validateTraceSetFrom py ((span.key, domainId) :: identities) spans

/-- `validate_trace_set`. -/
def validateTraceSet (py : PyOps) (spans : SpansByDomain) : Except TraceInputError Unit :=
  validateTraceSetFrom py []
    (spans.domains.flatMap fun entry => entry.2.map fun span => (entry.1, span))

theorem validateTraceSetFrom_eq_ok {py : PyOps} {identities : List (SpanKey × String)}
    {spans : List (String × TraceSpan)} :
    validateTraceSetFrom py identities spans = .ok () ↔
      (spans.map (·.2.key)).Nodup ∧ ∀ s ∈ spans, s.2.key ∉ identities.map (·.1) := by
  induction spans generalizing identities with
  | nil => simp [validateTraceSetFrom]
  | cons s spans ih =>
    obtain ⟨domainId, span⟩ := s
    unfold validateTraceSetFrom
    cases hl : identities.lookup span.key with
    | some d =>
      have : span.key ∈ identities.map (·.1) := by
        by_contra hc
        rw [List.lookup_eq_none_iff.2] at hl
        · cases hl
        · intro p hp
          simpa using fun he => hc (List.mem_map.2 ⟨p, hp, he.symm⟩)
      simp only [List.mem_cons, forall_eq_or_imp]
      exact ⟨fun h => (nomatch h), fun h => absurd this h.2.1⟩
    | none =>
      have : span.key ∉ identities.map (·.1) := by
        intro hc
        obtain ⟨p, hp, he⟩ := List.mem_map.1 hc
        have := List.lookup_eq_none_iff.1 hl p hp
        simp [he] at this
      simp only [ih, List.map_cons, List.nodup_cons, List.mem_cons, forall_eq_or_imp, List.mem_map,
        not_or]
      constructor
      · rintro ⟨h1, h2⟩
        refine ⟨⟨?_, h1⟩, by simpa using this, fun s hs => (h2 s hs).2⟩
        rintro ⟨s, hs, he⟩
        exact (h2 s hs).1 he
      · rintro ⟨⟨h1, h2⟩, -, h3⟩
        exact ⟨h2, fun s hs => ⟨fun he => h1 ⟨s, hs, he⟩, h3 s hs⟩⟩

/-- The accepted trace sets are those whose span identities are distinct. -/
theorem validateTraceSet_eq_ok {py : PyOps} {spans : SpansByDomain} :
    validateTraceSet py spans = .ok () ↔ Distinct TraceSpan.key spans.values := by
  have hmap : (spans.domains.flatMap fun entry => entry.2.map fun span => (entry.1, span)).map
      (·.2.key) = spans.values.map TraceSpan.key := by
    simp [SpansByDomain.values, List.map_flatMap, Function.comp_def]
  simp [validateTraceSet, validateTraceSetFrom_eq_ok, hmap, Distinct]

/-! ## The spans of a channel -/

/-- One side of a channel: domain, span name and topic. -/
structure EndpointSpan where
  domain : String
  name : String
  topic : String
  deriving DecidableEq, Repr

/-- `_endpoint_spans`: the producer and the consumer side. -/
def endpointSpans (contract : TransportChannel) : EndpointSpan × EndpointSpan :=
  (⟨contract.source.domainId, contract.trace.producerSpanName, contract.source.topic⟩,
    ⟨contract.destination.domainId, contract.trace.consumerSpanName, contract.destination.topic⟩)

/-- The spans one side of a channel selects. -/
def selectSpans (spans : SpansByDomain) (side : EndpointSpan) : List TraceSpan :=
  (spans.get side.domain).filter fun span =>
    span.name = side.name && (span.destination = none || span.destination = some side.topic)

/-- `_channel_spans`: producers and consumers. -/
def channelSpans (contract : TransportChannel) (spans : SpansByDomain) :
    List TraceSpan × List TraceSpan :=
  (selectSpans spans (endpointSpans contract).1, selectSpans spans (endpointSpans contract).2)

theorem mem_selectSpans {spans : SpansByDomain} {side : EndpointSpan} {span : TraceSpan}
    (h : span ∈ selectSpans spans side) :
    span ∈ spans.values ∧ span.domainId = side.domain ∧ span.name = side.name := by
  obtain ⟨hm, hn⟩ := List.mem_filter.1 h
  obtain ⟨hv, hd⟩ := SpansByDomain.mem_get hm
  simp only [Bool.and_eq_true, decide_eq_true_eq] at hn
  exact ⟨hv, hd, hn.1⟩

/-- Every side of every channel. -/
def allEndpointSpans (contracts : List TransportChannel) : List EndpointSpan :=
  contracts.flatMap fun contract => [(endpointSpans contract).1, (endpointSpans contract).2]

/-- `require_attributable_channels`. -/
def requireAttributableChannels (py : PyOps) (contracts : List TransportChannel)
    (spans : SpansByDomain) : Except TraceInputError Unit :=
  let sides := allEndpointSpans contracts
  let keys :=
    (sides.map fun side => toLex (side.domain, side.name)).dedup.insertionSort (· ≤ ·)
  forM keys fun key => do
    let (domain, name) := ofLex key
    let declared :=
      ((sides.filter fun side => side.domain = domain && side.name = name).map (·.topic)).dedup
    let unattributed :=
      (spans.get domain).countP fun span => span.name = name && span.destination = none
    let topics := reprList py (declared.insertionSort (· ≤ ·))
    require (declared.length < 2 ∨ unattributed = 0) {
      message := toString unattributed ++ " spans named " ++ py.text name ++ " in domain "
        ++ py.text domain ++ " lack messaging.destination.name; channels on topics " ++ topics
        ++ " cannot be told apart" }

/-! ## The pairs of a channel -/

/-- `traces.ChainViolation`, over the codes of a causal chain or of a channel observation. -/
structure ChainViolation (Code : Type) where
  code : Code
  message : String
  channelId : Option String
  deriving DecidableEq, Repr

/-- The codes `evaluate_causal_chain` reports. -/
inductive ChainViolationCode where
  | missingSpan
  | messageIdMismatch
  | relationshipMismatch
  | temporalOrderMismatch
  deriving DecidableEq, Repr

/-- The spelling of a code in documents. -/
def ChainViolationCode.name : ChainViolationCode → String
  | missingSpan => "missing_span"
  | messageIdMismatch => "message_id_mismatch"
  | relationshipMismatch => "relationship_mismatch"
  | temporalOrderMismatch => "temporal_order_mismatch"

/-- `_relationship_matches`. -/
def relationshipMatches (relationship : Relationship) (producer consumer : TraceSpan) : Bool :=
  match relationship with
  | .parent => consumer.traceId = producer.traceId && consumer.parentSpanId = producer.spanId
  | .link => consumer.links.any fun link =>
      link.traceId = producer.traceId && link.spanId = producer.spanId &&
        (link.messageId = none || link.messageId = producer.messageId)

/-- The sort key of a pair: consumer and producer start, then their span ids. -/
def pairKey (pair : MessagePair) : ℕ ×ₗ ℕ ×ₗ String ×ₗ String :=
  toLex (pair.2.startTimeUnixNano, toLex (pair.1.startTimeUnixNano,
    toLex (pair.1.spanId, pair.2.spanId)))

/-- The producer-consumer pairs that carry one message id. -/
def messagePairs (producers consumers : List TraceSpan) : List MessagePair :=
  producers.flatMap fun producer =>
    (consumers.filter fun consumer =>
      producer.messageId ≠ none && producer.messageId = consumer.messageId).map (producer, ·)

theorem mem_messagePairs {producers consumers : List TraceSpan} {pair : MessagePair} :
    pair ∈ messagePairs producers consumers ↔
      pair.1 ∈ producers ∧ pair.2 ∈ consumers ∧ pair.1.messageId ≠ none ∧
        pair.1.messageId = pair.2.messageId := by
  obtain ⟨p, c⟩ := pair
  simp only [messagePairs, List.mem_flatMap, List.mem_map, List.mem_filter, Bool.and_eq_true,
    decide_eq_true_eq, Prod.mk.injEq]
  constructor
  · rintro ⟨_, hp, _, ⟨hc, h⟩, rfl, rfl⟩
    exact ⟨hp, hc, h⟩
  · rintro ⟨hp, hc, h⟩
    exact ⟨p, hp, c, ⟨hc, h⟩, rfl, rfl⟩

/-- `_channel_pairs`: the correlated pairs of a channel, earliest delivery first, or why there are
none. -/
def channelPairs (contract : TransportChannel) (spans : SpansByDomain) :
    List MessagePair × Option (ChainViolation ChainViolationCode) :=
  let channelId := some contract.channelId
  let (producers, consumers) := channelSpans contract spans
  if producers = [] then ([], some ⟨.missingSpan, "producer span is absent", channelId⟩)
  else if consumers = [] then ([], some ⟨.missingSpan, "consumer span is absent", channelId⟩)
  else
    let pairs := messagePairs producers consumers
    let relationship := contract.trace.relationship
    let broken := pairs.filter fun pair => !relationshipMatches relationship pair.1 pair.2
    if pairs = [] then
      ([], some ⟨.messageIdMismatch, "producer and consumer have no common messaging.message.id",
        channelId⟩)
    else if broken ≠ [] then
      ([], some ⟨.relationshipMismatch, s!"{broken.length} correlated producer-consumer pairs "
        ++ s!"violate '{relationship.name}'", channelId⟩)
    else if pairs.any fun pair => pair.2.startTimeUnixNano < pair.1.startTimeUnixNano then
      ([], some ⟨.temporalOrderMismatch, "a consumer span starts before its producer span",
        channelId⟩)
    else (pairs.insertionSort fun a b => pairKey a ≤ pairKey b, none)

/-- What a pair of a channel without violation is: a producer and a consumer the contract selects,
with one message id, related as the contract says and in temporal order. -/
structure ChannelPair (contract : TransportChannel) (spans : SpansByDomain) (pair : MessagePair) :
    Prop where
  producer_mem : pair.1 ∈ selectSpans spans (endpointSpans contract).1
  consumer_mem : pair.2 ∈ selectSpans spans (endpointSpans contract).2
  messageId_ne_none : pair.1.messageId ≠ none
  messageId_eq : pair.1.messageId = pair.2.messageId
  related : relationshipMatches contract.trace.relationship pair.1 pair.2 = true
  ordered : pair.1.startTimeUnixNano ≤ pair.2.startTimeUnixNano

theorem channelPair_of_mem {contract : TransportChannel} {spans : SpansByDomain}
    {pair : MessagePair} (h : pair ∈ (channelPairs contract spans).1) :
    ChannelPair contract spans pair := by
  unfold channelPairs at h
  dsimp only [channelSpans] at h
  split at h
  · cases h
  split at h
  · cases h
  split at h
  · cases h
  split at h
  · cases h
  split at h
  · cases h
  next hbroken htime =>
    rw [List.mem_insertionSort] at h
    obtain ⟨hp, hc, hn, he⟩ := mem_messagePairs.1 h
    simp only [List.any_eq_true, decide_eq_true_eq, not_exists, not_and, not_lt] at htime
    simp only [ne_eq, not_not, List.filter_eq_nil_iff, Bool.not_eq_true', Bool.not_eq_false]
      at hbroken
    exact ⟨hp, hc, hn, he, hbroken pair h, htime pair h⟩

end RoboticsRuntime.Harness
