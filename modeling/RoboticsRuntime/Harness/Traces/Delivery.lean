import RoboticsRuntime.Theory.Grouping
import RoboticsRuntime.Harness.Traces.Spans

/-!
# The delivery of one channel

`evaluate_channel_delivery`: the spans of a channel inside its observation window, the counters
that follow from the groups of equal message ids, and the violations of the delivery policy.
-/

namespace RoboticsRuntime.Harness
open Theory Contracts

/-- `traces.ChannelObservationEvaluation`. -/
structure ChannelObservationEvaluation where
  status : ChannelObservationStatus
  startedAtNs : ℕ
  finishedAtNs : ℕ
  sentCount : ℕ
  receivedCount : ℕ
  lostCount : ℕ
  duplicateCount : ℕ
  outOfOrderCount : ℕ
  lossRatio : ℚ
  maxMessageAgeMs : ℚ
  violations : List (ChainViolation ChannelViolationCode)
  deriving DecidableEq, Repr

/-- The `KeyError` of a violation code without a message. -/
structure MissingMessage where
  code : ChannelViolationCode
  deriving DecidableEq, Repr

/-- The codes of a list of violations. -/
def violationCodes (violations : List (ChainViolation ChannelViolationCode)) :
    Finset ChannelViolationCode :=
  (violations.map (·.code)).toFinset

/-! ## The observation window -/

/-- The least start of some spans. -/
def minStart (spans : List TraceSpan) : ℕ :=
  ((spans.map (·.startTimeUnixNano)).min?).getD 0

/-- `int(float(delivery["observation_window_sec"]) * 1_000_000_000)`. -/
def windowDurationNs (py : PyOps) (delivery : Delivery) : ℕ :=
  ⌊py.fl (py.fl delivery.observationWindowSec * 1000000000)⌋.toNat

/-- The spans of a channel and the window that starts with the first producer, or with the first
span when no producer was observed. -/
structure DeliveryWindow where
  allProducers : List TraceSpan
  allConsumers : List TraceSpan
  startNs : ℕ
  endNs : ℕ

def deliveryWindow (py : PyOps) (contract : TransportChannel) (spans : SpansByDomain) :
    DeliveryWindow :=
  let (producers, consumers) := channelSpans contract spans
  let startNs := if producers ≠ [] then minStart producers else minStart (producers ++ consumers)
  { allProducers := producers
    allConsumers := consumers
    startNs
    endNs := startNs + windowDurationNs py contract.delivery }

namespace DeliveryWindow
variable (w : DeliveryWindow)

def allSpans : List TraceSpan := w.allProducers ++ w.allConsumers

/-- A span that starts and ends inside the window. -/
def contains (span : TraceSpan) : Bool :=
  w.startNs ≤ span.startTimeUnixNano && span.endTimeUnixNano ≤ w.endNs

/-- `outside_window`. -/
def outside : List TraceSpan := w.allSpans.filter fun span => !w.contains span

def producers : List TraceSpan := w.allProducers.filter w.contains

def consumers : List TraceSpan := w.allConsumers.filter w.contains

/-- A span inside the window does not carry the message id. -/
def unidentified : Bool := (w.producers ++ w.consumers).any fun span => span.messageId = none

end DeliveryWindow

/-! ## Groups of equal message ids -/

/-- `str(span.message_id)`. -/
def messageText (span : TraceSpan) : String := span.messageId.getD "None"

/-- `groups.get(message_id, ())`. -/
def groupOf (gs : List (String × List TraceSpan)) (messageId : String) : List TraceSpan :=
  (gs.lookup messageId).getD []

/-- The elements of each group of `items` beyond those of the same group of `others`, summed. -/
def excess (items others : List (String × List TraceSpan)) : ℕ :=
  (items.map fun g => g.2.length - (groupOf others g.1).length).sum

/-- The sort key of the spans of one message: start, trace and span id. -/
def groupKey (span : TraceSpan) : ℕ ×ₗ String ×ₗ String :=
  toLex (span.startTimeUnixNano, toLex (span.traceId, span.spanId))

/-- The sort key of the spans of a channel: start, message id, trace and span id. -/
def orderKey (span : TraceSpan) : ℕ ×ₗ String ×ₗ String ×ₗ String :=
  toLex (span.startTimeUnixNano, toLex (messageText span, toLex (span.traceId, span.spanId)))

def sortGroup (items : List TraceSpan) : List TraceSpan :=
  items.insertionSort fun a b => groupKey a ≤ groupKey b

/-- `matched`: within each message id the earliest producer with the earliest consumer, and on. -/
def matchGroups (producers consumers : List (String × List TraceSpan)) : List MessagePair :=
  producers.flatMap fun g => (sortGroup g.2).zip (sortGroup (groupOf consumers g.1))

/-- `producer_order[key]`: the position among the ordered producers, the last one of a repeated
identity. -/
def producerOrder (producers : List TraceSpan) (key : SpanKey) : ℕ :=
  let ordered := producers.insertionSort fun a b => orderKey a ≤ orderKey b
  ((ordered.zipIdx.reverse.find? fun entry => entry.1.key = key).map (·.2)).getD 0

/-- `received_order`: the producer positions in the order of their consumers. -/
def receivedOrder (producers : List TraceSpan) (pairs : List MessagePair) : List ℕ :=
  (pairs.insertionSort fun a b => orderKey a.2 ≤ orderKey b.2).map fun pair =>
    producerOrder producers pair.1.key

/-- The number of positions below the highest one seen before them. -/
def countOutOfOrder : ℤ → List ℕ → ℕ
  | _, [] => 0
  | highestSeen, index :: rest =>
    (if (index : ℤ) < highestSeen then 1 else 0) + countOutOfOrder (max highestSeen index) rest

/-- The age of a delivered message, from the end of its producer to the start of its consumer. -/
def messageAgeMs (py : PyOps) (pair : MessagePair) : ℚ :=
  py.fl (((pair.2.startTimeUnixNano : ℤ) - pair.1.endTimeUnixNano : ℤ) / 1000000)

/-- `max(message_ages, default=0.0)`. -/
def maxAge (ages : List ℚ) : ℚ := ages.max?.getD 0

/-! ## Violations -/

/-- `messages[code]`. -/
def deliveryMessage (py : PyOps) (delivery : Delivery) (c : DeliveryCounters) :
    ChannelViolationCode → Except MissingMessage String
  | .insufficientMessages => .ok <|
    s!"observed {c.sentCount} source messages; requires {delivery.minimumSourceMessages}"
  | .lossRatioExceeded => .ok <|
    "loss ratio " ++ py.number c.lossRatio ++ " exceeds " ++ py.declared delivery.maxLossRatio
  | .duplicateCountExceeded => .ok <|
    s!"duplicate count {c.duplicateCount} exceeds {delivery.maxDuplicateCount}"
  | .outOfOrderCountExceeded => .ok <|
    s!"out-of-order count {c.outOfOrderCount} exceeds {delivery.maxOutOfOrderCount}"
  | .messageAgeExceeded => .ok <|
    "message age " ++ py.number c.maxMessageAgeMs ++ " ms exceeds "
      ++ py.declared delivery.maxMessageAgeMs ++ " ms"
  | code => .error ⟨code⟩

/-- `matched` of the producers and consumers inside the window. -/
def DeliveryWindow.matched (w : DeliveryWindow) : List MessagePair :=
  matchGroups (groups messageText w.producers) (groups messageText w.consumers)

/-- The violations found before the counters are compared with the policy. -/
def structuralViolations (py : PyOps) (contract : TransportChannel) (w : DeliveryWindow) :
    List (ChainViolation ChannelViolationCode) :=
  let channelId := some contract.channelId
  let ambiguousIds := (((groups messageText w.producers).filter fun g => 1 < g.2.length).map
    (·.1)).insertionSort (· ≤ ·)
  (if w.outside ≠ [] then
    [⟨.observationWindowExceeded, s!"{w.outside.length} channel spans fall outside the declared "
      ++ py.declared contract.delivery.observationWindowSec ++ " second observation window",
      channelId⟩] else []) ++
  (if ambiguousIds ≠ [] then
    [⟨.ambiguousMessageId, "producer message identifiers are not unique: "
      ++ reprList py ambiguousIds, channelId⟩] else []) ++
  (if (w.matched.map (messageAgeMs py)).any (· < 0) then
    [⟨.invalidObservation, "consumer timestamp precedes producer completion", channelId⟩] else [])

/-- The counters measured from the spans inside a window in which every span is identified. -/
def measuredCounters (py : PyOps) (w : DeliveryWindow) : DeliveryCounters :=
  let producerGroups := groups messageText w.producers
  let consumerGroups := groups messageText w.consumers
  let lostCount := excess producerGroups consumerGroups
  { sentCount := w.producers.length
    lossRatio := if w.producers ≠ [] then py.fl (lostCount / w.producers.length) else 0
    duplicateCount := excess consumerGroups producerGroups
    outOfOrderCount := countOutOfOrder (-1) (receivedOrder w.producers w.matched)
    maxMessageAgeMs := maxAge (w.matched.map (messageAgeMs py))
    observationDurationSec := py.fl (((w.endNs : ℤ) - w.startNs : ℤ) / 1000000000) }

/-- The violation of a derived code. -/
def derivedViolation (py : PyOps) (contract : TransportChannel) (c : DeliveryCounters)
    (code : ChannelViolationCode) :
    Except MissingMessage (ChainViolation ChannelViolationCode) := do
  let message ← deliveryMessage py contract.delivery c code
  return ⟨code, message, some contract.channelId⟩

/-- `existing_codes`. -/
def structuralCodes (py : PyOps) (contract : TransportChannel) (w : DeliveryWindow) :
    Finset ChannelViolationCode :=
  violationCodes (structuralViolations py contract w)

/-- `derived_codes`. -/
def derivedCodes (py : PyOps) (contract : TransportChannel) (w : DeliveryWindow) :
    Finset ChannelViolationCode :=
  deriveChannelViolations contract.delivery (measuredCounters py w) (structuralCodes py contract w)

/-- The violations of a window in which every span is identified. -/
def measuredViolations (py : PyOps) (contract : TransportChannel) (w : DeliveryWindow) :
    Except MissingMessage (List (ChainViolation ChannelViolationCode)) := do
  let codes := derivedCodes py contract w \ structuralCodes py contract w
  let derived ← (ChannelViolationCode.sorted codes).mapM
    (derivedViolation py contract (measuredCounters py w))
  return structuralViolations py contract w ++ derived

/-- The structural codes are error codes, and the window code is among them when a span lies
outside the window. -/
theorem structuralCodes_spec {py : PyOps} {contract : TransportChannel} {w : DeliveryWindow} :
    structuralCodes py contract w ⊆ channelErrorViolations ∧
    (.observationWindowExceeded ∈ structuralCodes py contract w ↔ w.outside ≠ []) := by
  unfold structuralCodes structuralViolations violationCodes
  dsimp only
  split_ifs <;> simp_all [channelErrorViolations, Finset.subset_iff]

theorem derivedViolation_code {py : PyOps} {contract : TransportChannel} {c : DeliveryCounters}
    {code : ChannelViolationCode} {violation : ChainViolation ChannelViolationCode}
    (h : derivedViolation py contract c code = .ok violation) : violation.code = code := by
  obtain ⟨message, -, h⟩ := bind_eq_ok.1 h
  obtain rfl := Except.ok.inj h
  rfl

/-- The codes with a message are those that are no error codes. -/
theorem exists_derivedViolation {py : PyOps} {contract : TransportChannel} {c : DeliveryCounters}
    {code : ChannelViolationCode} :
    (∃ violation, derivedViolation py contract c code = .ok violation) ↔
      code ∉ channelErrorViolations := by
  simp only [derivedViolation, bind_eq_ok]
  cases code <;> simp [deliveryMessage, channelErrorViolations, pure, Except.pure]

/-! ## The evaluation -/

/-- The evaluation of a channel without spans. -/
def emptyObservation (contract : TransportChannel) : ChannelObservationEvaluation where
  status := .incomplete
  startedAtNs := 0
  finishedAtNs := 0
  sentCount := 0
  receivedCount := 0
  lostCount := 0
  duplicateCount := 0
  outOfOrderCount := 0
  lossRatio := 0
  maxMessageAgeMs := 0
  violations := [⟨.insufficientMessages, "no producer or consumer spans were observed",
    some contract.channelId⟩]

/-- The evaluation of a window with a span that has no message id: its counters are written by
hand, and no other code is derived from them. -/
def unidentifiedObservation (py : PyOps) (contract : TransportChannel) (w : DeliveryWindow) :
    ChannelObservationEvaluation where
  status := .error
  startedAtNs := w.startNs
  finishedAtNs := w.endNs
  sentCount := w.producers.length
  receivedCount := w.consumers.length
  lostCount := w.producers.length
  duplicateCount := w.consumers.length
  outOfOrderCount := 0
  lossRatio :=
    if w.producers ≠ [] then py.fl (w.producers.length / w.producers.length) else 0
  maxMessageAgeMs := 0
  violations := [⟨.invalidObservation, "every span must carry messaging.message.id",
    some contract.channelId⟩]

/-- The evaluation of a window in which every span is identified. -/
def measuredObservation (py : PyOps) (w : DeliveryWindow)
    (violations : List (ChainViolation ChannelViolationCode)) : ChannelObservationEvaluation where
  status := channelObservationStatus (violationCodes violations)
  startedAtNs := w.startNs
  finishedAtNs := w.endNs
  sentCount := (measuredCounters py w).sentCount
  receivedCount := w.consumers.length
  lostCount := excess (groups messageText w.producers) (groups messageText w.consumers)
  duplicateCount := (measuredCounters py w).duplicateCount
  outOfOrderCount := (measuredCounters py w).outOfOrderCount
  lossRatio := (measuredCounters py w).lossRatio
  maxMessageAgeMs := (measuredCounters py w).maxMessageAgeMs
  violations := violations

/-- `evaluate_channel_delivery`. -/
def evaluateChannelDelivery (py : PyOps) (contract : TransportChannel) (spans : SpansByDomain) :
    Except MissingMessage ChannelObservationEvaluation := do
  let w := deliveryWindow py contract spans
  if w.allSpans = [] then return emptyObservation contract
  else if w.unidentified then return unidentifiedObservation py contract w
  else
    let violations ← measuredViolations py contract w
    return measuredObservation py w violations

/-! ## The observation document -/

/-- `timing.utc_datetime_from_unix_ns`. -/
def utcDatetimeFromUnixNs (timestampNs : ℕ) : Except OverflowError Timestamp :=
  let seconds := timestampNs / 1000000000
  let nanoseconds := timestampNs % 1000000000
  Timestamp.ofUs (seconds * 1000000 + nanoseconds / 1000 : ℕ)

theorem utcDatetimeFromUnixNs_eq (timestampNs : ℕ) :
    utcDatetimeFromUnixNs timestampNs = Timestamp.ofUs (timestampNs / 1000 : ℕ) := by
  unfold utcDatetimeFromUnixNs
  dsimp only
  congr 2
  omega

/-- The failures of writing a channel observation. -/
inductive ObservationFailure where
  | missingMessage (error : MissingMessage)
  | overflow (error : OverflowError)
  deriving DecidableEq, Repr

/-- The times of an observation: those of its window, or the declared window before the evaluation
when the window has no start. -/
def observationTimes (py : PyOps) (delivery : Delivery) (evaluatedAt : Timestamp)
    (startedAtNs finishedAtNs : ℕ) : Except OverflowError (Timestamp × Timestamp) := do
  if startedAtNs ≠ 0 then
    let startedAt ← utcDatetimeFromUnixNs startedAtNs
    let finishedAt ← utcDatetimeFromUnixNs finishedAtNs
    return (startedAt, finishedAt)
  else
    let startedAt ←
      Timestamp.ofUs (evaluatedAt.us - timedeltaUs py (py.fl delivery.observationWindowSec))
    return (startedAt, evaluatedAt)

/-- The microseconds between the times of an observation. -/
def writtenDurationUs (py : PyOps) (delivery : Delivery) (startedAtNs finishedAtNs : ℕ) : ℤ :=
  if startedAtNs ≠ 0 then (finishedAtNs / 1000 : ℕ) - (startedAtNs / 1000 : ℕ)
  else timedeltaUs py (py.fl delivery.observationWindowSec)

/-- The times of an observation are in the range of `datetime`. -/
def Writable (py : PyOps) (delivery : Delivery) (evaluatedAt : Timestamp)
    (startedAtNs finishedAtNs : ℕ) : Prop :=
  if startedAtNs ≠ 0 then
    ((startedAtNs / 1000 : ℕ) : ℤ) ≤ maxDatetimeUs ∧
      ((finishedAtNs / 1000 : ℕ) : ℤ) ≤ maxDatetimeUs
  else
    minDatetimeUs ≤ evaluatedAt.us - timedeltaUs py (py.fl delivery.observationWindowSec) ∧
      evaluatedAt.us - timedeltaUs py (py.fl delivery.observationWindowSec) ≤ maxDatetimeUs

/-- The times of an observation exist when they are in range, and are that far apart. -/
theorem observationTimes_spec {py : PyOps} {delivery : Delivery} {evaluatedAt : Timestamp}
    {startedAtNs finishedAtNs : ℕ} {p : ℚ → Prop} :
    (∃ times, observationTimes py delivery evaluatedAt startedAtNs finishedAtNs = .ok times ∧
        p (totalSeconds py times.1 times.2)) ↔
      Writable py delivery evaluatedAt startedAtNs finishedAtNs ∧
        p (py.fl (writtenDurationUs py delivery startedAtNs finishedAtNs / 1000000)) := by
  unfold observationTimes Writable writtenDurationUs
  by_cases h : startedAtNs ≠ 0
  · simp only [if_pos h, utcDatetimeFromUnixNs_eq, exists_bind_eq_ok, exists_pure_eq_ok]
    constructor
    · rintro ⟨started, hs, finished, hf, hp⟩
      rw [Timestamp.ofUs_eq_ok] at hs hf
      refine ⟨⟨hs ▸ started.le_max, hf ▸ finished.le_max⟩, ?_⟩
      rwa [totalSeconds, hs, hf] at hp
    · rintro ⟨⟨hs, hf⟩, hp⟩
      obtain ⟨started, hs⟩ := Timestamp.exists_ofUs.2 ⟨by simp [minDatetimeUs]; omega, hs⟩
      obtain ⟨finished, hf⟩ := Timestamp.exists_ofUs.2 ⟨by simp [minDatetimeUs]; omega, hf⟩
      refine ⟨started, hs, finished, hf, ?_⟩
      rw [Timestamp.ofUs_eq_ok] at hs hf
      rwa [totalSeconds, hs, hf]
  · simp only [if_neg h, exists_bind_eq_ok, exists_pure_eq_ok]
    rw [← Timestamp.exists_ofUs, exists_and_right.symm]
    refine exists_congr fun started => and_congr_right fun hs => ?_
    rw [Timestamp.ofUs_eq_ok] at hs
    rw [totalSeconds, hs, sub_sub_cancel]

/-- The document `evaluate_transport_qualification` writes for one channel. -/
def channelObservationDocument (py : PyOps) (runId observationId contractSha256 : String)
    (evaluatedAt : Timestamp) (contract : TransportChannel) (spans : SpansByDomain) :
    Except ObservationFailure ChannelObservationDocument := do
  let observation ←
    (evaluateChannelDelivery py contract spans).mapError ObservationFailure.missingMessage
  let (startedAt, finishedAt) ←
    (observationTimes py contract.delivery evaluatedAt observation.startedAtNs
      observation.finishedAtNs).mapError ObservationFailure.overflow
  return {
    observationId, runId, channelId := contract.channelId
    channelContractSha256 := contractSha256
    startedAt, finishedAt
    sentCount := observation.sentCount, receivedCount := observation.receivedCount
    lostCount := observation.lostCount, duplicateCount := observation.duplicateCount
    outOfOrderCount := observation.outOfOrderCount, lossRatio := observation.lossRatio
    maxMessageAgeMs := observation.maxMessageAgeMs, status := observation.status
    violations := observation.violations.map fun violation => (violation.code, violation.message) }

/-- A document has the counters, codes and status of its evaluation, and the times above. -/
theorem channelObservationDocument_eq_ok {py : PyOps} {runId observationId sha256 : String}
    {evaluatedAt : Timestamp} {contract : TransportChannel} {spans : SpansByDomain}
    {document : ChannelObservationDocument} :
    channelObservationDocument py runId observationId sha256 evaluatedAt contract spans =
        .ok document ↔
      ∃ observation, evaluateChannelDelivery py contract spans = .ok observation ∧
        ∃ times, observationTimes py contract.delivery evaluatedAt observation.startedAtNs
          observation.finishedAtNs = .ok times ∧
        document = {
          observationId, runId, channelId := contract.channelId
          channelContractSha256 := sha256, startedAt := times.1, finishedAt := times.2
          sentCount := observation.sentCount, receivedCount := observation.receivedCount
          lostCount := observation.lostCount, duplicateCount := observation.duplicateCount
          outOfOrderCount := observation.outOfOrderCount, lossRatio := observation.lossRatio
          maxMessageAgeMs := observation.maxMessageAgeMs, status := observation.status
          violations :=
            observation.violations.map fun violation => (violation.code, violation.message) } := by
  simp only [channelObservationDocument, bind_eq_ok, mapError_eq_ok]
  constructor
  · rintro ⟨observation, ho, times, ht, h⟩
    exact ⟨observation, ho, times, ht, (Except.ok.inj h).symm⟩
  · rintro ⟨observation, ho, times, ht, rfl⟩
    exact ⟨observation, ho, times, ht, rfl⟩

end RoboticsRuntime.Harness
