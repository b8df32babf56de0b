import Mathlib.Data.Finset.Basic
import Mathlib.Algebra.Order.Field.Rat
import RoboticsRuntime.Contracts.Status

/-!
# The delivery policy of a transport channel

`qualification_policy.py`: the violation codes of a channel observation, the status they give it,
and the codes that follow from measured counters. The delivery section of a channel contract
carries the bounds its schema puts on it as fields, so no rule below meets a negative limit.
-/

namespace RoboticsRuntime.Contracts

/-- The violation codes of `transport-channel-observation.v1`, in alphabetical order. -/
inductive ChannelViolationCode where
  | ambiguousMessageId
  | duplicateCountExceeded
  | insufficientMessages
  | invalidObservation
  | lossRatioExceeded
  | messageAgeExceeded
  | observationWindowExceeded
  | outOfOrderCountExceeded
  deriving DecidableEq, Repr

namespace ChannelViolationCode

/-- The spelling of a code in documents. -/
def name : ChannelViolationCode → String
  | ambiguousMessageId => "ambiguous_message_id"
  | duplicateCountExceeded => "duplicate_count_exceeded"
  | insufficientMessages => "insufficient_messages"
  | invalidObservation => "invalid_observation"
  | lossRatioExceeded => "loss_ratio_exceeded"
  | messageAgeExceeded => "message_age_exceeded"
  | observationWindowExceeded => "observation_window_exceeded"
  | outOfOrderCountExceeded => "out_of_order_count_exceeded"

def all : List ChannelViolationCode :=
  [ambiguousMessageId, duplicateCountExceeded, insufficientMessages, invalidObservation,
    lossRatioExceeded, messageAgeExceeded, observationWindowExceeded, outOfOrderCountExceeded]

theorem mem_all (c : ChannelViolationCode) : c ∈ all := by
  cases c <;> decide

/-- `sorted(codes)` of a set of codes. -/
def sorted (codes : Finset ChannelViolationCode) : List ChannelViolationCode :=
  all.filter (· ∈ codes)

@[simp] theorem mem_sorted {codes : Finset ChannelViolationCode} {c : ChannelViolationCode} :
    c ∈ sorted codes ↔ c ∈ codes := by
  simp [sorted, mem_all]

end ChannelViolationCode

/-- The four statuses of a channel observation, a causal chain, a clock relation and the transport
verdict (`$defs/status` of the transport schemas). -/
inductive ChannelObservationStatus where
  | passed
  | failed
  | incomplete
  | error
  deriving DecidableEq, Repr

namespace ChannelObservationStatus

/-- `OutcomeStatus(status)`. -/
def toOutcome : ChannelObservationStatus → OutcomeStatus
  | passed => .passed
  | failed => .failed
  | incomplete => .incomplete
  | error => .error

theorem toOutcome_injective : Function.Injective toOutcome := by
  intro a b h
  cases a <;> cases b <;> first | rfl | cases h

@[simp] theorem toOutcome_ne_cancelled (s : ChannelObservationStatus) :
    s.toOutcome ≠ .cancelled := by
  cases s <;> decide

end ChannelObservationStatus

open ChannelViolationCode

/-- `CHANNEL_ERROR_VIOLATIONS`. -/
def channelErrorViolations : Finset ChannelViolationCode :=
  {ambiguousMessageId, invalidObservation, observationWindowExceeded}

/-- `CHANNEL_INCOMPLETE_VIOLATIONS`. -/
def channelIncompleteViolations : Finset ChannelViolationCode :=
  {insufficientMessages}

/-- `channel_observation_status`. -/
def channelObservationStatus (codes : Finset ChannelViolationCode) : ChannelObservationStatus :=
  if codes = ∅ then .passed
  else if codes ∩ channelErrorViolations ≠ ∅ then .error
  else if codes ⊆ channelIncompleteViolations then .incomplete
  else .failed

/-- The `delivery` section of `transport-channel.v1`, with the ranges its schema admits. -/
structure Delivery where
  observationWindowSec : ℚ
  minimumSourceMessages : ℕ
  maxLossRatio : ℚ
  maxDuplicateCount : ℕ
  maxOutOfOrderCount : ℕ
  maxMessageAgeMs : ℚ
  observationWindowSec_pos : 0 < observationWindowSec
  minimumSourceMessages_pos : 1 ≤ minimumSourceMessages
  maxLossRatio_nonneg : 0 ≤ maxLossRatio
  maxLossRatio_le_one : maxLossRatio ≤ 1
  maxMessageAgeMs_nonneg : 0 ≤ maxMessageAgeMs

/-- The counters of a channel observation that the delivery policy reads. -/
structure DeliveryCounters where
  sentCount : ℕ
  lossRatio : ℚ
  duplicateCount : ℕ
  outOfOrderCount : ℕ
  maxMessageAgeMs : ℚ
  observationDurationSec : ℚ

/-- The table of checks in `derive_channel_violations`: a code and whether its check passed. -/
def deliveryChecks (delivery : Delivery) (c : DeliveryCounters) :
    List (ChannelViolationCode × Bool) :=
  [(insufficientMessages, delivery.minimumSourceMessages ≤ c.sentCount),
    (lossRatioExceeded, c.lossRatio ≤ delivery.maxLossRatio),
    (duplicateCountExceeded, c.duplicateCount ≤ delivery.maxDuplicateCount),
    (outOfOrderCountExceeded, c.outOfOrderCount ≤ delivery.maxOutOfOrderCount),
    (messageAgeExceeded, c.maxMessageAgeMs ≤ delivery.maxMessageAgeMs),
    (observationWindowExceeded, c.observationDurationSec ≤ delivery.observationWindowSec)]

theorem window_mem_deliveryChecks {delivery : Delivery} {c : DeliveryCounters} :
    (observationWindowExceeded, false) ∈ deliveryChecks delivery c ↔
      delivery.observationWindowSec < c.observationDurationSec := by
  simp [deliveryChecks]

/-- `derive_channel_violations`. -/
def deriveChannelViolations (delivery : Delivery) (c : DeliveryCounters)
    (reported : Finset ChannelViolationCode) : Finset ChannelViolationCode :=
  let failed := ((deliveryChecks delivery c).filter fun check => !check.2).map (·.1)
  failed.toFinset ∪ (reported ∩ channelErrorViolations)

/-- A code is derived when its own check failed, or when it is an error code already reported. -/
theorem mem_deriveChannelViolations {delivery : Delivery} {c : DeliveryCounters}
    {reported : Finset ChannelViolationCode} {code : ChannelViolationCode} :
    code ∈ deriveChannelViolations delivery c reported ↔
      (code, false) ∈ deliveryChecks delivery c ∨
        code ∈ reported ∧ code ∈ channelErrorViolations := by
  simp [deriveChannelViolations]

/-- The reported codes are derived again when they contain every failed check, and nothing else
but error codes. -/
theorem deriveChannelViolations_eq_self {delivery : Delivery} {c : DeliveryCounters}
    {reported : Finset ChannelViolationCode} :
    deriveChannelViolations delivery c reported = reported ↔
      (∀ code, (code, false) ∈ deliveryChecks delivery c → code ∈ reported) ∧
        ∀ code ∈ reported, code ∉ channelErrorViolations →
          (code, false) ∈ deliveryChecks delivery c := by
  constructor
  · intro h
    constructor
    · intro code hc
      rw [← h, mem_deriveChannelViolations]
      exact .inl hc
    · intro code hc he
      rw [← h, mem_deriveChannelViolations] at hc
      exact hc.resolve_right fun h => he h.2
  · rintro ⟨h1, h2⟩
    ext code
    rw [mem_deriveChannelViolations]
    constructor
    · rintro (hc | ⟨hc, -⟩)
      · exact h1 code hc
      · exact hc
    · intro hc
      by_cases he : code ∈ channelErrorViolations
      · exact .inr ⟨hc, he⟩
      · exact .inl (h2 code hc he)

/-- The codes derived from counters are derived again from the same counters with another duration,
unless that duration alone exceeds the window. -/
theorem deriveChannelViolations_rederived {delivery : Delivery} {c : DeliveryCounters}
    {reported : Finset ChannelViolationCode} {duration : ℚ} :
    deriveChannelViolations delivery { c with observationDurationSec := duration }
        (deriveChannelViolations delivery c reported) =
        deriveChannelViolations delivery c reported ↔
      duration ≤ delivery.observationWindowSec ∨
        observationWindowExceeded ∈ deriveChannelViolations delivery c reported := by
  constructor
  · intro h
    rw [or_iff_not_imp_left]
    intro hd
    rw [← h, mem_deriveChannelViolations]
    exact .inl (window_mem_deliveryChecks.2 (not_le.1 hd))
  · intro h
    ext code
    rw [mem_deriveChannelViolations]
    cases code with
    | observationWindowExceeded =>
      rw [window_mem_deliveryChecks]
      exact ⟨fun hd => hd.elim (fun hlt => h.resolve_left (not_le.2 hlt)) (·.1),
        fun hd => .inr ⟨hd, by decide⟩⟩
    | _ => simp [mem_deriveChannelViolations, deliveryChecks, channelErrorViolations]

end RoboticsRuntime.Contracts
