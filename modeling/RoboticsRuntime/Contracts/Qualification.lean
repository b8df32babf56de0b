import Mathlib.Data.Finset.Dedup
import RoboticsRuntime.Contracts.Transport

/-!
# The bundle verifier's clauses about transport

The clauses of `_qualification.py` that decide again what the harness has written: a channel
observation against its contract, and the transport verdict against the clock relations present.
-/

namespace RoboticsRuntime.Contracts
open Theory

/-- The codes a channel observation reports. -/
def ChannelObservationDocument.reported (observation : ChannelObservationDocument) :
    Finset ChannelViolationCode :=
  (observation.violations.map (·.1)).toFinset

/-- The counters `_validate_channel_delivery` reads from an observation. -/
def ChannelObservationDocument.counters (py : PyOps) (observation : ChannelObservationDocument) :
    DeliveryCounters where
  sentCount := observation.sentCount
  lossRatio := observation.lossRatio
  duplicateCount := observation.duplicateCount
  outOfOrderCount := observation.outOfOrderCount
  maxMessageAgeMs := observation.maxMessageAgeMs
  observationDurationSec := totalSeconds py observation.startedAt observation.finishedAt

/-- `_validate_channel_delivery`. -/
def validateChannelDelivery (py : PyOps) (channel : TransportChannel)
    (observation : ChannelObservationDocument) : Except QualificationError Unit :=
  let reported := observation.reported
  let expectedViolations :=
    deriveChannelViolations channel.delivery (observation.counters py) reported
  let expectedStatus := channelObservationStatus expectedViolations
  require (observation.status = expectedStatus ∧ reported = expectedViolations)
    { message := s!"channel observation {observation.observationId} contradicts its contract" }

/-- The observations the verifier accepts are those whose codes and status it derives again. -/
theorem validateChannelDelivery_eq_ok {py : PyOps} {channel : TransportChannel}
    {observation : ChannelObservationDocument} :
    validateChannelDelivery py channel observation = .ok () ↔
      deriveChannelViolations channel.delivery (observation.counters py) observation.reported =
          observation.reported ∧
        channelObservationStatus observation.reported = observation.status := by
  simp only [validateChannelDelivery, require_eq_ok]
  constructor
  · rintro ⟨h1, h2⟩
    exact ⟨h2.symm, by rw [h1, ← h2]⟩
  · rintro ⟨h1, h2⟩
    exact ⟨by rw [h1, h2], h1.symm⟩

/-- `required_pairs`. -/
def requiredPairs (channels : List TransportChannel) : Finset (String × String) :=
  (channels.map (·.pair)).toFinset

/-- `relation_pairs`. -/
def relationPairs (relations : List ClockRelation) : Finset (String × String) :=
  (relations.map (·.pair)).toFinset

/-- The clauses of `_validate_transport` about the domain pairs of the clock relations. -/
def validateTransportClockPairs (channels : List TransportChannel)
    (relations : List ClockRelation) (status : OutcomeStatus) : Except QualificationError Unit := do
  require (relationPairs relations ⊆ requiredPairs channels)
    { message := "transport includes a clock relation outside channel domain pairs" }
  require (relationPairs relations ≠ requiredPairs channels →
      status = .incomplete ∨ status = .error)
    { message := "missing clock relations require an incomplete transport verdict" }

end RoboticsRuntime.Contracts
