import RoboticsRuntime.Verify.CausalChain

/-!
# A channel observation before the bundle verifier

`_validate_channel_delivery` derives the codes of an observation again from its document. The
evaluator derives them from the same counters, but for two things: when a span has no message id
it reports one code by hand, and the document's duration is measured between times that were
rounded to microseconds.
-/

namespace RoboticsRuntime.Harness
open Theory Contracts

variable {py : PyOps} {contract : TransportChannel} {w : DeliveryWindow}

/-- The nanoseconds of the window are, as seconds again, no longer than declared. -/
def DeliveryWindow.KeepsDuration (w : DeliveryWindow) (py : PyOps) (delivery : Delivery) : Prop :=
  py.fl (((w.endNs : ℤ) - w.startNs : ℤ) / 1000000000) ≤ delivery.observationWindowSec

instance (w : DeliveryWindow) (py : PyOps) (delivery : Delivery) :
    Decidable (w.KeepsDuration py delivery) :=
  inferInstanceAs (Decidable (_ ≤ _))

/-! ## The codes of an identified window -/

theorem structuralCodes_subset :
    structuralCodes py contract w ⊆ derivedCodes py contract w := fun _ hc =>
  mem_deriveChannelViolations.2 (.inr ⟨hc, structuralCodes_spec.1 hc⟩)

theorem observationWindowExceeded_mem_derivedCodes :
    .observationWindowExceeded ∈ derivedCodes py contract w ↔
      contract.delivery.observationWindowSec < (measuredCounters py w).observationDurationSec ∨
        w.outside ≠ [] := by
  rw [derivedCodes, mem_deriveChannelViolations, structuralCodes_spec.2,
    window_mem_deliveryChecks]
  simp [channelErrorViolations]

/-- The violations of an identified window have the derived codes. -/
theorem violationCodes_measuredViolations {violations : List (ChainViolation ChannelViolationCode)}
    (h : measuredViolations py contract w = .ok violations) :
    violationCodes violations = derivedCodes py contract w := by
  obtain ⟨derived, hd, h⟩ := bind_eq_ok.1 h
  obtain rfl := Except.ok.inj h
  have hcodes : (ChannelViolationCode.sorted
      (derivedCodes py contract w \ structuralCodes py contract w)).map id =
        derived.map (·.code) :=
    map_eq_of_forall₂ (fun _ _ h => (derivedViolation_code h).symm) (mapM_eq_ok.1 hd)
  have hstructural : ((structuralViolations py contract w).map (·.code)).toFinset =
      structuralCodes py contract w := rfl
  rw [violationCodes, List.map_append, List.toFinset_append, ← hcodes, List.map_id, hstructural]
  ext code
  simp only [Finset.mem_union, List.mem_toFinset, ChannelViolationCode.mem_sorted,
    Finset.mem_sdiff]
  constructor
  · rintro (h | h)
    · exact structuralCodes_subset h
    · exact h.1
  · intro h
    by_cases hs : code ∈ structuralCodes py contract w
    · exact .inl hs
    · exact .inr ⟨h, hs⟩

/-- They cannot be written when only the duration of the window exceeds its declaration, which has
no message. -/
theorem exists_measuredViolations :
    (∃ violations, measuredViolations py contract w = .ok violations) ↔
      w.outside ≠ [] ∨ w.KeepsDuration py contract.delivery := by
  have hbind : (∃ violations, measuredViolations py contract w = .ok violations) ↔
      ∃ derived, (ChannelViolationCode.sorted
        (derivedCodes py contract w \ structuralCodes py contract w)).mapM
          (derivedViolation py contract (measuredCounters py w)) = .ok derived :=
    ⟨fun ⟨_, h⟩ => (bind_eq_ok.1 h).imp fun _ h => h.1,
      fun ⟨_, h⟩ => ⟨_, bind_eq_ok.2 ⟨_, h, rfl⟩⟩⟩
  rw [hbind, exists_mapM_eq_ok]
  simp only [exists_derivedViolation, ChannelViolationCode.mem_sorted, Finset.mem_sdiff]
  constructor
  · intro h
    by_contra hc
    rw [not_or] at hc
    refine h .observationWindowExceeded ⟨?_, ?_⟩ (by decide)
    · exact observationWindowExceeded_mem_derivedCodes.2 (.inl (not_le.1 hc.2))
    · rw [structuralCodes_spec.2]
      exact hc.1
  · -- an error code is derived only from its report, or for the window
    rintro h code ⟨hd, hs⟩ he
    have hcode : code = .observationWindowExceeded := by
      rw [derivedCodes, mem_deriveChannelViolations] at hd
      have hcheck := hd.resolve_right fun h => hs h.1
      revert he hcheck
      cases code <;> simp [deliveryChecks, channelErrorViolations]
    rw [hcode] at hd hs
    rcases observationWindowExceeded_mem_derivedCodes.1 hd with hlt | ho
    · rw [structuralCodes_spec.2] at hs
      exact (h.resolve_left hs).not_gt hlt
    · exact hs (structuralCodes_spec.2.2 ho)

/-! ## Recomputation -/

/-- The times of an observation can be written, no further apart than the declared window. -/
def WithinWindow (py : PyOps) (delivery : Delivery) (evaluatedAt : Timestamp)
    (startedAtNs finishedAtNs : ℕ) : Prop :=
  Writable py delivery evaluatedAt startedAtNs finishedAtNs ∧
    py.fl (writtenDurationUs py delivery startedAtNs finishedAtNs / 1000000) ≤
      delivery.observationWindowSec

/-- When the observation of a channel survives its recomputation. Without spans, the window before
the evaluation must be written without excess. With a span that has no message id, every check of
the counters written by hand must pass. Otherwise the window must be exceeded by a span, or by
neither its nanoseconds nor its written times. -/
def Survives (py : PyOps) (evaluatedAt : Timestamp) (contract : TransportChannel)
    (w : DeliveryWindow) : Prop :=
  if w.allSpans = [] then WithinWindow py contract.delivery evaluatedAt 0 0
  else if w.unidentified then
    WithinWindow py contract.delivery evaluatedAt w.startNs w.endNs ∧
      contract.delivery.minimumSourceMessages ≤ w.producers.length ∧
      py.fl 1 ≤ contract.delivery.maxLossRatio ∧
      w.consumers.length ≤ contract.delivery.maxDuplicateCount
  else if w.outside ≠ [] then
    Writable py contract.delivery evaluatedAt w.startNs w.endNs
  else
    w.KeepsDuration py contract.delivery ∧
      WithinWindow py contract.delivery evaluatedAt w.startNs w.endNs

variable {runId observationId sha256 : String} {evaluatedAt : Timestamp}
  {spans : SpansByDomain}

/-- The codes and the status of an evaluation are derived again from what its document keeps and
from the duration of the document. -/
def Rederived (contract : TransportChannel) (observation : ChannelObservationEvaluation)
    (duration : ℚ) : Prop :=
  deriveChannelViolations contract.delivery
      { sentCount := observation.sentCount
        lossRatio := observation.lossRatio
        duplicateCount := observation.duplicateCount
        outOfOrderCount := observation.outOfOrderCount
        maxMessageAgeMs := observation.maxMessageAgeMs
        observationDurationSec := duration }
      (violationCodes observation.violations) = violationCodes observation.violations ∧
    channelObservationStatus (violationCodes observation.violations) = observation.status

/-- The document of an evaluation is written and accepted. -/
def Recomputed (py : PyOps) (evaluatedAt : Timestamp) (contract : TransportChannel)
    (observation : ChannelObservationEvaluation) : Prop :=
  Writable py contract.delivery evaluatedAt observation.startedAtNs observation.finishedAtNs ∧
    Rederived contract observation (py.fl (writtenDurationUs py contract.delivery
      observation.startedAtNs observation.finishedAtNs / 1000000))

theorem exists_document_iff :
    (∃ document, channelObservationDocument py runId observationId sha256 evaluatedAt contract
        spans = .ok document ∧ validateChannelDelivery py contract document = .ok ()) ↔
      ∃ observation, evaluateChannelDelivery py contract spans = .ok observation ∧
        Recomputed py evaluatedAt contract observation := by
  simp only [channelObservationDocument_eq_ok, validateChannelDelivery_eq_ok, Recomputed,
    ← observationTimes_spec]
  constructor
  · rintro ⟨document, ⟨observation, ho, times, ht, rfl⟩, hd⟩
    refine ⟨observation, ho, times, ht, ?_⟩
    simpa only [ChannelObservationDocument.reported, ChannelObservationDocument.counters,
      List.map_map, Function.comp_def, violationCodes, Rederived] using hd
  · rintro ⟨observation, ho, times, ht, hd⟩
    refine ⟨_, ⟨observation, ho, times, ht, rfl⟩, ?_⟩
    simpa only [ChannelObservationDocument.reported, ChannelObservationDocument.counters,
      List.map_map, Function.comp_def, violationCodes, Rederived] using hd

/-! Each exit of the evaluator. -/

theorem recomputed_emptyObservation :
    Recomputed py evaluatedAt contract (emptyObservation contract) ↔
      WithinWindow py contract.delivery evaluatedAt 0 0 := by
  have hmin := contract.delivery.minimumSourceMessages_pos
  have hloss := contract.delivery.maxLossRatio_nonneg
  have hage := contract.delivery.maxMessageAgeMs_nonneg
  have hcodes : violationCodes (emptyObservation contract).violations =
      {.insufficientMessages} := rfl
  refine and_congr_right fun _ => ?_
  rw [Rederived, hcodes, deriveChannelViolations_eq_self]
  constructor
  · rintro ⟨⟨h, -⟩, -⟩
    by_contra hlt
    have := h .observationWindowExceeded (window_mem_deliveryChecks.2 (not_le.1 hlt))
    exact absurd this (by decide)
  · refine fun hd => ⟨⟨fun code => ?_, fun code hc _ => ?_⟩, rfl⟩
    · cases code <;> simp [deliveryChecks, emptyObservation, hloss, hage, hd]
    · rw [Finset.mem_singleton.1 hc]
      simpa [deliveryChecks, emptyObservation] using Nat.one_le_iff_ne_zero.1 hmin

theorem recomputed_unidentifiedObservation :
    Recomputed py evaluatedAt contract (unidentifiedObservation py contract w) ↔
      WithinWindow py contract.delivery evaluatedAt w.startNs w.endNs ∧
        contract.delivery.minimumSourceMessages ≤ w.producers.length ∧
        py.fl 1 ≤ contract.delivery.maxLossRatio ∧
        w.consumers.length ≤ contract.delivery.maxDuplicateCount := by
  have hmin := contract.delivery.minimumSourceMessages_pos
  have hage := contract.delivery.maxMessageAgeMs_nonneg
  have hcodes : violationCodes (unidentifiedObservation py contract w).violations =
      {.invalidObservation} := rfl
  rw [Recomputed, WithinWindow, and_assoc]
  refine and_congr_right fun _ => ?_
  rw [Rederived, hcodes, deriveChannelViolations_eq_self]
  constructor
  · rintro ⟨⟨h, -⟩, -⟩
    have hcheck : ∀ code, code ≠ .invalidObservation → (code, false) ∉ deliveryChecks _ _ :=
      fun code hne hc => hne (Finset.mem_singleton.1 (h code hc))
    have hsent : contract.delivery.minimumSourceMessages ≤ w.producers.length := by
      simpa [deliveryChecks, unidentifiedObservation] using
        hcheck .insufficientMessages (by decide)
    have hne : w.producers ≠ [] := List.length_pos_iff.1 (hmin.trans hsent)
    refine ⟨?_, hsent, ?_, ?_⟩
    · by_contra hlt
      exact hcheck _ (by decide) (window_mem_deliveryChecks.2 (not_le.1 hlt))
    · simpa [deliveryChecks, unidentifiedObservation, hne] using
        hcheck .lossRatioExceeded (by decide)
    · simpa [deliveryChecks, unidentifiedObservation] using
        hcheck .duplicateCountExceeded (by decide)
  · rintro ⟨hd, hsent, hloss, hduplicate⟩
    have hne : w.producers ≠ [] := List.length_pos_iff.1 (hmin.trans hsent)
    refine ⟨⟨fun code => ?_, fun code hc he => ?_⟩, rfl⟩
    · cases code <;>
        simp [deliveryChecks, unidentifiedObservation, hne, hage, hd, hsent, hloss, hduplicate]
    · rw [Finset.mem_singleton.1 hc] at he
      exact absurd (by decide) he

theorem recomputed_measuredObservation {violations : List (ChainViolation ChannelViolationCode)}
    (h : measuredViolations py contract w = .ok violations) :
    Recomputed py evaluatedAt contract (measuredObservation py w violations) ↔
      Writable py contract.delivery evaluatedAt w.startNs w.endNs ∧
        (py.fl (writtenDurationUs py contract.delivery w.startNs w.endNs / 1000000) ≤
            contract.delivery.observationWindowSec ∨
          .observationWindowExceeded ∈ derivedCodes py contract w) := by
  refine and_congr_right fun _ => ?_
  have hcodes : violationCodes (measuredObservation py w violations).violations =
      derivedCodes py contract w := violationCodes_measuredViolations h
  rw [Rederived, hcodes]
  exact ⟨fun h => deriveChannelViolations_rederived.1 h.1,
    fun h => ⟨deriveChannelViolations_rederived.2 h, by rw [← hcodes]; rfl⟩⟩

/-- The observation document of a channel is accepted by the verifier, if and only if it survives
in the sense above. -/
theorem channelObservation_accepted_iff (py : PyOps) (runId observationId sha256 : String)
    (evaluatedAt : Timestamp) (contract : TransportChannel) (spans : SpansByDomain) :
    (∃ document, channelObservationDocument py runId observationId sha256 evaluatedAt contract
        spans = .ok document ∧ validateChannelDelivery py contract document = .ok ()) ↔
      Survives py evaluatedAt contract (deliveryWindow py contract spans) := by
  rw [exists_document_iff, Survives]
  unfold evaluateChannelDelivery
  dsimp only
  generalize deliveryWindow py contract spans = w
  split_ifs with hspans hid hout
  · exact exists_pure_eq_ok.trans recomputed_emptyObservation
  · exact exists_pure_eq_ok.trans recomputed_unidentifiedObservation
  · -- the window code is reported, whatever the duration
    simp only [exists_bind_eq_ok, exists_pure_eq_ok]
    have hmem : .observationWindowExceeded ∈ derivedCodes py contract w :=
      observationWindowExceeded_mem_derivedCodes.2 (.inr hout)
    constructor
    · rintro ⟨violations, hv, hr⟩
      exact ((recomputed_measuredObservation hv).1 hr).1
    · intro ht
      obtain ⟨violations, hv⟩ := exists_measuredViolations.2 (.inl hout)
      exact ⟨violations, hv, (recomputed_measuredObservation hv).2 ⟨ht, .inr hmem⟩⟩
  · simp only [exists_bind_eq_ok, exists_pure_eq_ok]
    constructor
    · rintro ⟨violations, hv, hr⟩
      have hle := (exists_measuredViolations.1 ⟨violations, hv⟩).resolve_left hout
      obtain ⟨ht, hd⟩ := (recomputed_measuredObservation hv).1 hr
      refine ⟨hle, ht, hd.resolve_right fun hmem => ?_⟩
      exact (observationWindowExceeded_mem_derivedCodes.1 hmem).elim hle.not_gt hout
    · rintro ⟨hle, ht, hd⟩
      obtain ⟨violations, hv⟩ := exists_measuredViolations.2 (.inr hle)
      exact ⟨violations, hv, (recomputed_measuredObservation hv).2 ⟨ht, .inl hd⟩⟩

/-! A producer and a consumer without message id: the document reports `invalid_observation` and a
loss ratio of one, from which the verifier derives `loss_ratio_exceeded` as well. -/

private def unidentifiedSpans : SpansByDomain where
  domains := [("a", [{ exampleSpan "p" "send" "a" 1 [] with messageId := none }]),
    ("b", [{ exampleSpan "c" "receive" "b" 2 ["p"] with messageId := none }])]
  distinct := by decide
  domainId_eq := by decide

theorem channelObservation_rejected :
    ¬ ∀ (py : PyOps) (runId observationId sha256 : String) (evaluatedAt : Timestamp)
      (contract : TransportChannel) (spans : SpansByDomain) (document : ChannelObservationDocument),
      channelObservationDocument py runId observationId sha256 evaluatedAt contract spans =
        .ok document → validateChannelDelivery py contract document = .ok () := by
  intro h
  obtain ⟨document, hd, hcheck⟩ := exists_ok_of_any (by decide +kernel :
    (channelObservationDocument examplePy "run" "observation" "hash" .epoch
      (exampleChannel "x" true).data unidentifiedSpans).toOption.any (fun document =>
        (validateChannelDelivery examplePy (exampleChannel "x" true).data document).toOption.isNone)
      = true)
  rw [h _ _ _ _ _ _ _ _ hd] at hcheck
  exact absurd hcheck (by decide)

end RoboticsRuntime.Harness
