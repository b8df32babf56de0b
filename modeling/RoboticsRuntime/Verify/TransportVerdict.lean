import RoboticsRuntime.Verify.CausalChain

/-!
# The transport verdict before the validator and the bundle verifier

Three places fold the statuses of observations, chains and clock relations. The harness and the
validator of the result agree on every combination. The bundle verifier accepts only an incomplete
or errored verdict when a clock relation is missing, which the fold exceeds as soon as something
failed.
-/

namespace RoboticsRuntime.Harness
open Theory Contracts

/-- The statuses a verdict is folded from, besides the one for missing clock relations. -/
def transportStatuses (relations : List LoadedRelation)
    (observations : List ChannelObservationReference) (chains : List CausalChainDocument) :
    List ChannelObservationStatus :=
  observations.map (·.status) ++ chains.map (·.status) ++ relations.map (·.data.status)

variable {inputs : TransportInputs} {relations : List LoadedRelation}
  {observations : List ChannelObservationReference} {chains : List LoadedChain}
  {chainDocuments : List CausalChainDocument}

/-- The domain pairs of references are those of the relations. -/
theorem pair_clockRelationReference :
    ((relations.map clockRelationReference).map (·.pair)).toFinset =
      relationPairs (relations.map (·.data)) := by
  simp only [relationPairs, List.map_map]
  rfl

theorem requiredPairs_eq (inputs : TransportInputs) :
    requiredPairs (inputs.channelContracts.map (·.data)) = requiredClockPairs inputs := by
  simp only [requiredPairs, requiredClockPairs, List.map_map]
  rfl

/-- The verdict is the worst of the folded statuses, with an incomplete one for a missing clock
relation. -/
theorem qualificationDocument_status {document : TransportQualification}
    (h : qualificationDocument inputs (relations.map clockRelationReference) observations chains
      chainDocuments = .ok document) :
    worstStatus ((transportStatuses relations observations chainDocuments).map (·.toOutcome) ++
      if relationPairs (relations.map (·.data)) ≠ requiredClockPairs inputs then [.incomplete]
      else []) true = .ok document.verdict.status := by
  obtain ⟨verdict, hv, h⟩ := bind_eq_ok.1 h
  obtain rfl := Except.ok.inj h
  obtain ⟨status, hs, hv⟩ := bind_eq_ok.1 (mapError_eq_ok.1 hv)
  obtain rfl := Except.ok.inj hv
  rw [pair_clockRelationReference] at hs
  rw [← hs]
  refine worstStatus_congr (fun a => ?_) true
  simp only [transportStatuses, List.map_append, List.map_map, List.mem_append, Function.comp_def,
    clockRelationReference]
  tauto

/-- A document with a chain has a verdict. -/
theorem exists_qualificationDocument (inputs : TransportInputs)
    (references : List ClockRelationReference) (observations : List ChannelObservationReference)
    (chains : List LoadedChain) (hne : chainDocuments ≠ []) :
    ∃ document, qualificationDocument inputs references observations chains chainDocuments =
      .ok document :=
  ⟨_, bind_eq_ok.2 ⟨_, mapError_eq_ok.2
    (bind_eq_ok.2 ⟨_, (exists_worstStatus (by simp [hne]) true).choose_spec, rfl⟩), rfl⟩⟩

/-- The clock pairs of the document: those of the relations, and those of all channels. -/
theorem clockPairs_qualificationDocument {document : TransportQualification}
    (h : qualificationDocument inputs (relations.map clockRelationReference) observations chains
      chainDocuments = .ok document) :
    document.relationPairs = relationPairs (relations.map (·.data)) ∧
      document.expectedRelations = requiredClockPairs inputs := by
  obtain ⟨verdict, -, h⟩ := bind_eq_ok.1 h
  obtain rfl := Except.ok.inj h
  constructor
  · rw [← pair_clockRelationReference]
    exact List.toFinset_eq_of_perm _ _ ((List.perm_insertionSort _ _).map _)
  · dsimp only [TransportQualification.expectedRelations, requiredClockPairs]
    rw [List.map_map]
    exact List.toFinset_eq_of_perm _ _ ((List.perm_insertionSort _ _).map _)

/-- The validator demands the status the harness writes. -/
theorem expectedTransportStatus_qualificationDocument {document : TransportQualification}
    (h : qualificationDocument inputs (relations.map clockRelationReference) observations chains
      chainDocuments = .ok document) (hne : chainDocuments ≠ []) :
    expectedTransportStatus document = .ok document.verdict.status := by
  obtain ⟨hpairs, hexpected⟩ := clockPairs_qualificationDocument h
  have hstatus := qualificationDocument_status h
  obtain ⟨verdict, -, h⟩ := bind_eq_ok.1 h
  obtain rfl := Except.ok.inj h
  rw [← hstatus, ← worstStatus_passed_cons (by simp [transportStatuses, hne])]
  unfold expectedTransportStatus
  rw [hpairs, hexpected]
  refine worstStatus_congr (fun a => ?_) true
  simp only [transportStatuses, List.map_append, List.map_map, List.mem_cons, List.mem_append,
    List.mem_map, List.mem_insertionSort, Function.comp_apply, clockRelationReference,
    exists_exists_and_eq_and]
  simp only [or_assoc, or_left_comm, or_comm]

/-- The bundle verifier accepts an admissible set of relations when it is complete or the verdict
does not claim more than it. -/
theorem validateTransportClockPairs_eq_ok {channels : List TransportChannel}
    {relations : List ClockRelation} {status : OutcomeStatus}
    (hsub : relationPairs relations ⊆ requiredPairs channels) :
    validateTransportClockPairs channels relations status = .ok () ↔
      (relationPairs relations ≠ requiredPairs channels →
        status = .incomplete ∨ status = .error) := by
  rw [validateTransportClockPairs, seq_eq_ok, require_eq_ok, require_eq_ok]
  exact ⟨fun h => h.2, fun h => ⟨hsub, h⟩⟩

/-- With a clock relation missing, the verdict is incomplete or errored unless something failed
and nothing is errored. -/
theorem status_of_missing {statuses : List ChannelObservationStatus} {status : OutcomeStatus}
    (h : worstStatus (statuses.map (·.toOutcome) ++ [.incomplete]) true = .ok status) :
    (status = .incomplete ∨ status = .error) ↔ .error ∈ statuses ∨ .failed ∉ statuses := by
  have hmem : ∀ {s : ChannelObservationStatus},
      s.toOutcome ∈ statuses.map (·.toOutcome) ++ [.incomplete] →
        s ∈ statuses ∨ s = .incomplete := by
    intro s hs
    rcases List.mem_append.1 hs with hs | hs
    · obtain ⟨s', hs', he⟩ := List.mem_map.1 hs
      exact .inl (ChannelObservationStatus.toOutcome_injective he ▸ hs')
    · exact .inr (ChannelObservationStatus.toOutcome_injective (List.mem_singleton.1 hs))
  rw [worstStatus_eq_ok (by simp)] at h
  obtain ⟨hm, hb⟩ := h
  have hle : ∀ s ∈ statuses, s.toOutcome ≤ status := fun s hs =>
    hb _ (List.mem_append_left _ (List.mem_map_of_mem hs))
  have hincomplete : OutcomeStatus.incomplete ≤ status :=
    hb _ (List.mem_append_right _ (List.mem_singleton_self _))
  constructor
  · rintro (rfl | rfl)
    · exact .inr fun hf => absurd (hle _ hf) (by decide)
    · exact .inl ((hmem (s := .error) hm).resolve_right (by decide))
  · rintro (he | hf)
    · exact .inr (le_antisymm (OutcomeStatus.le_error _) (hle _ he))
    · cases status with
      | incomplete => exact .inl rfl
      | error => exact .inr rfl
      | failed => exact absurd ((hmem (s := .failed) hm).resolve_right (by decide)) hf
      | passed => exact absurd hincomplete (by decide)
      | skipped => exact absurd hincomplete (by decide)
      | cancelled => exact absurd hincomplete (by decide)

/-! ## Agreement -/

/-- For every combination of statuses and every set of relations over required pairs, the verdict
has the status the validator demands. The bundle verifier accepts it if and only if no relation is
missing, some status is an error, or none is a failure. -/
theorem transportVerdict_accepted_iff (inputs : TransportInputs) (relations : List LoadedRelation)
    (observations : List ChannelObservationReference) (chains : List LoadedChain)
    (chainDocuments : List CausalChainDocument) (hne : chainDocuments ≠ [])
    (hsub : ∀ relation ∈ relations, relation.data.pair ∈ requiredClockPairs inputs) :
    ∃ document, qualificationDocument inputs (relations.map clockRelationReference) observations
        chains chainDocuments = .ok document ∧
      expectedTransportStatus document = .ok document.verdict.status ∧
      (validateTransportClockPairs (inputs.channelContracts.map (·.data))
          (relations.map (·.data)) document.verdict.status = .ok () ↔
        relationPairs (relations.map (·.data)) = requiredClockPairs inputs ∨
          .error ∈ transportStatuses relations observations chainDocuments ∨
          .failed ∉ transportStatuses relations observations chainDocuments) := by
  obtain ⟨document, hdoc⟩ := exists_qualificationDocument inputs
    (relations.map clockRelationReference) observations chains hne
  refine ⟨document, hdoc, expectedTransportStatus_qualificationDocument hdoc hne, ?_⟩
  have hstatus := qualificationDocument_status hdoc
  rw [validateTransportClockPairs_eq_ok, requiredPairs_eq]
  · by_cases hpairs : relationPairs (relations.map (·.data)) = requiredClockPairs inputs
    · simp [hpairs]
    · rw [if_pos hpairs] at hstatus
      simp only [ne_eq, hpairs, not_false_eq_true, forall_const, false_or]
      exact status_of_missing hstatus
  · rw [requiredPairs_eq]
    intro pair hm
    simp only [relationPairs, List.map_map, List.mem_toFinset, List.mem_map] at hm
    obtain ⟨relation, hr, rfl⟩ := hm
    exact hsub relation hr

/-- The verdict of a returned document is the one above, over the supplied relations. -/
theorem evaluateTransportQualification_verdict {py : PyOps} {inputs : TransportInputs}
    {document : TransportQualification}
    (h : evaluateTransportQualification py inputs = .ok document) :
    ∃ observations chains, document.causalChains ≠ [] ∧
      (∀ relation ∈ inputs.clockRelations, relation.data.pair ∈ requiredClockPairs inputs) ∧
      qualificationDocument inputs (inputs.clockRelations.map clockRelationReference) observations
        chains document.causalChains = .ok document := by
  obtain ⟨chains, observations, chainDocuments, hresolved, -, hpairs, -, hdocs, htail⟩ :=
    evaluateTransportQualification_eq_ok h
  obtain ⟨-, -, rfl⟩ := qualificationDocument_eq_ok htail
  refine ⟨observations, _, fun hnil => ?_, hpairs, htail⟩
  have hlen := hdocs.length_eq
  rw [hnil, List.length_insertionSort, List.length_nil, List.length_eq_zero_iff] at hlen
  exact hresolved.ne_nil (by rw [← hresolved.chains_eq, hlen]; rfl)

/-! One channel whose consumer does not link to its producer: the chain failed, no clock relation
is present, and the verdict is `failed`. -/

/-- A chain of one channel. -/
private def directChain : LoadedChain where
  data := ⟨"chain", ["a", "b"], [⟨"x", "x"⟩], by decide⟩
  sha256 := "chain"
  accepted := by rfl

private def unlinkedSpans : SpansByDomain where
  domains := [("a", [exampleSpan "p" "send" "a" 1 []]), ("b", [exampleSpan "c" "receive" "b" 2 []])]
  distinct := by decide
  domainId_eq := by decide

theorem transportVerdict_rejected :
    ¬ ∀ (py : PyOps) (inputs : TransportInputs) (document : TransportQualification),
      evaluateTransportQualification py inputs = .ok document →
        expectedTransportStatus document = .ok document.verdict.status ∧
        validateTransportClockPairs (inputs.channelContracts.map (·.data))
          (inputs.clockRelations.map (·.data)) document.verdict.status = .ok () := by
  intro h
  obtain ⟨document, he, hcheck⟩ := exists_ok_of_any (by decide +kernel :
    (evaluateTransportQualification examplePy
      (exampleInputs [exampleChannel "x" true] directChain unlinkedSpans)).toOption.any
        (fun document => document.verdict.status = .failed) = true)
  have hclause := (h _ _ _ he).2
  rw [of_decide_eq_true hcheck] at hclause
  exact absurd hclause (by decide)

/-- A failed chain beside the relation of its two domains. -/
theorem transportVerdict_accepted_iff_complete :
    let inputs := exampleInputs [exampleChannel "x" true] directChain unlinkedSpans
    let relation : LoadedRelation :=
      ⟨⟨"r", "run", "scenario", "a", "b", ⟨1, 1⟩, none, "e", .passed⟩, "r"⟩
    let chain : CausalChainDocument := ⟨"chain", "chain", ["x"], .failed, [], [], none, none⟩
    ∃ document, qualificationDocument inputs ([relation].map clockRelationReference) []
        [directChain] [chain] = .ok document ∧
      expectedTransportStatus document = .ok document.verdict.status ∧
      validateTransportClockPairs (inputs.channelContracts.map (·.data)) ([relation].map (·.data))
        document.verdict.status = .ok () := by
  intro inputs relation chain
  obtain ⟨document, hdoc, hexpected, hclause⟩ := transportVerdict_accepted_iff inputs [relation] []
    [directChain] [chain] (by decide) (by decide)
  exact ⟨document, hdoc, hexpected, hclause.2 (.inl (by decide))⟩

end RoboticsRuntime.Harness
