import RoboticsRuntime.Harness.NativeEvaluation
import RoboticsRuntime.Verify.AssertionIdentifiers

/-!
# The evaluations of an assessment

What `evaluate_acceptance` returns for a native method: the core evaluations are those of the
declared metrics and of the evidence policy, and every other one belongs to an evaluator of the
method and cites evidence that the method may cite. Where the evaluators are OCI images, each of
their assigned identifiers is evaluated exactly once, by the image that owns it.
-/

namespace RoboticsRuntime.Harness
open Theory Contracts

/-! ## Core evaluations -/

/-- A core evaluation claims no namespace and cites no evidence. -/
structure AssertionEvaluation.IsCore (evaluation : AssertionEvaluation) : Prop where
  source : evaluation.source = .core
  nameSpace : evaluation.nameSpace = none
  evidenceSha256 : evaluation.evidenceSha256 = []

theorem evaluateMetricAssertions_isCore {texts : MetricTexts} {assertions : List MetricAssertion}
    {samples : List MetricPoint} {start stop : Option ℤ}
    (h : evaluateMetricAssertions texts assertions samples start stop = .ok evaluations) :
    ∀ evaluation ∈ evaluations, evaluation.IsCore := by
  simp only [evaluateMetricAssertions, seq_eq_ok] at h
  intro evaluation hmem
  obtain ⟨_, -, he⟩ := exists_of_forall₂_mem (mapM_eq_ok.1 h.2.2) hmem
  obtain ⟨_, _, _, _, rfl⟩ := evaluateMetricAssertion_evaluates he
  exact ⟨rfl, rfl, rfl⟩

/-- The identifiers of the native evidence policy. -/
def nativePolicyIds : List String :=
  ["policy-native-artifact-size", "policy-native-archive-size", "policy-native-upload-lag",
    "policy-native-upload-mode", "policy-native-retention", "policy-native-remote-sink",
    "policy-native-required-sink"]

theorem evaluateNativeEvidencePolicy_identifiers (policy : NativeEvidencePolicy)
    (evidence : VerifiedEvidence) :
    (evaluateNativeEvidencePolicy policy evidence).map (·.assertionId) = nativePolicyIds := by
  rfl

theorem startsWith_nativePolicyIds {id : String} (h : id ∈ nativePolicyIds) :
    startsWith id "policy-native-" = true :=
  (by decide : ∀ id ∈ nativePolicyIds, startsWith id "policy-native-" = true) id h

theorem booleanEvaluation_isCore (assertionId : String) (passed : Bool) (message : String) :
    (booleanEvaluation assertionId passed message).IsCore := ⟨rfl, rfl, rfl⟩

/-- The policy always decides. -/
theorem booleanEvaluation_ne_skipped (assertionId : String) (passed : Bool) (message : String) :
    (booleanEvaluation assertionId passed message).status ≠ .skipped := by
  cases passed <;> exact nofun

/-! ## Product evaluations -/

/-- What an evaluation of a product may say: it belongs to a namespace and cites known evidence. -/
structure ProductOf (owner : String) (evidence : List String)
    (evaluation : AssertionEvaluation) : Prop where
  source : evaluation.source = .product
  nameSpace : evaluation.nameSpace = some owner
  owned : startsWith evaluation.assertionId (owner ++ ".") = true
  cites : evaluation.evidenceSha256 ≠ []
  known : ∀ sha256 ∈ evaluation.evidenceSha256, sha256 ∈ evidence

theorem validateProductEvaluation_eq_ok {py : PyOps} {nameSpace : String} {evidence : List String}
    {produced : Produced} : validateProductEvaluation py nameSpace evidence produced =
        .ok evaluation ↔
      produced = .evaluation evaluation ∧ ProductOf nameSpace evidence evaluation := by
  cases produced with
  | other typeName => exact ⟨nofun, nofun⟩
  | evaluation made =>
    unfold validateProductEvaluation
    simp only [seq_eq_ok, require_eq_ok, Produced.evaluation.injEq]
    refine ⟨fun ⟨⟨h1, h2⟩, h3, h4, h5, h⟩ => ?_, ?_⟩
    · obtain rfl := Except.ok.inj h
      exact ⟨rfl, h1, h2, h3, h4, h5⟩
    · rintro ⟨rfl, h1, h2, h3, h4, h5⟩
      exact ⟨⟨h1, h2⟩, h3, h4, h5, rfl⟩

theorem mapM_validateProductEvaluation {py : PyOps} {nameSpace : String} {evidence : List String}
    {produced : List Produced} {evaluations : List AssertionEvaluation} :
    produced.mapM (validateProductEvaluation py nameSpace evidence) = .ok evaluations ↔
      produced = evaluations.map .evaluation ∧
        ∀ evaluation ∈ evaluations, ProductOf nameSpace evidence evaluation := by
  rw [mapM_eq_ok]
  simp only [validateProductEvaluation_eq_ok]
  induction evaluations generalizing produced with
  | nil =>
    simp only [List.forall₂_nil_right_iff, List.map_nil, List.not_mem_nil, false_implies,
      implies_true, and_true]
  | cons evaluation evaluations ih =>
    rw [List.forall₂_cons_right_iff]
    simp only [ih, List.map_cons, List.forall_mem_cons]
    constructor
    · rintro ⟨_, _, ⟨rfl, hfirst⟩, ⟨rfl, hrest⟩, rfl⟩
      exact ⟨rfl, hfirst, hrest⟩
    · rintro ⟨rfl, hfirst, hrest⟩
      exact ⟨_, _, ⟨rfl, hfirst⟩, ⟨rfl, hrest⟩, rfl⟩

/-- The evaluations of an evaluator are all that it yields, each of its namespace, where no
exception ends it. -/
theorem productEvaluations_eq_ok {py : PyOps} {evidence : List String}
    {evaluator : String × EvaluatorRun} {evaluations : List AssertionEvaluation} :
    productEvaluations py evidence evaluator = .ok evaluations ↔
      '.' ∈ evaluator.1.toList ∧ evaluator.2 = ⟨evaluations.map .evaluation, none⟩ ∧
        ∀ evaluation ∈ evaluations, ProductOf evaluator.1 evidence evaluation := by
  obtain ⟨nameSpace, produced, failure⟩ := evaluator
  unfold productEvaluations
  rw [seq_eq_ok, require_eq_ok, bind_eq_ok]
  simp only [mapM_validateProductEvaluation, EvaluatorRun.mk.injEq]
  cases failure with
  | some failure =>
    constructor
    · rintro ⟨-, made, -, h⟩
      cases failure <;> cases h
    · rintro ⟨-, ⟨-, h⟩, -⟩
      cases h
  | none =>
    constructor
    · rintro ⟨hdot, made, hmade, h⟩
      obtain rfl := Except.ok.inj h
      exact ⟨hdot, ⟨hmade.1, rfl⟩, hmade.2⟩
    · rintro ⟨hdot, ⟨hproduced, -⟩, hall⟩
      exact ⟨hdot, evaluations, ⟨hproduced, hall⟩, rfl⟩

/-! ## Responses -/

theorem foldlM_decodeRow {py : PyOps} {nameSpace : String} {allowed : List String}
    {rows : List ResponseRow} {before evaluations : List AssertionEvaluation}
    (hbefore : (before.map (·.assertionId)).Nodup) :
    rows.foldlM (decodeRow py nameSpace allowed) before = .ok evaluations ↔
      evaluations = before ++ rows.map (·.evaluation) ∧
        (∀ row ∈ rows, ProductOf nameSpace allowed row.evaluation) ∧
        (evaluations.map (·.assertionId)).Nodup := by
  induction rows generalizing before with
  | nil =>
    simp only [List.foldlM_nil, List.map_nil, List.append_nil, List.not_mem_nil, false_implies,
      implies_true, true_and]
    constructor
    · intro h
      obtain rfl := Except.ok.inj h
      exact ⟨rfl, hbefore⟩
    · rintro ⟨rfl, -⟩
      rfl
  | cons row rows ih =>
    rw [List.foldlM_cons, bind_eq_ok]
    have hstep (made : List AssertionEvaluation) :
        decodeRow py nameSpace allowed before row = .ok made ↔
          ProductOf nameSpace allowed row.evaluation ∧
            row.evaluation.assertionId ∉ before.map (·.assertionId) ∧
            made = before ++ [row.evaluation] := by
      unfold decodeRow
      rw [bind_eq_ok]
      simp only [seq_eq_ok, require_eq_ok, validateProductEvaluation_eq_ok,
        Produced.evaluation.injEq]
      constructor
      · rintro ⟨_, ⟨rfl, hrow⟩, hnew, h⟩
        exact ⟨hrow, hnew, (Except.ok.inj h).symm⟩
      · rintro ⟨hrow, hnew, rfl⟩
        exact ⟨_, ⟨rfl, hrow⟩, hnew, rfl⟩
    simp only [hstep]
    constructor
    · rintro ⟨_, ⟨hrow, hnew, rfl⟩, hrest⟩
      have hnodup : ((before ++ [row.evaluation]).map (·.assertionId)).Nodup := by
        rw [List.map_append, List.nodup_append]
        refine ⟨hbefore, List.nodup_singleton _, fun a ha b hb hab => ?_⟩
        obtain rfl := List.mem_singleton.1 hb
        subst hab
        exact hnew ha
      obtain ⟨rfl, hall, hdistinct⟩ := (ih hnodup).1 hrest
      exact ⟨by rw [List.append_assoc, List.singleton_append, List.map_cons],
        List.forall_mem_cons.2 ⟨hrow, hall⟩, hdistinct⟩
    · rintro ⟨rfl, hall, hdistinct⟩
      obtain ⟨hrow, hrows⟩ := List.forall_mem_cons.1 hall
      have hsplit : before ++ (row :: rows).map (·.evaluation) =
          (before ++ [row.evaluation]) ++ rows.map (·.evaluation) := by
        rw [List.append_assoc, List.singleton_append, List.map_cons]
      have hnodup : ((before ++ [row.evaluation]).map (·.assertionId)).Nodup := by
        rw [hsplit, List.map_append] at hdistinct
        exact (List.nodup_append.1 hdistinct).1
      refine ⟨_, ⟨hrow, ?_, rfl⟩, (ih hnodup).2 ⟨hsplit, hrows, hdistinct⟩⟩
      rw [List.map_append, List.nodup_append] at hnodup
      exact fun h => hnodup.2.2 _ h _ (List.mem_singleton.2 rfl) rfl

theorem checkExpectedIds_nodup {py : PyOps} {nameSpace : String} {identifiers : List String}
    (h : checkExpectedIds py nameSpace identifiers = .ok ()) : identifiers.Nodup := by
  simp only [checkExpectedIds, seq_eq_ok, require_eq_ok] at h
  exact h.2.2.2

/-- A response is decoded exactly where its rows evaluate each expected identifier once and for
this request, and cite allowed evidence. -/
theorem decodeEvaluatorResponse_eq_ok {py : PyOps} {response : EvaluatorResponse}
    {requestSha256 nameSpace : String} {expectedAssertionIds allowed : List String}
    {evaluations : List AssertionEvaluation} :
    decodeEvaluatorResponse py response requestSha256 nameSpace expectedAssertionIds allowed =
        .ok evaluations ↔
      checkExpectedIds py nameSpace expectedAssertionIds = .ok () ∧
        response.requestSha256 = requestSha256 ∧
        evaluations = response.assertionResults.map (·.evaluation) ∧
        (∀ evaluation ∈ evaluations, ProductOf nameSpace allowed evaluation) ∧
        (evaluations.map (·.assertionId)).Perm expectedAssertionIds := by
  have hrows (made : List AssertionEvaluation) :
      response.assertionResults.foldlM (decodeRow py nameSpace allowed) [] = .ok made ↔ _ :=
    foldlM_decodeRow List.nodup_nil
  unfold decodeEvaluatorResponse
  rw [seq_eq_ok, seq_eq_ok, bind_eq_ok]
  simp only [seq_eq_ok, require_eq_ok, hrows, List.nil_append]
  constructor
  · rintro ⟨hexpected, hrequest, made, ⟨rfl, hall, hdistinct⟩, hsame, h⟩
    obtain rfl := Except.ok.inj h
    refine ⟨hexpected, hrequest, rfl, by simpa using hall, ?_⟩
    exact (List.perm_ext_iff_of_nodup hdistinct (checkExpectedIds_nodup hexpected)).2
      fun id => ⟨hsame.1 id, hsame.2 id⟩
  · rintro ⟨hexpected, hrequest, rfl, hall, hperm⟩
    refine ⟨hexpected, hrequest, _, ⟨rfl, by simpa using hall, ?_⟩, ?_, rfl⟩
    · exact hperm.nodup_iff.2 (checkExpectedIds_nodup hexpected)
    · exact ⟨fun id => hperm.mem_iff.1, fun id => hperm.mem_iff.2⟩

/-! ## Controls -/

/-- No identifier is assigned twice, and each lies in the namespace of its image. -/
structure OciAssigned (requirements : List OciRequirement) : Prop where
  disjoint : requirements.Pairwise fun first second =>
    ∀ id ∈ second.expectedAssertionIds, id ∉ first.expectedAssertionIds
  owned : ∀ requirement ∈ requirements, ∀ id ∈ requirement.expectedAssertionIds,
    startsWith id (requirement.nameSpace ++ ".") = true

/-- Two requirements with a common identifier are one. -/
theorem OciAssigned.eq_of_mem {requirements : List OciRequirement} (h : OciAssigned requirements)
    {first second : OciRequirement} (hfirst : first ∈ requirements)
    (hsecond : second ∈ requirements) {id : String} (hid : id ∈ first.expectedAssertionIds)
    (hid' : id ∈ second.expectedAssertionIds) : first = second := by
  have hdisjoint := h.disjoint
  clear h
  induction requirements with
  | nil => cases hfirst
  | cons requirement requirements ih =>
    obtain ⟨hothers, hdisjoint⟩ := List.pairwise_cons.1 hdisjoint
    rw [List.mem_cons] at hfirst hsecond
    obtain rfl | hfirst := hfirst <;> obtain rfl | hsecond := hsecond
    · rfl
    · exact absurd hid (hothers second hsecond id hid')
    · exact absurd hid' (hothers first hfirst id hid)
    · exact ih hfirst hsecond hdisjoint

theorem foldlM_checkOciRequirement {schemaName path : String} {requirements : List OciRequirement}
    {k : ℕ} {assigned : List String} :
    (∃ all, (requirements.zipIdx k).foldlM (checkOciRequirement schemaName path) assigned =
        .ok all) ↔
      (∀ requirement ∈ requirements, ∀ id ∈ requirement.expectedAssertionIds, id ∉ assigned) ∧
        OciAssigned requirements := by
  induction requirements generalizing k assigned with
  | nil => exact ⟨fun _ => ⟨nofun, .nil, nofun⟩, fun _ => ⟨assigned, rfl⟩⟩
  | cons requirement requirements ih =>
    rw [List.zipIdx_cons, List.foldlM_cons]
    have hstep (all : List String) :
        checkOciRequirement schemaName path assigned (requirement, k) = .ok all ↔
          (∀ id ∈ requirement.expectedAssertionIds, id ∉ assigned) ∧
            (∀ id ∈ requirement.expectedAssertionIds,
              startsWith id (requirement.nameSpace ++ ".") = true) ∧
            all = assigned ++ requirement.expectedAssertionIds := by
      simp only [checkOciRequirement, seq_eq_ok, require_eq_ok]
      exact ⟨fun ⟨hnew, howned, h⟩ => ⟨hnew, howned, (Except.ok.inj h).symm⟩,
        fun ⟨hnew, howned, h⟩ => ⟨hnew, howned, h ▸ rfl⟩⟩
    simp only [bind_eq_ok, hstep]
    constructor
    · rintro ⟨all, _, ⟨hnew, howned, rfl⟩, hrest⟩
      obtain ⟨hrest, hassigned⟩ := ih.1 ⟨all, hrest⟩
      refine ⟨List.forall_mem_cons.2 ⟨hnew, fun r hr id hid h => ?_⟩, ?_, ?_⟩
      · exact hrest r hr id hid (List.mem_append_left _ h)
      · exact List.pairwise_cons.2 ⟨fun r hr id hid h =>
          hrest r hr id hid (List.mem_append_right _ h), hassigned.disjoint⟩
      · exact List.forall_mem_cons.2 ⟨howned, hassigned.owned⟩
    · rintro ⟨hnew, hdisjoint, howned⟩
      obtain ⟨hfirst, hdisjoint⟩ := List.pairwise_cons.1 hdisjoint
      obtain ⟨howned, hrest⟩ := List.forall_mem_cons.1 howned
      obtain ⟨hnew, hnewRest⟩ := List.forall_mem_cons.1 hnew
      have hstart : ∀ r ∈ requirements, ∀ id ∈ r.expectedAssertionIds,
          id ∉ assigned ++ requirement.expectedAssertionIds := by
        intro r hr id hid h
        rcases List.mem_append.1 h with h | h
        · exact hnewRest r hr id hid h
        · exact hfirst r hr id hid h
      obtain ⟨all, h⟩ := ih.2 ⟨hstart, hdisjoint, hrest⟩
      exact ⟨all, _, ⟨hnew, howned, rfl⟩, h⟩

/-- Whether requirements are accepted depends neither on the document nor on their place in it. -/
theorem validateOciRequirements_eq_ok {schemaName path : String}
    {requirements : List OciRequirement} :
    validateOciRequirements schemaName requirements path = .ok () ↔ OciAssigned requirements := by
  unfold validateOciRequirements
  rw [bind_eq_ok]
  constructor
  · rintro ⟨all, h, -⟩
    exact (foldlM_checkOciRequirement.1 ⟨all, h⟩).2
  · intro hassigned
    obtain ⟨all, h⟩ := foldlM_checkOciRequirement.2
      ⟨fun _ _ _ _ => List.not_mem_nil, hassigned⟩
    exact ⟨all, h, rfl⟩

/-- What accepted controls say of identifiers and namespaces. -/
structure ControlsAccepted (controls : MethodControls) : Prop where
  assertions_nodup : (controls.assertions.map (·.assertionId)).Nodup
  nameSpaces_nodup : controls.evaluatorRequirements.nameSpaces.Nodup
  unreserved : ∀ assertion ∈ controls.assertions,
    startsWith assertion.assertionId "policy-native-" = false
  assigned : ∀ requirements, controls.evaluatorRequirements = .oci requirements →
    OciAssigned requirements
  disjoint : ∀ assertion ∈ controls.assertions,
    assertion.assertionId ∉ controls.evaluatorRequirements.assignedIds

theorem validateNativeAssessmentControls_accepted {schemaName : String} {controls : MethodControls}
    (h : validateNativeAssessmentControls schemaName controls = .ok ()) :
    ControlsAccepted controls := by
  simp only [validateNativeAssessmentControls, requireDistinct, seq_eq_ok, require_eq_ok]
    at h
  obtain ⟨hassertions, hnameSpaces, hoci, -, hreserved, -⟩ := h
  refine ⟨hassertions, by simpa [Distinct] using hnameSpaces, fun assertion hmem => ?_, fun requirements heq => ?_,
    fun assertion hmem => ?_⟩
  · exact (require_eq_ok.1 (forM_eq_ok.1 hreserved assertion hmem)).2.2
  · unfold validateOciControls at hoci
    rw [heq] at hoci
    exact validateOciRequirements_eq_ok.1 (seq_eq_ok.1 hoci).1
  · unfold validateOciControls at hoci
    split at hoci
    · next heq => simp [heq, EvaluatorRequirements.assignedIds]
    · next requirements heq =>
      rw [heq]
      exact require_eq_ok.1 (seq_eq_ok.1 hoci).2 assertion hmem

theorem NativeInputs.controlsAccepted {ν : Type} (inputs : NativeInputs ν) :
    ControlsAccepted inputs.controls := by
  unfold NativeInputs.controls nativeControls
  cases inputs.selected with
  | none =>
    have haccepted := inputs.scenario.accepted
    exact validateNativeAssessmentControls_accepted (seq_eq_ok.1 haccepted).2
  | some selected => exact validateNativeAssessmentControls_accepted selected.accepted

/-! ## The evaluations of a native method -/

/-- `evaluate_acceptance` returns the evaluations of the metrics, of the policies and of each
evaluator, in this order. -/
theorem evaluateAcceptance_eq_ok {texts : MetricTexts} {context : EvaluationContext}
    {evaluators : List (String × EvaluatorRun)} {evaluations : List AssertionEvaluation}
    (h : evaluateAcceptance texts context evaluators = .ok evaluations) :
    ∃ metrics policies products,
      evaluateMetricAssertions texts context.assertions context.metricSamples
        (some context.window.startNs) (some context.window.endNs) = .ok metrics ∧
      context.policyEvaluations texts = .ok policies ∧
      List.Forall₂ (fun evaluator made => productEvaluations texts.toPyOps context.evidenceSha256
        evaluator = .ok made) evaluators products ∧
      evaluations = metrics ++ policies ++ products.flatten ∧
      (evaluations.map (·.assertionId)).Nodup := by
  unfold evaluateAcceptance at h
  obtain ⟨-, h⟩ := seq_eq_ok.1 h
  obtain ⟨-, h⟩ := seq_eq_ok.1 h
  obtain ⟨metrics, hmetrics, h⟩ := bind_eq_ok.1 h
  obtain ⟨policies, hpolicies, h⟩ := bind_eq_ok.1 h
  obtain ⟨products, hproducts, h⟩ := bind_eq_ok.1 h
  obtain ⟨-, h⟩ := seq_eq_ok.1 h
  obtain ⟨hnodup, h⟩ := seq_eq_ok.1 h
  obtain rfl := Except.ok.inj h
  exact ⟨metrics, policies, products, mapError_eq_ok.1 hmetrics, mapError_eq_ok.1 hpolicies,
    mapM_eq_ok.1 hproducts, rfl, require_eq_ok.1 hnodup⟩

/-- The evaluations of a native method are those of its metrics, of its evidence policy and of its
evaluators, under distinct identifiers. -/
structure NativeEvaluations {ν : Type} (inputs : NativeInputs ν)
    (evaluations : List AssertionEvaluation) : Prop where
  ids_nodup : (evaluations.map (·.assertionId)).Nodup
  origin : ∀ item ∈ evaluations,
    (item.IsCore ∧ item.assertionId ∈ inputs.controls.assertions.map (·.assertionId)) ∨
    (item.IsCore ∧ item.assertionId ∈ nativePolicyIds ∧ item.status ≠ .skipped) ∨
    ∃ nameSpace ∈ inputs.controls.evaluatorRequirements.nameSpaces, nameSpace ≠ "" ∧
      ProductOf nameSpace inputs.context.evidenceSha256 item
  declared : ∀ id ∈ inputs.controls.assertions.map (·.assertionId),
    ∃ item ∈ evaluations, item.IsCore ∧ item.assertionId = id
  policies : ∀ id ∈ nativePolicyIds, ∃ item ∈ evaluations, item.IsCore ∧ item.assertionId = id
  assigned : ∀ requirements, inputs.controls.evaluatorRequirements = .oci requirements →
    ∀ requirement ∈ requirements, ∀ id, id ∈ requirement.expectedAssertionIds ↔
      ∃ item ∈ evaluations, item.nameSpace = some requirement.nameSpace ∧ item.assertionId = id

namespace NativeInputs
variable {ν : Type} {inputs : NativeInputs ν}

/-- The evaluators of a method stand under the namespaces that it requires. -/
theorem evaluators_nameSpaces {py : PyOps} {run : AssessmentRun}
    {evaluators : List (String × EvaluatorRun)} (h : inputs.evaluators py run = .ok evaluators) :
    evaluators.map (·.1) = inputs.controls.evaluatorRequirements.nameSpaces := by
  unfold NativeInputs.evaluators at h
  split at h
  · next requirements heq =>
    obtain rfl := Except.ok.inj h
    rw [heq, List.map_map]
    rfl
  · next requirements heq =>
    rw [heq]
    refine (map_eq_of_forall₂ (fun requirement evaluator he => ?_) (mapM_eq_ok.1 h)).symm
    obtain ⟨_, -, he⟩ := bind_eq_ok.1 he
    obtain rfl := Except.ok.inj he
    rfl

theorem evaluators_oci {py : PyOps} {run : AssessmentRun} {requirements : List OciRequirement}
    {evaluators : List (String × EvaluatorRun)}
    (heq : inputs.controls.evaluatorRequirements = .oci requirements)
    (h : inputs.evaluators py run = .ok evaluators) :
    evaluators = requirements.map fun requirement =>
      (requirement.nameSpace, inputs.ociRun py run requirement) := by
  unfold NativeInputs.evaluators at h
  rw [heq] at h
  exact (Except.ok.inj h).symm

/-- The image of a requirement evaluates exactly its assigned identifiers, or the assessment
fails. -/
theorem productEvaluations_ociRun {py : PyOps} {run : AssessmentRun} {requirement : OciRequirement}
    {made : List AssertionEvaluation}
    (h : productEvaluations py inputs.context.evidenceSha256
      (requirement.nameSpace, inputs.ociRun py run requirement) = .ok made) :
    (made.map (·.assertionId)).Perm requirement.expectedAssertionIds := by
  obtain ⟨-, hrun, -⟩ := productEvaluations_eq_ok.1 h
  unfold ociRun at hrun
  split at hrun
  · cases congrArg (·.failure) hrun
  · next response _ =>
    split at hrun
    · next evaluations hdecode =>
      obtain ⟨-, -, -, -, hperm⟩ := decodeEvaluatorResponse_eq_ok.1 hdecode
      have hmade : evaluations = made :=
        (List.map_injective_iff.2 fun _ _ => Produced.evaluation.inj) (congrArg (·.produced) hrun)
      rwa [← hmade]
    · cases congrArg (·.failure) hrun

theorem nativeEvaluations {texts : MetricTexts} {run : AssessmentRun}
    {evaluators : List (String × EvaluatorRun)} {evaluations : List AssertionEvaluation}
    (hevaluators : inputs.evaluators texts.toPyOps run = .ok evaluators)
    (h : evaluateAcceptance texts inputs.context evaluators = .ok evaluations) :
    NativeEvaluations inputs evaluations := by
  obtain ⟨metrics, policies, products, hmetrics, hpolicies, hproducts, rfl, hnodup⟩ :=
    evaluateAcceptance_eq_ok h
  have hids := evaluateMetricAssertions_identifiers hmetrics
  have hcore := evaluateMetricAssertions_isCore hmetrics
  obtain rfl : evaluateNativeEvidencePolicy inputs.controls.evidencePolicy inputs.evidence =
    policies := Except.ok.inj hpolicies
  have hpolicyIds := evaluateNativeEvidencePolicy_identifiers inputs.controls.evidencePolicy
    inputs.evidence
  have hpolicyCore : ∀ item ∈ evaluateNativeEvidencePolicy inputs.controls.evidencePolicy
      inputs.evidence, item.IsCore ∧ item.status ≠ .skipped := by
    intro item hitem
    obtain ⟨check, -, rfl⟩ := List.mem_map.1 hitem
    exact ⟨booleanEvaluation_isCore _ _ _, booleanEvaluation_ne_skipped _ _ _⟩
  have hproduct : ∀ item ∈ products.flatten, ∃ evaluator ∈ evaluators, ∃ made ∈ products,
      item ∈ made ∧ productEvaluations texts.toPyOps inputs.context.evidenceSha256 evaluator =
        .ok made ∧ ProductOf evaluator.1 inputs.context.evidenceSha256 item := by
    intro item hitem
    obtain ⟨made, hmade, hitem⟩ := List.mem_flatten.1 hitem
    obtain ⟨evaluator, hevaluator, hok⟩ := exists_of_forall₂_mem hproducts hmade
    exact ⟨evaluator, hevaluator, made, hmade, hitem, hok,
      (productEvaluations_eq_ok.1 hok).2.2 item hitem⟩
  refine ⟨hnodup, fun item hitem => ?_, fun id hid => ?_, fun id hid => ?_,
    fun requirements heq requirement hrequirement id => ⟨fun hid => ?_, ?_⟩⟩
  · rcases List.mem_append.1 hitem with hitem | hitem
    · rcases List.mem_append.1 hitem with hitem | hitem
      · exact .inl ⟨hcore item hitem, hids ▸ List.mem_map_of_mem hitem⟩
      · exact .inr (.inl ⟨(hpolicyCore item hitem).1, hpolicyIds ▸ List.mem_map_of_mem hitem,
          (hpolicyCore item hitem).2⟩)
    · obtain ⟨evaluator, hevaluator, made, -, -, hok, hof⟩ := hproduct item hitem
      refine .inr (.inr ⟨evaluator.1,
        evaluators_nameSpaces hevaluators ▸ List.mem_map_of_mem hevaluator, fun hempty => ?_, hof⟩)
      obtain ⟨hdot, -⟩ := productEvaluations_eq_ok.1 hok
      rw [hempty] at hdot
      exact absurd hdot (by decide)
  · obtain ⟨item, hitem, rfl⟩ := List.mem_map.1 (hids.symm ▸ hid)
    exact ⟨item, List.mem_append_left _ (List.mem_append_left _ hitem), hcore item hitem, rfl⟩
  · obtain ⟨item, hitem, rfl⟩ := List.mem_map.1 (hpolicyIds.symm ▸ hid)
    exact ⟨item, List.mem_append_left _ (List.mem_append_right _ hitem),
      (hpolicyCore item hitem).1, rfl⟩
  · obtain rfl := evaluators_oci heq hevaluators
    obtain ⟨made, hmade, hok⟩ := exists_of_forall₂_mem hproducts.flip
      (List.mem_map_of_mem hrequirement)
    obtain ⟨item, hitem, rfl⟩ := List.mem_map.1 ((productEvaluations_ociRun hok).mem_iff.2 hid)
    exact ⟨item, List.mem_append_right _ (List.mem_flatten.2 ⟨made, hmade, hitem⟩),
      ((productEvaluations_eq_ok.1 hok).2.2 item hitem).nameSpace, rfl⟩
  · rintro ⟨item, hitem, hnameSpace, rfl⟩
    have hitem : item ∈ products.flatten := by
      rcases List.mem_append.1 hitem with hitem | hitem
      · have : item.IsCore := (List.mem_append.1 hitem).elim (hcore item)
          fun hitem => (hpolicyCore item hitem).1
        rw [this.nameSpace] at hnameSpace
        cases hnameSpace
      · exact hitem
    obtain ⟨evaluator, hevaluator, made, hmade, hitem, hok, hof⟩ := hproduct item hitem
    obtain rfl := evaluators_oci heq hevaluators
    obtain ⟨owner, howner, rfl⟩ := List.mem_map.1 hevaluator
    -- Two requirements of one namespace are one requirement.
    have hsame : owner.nameSpace = requirement.nameSpace :=
      Option.some.inj (hof.nameSpace.symm.trans hnameSpace)
    have hdistinct := inputs.controlsAccepted.nameSpaces_nodup
    rw [heq] at hdistinct
    obtain rfl := List.inj_on_of_nodup_map hdistinct howner hrequirement hsame
    exact (productEvaluations_ociRun hok).mem_iff.1 (List.mem_map_of_mem hitem)

end NativeInputs

end RoboticsRuntime.Harness
