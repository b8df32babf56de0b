import RoboticsRuntime.Contracts.ArchiveCoverage
import RoboticsRuntime.Verify.NativeRederivation

/-!
# Coverage that an archive verifies

The harness takes the digests of all links of a run for original evidence, and the one of the
metrics file, which it chooses by its media type; the archive takes those of the artifacts that are
no acceptance observation, and those of the kind `metrics`. A coverage that the harness declares is
verified exactly where this makes no difference to what its criteria cite.
-/

namespace RoboticsRuntime.Harness
open Theory Contracts

variable {ν : Type} {inputs : NativeInputs ν} {run : AssessmentRun}
  {observations : List (String × NativeObservation ν)} {window : Option MeasurementWindow}
  {original : OriginalExecution} {evaluations : List AssertionEvaluation} {status : OutcomeStatus}

/-- The evidence that decided evaluations cite is what an archive takes for their source. -/
structure SourcesRecognised (inputs : NativeInputs ν) (evaluations : List AssertionEvaluation) :
    Prop where
  product : ∀ item ∈ evaluations, item.source = .product →
    (item.status = .passed ∨ item.status = .failed) →
    ∀ sha256 ∈ item.evidenceSha256, sha256 ∈ inputs.context.originalEvidenceSha256 →
      sha256 ∈ rawSources inputs.evidence.index.artifacts
  metric : ∀ item ∈ evaluations, item.source = .core → item.assertionId ∈ inputs.declaredIds →
    (item.status = .passed ∨ item.status = .failed) → item.observedValue ≠ none →
    ∀ sha256 ∈ inputs.metricEvidenceSha256,
      sha256 ∈ metricSources inputs.evidence.index.artifacts

/-! ## Criteria -/

theorem rawSources_original {sha256 : String}
    (h : sha256 ∈ rawSources inputs.evidence.index.artifacts) :
    sha256 ∈ inputs.context.originalEvidenceSha256 := by
  obtain ⟨artifact, hartifact, rfl⟩ := List.mem_map.1 h
  refine List.mem_map.2 ⟨resultLink artifact, List.mem_map_of_mem (List.mem_filter.1 hartifact).1, ?_⟩
  rfl

/-- No declared identifier is one of the evidence policy. -/
theorem not_nativePolicy_of_declared {id : String} (hid : id ∈ inputs.declaredIds) :
    id ∉ nativePolicyAssertions := by
  rw [nativePolicyAssertions_eq]
  intro hpolicy
  rcases List.mem_append.1 hid with hid | hid
  · obtain ⟨assertion, hassertion, rfl⟩ := List.mem_map.1 hid
    have := inputs.controlsAccepted.unreserved assertion hassertion
    rw [startsWith_nativePolicyIds hpolicy] at this
    cases this
  · cases heq : inputs.controls.evaluatorRequirements with
    | installed requirements =>
      rw [heq] at hid
      cases hid
    | oci requirements =>
      rw [heq] at hid
      exact NativeInputs.not_mem_assigned_of_policy
        (inputs.controlsAccepted.assigned requirements heq) hpolicy hid

/-- What the harness classifies is a criterion of the archive. -/
theorem isCriterion_of_criteria {item : AssertionEvaluation}
    (h : item ∈ inputs.criteria evaluations) : isCriterion item.result :=
  (of_decide_eq_true (List.mem_filter.1 h).2).imp_right not_nativePolicy_of_declared

/-- The criteria of the archive, as evaluations. -/
def archiveCriteria (evaluations : List AssertionEvaluation) : List AssertionEvaluation :=
  evaluations.filter (isCriterion ·.result)

/-- The archive accepts criteria with distinct identifiers only. -/
theorem criterionResults_eq_ok {document : NativeResult ν} {criteria : List AssertionResult}
    (h : document.assertionResults = evaluations.map (·.result)) :
    criterionResults document = .ok criteria ↔
      Distinct (·.assertionId) (archiveCriteria evaluations) ∧
        criteria = (archiveCriteria evaluations).map (·.result) := by
  have hselected : (evaluations.map (·.result)).filter (isCriterion ·) =
      (archiveCriteria evaluations).map (·.result) := by
    rw [List.filter_map]
    rfl
  have hdistinct : Distinct (·.assertionId) ((archiveCriteria evaluations).map (·.result)) ↔
      Distinct (·.assertionId) (archiveCriteria evaluations) := by
    rw [Distinct, Distinct, List.map_map]
    rfl
  unfold criterionResults
  rw [h, hselected, seq_eq_ok, require_eq_ok, hdistinct]
  exact and_congr_right fun _ => ⟨fun h => (Except.ok.inj h).symm, fun h => h ▸ rfl⟩

/-- Each covered criterion stands for one evaluation, which the archive finds. -/
theorem covered_criterion (hdistinct : Distinct (·.assertionId) (archiveCriteria evaluations))
    {item : CoveredAssertion}
    (hitem : item ∈ (inputs.criterionCoverage evaluations).coveredAssertions) :
    ∃ evaluation ∈ inputs.criteria evaluations,
      ((archiveCriteria evaluations).map (·.result)).find? (·.assertionId = item.assertionId) =
        some evaluation.result ∧
      inputs.criterionEvidence evaluation = item.evidenceSha256 ∧ item.evidenceSha256 ≠ [] := by
  obtain ⟨evaluation, hmem, hid, hcriterion, hevidence, hne⟩ :=
    NativeInputs.covered_evaluation hitem
  have hcriteria : evaluation ∈ inputs.criteria evaluations :=
    List.mem_filter.2 ⟨hmem, decide_eq_true hcriterion⟩
  have harchive : evaluation ∈ archiveCriteria evaluations :=
    List.mem_filter.2 ⟨hmem, decide_eq_true (isCriterion_of_criteria hcriteria)⟩
  refine ⟨evaluation, hcriteria, ?_, hevidence, hne⟩
  have hresults : Distinct (·.assertionId) ((archiveCriteria evaluations).map (·.result)) := by
    rw [Distinct, List.map_map]
    exact hdistinct
  rw [← hid]
  exact hresults.find?_eq (List.mem_map_of_mem harchive)

/-- Where criteria are distinct, each one with evidence is covered by it. -/
theorem covered_of_evidence (hdistinct : Distinct (·.assertionId) (archiveCriteria evaluations))
    {evaluation : AssertionEvaluation} (h : evaluation ∈ inputs.criteria evaluations)
    (hne : inputs.criterionEvidence evaluation ≠ []) :
    ⟨evaluation.assertionId, inputs.criterionEvidence evaluation⟩ ∈
      (inputs.criterionCoverage evaluations).coveredAssertions := by
  have hsublist : (inputs.criteria evaluations).Sublist (archiveCriteria evaluations) := by
    refine List.monotone_filter_right _ fun item hitem => ?_
    have hcriterion := of_decide_eq_true hitem
    exact decide_eq_true (hcriterion.imp_right not_nativePolicy_of_declared)
  have hcriteria : Distinct (·.assertionId) (inputs.criteria evaluations).reverse := by
    rw [Distinct, List.map_reverse, List.nodup_reverse]
    exact hdistinct.sublist (hsublist.map _)
  refine NativeInputs.mem_coveredAssertions.2 ⟨?_, NativeInputs.criterion_eq_inl.2
    ⟨evaluation, hcriteria.find?_eq (List.mem_reverse.2 h), hne, rfl⟩⟩
  exact mem_sortedSet.2 (List.mem_append_left _ (List.mem_map_of_mem h))

/-! ## Evidence -/

/-- The archive recognises what one evaluation cites. -/
def EvidenceRecognised (inputs : NativeInputs ν) (item : AssertionEvaluation) : Prop :=
  match item.source with
  | .product => ∀ sha256 ∈ item.evidenceSha256, sha256 ∈ inputs.context.originalEvidenceSha256 →
      sha256 ∈ rawSources inputs.evidence.index.artifacts
  | .core => ∀ sha256 ∈ inputs.metricEvidenceSha256,
      sha256 ∈ metricSources inputs.evidence.index.artifacts

theorem checkCoveredCriterion_iff {evaluation : AssertionEvaluation} {id : String}
    (hne : inputs.criterionEvidence evaluation ≠ []) :
    checkCoveredCriterion inputs.evidence.index.artifacts
        (⟨id, inputs.criterionEvidence evaluation⟩, evaluation.result) = .ok () ↔
      EvidenceRecognised inputs evaluation := by
  have hdecided := NativeInputs.criterionEvidence_decided hne
  have hskipped : evaluation.result.status ≠ .skipped := by
    intro hskipped
    rcases hdecided with h | h <;> cases h.symm.trans hskipped
  unfold checkCoveredCriterion EvidenceRecognised
  dsimp only
  cases hsource : evaluation.source with
  | core =>
    have hevidence : inputs.criterionEvidence evaluation = inputs.metricEvidenceSha256.toList ∧
        evaluation.observedValue ≠ none := by
      unfold NativeInputs.criterionEvidence at hne ⊢
      rw [if_pos hdecided, if_neg (by rw [hsource]; exact nofun)] at hne ⊢
      split at hne
      · exact absurd rfl hne
      · next hvalue => exact ⟨if_neg hvalue, hvalue⟩
    rw [show evaluation.result.source = .core from hsource]
    dsimp only
    rw [hevidence.1] at hne ⊢
    cases hmetric : inputs.metricEvidenceSha256 with
    | none => exact absurd (congrArg Option.toList hmetric) hne
    | some sha256 =>
      simp only [seq_eq_ok, require_eq_ok]
      constructor
      · rintro ⟨⟨-, hsources⟩, -⟩ other ⟨⟩
        exact hsources sha256 (List.mem_singleton.2 rfl)
      · intro hsources
        refine ⟨⟨rfl, fun other hother => hsources other ?_⟩,
          Option.isSome_iff_ne_none.2 hevidence.2, List.cons_ne_nil _ _, hskipped⟩
        rw [List.mem_singleton.1 hother]
        rfl
  | product =>
    have hevidence : inputs.criterionEvidence evaluation = sortedSet
        (evaluation.evidenceSha256.filter (· ∈ inputs.context.originalEvidenceSha256)) := by
      unfold NativeInputs.criterionEvidence
      rw [if_pos hdecided, if_pos hsource]
    have hcited : evaluation.result.evidenceSha256.getD [] = evaluation.evidenceSha256 := by
      change (if evaluation.evidenceSha256 = [] then none
        else some evaluation.evidenceSha256).getD [] = _
      split
      · next hempty => exact hempty.symm
      · rfl
    rw [show evaluation.result.source = .product from hsource]
    dsimp only
    rw [require_eq_ok, hcited]
    have hmem (sha256 : String) : sha256 ∈ inputs.criterionEvidence evaluation ↔
        sha256 ∈ evaluation.evidenceSha256 ∧
          sha256 ∈ inputs.context.originalEvidenceSha256 := by
      rw [hevidence, mem_sortedSet, List.mem_filter, decide_eq_true_eq]
    constructor
    · rintro ⟨-, ⟨hdeclared, -⟩, -⟩ sha256 hsha256 horiginal
      simpa using (List.mem_filter.1 (hdeclared sha256 ((hmem sha256).2 ⟨hsha256, horiginal⟩))).2
    · intro hraw
      have hdeclared : ∀ sha256 ∈ inputs.criterionEvidence evaluation,
          sha256 ∈ evaluation.evidenceSha256.filter
            (· ∈ rawSources inputs.evidence.index.artifacts) := by
        intro sha256 hsha256
        obtain ⟨hcites, horiginal⟩ := (hmem sha256).1 hsha256
        exact List.mem_filter.2 ⟨hcites, decide_eq_true (hraw sha256 hcites horiginal)⟩
      obtain ⟨sha256, hsha256⟩ := List.exists_mem_of_ne_nil _ hne
      refine ⟨List.ne_nil_of_mem (hdeclared sha256 hsha256), ⟨hdeclared, fun other hother => ?_⟩,
        hskipped⟩
      obtain ⟨hcites, hother⟩ := List.mem_filter.1 hother
      exact (hmem other).2 ⟨hcites, rawSources_original (of_decide_eq_true hother)⟩

/-- The archive accepts what every covered criterion cites exactly where it recognises the sources
of the decided evaluations. -/
theorem covered_accepted_iff (hdistinct : Distinct (·.assertionId) (archiveCriteria evaluations)) :
    (∀ item ∈ (inputs.criterionCoverage evaluations).coveredAssertions, ∃ assertion,
      ((archiveCriteria evaluations).map (·.result)).find? (·.assertionId = item.assertionId) =
        some assertion ∧
      checkCoveredCriterion inputs.evidence.index.artifacts (item, assertion) = .ok ()) ↔
      SourcesRecognised inputs evaluations := by
  constructor
  · intro haccepted
    have hrecognised : ∀ evaluation ∈ inputs.criteria evaluations,
        inputs.criterionEvidence evaluation ≠ [] → EvidenceRecognised inputs evaluation := by
      intro evaluation hevaluation hne
      have hcovered := covered_of_evidence hdistinct hevaluation hne
      obtain ⟨assertion, hfind, hcheck⟩ := haccepted _ hcovered
      obtain ⟨other, hother, hfind', hevidence, -⟩ := covered_criterion hdistinct hcovered
      obtain rfl := Option.some.inj (hfind.symm.trans hfind')
      have harchive (item : AssertionEvaluation) (hitem : item ∈ inputs.criteria evaluations) :
          item ∈ archiveCriteria evaluations :=
        List.mem_filter.2 ⟨(List.mem_filter.1 hitem).1,
          decide_eq_true (isCriterion_of_criteria hitem)⟩
      have hid : other.assertionId = evaluation.assertionId := by
        have hfound := List.find?_some hfind
        exact of_decide_eq_true hfound
      obtain rfl := hdistinct.eq_of_mem (harchive other hother) (harchive evaluation hevaluation) hid
      exact (checkCoveredCriterion_iff hne).1 hcheck
    refine ⟨fun item hitem hsource hdecided sha256 hsha256 horiginal => ?_,
      fun item hitem hsource hdeclared hdecided hvalue sha256 hsha256 => ?_⟩
    · have hevidence : inputs.criterionEvidence item = sortedSet
          (item.evidenceSha256.filter (· ∈ inputs.context.originalEvidenceSha256)) := by
        unfold NativeInputs.criterionEvidence
        rw [if_pos hdecided, if_pos hsource]
      have hmem : sha256 ∈ inputs.criterionEvidence item := by
        rw [hevidence, mem_sortedSet]
        exact List.mem_filter.2 ⟨hsha256, decide_eq_true horiginal⟩
      have := hrecognised item (List.mem_filter.2 ⟨hitem, decide_eq_true (.inl hsource)⟩)
        (List.ne_nil_of_mem hmem)
      unfold EvidenceRecognised at this
      rw [hsource] at this
      exact this sha256 hsha256 horiginal
    · have hevidence : inputs.criterionEvidence item = inputs.metricEvidenceSha256.toList := by
        unfold NativeInputs.criterionEvidence
        rw [if_pos hdecided, if_neg (by rw [hsource]; exact nofun), if_neg hvalue]
      have hne : inputs.criterionEvidence item ≠ [] := by
        rw [hevidence, Option.mem_def.1 hsha256]
        exact List.cons_ne_nil _ _
      have := hrecognised item (List.mem_filter.2 ⟨hitem, decide_eq_true (.inr hdeclared)⟩) hne
      unfold EvidenceRecognised at this
      rw [hsource] at this
      exact this sha256 hsha256
  · intro hrecognised item hitem
    obtain ⟨evaluation, hcriteria, hfind, hevidence, hne⟩ := covered_criterion hdistinct hitem
    refine ⟨_, hfind, ?_⟩
    obtain ⟨id, evidence⟩ := item
    obtain rfl : inputs.criterionEvidence evaluation = evidence := hevidence
    refine (checkCoveredCriterion_iff hne).2 ?_
    have hdecided := NativeInputs.criterionEvidence_decided hne
    obtain ⟨hmem, hcriterion⟩ := List.mem_filter.1 hcriteria
    unfold EvidenceRecognised
    cases hsource : evaluation.source with
    | product => exact hrecognised.product evaluation hmem hsource hdecided
    | core =>
      have hdeclared : evaluation.assertionId ∈ inputs.declaredIds := by
        rcases of_decide_eq_true hcriterion with h | h
        · cases hsource.symm.trans h
        · exact h
      refine hrecognised.metric evaluation hmem hsource hdeclared hdecided fun hvalue => hne ?_
      unfold NativeInputs.criterionEvidence
      rw [if_pos hdecided, if_neg (by rw [hsource]; exact nofun), if_pos hvalue]

/-! ## The whole check -/

theorem expectedCriteria_draft {criteria : List AssertionResult} :
    expectedCriteria (inputs.draft run observations window original evaluations status)
        inputs.controls criteria =
      criteria.map (·.assertionId) ++ inputs.controls.evaluatorRequirements.assignedIds := by
  unfold expectedCriteria NativeInputs.draft
  dsimp only
  congr 1
  split
  · next heq =>
    rw [heq]
    rfl
  · rfl

/-- The harness classifies the criteria of the archive. -/
theorem classifiedCriteria_draft (h : NativeEvaluations inputs evaluations) :
    ∃ classified, classifiedCriteria (inputs.criterionCoverage evaluations)
        ((archiveCriteria evaluations).map (·.result))
        (((archiveCriteria evaluations).map (·.result)).map (·.assertionId) ++
          inputs.controls.evaluatorRequirements.assignedIds) = .ok classified ∧
      List.Forall₂ (fun item entry => ∃ assertion,
        ((archiveCriteria evaluations).map (·.result)).find? (·.assertionId = item.assertionId) =
          some assertion ∧ entry = (item, assertion))
        (inputs.criterionCoverage evaluations).coveredAssertions classified := by
  have hdistinct : Distinct (·.assertionId) (archiveCriteria evaluations) :=
    h.ids_nodup.sublist (List.filter_sublist.map _)
  have hexpected (id : String) : id ∈ ((archiveCriteria evaluations).map (·.result)).map
      (·.assertionId) ++ inputs.controls.evaluatorRequirements.assignedIds ↔
        id ∈ inputs.criterionIds evaluations := by
    unfold NativeInputs.criterionIds
    rw [mem_sortedSet, List.mem_append, List.mem_append, List.map_map]
    constructor
    · rintro (hid | hid)
      · obtain ⟨item, hitem, rfl⟩ := List.mem_map.1 hid
        obtain ⟨hmem, hcriterion⟩ := List.mem_filter.1 hitem
        rcases h.origin item hmem with ⟨-, hdeclared⟩ | ⟨hcore, hpolicy, -⟩ | ⟨_, -, -, hof⟩
        · exact .inr (List.mem_append_left _ hdeclared)
        · rcases of_decide_eq_true hcriterion with hproduct | hnot
          · cases hcore.source.symm.trans hproduct
          · exact absurd (nativePolicyAssertions_eq ▸ hpolicy) hnot
        · exact .inl (List.mem_map_of_mem (List.mem_filter.2
            ⟨hmem, decide_eq_true (.inl hof.source)⟩))
      · exact .inr (List.mem_append_right _ hid)
    · rintro (hid | hid)
      · obtain ⟨item, hitem, rfl⟩ := List.mem_map.1 hid
        exact .inl (List.mem_map.2 ⟨item, List.mem_filter.2 ⟨(List.mem_filter.1 hitem).1,
          decide_eq_true (isCriterion_of_criteria hitem)⟩, rfl⟩)
      · rcases List.mem_append.1 hid with hdeclared | hassigned
        · obtain ⟨item, hmem, -, hsame⟩ := h.declared id hdeclared
          refine .inl (List.mem_map.2 ⟨item, List.mem_filter.2 ⟨hmem, decide_eq_true (.inr ?_)⟩,
            hsame⟩)
          rw [show item.result.assertionId = id from hsame]
          exact not_nativePolicy_of_declared hid
        · exact .inr hassigned
  have hmem (id : String) : id ∈
      (inputs.criterionCoverage evaluations).coveredAssertions.map (·.assertionId) ++
        (inputs.criterionCoverage evaluations).uncoveredAssertions.map (·.assertionId) ↔
      id ∈ inputs.criterionIds evaluations := by
    rw [List.mem_append]
    constructor
    · rintro (hid | hid)
      · obtain ⟨item, hitem, rfl⟩ := List.mem_map.1 hid
        exact (NativeInputs.mem_coveredAssertions.1 hitem).1
      · obtain ⟨item, hitem, rfl⟩ := List.mem_map.1 hid
        exact (NativeInputs.mem_uncoveredAssertions.1 hitem).1
    · exact NativeInputs.mem_criterionIds
  have hfound : ∀ item ∈ (inputs.criterionCoverage evaluations).coveredAssertions, ∃ entry,
      coveredCriterion ((archiveCriteria evaluations).map (·.result)) item = .ok entry := by
    intro item hitem
    obtain ⟨evaluation, -, hfind, -⟩ := covered_criterion hdistinct hitem
    exact ⟨(item, evaluation.result), bind_eq_ok.2 ⟨_, demand_eq_ok.2 hfind, rfl⟩⟩
  obtain ⟨classified, hclassified⟩ := exists_mapM_eq_ok.2 hfound
  refine ⟨classified, seq_eq_ok.2 ⟨require_of ⟨NativeInputs.coveredAssertions_nodup,
    NativeInputs.uncoveredAssertions_nodup, fun id hid => ?_, fun id hid =>
      (hexpected id).2 ((hmem id).1 hid), fun id hid => (hmem id).2 ((hexpected id).1 hid)⟩,
    hclassified⟩, ?_⟩
  · obtain ⟨item, hitem, rfl⟩ := List.mem_map.1 hid
    exact NativeInputs.covered_not_uncovered hitem
  · refine (mapM_eq_ok.1 hclassified).imp fun item entry hentry => ?_
    obtain ⟨assertion, hfind, h⟩ := bind_eq_ok.1 hentry
    exact ⟨assertion, demand_eq_ok.1 hfind, (Except.ok.inj h).symm⟩

/-- For the evaluations that `evaluate_acceptance` returns, only evidence can fail the check. -/
theorem archiveCoverage_iff (h : NativeEvaluations inputs evaluations) :
    (∃ checked, archiveCoverage
      (inputs.draft run observations window original evaluations status) inputs.controls
      inputs.evidence.index.artifacts = .ok checked) ↔ SourcesRecognised inputs evaluations := by
  have hdistinct : Distinct (·.assertionId) (archiveCriteria evaluations) :=
    h.ids_nodup.sublist (List.filter_sublist.map _)
  rw [← covered_accepted_iff hdistinct]
  obtain ⟨classified, hclassified, hentries⟩ := classifiedCriteria_draft h
  constructor
  · rintro ⟨checked, hchecked⟩ item hitem
    obtain ⟨criteria, hcriteria, hchecked⟩ := bind_eq_ok.1 hchecked
    obtain ⟨-, rfl⟩ := (criterionResults_eq_ok rfl).1 hcriteria
    obtain ⟨classified', hclassified', hchecked⟩ := bind_eq_ok.1 hchecked
    rw [expectedCriteria_draft] at hclassified'
    obtain rfl := Except.ok.inj (hclassified.symm.trans hclassified')
    obtain ⟨hall, -⟩ := seq_eq_ok.1 hchecked
    obtain ⟨entry, hentry, assertion, hfind, rfl⟩ := exists_of_forall₂_mem hentries.flip hitem
    exact ⟨assertion, hfind, forM_eq_ok.1 hall _ hentry⟩
  · intro haccepted
    have hall : classified.forM (checkCoveredCriterion inputs.evidence.index.artifacts) =
        .ok () := by
      refine forM_eq_ok.2 fun entry hentry => ?_
      obtain ⟨item, hitem, assertion, hfind, rfl⟩ := exists_of_forall₂_mem hentries hentry
      obtain ⟨other, hother, hcheck⟩ := haccepted item hitem
      obtain rfl := Option.some.inj (hfind.symm.trans hother)
      exact hcheck
    refine ⟨_, bind_eq_ok.2 ⟨_, (criterionResults_eq_ok rfl).2 ⟨hdistinct, rfl⟩,
      bind_eq_ok.2 ⟨classified, ?_, seq_eq_ok.2 ⟨hall, rfl⟩⟩⟩⟩
    rw [expectedCriteria_draft]
    exact hclassified

/-- The archive accepts the evidence of every covered criterion exactly where no criterion is named
twice and it recognises the sources; for the evaluations that `evaluate_acceptance` returns the
latter is all that the whole check depends on. -/
theorem coverage_verified_iff (inputs : NativeInputs ν) (run : AssessmentRun)
    (observations : List (String × NativeObservation ν)) (window : Option MeasurementWindow)
    (original : OriginalExecution) (evaluations : List AssertionEvaluation)
    (status : OutcomeStatus) :
    ((∃ criteria, criterionResults (inputs.draft run observations window original evaluations
        status) = .ok criteria ∧
      ∀ item ∈ (inputs.criterionCoverage evaluations).coveredAssertions, ∃ assertion,
        criteria.find? (·.assertionId = item.assertionId) = some assertion ∧
        checkCoveredCriterion inputs.evidence.index.artifacts (item, assertion) = .ok ()) ↔
      Distinct (·.assertionId) (archiveCriteria evaluations) ∧
        SourcesRecognised inputs evaluations) ∧
    ∀ texts evaluators, inputs.evaluators texts.toPyOps run = .ok evaluators →
      evaluateAcceptance texts inputs.context evaluators = .ok evaluations →
      ((∃ checked, archiveCoverage (inputs.draft run observations window original evaluations
        status) inputs.controls inputs.evidence.index.artifacts = .ok checked) ↔
          SourcesRecognised inputs evaluations) := by
  refine ⟨⟨?_, fun ⟨hdistinct, hrecognised⟩ => ?_⟩, fun texts evaluators hevaluators h =>
    archiveCoverage_iff (NativeInputs.nativeEvaluations hevaluators h)⟩
  · rintro ⟨criteria, hcriteria, hall⟩
    obtain ⟨hdistinct, rfl⟩ := (criterionResults_eq_ok rfl).1 hcriteria
    exact ⟨hdistinct, (covered_accepted_iff hdistinct).1 hall⟩
  · exact ⟨_, (criterionResults_eq_ok rfl).2 ⟨hdistinct, rfl⟩,
      (covered_accepted_iff hdistinct).2 hrecognised⟩

theorem coverage_verified_iff_lab : ∃ evaluators evaluations,
    labInputs.evaluators exactTexts.toPyOps (labRun ["aa"]) = .ok evaluators ∧
      evaluateAcceptance exactTexts labInputs.context evaluators = .ok evaluations ∧
      ((∃ checked, archiveCoverage (labInputs.draft (labRun ["aa"]) [] none
        ⟨"run-sha256", "observation-sha256", "index-sha256", 0, 10, none⟩ evaluations .passed)
        labInputs.controls labInputs.evidence.index.artifacts = .ok checked) ↔
          SourcesRecognised labInputs evaluations) := by
  have h : ((labInputs.evaluators exactTexts.toPyOps (labRun ["aa"])).toOption.any fun evaluators =>
      (evaluateAcceptance exactTexts labInputs.context evaluators).toOption.isSome) = true := by
    decide +kernel
  obtain ⟨evaluators, hevaluators, hsome⟩ := exists_ok_of_any h
  obtain ⟨evaluations, hevaluations⟩ := Option.isSome_iff_exists.1 hsome
  have hok : evaluateAcceptance exactTexts labInputs.context evaluators = .ok evaluations := by
    cases hresult : evaluateAcceptance exactTexts labInputs.context evaluators with
    | error failure =>
      rw [hresult] at hevaluations
      cases hevaluations
    | ok made =>
      rw [hresult] at hevaluations
      exact congrArg Except.ok (Option.some.inj hevaluations)
  exact ⟨evaluators, evaluations, hevaluators, hok,
    (coverage_verified_iff labInputs _ _ _ _ _ _).2 exactTexts evaluators hevaluators hok⟩

/-- The harness covers a criterion by the observation document, the archive does not. -/
theorem not_archiveCoverage_lab : ¬ ∀ (inputs : NativeInputs Unit) (texts : MetricTexts)
    (run : AssessmentRun) (result : NativeResult Unit), inputs.assemble texts run = .ok result →
      ∃ checked, archiveCoverage result inputs.controls inputs.evidence.index.artifacts =
        .ok checked := by
  intro hall
  have h : (labInputs.assemble exactTexts (labRun ["aa", "bb"])).toOption.any (fun result =>
      (archiveCoverage result labInputs.controls labInputs.evidence.index.artifacts).toOption.isNone)
      = true := by
    decide +kernel
  obtain ⟨result, h, hnone⟩ := exists_ok_of_any h
  obtain ⟨checked, hchecked⟩ := hall _ _ _ _ h
  rw [hchecked] at hnone
  cases hnone

end RoboticsRuntime.Harness
