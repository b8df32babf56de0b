import RoboticsRuntime.Verify.ArchiveCoverage

/-!
# Passed native results

What a passed native result means: of one that the assessment assembles, and of any document that the
validator and the clauses of the bundle verifier accept, whoever wrote it.
-/

namespace RoboticsRuntime.Harness
open Theory Contracts

variable {ν : Type} {inputs : NativeInputs ν} {run : AssessmentRun} {result : NativeResult ν}

/-! ## The worst status -/

/-- An assessment passes where it has assertions, all of them pass and nothing is missing. -/
theorem assessmentStatus_eq_passed {statuses : List AssertionStatus} {missing : List String} :
    assessmentStatus statuses missing = .ok .passed ↔
      statuses ≠ [] ∧ (∀ status ∈ statuses, status = .passed) ∧ missing = [] := by
  have hcancelled : OutcomeStatus.cancelled ∉
      statuses.map (·.assessed) ++ if missing = [] then [] else [.incomplete] := by
    rw [List.mem_append, List.mem_map]
    rintro (⟨status, -, h⟩ | h)
    · cases status <;> cases h
    · split at h
      · cases h
      · cases List.mem_singleton.1 h
  have hassessed (status : AssertionStatus) : status.assessed ≤ .passed ↔ status = .passed := by
    cases status <;> decide
  rw [assessmentStatus, worstStatus_eq_ok hcancelled]
  constructor
  · rintro ⟨hmem, hworst⟩
    have hmissing : missing = [] := by
      by_contra hne
      have := hworst .incomplete (List.mem_append_right _ (by rw [if_neg hne]; exact .head _))
      exact absurd this (by decide)
    rw [if_pos hmissing, List.append_nil] at hmem hworst
    refine ⟨fun hnil => ?_, fun status hstatus => ?_, hmissing⟩
    · rw [hnil] at hmem
      cases hmem
    · exact (hassessed status).1 (hworst _ (List.mem_map_of_mem hstatus))
  · rintro ⟨hne, hall, hmissing⟩
    rw [if_pos hmissing, List.append_nil]
    obtain ⟨status, hstatus⟩ := List.exists_mem_of_ne_nil _ hne
    refine ⟨List.mem_map.2 ⟨status, hstatus, by rw [hall status hstatus]; rfl⟩, ?_⟩
    intro outcome houtcome
    obtain ⟨other, hother, rfl⟩ := List.mem_map.1 houtcome
    exact (hassessed other).2 (hall other hother)

/-! ## Accepted documents -/

/-- What an accepted passed result says of its source and of the controls of its method. -/
structure PassSupported (profile : NativeProfile) (controls : MethodControls)
    (source : AcceptanceObservation ν) (result : NativeResult ν) : Prop where
  /-- The source has measured every required observation. -/
  measured : ∀ entry ∈ profile.observations, entry.2.requirement = .required →
    ∃ value evidence, source.observations.lookup entry.1 = some (.measured value evidence)
  /-- It has measured something. -/
  observed : ∃ entry ∈ source.observations, entry.2.isMeasured = true
  /-- Each declared metric and each check of the evidence policy has passed. -/
  core : ∀ id, id ∈ controls.assertions.map (·.assertionId) ∨ id ∈ nativePolicyAssertions →
    ∃ assertion ∈ result.assertionResults, assertion.source = .core ∧
      assertion.assertionId = id ∧ assertion.status = .passed
  /-- Each product assertion has passed on evidence of the run or inputs of the method. -/
  products : ∀ assertion ∈ result.assertionResults, assertion.source = .product →
    assertion.status = .passed ∧ ∀ sha256 ∈ assertion.evidenceSha256.getD [],
      sha256 ∈ result.evidenceDigests ∨
        sha256 ∈ (controls.calibration.toList.flatMap (·.artifacts)).map (·.sha256)
  /-- The images have passed all that is assigned to them. -/
  assigned : ∀ requirements, result.evaluators = .oci requirements →
    ∀ id ∈ requirements.flatMap (·.expectedAssertionIds),
      ∃ assertion ∈ result.assertionResults, assertion.source = .product ∧
        assertion.assertionId = id ∧ assertion.status = .passed
  /-- No criterion stays uncovered. -/
  covered : result.uncoveredAssertions = []

/-- An accepted verdict of a passed result leaves nothing missing and no assertion unpassed. -/
theorem validateNativeVerdict_passed (h : validateNativeVerdict result = .ok ())
    (hpassed : result.status = .passed) :
    ∃ missing, nativeMissingObservations result = .ok missing ∧
      missingAssessment result missing = [] ∧
      ∀ assertion ∈ result.assertionResults, assertion.status = .passed := by
  obtain ⟨missing, hmissing, h⟩ := bind_eq_ok.1 h
  obtain ⟨-, h⟩ := seq_eq_ok.1 h
  obtain ⟨-, h⟩ := seq_eq_ok.1 h
  obtain ⟨-, h⟩ := seq_eq_ok.1 h
  obtain ⟨expected, hexpected, h⟩ := bind_eq_ok.1 h
  have hstatus := require_eq_ok.1 h
  rw [← hstatus, hpassed] at hexpected
  obtain ⟨-, hall, hnone⟩ := assessmentStatus_eq_passed.1 (mapError_eq_ok.1 hexpected)
  exact ⟨missing, hmissing, hnone, fun assertion hmem => hall _ (List.mem_map_of_mem hmem)⟩

/-- A value that was resolved to be measured was measured in the source. -/
theorem measured_of_resolvedObservation {supplied : List (String × NativeObservation ν)}
    {entry : String × ObservationRequirement} {observed : String × NativeObservation ν}
    (h : resolvedObservation supplied entry = .ok observed)
    (hmeasured : observed.2.isMeasured = true) :
    observed.1 = entry.1 ∧ supplied.lookup entry.1 = some observed.2 := by
  obtain ⟨name, kind, requirement⟩ := entry
  cases requirement with
  | notApplicable reason | required | optional =>
    obtain ⟨-, h⟩ := seq_eq_ok.1 h
    obtain rfl := Except.ok.inj h
    refine ⟨rfl, ?_⟩
    dsimp only at hmeasured ⊢
    cases hlookup : supplied.lookup name with
    | none =>
      rw [hlookup] at hmeasured
      cases hmeasured
    | some found => rfl

theorem exists_measured {observation : NativeObservation ν} (h : observation.isMeasured = true) :
    ∃ value evidence, observation = .measured value evidence := by
  cases observation with
  | measured value evidence => exact ⟨value, evidence, rfl⟩
  | notApplicable | unobserved | invalid => cases h

/-- Where the evaluators are images and nothing is uncovered, each assigned identifier has a row. -/
theorem assigned_of_accepted (h : validateNativeAssessmentCoverage result = .ok ())
    (huncovered : result.uncoveredAssertions = []) {requirements : List OciRequirement}
    (heq : result.evaluators = .oci requirements) {id : String}
    (hid : id ∈ requirements.flatMap (·.expectedAssertionIds)) :
    ∃ assertion ∈ result.assertionResults, assertion.source = .product ∧
      assertion.assertionId = id := by
  unfold validateNativeAssessmentCoverage at h
  unfold NativeResult.uncoveredAssertions at huncovered
  cases hcoverage : result.evaluation.coverage with
  | none =>
    rw [hcoverage, heq] at h
    rw [require_eq_ok.1 h] at hid
    cases hid
  | some coverage =>
    rw [hcoverage] at h huncovered
    obtain ⟨hversioned, -⟩ := seq_eq_ok.1 h
    unfold validateVersionedCoverage at hversioned
    rw [heq] at hversioned
    obtain ⟨-, hversioned⟩ := seq_eq_ok.1 hversioned
    obtain ⟨-, hversioned⟩ := seq_eq_ok.1 hversioned
    obtain ⟨-, hversioned⟩ := seq_eq_ok.1 hversioned
    obtain ⟨hclassified, hrows⟩ := seq_eq_ok.1 hversioned
    have hcovered : id ∈ coverage.coveredAssertions.map (·.assertionId) := by
      refine (require_eq_ok.1 hclassified id hid).resolve_right fun h => ?_
      rw [show coverage.uncoveredAssertions = [] from huncovered] at h
      cases h
    obtain ⟨assertion, hrow, rfl⟩ := List.mem_map.1 (require_eq_ok.1 hrows id hcovered hid)
    obtain ⟨hmem, hproduct⟩ := List.mem_filter.1 hrow
    exact ⟨assertion, hmem, (of_decide_eq_true hproduct).1, rfl⟩

/-- The verdict and the coverage that the validator accepts, with the clauses of the verifier. -/
theorem passSupported_of_accepted [DecidableEq ν] {profile : NativeProfile}
    {controls : MethodControls} {source : AcceptanceObservation ν} {texts : NativeTexts ν}
    {domain : String} (hassessed : validateNativeAssessmentCoverage result = .ok ())
    (hverdict : validateNativeVerdict result = .ok ())
    (hregistry : domainAssertionRegistry domain result controls = .ok ())
    (hcoverage : domainCoverage texts domain profile result source controls = .ok ())
    (hpassed : result.status = .passed) : PassSupported profile controls source result := by
  obtain ⟨missing, -, hnone, hall⟩ := validateNativeVerdict_passed hverdict hpassed
  have huncovered : result.uncoveredAssertions = [] :=
    List.map_eq_nil_iff.1 (List.append_eq_nil_iff.1 hnone).2
  -- A passed result cannot be incomplete, so the verifier has found nothing missing either.
  obtain ⟨expected, hexpected, hcoverage⟩ := bind_eq_ok.1 hcoverage
  obtain ⟨-, hcoverage⟩ := seq_eq_ok.1 hcoverage
  obtain ⟨-, hcoverage⟩ := seq_eq_ok.1 hcoverage
  have hmissing := (require_eq_ok.1 hcoverage).resolve_right (by rw [hpassed]; decide)
  obtain ⟨hobservations, -⟩ := List.append_eq_nil_iff.1 hmissing
  obtain ⟨hrequired, hsome⟩ := List.append_eq_nil_iff.1 hobservations
  obtain ⟨-, hresolved⟩ := seq_eq_ok.1 hexpected
  have hsource : ∀ observed ∈ expected, observed.2.isMeasured = true →
      source.observations.lookup observed.1 = some observed.2 := by
    intro observed hobserved hmeasured
    obtain ⟨entry, -, he⟩ := exists_of_forall₂_mem (mapM_eq_ok.1 hresolved) hobserved
    obtain ⟨hname, hlookup⟩ := measured_of_resolvedObservation he hmeasured
    rw [hname, hlookup]
  obtain ⟨hregistered, hregistry⟩ := seq_eq_ok.1 hregistry
  obtain ⟨-, hproducts⟩ := seq_eq_ok.1 hregistry
  constructor
  · intro entry hentry hrequirement
    have hfound : (expected.lookup entry.1).any (·.isMeasured) = true := by
      by_contra hnot
      have := List.filterMap_eq_nil_iff.1 hrequired entry hentry
      rw [if_pos ⟨hrequirement, hnot⟩] at this
      cases this
    obtain ⟨observed, hlookup, hmeasured⟩ := (Option.any_eq_true _ _).1 hfound
    obtain ⟨value, evidence, rfl⟩ := exists_measured hmeasured
    exact ⟨value, evidence, hsource (entry.1, _) (mem_of_lookup hlookup) rfl⟩
  · have hany : expected.any (·.2.isMeasured) = true := by
      by_contra hnot
      rw [if_neg hnot] at hsome
      cases hsome
    obtain ⟨observed, hobserved, hmeasured⟩ := List.any_eq_true.1 hany
    exact ⟨(observed.1, observed.2), mem_of_lookup (hsource observed hobserved hmeasured),
      hmeasured⟩
  · intro id hid
    have hcore := (require_eq_ok.1 hregistered).2 id (List.mem_append.2 hid)
    obtain ⟨assertion, hassertion, rfl⟩ := List.mem_map.1 hcore
    obtain ⟨hmem, hcore⟩ := List.mem_filter.1 hassertion
    exact ⟨assertion, hmem, of_decide_eq_true hcore, rfl, hall assertion hmem⟩
  · intro assertion hmem hproduct
    have hcheck := forM_eq_ok.1 hproducts assertion hmem
    unfold checkProductAssertion at hcheck
    rw [hproduct] at hcheck
    obtain ⟨-, hcited⟩ := seq_eq_ok.1 hcheck
    exact ⟨hall assertion hmem, fun sha256 hsha256 =>
      List.mem_append.1 (require_eq_ok.1 hcited sha256 hsha256)⟩
  · intro requirements heq id hid
    obtain ⟨assertion, hmem, hproduct, hsame⟩ := assigned_of_accepted hassessed huncovered heq hid
    exact ⟨assertion, hmem, hproduct, hsame, hall assertion hmem⟩
  · exact huncovered

/-- No document passes the validator and the verifier with a verdict that its source does not
support. -/
theorem passed_accepted_supported [DecidableEq ν] {profile : NativeProfile}
    {controls : MethodControls} {source : AcceptanceObservation ν} {texts : NativeTexts ν}
    {domain : String} (hvalid : validateNativeResult result = .ok ())
    (hregistry : domainAssertionRegistry domain result controls = .ok ())
    (hcoverage : domainCoverage texts domain profile result source controls = .ok ())
    (hpassed : result.status = .passed) : PassSupported profile controls source result := by
  obtain ⟨-, hvalid⟩ := seq_eq_ok.1 hvalid
  obtain ⟨hassessed, hvalid⟩ := seq_eq_ok.1 hvalid
  obtain ⟨-, hvalid⟩ := seq_eq_ok.1 hvalid
  obtain ⟨hverdict, -⟩ := seq_eq_ok.1 hvalid
  exact passSupported_of_accepted hassessed hverdict hregistry hcoverage hpassed

/-- A check that returns nothing has no other outcome to accept with. -/
theorem eq_ok_of_isSome {ε : Type} {x : Except ε Unit} (h : x.toOption.isSome = true) :
    x = .ok () := by
  cases x with
  | error e => cases h
  | ok u => rfl

/-- The controls and the source of the assessment of the lab. -/
theorem passed_accepted_supported_lab :
    ∃ result, result.status = .passed ∧ PassSupported labInputs.scenario.data.profile
      labInputs.controls readyObservation result := by
  have h : (labInputs.assemble exactTexts (labRun ["aa"])).toOption.any (fun result =>
      (validateNativeResult result).toOption.isSome &&
        ((domainAssertionRegistry "domain" result labInputs.controls).toOption.isSome &&
        ((domainCoverage ⟨fun _ => "", fun _ => "", fun _ => ""⟩ "domain"
          labInputs.scenario.data.profile result readyObservation
          labInputs.controls).toOption.isSome && decide (result.status = .passed)))) = true := by
    decide +kernel
  obtain ⟨result, -, hresult⟩ := exists_ok_of_any h
  simp only [Bool.and_eq_true, decide_eq_true_eq] at hresult
  obtain ⟨hvalid, hregistry, hcoverage, hpassed⟩ := hresult
  exact ⟨result, hpassed, passed_accepted_supported (eq_ok_of_isSome hvalid)
    (eq_ok_of_isSome hregistry) (eq_ok_of_isSome hcoverage) hpassed⟩

/-! ## Assembled results -/

/-- An assessment that passes supports its verdict by what it was given, and each declared or
assigned criterion by evidence of the run. -/
theorem passed_assembled_covered [DecidableEq ν] {texts : MetricTexts}
    (h : inputs.assemble texts run = .ok result) (hpassed : result.status = .passed) :
    ∃ source coverage, inputs.loadObservation = .ok source ∧
      result.evaluation.coverage = some coverage ∧
      PassSupported inputs.scenario.data.profile inputs.controls source.data result ∧
      ∀ id ∈ inputs.declaredIds, ∃ item ∈ coverage.coveredAssertions, item.assertionId = id ∧
        item.evidenceSha256 ≠ [] ∧
        ∀ sha256 ∈ item.evidenceSha256, sha256 ∈ inputs.context.originalEvidenceSha256 := by
  obtain ⟨source, ⟨hassembled⟩⟩ := NativeInputs.assembled_of_ok h
  have hverdict := hassembled.validateNativeVerdict_eq
  obtain ⟨observations, window, original, evaluations, status, hloaded, hbound, hresolved, -, -,
    hevaluated, hworst, rfl⟩ := hassembled
  have hsupported := passSupported_of_accepted
    (NativeInputs.validateNativeAssessmentCoverage_draft hevaluated) hverdict
    (domainAssertionRegistry_draft "" hevaluated)
    (domainCoverage_draft ⟨fun _ => "", fun _ => "", fun _ => ""⟩ "" hbound hresolved hworst)
    hpassed
  refine ⟨source, _, hloaded, rfl, hsupported, fun id hid => ?_⟩
  have hcovered : id ∈ (inputs.criterionCoverage evaluations).coveredAssertions.map
      (·.assertionId) := by
    refine (NativeInputs.mem_criterionIds (NativeInputs.mem_declaredIds hid)).resolve_right ?_
    intro huncovered
    rw [show (inputs.criterionCoverage evaluations).uncoveredAssertions = [] from
      hsupported.covered] at huncovered
    cases huncovered
  obtain ⟨item, hitem, rfl⟩ := List.mem_map.1 hcovered
  obtain ⟨evaluation, -, -, -, hevidence, hne⟩ := NativeInputs.covered_evaluation hitem
  exact ⟨item, hitem, rfl, hne, fun sha256 hsha256 =>
    NativeInputs.criterionEvidence_original (hevidence ▸ hsha256)⟩

theorem passed_assembled_covered_lab : ∃ result source coverage,
    labInputs.assemble exactTexts (labRun ["aa"]) = .ok result ∧
      labInputs.loadObservation = .ok source ∧ result.evaluation.coverage = some coverage ∧
      PassSupported labInputs.scenario.data.profile labInputs.controls source.data result ∧
      ∀ id ∈ labInputs.declaredIds, ∃ item ∈ coverage.coveredAssertions, item.assertionId = id ∧
        item.evidenceSha256 ≠ [] ∧
        ∀ sha256 ∈ item.evidenceSha256, sha256 ∈ labInputs.context.originalEvidenceSha256 := by
  have h : (labInputs.assemble exactTexts (labRun ["aa"])).toOption.any
      (fun result => decide (result.status = .passed)) = true := by
    decide +kernel
  obtain ⟨result, h, hpassed⟩ := exists_ok_of_any h
  obtain ⟨source, coverage, hsource, hcoverage, hsupported, hcovered⟩ :=
    passed_assembled_covered h (of_decide_eq_true hpassed)
  exact ⟨result, source, coverage, h, hsource, hcoverage, hsupported, hcovered⟩

/-! ## Assigned identifiers -/

/-- In a list with distinct keys one element has a key. -/
theorem filter_eq_singleton {α β : Type} [DecidableEq β] {f : α → β} {l : List α}
    (h : Distinct f l) {a : α} (ha : a ∈ l) : (l.filter fun b => f b = f a) = [a] := by
  induction l with
  | nil => cases ha
  | cons b l ih =>
    obtain ⟨hnew, hdistinct⟩ := List.nodup_cons.1 h
    rcases List.mem_cons.1 ha with rfl | ha
    · rw [List.filter_cons_of_pos (by simp), List.filter_eq_nil_iff.2 fun b hb => ?_]
      rw [decide_eq_true_eq]
      exact fun heq => hnew (heq ▸ List.mem_map_of_mem hb)
    · rw [List.filter_cons_of_neg, ih hdistinct ha]
      rw [decide_eq_true_eq]
      exact fun heq => hnew (heq ▸ List.mem_map_of_mem ha)

/-- Where the evaluators are images, a result holds each assigned identifier exactly once, in the
namespace of the image that owns it, and no other product assertion. -/
theorem assigned_exactly_once {texts : MetricTexts} {requirements : List OciRequirement}
    (h : inputs.assemble texts run = .ok result) (heq : result.evaluators = .oci requirements) :
    (∀ requirement ∈ requirements, ∀ id, (result.assertionResults.filter fun assertion =>
        assertion.nameSpace = some requirement.nameSpace ∧ assertion.assertionId = id).length =
      if id ∈ requirement.expectedAssertionIds then 1 else 0) ∧
    ∀ assertion ∈ result.assertionResults, assertion.source = .product →
      ∃ requirement ∈ requirements, assertion.nameSpace = some requirement.nameSpace ∧
        assertion.assertionId ∈ requirement.expectedAssertionIds := by
  obtain ⟨_, ⟨_, _, _, evaluations, _, -, -, -, -, -, hevaluated, -, rfl⟩⟩ :=
    NativeInputs.assembled_of_ok h
  replace heq : inputs.controls.evaluatorRequirements = .oci requirements := heq
  have hdistinct : Distinct (·.assertionId) (evaluations.map (·.result)) := by
    rw [Distinct, List.map_map]
    exact hevaluated.ids_nodup
  refine ⟨fun requirement hrequirement id => ?_, fun assertion hassertion hproduct => ?_⟩
  · have hassigned := hevaluated.assigned requirements heq requirement hrequirement id
    change ((evaluations.map (·.result)).filter fun assertion => assertion.nameSpace =
      some requirement.nameSpace ∧ assertion.assertionId = id).length = _
    split
    · next hid =>
      obtain ⟨item, hitem, hnameSpace, rfl⟩ := hassigned.1 hid
      have hresult : item.result.nameSpace = some requirement.nameSpace := by
        rcases hevaluated.origin item hitem with ⟨hcore, -⟩ | ⟨hcore, -⟩ | ⟨_, -, hne, hof⟩
        · cases hcore.nameSpace.symm.trans hnameSpace
        · cases hcore.nameSpace.symm.trans hnameSpace
        · obtain rfl := Option.some.inj (hof.nameSpace.symm.trans hnameSpace)
          rw [AssertionEvaluation.result, hnameSpace]
          simp [hne]
      have hone := filter_eq_singleton hdistinct (List.mem_map_of_mem hitem)
      have hsplit : ((evaluations.map (·.result)).filter fun assertion => assertion.nameSpace =
          some requirement.nameSpace ∧ assertion.assertionId = item.assertionId) =
          ((evaluations.map (·.result)).filter fun assertion =>
            assertion.assertionId = item.result.assertionId).filter
              fun assertion => assertion.nameSpace = some requirement.nameSpace := by
        rw [List.filter_filter]
        refine List.filter_congr fun assertion _ => ?_
        rw [Bool.decide_and]
        rfl
      rw [hsplit, hone]
      simp [hresult]
    · next hid =>
      rw [List.length_eq_zero_iff, List.filter_eq_nil_iff]
      intro assertion hassertion hsame
      obtain ⟨item, hitem, rfl⟩ := List.mem_map.1 hassertion
      obtain ⟨hnameSpace, hsame⟩ := of_decide_eq_true hsame
      exact hid (hassigned.2 ⟨item, hitem, (Option.filter_eq_some_iff.1 hnameSpace).1, hsame⟩)
  · obtain ⟨item, hitem, rfl⟩ := List.mem_map.1 hassertion
    replace hproduct : item.source = .product := hproduct
    rcases hevaluated.origin item hitem with ⟨hcore, -⟩ | ⟨hcore, -⟩ | ⟨owner, howner, hne, hof⟩
    · cases hcore.source.symm.trans hproduct
    · cases hcore.source.symm.trans hproduct
    · rw [heq] at howner
      obtain ⟨requirement, hrequirement, rfl⟩ := List.mem_map.1 howner
      refine ⟨requirement, hrequirement, ?_, (hevaluated.assigned requirements heq requirement
        hrequirement _).2 ⟨item, hitem, hof.nameSpace, rfl⟩⟩
      rw [AssertionEvaluation.result, hof.nameSpace]
      simp [hne]

theorem assigned_exactly_once_image : ∃ result requirements,
    imageInputs.assemble exactTexts imageRun = .ok result ∧
      result.evaluators = .oci requirements ∧
      (∀ requirement ∈ requirements, ∀ id, (result.assertionResults.filter fun assertion =>
        assertion.nameSpace = some requirement.nameSpace ∧ assertion.assertionId = id).length =
          if id ∈ requirement.expectedAssertionIds then 1 else 0) := by
  have h : (imageInputs.assemble exactTexts imageRun).toOption.any (fun result =>
      decide (result.evaluators = imageControls.evaluatorRequirements)) = true := by
    decide +kernel
  obtain ⟨result, h, hevaluators⟩ := exists_ok_of_any h
  have heq := of_decide_eq_true hevaluators
  exact ⟨result, _, h, heq, (assigned_exactly_once h heq).1⟩

end RoboticsRuntime.Harness
