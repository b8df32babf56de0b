import RoboticsRuntime.Verify.Assessment

/-!
# Assembled native results

`_evaluate_native` derives what is missing of an assessment from the controls of its method;
`_validate_native_result` derives it again from the assertions of the result. Both agree, and so
does everything else that the validator checks, for the order of the instants alone depends on the
clock of the assessment.
-/

namespace RoboticsRuntime.Harness
open Theory Contracts

/-! ## The parts of a result -/

/-- The parts that `_evaluate_native` makes a result of. -/
structure Assembled {ν : Type} (inputs : NativeInputs ν) (run : AssessmentRun)
    (source : LoadedObservation ν) (result : NativeResult ν) where
  observations : List (String × NativeObservation ν)
  window : Option MeasurementWindow
  original : OriginalExecution
  evaluations : List AssertionEvaluation
  status : OutcomeStatus
  loaded : inputs.loadObservation = .ok source
  bound : inputs.validateSource source.data = .ok ()
  resolved : inputs.resolveObservations source.data = .ok observations
  measured : inputs.measurementWindow source.data = .ok window
  executed : inputs.originalExecution source run.startedAtNs = .ok original
  evaluated : NativeEvaluations inputs evaluations
  worst : assessmentStatus (evaluations.map (·.status)) (inputs.unevaluatedPaths observations
    evaluations (inputs.criterionCoverage evaluations)) = .ok status
  assembled : result = inputs.draft run observations window original evaluations status

namespace NativeInputs
variable {ν : Type} {inputs : NativeInputs ν}

theorem assembled_of_ok {texts : MetricTexts} {run : AssessmentRun} {result : NativeResult ν}
    (h : inputs.assemble texts run = .ok result) :
    ∃ source, Nonempty (Assembled inputs run source result) := by
  unfold assemble at h
  obtain ⟨-, h⟩ := seq_eq_ok.1 h
  obtain ⟨source, hsource, h⟩ := bind_eq_ok.1 h
  obtain ⟨hbound, h⟩ := seq_eq_ok.1 h
  obtain ⟨observations, hobservations, h⟩ := bind_eq_ok.1 h
  obtain ⟨window, hwindow, h⟩ := bind_eq_ok.1 h
  obtain ⟨-, h⟩ := seq_eq_ok.1 h
  obtain ⟨original, horiginal, h⟩ := bind_eq_ok.1 h
  obtain ⟨evaluators, hevaluators, h⟩ := bind_eq_ok.1 h
  obtain ⟨evaluations, hevaluations, h⟩ := bind_eq_ok.1 h
  obtain ⟨status, hstatus, h⟩ := bind_eq_ok.1 h
  obtain rfl := Except.ok.inj h
  exact ⟨source, ⟨observations, window, original, evaluations, status, hsource, hbound,
    hobservations, hwindow, horiginal, nativeEvaluations hevaluators hevaluations,
    mapError_eq_ok.1 hstatus, rfl⟩⟩

/-! ## Observations -/

/-- A resolved observation keeps what the profile says of its applicability, and its evidence is
that of the source. -/
theorem resolveObservation_eq_ok {supplied : List (String × NativeObservation ν)}
    {entry : String × ObservationRequirement} {observed : String × NativeObservation ν}
    (h : resolveObservation supplied entry = .ok observed) :
    observed.1 = entry.1 ∧
      (∀ reason, entry.2.requirement = .notApplicable reason →
        observed.2.inapplicable? = some reason) ∧
      ((∀ reason, entry.2.requirement ≠ .notApplicable reason) →
        observed.2.inapplicable? = none) ∧
      ∀ reference ∈ observed.2.evidence?, ∃ name, (name, observed.2) ∈ supplied := by
  have hsupplied (name : String) (default observation : NativeObservation ν)
      (hdefault : default.evidence? = none)
      (h : (supplied.lookup name).getD default = observation) :
      ∀ reference ∈ observation.evidence?, ∃ name, (name, observation) ∈ supplied := by
    intro reference hreference
    cases hlookup : supplied.lookup name with
    | none =>
      rw [hlookup, Option.getD_none] at h
      rw [← h, hdefault] at hreference
      cases hreference
    | some found =>
      rw [hlookup, Option.getD_some] at h
      obtain ⟨before, after, heq, -⟩ := List.lookup_eq_some_iff.1 hlookup
      exact ⟨name, by simp [heq, h]⟩
  unfold resolveObservation at h
  split at h
  · next reason hreason =>
    obtain ⟨happlicable, h⟩ := seq_eq_ok.1 h
    obtain rfl := Except.ok.inj h
    refine ⟨rfl, fun other hother => ?_, fun hnot => absurd hreason (hnot reason),
      hsupplied entry.1 _ _ rfl rfl⟩
    obtain rfl : other = reason := by simpa using hother.symm.trans hreason
    exact require_eq_ok.1 happlicable
  · next hnot =>
    obtain ⟨happlicable, h⟩ := seq_eq_ok.1 h
    obtain rfl := Except.ok.inj h
    exact ⟨rfl, fun reason hreason => absurd hreason (hnot reason),
      fun _ => require_eq_ok.1 happlicable, hsupplied entry.1 _ _ rfl rfl⟩

theorem resolveObservations_names {source : AcceptanceObservation ν}
    {observations : List (String × NativeObservation ν)}
    (h : inputs.resolveObservations source = .ok observations) :
    observations.map (·.1) = inputs.scenario.data.profile.observations.map (·.1) := by
  refine (map_eq_of_forall₂ (fun entry observed he => ?_) (mapM_eq_ok.1 h)).symm
  exact (resolveObservation_eq_ok he).1.symm

/-- Each declared observation is resolved under its name. -/
theorem resolveObservations_lookup {source : AcceptanceObservation ν}
    {observations : List (String × NativeObservation ν)}
    (h : inputs.resolveObservations source = .ok observations)
    (hentry : entry ∈ inputs.scenario.data.profile.observations) :
    ∃ observed, observations.lookup entry.1 = some observed ∧
      resolveObservation source.observations entry = .ok (entry.1, observed) := by
  obtain ⟨⟨name, observed⟩, hmem, he⟩ := exists_of_forall₂_mem (mapM_eq_ok.1 h).flip hentry
  obtain rfl : name = entry.1 := (resolveObservation_eq_ok he).1
  have hnodup : (observations.map (·.1)).Nodup := by
    rw [resolveObservations_names h]
    exact inputs.scenario.data.profile.names_nodup
  exact ⟨observed, lookup_of_mem hnodup hmem, he⟩

/-- The validator finds the observations that the assessment finds missing. -/
theorem nativeMissingObservations_eq {source : AcceptanceObservation ν}
    {observations : List (String × NativeObservation ν)}
    (h : inputs.resolveObservations source = .ok observations) {document : NativeResult ν}
    (hprofile : document.profile = inputs.scenario.data.profile)
    (hobservations : document.observations = observations) :
    nativeMissingObservations document = .ok (inputs.missingRequired observations) := by
  have hnames := resolveObservations_names h
  have hentry : ∀ entry ∈ inputs.scenario.data.profile.observations,
      missingObservation document.schemaName observations entry = .ok
        (if entry.2.requirement = .required ∧ (observations.lookup entry.1).any (·.isMissing)
          then some (observationPath entry.1) else none) := by
    intro entry hentry
    obtain ⟨observed, hlookup, he⟩ := resolveObservations_lookup h hentry
    obtain ⟨-, happlicable, hinapplicable, -⟩ := resolveObservation_eq_ok he
    unfold missingObservation
    rw [hlookup, demand_eq_ok.2 rfl, ok_bind]
    cases hrequirement : entry.2.requirement with
    | notApplicable reason =>
      dsimp only
      rw [require_of (happlicable reason hrequirement), ok_bind]
      rfl
    | optional =>
      dsimp only
      rw [require_of (hinapplicable (by simp [hrequirement])), ok_bind]
      rfl
    | required =>
      dsimp only
      rw [require_of (hinapplicable (by simp [hrequirement])), ok_bind]
      simp only [Option.any_some, true_and]
      rfl
  unfold nativeMissingObservations
  rw [hprofile, hobservations]
  refine seq_eq_ok.2 ⟨require_of ⟨fun entry hmem => hnames ▸ List.mem_map_of_mem hmem,
    fun entry hmem => hnames ▸ List.mem_map_of_mem hmem⟩, bind_eq_ok.2 ⟨_, mapM_eq_ok.2
    (List.forall₂_map_right_iff.2 (List.forall₂_same.2 hentry)), ?_⟩⟩
  rw [List.filterMap_map]
  rfl

/-! ## Criteria -/

variable {evaluations : List AssertionEvaluation}

theorem criterion_eq_inl {id : String} {item : CoveredAssertion} :
    inputs.criterion evaluations id = .inl item ↔
      ∃ evaluation, (inputs.criteria evaluations).reverse.find? (·.assertionId = id) =
          some evaluation ∧
        inputs.criterionEvidence evaluation ≠ [] ∧
        item = ⟨id, inputs.criterionEvidence evaluation⟩ := by
  unfold criterion
  cases (inputs.criteria evaluations).reverse.find? (·.assertionId = id) with
  | none => simp
  | some evaluation =>
    simp only [Option.some.injEq, exists_eq_left']
    split
    · next hempty => exact ⟨nofun, fun h => absurd hempty h.1⟩
    · next hne => exact ⟨fun h => ⟨hne, (Sum.inl.inj h).symm⟩, fun h => h.2 ▸ rfl⟩

theorem criterion_eq_inr {id : String} {item : UncoveredAssertion}
    (h : inputs.criterion evaluations id = .inr item) : item.assertionId = id := by
  unfold criterion at h
  split at h
  · obtain rfl := Sum.inr.inj h
    rfl
  · dsimp only at h
    split at h
    · obtain rfl := Sum.inr.inj h
      rfl
    · cases h

theorem mem_coveredAssertions {item : CoveredAssertion} :
    item ∈ (inputs.criterionCoverage evaluations).coveredAssertions ↔
      item.assertionId ∈ inputs.criterionIds evaluations ∧
        inputs.criterion evaluations item.assertionId = .inl item := by
  simp only [criterionCoverage, List.filterMap_map, List.mem_filterMap, Function.comp_apply,
    Sum.getLeft?_eq_some_iff]
  constructor
  · rintro ⟨id, hid, h⟩
    obtain ⟨evaluation, -, -, rfl⟩ := criterion_eq_inl.1 h
    exact ⟨hid, h⟩
  · rintro ⟨hid, h⟩
    exact ⟨_, hid, h⟩

theorem mem_uncoveredAssertions {item : UncoveredAssertion} :
    item ∈ (inputs.criterionCoverage evaluations).uncoveredAssertions ↔
      item.assertionId ∈ inputs.criterionIds evaluations ∧
        inputs.criterion evaluations item.assertionId = .inr item := by
  simp only [criterionCoverage, List.filterMap_map, List.mem_filterMap, Function.comp_apply,
    Sum.getRight?_eq_some_iff]
  constructor
  · rintro ⟨id, hid, h⟩
    obtain rfl := criterion_eq_inr h
    exact ⟨hid, h⟩
  · rintro ⟨hid, h⟩
    exact ⟨_, hid, h⟩

/-- Every criterion is covered or uncovered. -/
theorem mem_criterionIds {id : String} (hid : id ∈ inputs.criterionIds evaluations) :
    id ∈ (inputs.criterionCoverage evaluations).coveredAssertions.map (·.assertionId) ∨
      id ∈ (inputs.criterionCoverage evaluations).uncoveredAssertions.map (·.assertionId) := by
  cases h : inputs.criterion evaluations id with
  | inl item =>
    obtain ⟨evaluation, -, -, rfl⟩ := criterion_eq_inl.1 h
    exact .inl (List.mem_map.2 ⟨⟨id, _⟩, mem_coveredAssertions.2 ⟨hid, h⟩, rfl⟩)
  | inr item =>
    obtain rfl := criterion_eq_inr h
    exact .inr (List.mem_map.2 ⟨_, mem_uncoveredAssertions.2 ⟨hid, h⟩, rfl⟩)

/-- No criterion is both. -/
theorem covered_not_uncovered {item : CoveredAssertion}
    (hitem : item ∈ (inputs.criterionCoverage evaluations).coveredAssertions) :
    item.assertionId ∉
      (inputs.criterionCoverage evaluations).uncoveredAssertions.map (·.assertionId) := by
  intro h
  obtain ⟨other, hother, hid⟩ := List.mem_map.1 h
  have hinl := (mem_coveredAssertions.1 hitem).2
  have hinr := (mem_uncoveredAssertions.1 hother).2
  rw [hid, hinl] at hinr
  cases hinr

theorem coveredAssertions_nodup : Distinct (·.assertionId)
    (inputs.criterionCoverage evaluations).coveredAssertions := by
  have hnodup : (inputs.criterionCoverage evaluations).coveredAssertions.Nodup := by
    rw [criterionCoverage, List.filterMap_map]
    refine (sortedSet_nodup _).filterMap fun id other item hid hother => ?_
    obtain ⟨_, -, -, rfl⟩ := criterion_eq_inl.1 (Sum.getLeft?_eq_some_iff.1 hid)
    obtain ⟨_, -, -, h⟩ := criterion_eq_inl.1 (Sum.getLeft?_eq_some_iff.1 hother)
    exact congrArg (·.assertionId) h
  refine hnodup.map_on fun item hitem other hother hid => ?_
  have hinl := (mem_coveredAssertions.1 hitem).2
  rw [hid, (mem_coveredAssertions.1 hother).2] at hinl
  exact (Sum.inl.inj hinl).symm

theorem uncoveredAssertions_nodup : Distinct (·.assertionId)
    (inputs.criterionCoverage evaluations).uncoveredAssertions := by
  have hnodup : (inputs.criterionCoverage evaluations).uncoveredAssertions.Nodup := by
    rw [criterionCoverage, List.filterMap_map, List.filterMap_map]
    refine (sortedSet_nodup _).filterMap fun id other item hid hother => ?_
    exact (criterion_eq_inr (Sum.getRight?_eq_some_iff.1 hid)).symm.trans
      (criterion_eq_inr (Sum.getRight?_eq_some_iff.1 hother))
  refine hnodup.map_on fun item hitem other hother hid => ?_
  have hinr := (mem_uncoveredAssertions.1 hitem).2
  rw [hid, (mem_uncoveredAssertions.1 hother).2] at hinr
  exact (Sum.inr.inj hinr).symm

theorem mem_declaredIds {id : String} (hid : id ∈ inputs.declaredIds) :
    id ∈ inputs.criterionIds evaluations :=
  mem_sortedSet.2 (List.mem_append_right _ hid)

/-- What a criterion is covered by: a decided evaluation with evidence. -/
theorem covered_evaluation {item : CoveredAssertion}
    (hitem : item ∈ (inputs.criterionCoverage evaluations).coveredAssertions) :
    ∃ evaluation ∈ evaluations, evaluation.assertionId = item.assertionId ∧
      (evaluation.source = .product ∨ evaluation.assertionId ∈ inputs.declaredIds) ∧
      inputs.criterionEvidence evaluation = item.evidenceSha256 ∧ item.evidenceSha256 ≠ [] := by
  obtain ⟨evaluation, hfind, hne, heq⟩ := criterion_eq_inl.1 (mem_coveredAssertions.1 hitem).2
  have hmem := List.mem_filter.1 (List.mem_reverse.1 (List.mem_of_find?_eq_some hfind))
  have hid : evaluation.assertionId = item.assertionId := by
    simpa using List.find?_some hfind
  have hevidence : inputs.criterionEvidence evaluation = item.evidenceSha256 := by
    rw [heq]
  exact ⟨evaluation, hmem.1, hid, by simpa using hmem.2, hevidence, hevidence ▸ hne⟩

/-- A criterion has evidence where it is decided. -/
theorem criterionEvidence_decided {evaluation : AssertionEvaluation}
    (h : inputs.criterionEvidence evaluation ≠ []) :
    evaluation.status = .passed ∨ evaluation.status = .failed := by
  unfold criterionEvidence at h
  split at h
  · assumption
  · exact absurd rfl h

theorem criterionEvidence_original {evaluation : AssertionEvaluation} {sha256 : String}
    (h : sha256 ∈ inputs.criterionEvidence evaluation) :
    sha256 ∈ inputs.context.originalEvidenceSha256 := by
  unfold criterionEvidence at h
  split at h
  · split at h
    · simpa using (List.mem_filter.1 (mem_sortedSet.1 h)).2
    · split at h
      · cases h
      · exact inputs.metricEvidence_mem (by simpa using h)
  · cases h

/-! ## Missing assertions -/

variable {run : AssessmentRun} {observations : List (String × NativeObservation ν)}
  {window : Option MeasurementWindow} {original : OriginalExecution} {status : OutcomeStatus}

/-- The result has nothing but policy assertions where the method declares no metric assertion and
no product evaluates one. -/
theorem all_nativePolicyAssertion (h : NativeEvaluations inputs evaluations) :
    (evaluations.map (·.result)).all nativePolicyAssertion = true ↔
      inputs.controls.assertions = [] ∧ ∀ item ∈ evaluations, item.source ≠ .product := by
  rw [List.all_map, List.all_eq_true]
  constructor
  · intro hall
    refine ⟨List.eq_nil_iff_forall_not_mem.2 fun assertion hassertion => ?_, fun item hitem => ?_⟩
    · obtain ⟨item, hitem, -, hid⟩ := h.declared _ (List.mem_map_of_mem hassertion)
      have hpolicy : item.source = .core ∧ startsWith item.assertionId "policy-native-" = true := by
        simpa [nativePolicyAssertion, AssertionEvaluation.result] using hall item hitem
      have hreserved := inputs.controlsAccepted.unreserved assertion hassertion
      rw [← hid, hpolicy.2] at hreserved
      cases hreserved
    · have hpolicy : item.source = .core ∧ startsWith item.assertionId "policy-native-" = true := by
        simpa [nativePolicyAssertion, AssertionEvaluation.result] using hall item hitem
      rw [hpolicy.1]
      exact nofun
  · rintro ⟨hempty, hcore⟩ item hitem
    rcases h.origin item hitem with ⟨-, hid⟩ | ⟨hitemCore, hid, -⟩ | ⟨_, -, -, hof⟩
    · rw [hempty] at hid
      cases hid
    · simp [nativePolicyAssertion, AssertionEvaluation.result, hitemCore.source,
        startsWith_nativePolicyIds hid]
    · exact absurd hof.source (hcore item hitem)

/-- The missing parts that the validator derives are those that the assessment lists. -/
theorem mem_missingAssessment_draft (h : NativeEvaluations inputs evaluations) {path : String} :
    path ∈ missingAssessment (inputs.draft run observations window original evaluations status)
        (inputs.missingRequired observations) ↔
      path ∈ inputs.unevaluatedPaths observations evaluations
        (inputs.criterionCoverage evaluations) := by
  have hskipped : ((evaluations.map (·.result)).filter (·.status = .skipped)).map
      (assertionPath ·.assertionId) =
        (evaluations.filter (·.status = .skipped)).map (assertionPath ·.assertionId) := by
    rw [List.filter_map, List.map_map]
    rfl
  have hpolicy : (if (evaluations.map (·.result)).all nativePolicyAssertion then ["$.assertions"]
      else []) = if inputs.controls.assertions = [] ∧ ∀ item ∈ evaluations, item.source ≠ .product
        then ["$.assertions"] else [] :=
    if_congr (all_nativePolicyAssertion h) rfl rfl
  unfold missingAssessment unevaluatedPaths NativeResult.uncoveredAssertions draft
  simp only [hskipped, hpolicy, Option.map_some, Option.getD_some, List.mem_append]
  tauto

theorem assessmentStatus_congr {statuses : List AssertionStatus} {missing missing' : List String}
    (h : ∀ path, path ∈ missing ↔ path ∈ missing') :
    assessmentStatus statuses missing = assessmentStatus statuses missing' := by
  have hempty : missing = [] ↔ missing' = [] := by
    simp only [List.eq_nil_iff_forall_not_mem, h]
  unfold assessmentStatus
  rw [if_congr hempty rfl rfl]

/-! ## Sources of the assertions -/

theorem citableDigests_draft :
    (inputs.draft run observations window original evaluations status).citableDigests =
      inputs.context.evidenceSha256 := by
  unfold NativeResult.citableDigests NativeResult.evidenceDigests draft context
    EvaluationContext.evidenceSha256 EvaluationContext.originalEvidenceSha256
    EvaluationContext.methodInputs
  cases inputs.selected with
  | none => rfl
  | some selected =>
    simp only [Option.map_some, Option.getD_some, Option.toList_some, List.flatMap_cons,
      List.flatMap_nil, List.append_nil]

theorem validateNativeAssertionSources_draft (h : NativeEvaluations inputs evaluations) :
    validateNativeAssertionSources
      (inputs.draft run observations window original evaluations status) = .ok () := by
  refine forM_eq_ok.2 fun entry hentry => ?_
  obtain ⟨item, hitem, hresult⟩ := List.mem_map.1 (List.fst_mem_of_mem_zipIdx hentry)
  rw [citableDigests_draft]
  unfold validateAssertionSource
  dsimp only
  rw [← hresult]
  have hcore (hitemCore : item.IsCore) : item.result.source = .core ∧
      item.result.nameSpace = none := by
    refine ⟨hitemCore.source, ?_⟩
    rw [AssertionEvaluation.result, hitemCore.nameSpace]
    rfl
  rcases h.origin item hitem with ⟨hitemCore, -⟩ | ⟨hitemCore, -⟩ | ⟨owner, howner, hne, hof⟩
  · rw [(hcore hitemCore).1, (hcore hitemCore).2]
    exact require_of rfl
  · rw [(hcore hitemCore).1, (hcore hitemCore).2]
    exact require_of rfl
  · have hsource : item.result.source = .product := hof.source
    have hnameSpace : item.result.nameSpace = some owner := by
      rw [AssertionEvaluation.result, hof.nameSpace]
      simp [hne]
    have hcited : item.result.evidenceSha256 = some item.evidenceSha256 := by
      rw [AssertionEvaluation.result]
      exact if_neg hof.cites
    rw [hsource, hnameSpace, hcited]
    exact seq_eq_ok.2 ⟨require_of ⟨howner, hof.owned⟩, require_of hof.known⟩

/-! ## Coverage -/

/-- The owner of an assigned identifier is the image that it is assigned to. -/
theorem ociOwner_eq {requirements : List OciRequirement} (h : OciAssigned requirements)
    {requirement : OciRequirement} (hrequirement : requirement ∈ requirements) {id : String}
    (hid : id ∈ requirement.expectedAssertionIds) :
    ociOwner requirements id = some requirement.nameSpace := by
  unfold ociOwner
  cases hfind : requirements.reverse.find? (id ∈ ·.expectedAssertionIds) with
  | none =>
    have := List.find?_eq_none.1 hfind requirement (List.mem_reverse.2 hrequirement)
    exact absurd (decide_eq_true hid) this
  | some owner =>
    have howner : owner ∈ requirements := List.mem_reverse.1 (List.mem_of_find?_eq_some hfind)
    have hassigned : id ∈ owner.expectedAssertionIds := by simpa using List.find?_some hfind
    rw [h.eq_of_mem howner hrequirement hassigned hid]
    rfl

/-- An identifier of the evidence policy lies in no namespace. -/
theorem not_mem_assigned_of_policy {requirements : List OciRequirement}
    (h : OciAssigned requirements) {id : String} (hid : id ∈ nativePolicyIds) :
    id ∉ requirements.flatMap (·.expectedAssertionIds) := by
  intro hmem
  obtain ⟨requirement, hrequirement, hmem⟩ := List.mem_flatMap.1 hmem
  have howned := h.owned requirement hrequirement id hmem
  have hdot : '.' ∈ id.toList := by
    refine (List.isPrefixOf_iff_prefix.1 howned).subset ?_
    rw [String.toList_append]
    exact List.mem_append_right _ (by decide)
  have : ∀ id ∈ nativePolicyIds, '.' ∉ id.toList := by decide
  exact this id hid hdot

theorem validateOciAssessmentCoverage_draft (h : NativeEvaluations inputs evaluations)
    {requirements : List OciRequirement}
    (heq : inputs.controls.evaluatorRequirements = .oci requirements) :
    validateOciAssessmentCoverage
      (inputs.draft run observations window original evaluations status) requirements
      (inputs.criterionCoverage evaluations) = .ok () := by
  have hassigned := inputs.controlsAccepted.assigned requirements heq
  have hcontrols := inputs.controlsAccepted.disjoint
  rw [heq] at hcontrols
  -- The row of an identifier that an image has returned.
  have hrow : ∀ item ∈ evaluations, ∀ requirement ∈ requirements,
      item.nameSpace = some requirement.nameSpace → item.source = .product ∧
        item.result.nameSpace = some requirement.nameSpace := by
    intro item hitem requirement hrequirement hnameSpace
    rcases h.origin item hitem with ⟨hcore, -⟩ | ⟨hcore, -⟩ | ⟨owner, -, hne, hof⟩
    · rw [hcore.nameSpace] at hnameSpace
      cases hnameSpace
    · rw [hcore.nameSpace] at hnameSpace
      cases hnameSpace
    · obtain rfl : owner = requirement.nameSpace :=
        Option.some.inj (hof.nameSpace.symm.trans hnameSpace)
      refine ⟨hof.source, ?_⟩
      rw [AssertionEvaluation.result, hnameSpace]
      simp [hne]
  unfold validateOciAssessmentCoverage
  refine seq_eq_ok.2 ⟨validateOciRequirements_eq_ok.2 hassigned, seq_eq_ok.2 ⟨require_of ?_,
    seq_eq_ok.2 ⟨require_of ?_, seq_eq_ok.2 ⟨require_of ?_, require_of ?_⟩⟩⟩⟩
  · intro result hresult hsource
    obtain ⟨item, hitem, rfl⟩ := List.mem_map.1 hresult
    rcases h.origin item hitem with ⟨-, hid⟩ | ⟨-, hid, -⟩ | ⟨_, -, -, hof⟩
    · obtain ⟨assertion, hassertion, hid⟩ := List.mem_map.1 hid
      rw [show item.result.assertionId = assertion.assertionId from hid.symm]
      exact hcontrols assertion hassertion
    · exact not_mem_assigned_of_policy hassigned hid
    · rw [show item.result.source = item.source from rfl, hof.source] at hsource
      cases hsource
  · intro result hresult
    obtain ⟨hresult, hrows⟩ := List.mem_filter.1 hresult
    obtain ⟨item, hitem, rfl⟩ := List.mem_map.1 hresult
    obtain ⟨-, requirement, hrequirement, hnameSpace⟩ := of_decide_eq_true hrows
    have hitemNameSpace : item.nameSpace = some requirement.nameSpace :=
      (Option.filter_eq_some_iff.1 hnameSpace).1
    have hid := (h.assigned requirements heq requirement hrequirement item.assertionId).2
      ⟨item, hitem, hitemNameSpace, rfl⟩
    rw [hnameSpace]
    exact ociOwner_eq hassigned hrequirement hid
  · intro id hid
    refine mem_criterionIds (mem_declaredIds (List.mem_append_right _ ?_))
    rw [heq]
    exact hid
  · intro id hcovered hid
    obtain ⟨requirement, hrequirement, hid⟩ := List.mem_flatMap.1 hid
    obtain ⟨item, hitem, hnameSpace, rfl⟩ :=
      (h.assigned requirements heq requirement hrequirement id).1 hid
    obtain ⟨hsource, hresult⟩ := hrow item hitem requirement hrequirement hnameSpace
    refine List.mem_map.2 ⟨item.result, List.mem_filter.2 ⟨List.mem_map_of_mem hitem, ?_⟩, rfl⟩
    exact decide_eq_true ⟨hsource, requirement, hrequirement, hresult⟩

theorem validateCovered_draft (h : NativeEvaluations inputs evaluations) {item : CoveredAssertion}
    (hitem : item ∈ (inputs.criterionCoverage evaluations).coveredAssertions) :
    validateCovered (inputs.draft run observations window original evaluations status) item =
      .ok () := by
  obtain ⟨evaluation, hevaluation, hid, -, hevidence, hne⟩ := covered_evaluation hitem
  have hdistinct : Distinct (·.assertionId) (evaluations.map (·.result)).reverse := by
    rw [Distinct, List.map_reverse, List.nodup_reverse, List.map_map]
    exact h.ids_nodup
  have hfind : (evaluations.map (·.result)).reverse.find? (·.assertionId = item.assertionId) =
      some evaluation.result := by
    rw [← hid]
    exact hdistinct.find?_eq (List.mem_reverse.2 (List.mem_map_of_mem hevaluation))
  unfold validateCovered
  refine bind_eq_ok.2 ⟨evaluation.result, demand_eq_ok.2 hfind, seq_eq_ok.2 ⟨require_of ?_,
    require_of fun sha256 hsha256 => ?_⟩⟩
  · exact criterionEvidence_decided (hevidence ▸ hne)
  · exact criterionEvidence_original (hevidence ▸ hsha256)

theorem validateNativeAssessmentCoverage_draft (h : NativeEvaluations inputs evaluations) :
    validateNativeAssessmentCoverage
      (inputs.draft run observations window original evaluations status) = .ok () := by
  have hversioned : validateVersionedCoverage
      (inputs.draft run observations window original evaluations status)
      (inputs.criterionCoverage evaluations) = .ok () := by
    unfold validateVersionedCoverage
    split
    · rfl
    · next requirements heq => exact validateOciAssessmentCoverage_draft h heq
  refine seq_eq_ok.2 ⟨hversioned, seq_eq_ok.2 ⟨require_of coveredAssertions_nodup,
    seq_eq_ok.2 ⟨require_of uncoveredAssertions_nodup, seq_eq_ok.2 ⟨require_of
      fun item hitem => covered_not_uncovered hitem, seq_eq_ok.2 ⟨forM_eq_ok.2
        fun item hitem => validateCovered_draft h hitem, require_of fun item hitem => ?_⟩⟩⟩⟩⟩
  refine mem_sortedSet.2 (List.mem_append_left _ (List.mem_append_right _ ?_))
  exact List.mem_map_of_mem hitem

/-! ## The source -/

variable {source : LoadedObservation ν}

/-- The evidence of the resolved observations is in the evidence of the run. -/
theorem validateNativeObservationEvidence_resolved (schemaName : String)
    (hbound : inputs.validateSource source.data = .ok ())
    (hresolved : inputs.resolveObservations source.data = .ok observations) :
    validateNativeObservationEvidence schemaName observations
      (inputs.evidence.links.map (·.key)) = .ok () := by
  have haccepted := source.accepted
  unfold validateNativeObservation at haccepted
  obtain ⟨-, haccepted⟩ := seq_eq_ok.1 haccepted
  obtain ⟨-, haccepted⟩ := seq_eq_ok.1 haccepted
  have hlisted := forM_eq_ok.1 haccepted
  obtain ⟨-, hbound⟩ := seq_eq_ok.1 hbound
  obtain ⟨-, hbound⟩ := seq_eq_ok.1 hbound
  obtain ⟨-, hbound⟩ := seq_eq_ok.1 hbound
  have hretained := require_eq_ok.1 hbound
  refine forM_eq_ok.2 fun observed hobserved => require_of fun reference hreference => ?_
  obtain ⟨entry, -, he⟩ := exists_of_forall₂_mem (mapM_eq_ok.1 hresolved) hobserved
  obtain ⟨-, -, -, hsupplied⟩ := resolveObservation_eq_ok he
  obtain ⟨name, hmem⟩ := hsupplied reference hreference
  have hkey := require_eq_ok.1 (hlisted (name, observed.2) hmem) reference hreference
  obtain ⟨retained, hretainedMem, hsame⟩ := List.mem_map.1 hkey
  rw [← hsame]
  exact List.mem_map.2 (hretained retained (List.mem_append_right _ hretainedMem))

theorem measurementWindow_positive (hmeasured : inputs.measurementWindow source.data = .ok window) :
    ∀ measured ∈ window, measured.startNs < measured.endNs := by
  unfold measurementWindow at hmeasured
  split at hmeasured
  · obtain ⟨-, h⟩ := seq_eq_ok.1 hmeasured
    obtain rfl := Except.ok.inj h
    exact nofun
  · obtain ⟨-, h⟩ := seq_eq_ok.1 hmeasured
    obtain ⟨-, h⟩ := seq_eq_ok.1 h
    obtain ⟨hwithin, h⟩ := seq_eq_ok.1 h
    obtain rfl := Except.ok.inj h
    rintro measured ⟨⟩
    exact (require_eq_ok.1 hwithin).2.1

/-- The instants of the original execution are those of the source. -/
theorem originalExecution_instants {startedAtNs : ℤ}
    (h : inputs.originalExecution source startedAtNs = .ok original) :
    original.startedAtNs = source.data.startedAtNs ∧
      original.finishedAtNs = source.data.finishedAtNs := by
  unfold originalExecution at h
  dsimp only at h
  split at h
  · obtain rfl := Except.ok.inj h
    exact ⟨rfl, rfl⟩
  · obtain ⟨-, h⟩ := seq_eq_ok.1 h
    obtain ⟨-, h⟩ := seq_eq_ok.1 h
    obtain ⟨-, h⟩ := seq_eq_ok.1 h
    obtain rfl := Except.ok.inj h
    exact ⟨rfl, rfl⟩

end NativeInputs

theorem LoadedObservation.ordered {ν : Type} (source : LoadedObservation ν) :
    source.data.startedAtNs ≤ source.data.finishedAtNs :=
  require_eq_ok.1 (seq_eq_ok.1 source.accepted).1

/-! ## The agreement -/

/-- What a result says and the validator derives again, apart from instants: its observations are
those of its profile, it leaves unevaluated exactly what is missing, its status is the worst one,
and its coverage splits the criteria into those that decided results and listed evidence support
and those that remain unevaluated. -/
structure Coherent {ν : Type} (result : NativeResult ν) : Prop where
  names : result.observations.map (·.1) = result.profile.observations.map (·.1)
  unevaluated : ∃ missing, nativeMissingObservations result = .ok missing ∧
    (∀ path, path ∈ result.unevaluated ↔ path ∈ missingAssessment result missing) ∧
    assessmentStatus (result.assertionResults.map (·.status)) (missingAssessment result missing) =
      .ok result.status
  coverage : ∃ coverage, result.evaluation.coverage = some coverage ∧
    (∀ item ∈ coverage.coveredAssertions,
      item.assertionId ∉ coverage.uncoveredAssertions.map (·.assertionId)) ∧
    (∀ item ∈ coverage.uncoveredAssertions,
      assertionPath item.assertionId ∈ result.unevaluated) ∧
    (∀ item ∈ coverage.coveredAssertions, item.evidenceSha256 ≠ [] ∧
      (∀ sha256 ∈ item.evidenceSha256, sha256 ∈ result.evidenceDigests) ∧
      ∃ assertion ∈ result.assertionResults, assertion.assertionId = item.assertionId ∧
        (assertion.status = .passed ∨ assertion.status = .failed)) ∧
    ∀ id ∈ result.evaluators.assignedIds,
      id ∈ coverage.coveredAssertions.map (·.assertionId) ∨
        id ∈ coverage.uncoveredAssertions.map (·.assertionId)

/-- The assessment begins once the original execution is over, and ends no earlier. -/
structure InstantsOrdered {ν : Type} (result : NativeResult ν) : Prop where
  begins : result.originalExecution.finishedAtNs ≤ result.evaluation.startedAtNs
  ends : result.evaluation.startedAtNs ≤ result.evaluation.finishedAtNs

namespace Assembled
variable {ν : Type} {inputs : NativeInputs ν} {run : AssessmentRun} {source : LoadedObservation ν}
  {result : NativeResult ν}

theorem coherent (h : Assembled inputs run source result) : Coherent result := by
  obtain ⟨observations, window, original, evaluations, status, -, -, hresolved, -, -, hevaluated,
    hworst, rfl⟩ := h
  refine ⟨NativeInputs.resolveObservations_names hresolved, ⟨_,
    NativeInputs.nativeMissingObservations_eq hresolved rfl rfl, fun path => ?_, ?_⟩,
    ⟨_, rfl, fun item hitem => NativeInputs.covered_not_uncovered hitem, fun item hitem => ?_,
      fun item hitem => ?_, fun id hid => ?_⟩⟩
  · rw [NativeInputs.mem_missingAssessment_draft hevaluated]
    exact mem_sortedSet
  · rw [NativeInputs.assessmentStatus_congr
      fun path => NativeInputs.mem_missingAssessment_draft hevaluated]
    refine Eq.trans ?_ hworst
    exact congrArg (assessmentStatus · _) (List.map_map ..)
  · refine mem_sortedSet.2 (List.mem_append_left _ (List.mem_append_right _ ?_))
    exact List.mem_map_of_mem hitem
  · obtain ⟨evaluation, hmem, hid, -, hevidence, hne⟩ := NativeInputs.covered_evaluation hitem
    exact ⟨hne, fun sha256 hsha256 => NativeInputs.criterionEvidence_original
      (hevidence ▸ hsha256), evaluation.result, List.mem_map_of_mem hmem, hid,
      NativeInputs.criterionEvidence_decided (hevidence ▸ hne)⟩
  · exact NativeInputs.mem_criterionIds (NativeInputs.mem_declaredIds
      (List.mem_append_right _ hid))

/-- The validator derives the verdict of what is assembled. -/
theorem validateNativeVerdict_eq (h : Assembled inputs run source result) :
    validateNativeVerdict result = .ok () := by
  obtain ⟨-, ⟨missing, hmissing, hunevaluated, hstatus⟩, -⟩ := h.coherent
  obtain ⟨observations, window, original, evaluations, status, -, -, -, -, -, hevaluated, -, rfl⟩ :=
    h
  refine bind_eq_ok.2 ⟨missing, hmissing, seq_eq_ok.2 ⟨require_of ?_, seq_eq_ok.2 ⟨require_of ?_,
    seq_eq_ok.2 ⟨require_of ⟨fun path => (hunevaluated path).1, fun path =>
      (hunevaluated path).2⟩, bind_eq_ok.2 ⟨status, mapError_eq_ok.2 hstatus, require_of rfl⟩⟩⟩⟩⟩
  · rw [Distinct]
    exact (List.map_map ..).symm ▸ hevaluated.ids_nodup
  · rw [Distinct, List.map_id]
    exact inputs.controlsAccepted.nameSpaces_nodup

/-- The validator accepts what is assembled exactly where the instants are ordered. -/
theorem validateNativeResult_iff (h : Assembled inputs run source result) :
    validateNativeResult result = .ok () ↔ InstantsOrdered result := by
  have hverdict := h.validateNativeVerdict_eq
  obtain ⟨observations, window, original, evaluations, status, -, hbound, hresolved, hmeasured,
    hexecuted, hevaluated, -, rfl⟩ := h
  obtain ⟨hstarted, hfinished⟩ := NativeInputs.originalExecution_instants hexecuted
  have hprofile := require_eq_ok.1 (seq_eq_ok.1 inputs.scenario.accepted).1
  have htimes : validateNativeTimes
      (inputs.draft run observations window original evaluations status) = .ok () ↔
      InstantsOrdered (inputs.draft run observations window original evaluations status) := by
    unfold validateNativeTimes nativeTimeOrder
    simp only [seq_eq_ok, require_eq_ok]
    constructor
    · rintro ⟨-, hends, -, hbegins⟩
      exact ⟨hbegins, hends⟩
    · rintro ⟨hbegins, hends⟩
      refine ⟨?_, hends, NativeInputs.measurementWindow_positive hmeasured, hbegins⟩
      exact hstarted ▸ hfinished ▸ LoadedObservation.ordered source
  unfold validateNativeResult
  rw [seq_eq_ok, seq_eq_ok, seq_eq_ok, seq_eq_ok, seq_eq_ok, htimes]
  constructor
  · rintro ⟨-, -, hordered, -⟩
    exact hordered
  · intro hordered
    exact ⟨require_of hprofile, NativeInputs.validateNativeAssessmentCoverage_draft hevaluated,
      hordered, hverdict,
      NativeInputs.validateNativeObservationEvidence_resolved _ hbound hresolved,
      NativeInputs.validateNativeAssertionSources_draft hevaluated⟩

end Assembled

/-- Whatever the inputs of an assessment and the clock that it meets, the result that it assembles
is coherent, and the validator accepts it exactly where its instants are ordered. -/
theorem assemble_accepted_iff {ν : Type} {inputs : NativeInputs ν} {texts : MetricTexts}
    {run : AssessmentRun} {result : NativeResult ν} (h : inputs.assemble texts run = .ok result) :
    Coherent result ∧ (validateNativeResult result = .ok () ↔ InstantsOrdered result) := by
  obtain ⟨source, ⟨hassembled⟩⟩ := NativeInputs.assembled_of_ok h
  exact ⟨hassembled.coherent, hassembled.validateNativeResult_iff⟩

/-- The evidence of the postcondition of a run. -/
def readyReference : ArtifactReference := ⟨"ready.json", "aa", 1, none, none⟩

/-- A scenario whose producer must observe one postcondition. -/
def readyScenario : NativeScenario where
  scenarioId := "scenario"
  execution := { targetEnvironment := .dataOnly, dataSource := "recorded" }
  profile := ⟨"profile", [], none, none, [("ready", ⟨.postcondition, .required⟩)], by decide,
    by decide⟩
  metricDefinitions := []
  assertions := []
  evaluatorRequirements := []
  evidencePolicy := ⟨1024, 4096, 1, .localOnly, "short-term", false⟩

/-- An observation of the postcondition from 0 to 10 ns. -/
def readyObservation : AcceptanceObservation Unit where
  runId := "run"
  domainId := "domain"
  scenarioId := "scenario"
  scenarioSha256 := "scenario-sha256"
  runtimeManifestSha256 := "runtime-sha256"
  startedAtNs := 0
  finishedAtNs := 10
  observations := [("ready", .measured () readyReference)]
  evidence := [readyReference]
  measurementWindow := some ⟨0, 10, ⟨.external, "clock", none⟩, .unixNs⟩
  names_nodup := by decide

/-- The evidence of the run: that of the postcondition. -/
def readyEvidence : VerifiedEvidence where
  index := ⟨"run", 10, ⟨"bounded", "zstd", "short-term", "local_only", false, 0, 0⟩,
    [{ artifactId := "ready", kind := "other", uri := "ready.json", mediaType := "application/json",
       sha256 := "aa", sizeBytes := 1, retentionClass := "short-term", storageState := .local }]⟩
  indexSha256 := "index-sha256"
  recordingSummaries := []
  accepted := by decide +kernel

/-- The assessment of the observation. -/
def readyInputs : NativeInputs Unit where
  runId := "run"
  domainId := "domain"
  scenario := ⟨readyScenario, "scenario-sha256", by decide +kernel⟩
  runtime := { execution := readyScenario.execution, sha256 := "runtime-sha256" }
  run := ⟨⟨.external, "clock", none⟩, "run-sha256"⟩
  evidence := readyEvidence
  indexedObservations := [.v2 ⟨readyObservation, "observation-sha256", by decide +kernel⟩]
  window := ⟨0, 10⟩
  loadMetrics _ _ := .ok []
  metrics := ([], none)
  metrics_read := rfl

/-- An assessment that its clock lets begin and end at an instant. -/
def readyRun (instantNs : ℤ) : AssessmentRun where
  startedAtNs := instantNs
  finishedAtNs := instantNs
  resultId := "result"
  version := "1"
  configuration := readyReference
  environment := readyReference
  installed _ := .error (.evaluation "not installed")
  respond _ := .error (.other "no operator")
  requestSha256 _ := ""

/-- A temperature, and a criterion of it. -/
def labMetric : MetricDefinition := ⟨"org.lab.temperature", "Cel", .gauge, .instantaneous, false⟩

def labAssertion : MetricAssertion :=
  ⟨"warm", labMetric.metricName, labMetric.unit, .gte, 15, 1, [], .metric .min⟩

/-- A scenario with the criterion, which one product evaluates. -/
def labScenario : NativeScenario :=
  { readyScenario with
    metricDefinitions := [labMetric]
    assertions := [labAssertion]
    evaluatorRequirements := [⟨"org.lab", "lab:evaluate", "lab", "1", "cc", "dd"⟩] }

/-- The metrics of the run. -/
def labMetrics : EvidenceArtifact where
  artifactId := "metrics"
  kind := "metrics"
  uri := "metrics.jsonl"
  mediaType := otlpJsonLinesMediaType
  sha256 := "ff"
  sizeBytes := 1
  retentionClass := "short-term"
  storageState := .local

/-- The evidence of the run: that of the postcondition, the observation document itself and the
metrics. -/
def labEvidence : VerifiedEvidence :=
  { readyEvidence with
    index := { readyEvidence.index with
      artifacts := readyEvidence.index.artifacts ++
        [{ artifactId := "observation", kind := "acceptance_observation", uri := "observation.json",
           mediaType := "application/json", sha256 := "bb", sizeBytes := 1,
           retentionClass := "short-term", storageState := .local }, labMetrics] }
    accepted := by decide +kernel }

/-- The temperature in the window of the assessment. -/
def labPoint : MetricPoint :=
  .scalar ⟨⟨labMetric.metricName, 20, labMetric.unit, 5,
    [toLex ("domain.id", .str "domain"), toLex ("run.id", .str "run")], .gauge, none, 0, false⟩,
    by decide +kernel⟩

def labInputs : NativeInputs Unit :=
  { readyInputs with
    scenario := ⟨labScenario, "scenario-sha256", by decide +kernel⟩
    evidence := labEvidence
    otelMetricsPath := some "metrics.jsonl"
    loadMetrics := fun _ _ => .ok [labPoint]
    metrics := ([labPoint], some (resultLink labMetrics))
    metrics_read := rfl }

/-- An assessment whose product cites the given evidence. -/
def labRun (evidenceSha256 : List String) : AssessmentRun :=
  { readyRun 20 with
    installed := fun _ => .ok ⟨[.evaluation
      { assertionId := "org.lab.ready", status := .passed, observedValue := none, unit := "1",
        source := .product, nameSpace := some "org.lab", evidenceSha256 := evidenceSha256 }],
      none⟩ }

/-- Controls that assign one identifier to an image, beside the criterion. -/
def imageControls : MethodControls where
  metricDefinitions := [labMetric]
  assertions := [labAssertion]
  evaluatorRequirements := .oci [⟨"org.lab", "sha256:ee", none, ["org.lab.ready"]⟩]
  evidencePolicy := readyScenario.evidencePolicy
  calibration := some (.notApplicable "no instrument")

/-- The assessment of the run of the lab by an image, after its original one. -/
def imageInputs : NativeInputs Unit :=
  { labInputs with
    selected := some ⟨imageControls, "controls-sha256", 1, .notApplicable "no instrument", rfl,
      by decide +kernel, List.nodup_nil⟩
    originalResult := some (labInputs.draft (labRun ["aa"]) readyObservation.observations none
      ⟨"run-sha256", "observation-sha256", "index-sha256", 0, 10, none⟩ [] .passed,
      "original-sha256")
    operatorProfile := true
    metrics_read := rfl }

/-- A run in which the image answers its request. -/
def imageRun : AssessmentRun :=
  { readyRun 30 with
    respond := fun _ => .ok ⟨"request-sha256", [⟨"org.lab.ready", "org.lab", .passed, none, "1",
      none, ["aa"]⟩]⟩
    requestSha256 := fun _ => "request-sha256" }

/-- The criterion and the identifier of the image are both covered. -/
theorem assemble_accepted_iff_image :
    ∃ result coverage, imageInputs.assemble exactTexts imageRun = .ok result ∧
      result.evaluation.coverage = some coverage ∧
      coverage.coveredAssertions = [⟨"org.lab.ready", ["aa"]⟩, ⟨"warm", ["ff"]⟩] ∧
      Coherent result ∧ (validateNativeResult result = .ok () ↔ InstantsOrdered result) := by
  have h : (imageInputs.assemble exactTexts imageRun).toOption.any (fun result =>
      result.evaluation.coverage.any fun coverage => decide (coverage.coveredAssertions =
        [⟨"org.lab.ready", ["aa"]⟩, ⟨"warm", ["ff"]⟩])) = true := by
    decide +kernel
  obtain ⟨result, h, hcoverage⟩ := exists_ok_of_any h
  obtain ⟨coverage, hsome, hcovered⟩ := (Option.any_eq_true _ _).1 hcoverage
  exact ⟨result, coverage, h, hsome, of_decide_eq_true hcovered, assemble_accepted_iff h⟩

/-- An assessment whose clock lags behind that of the source assembles a result that the validator
rejects. -/
theorem not_validateNativeResult_ready : ¬ ∀ (inputs : NativeInputs Unit) (texts : MetricTexts)
    (run : AssessmentRun) (result : NativeResult Unit),
    inputs.assemble texts run = .ok result → validateNativeResult result = .ok () := by
  intro hall
  have h : (readyInputs.assemble exactTexts (readyRun 5)).toOption.any
      (fun result => decide (result.evaluation.startedAtNs < result.originalExecution.finishedAtNs))
      = true := by
    decide +kernel
  obtain ⟨result, h, hearly⟩ := exists_ok_of_any h
  obtain ⟨_, ⟨hassembled⟩⟩ := NativeInputs.assembled_of_ok h
  have hordered := hassembled.validateNativeResult_iff.1 (hall _ _ _ _ h)
  exact absurd (of_decide_eq_true hearly) hordered.begins.not_gt

end RoboticsRuntime.Harness
