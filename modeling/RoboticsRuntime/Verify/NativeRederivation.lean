import RoboticsRuntime.Contracts.NativeRederivation
import RoboticsRuntime.Verify.NativeResult

/-!
# Native results derived again

What `_evaluate_native` assembles passes the clauses of the bundle verifier that derive it again from
the same observation and the same controls.
-/

namespace RoboticsRuntime.Harness
open Theory Contracts

variable {ν : Type} {inputs : NativeInputs ν} {run : AssessmentRun} {source : LoadedObservation ν}
  {observations : List (String × NativeObservation ν)} {window : Option MeasurementWindow}
  {original : OriginalExecution} {evaluations : List AssertionEvaluation} {status : OutcomeStatus}

/-! ## Observations -/

theorem resolvedObservation_eq {supplied : List (String × NativeObservation ν)}
    {entry : String × ObservationRequirement} {observed : String × NativeObservation ν}
    (h : NativeInputs.resolveObservation supplied entry = .ok observed) :
    resolvedObservation supplied entry = .ok observed := by
  obtain ⟨name, kind, requirement⟩ := entry
  cases requirement with
  | notApplicable reason | required | optional =>
    obtain ⟨happlicable, h⟩ := seq_eq_ok.1 h
    obtain rfl := Except.ok.inj h
    exact seq_eq_ok.2 ⟨require_of (require_eq_ok.1 happlicable), rfl⟩

/-- The verifier resolves a source to the same observations. -/
theorem resolvedObservations_eq (hbound : inputs.validateSource source.data = .ok ())
    (hresolved : inputs.resolveObservations source.data = .ok observations) :
    resolvedObservations inputs.scenario.data.profile source.data = .ok observations := by
  obtain ⟨-, hbound⟩ := seq_eq_ok.1 hbound
  obtain ⟨-, hbound⟩ := seq_eq_ok.1 hbound
  obtain ⟨hnames, -⟩ := seq_eq_ok.1 hbound
  refine seq_eq_ok.2 ⟨require_of (require_eq_ok.1 hnames), mapM_eq_ok.2 ?_⟩
  exact (mapM_eq_ok.1 hresolved).imp fun _ _ => resolvedObservation_eq

/-! ## Windows -/

theorem domainWindow_draft (texts : NativeTexts ν) (domain : String)
    (hmeasured : inputs.measurementWindow source.data = .ok window) :
    domainWindow texts domain inputs.run.timeAuthority
      (inputs.draft run observations window original evaluations status) source.data
      inputs.controls = .ok () := by
  unfold NativeInputs.measurementWindow at hmeasured
  unfold domainWindow NativeInputs.draft
  dsimp only
  split at hmeasured
  · obtain ⟨hnone, h⟩ := seq_eq_ok.1 hmeasured
    obtain rfl := Except.ok.inj h
    exact require_of (require_eq_ok.1 hnone)
  · next measured heq =>
    obtain ⟨hclock, h⟩ := seq_eq_ok.1 hmeasured
    obtain ⟨hencoding, h⟩ := seq_eq_ok.1 h
    obtain ⟨hwithin, h⟩ := seq_eq_ok.1 h
    obtain rfl := Except.ok.inj h
    refine seq_eq_ok.2 ⟨require_of (require_eq_ok.1 hencoding),
      bind_eq_ok.2 ⟨measured, demand_eq_ok.2 heq, ?_⟩⟩
    exact seq_eq_ok.2 ⟨requireEqual_eq_ok.2 rfl, seq_eq_ok.2 ⟨requireEqual_eq_ok.2 rfl,
      seq_eq_ok.2 ⟨requireEqual_eq_ok.2 (require_eq_ok.1 hclock).symm,
        require_of (require_eq_ok.1 hwithin)⟩⟩⟩

/-! ## Assertions -/

theorem nativePolicyAssertions_eq : nativePolicyAssertions = nativePolicyIds := by
  decide

/-- The core assertions are those of the declared metrics and of the evidence policy. -/
theorem mem_coreIds_draft (h : NativeEvaluations inputs evaluations) {id : String} :
    id ∈ (inputs.draft run observations window original evaluations status).coreIds ↔
      id ∈ inputs.controls.assertions.map (·.assertionId) ++ nativePolicyAssertions := by
  rw [List.mem_append, nativePolicyAssertions_eq]
  constructor
  · intro hid
    obtain ⟨result, hresult, rfl⟩ := List.mem_map.1 hid
    obtain ⟨hresult, hsource⟩ := List.mem_filter.1 hresult
    obtain ⟨item, hitem, rfl⟩ := List.mem_map.1 hresult
    rcases h.origin item hitem with ⟨-, hid⟩ | ⟨-, hid, -⟩ | ⟨_, -, -, hof⟩
    · exact .inl hid
    · exact .inr hid
    · have hcore : item.source = .core := of_decide_eq_true hsource
      rw [hof.source] at hcore
      cases hcore
  · intro hid
    obtain ⟨item, hitem, hcore, rfl⟩ := hid.elim (h.declared id) (h.policies id)
    exact List.mem_map.2 ⟨item.result, List.mem_filter.2 ⟨List.mem_map_of_mem hitem,
      decide_eq_true hcore.source⟩, rfl⟩

/-- Where the evaluators are images, each criterion is declared or assigned. -/
theorem mem_declared_of_covered (h : NativeEvaluations inputs evaluations)
    {requirements : List OciRequirement}
    (heq : inputs.controls.evaluatorRequirements = .oci requirements) {id : String}
    (hid : id ∈ inputs.criterionIds evaluations) : id ∈ inputs.declaredIds := by
  rcases List.mem_append.1 (mem_sortedSet.1 hid) with hid | hid
  · obtain ⟨item, hitem, rfl⟩ := List.mem_map.1 hid
    obtain ⟨hitem, hcriterion⟩ := List.mem_filter.1 hitem
    rcases of_decide_eq_true hcriterion with hproduct | hdeclared
    · rcases h.origin item hitem with ⟨hcore, -⟩ | ⟨hcore, -⟩ | ⟨owner, howner, -, hof⟩
      · rw [hcore.source] at hproduct
        cases hproduct
      · rw [hcore.source] at hproduct
        cases hproduct
      · rw [heq] at howner
        obtain ⟨requirement, hrequirement, rfl⟩ := List.mem_map.1 howner
        refine List.mem_append_right _ ?_
        rw [heq]
        exact List.mem_flatMap.2 ⟨requirement, hrequirement,
          (h.assigned requirements heq requirement hrequirement _).2
            ⟨item, hitem, hof.nameSpace, rfl⟩⟩
    · exact hdeclared
  · exact hid

theorem controls_calibration_draft : (inputs.controls.calibration.toList.flatMap (·.artifacts)).map
    (·.sha256) = inputs.context.methodInputs := by
  unfold NativeInputs.controls nativeControls NativeInputs.context EvaluationContext.methodInputs
  cases inputs.selected with
  | none => rfl
  | some selected =>
    simp only [Option.map_some, Option.getD_some, selected.declared, Option.toList_some,
      List.flatMap_cons, List.flatMap_nil, List.append_nil]

theorem domainAssertionRegistry_draft (domain : String) (h : NativeEvaluations inputs evaluations) :
    domainAssertionRegistry domain
      (inputs.draft run observations window original evaluations status) inputs.controls =
        .ok () := by
  refine seq_eq_ok.2 ⟨require_of ⟨fun id => (mem_coreIds_draft h).1,
    fun id => (mem_coreIds_draft h).2⟩, seq_eq_ok.2 ⟨?_, forM_eq_ok.2 fun result hresult => ?_⟩⟩
  · unfold checkCoverageIds
    split
    · rfl
    · next requirements heq =>
      refine require_of fun id hid => ?_
      have hdeclared : id ∈ inputs.declaredIds := by
        refine mem_declared_of_covered h heq ?_
        rcases List.mem_append.1 hid with hid | hid
        · obtain ⟨item, hitem, rfl⟩ := List.mem_map.1 hid
          exact (NativeInputs.mem_coveredAssertions.1 hitem).1
        · obtain ⟨item, hitem, rfl⟩ := List.mem_map.1 hid
          exact (NativeInputs.mem_uncoveredAssertions.1 hitem).1
      exact (List.mem_append.1 hdeclared).imp_right .inr
  · obtain ⟨item, hitem, rfl⟩ := List.mem_map.1 hresult
    rw [controls_calibration_draft]
    unfold checkProductAssertion
    rcases h.origin item hitem with ⟨hcore, -⟩ | ⟨hcore, -⟩ | ⟨owner, howner, hne, hof⟩
    · rw [show item.result.source = .core from hcore.source]
    · rw [show item.result.source = .core from hcore.source]
    · rw [show item.result.source = .product from hof.source]
      have hnameSpace : item.result.nameSpace = some owner := by
        rw [AssertionEvaluation.result, hof.nameSpace]
        simp [hne]
      have hcited : item.result.evidenceSha256 = some item.evidenceSha256 := by
        rw [AssertionEvaluation.result]
        exact if_neg hof.cites
      refine seq_eq_ok.2 ⟨require_of ⟨owner, howner, hnameSpace, hof.owned⟩, require_of ?_⟩
      rw [hcited]
      exact hof.known

/-! ## Coverage -/

/-- A required observation is missing where it is not measured. -/
theorem missingObservationCoverage_eq
    (hresolved : inputs.resolveObservations source.data = .ok observations) :
    missingObservationCoverage inputs.scenario.data.profile observations =
      inputs.missingRequired observations ++
        if observations.any (·.2.isMeasured) then [] else ["$.observations"] := by
  unfold missingObservationCoverage NativeInputs.missingRequired
  congr 1
  refine List.filterMap_congr fun entry hentry => if_congr (and_congr_right fun hrequired => ?_)
    rfl rfl
  obtain ⟨observed, hlookup, he⟩ := NativeInputs.resolveObservations_lookup hresolved hentry
  obtain ⟨-, -, hinapplicable, -⟩ := NativeInputs.resolveObservation_eq_ok he
  have hnone := hinapplicable (by simp [hrequired])
  rw [hlookup, Option.any_some, Option.any_some]
  cases observed with
  | notApplicable reason => cases hnone
  | measured | unobserved | invalid => simp [NativeObservation.isMeasured, NativeObservation.isMissing]

theorem missingCriterionCoverage_draft :
    missingCriterionCoverage inputs.controls
        (inputs.draft run observations window original evaluations status) =
      (if inputs.controls.assertions = [] ∧ ∀ item ∈ evaluations, item.source ≠ .product
        then ["$.assertions"] else []) ++
        (evaluations.filter (·.status = .skipped)).map (assertionPath ·.assertionId) := by
  unfold missingCriterionCoverage NativeInputs.draft
  dsimp only
  congr 1
  · refine if_congr (and_congr_right fun _ => ?_) rfl rfl
    rw [List.forall_mem_map]
    rfl
  · rw [List.filter_map, List.map_map]
    rfl

/-- An assessment with a missing part is at most incomplete. -/
theorem worstStatus_of_missing {statuses : List AssertionStatus} {missing : List String}
    (hne : missing ≠ []) (h : assessmentStatus statuses missing = .ok status) :
    worstStatus [status, .incomplete] false = .ok status := by
  have hcancelled : OutcomeStatus.cancelled ∉
      statuses.map (·.assessed) ++ if missing = [] then [] else [.incomplete] := by
    rw [if_neg hne, List.mem_append, List.mem_map]
    rintro (⟨assertion, -, hassessed⟩ | h)
    · cases assertion <;> cases hassessed
    · cases List.mem_singleton.1 h
  obtain ⟨hmem, hworst⟩ := (worstStatus_eq_ok hcancelled).1 h
  have hincomplete : OutcomeStatus.incomplete ≤ status :=
    hworst _ (List.mem_append_right _ (by rw [if_neg hne]; exact List.mem_singleton.2 rfl))
  have hstatus : OutcomeStatus.cancelled ∉ [status, .incomplete] := by
    rintro (_ | ⟨_, h⟩)
    · exact hcancelled hmem
    · cases List.mem_singleton.1 h
  refine (worstStatus_eq_ok hstatus).2 ⟨List.mem_cons_self, fun other hother => ?_⟩
  rcases List.mem_cons.1 hother with rfl | hother
  · exact le_rfl
  · exact List.mem_singleton.1 hother ▸ hincomplete

theorem domainCoverage_draft [DecidableEq ν] (texts : NativeTexts ν) (domain : String)
    (hbound : inputs.validateSource source.data = .ok ())
    (hresolved : inputs.resolveObservations source.data = .ok observations)
    (hworst : assessmentStatus (evaluations.map (·.status)) (inputs.unevaluatedPaths observations
      evaluations (inputs.criterionCoverage evaluations)) = .ok status) :
    domainCoverage texts domain inputs.scenario.data.profile
      (inputs.draft run observations window original evaluations status) source.data
      inputs.controls = .ok () := by
  have hmissing : ∀ path ∈ missingObservationCoverage inputs.scenario.data.profile observations ++
      missingCriterionCoverage inputs.controls
        (inputs.draft run observations window original evaluations status),
      path ∈ inputs.unevaluatedPaths observations evaluations
        (inputs.criterionCoverage evaluations) := by
    intro path hpath
    rw [missingObservationCoverage_eq hresolved, missingCriterionCoverage_draft] at hpath
    unfold NativeInputs.unevaluatedPaths
    simp only [List.mem_append] at hpath ⊢
    tauto
  refine bind_eq_ok.2 ⟨observations, resolvedObservations_eq hbound hresolved,
    seq_eq_ok.2 ⟨require_of (.refl _), seq_eq_ok.2 ⟨require_of fun path hpath =>
      mem_sortedSet.2 (hmissing path hpath), require_of ?_⟩⟩⟩
  refine or_iff_not_imp_left.2 fun hne => ?_
  obtain ⟨path, hpath⟩ := List.exists_mem_of_ne_nil _ hne
  have := worstStatus_of_missing (List.ne_nil_of_mem (hmissing path hpath)) hworst
  exact congrArg Except.toOption this

/-! ## The agreement -/

/-- What the verifier derives of a result from its source and the controls of its method. -/
structure NativeRederivation [DecidableEq ν] (inputs : NativeInputs ν) (source : AcceptanceObservation ν)
    (result : NativeResult ν) : Prop where
  window_accepted : ∀ texts domain, domainWindow texts domain inputs.run.timeAuthority result source
    inputs.controls = .ok ()
  registry_accepted : ∀ domain, domainAssertionRegistry domain result inputs.controls = .ok ()
  coverage_accepted : ∀ texts domain, domainCoverage texts domain inputs.scenario.data.profile result
    source inputs.controls = .ok ()
  observations : resolvedObservations inputs.scenario.data.profile source = .ok result.observations
  core : ∀ id, id ∈ result.coreIds ↔
    id ∈ inputs.controls.assertions.map (·.assertionId) ∨ id ∈ nativePolicyAssertions
  products : ∀ assertion ∈ result.assertionResults, assertion.source = .product →
    ∀ sha256 ∈ assertion.evidenceSha256.getD [], sha256 ∈ result.evidenceDigests ∨
      sha256 ∈ (inputs.controls.calibration.toList.flatMap (·.artifacts)).map (·.sha256)
  missing : ∀ path ∈ missingObservationCoverage inputs.scenario.data.profile result.observations ++
    missingCriterionCoverage inputs.controls result, path ∈ result.unevaluated
  window : ∀ window ∈ result.evaluation.window, ∃ sourceWindow ∈ source.measurementWindow,
    window.clock = sourceWindow.clock ∧ sourceWindow.startNs ≤ window.startNs ∧
      window.endNs ≤ sourceWindow.endNs

/-- What the clauses of the verifier accept, they have derived again. -/
theorem rederived_of_accepted [DecidableEq ν] {source : AcceptanceObservation ν}
    {result : NativeResult ν} (texts : NativeTexts ν)
    (hwindow : ∀ texts domain, domainWindow texts domain inputs.run.timeAuthority result source
      inputs.controls = .ok ())
    (hregistry : ∀ domain, domainAssertionRegistry domain result inputs.controls = .ok ())
    (hcoverage : ∀ texts domain, domainCoverage texts domain inputs.scenario.data.profile result
      source inputs.controls = .ok ())
    (hobservations : resolvedObservations inputs.scenario.data.profile source =
      .ok result.observations) : NativeRederivation inputs source result := by
  refine ⟨hwindow, hregistry, hcoverage, hobservations, fun id => ?_,
    fun assertion hassertion hsource sha256 hsha256 => ?_, fun path hpath => ?_,
    fun window hmem => ?_⟩
  · obtain ⟨hcore, -⟩ := seq_eq_ok.1 (hregistry "")
    rw [← List.mem_append]
    exact ⟨(require_eq_ok.1 hcore).1 id, (require_eq_ok.1 hcore).2 id⟩
  · obtain ⟨-, hregistry⟩ := seq_eq_ok.1 (hregistry "")
    obtain ⟨-, hproducts⟩ := seq_eq_ok.1 hregistry
    have hproduct := forM_eq_ok.1 hproducts assertion hassertion
    unfold checkProductAssertion at hproduct
    rw [hsource] at hproduct
    obtain ⟨-, hcited⟩ := seq_eq_ok.1 hproduct
    exact List.mem_append.1 (require_eq_ok.1 hcited sha256 hsha256)
  · obtain ⟨expected, hexpected, hcoverage⟩ := bind_eq_ok.1 (hcoverage texts "")
    obtain rfl := Except.ok.inj (hobservations.symm.trans hexpected)
    obtain ⟨-, hcoverage⟩ := seq_eq_ok.1 hcoverage
    obtain ⟨hmissing, -⟩ := seq_eq_ok.1 hcoverage
    exact require_eq_ok.1 hmissing path hpath
  · have hmeasured := hwindow texts ""
    unfold domainWindow at hmeasured
    rw [Option.mem_def.1 hmem] at hmeasured
    obtain ⟨-, hmeasured⟩ := seq_eq_ok.1 hmeasured
    obtain ⟨sourceWindow, hsource, hmeasured⟩ := bind_eq_ok.1 hmeasured
    obtain ⟨hclock, hmeasured⟩ := seq_eq_ok.1 hmeasured
    obtain ⟨-, hmeasured⟩ := seq_eq_ok.1 hmeasured
    obtain ⟨-, hwithin⟩ := seq_eq_ok.1 hmeasured
    obtain ⟨hstart, -, hend⟩ := require_eq_ok.1 hwithin
    exact ⟨sourceWindow, demand_eq_ok.1 hsource, (requireEqual_eq_ok.1 hclock).symm, hstart, hend⟩

/-- Whatever is assembled of a source and of controls, the verifier derives it again from them. -/
theorem assemble_rederived [DecidableEq ν] {texts : MetricTexts} {result : NativeResult ν}
    (h : inputs.assemble texts run = .ok result) :
    ∃ source, inputs.loadObservation = .ok source ∧ NativeRederivation inputs source.data result := by
  obtain ⟨source, ⟨observations, window, original, evaluations, status, hloaded, hbound, hresolved,
    hmeasured, -, hevaluated, hworst, rfl⟩⟩ := NativeInputs.assembled_of_ok h
  exact ⟨source, hloaded, rederived_of_accepted ⟨fun _ => "", fun _ => "", fun _ => ""⟩
    (fun texts domain => domainWindow_draft texts domain hmeasured)
    (fun domain => domainAssertionRegistry_draft domain hevaluated)
    (fun texts domain => domainCoverage_draft texts domain hbound hresolved hworst)
    (resolvedObservations_eq hbound hresolved)⟩

theorem assemble_rederived_image :
    ∃ result source, imageInputs.assemble exactTexts imageRun = .ok result ∧
      imageInputs.loadObservation = .ok source ∧ NativeRederivation imageInputs source.data result := by
  have h : (imageInputs.assemble exactTexts imageRun).toOption.any (fun _ => true) = true := by
    decide +kernel
  obtain ⟨result, h, -⟩ := exists_ok_of_any h
  obtain ⟨source, hsource, hrederived⟩ := assemble_rederived h
  exact ⟨result, source, h, hsource, hrederived⟩

end RoboticsRuntime.Harness
