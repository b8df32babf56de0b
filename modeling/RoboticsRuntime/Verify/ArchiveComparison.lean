import RoboticsRuntime.Contracts.ArchiveComparison
import RoboticsRuntime.Verify.ArchiveCoverage

/-!
# What the comparison of two assessments says

A comparison splits the criteria of both assessments into those that it compares and those that it
leaves out, says `matched` only of assessments by one method whose common criteria have the same
outcomes, and says the same of two assessments in either order.
-/

namespace RoboticsRuntime.Contracts
open Theory

variable {ν τ : Type} [DecidableEq τ] {dumps : AssertionOutcome → τ} {domain : String}
  {original assessment : ArchivedResult ν} {comparison : DomainComparison}

/-! ## Coverage reports -/

/-- What the coverage of an archived result reports. -/
structure Reported (archived : ArchivedResult ν) (report : CoverageReport) : Prop where
  covered : ∀ id ∈ report.1, id ∈ report.2.1
  found : ∀ id ∈ report.1, ∃ assertion ∈ report.2.2, assertion.assertionId = id
  distinct : Distinct (·.assertionId) report.2.2
  declared : archived.result.evaluation.coverage = none → report.1 = []

theorem assertionId_citedCriteria (covered : List CoveredAssertion)
    (criteria : List AssertionResult) :
    (citedCriteria covered criteria).map (·.assertionId) = criteria.map (·.assertionId) := by
  rw [citedCriteria, List.map_map]
  refine List.map_congr_left fun assertion _ => ?_
  rw [Function.comp_apply]
  split <;> rfl

theorem criterionResults_distinct {result : NativeResult ν} {criteria : List AssertionResult}
    (h : criterionResults result = .ok criteria) : Distinct (·.assertionId) criteria := by
  unfold criterionResults at h
  rw [seq_eq_ok, require_eq_ok] at h
  obtain ⟨hdistinct, h⟩ := h
  exact Except.ok.inj h ▸ hdistinct

theorem reported {archived : ArchivedResult ν} {report : CoverageReport}
    (h : archived.coverage = .ok report) : Reported archived report := by
  unfold ArchivedResult.coverage archiveCoverage at h
  obtain ⟨criteria, hcriteria, h⟩ := bind_eq_ok.1 h
  have hdistinct := criterionResults_distinct hcriteria
  split at h
  next =>
    cases Except.ok.inj h
    exact ⟨by simp, by simp, hdistinct, fun _ => rfl⟩
  next coverage hcoverage =>
    obtain ⟨classified, hclassified, h⟩ := bind_eq_ok.1 h
    rw [seq_eq_ok] at h
    cases Except.ok.inj h.2
    unfold classifiedCriteria at hclassified
    rw [seq_eq_ok, require_eq_ok] at hclassified
    obtain ⟨⟨-, -, -, hexpected, -⟩, hclassified⟩ := hclassified
    refine ⟨fun id hid => hexpected id (List.mem_append_left _ hid), fun id hid => ?_, ?_,
      fun hnone => absurd (hcoverage.symm.trans hnone) (by simp)⟩
    · obtain ⟨item, hitem, rfl⟩ := List.mem_map.1 hid
      obtain ⟨entry, -, hentry⟩ := exists_of_forall₂_mem (mapM_eq_ok.1 hclassified).flip hitem
      unfold coveredCriterion at hentry
      obtain ⟨assertion, hassertion, -⟩ := bind_eq_ok.1 hentry
      rw [demand_eq_ok] at hassertion
      refine List.mem_map.1 ?_
      rw [assertionId_citedCriteria]
      have hid := List.find?_some hassertion
      exact List.mem_map.2 ⟨assertion, List.mem_of_find?_eq_some hassertion, of_decide_eq_true hid⟩
    · rw [Distinct, assertionId_citedCriteria]
      exact hdistinct

/-! ## The meaning of a comparison -/

/-- Two assessments by one method, under the same conditions, that both declare their coverage. -/
structure Comparable (before after : NativeAssessment) : Prop where
  method : before.methodIdentity = after.methodIdentity
  environment : artifactIdentity before.environment = artifactIdentity after.environment
  window : before.window = after.window
  observed : calibrationIdentity before ≠ none
  calibration : calibrationIdentity before = calibrationIdentity after
  coverage : before.coverage ≠ none ∧ after.coverage ≠ none

theorem calibrationReasons_eq_nil {before after : NativeAssessment} :
    calibrationReasons before after = [] ↔ calibrationIdentity before ≠ none ∧
      calibrationIdentity before = calibrationIdentity after := by
  unfold calibrationReasons
  split
  next h =>
    simpa using fun hbefore hsame => h.elim hbefore fun hafter => hbefore (hsame.trans hafter)
  next h =>
    rw [not_or] at h
    split
    next hne => simp [hne]
    next hsame => simpa [h.1] using not_not.1 hsame

theorem comparisonReasons_eq_nil {before after : NativeAssessment} :
    comparisonReasons before after = [] ↔ Comparable before after := by
  have hite {p : Prop} [Decidable p] {reason : ComparisonReason} :
      (if p then [reason] else []) = [] ↔ ¬ p := by
    split <;> simp [*]
  unfold comparisonReasons
  simp only [List.append_eq_nil_iff, hite, calibrationReasons_eq_nil, not_not, not_or]
  constructor
  · rintro ⟨⟨⟨⟨hmethod, henvironment⟩, hwindow⟩, hobserved, hcalibration⟩, hcoverage⟩
    exact ⟨hmethod, henvironment, hwindow, hobserved, hcalibration, hcoverage⟩
  · rintro ⟨hmethod, henvironment, hwindow, hobserved, hcalibration, hcoverage⟩
    exact ⟨⟨⟨⟨hmethod, henvironment⟩, hwindow⟩, hobserved, hcalibration⟩, hcoverage⟩

theorem incomparableReasons_eq_nil {before after : NativeAssessment}
    {report report' : CoverageReport} : incomparableReasons before after report report' = [] ↔
      Comparable before after ∧ coveredByBoth report report' ≠ [] := by
  unfold incomparableReasons
  rw [List.append_eq_nil_iff, comparisonReasons_eq_nil]
  split <;> simp [*]

/-- The criteria that are compared are those that comparable assessments both cover. -/
theorem mem_comparedAssertions {before after : NativeAssessment} {report report' : CoverageReport}
    {id : String} : id ∈ comparedAssertions before after report report' ↔
      Comparable before after ∧ id ∈ report.1 ∧ id ∈ report'.1 := by
  have hboth : id ∈ coveredByBoth report report' ↔ id ∈ report.1 ∧ id ∈ report'.1 := by
    simp [coveredByBoth]
  unfold comparedAssertions
  split
  next h =>
    rw [incomparableReasons_eq_nil] at h
    rw [mem_sortedDistinct, hboth, and_iff_right h.1]
  next h =>
    rw [incomparableReasons_eq_nil] at h
    refine iff_of_false List.not_mem_nil fun hcompared => h ⟨hcompared.1, ?_⟩
    exact List.ne_nil_of_mem (hboth.2 hcompared.2)

omit [DecidableEq τ] in
/-- The outcome of a criterion is that of the assertion of its identifier. -/
theorem outcomeText_of_mem {report : CoverageReport}
    (hdistinct : Distinct (·.assertionId) report.2.2) {assertion : AssertionResult}
    (h : assertion ∈ report.2.2) :
    outcomeText dumps report assertion.assertionId = some (dumps (assertionOutcome assertion)) := by
  rw [outcomeText, hdistinct.find?_eq h, Option.map_some]

omit [DecidableEq τ] in
/-- Both assessments have one outcome of a criterion that both cover. -/
theorem outcomeText_eq_iff {before after : CoverageReport} (hbefore : Reported original before)
    (hafter : Reported assessment after) {id : String} (hid : id ∈ before.1) (hid' : id ∈ after.1) :
    outcomeText dumps before id = outcomeText dumps after id ↔
      ∃ made ∈ before.2.2, ∃ remade ∈ after.2.2, made.assertionId = id ∧ remade.assertionId = id ∧
        dumps (assertionOutcome made) = dumps (assertionOutcome remade) := by
  obtain ⟨made, hmade, rfl⟩ := hbefore.found id hid
  obtain ⟨remade, hremade, hsame⟩ := hafter.found _ hid'
  have htext : outcomeText dumps after remade.assertionId =
      some (dumps (assertionOutcome remade)) := outcomeText_of_mem hafter.distinct hremade
  rw [outcomeText_of_mem hbefore.distinct hmade, ← hsame, htext, Option.some.injEq]
  constructor
  · exact fun h => ⟨made, hmade, remade, hremade, hsame.symm, rfl, h⟩
  · rintro ⟨made', hmade', remade', hremade', hid, hid', h⟩
    rwa [hbefore.distinct.eq_of_mem hmade' hmade (hid.trans hsame),
      hafter.distinct.eq_of_mem hremade' hremade hid'] at h

/-- Some criterion is compared exactly where nothing stands against it. -/
theorem comparedAssertions_eq_nil {before after : NativeAssessment}
    {report report' : CoverageReport} :
    comparedAssertions before after report report' = [] ↔
      incomparableReasons before after report report' ≠ [] := by
  constructor
  · intro hnil hreasons
    obtain ⟨hcomparable, hboth⟩ := incomparableReasons_eq_nil.1 hreasons
    obtain ⟨id, hid⟩ := List.exists_mem_of_ne_nil _ hboth
    rw [coveredByBoth, List.mem_filter, decide_eq_true_eq] at hid
    exact List.ne_nil_of_mem (mem_comparedAssertions.2 ⟨hcomparable, hid⟩) hnil
  · exact fun hreasons => if_neg hreasons

theorem comparisonStatus_eq_notComparable {before after : CoverageReport} {compared : List String} :
    comparisonStatus dumps before after compared = .notComparable ↔ compared = [] := by
  unfold comparisonStatus
  split
  next h => simp [h]
  next h => split <;> simp [h]

theorem comparisonStatus_eq_matched {before after : CoverageReport} {compared : List String} :
    comparisonStatus dumps before after compared = .matched ↔ compared ≠ [] ∧
      ∀ id ∈ compared, outcomeText dumps before id = outcomeText dumps after id := by
  unfold comparisonStatus
  split
  next h => simp [h]
  next h =>
    split
    next hex =>
      obtain ⟨id, hid, hne⟩ := hex
      simpa [h] using ⟨id, hid, hne⟩
    next hall =>
      rw [eq_self, true_iff]
      exact ⟨h, fun id hid => not_not.1 fun hne => hall ⟨id, hid, hne⟩⟩

/-- The reasons that a comparison lists, before they are sorted. -/
theorem sortBy_reasons_eq {reasons reasons' : List ComparisonReason} (h : reasons'.length ≤ 1) :
    sortBy ComparisonReason.text reasons = reasons' ↔ reasons = reasons' := by
  have hsorted : sortBy ComparisonReason.text reasons' = reasons' := by
    match reasons', h with
    | [], _ => rfl
    | [reason], _ => rfl
  constructor
  · intro heq
    have hperm := heq ▸ (sortBy_perm ComparisonReason.text reasons).symm
    match reasons', h with
    | [], _ => exact hperm.eq_nil
    | [reason], _ => exact List.perm_singleton.1 hperm
  · exact fun heq => heq ▸ hsorted

theorem domainComparison_eq_ok :
    domainComparison dumps domain original assessment = .ok comparison ↔
      ∃ before after, original.coverage = .ok before ∧ assessment.coverage = .ok after ∧
        comparison = comparisonOf dumps domain original assessment before after := by
  unfold domainComparison
  rw [bind_eq_ok]
  refine exists_congr fun before => ?_
  rw [bind_eq_ok, ← exists_and_left]
  exact exists_congr fun after => and_congr_right fun _ => and_congr_right fun _ =>
    ⟨fun h => (Except.ok.inj h).symm, fun h => h ▸ rfl⟩

/-- What a comparison leaves out is what it does not compare. -/
theorem mem_comparisonOf {before after : CoverageReport} (hbefore : Reported original before)
    {id : String} : id ∈ before.2.1 ∨ id ∈ after.2.1 ↔
      Xor (id ∈ (comparisonOf dumps domain original assessment before after).comparedAssertions)
        (id ∈ (comparisonOf dumps domain original assessment before after).excludedAssertions) := by
  have hcompared (h : id ∈
      (comparisonOf dumps domain original assessment before after).comparedAssertions) :
      id ∈ before.2.1 := hbefore.covered id (mem_comparedAssertions.1 h).2.1
  have hexcluded : id ∈
      (comparisonOf dumps domain original assessment before after).excludedAssertions ↔
        (id ∈ before.2.1 ∨ id ∈ after.2.1) ∧
          id ∉ (comparisonOf dumps domain original assessment before after).comparedAssertions := by
    rw [comparisonOf, mem_sortedDistinct, List.mem_filter, List.mem_append, decide_eq_true_eq]
  rw [hexcluded]
  by_cases h : id ∈ (comparisonOf dumps domain original assessment before after).comparedAssertions
  · exact iff_of_true (.inl (hcompared h)) (.inl ⟨h, fun hex => hex.2 h⟩)
  · simp [Xor, h]

/-- Only the outcomes give the last reason. -/
theorem assertionOutcomeChanged_not_mem {before after : NativeAssessment}
    {report report' : CoverageReport} :
    .assertionOutcomeChanged ∉ incomparableReasons before after report report' := by
  have hite {p : Prop} [Decidable p] {reason : ComparisonReason}
      (hne : reason ≠ .assertionOutcomeChanged) :
      .assertionOutcomeChanged ∉ if p then [reason] else [] := by
    split <;> simp [hne.symm]
  have hcalibration : .assertionOutcomeChanged ∉ calibrationReasons before after := by
    unfold calibrationReasons
    split
    · simp
    · exact hite (by simp)
  simp only [incomparableReasons, comparisonReasons, List.mem_append, not_or]
  exact ⟨⟨⟨⟨⟨hite (by simp), hite (by simp)⟩, hite (by simp)⟩, hcalibration⟩, hite (by simp)⟩,
    hite (by simp)⟩

/-- A comparison has reasons that tell its verdict. -/
theorem comparisonOf_reasons {before after : CoverageReport} :
    ((comparisonOf dumps domain original assessment before after).reasons = [] ↔
      (comparisonOf dumps domain original assessment before after).status = .matched) ∧
    ((comparisonOf dumps domain original assessment before after).reasons =
        [.assertionOutcomeChanged] ↔
      (comparisonOf dumps domain original assessment before after).status = .different) := by
  set made := comparisonOf dumps domain original assessment before after with hmade
  set reasons := incomparableReasons original.result.evaluation assessment.result.evaluation
    before after with hreasons
  have hstatus : made.status = .notComparable ↔ made.comparedAssertions = [] :=
    comparisonStatus_eq_notComparable
  have hcompared : made.comparedAssertions = [] ↔ reasons ≠ [] := comparedAssertions_eq_nil
  have hchanged : .assertionOutcomeChanged ∉ reasons := assertionOutcomeChanged_not_mem
  have hmade : made.reasons = reportedReasons made.status reasons := rfl
  rw [hmade, reportedReasons, sortBy_reasons_eq (by simp), sortBy_reasons_eq (by simp)]
  cases hcase : made.status with
  | notComparable =>
    have hne := hcompared.1 (hstatus.1 hcase)
    simp only [reduceCtorEq, if_false, iff_false]
    exact ⟨hne, fun h => hchanged (by simp [h])⟩
  | different =>
    have hnil := not_not.1 (mt (fun h => hstatus.2 (hcompared.2 h)) (by simp [hcase]))
    simp [hnil]
  | matched =>
    have hnil := not_not.1 (mt (fun h => hstatus.2 (hcompared.2 h)) (by simp [hcase]))
    simp [hnil]

/-- A comparison that an archive states: both coverages are verified, every criterion of either is
compared or left out, and the verdict is about the outcomes of all criteria that are compared. -/
theorem domainComparison_exact
    (h : domainComparison dumps domain original assessment = .ok comparison) :
    ∃ before after, original.coverage = .ok before ∧ assessment.coverage = .ok after ∧
      (∀ id, id ∈ comparison.comparedAssertions ↔
        Comparable original.result.evaluation assessment.result.evaluation ∧
          id ∈ before.1 ∧ id ∈ after.1) ∧
      (∀ id, id ∈ before.2.1 ∨ id ∈ after.2.1 ↔
        Xor (id ∈ comparison.comparedAssertions) (id ∈ comparison.excludedAssertions)) ∧
      (comparison.status = .matched ↔ comparison.comparedAssertions ≠ [] ∧
        ∀ id ∈ comparison.comparedAssertions, ∃ made ∈ before.2.2, ∃ remade ∈ after.2.2,
          made.assertionId = id ∧ remade.assertionId = id ∧
            dumps (assertionOutcome made) = dumps (assertionOutcome remade)) ∧
      (comparison.status = .notComparable ↔ comparison.comparedAssertions = []) ∧
      (comparison.reasons = [] ↔ comparison.status = .matched) ∧
      (comparison.reasons = [.assertionOutcomeChanged] ↔ comparison.status = .different) := by
  obtain ⟨before, after, hbefore, hafter, rfl⟩ := domainComparison_eq_ok.1 h
  have hreported := reported hbefore
  have hreported' := reported hafter
  refine ⟨before, after, hbefore, hafter, fun id => mem_comparedAssertions,
    fun id => mem_comparisonOf hreported, ?_, comparisonStatus_eq_notComparable,
    comparisonOf_reasons⟩
  refine comparisonStatus_eq_matched.trans (and_congr_right fun _ => forall₂_congr fun id hid => ?_)
  obtain ⟨-, hid, hid'⟩ := mem_comparedAssertions.1 hid
  exact outcomeText_eq_iff hreported hreported' hid hid'

/-! ## Either order -/

/-- A comparison with its results exchanged. -/
def DomainComparison.swap (comparison : DomainComparison) : DomainComparison :=
  { comparison with
    originalResult := comparison.assessmentResult
    assessmentResult := comparison.originalResult }

theorem calibrationReasons_comm (before after : NativeAssessment) :
    calibrationReasons before after = calibrationReasons after before := by
  exact if_congr or_comm rfl (if_congr ne_comm rfl rfl)

theorem comparisonReasons_comm (before after : NativeAssessment) :
    comparisonReasons before after = comparisonReasons after before := by
  have hite {α : Type} [DecidableEq α] (a b : α) (reason : ComparisonReason) :
      (if a ≠ b then [reason] else []) = if b ≠ a then [reason] else [] :=
    if_congr ne_comm rfl rfl
  unfold comparisonReasons
  rw [calibrationReasons_comm before after, hite before.methodIdentity,
    hite (artifactIdentity before.environment), hite before.window, if_congr or_comm rfl rfl]

theorem mem_coveredByBoth_comm {before after : CoverageReport} (id : String) :
    id ∈ coveredByBoth before after ↔ id ∈ coveredByBoth after before := by
  simp only [coveredByBoth, List.mem_filter, decide_eq_true_eq, and_comm]

theorem incomparableReasons_comm (original assessment : NativeAssessment)
    (before after : CoverageReport) :
    incomparableReasons original assessment before after =
      incomparableReasons assessment original after before := by
  have hnil : coveredByBoth before after = [] ↔ coveredByBoth after before = [] := by
    simp only [List.eq_nil_iff_forall_not_mem, mem_coveredByBoth_comm]
  unfold incomparableReasons
  rw [comparisonReasons_comm, if_congr hnil rfl rfl]

theorem comparedAssertions_comm (original assessment : NativeAssessment)
    (before after : CoverageReport) :
    comparedAssertions original assessment before after =
      comparedAssertions assessment original after before := by
  unfold comparedAssertions
  rw [incomparableReasons_comm, sortedDistinct_congr mem_coveredByBoth_comm]

theorem comparisonStatus_comm (before after : CoverageReport) (compared : List String) :
    comparisonStatus dumps before after compared =
      comparisonStatus dumps after before compared := by
  unfold comparisonStatus
  simp only [ne_comm]

theorem comparisonOf_swap (before after : CoverageReport) :
    comparisonOf dumps domain assessment original after before =
      (comparisonOf dumps domain original assessment before after).swap := by
  have hexcluded (compared : List String) :
      sortedDistinct ((after.2.1 ++ before.2.1).filter (· ∉ compared)) =
        sortedDistinct ((before.2.1 ++ after.2.1).filter (· ∉ compared)) :=
    sortedDistinct_congr fun id => by simp only [List.mem_filter, List.mem_append, or_comm]
  simp only [comparisonOf, DomainComparison.swap, comparedAssertions_comm _ _ after before,
    comparisonStatus_comm after before, incomparableReasons_comm _ _ after before, hexcluded]

/-- Which of two results is the original one makes no difference to what a comparison says. -/
theorem domainComparison_comm : domainComparison dumps domain original assessment = .ok comparison ↔
    domainComparison dumps domain assessment original = .ok comparison.swap := by
  simp only [domainComparison_eq_ok]
  constructor
  · rintro ⟨before, after, hbefore, hafter, rfl⟩
    exact ⟨after, before, hafter, hbefore, (comparisonOf_swap before after).symm⟩
  · rintro ⟨after, before, hafter, hbefore, h⟩
    refine ⟨before, after, hbefore, hafter, ?_⟩
    rw [comparisonOf_swap before after] at h
    exact congrArg DomainComparison.swap h

/-! ## Two assessments of one run -/

/-- The result of the lab where its criterion has passed and its product has such a status. -/
def labResult (status : AssertionStatus) : NativeResult Unit :=
  Harness.labInputs.draft (Harness.labRun ["aa"]) [] none
    ⟨"run-sha256", "observation-sha256", "index-sha256", 0, 10, none⟩
    [{ assertionId := "org.lab.ready", status := status, observedValue := none, unit := "1",
       source := .product, nameSpace := some "org.lab", evidenceSha256 := ["aa"] },
      { assertionId := "warm", status := .passed, observedValue := some (.float 20),
        unit := "Cel" }] .passed

/-- The result in an archive, under a method without an instrument. -/
def labArchived (subjectName : String) (status : AssertionStatus) : ArchivedResult Unit where
  subjectName := subjectName
  result := { labResult status with
    evaluation := { (labResult status).evaluation with
      calibration := some (.notApplicable "no instrument") } }
  controls := Harness.labInputs.controls
  indexed := Harness.labInputs.evidence.index.artifacts

theorem domainComparison_exact_lab : ∃ comparison,
    domainComparison id "lab" (labArchived "first" .passed) (labArchived "second" .failed) =
        .ok comparison ∧
      comparison.status = .different ∧ comparison.reasons = [.assertionOutcomeChanged] := by
  have h : ((domainComparison id "lab" (labArchived "first" .passed)
      (labArchived "second" .failed)).toOption.any fun comparison =>
        decide (comparison.status = .different)) = true := by
    decide +kernel
  obtain ⟨comparison, h, hstatus⟩ := exists_ok_of_any h
  obtain ⟨-, -, -, -, -, -, -, -, -, hchanged⟩ := domainComparison_exact h
  exact ⟨comparison, h, of_decide_eq_true hstatus, hchanged.2 (of_decide_eq_true hstatus)⟩

end RoboticsRuntime.Contracts
