import RoboticsRuntime.Verify.ArchiveComparison

/-!
# The order of rows in an archive

The comparison of a domain reads its documents as sets of rows: another order of the assertions, of
the classified criteria or of the indexed artifacts makes no difference to it.
-/

namespace RoboticsRuntime.Contracts
open Theory

variable {ν τ : Type} [DecidableEq τ] {dumps : AssertionOutcome → τ} {domain : String}
  {original original' assessment assessment' : ArchivedResult ν} {comparison : DomainComparison}

/-- Two coverages that classify the same criteria, in any order. -/
structure CoverageRearranged (coverage coverage' : AssessmentCoverage) : Prop where
  covered : coverage.coveredAssertions.Perm coverage'.coveredAssertions
  uncovered : coverage.uncoveredAssertions.Perm coverage'.uncoveredAssertions

/-- Two results of a domain with the same rows, in any order. -/
structure Rearranged (archived archived' : ArchivedResult ν) : Prop where
  subjectName : archived.subjectName = archived'.subjectName
  controls : archived.controls = archived'.controls
  evaluators : archived.result.evaluators = archived'.result.evaluators
  method : archived.result.evaluation.method = archived'.result.evaluation.method
  environment : archived.result.evaluation.environment = archived'.result.evaluation.environment
  calibration : archived.result.evaluation.calibration = archived'.result.evaluation.calibration
  window : archived.result.evaluation.window = archived'.result.evaluation.window
  coverage : Option.Rel CoverageRearranged archived.result.evaluation.coverage
    archived'.result.evaluation.coverage
  assertions : archived.result.assertionResults.Perm archived'.result.assertionResults
  indexed : archived.indexed.Perm archived'.indexed

/-- Two coverage reports with the same rows, in any order. -/
structure ReportRearranged (report report' : CoverageReport) : Prop where
  covered : report.1.Perm report'.1
  expected : report.2.1.Perm report'.2.1
  criteria : report.2.2.Perm report'.2.2

/-! ## Coverage -/

theorem criterionResults_perm {result result' : NativeResult ν} {criteria : List AssertionResult}
    (hperm : result.assertionResults.Perm result'.assertionResults)
    (h : criterionResults result = .ok criteria) :
    ∃ criteria', criterionResults result' = .ok criteria' ∧ criteria.Perm criteria' := by
  unfold criterionResults at h
  rw [seq_eq_ok, require_eq_ok] at h
  obtain ⟨hdistinct, h⟩ := h
  cases Except.ok.inj h
  have hfilter := hperm.filter (isCriterion ·)
  refine ⟨_, ?_, hfilter⟩
  unfold criterionResults
  rw [seq_eq_ok, require_eq_ok]
  exact ⟨(hfilter.map _).nodup_iff.1 hdistinct, rfl⟩

theorem checkCoveredCriterion_perm {indexed indexed' : List EvidenceArtifact}
    (hperm : indexed.Perm indexed') (entry : CoveredAssertion × AssertionResult) :
    checkCoveredCriterion indexed entry = checkCoveredCriterion indexed' entry := by
  have hraw (sha256 : String) : sha256 ∈ rawSources indexed ↔ sha256 ∈ rawSources indexed' :=
    ((hperm.filter _).map _).mem_iff
  have hmetric (sha256 : String) :
      sha256 ∈ metricSources indexed ↔ sha256 ∈ metricSources indexed' :=
    ((hperm.filter _).map _).mem_iff
  unfold checkCoveredCriterion
  simp only [hraw, hmetric]

theorem classifiedCriteria_perm {coverage coverage' : AssessmentCoverage}
    {criteria criteria' : List AssertionResult} {expected expected' : List String}
    {classified : List (CoveredAssertion × AssertionResult)}
    (hcoverage : CoverageRearranged coverage coverage')
    (hdistinct : Distinct (·.assertionId) criteria) (hcriteria : criteria.Perm criteria')
    (hexpected : expected.Perm expected')
    (h : classifiedCriteria coverage criteria expected = .ok classified) :
    ∃ classified', classifiedCriteria coverage' criteria' expected' = .ok classified' ∧
      classified.Perm classified' := by
  have hcovered := hcoverage.covered.map (·.assertionId)
  have huncovered := hcoverage.uncovered.map (·.assertionId)
  have hcriterion : coveredCriterion criteria = coveredCriterion criteria' := by
    funext item
    unfold coveredCriterion
    rw [find?_key_of_perm hdistinct hcriteria]
  unfold classifiedCriteria at h
  rw [seq_eq_ok, require_eq_ok, hcriterion] at h
  obtain ⟨⟨hnodup, hnodup', hdisjoint, hincluded, hclassified⟩, h⟩ := h
  obtain ⟨classified', h', hperm⟩ :=
    List.perm_comp_forall₂ hcoverage.covered.symm (mapM_eq_ok.1 h)
  refine ⟨classified', ?_, hperm.symm⟩
  unfold classifiedCriteria
  rw [seq_eq_ok, require_eq_ok]
  refine ⟨⟨hcovered.nodup_iff.1 hnodup, huncovered.nodup_iff.1 hnodup', ?_, ?_, ?_⟩,
    mapM_eq_ok.2 h'⟩
  · intro id hid hid'
    exact hdisjoint id (hcovered.mem_iff.2 hid) (huncovered.mem_iff.2 hid')
  · intro id hid
    exact hexpected.mem_iff.1 (hincluded id ((hcovered.append huncovered).mem_iff.2 hid))
  · intro id hid
    exact (hcovered.append huncovered).mem_iff.1 (hclassified id (hexpected.mem_iff.2 hid))

theorem citedCriteria_perm {covered covered' : List CoveredAssertion}
    {criteria criteria' : List AssertionResult} (hcovered : covered.Perm covered')
    (hdistinct : Distinct (·.assertionId) covered) (hcriteria : criteria.Perm criteria') :
    (citedCriteria covered criteria).Perm (citedCriteria covered' criteria') := by
  unfold citedCriteria
  simp only [find?_key_of_perm hdistinct hcovered]
  exact hcriteria.map _

theorem expectedCriteria_perm {result result' : NativeResult ν} (controls : MethodControls)
    (hevaluators : result.evaluators = result'.evaluators)
    {criteria criteria' : List AssertionResult} (hcriteria : criteria.Perm criteria') :
    (expectedCriteria result controls criteria).Perm
      (expectedCriteria result' controls criteria') := by
  unfold expectedCriteria
  rw [hevaluators]
  exact (hcriteria.map _).append_right _

/-- The coverage of the same rows is the same report. -/
theorem coverage_rearranged {archived archived' : ArchivedResult ν} {report : CoverageReport}
    (hrows : Rearranged archived archived') (h : archived.coverage = .ok report) :
    ∃ report', archived'.coverage = .ok report' ∧ ReportRearranged report report' := by
  unfold ArchivedResult.coverage archiveCoverage at h
  obtain ⟨criteria, hcriteria, h⟩ := bind_eq_ok.1 h
  have hdistinct := criterionResults_distinct hcriteria
  obtain ⟨criteria', hcriteria', hperm⟩ := criterionResults_perm hrows.assertions hcriteria
  have hexpected := expectedCriteria_perm archived.controls hrows.evaluators hperm
  unfold ArchivedResult.coverage archiveCoverage
  rw [hcriteria', ok_bind, ← hrows.controls]
  have hcoverage := hrows.coverage
  generalize archived.result.evaluation.coverage = coverage at h hcoverage
  generalize archived'.result.evaluation.coverage = coverage' at hcoverage ⊢
  cases hcoverage with
  | none =>
    cases Except.ok.inj h
    exact ⟨_, rfl, .refl _, hperm.map _, hperm⟩
  | @some coverage coverage' hcoverage =>
    obtain ⟨classified, hclassified, h⟩ := bind_eq_ok.1 h
    rw [seq_eq_ok] at h
    obtain ⟨hchecked, h⟩ := h
    replace hchecked := forM_eq_ok.1 hchecked
    cases Except.ok.inj h
    obtain ⟨classified', hclassified', hperm'⟩ :=
      classifiedCriteria_perm hcoverage hdistinct hperm hexpected hclassified
    have hcovered : Distinct (·.assertionId) coverage.coveredAssertions := by
      unfold classifiedCriteria at hclassified
      rw [seq_eq_ok, require_eq_ok] at hclassified
      exact hclassified.1.1
    refine ⟨_, bind_eq_ok.2 ⟨classified', hclassified', seq_eq_ok.2 ⟨forM_eq_ok.2 ?_, rfl⟩⟩,
      hcoverage.covered.map _, hexpected, citedCriteria_perm hcoverage.covered hcovered hperm⟩
    intro entry hentry
    rw [← checkCoveredCriterion_perm hrows.indexed]
    exact hchecked entry (hperm'.mem_iff.2 hentry)

/-! ## Comparisons -/

theorem comparisonReasons_rearranged (hrows : Rearranged original original')
    (hrows' : Rearranged assessment assessment') :
    comparisonReasons original.result.evaluation assessment.result.evaluation =
      comparisonReasons original'.result.evaluation assessment'.result.evaluation := by
  have hnone {archived archived' : ArchivedResult ν} (h : Rearranged archived archived') :
      archived.result.evaluation.coverage = none ↔
        archived'.result.evaluation.coverage = none := by
    have hcoverage := h.coverage
    generalize archived.result.evaluation.coverage = coverage at hcoverage
    generalize archived'.result.evaluation.coverage = coverage' at hcoverage
    cases hcoverage <;> simp
  unfold comparisonReasons calibrationReasons calibrationIdentity NativeAssessment.methodIdentity
  rw [hrows.method, hrows.environment, hrows.calibration, hrows.window, hrows'.method,
    hrows'.environment, hrows'.calibration, hrows'.window,
    if_congr (or_congr (hnone hrows) (hnone hrows')) rfl rfl]

omit [DecidableEq τ] in
theorem outcomeText_rearranged {report report' : CoverageReport}
    (hdistinct : Distinct (·.assertionId) report.2.2) (h : ReportRearranged report report') :
    outcomeText dumps report = outcomeText dumps report' := by
  funext id
  rw [outcomeText, find?_key_of_perm hdistinct h.criteria, outcomeText]

theorem comparisonOf_rearranged {before before' after after' : CoverageReport}
    (hrows : Rearranged original original') (hrows' : Rearranged assessment assessment')
    (hdistinct : Distinct (·.assertionId) before.2.2)
    (hdistinct' : Distinct (·.assertionId) after.2.2)
    (hbefore : ReportRearranged before before') (hafter : ReportRearranged after after') :
    comparisonOf dumps domain original assessment before after =
      comparisonOf dumps domain original' assessment' before' after' := by
  have hboth (id : String) :
      id ∈ coveredByBoth before after ↔ id ∈ coveredByBoth before' after' := by
    simp only [coveredByBoth, List.mem_filter, decide_eq_true_eq, hbefore.covered.mem_iff,
      hafter.covered.mem_iff]
  have hnil : coveredByBoth before after = [] ↔ coveredByBoth before' after' = [] := by
    simp only [List.eq_nil_iff_forall_not_mem, hboth]
  have hreasons : incomparableReasons original.result.evaluation assessment.result.evaluation
      before after = incomparableReasons original'.result.evaluation
        assessment'.result.evaluation before' after' := by
    unfold incomparableReasons
    rw [comparisonReasons_rearranged hrows hrows', if_congr hnil rfl rfl]
  have hcompared : comparedAssertions original.result.evaluation assessment.result.evaluation
      before after = comparedAssertions original'.result.evaluation
        assessment'.result.evaluation before' after' := by
    unfold comparedAssertions
    rw [hreasons, sortedDistinct_congr hboth]
  have hstatus (compared : List String) : comparisonStatus dumps before after compared =
      comparisonStatus dumps before' after' compared := by
    unfold comparisonStatus
    rw [outcomeText_rearranged hdistinct hbefore, outcomeText_rearranged hdistinct' hafter]
  have hexcluded (compared : List String) :
      sortedDistinct ((before.2.1 ++ after.2.1).filter (· ∉ compared)) =
        sortedDistinct ((before'.2.1 ++ after'.2.1).filter (· ∉ compared)) :=
    sortedDistinct_congr fun id =>
      ((hbefore.expected.append hafter.expected).filter _).mem_iff
  simp only [comparisonOf, hreasons, hcompared, hstatus, hexcluded, hrows.subjectName,
    hrows'.subjectName]

/-- The order of the rows of the documents makes no difference to the comparison of a domain. -/
theorem domainComparison_rearranged (hrows : Rearranged original original')
    (hrows' : Rearranged assessment assessment')
    (h : domainComparison dumps domain original assessment = .ok comparison) :
    domainComparison dumps domain original' assessment' = .ok comparison := by
  obtain ⟨before, after, hbefore, hafter, rfl⟩ := domainComparison_eq_ok.1 h
  obtain ⟨before', hbefore', hreport⟩ := coverage_rearranged hrows hbefore
  obtain ⟨after', hafter', hreport'⟩ := coverage_rearranged hrows' hafter
  exact domainComparison_eq_ok.2 ⟨before', after', hbefore', hafter',
    comparisonOf_rearranged hrows hrows' (reported hbefore).distinct (reported hafter).distinct
      hreport hreport'⟩

/-- The first result of the lab, with its evidence indexed the other way round. -/
def labReversed : ArchivedResult Unit :=
  { labArchived "first" .passed with indexed := (labArchived "first" .passed).indexed.reverse }

theorem rearranged_refl (archived : ArchivedResult ν) : Rearranged archived archived where
  subjectName := rfl
  controls := rfl
  evaluators := rfl
  method := rfl
  environment := rfl
  calibration := rfl
  window := rfl
  coverage := by
    cases archived.result.evaluation.coverage with
    | none => exact .none
    | some coverage => exact .some ⟨.refl _, .refl _⟩
  assertions := .refl _
  indexed := .refl _

theorem domainComparison_rearranged_lab : ∃ comparison,
    domainComparison id "lab" (labArchived "first" .passed) (labArchived "second" .failed) =
        .ok comparison ∧
      domainComparison id "lab" labReversed (labArchived "second" .failed) = .ok comparison := by
  have h : ((domainComparison id "lab" (labArchived "first" .passed)
      (labArchived "second" .failed)).toOption.any fun _ => true) = true := by
    decide +kernel
  obtain ⟨comparison, h, -⟩ := exists_ok_of_any h
  have hrows : Rearranged (labArchived "first" .passed) labReversed :=
    { rearranged_refl (labArchived "first" .passed) with indexed := (List.reverse_perm _).symm }
  exact ⟨comparison, h, domainComparison_rearranged hrows (rearranged_refl _) h⟩

end RoboticsRuntime.Contracts
