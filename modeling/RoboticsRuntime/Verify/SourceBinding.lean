import RoboticsRuntime.Contracts.ArchiveResults
import RoboticsRuntime.Verify.NativeVerdict

/-!
# Reassessments in an archive

The harness compares the original result of a reassessment with the execution that it reads; the
archive compares the two results with each other. What the harness has accepted, the archive accepts
as well.
-/

namespace RoboticsRuntime.Harness
open Theory Contracts

variable {ν : Type} {inputs : NativeInputs ν} {source : LoadedObservation ν}
  {original : OriginalExecution} {baseline : NativeResult ν} {sha256 : String} {startedAtNs : ℤ}

/-- An original result says of the execution what the harness reads of it. -/
structure OfExecution (inputs : NativeInputs ν) (source : LoadedObservation ν)
    (original : OriginalExecution) (baseline : NativeResult ν) : Prop where
  runId : baseline.runId = inputs.runId
  domainId : baseline.domainId = inputs.domainId
  scenarioId : baseline.scenarioId = inputs.scenario.data.scenarioId
  scenarioSha256 : baseline.scenarioSha256 = inputs.scenario.sha256
  runtimeManifestSha256 : baseline.runtimeManifestSha256 = inputs.runtime.sha256
  execution : baseline.execution = inputs.runtime.execution
  profile : baseline.profile = inputs.scenario.data.profile
  nativeModel : baseline.nativeModel = source.data.nativeModel
  originalExecution : { baseline.originalExecution with originalResultSha256 := none } = original

theorem checkOriginalResult_eq_ok :
    inputs.checkOriginalResult source original baseline = .ok () ↔
      OfExecution inputs source original baseline := by
  unfold NativeInputs.checkOriginalResult
  simp only [seq_eq_ok, require_eq_ok]
  constructor
  · rintro ⟨hrun, hdomain, hscenario, hsha256, hruntime, hexecution, hprofile, hmodel, horiginal⟩
    exact ⟨hrun, hdomain, hscenario, hsha256, hruntime, hexecution, hprofile, hmodel, horiginal⟩
  · intro h
    exact ⟨h.runId, h.domainId, h.scenarioId, h.scenarioSha256, h.runtimeManifestSha256,
      h.execution, h.profile, h.nativeModel, h.originalExecution⟩

/-- The original execution of a reassessment is that of its original result, which it names. -/
theorem originalExecution_reassessed (hbaseline : inputs.originalResult = some (baseline, sha256))
    (h : inputs.originalExecution source startedAtNs = .ok original) :
    baseline.schemaName = "acceptance-result.v2" ∧
      OfExecution inputs source { original with originalResultSha256 := none } baseline ∧
      baseline.evaluation.finishedAtNs ≤ startedAtNs ∧
      original.originalResultSha256 = some sha256 := by
  unfold NativeInputs.originalExecution at h
  rw [hbaseline] at h
  dsimp only at h
  rw [seq_eq_ok, require_eq_ok, seq_eq_ok, checkOriginalResult_eq_ok, seq_eq_ok, require_eq_ok] at h
  obtain ⟨⟨-, hschema⟩, hexecution, htime, h⟩ := h
  cases Except.ok.inj h
  exact ⟨hschema, hexecution, htime, rfl⟩

/-- The model that a source has loaded is that of the runtime manifest. -/
theorem nativeModel_of_validateSource (h : inputs.validateSource source.data = .ok ()) :
    source.data.nativeModel = inputs.runtime.nativeModel := by
  unfold NativeInputs.validateSource at h
  rw [seq_eq_ok, seq_eq_ok, require_eq_ok] at h
  exact h.2.1

/-- A reassessment by the harness is bound to the source of its original result: the archive accepts
the two of them where they have different identifiers. -/
theorem sourceBinding_iff (metricTexts : MetricTexts) (run : AssessmentRun) (texts : SourceTexts)
    {result : NativeResult ν} (h : inputs.assemble metricTexts run = .ok result)
    (hbaseline : inputs.originalResult = some (baseline, sha256)) :
    (sourceBinding texts baseline result = .ok () ↔ baseline.resultId ≠ run.resultId) ∧
      result.originalExecution.originalResultSha256 = some sha256 ∧
      result.domainId = baseline.domainId ∧ baseline.schemaName = "acceptance-result.v2" := by
  obtain ⟨source, ⟨assembled⟩⟩ := NativeInputs.assembled_of_ok h
  obtain ⟨hschema, hexecution, htime, hnamed⟩ :=
    originalExecution_reassessed hbaseline assembled.executed
  have hmodel := hexecution.nativeModel.trans (nativeModel_of_validateSource assembled.bound)
  obtain ⟨hrun, hobservation, hindex, hstarted, hfinished, -⟩ :=
    OriginalExecution.mk.inj hexecution.originalExecution
  rw [assembled.assembled]
  refine ⟨?_, hnamed, hexecution.domainId.symm, hschema⟩
  unfold sourceBinding
  simp only [seq_eq_ok, require_eq_ok, requireEqual_eq_ok]
  constructor
  · exact fun hbinding => hbinding.1
  · intro hdistinct
    exact ⟨hdistinct, ⟨rfl, rfl⟩, htime, hexecution.execution, hexecution.profile, hmodel, hrun,
      hobservation, hindex, hstarted, hfinished⟩

/-- Texts that print nothing. -/
def blankTexts : SourceTexts where
  execution _ := ""
  profile _ := ""
  nativeModel _ := ""
  digest _ := ""
  instant _ := ""

/-- The reassessment of the lab by an image has an identifier of its own. -/
theorem sourceBinding_iff_image : ∃ baseline result,
    imageInputs.originalResult = some (baseline, "original-sha256") ∧
      imageInputs.assemble exactTexts { imageRun with resultId := "second" } = .ok result ∧
      sourceBinding blankTexts baseline result = .ok () := by
  have h : ((imageInputs.assemble exactTexts { imageRun with resultId := "second" }).toOption.any
      fun _ => true) = true := by
    decide +kernel
  obtain ⟨result, h, -⟩ := exists_ok_of_any h
  refine ⟨_, result, rfl, h, (sourceBinding_iff exactTexts _ blankTexts h rfl).1.2 ?_⟩
  decide +kernel

end RoboticsRuntime.Harness
