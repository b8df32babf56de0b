import RoboticsRuntime.Contracts.MetricDeclarations

/-!
# Evidence indexes

`evidence-index.v1`: the index of the artifacts that a run has retained, with what was observed of
their storage.
-/

namespace RoboticsRuntime.Contracts
open Theory

/-- `storage_state` of an artifact. -/
inductive StorageState where
  | «local» | retained
  deriving DecidableEq, Repr

/-- An entry of `artifacts` of an evidence index. -/
structure EvidenceArtifact where
  artifactId : String
  kind : String
  uri : String
  immutableRevision : Option String := none
  receiptSha256 : Option String := none
  mediaType : String
  sha256 : String
  sizeBytes : ℕ
  retentionClass : String
  segmentIndex : Option ℕ := none
  storageState : StorageState
  deriving DecidableEq, Repr

/-- An entry of `evidence` of a result. -/
structure EvidenceLink where
  artifactId : String
  kind : String
  uri : String
  immutableRevision : Option String
  receiptSha256 : Option String
  mediaType : String
  sha256 : String
  sizeBytes : ℕ
  retentionClass : String
  segmentIndex : Option ℕ
  deriving DecidableEq, Repr

/-- `policy_observation`. -/
structure PolicyObservation where
  recordingMode : String
  compression : String
  retentionClass : String
  uploadMode : String
  remoteSinkUsed : Bool
  spoolPeakSizeBytes : ℕ
  uploadLagMaxSec : ℚ
  deriving DecidableEq, Repr

/-- An `evidence-index.v1` document. -/
structure EvidenceIndex where
  runId : String
  generatedAtNs : ℤ
  policyObservation : PolicyObservation
  artifacts : List EvidenceArtifact
  deriving DecidableEq, Repr

/-- `schema_name` of the validator of evidence indexes. -/
def evidenceIndexSchema : String := "evidence-index.v1"

/-- The identity of an artifact in its index: its location and its revision. -/
def EvidenceArtifact.identity (artifact : EvidenceArtifact) : String × String :=
  (artifact.uri, artifact.immutableRevision.getD "")

/-- The loop over the artifacts, with the identities so far. -/
def checkEvidenceIdentity (seen : List (String × String)) (entry : EvidenceArtifact × ℕ) :
    Except SemanticFailure (List (String × String)) := do
  require (∀ other ∈ seen, other ≠ entry.1.identity)
    (.semantic evidenceIndexSchema s!"$.artifacts[{entry.2}].uri" "evidence object is duplicated")
  return entry.1.identity :: seen

/-- `_validate_evidence_index`. -/
def validateEvidenceIndex (document : EvidenceIndex) : Except SemanticFailure Unit := do
  let observation := document.policyObservation
  require (observation.remoteSinkUsed = true ↔ observation.uploadMode ≠ "local_only")
    (.semantic evidenceIndexSchema "$.policy_observation.remote_sink_used"
      "must match whether upload_mode uses a remote sink")
  requireDistinct evidenceIndexSchema document.artifacts "artifact_id" (·.artifactId) "$.artifacts"
  let _ ← document.artifacts.zipIdx.foldlM checkEvidenceIdentity []

/-- The loop passes where no artifact has the identity of another one, listed or seen. -/
theorem foldlM_checkEvidenceIdentity {artifacts : List EvidenceArtifact} {k : ℕ}
    {seen : List (String × String)} :
    (∃ all, (artifacts.zipIdx k).foldlM checkEvidenceIdentity seen = .ok all) ↔
      Distinct (·.identity) artifacts ∧ ∀ artifact ∈ artifacts, artifact.identity ∉ seen := by
  induction artifacts generalizing k seen with
  | nil => exact iff_of_true ⟨seen, rfl⟩ ⟨List.nodup_nil, nofun⟩
  | cons artifact artifacts ih =>
    have hstep {all : List (String × String)} :
        checkEvidenceIdentity seen (artifact, k) = .ok all ↔
          artifact.identity ∉ seen ∧ artifact.identity :: seen = all := by
      simp only [checkEvidenceIdentity, seq_eq_ok, require_eq_ok]
      refine and_congr ⟨fun h hm => h _ hm rfl, fun h other hm heq => h ?_⟩
        ⟨Except.ok.inj, congrArg Except.ok⟩
      rwa [heq] at hm
    simp only [List.zipIdx_cons, List.foldlM_cons, bind_eq_ok, hstep]
    constructor
    · rintro ⟨all, _, ⟨hnew, rfl⟩, h⟩
      obtain ⟨hdistinct, hunseen⟩ := ih.1 ⟨all, h⟩
      refine ⟨List.nodup_cons.2 ⟨fun hm => ?_, hdistinct⟩, List.forall_mem_cons.2 ⟨hnew,
        fun other hm hseen => hunseen other hm (List.mem_cons_of_mem _ hseen)⟩⟩
      obtain ⟨other, hother, heq⟩ := List.mem_map.1 hm
      exact hunseen other hother (List.mem_cons.2 (.inl heq))
    · rintro ⟨hdistinct, hunseen⟩
      obtain ⟨hfirst, hdistinct⟩ := List.nodup_cons.1 hdistinct
      obtain ⟨hnew, hunseen⟩ := List.forall_mem_cons.1 hunseen
      have hrest : ∀ other ∈ artifacts, other.identity ∉ artifact.identity :: seen := by
        intro other hm hseen
        rcases List.mem_cons.1 hseen with heq | hseen
        · exact hfirst (List.mem_map.2 ⟨other, hm, heq⟩)
        · exact hunseen other hm hseen
      obtain ⟨all, h⟩ := (ih (k := k + 1)).2 ⟨hdistinct, hrest⟩
      exact ⟨all, _, ⟨hnew, rfl⟩, h⟩

/-- What the validator asks of an index. -/
theorem validateEvidenceIndex_eq_ok {document : EvidenceIndex} :
    validateEvidenceIndex document = .ok () ↔
      (document.policyObservation.remoteSinkUsed = true ↔
        document.policyObservation.uploadMode ≠ "local_only") ∧
      Distinct (·.artifactId) document.artifacts ∧ Distinct (·.identity) document.artifacts := by
  have hloop : (∃ all, document.artifacts.zipIdx.foldlM checkEvidenceIdentity [] = .ok all) ↔
      Distinct (·.identity) document.artifacts :=
    foldlM_checkEvidenceIdentity.trans (and_iff_left fun _ _ => List.not_mem_nil)
  unfold validateEvidenceIndex
  rw [seq_eq_ok, seq_eq_ok, requireDistinct, require_eq_ok, require_eq_ok, ← hloop, bind_eq_ok]
  exact and_congr_right fun _ => and_congr_right fun _ =>
    exists_congr fun _ => and_iff_left rfl

end RoboticsRuntime.Contracts
