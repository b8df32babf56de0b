import RoboticsRuntime.Contracts.ExecutionAlignment
import RoboticsRuntime.Contracts.NativeResult

/-!
# The two results of each domain in an archive

`_qualification_archive._result_pair`: an archive holds two aggregates, and the results of one of
them name those of the other as the ones that they assess again. `_source_binding` compares the two
results of a domain; how `repr` prints their parts is left open.
-/

namespace RoboticsRuntime.Contracts
open Theory

/-- An artifact whose document is a native result. -/
structure ResultArtifact (ν : Type) where
  subjectName : String
  sha256 : String
  document : NativeResult ν

/-- A `domain_result` of an archive. -/
inductive SuppliedResult (ν : Type) where
  | v1 (subjectName : String)
  | native (artifact : ResultArtifact ν)

/-- An entry of `per_domain_results`. -/
structure DomainReference where
  domainId : String
  resultSha256 : String
  deriving DecidableEq, Repr

/-- An `acceptance_aggregate` of an archive. -/
structure AggregateArtifact where
  subjectName : String
  sha256 : String
  perDomainResults : List DomainReference
  deriving DecidableEq, Repr

/-- The artifact of each domain. -/
abbrev Registry (ν : Type) := List (String × ResultArtifact ν)

/-- `artifact`, where it has a native result. -/
def nativeArtifact {ν : Type} : SuppliedResult ν → Except QualificationError (ResultArtifact ν)
  | .native artifact => .ok artifact
  | .v1 _ => .error
    { message := "archive domain results must all use acceptance-result.v2 for originals; " ++
        "assessments may use v3" }

/-- The body of the loop of `_aggregate_results`. -/
def selectReference {ν : Type} (results : List (ResultArtifact ν)) (selected : Registry ν)
    (reference : DomainReference) : Except QualificationError (Registry ν) := do
  let unknown : QualificationError :=
    { message := "archive aggregate has duplicate domains or an unknown result" }
  require (reference.domainId ∉ selected.map (·.1)) unknown
  let artifact ← demand (results.find? (·.sha256 = reference.resultSha256)) unknown
  require (artifact.document.domainId = reference.domainId)
    { message := "archive aggregate result belongs to another domain" }
  return selected ++ [(reference.domainId, artifact)]

/-- `_aggregate_results`. -/
def aggregateResults {ν : Type} (results : List (ResultArtifact ν))
    (aggregate : AggregateArtifact) : Except QualificationError (Registry ν) :=
  aggregate.perDomainResults.foldlM (selectReference results) []

/-- `_is_original_pair`. -/
def isOriginalPair {ν : Type} (original assessment : Registry ν) : Prop :=
  (∀ entry ∈ original, entry.1 ∈ assessment.map (·.1)) ∧
    (∀ entry ∈ assessment, entry.1 ∈ original.map (·.1)) ∧
    ∀ entry ∈ original, (assessment.lookup entry.1).any fun artifact =>
      artifact.document.originalExecution.originalResultSha256 = some entry.2.sha256

instance {ν : Type} (original assessment : Registry ν) :
    Decidable (isOriginalPair original assessment) :=
  inferInstanceAs (Decidable (_ ∧ _ ∧ _))

/-- What `_result_pair` returns. -/
structure ResultPair (ν : Type) where
  originalAggregate : AggregateArtifact
  originals : Registry ν
  aggregate : AggregateArtifact
  assessments : Registry ν

/-- `candidates`. -/
def pairCandidates {ν : Type} (first second : AggregateArtifact × Registry ν) :
    List (ResultPair ν) :=
  (if isOriginalPair first.2 second.2 then [⟨first.1, first.2, second.1, second.2⟩] else []) ++
    if isOriginalPair second.2 first.2 then [⟨second.1, second.2, first.1, first.2⟩] else []

/-- `selected` of `_result_pair`. -/
def ResultPair.selected {ν : Type} (pair : ResultPair ν) : List (ResultArtifact ν) :=
  pair.originals.map (·.2) ++ pair.assessments.map (·.2)

/-- The checks of `_result_pair` on the one candidate. -/
def checkPair {ν : Type} (results : List (ResultArtifact ν)) (pair : ResultPair ν) :
    Except QualificationError (ResultPair ν) := do
  require (∀ entry ∈ pair.originals, entry.2.document.schemaName = "acceptance-result.v2")
    { message := "archive original results must use acceptance-result.v2" }
  require (pair.selected.length = results.length ∧ Distinct (·.sha256) pair.selected)
    { message := "archive has unused or multiply selected results" }
  return pair

/-- The element of a list that has one element only. -/
def only? {α : Type} : List α → Option α
  | [a] => some a
  | _ => none

/-- The choice of the one candidate of two aggregates. -/
def choosePair {ν : Type} (results : List (ResultArtifact ν)) (first second : AggregateArtifact) :
    Except QualificationError (ResultPair ν) := do
  let registry ← aggregateResults results first
  let registry' ← aggregateResults results second
  let pair ← demand (only? (pairCandidates (first, registry) (second, registry')))
    { message := "archive must identify exactly one original and one assessment per domain" }
  checkPair results pair

/-- The two elements of a list that has two elements. -/
def two? {α : Type} : List α → Option (α × α)
  | [a, b] => some (a, b)
  | _ => none

/-- The failure of the counts of `_result_pair`. -/
def miscounted : QualificationError where
  message := "archive requires two aggregates and uniquely captured domain results"

/-- `_result_pair`. -/
def resultPair {ν : Type} (aggregates : List AggregateArtifact)
    (supplied : List (SuppliedResult ν)) : Except QualificationError (ResultPair ν) := do
  let results ← supplied.mapM nativeArtifact
  require (Distinct (·.sha256) results) miscounted
  let (first, second) ← demand (two? aggregates) miscounted
  choosePair results first second

/-! ## The source of both results -/

/-- The `repr` of what `_source_binding` compares. -/
structure SourceTexts where
  execution : NativeExecution → String
  profile : NativeProfile → String
  nativeModel : Option ArtifactReference → String
  digest : String → String
  instant : ℤ → String

/-- `_source_binding`. -/
def sourceBinding {ν : Type} (texts : SourceTexts) (original result : NativeResult ν) :
    Except QualificationError Unit := do
  require (original.resultId ≠ result.resultId)
    { message := "archive assessment must have a distinct result_id" }
  require (result.evaluation.calibration.isSome = true ∧ result.evaluation.coverage.isSome = true)
    { message := "new archive assessment requires explicit calibration and coverage" }
  require (original.evaluation.finishedAtNs ≤ result.evaluation.startedAtNs)
    { message := "archive assessment after original evaluation is not chronologically ordered" }
  requireEqual texts.execution "archive original execution" original.execution result.execution
  requireEqual texts.profile "archive original profile" original.profile result.profile
  requireEqual texts.nativeModel "archive original native_model" original.nativeModel
    result.nativeModel
  let executed (field : String) := "archive original execution " ++ field
  let before := original.originalExecution
  let after := result.originalExecution
  requireEqual texts.digest (executed "acceptance_run_sha256") before.acceptanceRunSha256
    after.acceptanceRunSha256
  requireEqual texts.digest (executed "observation_sha256") before.observationSha256
    after.observationSha256
  requireEqual texts.digest (executed "evidence_index_sha256") before.evidenceIndexSha256
    after.evidenceIndexSha256
  requireEqual texts.instant (executed "started_at") before.startedAtNs after.startedAtNs
  requireEqual texts.instant (executed "finished_at") before.finishedAtNs after.finishedAtNs

end RoboticsRuntime.Contracts
