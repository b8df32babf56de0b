import RoboticsRuntime.Contracts.CampaignSummary
import RoboticsRuntime.Python
import Mathlib.Data.Finset.Dedup

/-!
# Campaigns

`campaign.aggregate_campaign`, from the loaded documents to the summary, before it is validated and
written. A fresh identifier and the current time are inputs.
-/

namespace RoboticsRuntime.Harness
open Theory Contracts

/-- `BundleValidationError`. -/
structure BundleValidationError where
  jsonPath : String
  message : String
  deriving DecidableEq, Repr

/-- A loaded scenario. -/
structure CampaignScenario where
  scenarioId : String
  sha256 : String
  deriving DecidableEq, Repr

/-- A loaded run context. -/
structure RunContextDocument where
  runId : String
  scenarioId : String
  scenarioSha256 : String
  sha256 : String
  deriving DecidableEq, Repr

/-- `cross_domain_e2e.status`. -/
inductive CrossDomainStatus where
  | unevaluated
  | evaluated (status : OutcomeStatus)
  deriving DecidableEq, Repr

/-- A loaded aggregate of a run. -/
structure RunAggregate where
  runId : String
  acceptanceRunSha256 : String
  perDomainAggregate : OutcomeStatus
  crossDomainE2e : CrossDomainStatus
  sha256 : String
  deriving DecidableEq, Repr

/-- What `aggregate_campaign` is given and has loaded. -/
structure CampaignInputs where
  scenario : CampaignScenario
  contexts : List RunContextDocument
  aggregates : List RunAggregate
  policy : CampaignPolicy
  parameters : List (String × List (String × Json String))
  campaignId : String
  generatedAt : String

/-- The outcome of a run. -/
def RunAggregate.outcome (aggregate : RunAggregate) : OutcomeStatus :=
  match aggregate.crossDomainE2e with
  | .unevaluated => aggregate.perDomainAggregate
  | .evaluated status => status

/-- The outcome that a campaign counts; any other one is incomplete. -/
def campaignStatus : OutcomeStatus → CampaignStatus
  | .passed => .passed
  | .failed => .failed
  | .error => .error
  | _ => .incomplete

/-- `counts`. -/
structure StatusCounts where
  passed : ℕ := 0
  failed : ℕ := 0
  incomplete : ℕ := 0
  error : ℕ := 0
  deriving DecidableEq, Repr

/-- `counts[status]`. -/
def StatusCounts.get (counts : StatusCounts) : CampaignStatus → ℕ
  | .passed => counts.passed
  | .failed => counts.failed
  | .incomplete => counts.incomplete
  | .error => counts.error

/-- `counts[status] += 1`. -/
def StatusCounts.increment (counts : StatusCounts) : CampaignStatus → StatusCounts
  | .passed => { counts with passed := counts.passed + 1 }
  | .failed => { counts with failed := counts.failed + 1 }
  | .incomplete => { counts with incomplete := counts.incomplete + 1 }
  | .error => { counts with error := counts.error + 1 }

/-- `context_by_run[run_id]`. -/
def contextOf (contexts : List RunContextDocument) (runId : String) : Option RunContextDocument :=
  contexts.find? fun context => context.runId = runId

/-- The entry of a run. The context is there, as the run contexts cover the aggregates. -/
def campaignRun (inputs : CampaignInputs) (aggregate : RunAggregate) :
    Except BundleValidationError CampaignRun := do
  let context ← demand (contextOf inputs.contexts aggregate.runId)
    ⟨"$.runs", "run contexts must cover every aggregate run exactly once"⟩
  require (context.scenarioId = inputs.scenario.scenarioId ∧
      context.scenarioSha256 = inputs.scenario.sha256)
    ⟨"$.scenario_sha256", s!"run {aggregate.runId} identifies another scenario"⟩
  require (aggregate.acceptanceRunSha256 = context.sha256)
    ⟨"$.runs.acceptance_run_sha256", s!"aggregate {aggregate.runId} identifies another run context"⟩
  return {
    runId := aggregate.runId
    acceptanceRunSha256 := context.sha256
    aggregateSha256 := aggregate.sha256
    parameters := (inputs.parameters.lookup aggregate.runId).getD []
    status := campaignStatus aggregate.outcome }

/-- `counts`, after the runs. -/
def countRuns (runs : List CampaignRun) : StatusCounts :=
  runs.foldl (fun counts run => counts.increment run.status) {}

/-- `verdict`. -/
def campaignVerdict (policy : CampaignPolicy) (counts : StatusCounts) : CampaignStatus :=
  if policy.Passes counts.get then .passed
  else ([CampaignStatus.error, .failed, .incomplete].find? fun status =>
    counts.get status ≠ 0).getD .incomplete

/-- `aggregate_campaign`. -/
def aggregateCampaign (py : PyOps) (inputs : CampaignInputs) :
    Except BundleValidationError CampaignSummary := do
  require (inputs.aggregates ≠ []) ⟨"$.runs", "at least one aggregate is required"⟩
  require (Distinct (·.runId) inputs.contexts) ⟨"$.runs", "run context IDs must be unique"⟩
  require (Distinct (·.runId) inputs.aggregates)
    ⟨"$.runs", "aggregate run_id values must be unique"⟩
  require ((inputs.contexts.map (·.runId)).toFinset = (inputs.aggregates.map (·.runId)).toFinset)
    ⟨"$.runs", "run contexts must cover every aggregate run exactly once"⟩
  let unknown := ((inputs.parameters.map (·.1)).filter fun runId =>
    runId ∉ inputs.aggregates.map (·.runId)).dedup
  require (unknown = []) ⟨"$.runs.parameters",
    "unknown run IDs: [" ++ ", ".intercalate ((sortBy id unknown).map py.text) ++ "]"⟩
  let runs ← inputs.aggregates.mapM (campaignRun inputs)
  let counts := countRuns runs
  return {
    campaignId := inputs.campaignId
    scenarioId := inputs.scenario.scenarioId
    scenarioSha256 := inputs.scenario.sha256
    generatedAt := inputs.generatedAt
    runs := sortBy (·.runId) runs
    acceptance := inputs.policy
    verdict := {
      status := campaignVerdict inputs.policy counts
      totalRuns := runs.length
      passedRuns := counts.passed
      failedRuns := counts.failed
      incompleteRuns := counts.incomplete
      errorRuns := counts.error } }

end RoboticsRuntime.Harness
