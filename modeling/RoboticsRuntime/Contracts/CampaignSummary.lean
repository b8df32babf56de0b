import RoboticsRuntime.Contracts.Json
import RoboticsRuntime.Contracts.Status
import RoboticsRuntime.Theory.Ranking
import Mathlib.Data.String.Basic

/-!
# Campaign summaries

`semantics._validate_campaign_summary`: the counts and the verdict of a `campaign-summary.v1`
document must be those of its runs and of its policy.
-/

namespace RoboticsRuntime.Contracts
open Theory

/-- `status` of the schema of campaign summaries. -/
inductive CampaignStatus where
  | passed
  | failed
  | incomplete
  | error
  deriving DecidableEq, Repr

/-- The status as an outcome. -/
def CampaignStatus.toOutcome : CampaignStatus → OutcomeStatus
  | passed => .passed
  | failed => .failed
  | incomplete => .incomplete
  | error => .error

theorem CampaignStatus.toOutcome_injective : Function.Injective CampaignStatus.toOutcome := by
  intro a b h
  cases a <;> cases b <;> first | rfl | cases h

/-- An entry of `runs`. -/
structure CampaignRun where
  runId : String
  acceptanceRunSha256 : String
  aggregateSha256 : String
  parameters : List (String × Json String)
  status : CampaignStatus

/-- `acceptance`: the bounds of the policy. -/
structure CampaignPolicy where
  minimumPassedRuns : ℤ
  maximumFailedRuns : ℤ
  maximumIncompleteRuns : ℤ
  maximumErrorRuns : ℤ
  deriving DecidableEq, Repr

/-- `verdict`. -/
structure CampaignVerdict where
  status : CampaignStatus
  totalRuns : ℕ
  passedRuns : ℕ
  failedRuns : ℕ
  incompleteRuns : ℕ
  errorRuns : ℕ
  deriving DecidableEq, Repr

/-- A `campaign-summary.v1` document. -/
structure CampaignSummary where
  campaignId : String
  scenarioId : String
  scenarioSha256 : String
  generatedAt : String
  runs : List CampaignRun
  acceptance : CampaignPolicy
  verdict : CampaignVerdict

/-- The four bounds hold for the number of runs with each status. -/
def CampaignPolicy.Passes (policy : CampaignPolicy) (counts : CampaignStatus → ℕ) : Prop :=
  policy.minimumPassedRuns ≤ counts .passed ∧ counts .failed ≤ policy.maximumFailedRuns ∧
    counts .incomplete ≤ policy.maximumIncompleteRuns ∧ counts .error ≤ policy.maximumErrorRuns

instance (policy : CampaignPolicy) (counts : CampaignStatus → ℕ) :
    Decidable (policy.Passes counts) :=
  inferInstanceAs (Decidable (_ ∧ _))

/-- `schema_name` of the validator. -/
def campaignSchema : String := "campaign-summary.v1"

/-- `_require_unique` of a key of the runs. -/
def requireUniqueRuns (runs : List CampaignRun) (key : String) (f : CampaignRun → String) :
    Except SemanticFailure Unit :=
  require (Distinct f runs) (.semantic campaignSchema "$.runs" s!"{key} values must be unique")

/-- `counts`. -/
def runCounts (runs : List CampaignRun) (status : CampaignStatus) : ℕ :=
  runs.countP fun run => run.status = status

/-- The comparison of a field of the verdict. -/
def checkVerdictCount (entry : String × ℕ × ℕ) : Except SemanticFailure Unit :=
  require (entry.2.1 = entry.2.2)
    (.semantic campaignSchema s!"$.verdict.{entry.1}" s!"must equal {entry.2.2}")

/-- `expected_status`. -/
def expectedCampaignStatus (policy : CampaignPolicy) (runs : List CampaignRun) :
    Except ContractError OutcomeStatus := do
  if policy.Passes (runCounts runs) then return .passed
  else
    let worst ← worstStatus (runs.map (·.status.toOutcome)) false
    return if worst = .passed then .failed else worst

/-- `allowed_statuses`. -/
def allowedCampaignStatuses (policy : CampaignPolicy) (runs : List CampaignRun)
    (expected : OutcomeStatus) : List OutcomeStatus :=
  -- A shortfall of passed runs may be failed, as in older documents, or incomplete.
  if runCounts runs .passed < policy.minimumPassedRuns ∧ runCounts runs .failed = 0 ∧
      runCounts runs .error = 0 then
    expected :: [OutcomeStatus.incomplete].filter (· ≠ expected)
  else [expected]

/-- `_validate_campaign_summary`. -/
def validateCampaignSummary (document : CampaignSummary) : Except SemanticFailure Unit := do
  let runs := document.runs
  requireUniqueRuns runs "run_id" (·.runId)
  requireUniqueRuns runs "acceptance_run_sha256" (·.acceptanceRunSha256)
  requireUniqueRuns runs "aggregate_sha256" (·.aggregateSha256)
  let verdict := document.verdict
  forM [("total_runs", verdict.totalRuns, runs.length),
    ("passed_runs", verdict.passedRuns, runCounts runs .passed),
    ("failed_runs", verdict.failedRuns, runCounts runs .failed),
    ("incomplete_runs", verdict.incompleteRuns, runCounts runs .incomplete),
    ("error_runs", verdict.errorRuns, runCounts runs .error)] checkVerdictCount
  let expected ← (expectedCampaignStatus document.acceptance runs).mapError .contract
  let allowed := allowedCampaignStatuses document.acceptance runs expected
  require (verdict.status.toOutcome ∈ allowed)
    (.semantic campaignSchema "$.verdict.status" ("must equal campaign policy verdict " ++
      " or ".intercalate ((sortBy id (allowed.map (·.name))).map fun name => s!"'{name}'")))

end RoboticsRuntime.Contracts
