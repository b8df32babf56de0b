import RoboticsRuntime.Harness.Campaign

/-!
# The verdict of a campaign

The summary that a campaign writes passes its own validator: its counts are those of its runs, its
verdict is the one that the policy allows, and the digests of its documents are as distinct as its
runs. The order in which the aggregates are given does not show in it.
-/

namespace RoboticsRuntime.Harness
open Theory Contracts

/-! ## Counts -/

theorem StatusCounts.get_increment (counts : StatusCounts) (status other : CampaignStatus) :
    (counts.increment status).get other = counts.get other + if status = other then 1 else 0 := by
  cases status <;> cases other <;> rfl

/-- The loop counts the runs with each status. -/
theorem countRuns_get (runs : List CampaignRun) (status : CampaignStatus) :
    (countRuns runs).get status = runCounts runs status := by
  have hfold : ∀ counts : StatusCounts,
      (runs.foldl (fun counts run => counts.increment run.status) counts).get status =
        counts.get status + runCounts runs status := by
    induction runs with
    | nil => exact fun _ => rfl
    | cons run runs ih =>
      intro counts
      rw [List.foldl_cons, ih, StatusCounts.get_increment, runCounts, runCounts, List.countP_cons]
      simp only [decide_eq_true_eq]
      omega
  rw [countRuns, hfold]
  cases status <;> exact Nat.zero_add _

theorem countRuns_get_eq (runs : List CampaignRun) : (countRuns runs).get = runCounts runs :=
  funext (countRuns_get runs)

theorem runCounts_perm {runs runs' : List CampaignRun} (h : runs.Perm runs') :
    runCounts runs = runCounts runs' :=
  funext fun _ => h.countP_eq _

theorem countRuns_perm {runs runs' : List CampaignRun} (h : runs.Perm runs') :
    countRuns runs = countRuns runs' := by
  have hget : ∀ status, (countRuns runs).get status = (countRuns runs').get status := fun status => by
    rw [countRuns_get, countRuns_get, runCounts_perm h]
  cases hcounts : countRuns runs
  cases hcounts' : countRuns runs'
  rw [hcounts, hcounts'] at hget
  rw [StatusCounts.mk.injEq]
  exact ⟨hget .passed, hget .failed, hget .incomplete, hget .error⟩

theorem runCounts_ne_zero {runs : List CampaignRun} {status : CampaignStatus} :
    runCounts runs status ≠ 0 ↔ ∃ run ∈ runs, run.status = status := by
  simp [runCounts, List.countP_eq_zero]

/-! ## Verdicts -/

/-- Where the bounds do not hold, the verdict is the worst status of a run that did not pass, or
incomplete where all of them did. -/
theorem campaignVerdict_failing {policy : CampaignPolicy} {runs : List CampaignRun}
    (h : ¬ policy.Passes (runCounts runs)) :
    campaignVerdict policy (countRuns runs) =
      if runCounts runs .error ≠ 0 then .error else if runCounts runs .failed ≠ 0 then .failed
      else .incomplete := by
  unfold campaignVerdict
  rw [countRuns_get_eq, if_neg h]
  simp only [List.find?_cons]
  by_cases herror : runCounts runs .error = 0
  · by_cases hfailed : runCounts runs .failed = 0
    · by_cases hincomplete : runCounts runs .incomplete = 0 <;> simp [herror, hfailed, hincomplete]
    · simp [herror, hfailed]
  · simp [herror]

/-- The worst status of the runs. -/
theorem worstStatus_runs {runs : List CampaignRun} (hne : runs ≠ []) :
    worstStatus (runs.map (·.status.toOutcome)) false =
      .ok (if runCounts runs .error ≠ 0 then .error else if runCounts runs .failed ≠ 0 then .failed
        else if runCounts runs .incomplete ≠ 0 then .incomplete else .passed) := by
  have hcancelled : .cancelled ∉ runs.map (·.status.toOutcome) := by
    simp only [List.mem_map, not_exists, not_and]
    intro run _
    cases run.status <;> nofun
  have hmem : ∀ status : CampaignStatus, status.toOutcome ∈ runs.map (·.status.toOutcome) ↔
      runCounts runs status ≠ 0 := by
    intro status
    rw [runCounts_ne_zero, List.mem_map]
    exact exists_congr fun run => and_congr_right fun _ =>
      ⟨fun h => CampaignStatus.toOutcome_injective h, fun h => h ▸ rfl⟩
  have hle : ∀ outcome ∈ runs.map (·.status.toOutcome),
      ∃ status : CampaignStatus, outcome = status.toOutcome ∧ runCounts runs status ≠ 0 := by
    intro outcome ho
    obtain ⟨run, hrun, rfl⟩ := List.mem_map.1 ho
    exact ⟨run.status, rfl, (hmem _).1 ho⟩
  rw [worstStatus_eq_ok hcancelled]
  split_ifs with herror hfailed hincomplete
  · exact ⟨(hmem .error).2 herror, fun b _ => b.le_error⟩
  · refine ⟨(hmem .failed).2 hfailed, fun b hb => ?_⟩
    obtain ⟨status, rfl, hs⟩ := hle b hb
    cases status with
    | error => exact absurd hs herror
    | passed | failed | incomplete => decide
  · refine ⟨(hmem .incomplete).2 hincomplete, fun b hb => ?_⟩
    obtain ⟨status, rfl, hs⟩ := hle b hb
    cases status with
    | error => exact absurd hs herror
    | failed => exact absurd hs hfailed
    | passed | incomplete => decide
  · have hall : ∀ b ∈ runs.map (·.status.toOutcome), b = .passed := by
      intro b hb
      obtain ⟨status, rfl, hs⟩ := hle b hb
      cases status with
      | error => exact absurd hs herror
      | failed => exact absurd hs hfailed
      | incomplete => exact absurd hs hincomplete
      | passed => rfl
    obtain ⟨run, hrun⟩ := List.exists_mem_of_ne_nil _ hne
    have hpassed := hall _ (List.mem_map_of_mem hrun)
    exact ⟨hpassed ▸ List.mem_map_of_mem hrun, fun b hb => (hall b hb).le⟩

/-- The verdict of a campaign is one that its validator allows. -/
theorem campaignVerdict_allowed {policy : CampaignPolicy} {runs : List CampaignRun}
    (hne : runs ≠ []) (hfailed : 0 ≤ policy.maximumFailedRuns)
    (hincomplete : 0 ≤ policy.maximumIncompleteRuns) (herror : 0 ≤ policy.maximumErrorRuns) :
    ∃ expected, expectedCampaignStatus policy runs = .ok expected ∧
      (campaignVerdict policy (countRuns runs)).toOutcome ∈
        allowedCampaignStatuses policy runs expected := by
  unfold expectedCampaignStatus
  by_cases hpasses : policy.Passes (runCounts runs)
  · have hverdict : campaignVerdict policy (countRuns runs) = .passed := by
      rw [campaignVerdict, countRuns_get_eq, if_pos hpasses]
    refine ⟨.passed, by rw [if_pos hpasses]; rfl, ?_⟩
    rw [hverdict, allowedCampaignStatuses]
    split <;> exact List.mem_cons_self
  · rw [if_neg hpasses, worstStatus_runs hne, campaignVerdict_failing hpasses]
    refine ⟨_, rfl, ?_⟩
    by_cases herrors : runCounts runs .error = 0
    · by_cases hfailures : runCounts runs .failed = 0
      · by_cases hincompletes : runCounts runs .incomplete = 0
        · -- All runs passed, and there are too few of them.
          have hshort : runCounts runs .passed < policy.minimumPassedRuns := by
            by_contra hmin
            exact hpasses ⟨not_lt.1 hmin, by omega, by omega, by omega⟩
          simp [allowedCampaignStatuses, herrors, hfailures, hincompletes, hshort,
            CampaignStatus.toOutcome]
        · simp only [herrors, hfailures, hincompletes, ne_eq, not_true, not_false_iff, if_true,
            if_false, allowedCampaignStatuses]
          split <;> exact List.mem_cons_self
      · simp [allowedCampaignStatuses, herrors, hfailures, CampaignStatus.toOutcome]
    · simp [allowedCampaignStatuses, herrors, CampaignStatus.toOutcome]

/-! ## Summaries -/

theorem campaignRun_eq_ok {inputs : CampaignInputs} {aggregate : RunAggregate} {run : CampaignRun}
    (h : campaignRun inputs aggregate = .ok run) :
    run.runId = aggregate.runId ∧ run.aggregateSha256 = aggregate.sha256 ∧
      run.status = campaignStatus aggregate.outcome ∧
      ∃ context ∈ inputs.contexts, context.runId = aggregate.runId ∧
        run.acceptanceRunSha256 = context.sha256 := by
  obtain ⟨context, hcontext, h⟩ := bind_eq_ok.1 h
  obtain ⟨-, h⟩ := seq_eq_ok.1 h
  obtain ⟨-, h⟩ := seq_eq_ok.1 h
  obtain rfl := Except.ok.inj h
  rw [demand_eq_ok] at hcontext
  exact ⟨rfl, rfl, rfl, context, List.mem_of_find?_eq_some hcontext,
    by simpa using List.find?_some hcontext, rfl⟩

/-- Distinct values of one field are kept distinct in another that determines it. -/
theorem distinct_of_determines {α β γ : Type} {f : α → β} {g : α → γ} {l : List α}
    (h : Distinct f l) (hg : ∀ a ∈ l, ∀ b ∈ l, g a = g b → f a = f b) : Distinct g l := by
  unfold Distinct at h ⊢
  rw [List.nodup_map_iff_inj_on h.of_map]
  exact fun a ha b hb hab => List.inj_on_of_nodup_map h ha hb (hg a ha b hb hab)

/-- SHA-256 digests identify the loaded documents. -/
structure DigestsIdentify (inputs : CampaignInputs) : Prop where
  contexts : ∀ a ∈ inputs.contexts, ∀ b ∈ inputs.contexts, a.sha256 = b.sha256 → a = b
  aggregates : ∀ a ∈ inputs.aggregates, ∀ b ∈ inputs.aggregates, a.sha256 = b.sha256 → a = b

/-- The runs of a campaign have the identifiers of its aggregates, and distinct digests. -/
theorem distinct_runs {inputs : CampaignInputs} {runs : List CampaignRun}
    (hdigests : DigestsIdentify inputs) (hdistinct : Distinct (·.runId) inputs.aggregates)
    (h : inputs.aggregates.mapM (campaignRun inputs) = .ok runs) :
    Distinct (·.runId) runs ∧ Distinct (·.acceptanceRunSha256) runs ∧
      Distinct (·.aggregateSha256) runs := by
  have hall := mapM_eq_ok.1 h
  have hids : Distinct (·.runId) runs := by
    have heq := hall.imp fun aggregate run hr => (campaignRun_eq_ok hr).1.symm
    unfold Distinct at hdistinct ⊢
    rwa [← map_eq_of_forall₂ (fun _ _ hid => hid) heq]
  refine ⟨hids, distinct_of_determines hids fun a ha b hb hab => ?_,
    distinct_of_determines hids fun a ha b hb hab => ?_⟩
  · obtain ⟨x, -, hx⟩ := exists_of_forall₂_mem hall ha
    obtain ⟨y, -, hy⟩ := exists_of_forall₂_mem hall hb
    obtain ⟨hxid, -, -, c, hc, hcid, hcsha⟩ := campaignRun_eq_ok hx
    obtain ⟨hyid, -, -, d, hd, hdid, hdsha⟩ := campaignRun_eq_ok hy
    obtain rfl := hdigests.contexts c hc d hd (hcsha.symm.trans (hab.trans hdsha))
    rw [hxid, hyid, ← hcid, hdid]
  · obtain ⟨x, hxmem, hx⟩ := exists_of_forall₂_mem hall ha
    obtain ⟨y, hymem, hy⟩ := exists_of_forall₂_mem hall hb
    obtain ⟨hxid, hxsha, -⟩ := campaignRun_eq_ok hx
    obtain ⟨hyid, hysha, -⟩ := campaignRun_eq_ok hy
    obtain rfl := hdigests.aggregates x hxmem y hymem (hxsha.symm.trans (hab.trans hysha))
    rw [hxid, hyid]

/-- What an aggregated campaign holds. -/
theorem aggregateCampaign_eq_ok {py : PyOps} {inputs : CampaignInputs} {summary : CampaignSummary}
    (h : aggregateCampaign py inputs = .ok summary) :
    inputs.aggregates ≠ [] ∧ Distinct (·.runId) inputs.contexts ∧
      Distinct (·.runId) inputs.aggregates ∧
      ∃ runs, inputs.aggregates.mapM (campaignRun inputs) = .ok runs ∧
        summary.runs = sortBy (·.runId) runs ∧ summary.acceptance = inputs.policy ∧
        summary.verdict = ⟨campaignVerdict inputs.policy (countRuns runs), runs.length,
          runCounts runs .passed, runCounts runs .failed, runCounts runs .incomplete,
          runCounts runs .error⟩ := by
  obtain ⟨hne, h⟩ := seq_eq_ok.1 h
  obtain ⟨hcontexts, h⟩ := seq_eq_ok.1 h
  obtain ⟨haggregates, h⟩ := seq_eq_ok.1 h
  obtain ⟨-, h⟩ := seq_eq_ok.1 h
  obtain ⟨-, h⟩ := seq_eq_ok.1 h
  obtain ⟨runs, hruns, h⟩ := bind_eq_ok.1 h
  obtain rfl := Except.ok.inj h
  rw [require_eq_ok] at hne hcontexts haggregates
  refine ⟨hne, hcontexts, haggregates, runs, hruns, rfl, rfl, ?_⟩
  rw [CampaignVerdict.mk.injEq]
  exact ⟨rfl, rfl, countRuns_get runs .passed, countRuns_get runs .failed,
    countRuns_get runs .incomplete, countRuns_get runs .error⟩

/-- The number of aggregates that count as a status. -/
def aggregateCounts (aggregates : List RunAggregate) (status : CampaignStatus) : ℕ :=
  aggregates.countP fun aggregate => campaignStatus aggregate.outcome = status

theorem runCounts_eq {inputs : CampaignInputs} {runs : List CampaignRun}
    (h : inputs.aggregates.mapM (campaignRun inputs) = .ok runs) :
    runCounts runs = aggregateCounts inputs.aggregates := by
  funext status
  have hall := (mapM_eq_ok.1 h).imp fun aggregate run hr => (campaignRun_eq_ok hr).2.2.1
  unfold runCounts aggregateCounts
  clear h
  generalize inputs.aggregates = aggregates at hall ⊢
  induction hall with
  | nil => rfl
  | cons hstatus _ ih => rw [List.countP_cons, List.countP_cons, ih, hstatus]

theorem campaignVerdict_passed {policy : CampaignPolicy} {runs : List CampaignRun} :
    campaignVerdict policy (countRuns runs) = .passed ↔ policy.Passes (runCounts runs) := by
  by_cases h : policy.Passes (runCounts runs)
  · rw [campaignVerdict, countRuns_get_eq, if_pos h]
    exact iff_of_true rfl h
  · rw [campaignVerdict_failing h]
    refine iff_of_false ?_ h
    split_ifs <;> nofun

/-- The validator accepts the summary of a campaign. -/
theorem validate_aggregateCampaign {py : PyOps} {inputs : CampaignInputs}
    {summary : CampaignSummary} (hfailed : 0 ≤ inputs.policy.maximumFailedRuns)
    (hincomplete : 0 ≤ inputs.policy.maximumIncompleteRuns)
    (herror : 0 ≤ inputs.policy.maximumErrorRuns) (hdigests : DigestsIdentify inputs)
    (h : aggregateCampaign py inputs = .ok summary) :
    validateCampaignSummary summary = .ok () := by
  obtain ⟨hne, -, hdistinct, runs, hruns, hsorted, hpolicy, hverdict⟩ := aggregateCampaign_eq_ok h
  have hperm : summary.runs.Perm runs := hsorted ▸ sortBy_perm _ runs
  have hcounts := runCounts_perm hperm
  obtain ⟨hids, hcontexts, haggregates⟩ := distinct_runs hdigests hdistinct hruns
  have hunique : ∀ {f : CampaignRun → String}, Distinct f runs → Distinct f summary.runs :=
    fun hf => (hperm.map _).nodup_iff.2 hf
  have hnonempty : summary.runs ≠ [] := by
    intro hnil
    rw [hnil] at hperm
    obtain rfl := hperm.nil_eq
    exact hne (List.forall₂_nil_right_iff.1 (mapM_eq_ok.1 hruns))
  obtain ⟨expected, hexpected, hallowed⟩ :=
    campaignVerdict_allowed hnonempty hfailed hincomplete herror
  rw [countRuns_perm hperm] at hallowed
  unfold validateCampaignSummary
  rw [hverdict, hpolicy]
  simp only [seq_eq_ok, requireUniqueRuns, require_eq_ok, forM_eq_ok, checkVerdictCount,
    List.forall_mem_cons, List.not_mem_nil, false_implies, implies_true, and_true]
  refine ⟨hunique hids, hunique hcontexts, hunique haggregates, ?_, ?_⟩
  · exact ⟨hperm.length_eq.symm, by rw [hcounts], by rw [hcounts], by rw [hcounts], by rw [hcounts]⟩
  · exact bind_eq_ok.2 ⟨expected, mapError_eq_ok.2 hexpected, require_of hallowed⟩

/-! ## The order of the aggregates -/

theorem contextOf_eq_some {contexts : List RunContextDocument} (h : Distinct (·.runId) contexts)
    {runId : String} {context : RunContextDocument} :
    contextOf contexts runId = some context ↔ context ∈ contexts ∧ context.runId = runId := by
  constructor
  · intro hfind
    exact ⟨List.mem_of_find?_eq_some hfind, by simpa using List.find?_some hfind⟩
  · rintro ⟨hmem, rfl⟩
    exact h.find?_eq hmem

theorem contextOf_perm {contexts contexts' : List RunContextDocument}
    (hdistinct : Distinct (·.runId) contexts) (h : contexts.Perm contexts') (runId : String) :
    contextOf contexts runId = contextOf contexts' runId := by
  have hdistinct' : Distinct (·.runId) contexts' := (h.map _).nodup_iff.1 hdistinct
  ext context
  rw [contextOf_eq_some hdistinct, contextOf_eq_some hdistinct', h.mem_iff]

/-- The same documents in another order are aggregated to the same summary. -/
theorem aggregateCampaign_perm {py : PyOps} {inputs : CampaignInputs} {summary : CampaignSummary}
    {aggregates : List RunAggregate} {contexts : List RunContextDocument}
    (haggregates : aggregates.Perm inputs.aggregates) (hcontexts : contexts.Perm inputs.contexts)
    (h : aggregateCampaign py inputs = .ok summary) :
    aggregateCampaign py { inputs with aggregates, contexts } = .ok summary := by
  obtain ⟨hne, h⟩ := seq_eq_ok.1 h
  obtain ⟨hdistinctContexts, h⟩ := seq_eq_ok.1 h
  obtain ⟨hdistinct, h⟩ := seq_eq_ok.1 h
  obtain ⟨hcovered, h⟩ := seq_eq_ok.1 h
  obtain ⟨hknown, h⟩ := seq_eq_ok.1 h
  obtain ⟨runs, hruns, h⟩ := bind_eq_ok.1 h
  rw [require_eq_ok] at hne hdistinctContexts hdistinct hcovered hknown
  have hrun : ∀ aggregate, campaignRun { inputs with aggregates, contexts } aggregate =
      campaignRun inputs aggregate := by
    intro aggregate
    unfold campaignRun
    rw [contextOf_perm hdistinctContexts hcontexts.symm aggregate.runId]
  obtain ⟨runs', hruns', hperm⟩ := List.perm_comp_forall₂ haggregates (mapM_eq_ok.1 hruns)
  have hmapM : aggregates.mapM (campaignRun { inputs with aggregates, contexts }) = .ok runs' :=
    mapM_eq_ok.2 (hruns'.imp fun aggregate run hr => (hrun aggregate).trans hr)
  have hids : Distinct (·.runId) runs := by
    have heq := (mapM_eq_ok.1 hruns).imp fun aggregate run hr => (campaignRun_eq_ok hr).1.symm
    unfold Distinct at hdistinct ⊢
    rwa [← map_eq_of_forall₂ (fun _ _ hid => hid) heq]
  have hmem : ∀ runId, runId ∈ aggregates.map (·.runId) ↔ runId ∈ inputs.aggregates.map (·.runId) :=
    fun _ => (haggregates.map _).mem_iff
  have hfinset : (contexts.map (·.runId)).toFinset = (aggregates.map (·.runId)).toFinset := by
    rw [List.toFinset_eq_of_perm _ _ (hcontexts.map _), hcovered,
      List.toFinset_eq_of_perm _ _ (haggregates.map _)]
  have hunknown : ((inputs.parameters.map (·.1)).filter fun runId =>
      runId ∉ aggregates.map (·.runId)).dedup = [] := by
    simpa only [hmem] using hknown
  have hne' : aggregates ≠ [] := by
    rintro rfl
    exact hne haggregates.nil_eq.symm
  have hdistinctContexts' : Distinct (·.runId) contexts :=
    (hcontexts.map _).nodup_iff.2 hdistinctContexts
  have hdistinct' : Distinct (·.runId) aggregates := (haggregates.map _).nodup_iff.2 hdistinct
  unfold aggregateCampaign
  dsimp only
  rw [require_of hne', ok_bind, require_of hdistinctContexts', ok_bind, require_of hdistinct',
    ok_bind, require_of hfinset, ok_bind, require_of hunknown, ok_bind, hmapM, ok_bind, ← sortBy_eq_of_perm hids hperm.symm,
    countRuns_perm hperm, hperm.length_eq]
  exact h

/-! ## Agreement -/

/-- A campaign writes counts and a verdict that its validator accepts: the numbers of aggregates with
each status, passed exactly when the four bounds hold for them, in whatever order the documents are
given. -/
theorem aggregateCampaign_agrees (py : PyOps) (inputs : CampaignInputs) (summary : CampaignSummary)
    (hfailed : 0 ≤ inputs.policy.maximumFailedRuns)
    (hincomplete : 0 ≤ inputs.policy.maximumIncompleteRuns)
    (herror : 0 ≤ inputs.policy.maximumErrorRuns) (hdigests : DigestsIdentify inputs)
    (h : aggregateCampaign py inputs = .ok summary) :
    validateCampaignSummary summary = .ok () ∧
      (summary.verdict.passedRuns = aggregateCounts inputs.aggregates .passed ∧
        summary.verdict.failedRuns = aggregateCounts inputs.aggregates .failed ∧
        summary.verdict.incompleteRuns = aggregateCounts inputs.aggregates .incomplete ∧
        summary.verdict.errorRuns = aggregateCounts inputs.aggregates .error) ∧
      (summary.verdict.status = .passed ↔
        inputs.policy.Passes (aggregateCounts inputs.aggregates)) ∧
      ∀ (aggregates : List RunAggregate) (contexts : List RunContextDocument),
        aggregates.Perm inputs.aggregates → contexts.Perm inputs.contexts →
        aggregateCampaign py { inputs with aggregates, contexts } = .ok summary := by
  obtain ⟨-, -, -, runs, hruns, -, -, hverdict⟩ := aggregateCampaign_eq_ok h
  have hcounts := runCounts_eq hruns
  refine ⟨validate_aggregateCampaign hfailed hincomplete herror hdigests h, ?_, ?_,
    fun aggregates contexts ha hc => aggregateCampaign_perm ha hc h⟩
  · rw [hverdict, hcounts]
    exact ⟨rfl, rfl, rfl, rfl⟩
  · rw [hverdict, ← hcounts]
    exact campaignVerdict_passed

/-- Two runs that passed, of a campaign that asks for three. -/
def exampleCampaign : CampaignInputs where
  scenario := ⟨"s", "0"⟩
  contexts := [⟨"a", "s", "0", "1"⟩, ⟨"b", "s", "0", "2"⟩]
  aggregates := [⟨"b", "2", .passed, .unevaluated, "4"⟩, ⟨"a", "1", .passed, .unevaluated, "3"⟩]
  policy := ⟨3, 0, 0, 0⟩
  parameters := []
  campaignId := "c"
  generatedAt := "t"

theorem aggregateCampaign_agrees_example :
    ∃ summary, aggregateCampaign PyOps.exact exampleCampaign = .ok summary ∧
      summary.verdict.status = .incomplete ∧ validateCampaignSummary summary = .ok () := by
  obtain ⟨summary, hsummary, hstatus⟩ := exists_ok_of_any
    (show (aggregateCampaign PyOps.exact exampleCampaign).toOption.any
      (fun summary => summary.verdict.status = .incomplete) = true by decide +kernel)
  refine ⟨summary, hsummary, by simpa using hstatus, ?_⟩
  exact (aggregateCampaign_agrees PyOps.exact exampleCampaign summary (by decide) (by decide)
    (by decide) ⟨by decide, by decide⟩ hsummary).1

end RoboticsRuntime.Harness
