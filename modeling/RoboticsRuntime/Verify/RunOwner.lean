import Mathlib.Order.Basic
import RoboticsRuntime.Verify.RunInvariant

/-!
# Cleanup and completion of an owned run

Whatever the order of calls, deadlines, late settlements and disposals: a resource is cleaned up only
after an export has settled with references and while no callback is live, and a completion says
`passed` only after a flawless run.
-/

namespace RoboticsRuntime.Host
open Theory

namespace OwnedRun
variable {run run' : OwnedRun} {caught : String → Option String}

/-! ## What the functions of a run leave to others -/

/-- The functions of a run leave the resources alone, and forget no settled callback and no error. -/
structure Carries (run run' : OwnedRun) : Prop where
  runId : run'.runId = run.runId
  releases : run'.releases = run.releases
  resources : run'.resources = run.resources
  cleanups : run'.cleanups = run.cleanups
  settled : ∀ producer ∈ run.produced, producer.settled ≠ none →
    ∃ producer' ∈ run'.produced, producer'.phase = producer.phase ∧
      producer'.settled = producer.settled
  logging : run'.logging = true → run.logging = true
  errors : run'.errors = [] → run.errors = []
  captured : run'.capturedErrors = [] → run.capturedErrors = []
  admitted : run'.cleanupAdmitted = run.cleanupAdmitted

theorem Carries.exported (h : Carries run run') (he : run.Exported) : run'.Exported := by
  obtain ⟨producer, hm, hphase, value, hsettled, hne⟩ := he
  obtain ⟨producer', hm', hphase', hsettled'⟩ := h.settled producer hm (by simp [hsettled])
  exact ⟨producer', hm', hphase'.trans hphase, value, hsettled'.trans hsettled, hne⟩

theorem Carries.trans (h : Carries run run₁) (h' : Carries run₁ run') : Carries run run' where
  runId := h'.runId.trans h.runId
  releases := h'.releases.trans h.releases
  resources := h'.resources.trans h.resources
  cleanups := h'.cleanups.trans h.cleanups
  settled producer hm hne := by
    obtain ⟨producer₁, hm₁, hphase₁, hsettled₁⟩ := h.settled producer hm hne
    obtain ⟨producer₂, hm₂, hphase₂, hsettled₂⟩ := h'.settled producer₁ hm₁ (hsettled₁ ▸ hne)
    exact ⟨producer₂, hm₂, hphase₂.trans hphase₁, hsettled₂.trans hsettled₁⟩
  logging hl := h.logging (h'.logging hl)
  errors he := h.errors (h'.errors he)
  captured hc := h.captured (h'.captured hc)
  admitted := h'.admitted.trans h.admitted

/-- A change that leaves the callbacks alone. -/
theorem carries_of_eq (hrunId : run'.runId = run.runId) (hreleases : run'.releases = run.releases)
    (hresources : run'.resources = run.resources)
    (hcleanups : run'.cleanups = run.cleanups) (hproduced : run'.produced = run.produced)
    (hlogging : run'.logging = true → run.logging = true) (herrors : run'.errors = [] → run.errors = [])
    (hcaptured : run'.capturedErrors = run.capturedErrors)
    (hadmitted : run'.cleanupAdmitted = run.cleanupAdmitted) : Carries run run' where
  runId := hrunId
  releases := hreleases
  resources := hresources
  cleanups := hcleanups
  settled producer hm _ := ⟨producer, by rwa [hproduced], rfl, rfl⟩
  logging := hlogging
  errors := herrors
  captured hc := by rwa [← hcaptured]
  admitted := hadmitted

theorem Kept.carries (h : Kept run run') : Carries run run' :=
  carries_of_eq h.runId h.releases h.resources h.cleanups h.produced (fun hl => h.logging.symm.trans hl) h.errors
    h.captured h.admitted

theorem carries_interrupt (hproducer : run.produced[i]? = some producer) :
    Carries run (run.interrupt i producer) where
  runId := rfl
  releases := rfl
  resources := rfl
  cleanups := rfl
  settled other hm hne := by
    obtain ⟨j, hj⟩ := List.mem_iff_getElem?.1 hm
    rcases eq_or_ne i j with rfl | hij
    · obtain rfl := Option.some.inj (hproducer.symm.trans hj)
      obtain ⟨hi, -⟩ := List.getElem?_eq_some_iff.1 hproducer
      exact ⟨_, List.mem_set hi _, rfl, rfl⟩
    · refine ⟨other, List.mem_of_getElem? (i := j) ?_, rfl, rfl⟩
      rwa [interrupt, List.getElem?_set_ne hij]
  logging := id
  errors := id
  captured := id
  admitted := rfl

theorem carries_complete (run : OwnedRun) (hooks : CompletionHooks) (completed issued : Bool) :
    Carries run { run.complete hooks with completed := completed, issued := issued } := by
  have hbegin : Carries run (run.begin hooks) :=
    carries_of_eq rfl rfl rfl rfl rfl id (fun he => ((begin_errors run hooks).1 he).2) rfl rfl
  have hcomplete := hbegin.trans (kept_resume (run.begin hooks) hooks.exportEvidence).carries
  rw [← complete_eq] at hcomplete
  exact hcomplete.trans (carries_of_eq rfl rfl rfl rfl rfl id id rfl rfl)

theorem carries_finish (run : OwnedRun) (hooks : CompletionHooks) : Carries run (run.finish hooks) := by
  unfold finish
  split_ifs
  · exact carries_of_eq rfl rfl rfl rfl rfl id id rfl rfl
  · exact carries_complete run hooks true _

theorem carries_startFailed (run : OwnedRun) (diagnostic : String) :
    Carries run (run.startFailed diagnostic) := by
  have hfail := (kept_fail run .preloading diagnostic).carries
  exact (hfail.trans (carries_finish _ .absent)).trans (carries_of_eq rfl rfl rfl rfl rfl id id rfl rfl)

theorem carries_rejected (run : OwnedRun) (diagnostic : String) (await : Await) :
    Carries run (run.rejected diagnostic await) := by
  cases await with
  | probe => exact carries_startFailed run diagnostic
  | stage phase call exports =>
    simp only [rejected]
    split_ifs
    · exact ((kept_fail run phase diagnostic).trans (kept_retained _ _)).carries
    · exact ((kept_fail run phase diagnostic).trans (kept_resumeStages _ _ _)).carries
  | exportEvidence => exact (kept_exportFailed run diagnostic).carries
  | _ => exact carries_of_eq rfl rfl rfl rfl rfl id id rfl rfl

/-- A run whose export has returned references. -/
def allowCleanup (run : OwnedRun) : OwnedRun :=
  { { run with cleanupAdmitted := true }.pass .exportingEvidence with
    phase := .disposing }.suspend .dispose

theorem carries_fulfilled (run : OwnedRun) (value : BackendReadiness) (await : Await)
    (hexport : ∀ call, await = .exportEvidence call → value.evidenceRefs = []) :
    Carries run (run.fulfilled value await) := by
  cases await with
  | probe =>
    simp only [fulfilled]
    split_ifs
    · exact carries_of_eq rfl rfl rfl rfl rfl id id rfl rfl
    · exact carries_startFailed run _
  | stage phase call exports =>
    have hpass : Carries run (run.pass phase) := carries_of_eq rfl rfl rfl rfl rfl id id rfl rfl
    exact hpass.trans (kept_resumeStages _ _ _).carries
  | exportEvidence call =>
    have hempty := hexport call rfl
    simp only [fulfilled, hempty]
    exact (kept_exportFailed run _).carries
  | _ => exact carries_of_eq rfl rfl rfl rfl rfl id id rfl rfl

theorem carries_verified (run : OwnedRun) (disposalComplete : Bool)
    (outcomes : List ResourceOutcome) : Carries run (run.verified disposalComplete outcomes) := by
  refine carries_of_eq rfl rfl rfl rfl rfl nofun (fun he => ?_) rfl rfl
  simp only [verified, suspend, List.append_eq_nil_iff] at he
  exact he.1.1.1

theorem carries_disposed (run : OwnedRun) (result : Except String Bool) :
    Carries run (run.disposed result) := by
  have hverifying (run₁ : OwnedRun) (h : Carries run run₁) (complete : Bool) :
      Carries run (run₁.verifying complete) := by
    unfold verifying
    split
    · exact h.trans (carries_verified run₁ complete [])
    · exact h.trans (carries_of_eq rfl rfl rfl rfl rfl id id rfl rfl)
  have hfailed (diagnostic : String) :
      Carries run { run.fail .disposing diagnostic with phase := .verifyingCleanup } :=
    (kept_fail run .disposing diagnostic).carries.trans (carries_of_eq rfl rfl rfl rfl rfl id id rfl rfl)
  cases result with
  | error diagnostic => exact hverifying _ (hfailed diagnostic) false
  | ok complete =>
    cases complete with
    | false => exact hverifying _ (hfailed _) false
    | true =>
      exact hverifying { run.pass .disposing with phase := .verifyingCleanup }
        (carries_of_eq rfl rfl rfl rfl rfl id id rfl rfl) true

/-- What follows the end of a wait admits the cleanup, concludes the run, or does neither. -/
theorem carries_continues (h : Continues run await run') (hat : run.At await) :
    Carries run run' ∨ (run.Exported ∧ run' = run.allowCleanup) ∨
      ∃ disposalComplete outcomes, await = .stopLogging disposalComplete outcomes ∧
        run' = run.concluded disposalComplete outcomes := by
  cases h with
  | composed => exact .inl (carries_of_eq rfl rfl rfl rfl rfl id id rfl rfl)
  | ready => exact .inl (carries_of_eq rfl rfl rfl rfl rfl id id rfl rfl)
  | startFailed bindings message => exact .inl (carries_startFailed run message)
  | fulfilled _ i producer value hcall hproducer hsettled =>
    by_cases hexport : ∀ call, await = .exportEvidence call → value.evidenceRefs = []
    · exact .inl (carries_fulfilled run value await hexport)
    · -- The references that admit the cleanup are those of a settled export.
      push Not at hexport
      obtain ⟨call, rfl, hne⟩ := hexport
      obtain rfl := Option.some.inj hcall
      obtain ⟨-, -, -, ⟨hphase, -⟩, -⟩ := hat
      rw [invoked, List.getElem?_map, hproducer] at hphase
      refine .inr (.inl ⟨⟨producer, List.mem_of_getElem? hproducer, Option.some.inj hphase, value,
        hsettled, hne⟩, ?_⟩)
      simp only [fulfilled]
      exact if_neg (by simpa using hne)
  | refused _ message => exact .inl (carries_rejected run message _)
  | cancelled _ message => exact .inl (carries_rejected run message _)
  | rejected _ i producer message hcall hproducer =>
    exact .inl ((carries_interrupt hproducer).trans (carries_rejected _ message _))
  | disposed result => exact .inl (carries_disposed run result)
  | verified disposalComplete outcomes resourceOutcomes =>
    exact .inl (carries_verified run disposalComplete resourceOutcomes)
  | concluded disposalComplete outcomes => exact .inr (.inr ⟨disposalComplete, outcomes, rfl, rfl⟩)

/-! ## Steps beside the resources -/

theorem carries_settle (hproducer : run.produced[i]? = some producer) (hlive : producer.live)
    (result : Except Rejection BackendReadiness) : Carries run (run.settle i producer result) := by
  have hset : ∀ other ∈ run.produced, other.settled ≠ none →
      ∃ producer' ∈ run.produced.set i { producer with settled := some result },
        producer'.phase = other.phase ∧ producer'.settled = other.settled := by
    intro other hm hne
    obtain ⟨j, hj⟩ := List.mem_iff_getElem?.1 hm
    have hij : i ≠ j := by
      rintro rfl
      obtain rfl := Option.some.inj (hproducer.symm.trans hj)
      exact hne (Option.isNone_iff_eq_none.1 hlive)
    refine ⟨other, List.mem_of_getElem? (i := j) ?_, rfl, rfl⟩
    rwa [List.getElem?_set_ne hij]
  unfold settle
  split
  · exact ⟨rfl, rfl, rfl, rfl, hset, id, id, id, rfl⟩
  · exact ⟨rfl, rfl, rfl, rfl, hset, id, id, id, rfl⟩
  · split_ifs
    · exact ⟨rfl, rfl, rfl, rfl, hset, id, fun he => (List.append_eq_nil_iff.1 he).1, id, rfl⟩
    · exact ⟨rfl, rfl, rfl, rfl, hset, id, id, id, rfl⟩

theorem carries_invoke (run : OwnedRun) (await : Await) (awaits : List Await) :
    Carries run { run.invoke await with awaits := awaits } :=
  ⟨rfl, rfl, rfl, rfl, fun producer hm _ => ⟨producer, List.mem_append_left _ hm, rfl, rfl⟩, id, id, id,
    rfl⟩

theorem carries_log (run : OwnedRun) (message : String) : Carries run (run.log message) := by
  unfold log
  split_ifs
  · exact carries_of_eq rfl rfl rfl rfl rfl id id rfl rfl
  · exact ⟨rfl, rfl, rfl, rfl, fun producer hm _ => ⟨producer, hm, rfl, rfl⟩, id, id,
      fun hc => (List.append_eq_nil_iff.1 hc).1, rfl⟩
  · exact carries_of_eq rfl rfl rfl rfl rfl id id rfl rfl
  · exact carries_of_eq rfl rfl rfl rfl rfl id (fun he => (List.append_eq_nil_iff.1 he).1) rfl rfl

/-- What happens to the resources of a run in a step. -/
inductive Touches (caught : String → Option String) (run : OwnedRun) : OwnedRun → Prop where
  | carries (run' : OwnedRun) (h : Carries run run') : Touches caught run run'
  | admits (exported : run.Exported) (awaits : List Await) :
    Touches caught run { run with awaits := awaits }.allowCleanup
  | concludes (awaits : List Await) (disposalComplete : Bool) (outcomes : List ResourceOutcome)
      (at_ : run.At (.stopLogging disposalComplete outcomes)) :
    Touches caught run ({ run with awaits := awaits }.concluded disposalComplete outcomes)
  | provideResources (h : run.resources = none) :
    Touches caught run { run with resources := some [] }
  | track (records : List ResourceRecord) (id : String) (h : run.resources = some records) :
    Touches caught run { run with resources := some (records ++ [⟨id, false, none⟩]) }
  | cleanupEffect (i : ℕ) (record : ResourceRecord) (h : run.record? i = some record) :
    Touches caught run (run.cleanupEffect i record)
  | cleanupFailed (i : ℕ) (record : ResourceRecord) (message : String)
      (h : run.record? i = some record) (attempted : record.attempted) :
    Touches caught run ((caught message).elim
      (run.updateRecord i { record with cleanupError := some message })
      (run.updateRecord i { record with cleanupError := some message }).log)

theorem touches_of_step (h : Step caught run run') (hi : run.Inv) : Touches caught run run' := by
  cases h with
  | provideResources h => exact .provideResources h
  | interrupt i producer hproducer => exact .carries _ (carries_interrupt hproducer)
  | settle i producer result hproducer hlive =>
    exact .carries _ (carries_settle hproducer hlive result)
  | track records id h => exact .track records id h
  | cleanupEffect i record h => exact .cleanupEffect i record h
  | cleanupFailed i record message h hattempted => exact .cleanupFailed i record message h hattempted
  | log message => exact .carries _ (carries_log run message)
  | verified => exact .carries _ (carries_of_eq rfl rfl rfl rfl rfl id id rfl rfl)
  | beginMeasurement => exact .carries _ (carries_of_eq rfl rfl rfl rfl rfl id id rfl rfl)
  | finish hooks => exact .carries _ (carries_finish run hooks)
  | retryExport exportEvidence => exact .carries _ (kept_resume run exportEvidence).carries
  | invoke t await => exact .carries _ (carries_invoke run await _)
  | continues t await _ hawait hc =>
    obtain ⟨-, -, hat⟩ := hi.located.at_ hawait
    have hawaits : Carries run { run with awaits := run.awaits.eraseIdx t } :=
      carries_of_eq rfl rfl rfl rfl rfl id id rfl rfl
    rcases carries_continues hc ((beside_awaits run _).at_ hat) with hc | ⟨hexported, rfl⟩ |
      ⟨disposalComplete, outcomes, rfl, rfl⟩
    · exact .carries _ (hawaits.trans hc)
    · exact .admits (show run.Exported from hexported) (run.awaits.eraseIdx t)
    · exact .concludes (run.awaits.eraseIdx t) disposalComplete outcomes hat

/-! ## Cleanup follows the export -/

/-- The cleanup is admitted after an export, and no resource was cleaned up before. -/
structure Guarded (run : OwnedRun) : Prop where
  exported : run.cleanupAdmitted = true → run.Exported
  attempted : ∀ i record, run.record? i = some record → record.attempted = true →
    run.cleanupAdmitted = true

theorem record?_updateRecord (h : run.record? i = some record) (record' : ResourceRecord) (j : ℕ) :
    (run.updateRecord i record').record? j = if j = i then some record' else run.record? j := by
  obtain ⟨records, hrecords, hi⟩ := Option.bind_eq_some_iff.1 h
  obtain ⟨hlt, -⟩ := List.getElem?_eq_some_iff.1 hi
  simp only [record?, updateRecord, hrecords, Option.map_some, Option.bind_some]
  rw [List.getElem?_set]
  split_ifs with hij hji hji
  · rfl
  · exact absurd hij.symm hji
  · exact absurd hji.symm hij
  · rfl

theorem record?_track (h : run.resources = some records) (id : String)
    (hrecord : record? { run with resources := some (records ++ [⟨id, false, none⟩]) } i =
      some record) :
    run.record? i = some record ∨ record = ⟨id, false, none⟩ := by
  simp only [record?, h, Option.bind_some] at hrecord ⊢
  rcases Nat.lt_or_ge i records.length with hi | hi
  · rw [List.getElem?_append_left hi] at hrecord
    exact .inl hrecord
  · rw [List.getElem?_append_right hi] at hrecord
    exact .inr (List.mem_singleton.1 (List.mem_of_getElem? hrecord))

/-- A property of the records after one of them is updated. -/
theorem forall_updateRecord {p : ResourceRecord → Prop} (h : run.record? i = some record)
    (hall : ∀ j other, run.record? j = some other → p other) (hp : p record') :
    ∀ j other, (run.updateRecord i record').record? j = some other → p other := by
  intro j other hj
  rw [record?_updateRecord h] at hj
  split_ifs at hj
  · obtain rfl := Option.some.inj hj
    exact hp
  · exact hall j other hj

theorem Inv.producers_none (h : run.Inv) (ha : run.cleanupAdmitted = true) :
    run.producers = none ∧ run.Cleaning := by
  have hcompleting (hc : run.Completing) : run.producers = none ∧ run.Cleaning := by
    rw [hc.admitted] at ha
    cases ha
  have hincipient (hi : run.Incipient) : run.producers = none ∧ run.Cleaning := by
    rw [hi.admitted] at ha
    cases ha
  cases h.located with
  | rests _ hr =>
    cases hr with
    | ready hi => exact hincipient hi
    | measuring hi => exact hincipient hi
    | retained hc => exact hcompleting hc
    | concluded hc => exact ⟨hc.producers, hc⟩
  | waits await _ hat =>
    cases await with
    | composition => exact hincipient hat.1
    | probe => exact hincipient hat.1
    | stage => exact hcompleting hat.1
    | exportEvidence => exact hcompleting hat.1
    | dispose => exact ⟨hat.1.producers, hat.1⟩
    | verify => exact ⟨hat.1.producers, hat.1⟩
    | stopLogging => exact ⟨hat.1.producers, hat.1⟩

theorem cleanupRefusal_eq_none (h : run.Inv) (id : String) :
    run.cleanupRefusal id = none ↔ run.cleanupAdmitted = true := by
  unfold cleanupRefusal
  constructor
  · intro hnone
    split at hnone
    · cases hnone
    · split_ifs at hnone with ha
      exact ha
  · intro ha
    rw [(pendingPhase?_eq_none h.tabled).2 (h.producers_none ha).1]
    exact if_pos ha

theorem guarded_step (h : Touches caught run run') (hi : run.Inv) (hg : run.Guarded) :
    run'.Guarded := by
  cases h with
  | carries _ hc =>
    refine ⟨fun ha => ?_, fun i record hrecord hattempted => ?_⟩
    · exact hc.exported (hg.exported (hc.admitted ▸ ha))
    · rw [record?, hc.resources] at hrecord
      exact hc.admitted.trans (hg.attempted i record hrecord hattempted)
  | admits hexported => exact ⟨fun _ => hexported, fun _ _ _ _ => rfl⟩
  | concludes => exact ⟨hg.exported, hg.attempted⟩
  | provideResources h => exact ⟨hg.exported, fun _ _ hrecord => by cases hrecord⟩
  | track records id h =>
    refine ⟨hg.exported, fun i record hrecord hattempted => ?_⟩
    rcases record?_track h id hrecord with hrecord | rfl
    · exact hg.attempted i record hrecord hattempted
    · cases hattempted
  | cleanupEffect i record h =>
    unfold cleanupEffect
    split
    · exact ⟨hg.exported, forall_updateRecord h hg.attempted (hg.attempted i record h)⟩
    · next hnone =>
      have ha := (cleanupRefusal_eq_none hi record.id).1 hnone
      exact ⟨hg.exported, fun _ _ _ _ => ha⟩
  | cleanupFailed i record message h hattempted =>
    have hupdated : (run.updateRecord i { record with cleanupError := some message }).Guarded :=
      ⟨hg.exported, forall_updateRecord h hg.attempted (hg.attempted i record h)⟩
    cases caught message with
    | none => exact hupdated
    | some logged =>
      have hc := carries_log (run.updateRecord i { record with cleanupError := some message }) logged
      refine ⟨fun ha => ?_, fun j other hother hattempted' => ?_⟩
      · exact hc.exported (hupdated.exported (hc.admitted ▸ ha))
      · refine hc.admitted.trans (hupdated.attempted j other ?_ hattempted')
        rwa [record?, ← hc.resources]

theorem guarded_reachable (h : Reachable Created (Takes (step caught)) run) : run.Guarded := by
  refine h.builds ?_ ?_
  · rintro run ⟨runId, bindings, rfl⟩
    exact ⟨nofun, nofun⟩
  · rintro run run' hr ⟨event, hstep⟩ hg
    have hi := inv_reachable hr
    exact guarded_step (touches_of_step (step_of_event hstep) hi) hi hg

/-- A cleanup of the `i`-th resource is refused: the resource stays as it is, and its record and the
run have the error. -/
def Refuses (i : ℕ) (run run' : OwnedRun) : Prop :=
  ∃ record diagnostic, run.record? i = some record ∧ record.attempted = false ∧
    run'.record? i = some { record with cleanupError := some diagnostic } ∧
    run'.errors = run.errors ++ [diagnostic] ∧ run'.cleanups = run.cleanups

/-- The cleanup of a resource is invoked only in a state in which an export has settled with
references and no callback is live. Every other attempt is refused. -/
theorem cleanup_follows_export (caught : String → Option String) (run : OwnedRun)
    (h : Reachable Created (Takes (step caught)) run) :
    (∀ run', Takes (step caught) run run' → run'.cleanups ≠ run.cleanups →
      run.Exported ∧ run.Quiescent) ∧
    ∀ i run', run.step caught (.cleanupEffect i) = some run' → run'.cleanups = run.cleanups →
      Refuses i run run' := by
  have hi := inv_reachable h
  have hg := guarded_reachable h
  constructor
  · rintro run' ⟨event, hstep⟩ hinvoked
    cases touches_of_step (step_of_event hstep) hi with
    | carries _ hc => exact absurd hc.cleanups hinvoked
    | admits => exact absurd rfl hinvoked
    | concludes => exact absurd rfl hinvoked
    | provideResources => exact absurd rfl hinvoked
    | track => exact absurd rfl hinvoked
    | cleanupEffect i record hrecord =>
      unfold cleanupEffect at hinvoked
      split at hinvoked
      · exact absurd rfl hinvoked
      · next hnone =>
        have ha := (cleanupRefusal_eq_none hi record.id).1 hnone
        exact ⟨hg.exported ha, (quiescent_iff hi.tabled).2 (hi.producers_none ha).1⟩
    | cleanupFailed i record message =>
      refine absurd ?_ hinvoked
      cases caught message with
      | none => rfl
      | some logged => exact (carries_log _ logged).cleanups
  · intro i run' hstep hsame
    obtain ⟨record, hrecord, heq⟩ := Option.bind_eq_some_iff.1 hstep
    obtain rfl := Option.some.inj heq
    unfold cleanupEffect at hsame ⊢
    split
    · next diagnostic hrefusal =>
      have hadmitted : run.cleanupAdmitted ≠ true := fun ha => by
        rw [(cleanupRefusal_eq_none hi record.id).2 ha] at hrefusal
        cases hrefusal
      refine ⟨record, diagnostic, hrecord, ?_, ?_, rfl, rfl⟩
      · exact Bool.eq_false_iff.2 fun hattempted => hadmitted (hg.attempted i record hrecord hattempted)
      · exact (record?_updateRecord hrecord _ i).trans (if_pos rfl)
    · next hnone =>
      simp only [hnone] at hsame
      exact absurd hsame (by simp [updateRecord])

/-- A run that passes: its backend is ready, its hooks return a reference each, and its resource is
cleaned up and released. -/
def exampleEvents : List RunEvent :=
  let refs : List ArtifactRef := [⟨"file:///evidence", "digest", 1⟩]
  let hook (i : ℕ) : List RunEvent := [.invoke 0, .settle i (.ok ⟨true, refs⟩), .fulfilled 0]
  [.provideResources, .track "file", .composed 0] ++ hook 0 ++ [.composed 0, .beginMeasurement,
    .finish ⟨true, true, true, true⟩] ++ hook 1 ++ hook 2 ++ hook 3 ++ hook 4 ++
    [.cleanupEffect 0, .disposed 0 (.ok true), .verified 0 0 (.ok ⟨true, refs, none⟩),
      .allVerified 0, .loggingStopped 0]

/-- The run of the example after its first `n` events. -/
def exampleRun (n : ℕ) : Option OwnedRun :=
  (exampleEvents.take n).foldlM (step some) (.create "run" ["backend"])

theorem exampleRun_reachable (h : exampleRun n = some run) :
    Reachable Created (Takes (step some)) run :=
  .of_events (.of_start ⟨"run", ["backend"], rfl⟩) h

theorem cleanup_follows_export_exampleRun : ∃ run, exampleRun 21 = some run ∧
    ((run.step some (.cleanupEffect 0)).any fun run' => run'.cleanups ≠ run.cleanups) ∧
    (∀ run', Takes (step some) run run' → run'.cleanups ≠ run.cleanups →
      run.Exported ∧ run.Quiescent) ∧
    ∀ i run', run.step some (.cleanupEffect i) = some run' → run'.cleanups = run.cleanups →
      Refuses i run run' := by
  have hany : (exampleRun 21).any (fun run => (run.step some (.cleanupEffect 0)).any fun run' =>
      run'.cleanups ≠ run.cleanups) = true := by decide +kernel
  obtain ⟨run, hrun, hinvoked⟩ := (Option.any_eq_true _ _).1 hany
  exact ⟨run, hrun, hinvoked, cleanup_follows_export some run (exampleRun_reachable hrun)⟩

/-! ## A completion that says `passed` -/

/-- An error was recorded, or Cordis has logged one. -/
def Troubled (run : OwnedRun) : Prop := ¬ (run.errors = [] ∧ run.capturedErrors = [])

theorem Carries.troubled (h : Carries run run') (ht : run.Troubled) : run'.Troubled :=
  fun ⟨he, hc⟩ => ht ⟨h.errors he, h.captured hc⟩

/-- A cleanup error leaves a trace until the logging ends. -/
def Recorded (run : OwnedRun) : Prop :=
  run.logging = true → ∀ i record, run.record? i = some record → record.cleanupError ≠ none →
    run.Troubled

theorem troubled_log (hlogging : run.logging = true) (message : String) :
    (run.log message).Troubled := by
  unfold log
  rw [hlogging]
  split_ifs with hnot hroom hmem
  · cases hnot
  · rintro ⟨-, hc⟩
    simp at hc
  · rintro ⟨he, -⟩
    rw [he] at hmem
    cases hmem
  · rintro ⟨he, -⟩
    simp at he

theorem recorded_step (hcaught : ∀ message, caught message ≠ none) (h : Touches caught run run')
    (hr : run.Recorded) : run'.Recorded := by
  cases h with
  | carries _ hc =>
    intro hlogging i record hrecord herror
    rw [record?, hc.resources] at hrecord
    exact hc.troubled (hr (hc.logging hlogging) i record hrecord herror)
  | admits => exact hr
  | concludes => exact hr
  | provideResources => exact fun _ _ _ hrecord => by cases hrecord
  | track records id h =>
    intro hlogging i record hrecord herror
    rcases record?_track h id hrecord with hrecord | rfl
    · exact hr hlogging i record hrecord herror
    · exact absurd rfl herror
  | cleanupEffect i record h =>
    unfold cleanupEffect
    split
    · rintro - - - - - ⟨he, -⟩
      simp at he
    · intro hlogging
      exact forall_updateRecord h (hr hlogging) (hr hlogging i record h)
  | cleanupFailed i record message h =>
    obtain ⟨logged, hlogged⟩ := Option.ne_none_iff_exists'.1 (hcaught message)
    rw [hlogged]
    intro hlogging _ _ _ _
    exact troubled_log ((carries_log _ logged).logging hlogging) logged

/-- Where the outcomes of a run wait, a cleanup error has left a trace. -/
structure Reported (run : OwnedRun) : Prop where
  recorded : run.Recorded
  verify : ∀ complete outcomes, run.awaits = [.verify complete outcomes] →
    ∀ outcome, some outcome ∈ outcomes → outcome.cleanupError ≠ none → run.Troubled
  stopLogging : ∀ complete outcomes, run.awaits = [.stopLogging complete outcomes] →
    run.errors = [] → ∀ outcome ∈ outcomes, outcome.cleanupError = none
  passed : ∀ completion ∈ run.completions, completion.status = .passed →
    ∀ outcome ∈ completion.resourceOutcomes, outcome.cleanupError = none

/-- Before the cleanup is admitted there are no outcomes. -/
theorem Inv.reported (h : run.Inv) (ha : run.cleanupAdmitted = false) (hr : run.Recorded) :
    run.Reported := by
  have hcleaning (hc : run.Cleaning) : False := by
    rw [hc.admitted] at ha
    cases ha
  have hpassed : ∀ completion ∈ run.completions, completion.status ≠ .passed := by
    cases h.located with
    | rests _ hrests =>
      cases hrests with
      | ready hi => exact hi.unfinished.not_passed
      | measuring hi => exact hi.unfinished.not_passed
      | retained hc => exact hc.unfinished.not_passed
      | concluded hc => exact (hcleaning hc).elim
    | waits await _ hat =>
      cases await with
      | composition => exact hat.1.unfinished.not_passed
      | probe => exact hat.1.unfinished.not_passed
      | stage => exact hat.1.unfinished.not_passed
      | exportEvidence => exact hat.1.unfinished.not_passed
      | dispose => exact (hcleaning hat.1).elim
      | verify => exact (hcleaning hat.1).elim
      | stopLogging => exact (hcleaning hat.1).elim
  have hat {await : Await} (hawaits : run.awaits = [await]) : run.At await :=
    (h.located.at_ (t := 0) (by rw [hawaits]; rfl)).2.2
  exact ⟨hr, fun _ _ hawaits => (hcleaning (hat hawaits).1).elim,
    fun _ _ hawaits => (hcleaning (hat hawaits).1).elim,
    fun completion hm hstatus => absurd hstatus (hpassed completion hm)⟩

/-- A step that leaves the functions of a run where they wait. -/
theorem Reported.beside (h : run.Reported) (hr : run'.Recorded)
    (htroubled : run.Troubled → run'.Troubled) (herrors : run'.errors = [] → run.errors = [])
    (hawaits : run'.awaits = run.awaits) (hcompletions : run'.completions = run.completions) :
    run'.Reported where
  recorded := hr
  verify complete outcomes ha outcome hm herror :=
    htroubled (h.verify complete outcomes (hawaits.symm.trans ha) outcome hm herror)
  stopLogging complete outcomes ha he :=
    h.stopLogging complete outcomes (hawaits.symm.trans ha) (herrors he)
  passed := by
    rw [hcompletions]
    exact h.passed

theorem reported_verified (h : run.Reported) (hr : (run.verified disposalComplete outcomes).Recorded)
    (hawaits : run.awaits = [])
    (houtcomes : ∀ outcome ∈ outcomes, outcome.cleanupError ≠ none → run.Troubled) :
    (run.verified disposalComplete outcomes).Reported where
  recorded := hr
  verify complete' outcomes' ha := by
    simp [verified, suspend, hawaits] at ha
  stopLogging complete' outcomes' ha he outcome hm := by
    simp only [verified, suspend, hawaits, List.nil_append, List.cons.injEq, Await.stopLogging.injEq,
      and_true] at ha
    obtain ⟨-, rfl⟩ := ha
    simp only [verified, suspend, List.append_eq_nil_iff, List.map_eq_nil_iff] at he
    by_contra herror
    exact houtcomes outcome hm herror ⟨he.1.1.1, he.2⟩
  passed := h.passed

theorem Reported.carries (h : run.Reported) (hr : run'.Recorded) (hc : Carries run run')
    (hawaits : run'.awaits = run.awaits) (hcompletions : run'.completions = run.completions) :
    run'.Reported := h.beside hr hc.troubled hc.errors hawaits hcompletions

theorem mem_of_mapM_id {outcomes : List (Option ResourceOutcome)}
    {resourceOutcomes : List ResourceOutcome} (h : outcomes.mapM id = some resourceOutcomes) :
    ∀ outcome ∈ resourceOutcomes, some outcome ∈ outcomes := by
  induction outcomes generalizing resourceOutcomes with
  | nil =>
    obtain rfl := Option.some.inj h
    nofun
  | cons slot outcomes ih =>
    rw [List.mapM_cons] at h
    obtain ⟨first, hfirst, h⟩ := Option.bind_eq_some_iff.1 h
    obtain ⟨rest, hrest, h⟩ := Option.bind_eq_some_iff.1 h
    obtain rfl := Option.some.inj h
    intro outcome hm
    rcases List.mem_cons.1 hm with rfl | hm
    · exact List.mem_cons.2 (.inl hfirst.symm)
    · exact List.mem_cons_of_mem _ (ih hrest outcome hm)

theorem reported_concluded (h : run.Reported) (hr : (run.concluded disposalComplete outcomes).Recorded)
    (hawaits : run.awaits = [])
    (houtcomes : run.errors = [] → ∀ outcome ∈ outcomes, outcome.cleanupError = none) :
    (run.concluded disposalComplete outcomes).Reported where
  recorded := hr
  verify complete' outcomes' ha := by
    rw [show (run.concluded disposalComplete outcomes).awaits = [] from hawaits] at ha
    cases ha
  stopLogging complete' outcomes' ha := by
    rw [show (run.concluded disposalComplete outcomes).awaits = [] from hawaits] at ha
    cases ha
  passed completion hm hstatus := by
    rcases List.mem_append.1 hm with hm | hm
    · exact h.passed completion hm hstatus
    · obtain rfl := List.mem_singleton.1 hm
      dsimp only at hstatus
      split_ifs at hstatus with herrors
      exact houtcomes (by simpa using herrors)

/-- The verification of the resources begins without outcomes. -/
theorem reported_verifying (run : OwnedRun) (h : run.Reported) (hawaits : run.awaits = [])
    (hr : (run.verifying disposalComplete).Recorded) : (run.verifying disposalComplete).Reported := by
  unfold verifying at hr ⊢
  split at hr
  · exact reported_verified h hr hawaits nofun
  · refine ⟨hr, ?_, ?_, h.passed⟩
    · intro complete outcomes ha outcome hm
      simp only [suspend, hawaits, List.nil_append, List.cons.injEq, Await.verify.injEq,
        and_true] at ha
      rw [← ha.2] at hm
      simp at hm
    · intro complete outcomes ha
      simp [suspend, hawaits] at ha

theorem reported_disposed (h : run.Reported) (hawaits : run.awaits = []) (result : Except String Bool)
    (hr : (run.disposed result).Recorded) : (run.disposed result).Reported := by
  have hfail (diagnostic : String) :
      Reported { run.fail .disposing diagnostic with phase := .verifyingCleanup } := by
    have hc := (kept_fail run .disposing diagnostic).carries
    refine h.beside (fun hlogging i record hrecord herror => ?_) hc.troubled hc.errors rfl rfl
    exact hc.troubled (h.recorded hlogging i record hrecord herror)
  cases result with
  | error diagnostic => exact reported_verifying _ (hfail diagnostic) hawaits hr
  | ok complete =>
    cases complete with
    | false => exact reported_verifying _ (hfail _) hawaits hr
    | true =>
      exact reported_verifying { run.pass .disposing with phase := .verifyingCleanup }
        ⟨h.recorded, h.verify, h.stopLogging, h.passed⟩ hawaits hr

/-- What follows the end of a wait of a run whose cleanup is admitted. -/
theorem reported_continues (h : Continues run await run') (hat : run.At await)
    (ha : run.cleanupAdmitted = true) (hawaits : run.awaits = []) (hreported : run.Reported)
    (hr : run'.Recorded)
    (hverify : ∀ complete outcomes, await = .verify complete outcomes →
      ∀ outcome, some outcome ∈ outcomes → outcome.cleanupError ≠ none → run.Troubled)
    (hstop : ∀ complete outcomes, await = .stopLogging complete outcomes → run.errors = [] →
      ∀ outcome ∈ outcomes, outcome.cleanupError = none) : run'.Reported := by
  have hcompleting (hc : run.Completing) : run'.Reported := by
    rw [hc.admitted] at ha
    cases ha
  have hincipient (hi : run.Incipient) : run'.Reported := by
    rw [hi.admitted] at ha
    cases ha
  cases await with
  | composition => exact hincipient hat.1
  | probe => exact hincipient hat.1
  | stage => exact hcompleting hat.1
  | exportEvidence => exact hcompleting hat.1
  | dispose =>
    cases h with
    | disposed result => exact reported_disposed hreported hawaits result hr
    | fulfilled _ _ _ _ hcall => cases hcall
    | refused _ _ hcall => cases hcall
    | cancelled _ _ hcall => cases hcall
    | rejected _ _ _ _ hcall => cases hcall
  | verify complete outcomes =>
    cases h with
    | verified _ _ resourceOutcomes hall =>
      exact reported_verified hreported hr hawaits fun outcome hm =>
        hverify complete outcomes rfl outcome (mem_of_mapM_id hall outcome hm)
    | fulfilled _ _ _ _ hcall => cases hcall
    | refused _ _ hcall => cases hcall
    | cancelled _ _ hcall => cases hcall
    | rejected _ _ _ _ hcall => cases hcall
  | stopLogging complete outcomes =>
    cases h with
    | concluded => exact reported_concluded hreported hr hawaits (hstop complete outcomes rfl)
    | fulfilled _ _ _ _ hcall => cases hcall
    | refused _ _ hcall => cases hcall
    | cancelled _ _ hcall => cases hcall
    | rejected _ _ _ _ hcall => cases hcall

theorem reported_step (hcaught : ∀ message, caught message ≠ none) (h : Step caught run run')
    (hi : run.Inv) (hr : run.Reported) : run'.Reported := by
  have hrecorded := recorded_step hcaught (touches_of_step h hi) hr.recorded
  have hi' := inv_step h hi
  cases h with
  | provideResources => exact hr.beside hrecorded id id rfl rfl
  | interrupt i producer hproducer =>
    exact hr.carries hrecorded (carries_interrupt hproducer) rfl rfl
  | settle i producer result hproducer hlive =>
    exact hr.carries hrecorded (carries_settle hproducer hlive result)
      (awaits_settle run i producer result) (beside_settle hproducer result).completions
  | track => exact hr.beside hrecorded id id rfl rfl
  | cleanupEffect i record =>
    unfold cleanupEffect at hrecorded ⊢
    split at hrecorded
    · exact hr.beside hrecorded (fun _ hawaits => absurd hawaits.1 (by simp))
        (fun he => (List.append_eq_nil_iff.1 he).1) rfl rfl
    · exact hr.beside hrecorded id id rfl rfl
  | cleanupFailed i record message =>
    cases hlogged : caught message with
    | none => exact absurd hlogged (hcaught message)
    | some logged =>
      rw [hlogged] at hrecorded
      have hc := carries_log (run.updateRecord i { record with cleanupError := some message }) logged
      exact hr.beside hrecorded hc.troubled hc.errors (awaits_log _ logged)
        (beside_log _ logged).completions
  | log message =>
    exact hr.carries hrecorded (carries_log run message) (awaits_log run message)
      (beside_log run message).completions
  | verified t i disposalComplete outcomes record observation hawait hrecord =>
    obtain ⟨ha, rfl, -, -, hlogging, -⟩ := hi.located.at_ hawait
    refine ⟨hrecorded, fun complete outcomes' ha' outcome hm herror => ?_,
      fun complete outcomes' ha' => ?_, hr.passed⟩
    · simp only [ha, List.set_cons_zero, List.cons.injEq, Await.verify.injEq, and_true] at ha'
      obtain ⟨rfl, rfl⟩ := ha'
      rcases List.mem_or_eq_of_mem_set hm with hm | heq
      · exact hr.verify _ _ ha outcome hm herror
      · obtain rfl := Option.some.inj heq
        refine hr.recorded hlogging i record hrecord ?_
        cases observation <;> exact herror
    · simp [ha] at ha'
  | beginMeasurement hphase =>
    obtain ⟨-, hrests⟩ := hi.awaits_nil (.inr hphase)
    cases hrests with
    | ready hincipient => exact hi'.reported hincipient.admitted hrecorded
    | measuring hincipient => exact hi'.reported hincipient.admitted hrecorded
    | retained hc => exact hi'.reported hc.admitted hrecorded
    | concluded _ hp => simp [hphase] at hp
  | finish hooks hissued =>
    cases hcompleted : run.completed with
    | true => rwa [finish, if_pos hcompleted]
    | false =>
      obtain ⟨-, hincipient, -⟩ := hi.incipient hcompleted hissued
      exact hi'.reported ((carries_finish run hooks).admitted.trans hincipient.admitted) hrecorded
  | retryExport exportEvidence hphase =>
    obtain ⟨-, hrests⟩ := hi.awaits_nil (.inl hphase)
    have hkept := kept_resume run exportEvidence
    cases hrests with
    | ready hincipient => exact hi'.reported (hkept.admitted.trans hincipient.admitted) hrecorded
    | measuring hincipient => exact hi'.reported (hkept.admitted.trans hincipient.admitted) hrecorded
    | retained hc => exact hi'.reported (hkept.admitted.trans hc.admitted) hrecorded
    | concluded _ hp => simp [hphase] at hp
  | invoke t await hawait hcall =>
    obtain ⟨-, -, hat⟩ := hi.located.at_ hawait
    cases await with
    | probe => exact hi'.reported hat.1.admitted hrecorded
    | stage => exact hi'.reported hat.1.admitted hrecorded
    | exportEvidence => exact hi'.reported hat.1.admitted hrecorded
    | _ => cases hcall
  | continues t await _ hawait hc =>
    obtain ⟨ha, rfl, hat⟩ := hi.located.at_ hawait
    have hat' := (beside_awaits run (run.awaits.eraseIdx 0)).at_ hat
    have hwoken : run.awaits.eraseIdx 0 = [] := by rw [ha]; rfl
    cases hadmitted : run.cleanupAdmitted with
    | true =>
      refine reported_continues hc hat' hadmitted hwoken ⟨hr.recorded, ?_, ?_, hr.passed⟩ hrecorded
        ?_ ?_
      · simp [hwoken]
      · simp [hwoken]
      · rintro complete outcomes rfl
        exact hr.verify complete outcomes ha
      · rintro complete outcomes rfl
        exact hr.stopLogging complete outcomes ha
    | false =>
      rcases carries_continues hc hat' with hcarries | ⟨-, rfl⟩ | ⟨_, _, rfl, rfl⟩
      · exact hi'.reported (hcarries.admitted.trans hadmitted) hrecorded
      · refine ⟨hrecorded, ?_, ?_, hr.passed⟩
        · simp [allowCleanup, suspend, pass, hwoken]
        · simp [allowCleanup, suspend, pass, hwoken]
      · exact absurd (hat.1.admitted.symm.trans hadmitted) Bool.true_eq_false.mp

theorem reported_reachable (hcaught : ∀ message, caught message ≠ none)
    (h : Reachable Created (Takes (step caught)) run) : run.Reported := by
  refine h.builds ?_ ?_
  · rintro run hcreated
    have hi := inv_created hcreated
    obtain ⟨runId, bindings, rfl⟩ := hcreated
    exact hi.reported rfl fun _ _ _ hrecord => by cases hrecord
  · rintro run run' hr ⟨event, hstep⟩ hreported
    exact reported_step hcaught (step_of_event hstep) (inv_reachable hr) hreported

/-! ## Main result -/

theorem Invoked.taken_of_le (h : Invoked calls n) (hn : n ≤ m) (hm : m ≤ 3) :
    (calls.filter (· ∈ stagePhases)).Sublist stagePhases ∧ (.exportingEvidence ∈ calls → m = 3) :=
  ⟨h.stages.trans (List.take_sublist n stagePhases), fun he => by
    have := h.taken he
    omega⟩

theorem Inv.invoked (h : run.Inv) : (run.invoked.filter (· ∈ stagePhases)).Sublist stagePhases ∧
    (.exportingEvidence ∈ run.invoked → run.nextStage = 3) := by
  have hincipient (hi : run.Incipient) := hi.invoked.taken_of_le (Nat.zero_le run.nextStage)
    (hi.nextStage ▸ Nat.zero_le 3)
  have hcleaning (hc : run.Cleaning) := hc.invoked.taken_of_le (Nat.le_of_eq hc.nextStage.symm) (Nat.le_of_eq hc.nextStage)
  cases h.located with
  | rests _ hr =>
    cases hr with
    | ready hi => exact hincipient hi
    | measuring hi => exact hincipient hi
    | retained hc _ _ hi => exact hi.taken_of_le (Nat.le_refl _) hc.nextStage
    | concluded hc => exact hcleaning hc
  | waits await _ hat =>
    cases await with
    | composition => exact hincipient hat.1
    | probe => exact hincipient hat.1
    | stage =>
      obtain ⟨hc, -, -, -, -, -, hi⟩ := hat
      refine hi.taken_of_le ?_ hc.nextStage
      split_ifs <;> omega
    | exportEvidence =>
      obtain ⟨hc, -, hnext, -, -, hi⟩ := hat
      exact hi.taken_of_le (Nat.le_of_eq hnext.symm) hc.nextStage
    | dispose => exact hcleaning hat.1
    | verify => exact hcleaning hat.1
    | stopLogging => exact hcleaning hat.1

theorem Inv.passed (h : run.Inv) {completion : RunCompletion} (hm : completion ∈ run.completions)
    (hstatus : completion.status = .passed) :
    completion.Flawless ∧ run.phases = completion.phases := by
  have hunfinished (hu : run.Unfinished) : completion.Flawless ∧ run.phases = completion.phases :=
    absurd hstatus (hu.not_passed completion hm)
  cases h.located with
  | rests _ hr =>
    cases hr with
    | ready hi => exact hunfinished hi.unfinished
    | measuring hi => exact hunfinished hi.unfinished
    | retained hc => exact hunfinished hc.unfinished
    | concluded _ _ _ hpassed =>
      obtain ⟨hflawless, -, hphases⟩ := hpassed completion hm hstatus
      exact ⟨hflawless, hphases⟩
  | waits await _ hat =>
    cases await with
    | composition => exact hunfinished hat.1.unfinished
    | probe => exact hunfinished hat.1.unfinished
    | stage => exact hunfinished hat.1.unfinished
    | exportEvidence => exact hunfinished hat.1.unfinished
    | dispose => exact hunfinished hat.2.1
    | verify => exact hunfinished hat.2.1
    | stopLogging => exact hunfinished hat.2.1

/-- Stage hooks are invoked at most once and in order, an export only after every stage was taken,
and no two callbacks are ever live together. A completion that says `passed` is flawless, has no
cleanup error, and belongs to a run that was never retained. By `hcaught`, Cordis logs something
about every disposer that rejects. -/
theorem completion_passed (hcaught : ∀ message, caught message ≠ none)
    (h : Reachable Created (Takes (step caught)) run) :
    (run.invoked.filter (· ∈ stagePhases)).Sublist stagePhases ∧
    (.exportingEvidence ∈ run.invoked → run.nextStage = stagePhases.length) ∧
    (∀ (i j : ℕ) (p q : Producer), run.produced[i]? = some p → run.produced[j]? = some q →
      p.live → q.live → i = j) ∧
    ∀ completion ∈ run.completions, completion.status = .passed →
      completion.Flawless ∧
      (∀ outcome ∈ completion.resourceOutcomes, outcome.cleanupError = none) ∧
      ∀ observation ∈ run.phases, observation.phase ≠ .retained := by
  have hi := inv_reachable h
  obtain ⟨hstages, hexport⟩ := hi.invoked
  refine ⟨hstages, hexport, fun i j p q hp hq hlive hlive' => ?_, fun completion hm hstatus => ?_⟩
  · have hentry := (hi.tabled i).2 ⟨p, hp, hlive⟩
    have hentry' := (hi.tabled j).2 ⟨q, hq, hlive'⟩
    exact Option.some.inj (hentry.symm.trans hentry')
  · obtain ⟨hflawless, hphases⟩ := hi.passed hm hstatus
    refine ⟨hflawless, (reported_reachable hcaught h).passed completion hm hstatus, ?_⟩
    rw [hphases, hflawless.phases]
    decide

theorem completion_passed_exampleRun : ∃ run, exampleRun 30 = some run ∧
    (run.completions.any fun completion => completion.status = .passed) ∧
    (run.invoked.filter (· ∈ stagePhases)).Sublist stagePhases ∧
    (.exportingEvidence ∈ run.invoked → run.nextStage = stagePhases.length) ∧
    (∀ (i j : ℕ) (p q : Producer), run.produced[i]? = some p → run.produced[j]? = some q →
      p.live → q.live → i = j) ∧
    ∀ completion ∈ run.completions, completion.status = .passed →
      completion.Flawless ∧
      (∀ outcome ∈ completion.resourceOutcomes, outcome.cleanupError = none) ∧
      ∀ observation ∈ run.phases, observation.phase ≠ .retained := by
  have hany : (exampleRun 30).any (fun run => run.completions.any fun completion =>
      completion.status = .passed) = true := by decide +kernel
  obtain ⟨run, hrun, hpassed⟩ := (Option.any_eq_true _ _).1 hany
  exact ⟨run, hrun, hpassed, completion_passed (fun message => Option.some_ne_none message) (exampleRun_reachable hrun)⟩

end OwnedRun

end RoboticsRuntime.Host
