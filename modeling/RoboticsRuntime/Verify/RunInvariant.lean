import RoboticsRuntime.Theory.Table
import RoboticsRuntime.Theory.Transition
import RoboticsRuntime.Verify.RunSteps

/-!
# The invariant of an owned run

Where the functions of a run wait determines what has happened so far: at most one function waits,
it has the only live callback, each stage was taken from the list before its callback was invoked,
and as long as no error was recorded the phases are those of a run that passes.
-/

namespace RoboticsRuntime.Host
open Theory

/-- The phases of a run that passes, in their order. -/
def lifecycle : List RunPhase :=
  [.preloading, .ready, .measuring, .closingMeasurement, .capturingLastState, .drainingRecorders,
    .exportingEvidence, .disposing, .verifyingCleanup, .completed]

/-- The first observations of a run that passes. -/
def passedPhases (n : ℕ) : List PhaseObservation :=
  (lifecycle.take n).map fun phase => ⟨phase, .passed, none⟩

/-- The phases of the hooks `closeMeasurement`, `captureLastState` and `drainRecorders`. -/
def stagePhases : List RunPhase := [.closingMeasurement, .capturingLastState, .drainingRecorders]

/-- What a completion that says `passed` has. -/
structure RunCompletion.Flawless (completion : RunCompletion) : Prop where
  errors : completion.errors = []
  observed : completion.resourceOutcomes ≠ []
  outcomes : ∀ outcome ∈ completion.resourceOutcomes,
    outcome.evidenced ∧ outcome.reportedError = none
  phases : completion.phases = passedPhases 10

namespace OwnedRun
variable {run run' : OwnedRun} {caught : String → Option String}

/-! ## The invariant -/

/-- The callbacks that were invoked, in the order of their invocation. -/
def invoked (run : OwnedRun) : List RunPhase := run.produced.map (·.phase)

/-- An export has settled with a reference. -/
def Exported (run : OwnedRun) : Prop :=
  ∃ producer ∈ run.produced, producer.phase = .exportingEvidence ∧
    ∃ value, producer.settled = some (.ok value) ∧ value.evidenceRefs ≠ []

/-- No callback of the run is live. -/
def Quiescent (run : OwnedRun) : Prop := ∀ producer ∈ run.produced, producer.live = false

/-- The table has the live callback, and no other callback is live. -/
def Tabled (run : OwnedRun) : Prop :=
  ∀ i, run.producers = some i ↔ ∃ producer, run.produced[i]? = some producer ∧ producer.live

/-- Without an error the phases are the first `n` of a run that passes. -/
def Expects (run : OwnedRun) (n : ℕ) : Prop := run.errors = [] → run.phases = passedPhases n

/-- Stage hooks were invoked at most once, in order, among the first `n`, and an export only after
all of them were taken. -/
structure Invoked (calls : List RunPhase) (n : ℕ) : Prop where
  stages : (calls.filter (· ∈ stagePhases)).Sublist (stagePhases.take n)
  taken : .exportingEvidence ∈ calls → n = 3

/-- What a function knows that waits for a callback. -/
def Calling (run : OwnedRun) (phase : RunPhase) : Call → Prop
  | .refused => False
  | .queued => run.producers = none
  | .running i => run.invoked[i]? = some phase ∧ (run.producers = none ∨ run.producers = some i)

/-- No completion says `passed`, and the run ID is reserved. -/
structure Unfinished (run : OwnedRun) : Prop where
  not_passed : ∀ completion ∈ run.completions, completion.status ≠ .passed
  releases : run.releases = 0

/-- The run is not being completed yet. -/
structure Incipient (run : OwnedRun) : Prop where
  unfinished : run.Unfinished
  completed : run.completed = false
  stages : run.stages = []
  nextStage : run.nextStage = 0
  admitted : run.cleanupAdmitted = false
  logging : run.logging = true
  invoked : Invoked run.invoked 0

/-- The run is being completed, and its export has not succeeded. -/
structure Completing (run : OwnedRun) : Prop where
  unfinished : run.Unfinished
  stages : run.stages.map (·.1) = stagePhases
  nextStage : run.nextStage ≤ 3
  admitted : run.cleanupAdmitted = false
  logging : run.logging = true

/-- The export has succeeded, and no callback is invoked any more. -/
structure Cleaning (run : OwnedRun) : Prop where
  stages : run.stages.map (·.1) = stagePhases
  nextStage : run.nextStage = 3
  admitted : run.cleanupAdmitted = true
  producers : run.producers = none
  invoked : Invoked run.invoked 3

/-- The fiber was observed as `DISPOSED`. -/
def Disposed (run : OwnedRun) : Prop := ⟨.disposing, .passed, none⟩ ∈ run.phases

/-- What holds where a function waits. -/
def At (run : OwnedRun) : Await → Prop
  | .composition _ => run.Incipient ∧ run.issued = false ∧ run.phase = .preloading ∧
      run.producers = none ∧ run.Expects 0
  | .probe call _ _ => run.Incipient ∧ run.issued = false ∧ run.phase = .preloading ∧
      run.Calling .preloading call ∧ run.Expects 0
  | .stage phase call _ => run.Completing ∧ run.phase = phase ∧ 1 ≤ run.nextStage ∧
      stagePhases[run.nextStage - 1]? = some phase ∧ run.Calling phase call ∧
      run.Expects (2 + run.nextStage) ∧
      Invoked run.invoked (if call = .queued then run.nextStage - 1 else run.nextStage)
  | .exportEvidence call => run.Completing ∧ run.phase = .exportingEvidence ∧ run.nextStage = 3 ∧
      run.Calling .exportingEvidence call ∧ run.Expects 6 ∧ Invoked run.invoked 3
  | .dispose => run.Cleaning ∧ run.Unfinished ∧ run.logging = true ∧ run.phase = .disposing ∧
      run.Expects 7
  | .verify disposalComplete _ => run.Cleaning ∧ run.Unfinished ∧ run.logging = true ∧
      run.phase = .verifyingCleanup ∧ run.Expects 8 ∧ (disposalComplete = true → run.Disposed)
  | .stopLogging disposalComplete outcomes => run.Cleaning ∧ run.Unfinished ∧
      run.phase = .verifyingCleanup ∧ (disposalComplete = true → run.Disposed) ∧
      (run.errors = [] → outcomes ≠ [] → run.phases = passedPhases 9 ∧
        ∀ outcome ∈ outcomes, outcome.evidenced ∧ outcome.reportedError = none)

/-- What holds where no function waits. -/
inductive Rests (run : OwnedRun) : Prop where
  | ready (incipient : run.Incipient) (phase : run.phase = .ready)
    (producers : run.producers = none) (phases : run.Expects 2)
  | measuring (incipient : run.Incipient) (phase : run.phase = .measuring)
    (producers : run.producers = none) (phases : run.Expects 3)
  | retained (completing : run.Completing) (phase : run.phase = .retained) (errors : run.errors ≠ [])
    (invoked : Invoked run.invoked run.nextStage)
  | concluded (cleaning : run.Cleaning) (phase : run.phase = .completed ∨ run.phase = .error)
    (releases : run.releases ≤ 1)
    (passed : ∀ completion ∈ run.completions, completion.status = .passed →
      completion.Flawless ∧ run.phase = .completed ∧ run.phases = completion.phases)

/-- At most one function waits. -/
inductive Located (run : OwnedRun) : Prop where
  | rests (awaits : run.awaits = []) (rests : run.Rests)
  | waits (await : Await) (awaits : run.awaits = [await]) (at_ : run.At await)

/-- The invariant of a run. -/
structure Inv (run : OwnedRun) : Prop where
  tabled : run.Tabled
  located : run.Located
  completed : run.completed = true ↔ run.stages ≠ []

/-! ## Events beside the functions of a run -/

/-- The run has changed beside its functions: a callback may have settled, and errors were added. -/
structure Beside (run run' : OwnedRun) : Prop where
  phase : run'.phase = run.phase
  phases : run'.phases = run.phases
  completed : run'.completed = run.completed
  stages : run'.stages = run.stages
  nextStage : run'.nextStage = run.nextStage
  logging : run'.logging = run.logging
  admitted : run'.cleanupAdmitted = run.cleanupAdmitted
  releases : run'.releases = run.releases
  issued : run'.issued = run.issued
  completions : run'.completions = run.completions
  invoked : run'.invoked = run.invoked
  errors : run'.errors = [] → run.errors = []
  producers : run'.producers = run.producers ∨ run'.producers = none

namespace Beside

theorem expects (h : Beside run run') (hn : run.Expects n) : run'.Expects n := fun he => by
  rw [h.phases]
  exact hn (h.errors he)

theorem producers_none (h : Beside run run') (hn : run.producers = none) :
    run'.producers = none := h.producers.elim (·.trans hn) id

theorem calling (h : Beside run run') {phase : RunPhase} (hc : run.Calling phase call) :
    run'.Calling phase call := by
  cases call with
  | refused => exact hc
  | queued => exact h.producers_none hc
  | running i =>
    obtain ⟨hi, htable⟩ := hc
    refine ⟨by rw [h.invoked]; exact hi, ?_⟩
    rcases h.producers with heq | hnone
    · rwa [heq]
    · exact .inl hnone

theorem unfinished (h : Beside run run') (hu : run.Unfinished) : run'.Unfinished where
  not_passed := by rw [h.completions]; exact hu.not_passed
  releases := h.releases.trans hu.releases

theorem incipient (h : Beside run run') (hi : run.Incipient) : run'.Incipient where
  unfinished := h.unfinished hi.unfinished
  completed := h.completed.trans hi.completed
  stages := h.stages.trans hi.stages
  nextStage := h.nextStage.trans hi.nextStage
  admitted := h.admitted.trans hi.admitted
  logging := h.logging.trans hi.logging
  invoked := by rw [h.invoked]; exact hi.invoked

theorem completing (h : Beside run run') (hc : run.Completing) : run'.Completing where
  unfinished := h.unfinished hc.unfinished
  stages := by rw [h.stages]; exact hc.stages
  nextStage := by rw [h.nextStage]; exact hc.nextStage
  admitted := h.admitted.trans hc.admitted
  logging := h.logging.trans hc.logging

theorem cleaning (h : Beside run run') (hc : run.Cleaning) : run'.Cleaning where
  stages := by rw [h.stages]; exact hc.stages
  nextStage := h.nextStage.trans hc.nextStage
  admitted := h.admitted.trans hc.admitted
  producers := h.producers_none hc.producers
  invoked := by rw [h.invoked]; exact hc.invoked

theorem disposed (h : Beside run run') (hd : run.Disposed) : run'.Disposed := by
  unfold Disposed
  rw [h.phases]
  exact hd

theorem at_ (h : Beside run run') {await : Await} (ha : run.At await) : run'.At await := by
  cases await with
  | composition bindings =>
    obtain ⟨hi, hissued, hphase, hnone, hexpects⟩ := ha
    exact ⟨h.incipient hi, h.issued.trans hissued, h.phase.trans hphase, h.producers_none hnone,
      h.expects hexpects⟩
  | probe call binding bindings =>
    obtain ⟨hi, hissued, hphase, hcalling, hexpects⟩ := ha
    exact ⟨h.incipient hi, h.issued.trans hissued, h.phase.trans hphase, h.calling hcalling,
      h.expects hexpects⟩
  | stage phase call exports =>
    obtain ⟨hc, hphase, hpos, hstage, hcalling, hexpects, hinvoked⟩ := ha
    refine ⟨h.completing hc, h.phase.trans hphase, ?_, ?_, h.calling hcalling, ?_, ?_⟩ <;>
      rw [h.nextStage]
    · exact hpos
    · exact hstage
    · exact h.expects hexpects
    · rw [h.invoked]
      exact hinvoked
  | exportEvidence call =>
    obtain ⟨hc, hphase, hnext, hcalling, hexpects, hinvoked⟩ := ha
    exact ⟨h.completing hc, h.phase.trans hphase, h.nextStage.trans hnext, h.calling hcalling,
      h.expects hexpects, by rw [h.invoked]; exact hinvoked⟩
  | dispose =>
    obtain ⟨hc, hu, hlogging, hphase, hexpects⟩ := ha
    exact ⟨h.cleaning hc, h.unfinished hu, h.logging.trans hlogging, h.phase.trans hphase,
      h.expects hexpects⟩
  | verify disposalComplete outcomes =>
    obtain ⟨hc, hu, hlogging, hphase, hexpects, hdisposed⟩ := ha
    exact ⟨h.cleaning hc, h.unfinished hu, h.logging.trans hlogging, h.phase.trans hphase,
      h.expects hexpects, fun hd => h.disposed (hdisposed hd)⟩
  | stopLogging disposalComplete outcomes =>
    obtain ⟨hc, hu, hphase, hdisposed, hpassed⟩ := ha
    refine ⟨h.cleaning hc, h.unfinished hu, h.phase.trans hphase,
      fun hd => h.disposed (hdisposed hd), fun he => ?_⟩
    rw [h.phases]
    exact hpassed (h.errors he)

theorem rests (h : Beside run run') (hr : run.Rests) : run'.Rests := by
  cases hr with
  | ready hi hphase hnone hexpects =>
    exact .ready (h.incipient hi) (h.phase.trans hphase) (h.producers_none hnone)
      (h.expects hexpects)
  | measuring hi hphase hnone hexpects =>
    exact .measuring (h.incipient hi) (h.phase.trans hphase) (h.producers_none hnone)
      (h.expects hexpects)
  | retained hc hphase herrors hinvoked =>
    exact .retained (h.completing hc) (h.phase.trans hphase) (fun he => herrors (h.errors he))
      (by rw [h.invoked, h.nextStage]; exact hinvoked)
  | concluded hc hphase hreleases hpassed =>
    refine .concluded (h.cleaning hc) (by rw [h.phase]; exact hphase)
      (by rw [h.releases]; exact hreleases) ?_
    rw [h.completions, h.phase, h.phases]
    exact hpassed

theorem inv (h : Beside run run') (hi : run.Inv) (htabled : run'.Tabled)
    (hawaits : run'.awaits = run.awaits) : run'.Inv where
  tabled := htabled
  located := by
    cases hi.located with
    | rests ha hr => exact .rests (hawaits.trans ha) (h.rests hr)
    | waits await ha hat => exact .waits await (hawaits.trans ha) (h.at_ hat)
  completed := by
    rw [h.completed, h.stages]
    exact hi.completed

end Beside

/-! ### The table -/

theorem invoked_set (h : run.produced[i]? = some producer)
    (hphase : producer'.phase = producer.phase) :
    (run.produced.set i producer').map (·.phase) = run.invoked := map_set_of_eq h hphase

/-- The callbacks that are live when one is replaced. -/
theorem live_set (h : run.produced[i]? = some producer) (j : ℕ) :
    (∃ p, (run.produced.set i producer')[j]? = some p ∧ p.live) ↔
      if j = i then producer'.live = true
      else ∃ p, run.produced[j]? = some p ∧ p.live := by
  obtain ⟨hi, -⟩ := List.getElem?_eq_some_iff.1 h
  rw [List.getElem?_set]
  split_ifs with hij hji hji
  · simp
  · exact absurd hij.symm hji
  · exact absurd hji.symm hij
  · rfl

theorem tabled_settle (h : run.Tabled) (hproducer : run.produced[i]? = some producer)
    (hlive : producer.live) (result : Except Rejection BackendReadiness) :
    (run.settle i producer result).Tabled := by
  have hentry : run.producers = some i := (h i).2 ⟨producer, hproducer, hlive⟩
  have hsettled : Tabled { run with
      produced := run.produced.set i { producer with settled := some result }
      producers := none } := by
    intro j
    rw [live_set hproducer]
    split_ifs with hji
    · simp [Producer.live]
    · rw [← h j, hentry, Option.some_inj]
      exact iff_of_false nofun fun hij => hji hij.symm
  unfold settle
  split
  · exact hsettled
  · exact hsettled
  · split_ifs
    · exact hsettled
    · exact hsettled

theorem tabled_interrupt (h : run.Tabled) (hproducer : run.produced[i]? = some producer) :
    (run.interrupt i producer).Tabled := by
  intro j
  refine (h j).trans (Iff.trans ?_ (live_set hproducer j).symm)
  split_ifs with hji
  · subst hji
    simp [hproducer, Producer.live]
  · rfl

theorem tabled_invoke (h : run.Tabled) (hnone : run.producers = none) (await : Await) :
    (run.invoke await).Tabled := by
  intro j
  have hquiet : ¬ ∃ p, run.produced[j]? = some p ∧ p.live := by
    rw [← h j, hnone]
    nofun
  simp only [invoke, Option.some_inj]
  constructor
  · rintro rfl
    exact ⟨_, List.getElem?_concat_length, rfl⟩
  · rintro ⟨p, hp, hlive⟩
    rcases Nat.lt_or_ge j run.produced.length with hj | hj
    · rw [List.getElem?_append_left hj] at hp
      exact absurd ⟨p, hp, hlive⟩ hquiet
    · obtain ⟨hlt, -⟩ := List.getElem?_eq_some_iff.1 hp
      rw [List.length_append, List.length_singleton] at hlt
      omega

theorem pendingPhase?_eq_none (h : run.Tabled) :
    run.pendingPhase? = none ↔ run.producers = none := by
  unfold pendingPhase?
  cases hentry : run.producers with
  | none => simp
  | some i =>
    obtain ⟨producer, hproducer, -⟩ := (h i).1 hentry
    simp [hproducer]

theorem quiescent_iff (h : run.Tabled) : run.Quiescent ↔ run.producers = none := by
  rw [Option.eq_none_iff_forall_ne_some]
  constructor
  · rintro hquiet i hentry
    obtain ⟨producer, hproducer, hlive⟩ := (h i).1 hentry
    rw [hquiet producer (List.mem_of_getElem? hproducer)] at hlive
    cases hlive
  · intro hnone producer hproducer
    obtain ⟨i, hi⟩ := List.mem_iff_getElem?.1 hproducer
    rw [Bool.eq_false_iff]
    exact fun hlive => hnone i ((h i).2 ⟨producer, hi, hlive⟩)

/-! ### Frames -/

theorem beside_settle (hproducer : run.produced[i]? = some producer)
    (result : Except Rejection BackendReadiness) : Beside run (run.settle i producer result) := by
  have hinvoked : (run.produced.set i { producer with settled := some result }).map (·.phase) =
      run.invoked := invoked_set hproducer rfl
  unfold settle
  split
  · exact ⟨rfl, rfl, rfl, rfl, rfl, rfl, rfl, rfl, rfl, rfl, hinvoked, id, .inr rfl⟩
  · exact ⟨rfl, rfl, rfl, rfl, rfl, rfl, rfl, rfl, rfl, rfl, hinvoked, id, .inr rfl⟩
  · split_ifs
    · exact ⟨rfl, rfl, rfl, rfl, rfl, rfl, rfl, rfl, rfl, rfl, hinvoked,
        fun h => (List.append_eq_nil_iff.1 h).1, .inr rfl⟩
    · exact ⟨rfl, rfl, rfl, rfl, rfl, rfl, rfl, rfl, rfl, rfl, hinvoked, id, .inr rfl⟩

theorem beside_interrupt (hproducer : run.produced[i]? = some producer) :
    Beside run (run.interrupt i producer) :=
  ⟨rfl, rfl, rfl, rfl, rfl, rfl, rfl, rfl, rfl, rfl, invoked_set hproducer rfl, id, .inl rfl⟩

theorem beside_log (run : OwnedRun) (message : String) : Beside run (run.log message) := by
  unfold log
  split_ifs
  · exact ⟨rfl, rfl, rfl, rfl, rfl, rfl, rfl, rfl, rfl, rfl, rfl, id, .inl rfl⟩
  · exact ⟨rfl, rfl, rfl, rfl, rfl, rfl, rfl, rfl, rfl, rfl, rfl, id, .inl rfl⟩
  · exact ⟨rfl, rfl, rfl, rfl, rfl, rfl, rfl, rfl, rfl, rfl, rfl, id, .inl rfl⟩
  · exact ⟨rfl, rfl, rfl, rfl, rfl, rfl, rfl, rfl, rfl, rfl, rfl,
      fun h => (List.append_eq_nil_iff.1 h).1, .inl rfl⟩

theorem awaits_settle (run : OwnedRun) (i : ℕ) (producer : Producer)
    (result : Except Rejection BackendReadiness) :
    (run.settle i producer result).awaits = run.awaits := by
  unfold settle
  split
  · rfl
  · rfl
  · split_ifs <;> rfl

theorem awaits_log (run : OwnedRun) (message : String) :
    (run.log message).awaits = run.awaits := by
  unfold log
  split_ifs <;> rfl

/-- An update of the resources, of what was invoked on them and of the errors. -/
theorem beside_resources (run : OwnedRun) (resources : Option (List ResourceRecord))
    (cleanups : List String) {errors : List String} (herrors : errors = [] → run.errors = []) :
    Beside run { run with resources := resources, cleanups := cleanups, errors := errors } :=
  ⟨rfl, rfl, rfl, rfl, rfl, rfl, rfl, rfl, rfl, rfl, rfl, herrors, .inl rfl⟩

/-- A change of where the functions of a run wait. -/
theorem beside_awaits (run : OwnedRun) (awaits : List Await) :
    Beside run { run with awaits := awaits } :=
  ⟨rfl, rfl, rfl, rfl, rfl, rfl, rfl, rfl, rfl, rfl, rfl, id, .inl rfl⟩

/-! ## The functions of a run -/

/-- What the functions of a run keep up to their next wait. -/
structure Kept (run run' : OwnedRun) : Prop where
  runId : run'.runId = run.runId
  resources : run'.resources = run.resources
  stages : run'.stages = run.stages
  completed : run'.completed = run.completed
  logging : run'.logging = run.logging
  producers : run'.producers = run.producers
  admitted : run'.cleanupAdmitted = run.cleanupAdmitted
  produced : run'.produced = run.produced
  cleanups : run'.cleanups = run.cleanups
  releases : run'.releases = run.releases
  captured : run'.capturedErrors = run.capturedErrors
  errors : run'.errors = [] → run.errors = []

theorem Kept.trans (h : Kept run run₁) (h' : Kept run₁ run') : Kept run run' where
  runId := h'.runId.trans h.runId
  resources := h'.resources.trans h.resources
  stages := h'.stages.trans h.stages
  completed := h'.completed.trans h.completed
  logging := h'.logging.trans h.logging
  producers := h'.producers.trans h.producers
  admitted := h'.admitted.trans h.admitted
  produced := h'.produced.trans h.produced
  cleanups := h'.cleanups.trans h.cleanups
  releases := h'.releases.trans h.releases
  captured := h'.captured.trans h.captured
  errors he := h.errors (h'.errors he)

theorem Kept.tabled (h : Kept run run') (ht : run.Tabled) : run'.Tabled := by
  intro i
  rw [h.producers, h.produced]
  exact ht i

theorem kept_phase (run : OwnedRun) (phase : RunPhase) (nextStage : ℕ) :
    Kept run { run with phase := phase, nextStage := nextStage } :=
  ⟨rfl, rfl, rfl, rfl, rfl, rfl, rfl, rfl, rfl, rfl, rfl, id⟩

theorem kept_fail (run : OwnedRun) (phase : RunPhase) (diagnostic : String) :
    Kept run (run.fail phase diagnostic) :=
  ⟨rfl, rfl, rfl, rfl, rfl, rfl, rfl, rfl, rfl, rfl, rfl,
    fun h => (List.append_eq_nil_iff.1 h).1⟩

theorem kept_retained (run : OwnedRun) (diagnostic : String) : Kept run (run.retained diagnostic) :=
  ⟨rfl, rfl, rfl, rfl, rfl, rfl, rfl, rfl, rfl, rfl, rfl, id⟩

theorem kept_exportFailed (run : OwnedRun) (diagnostic : String) :
    Kept run (run.exportFailed diagnostic) := (kept_fail run _ _).trans (kept_retained _ _)

theorem kept_exportAndCleanup (run : OwnedRun) (exportEvidence : Bool) :
    Kept run (run.exportAndCleanup exportEvidence) := by
  unfold exportAndCleanup
  split_ifs
  · exact ⟨rfl, rfl, rfl, rfl, rfl, rfl, rfl, rfl, rfl, rfl, rfl, id⟩
  · exact (kept_phase run .exportingEvidence run.nextStage).trans (kept_exportFailed _ _)

theorem kept_resumeStages (exportEvidence : Bool) (stages : List (RunPhase × Bool))
    (run : OwnedRun) : Kept run (resumeStages exportEvidence stages run) := by
  induction stages generalizing run with
  | nil => exact kept_exportAndCleanup run exportEvidence
  | cons stage stages ih =>
    unfold resumeStages
    split_ifs
    · exact ⟨rfl, rfl, rfl, rfl, rfl, rfl, rfl, rfl, rfl, rfl, rfl, id⟩
    · exact ((kept_phase run stage.1 (run.nextStage + 1)).trans (kept_fail _ _ _)).trans (ih _)

theorem kept_resume (run : OwnedRun) (exportEvidence : Bool) : Kept run (run.resume exportEvidence) := by
  unfold resume
  split
  · exact kept_retained run _
  · exact kept_resumeStages exportEvidence _ run

theorem exportAndCleanup_true (run : OwnedRun) : run.exportAndCleanup true =
    suspend { run with phase := .exportingEvidence } (.exportEvidence run.produce) := rfl

theorem exportAndCleanup_false (run : OwnedRun) : run.exportAndCleanup false =
    exportFailed { run with phase := .exportingEvidence } "evidence export producer is missing" :=
  rfl

theorem resumeStages_cons_true (run : OwnedRun) (exports : Bool) (phase : RunPhase)
    (stages : List (RunPhase × Bool)) : resumeStages exports ((phase, true) :: stages) run =
    suspend { run with nextStage := run.nextStage + 1, phase := phase }
      (.stage phase run.produce exports) := rfl

theorem resumeStages_cons_false (run : OwnedRun) (exports : Bool) (phase : RunPhase)
    (stages : List (RunPhase × Bool)) : resumeStages exports ((phase, false) :: stages) run =
    resumeStages exports stages
      (fail { run with nextStage := run.nextStage + 1, phase := phase } phase
        ("lifecycle stage has no evidence producer: " ++ phase.text)) := rfl

@[simp] theorem errors_fail_ne_nil (run : OwnedRun) (phase : RunPhase) (diagnostic : String) :
    (run.fail phase diagnostic).errors ≠ [] := by simp [fail]

theorem produce_eq_queued (h : run.producers = none) : run.produce = .queued := by
  simp [produce, h]

theorem Invoked.succ (h : Invoked calls n) (hn : n < 3) : Invoked calls (n + 1) where
  stages := h.stages.trans (List.take_sublist_take_left (Nat.le_succ n))
  taken hm := absurd (h.taken hm) (Nat.ne_of_lt hn)

theorem Completing.phase (h : run.Completing) (phase : RunPhase) :
    Completing { run with phase := phase } :=
  ⟨⟨h.unfinished.not_passed, h.unfinished.releases⟩, h.stages, h.nextStage, h.admitted, h.logging⟩

theorem Completing.suspend (h : run.Completing) (await : Await) : (run.suspend await).Completing :=
  ⟨⟨h.unfinished.not_passed, h.unfinished.releases⟩, h.stages, h.nextStage, h.admitted, h.logging⟩

theorem Completing.fail (h : run.Completing) (phase : RunPhase) (diagnostic : String) :
    (run.fail phase diagnostic).Completing :=
  ⟨⟨h.unfinished.not_passed, h.unfinished.releases⟩, h.stages, h.nextStage, h.admitted, h.logging⟩

theorem located_retained (h : run.Completing) (hawaits : run.awaits = []) (herrors : run.errors ≠ [])
    (hinvoked : Invoked run.invoked run.nextStage) (diagnostic : String) :
    (run.retained diagnostic).Located := by
  refine .rests hawaits (.retained ⟨⟨?_, h.unfinished.releases⟩, h.stages, h.nextStage, h.admitted,
    h.logging⟩ rfl herrors hinvoked)
  intro completion hc
  rcases List.mem_append.1 hc with hc | hc
  · exact h.unfinished.not_passed completion hc
  · obtain rfl := List.mem_singleton.1 hc
    nofun

theorem located_exportFailed (h : run.Completing) (hawaits : run.awaits = [])
    (hinvoked : Invoked run.invoked run.nextStage) (diagnostic : String) :
    (run.exportFailed diagnostic).Located :=
  located_retained (h.fail .exportingEvidence diagnostic) hawaits (errors_fail_ne_nil _ _ _) hinvoked _

theorem located_exportAndCleanup (h : run.Completing) (hawaits : run.awaits = [])
    (hnext : run.nextStage = 3) (hnone : run.producers = none) (hexpects : run.Expects 6)
    (hinvoked : Invoked run.invoked 3) (exportEvidence : Bool) :
    (run.exportAndCleanup exportEvidence).Located := by
  have hc := h.phase .exportingEvidence
  cases exportEvidence with
  | true =>
    rw [exportAndCleanup_true, produce_eq_queued hnone]
    exact .waits (.exportEvidence .queued) (by simp [suspend, hawaits])
      ⟨hc.suspend _, rfl, hnext, hnone, hexpects, hinvoked⟩
  | false =>
    rw [exportAndCleanup_false]
    rw [← hnext] at hinvoked
    exact located_exportFailed hc hawaits hinvoked _

theorem located_resumeStages (exportEvidence : Bool) {stages : List (RunPhase × Bool)}
    (hstages : run.stages.drop run.nextStage = stages) (h : run.Completing)
    (hawaits : run.awaits = []) (hnone : run.producers = none)
    (hexpects : run.Expects (3 + run.nextStage)) (hinvoked : Invoked run.invoked run.nextStage) :
    (resumeStages exportEvidence stages run).Located := by
  have hlength : run.stages.length = 3 := by
    have := congrArg List.length h.stages
    rwa [List.length_map] at this
  induction stages generalizing run with
  | nil =>
    have hnext : run.nextStage = 3 := by
      have := List.drop_eq_nil_iff.1 hstages
      have := h.nextStage
      omega
    rw [hnext] at hinvoked hexpects
    exact located_exportAndCleanup h hawaits hnext hnone hexpects hinvoked exportEvidence
  | cons stage stages ih =>
    obtain ⟨phase, work⟩ := stage
    have hlt : run.nextStage < run.stages.length := by
      by_contra hge
      rw [List.drop_eq_nil_of_le (Nat.not_lt.1 hge)] at hstages
      cases hstages
    rw [List.drop_eq_getElem_cons hlt, List.cons.injEq] at hstages
    obtain ⟨hstage, hrest⟩ := hstages
    have hphase : stagePhases[run.nextStage]? = some phase := by
      rw [← h.stages, List.getElem?_map, List.getElem?_eq_getElem hlt, hstage]
      rfl
    have hc : Completing { run with nextStage := run.nextStage + 1, phase := phase } :=
      ⟨⟨h.unfinished.not_passed, h.unfinished.releases⟩, h.stages, hlength ▸ hlt, h.admitted,
        h.logging⟩
    cases work with
    | true =>
      -- The stage was taken, and its hook is not invoked yet.
      have hexpects' : run.Expects (2 + (run.nextStage + 1)) := by
        rwa [Nat.add_comm run.nextStage 1, ← Nat.add_assoc]
      rw [resumeStages_cons_true, produce_eq_queued hnone]
      exact .waits (.stage phase .queued exportEvidence) (by simp [suspend, hawaits])
        ⟨hc.suspend _, rfl, Nat.le_add_left .., hphase, hnone, hexpects', hinvoked⟩
    | false =>
      rw [resumeStages_cons_false]
      exact ih hrest (hc.fail _ _) hawaits hnone (fun he => absurd he (errors_fail_ne_nil _ _ _))
        (hinvoked.succ (hlength ▸ hlt)) hlength

theorem located_resume (h : run.Completing) (htabled : run.Tabled) (hawaits : run.awaits = [])
    (hpending : run.producers ≠ none → run.errors ≠ []) (hexpects : run.Expects (3 + run.nextStage))
    (hinvoked : Invoked run.invoked run.nextStage) (exportEvidence : Bool) :
    (run.resume exportEvidence).Located := by
  unfold resume
  split
  · next hphase =>
    refine located_retained h hawaits (hpending fun hnone => ?_) hinvoked _
    rw [(pendingPhase?_eq_none htabled).2 hnone] at hphase
    cases hphase
  · next hphase =>
    exact located_resumeStages exportEvidence rfl h hawaits
      ((pendingPhase?_eq_none htabled).1 hphase) hexpects hinvoked

/-! ### Calls of the user -/

/-- The run with the stages of a completion, before any of them is taken. -/
def begin (run : OwnedRun) (hooks : CompletionHooks) : OwnedRun :=
  { run with
    errors := if run.phase = .measuring then run.errors
      else run.errors ++ ["measurement was not started"]
    stages := [(.closingMeasurement, hooks.closeMeasurement),
      (.capturingLastState, hooks.captureLastState), (.drainingRecorders, hooks.drainRecorders)] }

theorem complete_eq (run : OwnedRun) (hooks : CompletionHooks) :
    run.complete hooks = (run.begin hooks).resume hooks.exportEvidence := by
  unfold complete begin
  split_ifs <;> rfl

theorem begin_errors (run : OwnedRun) (hooks : CompletionHooks) :
    (run.begin hooks).errors = [] ↔ run.phase = .measuring ∧ run.errors = [] := by
  unfold begin
  split_ifs with hphase <;> simp [hphase]

theorem located_complete (htabled : run.Tabled) (h : run.Incipient) (hawaits : run.awaits = [])
    (hpending : run.producers ≠ none → run.errors ≠ [])
    (hexpects : run.phase = .measuring → run.Expects 3) (hooks : CompletionHooks) :
    (run.complete hooks).Located ∧ (run.complete hooks).Tabled ∧
      (run.complete hooks).stages ≠ [] := by
  have hc : (run.begin hooks).Completing := by
    refine ⟨⟨h.unfinished.not_passed, h.unfinished.releases⟩, rfl, ?_, h.admitted, h.logging⟩
    show run.nextStage ≤ 3
    rw [h.nextStage]
    exact Nat.zero_le 3
  have hinvoked : Invoked (run.begin hooks).invoked (run.begin hooks).nextStage := by
    rw [show (run.begin hooks).nextStage = 0 from h.nextStage]
    exact h.invoked
  have hexpects' : (run.begin hooks).Expects (3 + (run.begin hooks).nextStage) := by
    rw [show (run.begin hooks).nextStage = 0 from h.nextStage]
    intro he
    obtain ⟨hphase, herrors⟩ := (begin_errors run hooks).1 he
    exact hexpects hphase herrors
  have hkept := kept_resume (run.begin hooks) hooks.exportEvidence
  rw [complete_eq]
  refine ⟨located_resume hc htabled hawaits (fun hp he => ?_) hexpects' hinvoked _,
    hkept.tabled htabled, ?_⟩
  · exact hpending hp ((begin_errors run hooks).1 he).2
  · rw [hkept.stages]
    nofun

/-- A run whose completion has begun stays where it is when this is recorded. -/
theorem Located.begun (h : run.Located) (hstages : run.stages ≠ []) (issued : Bool) :
    Located { run with completed := true, issued := issued } := by
  have hcompleting (hc : run.Completing) :
      Completing { run with completed := true, issued := issued } :=
    ⟨⟨hc.unfinished.not_passed, hc.unfinished.releases⟩, hc.stages, hc.nextStage, hc.admitted,
      hc.logging⟩
  have hcleaning (hc : run.Cleaning) : Cleaning { run with completed := true, issued := issued } :=
    ⟨hc.stages, hc.nextStage, hc.admitted, hc.producers, hc.invoked⟩
  have hunfinished (hu : run.Unfinished) :
      Unfinished { run with completed := true, issued := issued } := ⟨hu.not_passed, hu.releases⟩
  have hcalling {phase : RunPhase} {call : Call} (hc : run.Calling phase call) :
      Calling { run with completed := true, issued := issued } phase call := by
    cases call <;> exact hc
  cases h with
  | rests ha hr =>
    refine .rests ha ?_
    cases hr with
    | ready hi => exact absurd hi.stages hstages
    | measuring hi => exact absurd hi.stages hstages
    | retained hc hphase herrors hinvoked => exact .retained (hcompleting hc) hphase herrors hinvoked
    | concluded hc hphase hreleases hpassed =>
      exact .concluded (hcleaning hc) hphase hreleases hpassed
  | waits await ha hat =>
    refine .waits await ha ?_
    cases await with
    | composition => exact absurd hat.1.stages hstages
    | probe => exact absurd hat.1.stages hstages
    | stage phase call exports =>
      obtain ⟨hc, hphase, hpos, hstage, hcall, hexpects, hinvoked⟩ := hat
      exact ⟨hcompleting hc, hphase, hpos, hstage, hcalling hcall, hexpects, hinvoked⟩
    | exportEvidence call =>
      obtain ⟨hc, hphase, hnext, hcall, hexpects, hinvoked⟩ := hat
      exact ⟨hcompleting hc, hphase, hnext, hcalling hcall, hexpects, hinvoked⟩
    | dispose =>
      obtain ⟨hc, hu, hlogging, hphase, hexpects⟩ := hat
      exact ⟨hcleaning hc, hunfinished hu, hlogging, hphase, hexpects⟩
    | verify =>
      obtain ⟨hc, hu, hlogging, hphase, hexpects, hdisposed⟩ := hat
      exact ⟨hcleaning hc, hunfinished hu, hlogging, hphase, hexpects, hdisposed⟩
    | stopLogging =>
      obtain ⟨hc, hu, hphase, hdisposed, hpassed⟩ := hat
      exact ⟨hcleaning hc, hunfinished hu, hphase, hdisposed, hpassed⟩

/-- The run of a caller that completes it, or that `start` completes. -/
theorem inv_begun (h : run.Incipient) (htabled : run.Tabled) (hawaits : run.awaits = [])
    (hpending : run.producers ≠ none → run.errors ≠ [])
    (hexpects : run.phase = .measuring → run.Expects 3) (hooks : CompletionHooks) (issued : Bool) :
    Inv { run.complete hooks with completed := true, issued := issued } := by
  obtain ⟨hlocated, htabled', hstages⟩ := located_complete htabled h hawaits hpending hexpects hooks
  exact ⟨htabled', hlocated.begun hstages issued, iff_of_true rfl hstages⟩

theorem Incipient.fail (h : run.Incipient) (phase : RunPhase) (diagnostic : String) :
    (run.fail phase diagnostic).Incipient :=
  ⟨⟨h.unfinished.not_passed, h.unfinished.releases⟩, h.completed, h.stages, h.nextStage, h.admitted,
    h.logging, h.invoked⟩

theorem inv_startFailed (htabled : run.Tabled) (h : run.Incipient) (hawaits : run.awaits = [])
    (hphase : run.phase = .preloading) (diagnostic : String) : (run.startFailed diagnostic).Inv := by
  unfold startFailed finish
  rw [if_neg (by simp [fail, h.completed])]
  refine inv_begun (h.fail _ _) htabled hawaits (fun _ => errors_fail_ne_nil _ _ _) ?_ _ true
  intro hmeasuring
  exact absurd (hphase.symm.trans hmeasuring) nofun

theorem Inv.awaits_nil (h : run.Inv) (hphase : run.phase = .retained ∨ run.phase = .ready) :
    run.awaits = [] ∧ run.Rests := by
  cases h.located with
  | rests ha hr => exact ⟨ha, hr⟩
  | waits await ha hat =>
    cases await with
    | composition => obtain ⟨-, -, hp, -⟩ := hat; simp [hp] at hphase
    | probe => obtain ⟨-, -, hp, -⟩ := hat; simp [hp] at hphase
    | stage =>
      obtain ⟨-, hp, -, hstage, -⟩ := hat
      have hm := List.mem_of_getElem? hstage
      rw [hp] at hphase
      rcases hphase with rfl | rfl
      · exact absurd hm (by decide)
      · exact absurd hm (by decide)
    | exportEvidence => obtain ⟨-, hp, -⟩ := hat; simp [hp] at hphase
    | dispose => obtain ⟨-, -, -, hp, -⟩ := hat; simp [hp] at hphase
    | verify => obtain ⟨-, -, -, hp, -⟩ := hat; simp [hp] at hphase
    | stopLogging => obtain ⟨-, -, hp, -⟩ := hat; simp [hp] at hphase

theorem passedPhases_succ {n : ℕ} {phase : RunPhase} (h : lifecycle[n]? = some phase) :
    passedPhases n ++ [⟨phase, .passed, none⟩] = passedPhases (n + 1) := by
  unfold passedPhases
  rw [List.take_add_one, List.map_append, h]
  rfl

theorem Expects.pass (h : run.Expects n) (phase : RunPhase) (hphase : lifecycle[n]? = some phase) :
    (run.pass phase).Expects (n + 1) := fun he => by
  show run.phases ++ _ = _
  rw [h he]
  exact passedPhases_succ hphase

theorem inv_beginMeasurement (h : run.Inv) (hphase : run.phase = .ready) :
    ({ run with phase := .measuring }.pass .measuring).Inv := by
  obtain ⟨ha, hr⟩ := h.awaits_nil (.inr hphase)
  cases hr with
  | ready hi _ hnone hexpects =>
    have hexpects' := hexpects.pass .measuring rfl
    exact ⟨h.tabled, .rests ha (.measuring ⟨⟨hi.unfinished.not_passed, hi.unfinished.releases⟩,
      hi.completed, hi.stages, hi.nextStage, hi.admitted, hi.logging, hi.invoked⟩ rfl hnone
      hexpects'), h.completed⟩
  | measuring _ hp => exact absurd (hphase.symm.trans hp) nofun
  | retained _ hp => exact absurd (hphase.symm.trans hp) nofun
  | concluded _ hp => simp [hphase] at hp

theorem Completing.stages_ne_nil (h : run.Completing) : run.stages ≠ [] := by
  intro hnil
  have := h.stages
  rw [hnil] at this
  cases this

theorem Cleaning.stages_ne_nil (h : run.Cleaning) : run.stages ≠ [] := by
  intro hnil
  have := h.stages
  rw [hnil] at this
  cases this

/-- The caller has a run that is not completed yet. -/
theorem Inv.incipient (h : run.Inv) (hcompleted : run.completed = false) (hissued : run.issued) :
    run.awaits = [] ∧ run.Incipient ∧ run.producers = none ∧
      (run.phase = .measuring → run.Expects 3) := by
  have hstages : run.stages = [] := by
    by_contra hne
    rw [h.completed.2 hne] at hcompleted
    cases hcompleted
  cases h.located with
  | rests ha hr =>
    cases hr with
    | ready hi hphase hnone => exact ⟨ha, hi, hnone, fun hm => absurd (hphase.symm.trans hm) nofun⟩
    | measuring hi hphase hnone hexpects => exact ⟨ha, hi, hnone, fun _ => hexpects⟩
    | retained hc => exact absurd hstages hc.stages_ne_nil
    | concluded hc => exact absurd hstages hc.stages_ne_nil
  | waits await ha hat =>
    cases await with
    | composition =>
      obtain ⟨-, hnot, -⟩ := hat
      rw [hnot] at hissued
      cases hissued
    | probe =>
      obtain ⟨-, hnot, -⟩ := hat
      rw [hnot] at hissued
      cases hissued
    | stage => exact absurd hstages hat.1.stages_ne_nil
    | exportEvidence => exact absurd hstages hat.1.stages_ne_nil
    | dispose => exact absurd hstages hat.1.stages_ne_nil
    | verify => exact absurd hstages hat.1.stages_ne_nil
    | stopLogging => exact absurd hstages hat.1.stages_ne_nil

theorem inv_finish (h : run.Inv) (hissued : run.issued) (hooks : CompletionHooks) :
    (run.finish hooks).Inv := by
  unfold finish
  split_ifs with hcompleted
  · exact h
  · obtain ⟨ha, hi, hnone, hexpects⟩ := h.incipient (Bool.eq_false_iff.2 hcompleted) hissued
    exact inv_begun hi h.tabled ha (fun hp => absurd hnone hp) hexpects hooks _

theorem inv_retryExport (h : run.Inv) (hphase : run.phase = .retained) (exportEvidence : Bool) :
    (run.resume exportEvidence).Inv := by
  obtain ⟨ha, hr⟩ := h.awaits_nil (.inl hphase)
  have hkept := kept_resume run exportEvidence
  cases hr with
  | retained hc _ herrors hinvoked =>
    refine ⟨hkept.tabled h.tabled, located_resume hc h.tabled ha (fun _ => herrors)
      (fun he => absurd he herrors) hinvoked _, ?_⟩
    rw [hkept.completed, hkept.stages]
    exact h.completed
  | ready _ hp => exact absurd (hphase.symm.trans hp) nofun
  | measuring _ hp => exact absurd (hphase.symm.trans hp) nofun
  | concluded _ hp => simp [hphase] at hp

/-! ### Waits -/

theorem Located.at_ (h : run.Located) (hawait : run.awaits[t]? = some await) :
    run.awaits = [await] ∧ t = 0 ∧ run.At await := by
  cases h with
  | rests ha =>
    rw [ha] at hawait
    cases hawait
  | waits await' ha hat =>
    rw [ha] at hawait
    cases t with
    | zero =>
      obtain rfl := Option.some.inj hawait
      exact ⟨ha, rfl, hat⟩
    | succ t => cases hawait

theorem Invoked.append (h : Invoked calls n) {phase : RunPhase} (hstage : phase ∉ stagePhases)
    (hexport : phase = .exportingEvidence → n = 3) : Invoked (calls ++ [phase]) n where
  stages := by
    have hnone : [phase].filter (· ∈ stagePhases) = [] := by simp [hstage]
    rw [List.filter_append, hnone, List.append_nil]
    exact h.stages
  taken hm := by
    rcases List.mem_append.1 hm with hm | hm
    · exact h.taken hm
    · exact hexport (List.mem_singleton.1 hm).symm

theorem Invoked.append_stage (h : Invoked calls n) {phase : RunPhase}
    (hphase : stagePhases[n]? = some phase) : Invoked (calls ++ [phase]) (n + 1) := by
  have hmem : phase ∈ stagePhases := List.mem_of_getElem? hphase
  obtain ⟨hlt, -⟩ := List.getElem?_eq_some_iff.1 hphase
  constructor
  · rw [List.filter_append, List.take_add_one, hphase]
    apply h.stages.append
    simp [hmem]
  · intro hm
    rcases List.mem_append.1 hm with hm | hm
    · exact absurd (h.taken hm) (Nat.ne_of_lt hlt)
    · rw [← List.mem_singleton.1 hm] at hmem
      exact absurd hmem (by decide)

theorem inv_invoke (h : run.Inv) (hawait : run.awaits[t]? = some await)
    (hcall : await.call? = some .queued) :
    Inv { run.invoke await with
      awaits := run.awaits.set t (await.setCall (.running run.produced.length)) } := by
  obtain ⟨ha, rfl, hat⟩ := h.located.at_ hawait
  have hinvoked : (run.invoke await).invoked = run.invoked ++ [await.phase] := by
    simp [invoked, invoke]
  have hnew : (run.invoke await).invoked[run.produced.length]? = some await.phase := by
    rw [hinvoked]
    have hlength : run.produced.length = run.invoked.length := by simp [invoked]
    rw [hlength, List.getElem?_concat_length]
  cases await with
  | composition => cases hcall
  | probe call binding bindings =>
    obtain rfl := Option.some.inj hcall
    obtain ⟨hi, hissued, hphase, hnone, hexpects⟩ := hat
    have hi' : Invoked (run.invoke (.probe .queued binding bindings)).invoked 0 := by
      rw [hinvoked]
      exact hi.invoked.append (show RunPhase.preloading ∉ stagePhases by decide) nofun
    exact ⟨tabled_invoke h.tabled hnone _,
      .waits (.probe (.running run.produced.length) binding bindings) (by simp [ha, Await.setCall])
        ⟨⟨⟨hi.unfinished.not_passed, hi.unfinished.releases⟩, hi.completed, hi.stages, hi.nextStage,
          hi.admitted, hi.logging, hi'⟩, hissued, hphase, ⟨hnew, .inr rfl⟩, hexpects⟩, h.completed⟩
  | stage phase call exports =>
    obtain rfl := Option.some.inj hcall
    obtain ⟨hc, hphase, hpos, hstage, hnone, hexpects, hi⟩ := hat
    rw [if_pos rfl] at hi
    have hi' : Invoked (run.invoke (.stage phase .queued exports)).invoked run.nextStage := by
      rw [hinvoked, ← Nat.sub_add_cancel hpos]
      exact hi.append_stage hstage
    refine ⟨tabled_invoke h.tabled hnone _,
      .waits (.stage phase (.running run.produced.length) exports) (by simp [ha, Await.setCall])
        ⟨⟨⟨hc.unfinished.not_passed, hc.unfinished.releases⟩, hc.stages, hc.nextStage, hc.admitted,
          hc.logging⟩, hphase, hpos, hstage, ⟨hnew, .inr rfl⟩, hexpects, ?_⟩, h.completed⟩
    rw [if_neg nofun]
    exact hi'
  | exportEvidence call =>
    obtain rfl := Option.some.inj hcall
    obtain ⟨hc, hphase, hnext, hnone, hexpects, hi⟩ := hat
    have hi' : Invoked (run.invoke (.exportEvidence .queued)).invoked 3 := by
      rw [hinvoked]
      exact hi.append (show RunPhase.exportingEvidence ∉ stagePhases by decide) fun _ => rfl
    exact ⟨tabled_invoke h.tabled hnone _,
      .waits (.exportEvidence (.running run.produced.length)) (by simp [ha, Await.setCall])
        ⟨⟨⟨hc.unfinished.not_passed, hc.unfinished.releases⟩, hc.stages, hc.nextStage, hc.admitted,
          hc.logging⟩, hphase, hnext, ⟨hnew, .inr rfl⟩, hexpects, hi'⟩, h.completed⟩
  | dispose => cases hcall
  | verify => cases hcall
  | stopLogging => cases hcall

/-- A callback that has settled is not in the table. -/
theorem producers_of_settled (h : run.Tabled)
    (hentry : run.producers = none ∨ run.producers = some i)
    (hproducer : run.produced[i]? = some producer) (hsettled : producer.settled = some result) :
    run.producers = none := by
  refine hentry.resolve_right fun hi => ?_
  obtain ⟨producer', hproducer', hlive⟩ := (h i).1 hi
  obtain rfl := Option.some.inj (hproducer.symm.trans hproducer')
  rw [Producer.live, hsettled] at hlive
  cases hlive

theorem stage_lifecycle {phase : RunPhase} (h : stagePhases[n]? = some phase) : lifecycle[3 + n]? = some phase := by
  have hlifecycle : lifecycle.drop 3 = stagePhases ++
      [.exportingEvidence, .disposing, .verifyingCleanup, .completed] := rfl
  obtain ⟨hn, -⟩ := List.getElem?_eq_some_iff.1 h
  rw [← List.getElem?_drop, hlifecycle, List.getElem?_append_left hn]
  exact h

theorem Incipient.suspend (h : run.Incipient) (await : Await) : (run.suspend await).Incipient :=
  ⟨⟨h.unfinished.not_passed, h.unfinished.releases⟩, h.completed, h.stages, h.nextStage, h.admitted,
    h.logging, h.invoked⟩

theorem Completing.pass (h : run.Completing) (phase : RunPhase) : (run.pass phase).Completing :=
  ⟨⟨h.unfinished.not_passed, h.unfinished.releases⟩, h.stages, h.nextStage, h.admitted, h.logging⟩

/-- A run is located after its functions ran up to their next wait. -/
theorem Kept.inv (h : Kept run run') (hlocated : run'.Located) (htabled : run.Tabled)
    (hcompleted : run.completed = true ↔ run.stages ≠ []) : run'.Inv := by
  refine ⟨h.tabled htabled, hlocated, ?_⟩
  rw [h.completed, h.stages]
  exact hcompleted

theorem inv_rejected (htabled : run.Tabled) (hawaits : run.awaits = [])
    (hcompleted : run.completed = true ↔ run.stages ≠ []) (hat : run.At await)
    (hcall : await.call? = some call) (diagnostic : String) :
    (run.rejected diagnostic await).Inv := by
  cases await with
  | composition => cases hcall
  | probe _ binding bindings =>
    obtain ⟨hi, -, hphase, -⟩ := hat
    exact inv_startFailed htabled hi hawaits hphase diagnostic
  | stage phase _ exports =>
    obtain ⟨hc, -, hpos, -, -, -, hi⟩ := hat
    have hinvoked : Invoked run.invoked run.nextStage := by
      split_ifs at hi
      · have hlt : run.nextStage - 1 < 3 := by
          have := hc.nextStage
          omega
        have := hi.succ hlt
        rwa [Nat.sub_add_cancel hpos] at this
      · exact hi
    have hfail := kept_fail run phase diagnostic
    simp only [rejected]
    split_ifs with hlive
    · exact (hfail.trans (kept_retained _ _)).inv (located_retained (hc.fail _ _) hawaits
        (errors_fail_ne_nil _ _ _) hinvoked _) htabled hcompleted
    · have hnone : (run.fail phase diagnostic).producers = none := by simpa using hlive
      exact (hfail.trans (kept_resumeStages _ _ _)).inv (located_resumeStages exports rfl
        (hc.fail _ _) hawaits hnone (fun he => absurd he (errors_fail_ne_nil _ _ _)) hinvoked)
        htabled hcompleted
  | exportEvidence _ =>
    obtain ⟨hc, -, hnext, -, -, hi⟩ := hat
    rw [← hnext] at hi
    exact (kept_exportFailed _ _).inv (located_exportFailed hc hawaits hi _) htabled hcompleted
  | dispose => cases hcall
  | verify => cases hcall
  | stopLogging => cases hcall

theorem inv_fulfilled (htabled : run.Tabled) (hawaits : run.awaits = [])
    (hcompleted : run.completed = true ↔ run.stages ≠ []) (hat : run.At await)
    (hcall : await.call? = some (.running i)) (hproducer : run.produced[i]? = some producer)
    (hsettled : producer.settled = some (.ok value)) : (run.fulfilled value await).Inv := by
  cases await with
  | composition => cases hcall
  | probe _ binding bindings =>
    obtain rfl := Option.some.inj hcall
    obtain ⟨hi, hissued, hphase, ⟨-, hentry⟩, hexpects⟩ := hat
    have hnone := producers_of_settled htabled hentry hproducer hsettled
    simp only [fulfilled]
    split_ifs
    · exact ⟨htabled, .waits (.composition bindings) (by simp [suspend, hawaits])
        ⟨hi.suspend _, hissued, hphase, hnone, hexpects⟩, hcompleted⟩
    · exact inv_startFailed htabled hi hawaits hphase _
  | stage phase _ exports =>
    obtain rfl := Option.some.inj hcall
    obtain ⟨hc, -, hpos, hstage, ⟨-, hentry⟩, hexpects, hi⟩ := hat
    have hnone := producers_of_settled htabled hentry hproducer hsettled
    rw [if_neg nofun] at hi
    have hphase : lifecycle[2 + run.nextStage]? = some phase := by
      have := stage_lifecycle hstage
      rwa [show 3 + (run.nextStage - 1) = 2 + run.nextStage by omega] at this
    have hexpects' : (run.pass phase).Expects (3 + run.nextStage) := by
      have := hexpects.pass phase hphase
      rwa [Nat.add_right_comm] at this
    have hkept : Kept run (run.pass phase) :=
      ⟨rfl, rfl, rfl, rfl, rfl, rfl, rfl, rfl, rfl, rfl, rfl, id⟩
    exact (hkept.trans (kept_resumeStages _ _ _)).inv
      (located_resumeStages exports rfl (hc.pass phase) hawaits hnone hexpects' hi) htabled hcompleted
  | exportEvidence _ =>
    obtain rfl := Option.some.inj hcall
    obtain ⟨hc, -, hnext, ⟨-, hentry⟩, hexpects, hi⟩ := hat
    have hnone := producers_of_settled htabled hentry hproducer hsettled
    simp only [fulfilled]
    split_ifs
    · rw [← hnext] at hi
      exact (kept_exportFailed _ _).inv (located_exportFailed hc hawaits hi _) htabled hcompleted
    · exact ⟨htabled, .waits .dispose (by simp [suspend, pass, hawaits])
        ⟨⟨hc.stages, hnext, rfl, hnone, hi⟩, ⟨hc.unfinished.not_passed, hc.unfinished.releases⟩,
          hc.logging, rfl, hexpects.pass _ rfl⟩, hcompleted⟩
  | dispose => cases hcall
  | verify => cases hcall
  | stopLogging => cases hcall

theorem inv_verified (htabled : run.Tabled) (hawaits : run.awaits = [])
    (hcompleted : run.completed = true ↔ run.stages ≠ []) (hc : run.Cleaning) (hu : run.Unfinished)
    (hphase : run.phase = .verifyingCleanup) (hexpects : run.Expects 8)
    (hdisposed : disposalComplete = true → run.Disposed) (outcomes : List ResourceOutcome) :
    (run.verified disposalComplete outcomes).Inv := by
  refine ⟨htabled, .waits (.stopLogging disposalComplete outcomes)
    (by simp [verified, suspend, hawaits]) ⟨⟨hc.stages, hc.nextStage, hc.admitted, hc.producers,
      hc.invoked⟩, ⟨hu.not_passed, hu.releases⟩, hphase,
      fun hd => List.mem_append_left _ (hdisposed hd), fun he hne => ?_⟩, hcompleted⟩
  simp only [verified, suspend, List.append_eq_nil_iff, List.map_eq_nil_iff, ite_eq_right_iff,
    reduceCtorEq, imp_false] at he ⊢
  obtain ⟨⟨⟨herrors, hpassed⟩, -⟩, hcaptured⟩ := he
  have hobserved : outcomes.isEmpty = false := by simpa using hne
  simp only [hobserved, Bool.not_false, Bool.true_and, Bool.not_eq_true', Bool.not_eq_false,
    List.all_eq_true, Bool.and_eq_true, Option.isNone_iff_eq_none] at hpassed
  refine ⟨?_, hpassed⟩
  have hall : (outcomes.all fun outcome => outcome.evidenced && outcome.reportedError.isNone) = true := by
    simpa [List.all_eq_true] using hpassed
  rw [hexpects herrors, hobserved, hall, hcaptured]
  exact passedPhases_succ rfl

/-- The verification of the resources begins. -/
theorem inv_verifying (run : OwnedRun) (htabled : run.Tabled) (hawaits : run.awaits = [])
    (hcompleted : run.completed = true ↔ run.stages ≠ []) (hc : run.Cleaning) (hu : run.Unfinished)
    (hlogging : run.logging = true) (hphase : run.phase = .verifyingCleanup)
    (hexpects : run.Expects 8) (hdisposed : disposalComplete = true → run.Disposed) :
    (run.verifying disposalComplete).Inv := by
  unfold verifying
  split
  · exact inv_verified htabled hawaits hcompleted hc hu hphase hexpects hdisposed []
  · next records _ =>
    exact ⟨htabled, .waits (.verify disposalComplete (records.map fun _ => none))
      (by simp only [suspend, hawaits, List.nil_append])
      ⟨⟨hc.stages, hc.nextStage, hc.admitted, hc.producers, hc.invoked⟩,
        ⟨hu.not_passed, hu.releases⟩, hlogging, hphase, hexpects, hdisposed⟩, hcompleted⟩

theorem inv_disposed (htabled : run.Tabled) (hawaits : run.awaits = [])
    (hcompleted : run.completed = true ↔ run.stages ≠ []) (hat : run.At .dispose)
    (result : Except String Bool) : (run.disposed result).Inv := by
  obtain ⟨hc, hu, hlogging, -, hexpects⟩ := hat
  have hfailed (diagnostic : String) :
      Inv ({ run.fail .disposing diagnostic with phase := .verifyingCleanup }.verifying false) :=
    inv_verifying { run.fail .disposing diagnostic with phase := .verifyingCleanup } htabled
      hawaits hcompleted ⟨hc.stages, hc.nextStage, hc.admitted, hc.producers, hc.invoked⟩
      ⟨hu.not_passed, hu.releases⟩ hlogging rfl
      (fun he => absurd he (errors_fail_ne_nil run .disposing diagnostic)) nofun
  cases result with
  | error diagnostic => exact hfailed diagnostic
  | ok complete =>
    cases complete with
    | false => exact hfailed _
    | true =>
      exact inv_verifying { run.pass .disposing with phase := .verifyingCleanup } htabled
        hawaits hcompleted ⟨hc.stages, hc.nextStage, hc.admitted, hc.producers, hc.invoked⟩
        ⟨hu.not_passed, hu.releases⟩ hlogging rfl (hexpects.pass _ rfl)
        fun _ => List.mem_append_right _ (List.mem_singleton_self _)

theorem inv_concluded (htabled : run.Tabled) (hawaits : run.awaits = [])
    (hcompleted : run.completed = true ↔ run.stages ≠ [])
    (hat : run.At (.stopLogging disposalComplete outcomes)) :
    (run.concluded disposalComplete outcomes).Inv := by
  obtain ⟨hc, hu, -, -, hpassed⟩ := hat
  refine ⟨htabled, .rests hawaits (.concluded ⟨hc.stages, hc.nextStage, hc.admitted, hc.producers,
    hc.invoked⟩ ?_ ?_ ?_), hcompleted⟩
  · simp only [concluded]
    split_ifs <;> simp
  · simp only [concluded, hu.releases]
    split_ifs
    · exact Nat.le_refl 1
    · exact Nat.zero_le 1
  · intro completion hm hstatus
    rcases List.mem_append.1 hm with hm | hm
    · exact absurd hstatus (hu.not_passed completion hm)
    · obtain rfl := List.mem_singleton.1 hm
      dsimp only at hstatus
      split_ifs at hstatus with herrors houtcomes
      have herrors' : run.errors = [] := by simpa using herrors
      have houtcomes' : outcomes ≠ [] := by simpa using houtcomes
      obtain ⟨hphases, hall⟩ := hpassed herrors' houtcomes'
      refine ⟨⟨herrors', houtcomes', hall, ?_⟩, ?_, rfl⟩
      · dsimp only
        rw [if_neg herrors, if_pos houtcomes, hphases]
        exact passedPhases_succ rfl
      · dsimp only [concluded]
        rw [if_neg herrors, if_pos houtcomes]
        rfl

theorem inv_continues (h : Continues run await run') (htabled : run.Tabled)
    (hawaits : run.awaits = []) (hcompleted : run.completed = true ↔ run.stages ≠ [])
    (hat : run.At await) : run'.Inv := by
  cases h with
  | composed binding bindings =>
    obtain ⟨hi, hissued, hphase, hnone, hexpects⟩ := hat
    rw [produce_eq_queued hnone]
    exact ⟨htabled, .waits (.probe .queued binding bindings) (by simp [suspend, hawaits])
      ⟨hi.suspend _, hissued, hphase, hnone, hexpects⟩, hcompleted⟩
  | ready =>
    obtain ⟨hi, -, -, hnone, hexpects⟩ := hat
    have hexpects' : ((run.pass .preloading).pass .ready).Expects 2 :=
      (hexpects.pass .preloading rfl).pass .ready rfl
    exact ⟨htabled, .rests hawaits (.ready ⟨⟨hi.unfinished.not_passed, hi.unfinished.releases⟩,
      hi.completed, hi.stages, hi.nextStage, hi.admitted, hi.logging, hi.invoked⟩ rfl hnone
      hexpects'), hcompleted⟩
  | startFailed bindings message =>
    obtain ⟨hi, -, hphase, -⟩ := hat
    exact inv_startFailed htabled hi hawaits hphase message
  | fulfilled _ i producer value hcall hproducer hsettled =>
    exact inv_fulfilled htabled hawaits hcompleted hat hcall hproducer hsettled
  | refused _ message hcall =>
    exact inv_rejected htabled hawaits hcompleted hat hcall message
  | cancelled _ message hcall =>
    exact inv_rejected htabled hawaits hcompleted hat hcall message
  | rejected _ i producer message hcall hproducer =>
    exact inv_rejected (tabled_interrupt htabled hproducer) hawaits hcompleted
      ((beside_interrupt hproducer).at_ hat) hcall message
  | disposed result => exact inv_disposed htabled hawaits hcompleted hat result
  | verified disposalComplete outcomes resourceOutcomes hall =>
    obtain ⟨hc, hu, -, hphase, hexpects, hdisposed⟩ := hat
    exact inv_verified htabled hawaits hcompleted hc hu hphase hexpects hdisposed _
  | concluded disposalComplete outcomes => exact inv_concluded htabled hawaits hcompleted hat

/-! ## Every run -/

theorem inv_resources (h : run.Inv) (resources : Option (List ResourceRecord))
    (cleanups : List String) {errors : List String} (herrors : errors = [] → run.errors = []) :
    Inv { run with resources := resources, cleanups := cleanups, errors := errors } :=
  (beside_resources run resources cleanups herrors).inv h h.tabled rfl

theorem inv_log (h : run.Inv) (message : String) : (run.log message).Inv := by
  refine (beside_log run message).inv h ?_ (awaits_log run message)
  unfold log
  split_ifs <;> exact h.tabled

theorem inv_step (h : Step caught run run') (hi : run.Inv) : run'.Inv := by
  cases h with
  | provideResources => exact inv_resources hi _ run.cleanups id
  | interrupt i producer hproducer =>
    exact (beside_interrupt hproducer).inv hi (tabled_interrupt hi.tabled hproducer) rfl
  | settle i producer result hproducer hlive =>
    exact (beside_settle hproducer result).inv hi (tabled_settle hi.tabled hproducer hlive result)
      (awaits_settle run i producer result)
  | track => exact inv_resources hi _ run.cleanups id
  | cleanupEffect i record =>
    unfold cleanupEffect
    split
    · exact inv_resources hi _ run.cleanups fun h => (List.append_eq_nil_iff.1 h).1
    · exact inv_resources hi _ _ id
  | cleanupFailed i record message =>
    have hupdated : (run.updateRecord i { record with cleanupError := some message }).Inv :=
      inv_resources hi _ run.cleanups id
    cases caught message with
    | none => exact hupdated
    | some logged => exact inv_log hupdated logged
  | log message => exact inv_log hi message
  | verified t i disposalComplete outcomes record observation hawait =>
    obtain ⟨ha, rfl, hat⟩ := hi.located.at_ hawait
    have hat' : run.At (.verify disposalComplete
        (outcomes.set i (some (run.outcome record observation)))) := hat
    exact ⟨hi.tabled, .waits _ (by rw [ha]; rfl) ((beside_awaits run _).at_ hat'), hi.completed⟩
  | beginMeasurement hphase => exact inv_beginMeasurement hi hphase
  | finish hooks hissued => exact inv_finish hi hissued hooks
  | retryExport exportEvidence hphase => exact inv_retryExport hi hphase exportEvidence
  | invoke t await hawait hcall => exact inv_invoke hi hawait hcall
  | continues t await run' hawait hc =>
    obtain ⟨ha, rfl, hat⟩ := hi.located.at_ hawait
    exact inv_continues hc hi.tabled (by rw [ha]; rfl) hi.completed
      ((beside_awaits run _).at_ hat)

/-- A run that `start` makes. -/
def Created (run : OwnedRun) : Prop := ∃ runId bindings, run = .create runId bindings

theorem inv_created (h : run.Created) : run.Inv := by
  obtain ⟨runId, bindings, rfl⟩ := h
  refine ⟨fun i => iff_of_false nofun ?_, .waits (.composition bindings) rfl ?_, iff_of_false nofun ?_⟩
  · simp [create]
  · exact ⟨⟨⟨nofun, rfl⟩, rfl, rfl, rfl, rfl, rfl, ⟨List.nil_sublist _, nofun⟩⟩, rfl, rfl, rfl,
      fun _ => rfl⟩
  · exact fun h => h rfl

/-- The invariant holds in every reachable state of a run. -/
theorem inv_reachable (h : Reachable Created (Takes (step caught)) run) : run.Inv := by
  refine h.invariant (fun _ => inv_created) ?_
  rintro run run' ⟨event, hstep⟩ hi
  exact inv_step (step_of_event hstep) hi

end OwnedRun

end RoboticsRuntime.Host
