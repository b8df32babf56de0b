import RoboticsRuntime.Host.RunOwner

/-!
# The steps of an owned run

What an event does to a run, and what follows the end of a wait, each by the function of the source
that it runs.
-/

namespace RoboticsRuntime.Host

namespace OwnedRun

/-! ## What an event does -/

/-- What follows the end of a wait, in the run without the function that waits. -/
inductive Continues (run : OwnedRun) : Await → OwnedRun → Prop where
  | composed (binding : String) (bindings : List String) :
    Continues run (.composition (binding :: bindings))
      (run.suspend (.probe run.produce binding bindings))
  | ready : Continues run (.composition [])
      { (run.pass .preloading).pass .ready with phase := .ready, issued := true }
  | startFailed (bindings : List String) (message : String) :
    Continues run (.composition bindings) (run.startFailed message)
  | fulfilled (await : Await) (i : ℕ) (producer : Producer) (value : BackendReadiness)
      (call : await.call? = some (.running i)) (producer_eq : run.produced[i]? = some producer)
      (settled : producer.settled = some (.ok value)) :
    Continues run await (run.fulfilled value await)
  | refused (await : Await) (message : String) (call : await.call? = some .refused) :
    Continues run await (run.rejected message await)
  | cancelled (await : Await) (message : String) (call : await.call? = some .queued) :
    Continues run await (run.rejected message await)
  | rejected (await : Await) (i : ℕ) (producer : Producer) (message : String)
      (call : await.call? = some (.running i)) (producer_eq : run.produced[i]? = some producer) :
    Continues run await ((run.interrupt i producer).rejected message await)
  | disposed (result : Except String Bool) : Continues run .dispose (run.disposed result)
  | verified (disposalComplete : Bool) (outcomes : List (Option ResourceOutcome))
      (resourceOutcomes : List ResourceOutcome) (all : outcomes.mapM id = some resourceOutcomes) :
    Continues run (.verify disposalComplete outcomes)
      (run.verified disposalComplete resourceOutcomes)
  | concluded (disposalComplete : Bool) (resourceOutcomes : List ResourceOutcome) :
    Continues run (.stopLogging disposalComplete resourceOutcomes)
      (run.concluded disposalComplete resourceOutcomes)

/-- What an event does to a run. -/
inductive Step (caught : String → Option String) (run : OwnedRun) : OwnedRun → Prop where
  | provideResources (h : run.resources = none) :
    Step caught run { run with resources := some [] }
  | interrupt (i : ℕ) (producer : Producer) (h : run.produced[i]? = some producer)
      (live : producer.live) : Step caught run (run.interrupt i producer)
  | settle (i : ℕ) (producer : Producer) (result : Except Rejection BackendReadiness)
      (h : run.produced[i]? = some producer) (live : producer.live) :
    Step caught run (run.settle i producer result)
  | track (records : List ResourceRecord) (id : String) (h : run.resources = some records) :
    Step caught run { run with resources := some (records ++ [⟨id, false, none⟩]) }
  | cleanupEffect (i : ℕ) (record : ResourceRecord) (h : run.record? i = some record) :
    Step caught run (run.cleanupEffect i record)
  | cleanupFailed (i : ℕ) (record : ResourceRecord) (message : String)
      (h : run.record? i = some record) (attempted : record.attempted) :
    Step caught run ((caught message).elim
      (run.updateRecord i { record with cleanupError := some message })
      (run.updateRecord i { record with cleanupError := some message }).log)
  | log (message : String) : Step caught run (run.log message)
  | verified (t i : ℕ) (disposalComplete : Bool) (outcomes : List (Option ResourceOutcome))
      (record : ResourceRecord) (observation : Except String CleanupObservation)
      (h : run.awaits[t]? = some (.verify disposalComplete outcomes))
      (record_eq : run.record? i = some record) :
    Step caught run { run with awaits := run.awaits.set t (.verify disposalComplete
      (outcomes.set i (some (run.outcome record observation)))) }
  | beginMeasurement (phase : run.phase = .ready) :
    Step caught run ({ run with phase := .measuring }.pass .measuring)
  | finish (hooks : CompletionHooks) (issued : run.issued) : Step caught run (run.finish hooks)
  | retryExport (exportEvidence : Bool) (phase : run.phase = .retained) :
    Step caught run (run.resume exportEvidence)
  | invoke (t : ℕ) (await : Await) (h : run.awaits[t]? = some await)
      (call : await.call? = some .queued) :
    Step caught run { run.invoke await with
      awaits := run.awaits.set t (await.setCall (.running run.produced.length)) }
  | continues (t : ℕ) (await : Await) (run' : OwnedRun) (h : run.awaits[t]? = some await)
      (continues : Continues { run with awaits := run.awaits.eraseIdx t } await run') :
    Step caught run run'

variable {run run' : OwnedRun} {caught : String → Option String}

theorem wake?_eq_some (h : run.wake? t = some (await, run')) :
    run.awaits[t]? = some await ∧ run' = { run with awaits := run.awaits.eraseIdx t } := by
  obtain ⟨_, hawait, heq⟩ := Option.map_eq_some_iff.1 h
  obtain ⟨rfl, rfl⟩ := Prod.mk.inj heq
  exact ⟨hawait, rfl⟩

theorem step_of_event (h : run.step caught event = some run') : Step caught run run' := by
  cases event with
  | provideResources =>
    simp only [step, Option.isNone_iff_eq_none, Option.ite_none_right_eq_some,
      Option.some.injEq] at h
    obtain ⟨hnone, rfl⟩ := h
    exact .provideResources hnone
  | composed t =>
    simp only [step, Option.bind_eq_bind, Option.bind_eq_some_iff] at h
    obtain ⟨⟨await, woken⟩, hwake, h⟩ := h
    obtain ⟨hawait, rfl⟩ := wake?_eq_some hwake
    cases await with
    | composition bindings =>
      cases bindings with
      | nil =>
        obtain rfl := Option.some.inj h
        exact .continues t _ _ hawait .ready
      | cons binding bindings =>
        obtain rfl := Option.some.inj h
        exact .continues t _ _ hawait (.composed binding bindings)
    | _ => cases h
  | startFailed t message =>
    simp only [step, Option.bind_eq_bind, Option.bind_eq_some_iff] at h
    obtain ⟨⟨await, woken⟩, hwake, h⟩ := h
    obtain ⟨hawait, rfl⟩ := wake?_eq_some hwake
    cases await with
    | composition bindings =>
      obtain rfl := Option.some.inj h
      exact .continues t _ _ hawait (.startFailed bindings message)
    | _ => cases h
  | beginMeasurement =>
    simp only [step, beginMeasurement] at h
    split_ifs at h with hissued hphase
    · obtain rfl := Option.some.inj h
      exact .beginMeasurement hphase
    · cases h
  | finish hooks =>
    simp only [step, Option.ite_none_right_eq_some, Option.some.injEq] at h
    obtain ⟨hissued, rfl⟩ := h
    exact .finish hooks hissued
  | retryExport exportEvidence =>
    simp only [step, retryExport] at h
    split_ifs at h with hissued hphase
    · obtain rfl := Option.some.inj h
      exact .retryExport exportEvidence hphase
    · cases h
  | invoke t =>
    simp only [step, Option.bind_eq_bind, Option.bind_eq_some_iff] at h
    obtain ⟨await, hawait, h⟩ := h
    split at h
    · next hcall =>
      obtain rfl := Option.some.inj h
      exact .invoke t await hawait hcall
    · cases h
  | interrupt i =>
    simp only [step, Option.bind_eq_bind, Option.bind_eq_some_iff] at h
    obtain ⟨producer, hproducer, h⟩ := h
    split_ifs at h with hlive
    obtain rfl := Option.some.inj h
    exact .interrupt i producer hproducer hlive
  | settle i result =>
    simp only [step, Option.bind_eq_bind, Option.bind_eq_some_iff] at h
    obtain ⟨producer, hproducer, h⟩ := h
    split_ifs at h with hlive
    obtain rfl := Option.some.inj h
    exact .settle i producer result hproducer hlive
  | fulfilled t =>
    simp only [step, Option.bind_eq_bind, Option.bind_eq_some_iff] at h
    obtain ⟨⟨await, woken⟩, hwake, h⟩ := h
    obtain ⟨hawait, rfl⟩ := wake?_eq_some hwake
    split at h
    · next i hcall =>
      obtain ⟨producer, hproducer, h⟩ := Option.bind_eq_some_iff.1 h
      split at h
      · next value hsettled =>
        obtain rfl := Option.some.inj h
        exact .continues t _ _ hawait (.fulfilled await i producer value hcall hproducer hsettled)
      · cases h
    · cases h
  | rejected t message =>
    simp only [step, Option.bind_eq_bind, Option.bind_eq_some_iff] at h
    obtain ⟨⟨await, woken⟩, hwake, call, hcall, h⟩ := h
    obtain ⟨hawait, rfl⟩ := wake?_eq_some hwake
    cases call with
    | refused =>
      obtain rfl := Option.some.inj h
      exact .continues t _ _ hawait (.refused await _ hcall)
    | queued =>
      obtain rfl := Option.some.inj h
      exact .continues t _ _ hawait (.cancelled await message hcall)
    | running i =>
      simp only [Option.bind_eq_some_iff] at h
      obtain ⟨producer, hproducer, h⟩ := h
      obtain rfl := Option.some.inj h
      exact .continues t _ _ hawait (.rejected await i producer message hcall hproducer)
  | track id =>
    simp only [step, Option.bind_eq_bind, Option.bind_eq_some_iff] at h
    obtain ⟨records, hrecords, h⟩ := h
    split_ifs at h
    obtain rfl := Option.some.inj h
    exact .track records id hrecords
  | cleanupEffect i =>
    simp only [step, Option.bind_eq_bind, Option.bind_eq_some_iff] at h
    obtain ⟨record, hrecord, h⟩ := h
    obtain rfl := Option.some.inj h
    exact .cleanupEffect i record hrecord
  | cleanupFailed i message =>
    simp only [step, Option.bind_eq_bind, Option.bind_eq_some_iff] at h
    obtain ⟨record, hrecord, h⟩ := h
    split_ifs at h with hattempted
    obtain rfl := Option.some.inj h
    exact .cleanupFailed i record message hrecord hattempted
  | log message =>
    obtain rfl := Option.some.inj h
    exact .log message
  | disposed t result =>
    simp only [step, Option.bind_eq_bind, Option.bind_eq_some_iff] at h
    obtain ⟨⟨await, woken⟩, hwake, h⟩ := h
    obtain ⟨hawait, rfl⟩ := wake?_eq_some hwake
    cases await with
    | dispose =>
      obtain rfl := Option.some.inj h
      exact .continues t _ _ hawait (.disposed result)
    | _ => cases h
  | verified t i observation =>
    simp only [step] at h
    split at h
    · next disposalComplete outcomes hawait =>
      split at h
      · simp only [Option.bind_eq_bind, Option.bind_eq_some_iff] at h
        obtain ⟨record, hrecord, h⟩ := h
        obtain rfl := Option.some.inj h
        exact .verified t i disposalComplete outcomes record observation hawait hrecord
      · cases h
    · cases h
  | allVerified t =>
    simp only [step, Option.bind_eq_bind, Option.bind_eq_some_iff] at h
    obtain ⟨⟨await, woken⟩, hwake, h⟩ := h
    obtain ⟨hawait, rfl⟩ := wake?_eq_some hwake
    cases await with
    | verify disposalComplete outcomes =>
      obtain ⟨resourceOutcomes, hall, h⟩ := Option.bind_eq_some_iff.1 h
      obtain rfl := Option.some.inj h
      exact .continues t _ _ hawait (.verified disposalComplete outcomes resourceOutcomes hall)
    | _ => cases h
  | loggingStopped t =>
    simp only [step, Option.bind_eq_bind, Option.bind_eq_some_iff] at h
    obtain ⟨⟨await, woken⟩, hwake, h⟩ := h
    obtain ⟨hawait, rfl⟩ := wake?_eq_some hwake
    cases await with
    | stopLogging disposalComplete outcomes =>
      obtain rfl := Option.some.inj h
      exact .continues t _ _ hawait (.concluded disposalComplete outcomes)
    | _ => cases h

end OwnedRun

end RoboticsRuntime.Host
