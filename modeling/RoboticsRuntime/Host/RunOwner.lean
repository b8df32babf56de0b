import Mathlib.Data.List.Basic
import RoboticsRuntime.Host.Lifecycle

/-!
# The owner of runs

`run-owner/index.ts`. An async function runs without interruption up to its next `await`, so a step
of a run is the code between two of them: an `OwnedRun` holds the places where its functions wait,
and a `RunEvent` is a call of the user, the start or the settlement of a callback, an aborted signal,
a disposer or a log message that Cordis runs, or the continuation of a function that waits. Events
happen in any order. What Cordis logs about a disposer that rejects is the parameter `caught`.
-/

namespace RoboticsRuntime.Host

/-! ## Producers -/

/-- What a callback rejects with: the reason of its own signal, or another error. -/
inductive Rejection where
  | signalReason (message : String)
  | other (message : String)
  deriving DecidableEq, Repr

def Rejection.reason : Rejection → String
  | signalReason message => message
  | other message => message

/-- The value of a readiness probe. The value of a hook is its list of references, and is `ready`. -/
structure BackendReadiness where
  ready : Bool
  evidenceRefs : List ArtifactRef
  deriving DecidableEq, Repr

/-- A lifecycle callback that was invoked, and what it has settled with. -/
structure Producer where
  phase : RunPhase
  interrupted : Bool
  settled : Option (Except Rejection BackendReadiness)

def Producer.live (producer : Producer) : Bool := producer.settled.isNone

/-- A call of `produce` that is awaited: it was refused, the microtask that invokes the callback is
queued, or the callback was invoked. -/
inductive Call where
  | refused
  | queued
  | running (producer : ℕ)
  deriving DecidableEq, Repr

/-! ## Resources -/

structure ResourceRecord where
  id : String
  attempted : Bool
  cleanupError : Option String
  deriving DecidableEq, Repr

structure CleanupObservation where
  released : Bool
  evidenceRefs : List ArtifactRef
  diagnostic : Option String
  deriving DecidableEq, Repr

structure ResourceOutcome where
  id : String
  ownerId : String
  attempted : Bool
  released : Bool
  evidenceRefs : List ArtifactRef
  diagnostic : Option String
  cleanupError : Option String
  deriving DecidableEq, Repr

/-- The resource was cleaned up, and its release is evidenced. -/
def ResourceOutcome.evidenced (outcome : ResourceOutcome) : Bool :=
  outcome.attempted && outcome.released && !outcome.evidenceRefs.isEmpty

/-- The cleanup error of an outcome, which counts unless it is an empty text. -/
def ResourceOutcome.reportedError (outcome : ResourceOutcome) : Option String :=
  outcome.cleanupError.filter (· ≠ "")

/-! ## Runs -/

inductive RunStatus where
  | passed
  | error
  | incomplete
  deriving DecidableEq, Repr

structure RunCompletion where
  runId : String
  status : RunStatus
  phases : List PhaseObservation
  resourceOutcomes : List ResourceOutcome
  evidenceRefs : List ArtifactRef
  errors : List String
  deriving DecidableEq, Repr

/-- Where a function of a run waits, with the local variables that it still needs. -/
inductive Await where
  /-- `RunOwner.start` waits for the fiber of the next binding, or for the last check. -/
  | composition (bindings : List String)
  | probe (call : Call) (binding : String) (bindings : List String)
  | stage (phase : RunPhase) (call : Call) (exportEvidence : Bool)
  | exportEvidence (call : Call)
  | dispose
  | verify (disposalComplete : Bool) (outcomes : List (Option ResourceOutcome))
  | stopLogging (disposalComplete : Bool) (outcomes : List ResourceOutcome)
  deriving DecidableEq, Repr

/-- The call of `produce` for which a function waits. -/
def Await.call? : Await → Option Call
  | probe call _ _ => some call
  | stage _ call _ => some call
  | exportEvidence call => some call
  | _ => none

def Await.setCall (call : Call) : Await → Await
  | probe _ binding bindings => probe call binding bindings
  | stage phase _ exports => stage phase call exports
  | exportEvidence _ => exportEvidence call
  | await => await

/-- The phase of the callback for which a function waits. -/
def Await.phase : Await → RunPhase
  | stage phase _ _ => phase
  | exportEvidence _ => .exportingEvidence
  | _ => .preloading

/-- An `OwnedRun`. `producers` and `cleanupAdmitted` are its entries of the tables of this name,
`produced` lists every callback that was invoked, `cleanups` the resources whose `cleanup` was
invoked, `releases` counts the calls of `releaseOwner`, and `issued` says that the caller of `start`
has the run. -/
structure OwnedRun where
  runId : String
  phase : RunPhase
  phases : List PhaseObservation
  evidenceRefs : List ArtifactRef
  errors : List String
  capturedErrors : List String
  resources : Option (List ResourceRecord)
  completed : Bool
  stages : List (RunPhase × Bool)
  nextStage : ℕ
  logging : Bool
  producers : Option ℕ
  cleanupAdmitted : Bool
  produced : List Producer
  cleanups : List String
  releases : ℕ
  issued : Bool
  awaits : List Await
  completions : List RunCompletion

/-- A run as `start` makes it for an admitted profile with these bindings. -/
def OwnedRun.create (runId : String) (bindings : List String) : OwnedRun where
  runId := runId
  phase := .preloading
  phases := []
  evidenceRefs := []
  errors := []
  capturedErrors := []
  resources := none
  completed := false
  stages := []
  nextStage := 0
  logging := true
  producers := none
  cleanupAdmitted := false
  produced := []
  cleanups := []
  releases := 0
  issued := false
  awaits := [.composition bindings]
  completions := []

namespace OwnedRun
variable (run : OwnedRun)

def suspend (await : Await) : OwnedRun := { run with awaits := run.awaits ++ [await] }

def pass (phase : RunPhase) : OwnedRun :=
  { run with phases := run.phases ++ [⟨phase, .passed, none⟩] }

def fail (phase : RunPhase) (diagnostic : String) : OwnedRun :=
  { run with
    errors := run.errors ++ [diagnostic]
    phases := run.phases ++ [⟨phase, .error, some diagnostic⟩] }

/-- The part of `produce` before its callback is invoked. -/
def produce : Call := if run.producers.isSome then .refused else .queued

/-- `RunResources.pending`. -/
def pending : List ResourceOutcome :=
  (run.resources.getD []).map fun record =>
    { id := record.id
      ownerId := run.runId
      attempted := record.attempted
      released := false
      evidenceRefs := []
      diagnostic := some "destructive cleanup deferred until retained evidence export succeeds"
      cleanupError := record.cleanupError }

def retained (diagnostic : String) : OwnedRun :=
  let phases := run.phases ++ [⟨.retained, .error, some diagnostic⟩]
  { run with
    phase := .retained
    phases := phases
    completions := run.completions ++
      [⟨run.runId, .incomplete, phases, run.pending, run.evidenceRefs, run.errors⟩] }

/-- The handler of a failed export. -/
def exportFailed (diagnostic : String) : OwnedRun :=
  let run := run.fail .exportingEvidence diagnostic
  run.retained (if run.producers.isSome then
      "evidence export producer has not settled; destructive cleanup is deferred"
    else "evidence export failed; destructive cleanup is deferred")

def exportAndCleanup (exportEvidence : Bool) : OwnedRun :=
  let run := { run with phase := .exportingEvidence }
  if exportEvidence then run.suspend (.exportEvidence run.produce)
  else run.exportFailed "evidence export producer is missing"

/-- The loop of `resume` over the stages that are left. -/
def resumeStages (exportEvidence : Bool) : List (RunPhase × Bool) → OwnedRun → OwnedRun
  | [], run => run.exportAndCleanup exportEvidence
  | (phase, work) :: stages, run =>
    let run := { run with nextStage := run.nextStage + 1, phase := phase }
    if work then run.suspend (.stage phase run.produce exportEvidence)
    else resumeStages exportEvidence stages
      (run.fail phase ("lifecycle stage has no evidence producer: " ++ phase.text))

/-- The phase of the producer in the table. -/
def pendingPhase? : Option RunPhase := do
  let producer ← run.producers
  return (← run.produced[producer]?).phase

def resume (exportEvidence : Bool) : OwnedRun :=
  match run.pendingPhase? with
  | some phase => run.retained
      ("producer " ++ phase.text ++ " has not settled; export and cleanup are deferred")
  | none => resumeStages exportEvidence (run.stages.drop run.nextStage) run

def complete (hooks : CompletionHooks) : OwnedRun :=
  let run := if run.phase = .measuring then run
    else { run with errors := run.errors ++ ["measurement was not started"] }
  resume { run with
    stages := [(.closingMeasurement, hooks.closeMeasurement),
      (.capturingLastState, hooks.captureLastState), (.drainingRecorders, hooks.drainRecorders)] }
    hooks.exportEvidence

def beginMeasurement : Except String OwnedRun :=
  if run.phase = .ready then .ok ({ run with phase := .measuring }.pass .measuring)
  else .error "measurement requires admitted ready composition"

def finish (hooks : CompletionHooks) : OwnedRun :=
  if run.completed then run else { run.complete hooks with completed := true }

def retryExport (exportEvidence : Bool) : Except String OwnedRun :=
  if run.phase = .retained then .ok (run.resume exportEvidence)
  else .error "only retained runs can retry export"

/-- The handler of a failed start. -/
def startFailed (diagnostic : String) : OwnedRun :=
  { (run.fail .preloading diagnostic).finish .absent with issued := true }

/-! ### Steps -/

/-- The microtask of `produce` that invokes the callback of a waiting function. -/
def invoke (await : Await) : OwnedRun :=
  { run with
    produced := run.produced ++ [⟨await.phase, false, none⟩]
    producers := some run.produced.length }

/-- `settled`, the end of a callback, for a producer that was invoked. -/
def settle (i : ℕ) (producer : Producer) (result : Except Rejection BackendReadiness) :
    OwnedRun :=
  let run := { run with
    produced := run.produced.set i { producer with settled := some result }
    producers := none }
  match result with
  | .ok value => { run with evidenceRefs := run.evidenceRefs ++ value.evidenceRefs }
  | .error (.signalReason _) => run
  | .error (.other message) =>
    if producer.interrupted then
      { run with errors := run.errors ++
          ["producer " ++ producer.phase.text ++ " settled after interruption: " ++ message] }
    else run

/-- A signal is aborted while its callback runs. -/
def interrupt (i : ℕ) (producer : Producer) : OwnedRun :=
  { run with produced := run.produced.set i { producer with interrupted := true } }

/-- The continuation of a function whose call of `produce` succeeds. -/
def fulfilled (value : BackendReadiness) : Await → OwnedRun
  | .probe _ binding bindings =>
    if value.ready && !value.evidenceRefs.isEmpty then run.suspend (.composition bindings)
    else run.startFailed ("backend has no observed readiness: " ++ binding)
  | .stage phase _ exportEvidence =>
    resumeStages exportEvidence (run.stages.drop run.nextStage) (run.pass phase)
  | .exportEvidence _ =>
    if value.evidenceRefs.isEmpty then
      run.exportFailed "evidence export returned no retained references"
    else
      { { run with cleanupAdmitted := true }.pass .exportingEvidence with
        phase := .disposing }.suspend .dispose
  | _ => run

/-- The continuation of a function whose call of `produce` fails. -/
def rejected (diagnostic : String) : Await → OwnedRun
  | .probe .. => run.startFailed diagnostic
  | .stage phase _ exportEvidence =>
    let run := run.fail phase diagnostic
    if run.producers.isSome then
      run.retained
        ("producer " ++ phase.text ++ " has not settled; dependent stages are deferred")
    else resumeStages exportEvidence (run.stages.drop run.nextStage) run
  | .exportEvidence _ => run.exportFailed diagnostic
  | _ => run

/-- The logging exporter, for an error of the fiber of the run. -/
def log (message : String) : OwnedRun :=
  if !run.logging then run
  else if run.capturedErrors.length < 1000 then
    { run with capturedErrors := run.capturedErrors ++ [message] }
  else if "Cordis error log overflow" ∈ run.errors then run
  else { run with errors := run.errors ++ ["Cordis error log overflow"] }

def updateRecord (i : ℕ) (record : ResourceRecord) : OwnedRun :=
  { run with resources := run.resources.map (·.set i record) }

/-- Why the cleanup of a resource is refused. -/
def cleanupRefusal (id : String) : Option String :=
  match run.pendingPhase? with
  | some phase =>
    some ("resource " ++ id ++ " cleanup refused while producer " ++ phase.text ++ " is unsettled")
  | none =>
    if run.cleanupAdmitted then none
    else some ("resource " ++ id ++ " cleanup refused before retained evidence export succeeds")

/-- The effect of `RunResources.track`, up to the call of `cleanup`. -/
def cleanupEffect (i : ℕ) (record : ResourceRecord) : OwnedRun :=
  match run.cleanupRefusal record.id with
  | some diagnostic =>
    let run := run.updateRecord i { record with cleanupError := some diagnostic }
    { run with errors := run.errors ++ [diagnostic] }
  | none =>
    let run := run.updateRecord i { record with attempted := true }
    { run with cleanups := run.cleanups ++ [record.id] }

/-- The outcome of a resource that was asked for its cleanup. -/
def outcome (record : ResourceRecord) (observation : Except String CleanupObservation) :
    ResourceOutcome :=
  match observation with
  | .ok observed => ⟨record.id, run.runId, record.attempted, observed.released,
      observed.evidenceRefs, observed.diagnostic, record.cleanupError⟩
  | .error diagnostic => ⟨record.id, run.runId, record.attempted, false, [], some diagnostic,
      record.cleanupError⟩

/-- What follows the verification of the resources, up to the end of the logging. -/
def verified (disposalComplete : Bool) (resourceOutcomes : List ResourceOutcome) : OwnedRun :=
  let cleanupObserved := !resourceOutcomes.isEmpty
  let cleanupPassed := cleanupObserved &&
    resourceOutcomes.all fun outcome => outcome.evidenced && outcome.reportedError.isNone
  suspend { run with
    logging := false
    evidenceRefs := run.evidenceRefs ++ resourceOutcomes.flatMap (·.evidenceRefs)
    errors := run.errors ++
      (if cleanupObserved && !cleanupPassed then
        ["independent resource cleanup verification failed"] else []) ++
      resourceOutcomes.filterMap (·.reportedError) ++ run.capturedErrors.map ("Cordis: " ++ ·)
    phases := run.phases ++
      [⟨.verifyingCleanup,
        if cleanupPassed && run.capturedErrors.isEmpty then .passed else .error,
        if cleanupObserved then none
        else some "no resource cleanup observations are available"⟩] }
    (.stopLogging disposalComplete resourceOutcomes)

/-- The verification of the cleanup begins. Without resources there is nothing to wait for. -/
def verifying (disposalComplete : Bool) : OwnedRun :=
  match run.resources with
  | none => run.verified disposalComplete []
  | some records => run.suspend (.verify disposalComplete (records.map fun _ => none))

/-- What follows the disposal of the fiber; `true` is an observed `DISPOSED`. -/
def disposed (result : Except String Bool) : OwnedRun :=
  let (disposalComplete, run) : Bool × OwnedRun := match result with
    | .ok true => (true, run.pass .disposing)
    | .ok false =>
      (false, run.fail .disposing "Cordis dispose resolved without observed DISPOSED state")
    | .error diagnostic => (false, run.fail .disposing diagnostic)
  { run with phase := .verifyingCleanup }.verifying disposalComplete

/-- The end of a run that was cleaned up. -/
def concluded (disposalComplete : Bool) (resourceOutcomes : List ResourceOutcome) : OwnedRun :=
  let status := if !run.errors.isEmpty then RunStatus.error
    else if !resourceOutcomes.isEmpty then .passed else .incomplete
  let phase := if status = .passed then RunPhase.completed else .error
  let phases := run.phases ++
    [⟨phase, if status = .passed then .passed else .error, none⟩]
  { run with
    phase := phase
    phases := phases
    releases := if disposalComplete && !resourceOutcomes.isEmpty &&
        resourceOutcomes.all (·.evidenced) then run.releases + 1 else run.releases
    completions := run.completions ++
      [⟨run.runId, status, phases, resourceOutcomes, run.evidenceRefs, run.errors⟩] }

end OwnedRun

inductive RunEvent where
  /-- The plugin of `start` provides the resources. -/
  | provideResources
  /-- The next fiber that `start` waits for is active. -/
  | composed (t : ℕ)
  | startFailed (t : ℕ) (message : String)
  | beginMeasurement
  | finish (hooks : CompletionHooks)
  | retryExport (exportEvidence : Bool)
  | invoke (t : ℕ)
  | interrupt (i : ℕ)
  | settle (i : ℕ) (result : Except Rejection BackendReadiness)
  | fulfilled (t : ℕ)
  /-- A deadline, a cancelled start or the error of a callback ends a call of `produce`. -/
  | rejected (t : ℕ) (message : String)
  | track (id : String)
  | cleanupEffect (i : ℕ)
  | cleanupFailed (i : ℕ) (message : String)
  | log (message : String)
  | disposed (t : ℕ) (result : Except String Bool)
  | verified (t i : ℕ) (observation : Except String CleanupObservation)
  | allVerified (t : ℕ)
  | loggingStopped (t : ℕ)

namespace OwnedRun

/-- The function that waits at `t`, and the run without it. -/
def wake? (run : OwnedRun) (t : ℕ) : Option (Await × OwnedRun) :=
  run.awaits[t]?.map fun await => (await, { run with awaits := run.awaits.eraseIdx t })

/-- The resource that was tracked as the `i`-th. -/
def record? (run : OwnedRun) (i : ℕ) : Option ResourceRecord := run.resources.bind (·[i]?)

/-- The run after an event, when the event can happen. -/
def step (caught : String → Option String) (run : OwnedRun) : RunEvent → Option OwnedRun
  | .provideResources =>
    if run.resources.isNone then some { run with resources := some [] } else none
  | .composed t => do
    let (.composition bindings, run) ← run.wake? t | none
    match bindings with
    | binding :: bindings => return run.suspend (.probe run.produce binding bindings)
    | [] => return { (run.pass .preloading).pass .ready with phase := .ready, issued := true }
  | .startFailed t message => do
    let (.composition _, run) ← run.wake? t | none
    return run.startFailed message
  | .beginMeasurement => if run.issued then run.beginMeasurement.toOption else none
  | .finish hooks => if run.issued then some (run.finish hooks) else none
  | .retryExport exportEvidence =>
    if run.issued then (run.retryExport exportEvidence).toOption else none
  | .invoke t => do
    let await ← run.awaits[t]?
    let some .queued := await.call? | none
    return { run.invoke await with
      awaits := run.awaits.set t (await.setCall (.running run.produced.length)) }
  | .interrupt i => do
    let producer ← run.produced[i]?
    if producer.live then return run.interrupt i producer else none
  | .settle i result => do
    let producer ← run.produced[i]?
    if producer.live then return run.settle i producer result else none
  | .fulfilled t => do
    let (await, run) ← run.wake? t
    let some (.running i) := await.call? | none
    let some (.ok value) := (← run.produced[i]?).settled | none
    return run.fulfilled value await
  | .rejected t message => do
    let (await, run) ← run.wake? t
    match ← await.call? with
    | .refused => return run.rejected "a lifecycle producer is still active" await
    | .queued => return run.rejected message await
    | .running i => return (run.interrupt i (← run.produced[i]?)).rejected message await
  | .track id => do
    let records ← run.resources
    if records.any (·.id = id) then none
    else return { run with resources := some (records ++ [⟨id, false, none⟩]) }
  | .cleanupEffect i => return run.cleanupEffect i (← run.record? i)
  | .cleanupFailed i message => do
    let record ← run.record? i
    if record.attempted then
      let run := run.updateRecord i { record with cleanupError := some message }
      return (caught message).elim run run.log
    else none
  | .log message => some (run.log message)
  | .disposed t result => do
    let (.dispose, run) ← run.wake? t | none
    return run.disposed result
  | .verified t i observation => do
    let some (.verify disposalComplete outcomes) := run.awaits[t]? | none
    let some none := outcomes[i]? | none
    return { run with awaits := run.awaits.set t (.verify disposalComplete
      (outcomes.set i (some (run.outcome (← run.record? i) observation)))) }
  | .allVerified t => do
    let (.verify disposalComplete outcomes, run) ← run.wake? t | none
    return run.verified disposalComplete (← outcomes.mapM id)
  | .loggingStopped t => do
    let (.stopLogging disposalComplete outcomes, run) ← run.wake? t | none
    return run.concluded disposalComplete outcomes

end OwnedRun

/-! ## The owner -/

/-- A `RunOwner`: the run IDs that it has reserved, those whose profile is being admitted, and its
runs. -/
structure RunOwner where
  active : List String
  admissions : List String
  runs : List OwnedRun

inductive OwnerEvent where
  | start (runId : String)
  | admissionFailed (runId : String)
  | admitted (runId : String) (bindings : List String)
  | run (i : ℕ) (event : RunEvent)

namespace RunOwner

/-- `start`, up to the admission of the profile. -/
def start (owner : RunOwner) (runId : String) : Except String RunOwner :=
  if runId ∈ owner.active then .error "run ID is already owned"
  else .ok { owner with
    active := owner.active ++ [runId]
    admissions := owner.admissions ++ [runId] }

/-- `active.delete`. -/
def delete (owner : RunOwner) (runId : String) : RunOwner :=
  { owner with active := owner.active.filter (· ≠ runId) }

/-- The owner after an event, when the event can happen. -/
def step (caught : String → Option String) (owner : RunOwner) : OwnerEvent → Option RunOwner
  | .start runId => (owner.start runId).toOption
  | .admissionFailed runId =>
    if runId ∈ owner.admissions then
      some ({ owner with admissions := owner.admissions.erase runId }.delete runId)
    else none
  | .admitted runId bindings =>
    if runId ∈ owner.admissions then
      some { owner with
        admissions := owner.admissions.erase runId
        runs := owner.runs ++ [.create runId bindings] }
    else none
  | .run i event => do
    let run ← owner.runs[i]?
    let run' ← run.step caught event
    let owner := { owner with runs := owner.runs.set i run' }
    return if run.releases < run'.releases then owner.delete run.runId else owner

end RunOwner

end RoboticsRuntime.Host
