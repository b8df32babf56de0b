import RoboticsRuntime.Api.Idempotency

/-!
# The creation of batches and jobs

`domain.ts`: the transactions of `createBatch` and `createJob`, statement by statement, under
read-committed isolation. A statement sees the committed rows. An inserted row becomes visible at the
commit; until then its transaction holds its primary key and its creation key, so that another insert
of one of them waits, and then finds the row in conflict or finds nothing. A call may stop anywhere:
its transaction is rolled back, or its caller never learns of the commit.

Rows are only added, and of their columns only those that closing and configuration write change. Times
are left out, but for whether a batch is closed.
-/

namespace RoboticsRuntime.Api.Creation
open Theory Python

/-! ## Tables -/

/-- What `database.project` finds for the principal of a call. -/
structure Project where
  tenantId : String
  id : String
  principalId : String
  account : String
  deriving DecidableEq, Repr

/-- The primary key of `api.branches`, `api.batches` and `api.experiences`. -/
structure RowKey where
  tenantId : String
  projectId : String
  id : String
  deriving DecidableEq, Repr

/-- A row of `api.branches`. -/
structure Branch where
  key : RowKey
  configSnapshotId : Option String
  deriving DecidableEq, Repr

/-- A row of `api.batches`. -/
structure Batch (δ : Type) where
  key : RowKey
  branchId : String
  name : String
  version : Option String
  account : String
  createdBy : String
  configSnapshotId : Option String
  requestKey : Option String
  requestFingerprint : Option δ
  closed : Bool

/-- A row of `api.experiences`. -/
structure Experience where
  key : RowKey
  name : String
  deriving DecidableEq, Repr

/-- A row of `api.jobs`. Its closing is left out. -/
structure Job (δ : Type) where
  batch : RowKey
  id : String
  experienceId : String
  name : String
  createdBy : String
  requestKey : Option String
  requestFingerprint : Option δ

/-- The columns of `batch_creation_key`. -/
structure BatchCreation where
  tenantId : String
  projectId : String
  createdBy : String
  requestKey : String
  deriving DecidableEq, Repr

/-- The columns of `job_creation_key`. -/
structure JobCreation where
  batch : RowKey
  createdBy : String
  requestKey : String
  deriving DecidableEq, Repr

variable {δ : Type}

/-- The entry of a batch in `batch_creation_key`, which leaves out batches without a key. -/
def Batch.creation (batch : Batch δ) : Option BatchCreation :=
  batch.requestKey.map fun key => ⟨batch.key.tenantId, batch.key.projectId, batch.createdBy, key⟩

/-- The entry of a job in `job_creation_key`. -/
def Job.creation (job : Job δ) : Option JobCreation :=
  job.requestKey.map fun key => ⟨job.batch, job.createdBy, key⟩

/-! ## Requests -/

/-- The arguments of `createBatch`, with its project. -/
structure CreateBatch where
  project : Project
  branchId : String
  batchName : Option String
  version : Option String
  metricsSetName : Option String
  key : Option String
  deriving DecidableEq, Repr

namespace CreateBatch
variable (input : CreateBatch)

/-- What the fingerprint of the request is taken of. -/
def values : List (Option String) := [some input.branchId, input.batchName, input.version]

/-- The entry that the request looks for in `batch_creation_key`. -/
def creation : Option BatchCreation :=
  input.key.map fun key => ⟨input.project.tenantId, input.project.id, input.project.principalId, key⟩

/-- The row that the request inserts. -/
def row (sha256 : PyStr → δ) (id : String) (branch : Branch) : Batch δ where
  key := ⟨input.project.tenantId, input.project.id, id⟩
  branchId := input.branchId
  name := input.batchName.getD id
  version := input.version
  account := input.project.account
  createdBy := input.project.principalId
  configSnapshotId := branch.configSnapshotId
  requestKey := input.key
  requestFingerprint := input.key.map fun _ => creationFingerprint sha256 input.values
  closed := false

end CreateBatch

/-- The arguments of `createJob`, with its project. -/
structure CreateJob where
  project : Project
  batchId : String
  name : String
  key : Option String
  deriving DecidableEq, Repr

namespace CreateJob
variable (input : CreateJob)

/-- What the fingerprint of the request is taken of. -/
def values : List (Option String) := [some input.name]

def batch : RowKey := ⟨input.project.tenantId, input.project.id, input.batchId⟩

/-- The entry that the request looks for in `job_creation_key`. -/
def creation : Option JobCreation :=
  input.key.map fun key => ⟨input.batch, input.project.principalId, key⟩

/-- The row that the request inserts. -/
def row (sha256 : PyStr → δ) (id : String) (experience : Experience) : Job δ where
  batch := input.batch
  id := id
  experienceId := experience.key.id
  name := input.name
  createdBy := input.project.principalId
  requestKey := input.key
  requestFingerprint := input.key.map fun _ => creationFingerprint sha256 input.values

end CreateJob

/-- `response` of `createBatch`, without its constants. -/
structure BatchResponse where
  associatedAccount : String
  batchId : String
  branchId : String
  projectId : String
  orgId : String
  userId : String
  friendlyName : String
  deriving DecidableEq, Repr

def Batch.response (row : Batch δ) : BatchResponse where
  associatedAccount := row.account
  batchId := row.key.id
  branchId := row.branchId
  projectId := row.key.projectId
  orgId := row.key.tenantId
  userId := row.createdBy
  friendlyName := row.name

/-- `response` of `createJob`, without its constants. -/
structure JobResponse where
  jobId : String
  experienceId : String
  experienceName : String
  projectId : String
  batchId : String
  branchId : String
  orgId : String
  userId : String
  deriving DecidableEq, Repr

def Job.response (row : Job δ) (batch : Batch δ) : JobResponse where
  jobId := row.id
  experienceId := row.experienceId
  experienceName := row.name
  projectId := row.batch.projectId
  batchId := row.batch.id
  branchId := batch.branchId
  orgId := row.batch.tenantId
  userId := row.createdBy

/-! ## What a call reads -/

/-- The committed rows, and the responses of the calls that have succeeded. -/
structure Store (δ : Type) where
  branches : List Branch
  batches : List (Batch δ)
  experiences : List Experience
  jobs : List (Job δ)
  batchResponses : List (CreateBatch × BatchResponse)
  jobResponses : List (CreateJob × JobResponse)

def boundElsewhere : ApiError :=
  ⟨409, "Idempotency-Key is already bound to a different creation request"⟩

def checkpointUnavailable : ApiError := ⟨503, "creation checkpoint unavailable; retry the same key"⟩

/-- `retry`, given the rows created under the key of the request. -/
def retry [DecidableEq δ] {ρ : Type} (requestFingerprint : ρ → Option δ) (fingerprint : δ) :
    List ρ → Except ApiError (Option ρ)
  | [] => .ok none
  | row :: _ => do
    require (requestFingerprint row = some fingerprint) boundElsewhere
    .ok (some row)

/-- The rows of an index with an entry. Without a key there is none: `NULL` equals nothing. -/
def rowsOf {ρ κ : Type} [DecidableEq κ] (entry : ρ → Option κ) (rows : List ρ) : Option κ → List ρ
  | none => []
  | some key => rowsWith entry (some key) rows

/-- `retry` of `createBatch`. -/
def CreateBatch.retry [DecidableEq δ] (input : CreateBatch) (sha256 : PyStr → δ) (store : Store δ) :
    Except ApiError (Option (Batch δ)) :=
  Creation.retry Batch.requestFingerprint (creationFingerprint sha256 input.values)
    (rowsOf Batch.creation store.batches input.creation)

/-- `retry` of `createJob`. -/
def CreateJob.retry [DecidableEq δ] (input : CreateJob) (sha256 : PyStr → δ) (store : Store δ) :
    Except ApiError (Option (Job δ)) :=
  Creation.retry Job.requestFingerprint (creationFingerprint sha256 input.values)
    (rowsOf Job.creation store.jobs input.creation)

/-! ## Callers -/

/-- Where a caller stands, and what it has read or inserted. -/
inductive Caller (δ : Type) where
  | idle
  | failed (error : ApiError)
  -- `createBatch`
  | batchBegun (input : CreateBatch)
  | batchMissed (input : CreateBatch)
  | branchLocked (input : CreateBatch) (branch : Branch)
  | batchInserted (input : CreateBatch) (branch : Branch) (row : Batch δ)
  | batchConflict (input : CreateBatch) (branch : Branch)
  | batchFound (input : CreateBatch) (response : BatchResponse)
  -- `createJob`
  | jobBegun (input : CreateJob)
  | batchLocked (input : CreateJob) (batch : Batch δ)
  | jobMissed (input : CreateJob) (batch : Batch δ)
  /-- The experience is found, or it is inserted with the job. -/
  | experienceLocked (input : CreateJob) (batch : Batch δ) (experience : Experience) (inserted : Bool)
  | jobInserted (input : CreateJob) (batch : Batch δ) (experience : Experience) (inserted : Bool)
    (row : Job δ)
  | jobConflict (input : CreateJob) (batch : Batch δ) (experience : Experience) (inserted : Bool)
  | jobFound (input : CreateJob) (response : JobResponse)
  -- the other writers of these rows
  | closing (batch : RowKey)
  | configuring (branch : RowKey)

/-- Rows that a transaction has locked or inserted, by a key. -/
inductive Lock where
  | branch (key : RowKey)
  | batch (key : RowKey)
  | batchCreation (creation : BatchCreation)
  | experience (tenantId projectId name : String)
  | job (batch : RowKey) (id : String)
  | jobCreation (creation : JobCreation)
  deriving DecidableEq

/-- The locks that a caller holds. -/
def Caller.locks : Caller δ → List Lock
  | idle | failed _ | batchBegun _ | batchMissed _ | batchFound .. | jobBegun _ | jobFound .. => []
  | branchLocked _ branch | batchConflict _ branch => [.branch branch.key]
  | batchInserted _ branch row =>
    .branch branch.key :: .batch row.key :: (row.creation.map Lock.batchCreation).toList
  | batchLocked _ batch | jobMissed _ batch => [.batch batch.key]
  | experienceLocked _ batch experience _ | jobConflict _ batch experience _ =>
    [.batch batch.key,
      .experience experience.key.tenantId experience.key.projectId experience.name]
  | jobInserted _ batch experience _ row =>
    .batch batch.key ::
      .experience experience.key.tenantId experience.key.projectId experience.name ::
      .job row.batch row.id :: (row.creation.map Lock.jobCreation).toList
  | closing key => [.batch key]
  | configuring key => [.branch key]

/-- The experiences after a transaction that found or inserted one. -/
def Store.withExperience (store : Store δ) (experience : Experience) (inserted : Bool) :
    List Experience :=
  if inserted then store.experiences ++ [experience] else store.experiences

/-- One statement of a caller. The last statement of a read-only part is also its commit. -/
inductive CallerStep [DecidableEq δ] (sha256 : PyStr → δ) :
    Store δ → Caller δ → Store δ → Caller δ → Prop where
  /-- The caller crashes, loses its connection or has reported its failure. -/
  | stop (store : Store δ) (caller : Caller δ) : CallerStep sha256 store caller store .idle
  -- `createBatch`
  | batchRefuse (input : CreateBatch) (hmetrics : input.metricsSetName ≠ none) :
      CallerStep sha256 store .idle store
        (.failed ⟨400, "metrics configuration is outside this recipe"⟩)
  | batchBegin (input : CreateBatch) (hmetrics : input.metricsSetName = none) :
      CallerStep sha256 store .idle store (.batchBegun input)
  | batchRetryFound (hretry : input.retry sha256 store = .ok (some row)) :
      CallerStep sha256 store (.batchBegun input) store (.batchFound input row.response)
  | batchRetryFailed (hretry : input.retry sha256 store = .error error) :
      CallerStep sha256 store (.batchBegun input) store (.failed error)
  | batchRetryMissed (hretry : input.retry sha256 store = .ok none) :
      CallerStep sha256 store (.batchBegun input) store (.batchMissed input)
  | branchLock (hrows : rowsWith Branch.key ⟨input.project.tenantId, input.project.id, input.branchId⟩
        store.branches = [branch]) :
      CallerStep sha256 store (.batchMissed input) store (.branchLocked input branch)
  | branchMissing (hrows : (rowsWith Branch.key
        ⟨input.project.tenantId, input.project.id, input.branchId⟩ store.branches).length ≠ 1) :
      CallerStep sha256 store (.batchMissed input) store (.failed ⟨404, "branch not found"⟩)
  | batchInsert (id : String)
      (hprimary : rowsWith Batch.key (input.row sha256 id branch).key store.batches = [])
      (hunique : rowsOf Batch.creation store.batches input.creation = []) :
      CallerStep sha256 store (.branchLocked input branch) store
        (.batchInserted input branch (input.row sha256 id branch))
  | batchInsertConflict (hconflict : rowsOf Batch.creation store.batches input.creation ≠ []) :
      CallerStep sha256 store (.branchLocked input branch) store (.batchConflict input branch)
  | batchCommit :
      CallerStep sha256 store (.batchInserted input branch row)
        { store with batches := store.batches ++ [row] } (.batchFound input row.response)
  | batchConflictFound (hretry : input.retry sha256 store = .ok (some row)) :
      CallerStep sha256 store (.batchConflict input branch) store (.batchFound input row.response)
  | batchConflictFailed (hretry : input.retry sha256 store = .error error) :
      CallerStep sha256 store (.batchConflict input branch) store (.failed error)
  | batchConflictMissed (hretry : input.retry sha256 store = .ok none) :
      CallerStep sha256 store (.batchConflict input branch) store (.failed checkpointUnavailable)
  | batchReturn :
      CallerStep sha256 store (.batchFound input response)
        { store with batchResponses := store.batchResponses ++ [(input, response)] } .idle
  -- `createJob`
  | jobBegin (input : CreateJob) : CallerStep sha256 store .idle store (.jobBegun input)
  | batchLock (hrows : rowsWith Batch.key input.batch store.batches = [batch]) :
      CallerStep sha256 store (.jobBegun input) store (.batchLocked input batch)
  | batchMissing (hrows : (rowsWith Batch.key input.batch store.batches).length ≠ 1) :
      CallerStep sha256 store (.jobBegun input) store (.failed ⟨404, "batch not found"⟩)
  | jobRetryFound (hretry : input.retry sha256 store = .ok (some row)) :
      CallerStep sha256 store (.batchLocked input batch) store (.jobFound input (row.response batch))
  | jobRetryFailed (hretry : input.retry sha256 store = .error error) :
      CallerStep sha256 store (.batchLocked input batch) store (.failed error)
  | jobRetryMissed (hretry : input.retry sha256 store = .ok none) :
      CallerStep sha256 store (.batchLocked input batch) store (.jobMissed input batch)
  | jobRefuse (hclosed : batch.closed = true) :
      CallerStep sha256 store (.jobMissed input batch) store (.failed ⟨400, "batch is closed"⟩)
  | experienceFound (hclosed : batch.closed = false) (hm : experience ∈ store.experiences)
      (hkey : experience.key.tenantId = input.project.tenantId ∧
        experience.key.projectId = input.project.id) (hname : experience.name = input.name) :
      CallerStep sha256 store (.jobMissed input batch) store
        (.experienceLocked input batch experience false)
  | experienceInsert (hclosed : batch.closed = false) (id : String)
      (hunique : ∀ experience ∈ store.experiences, experience.key.tenantId = input.project.tenantId →
        experience.key.projectId = input.project.id → experience.name ≠ input.name) :
      CallerStep sha256 store (.jobMissed input batch) store
        (.experienceLocked input batch ⟨⟨input.project.tenantId, input.project.id, id⟩, input.name⟩ true)
  | jobInsert (id : String)
      (hprimary : ∀ job ∈ store.jobs, ¬ (job.batch = input.batch ∧ job.id = id))
      (hunique : rowsOf Job.creation store.jobs input.creation = []) :
      CallerStep sha256 store (.experienceLocked input batch experience inserted) store
        (.jobInserted input batch experience inserted (input.row sha256 id experience))
  | jobInsertConflict (hconflict : rowsOf Job.creation store.jobs input.creation ≠ []) :
      CallerStep sha256 store (.experienceLocked input batch experience inserted) store
        (.jobConflict input batch experience inserted)
  | jobCommit :
      CallerStep sha256 store (.jobInserted input batch experience inserted row)
        { store with
          experiences := store.withExperience experience inserted, jobs := store.jobs ++ [row] }
        (.jobFound input (row.response batch))
  | jobConflictFound (hretry : input.retry sha256 store = .ok (some row)) :
      CallerStep sha256 store (.jobConflict input batch experience inserted)
        { store with experiences := store.withExperience experience inserted }
        (.jobFound input (row.response batch))
  | jobConflictFailed (hretry : input.retry sha256 store = .error error) :
      CallerStep sha256 store (.jobConflict input batch experience inserted) store (.failed error)
  | jobConflictMissed (hretry : input.retry sha256 store = .ok none) :
      CallerStep sha256 store (.jobConflict input batch experience inserted) store
        (.failed checkpointUnavailable)
  | jobReturn :
      CallerStep sha256 store (.jobFound input response)
        { store with jobResponses := store.jobResponses ++ [(input, response)] } .idle
  -- `closeBatch` and `updateMetricsConfig`
  | close (key : RowKey) : CallerStep sha256 store .idle store (.closing key)
  | closeCommit :
      CallerStep sha256 store (.closing key)
        { store with
          batches := updateWith Batch.key key (fun batch => { batch with closed := true })
            store.batches } .idle
  | configure (key : RowKey) : CallerStep sha256 store .idle store (.configuring key)
  | configureCommit (snapshot : String) :
      CallerStep sha256 store (.configuring key)
        { store with
          branches := updateWith Branch.key key
            (fun branch => { branch with configSnapshotId := some snapshot }) store.branches } .idle

variable [DecidableEq δ]

/-- The callers of the API, among them the retries of a call. -/
def callers (sha256 : PyStr → δ) : Threads (Store δ) (Caller δ) Lock where
  step := CallerStep sha256
  holds caller lock := lock ∈ caller.locks

/-- Branches exist, and nothing else: no call has begun. -/
def Initial (c : Threads.Config (Store δ) (Caller δ) ℕ) : Prop :=
  c.shared.batches = [] ∧ c.shared.experiences = [] ∧ c.shared.jobs = [] ∧
    c.shared.batchResponses = [] ∧ c.shared.jobResponses = [] ∧ ∀ i, c.thread i = .idle

/-- One step of some caller. -/
abbrev Step (sha256 : PyStr → δ) :
    Threads.Config (Store δ) (Caller δ) ℕ → Threads.Config (Store δ) (Caller δ) ℕ → Prop :=
  (callers sha256).Step

end RoboticsRuntime.Api.Creation
