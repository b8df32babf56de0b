import Mathlib.Data.List.Sort
import Mathlib.Data.String.Basic
import RoboticsRuntime.Theory.Checks
import RoboticsRuntime.Theory.Interleaving
import RoboticsRuntime.Theory.Table

/-!
# The custody of registered uploads

`domain.ts`: the transactions of `createJob`, `registerLog`, `closeJob` and `closeBatch` over the
tables `batches`, `jobs`, `uploads` and `upload_proofs`. A transaction first locks a row and reads
it, then reads what it needs, and at its commit what it writes becomes visible. Between any two of
these statements other callers take steps, and a caller may stop: its transaction is then rolled
back and its locks are released. Times are kept as whether they are set; the tenant, the project and
the batch of a row are its `BatchKey`. Experiences, which nothing reads again, are left out.
-/

namespace RoboticsRuntime.Api
open Theory

/-- `database.ApiError`. -/
structure ApiError where
  status : ℕ
  message : String
  deriving DecidableEq, Repr

/-- The bounds of a `Domain` and of its `UploadStorage`, which their constructors check. -/
structure Limits where
  maximumUploads : ℕ
  maximumBytes : ℕ
  one_le_maximumUploads : 1 ≤ maximumUploads
  maximumUploads_le : maximumUploads ≤ 4096
  one_le_maximumBytes : 1 ≤ maximumBytes
  maximumBytes_le : maximumBytes ≤ 1073741824

/-! ## Tables -/

/-- The primary key of `api.batches`. -/
structure BatchKey where
  tenantId : String
  projectId : String
  batchId : String
  deriving DecidableEq, Repr

/-- The primary key of `api.jobs`. -/
structure JobKey where
  batch : BatchKey
  jobId : String
  deriving DecidableEq, Repr

/-- The primary key of `api.uploads`. -/
structure UploadKey where
  job : JobKey
  id : String
  deriving DecidableEq, Repr

/-- A row of `api.batches`. -/
structure Batch where
  key : BatchKey
  closed : Bool
  deriving DecidableEq, Repr

/-- The admitted values of `close_status`. -/
inductive CloseStatus where
  | succeeded
  | error
  deriving DecidableEq, Repr

/-- A row of `api.jobs`. -/
structure Job where
  key : JobKey
  name : String
  createdBy : String
  requestKey : Option String
  requestFingerprint : Option String
  closeStatus : Option CloseStatus
  closeError : Option String
  closed : Bool
  deriving DecidableEq, Repr

/-- A row of `api.uploads`. -/
structure Upload where
  key : UploadKey
  fileName : String
  checksum : String
  sizeBytes : ℕ
  mediaType : String
  logType : String
  objectKey : String
  versionId : Option String
  retained : Bool
  deriving DecidableEq, Repr

/-- The admitted values of `role`, in the order in which the worker returns them. -/
inductive ProofRole where
  | receipt
  | verification
  | statement
  | trustPolicy
  | signature
  deriving DecidableEq, Repr

def ProofRole.all : List ProofRole := [receipt, verification, statement, trustPolicy, signature]

/-- What `Retention.retain` returns for the version of an upload: one proof for each role. -/
structure ProofSet where
  versionId : String
  raw : ProofRole → String
  sha256 : ProofRole → String

/-- A row of `api.upload_proofs`, with the version that its worker was given. -/
structure UploadProof where
  upload : UploadKey
  role : ProofRole
  raw : String
  sha256 : String
  versionId : String
  deriving DecidableEq, Repr

/-- The committed rows. -/
structure Database where
  batches : List Batch
  jobs : List Job
  uploads : List Upload
  proofs : List UploadProof

namespace Database
variable (db : Database)

/-- `SELECT ... FROM api.batches` by primary key. -/
def batchRows (k : BatchKey) : List Batch := rowsWith Batch.key k db.batches

/-- `SELECT ... FROM api.jobs` by primary key. -/
def jobRows (k : JobKey) : List Job := rowsWith Job.key k db.jobs

/-- `SELECT ... FROM api.jobs` of a batch. -/
def jobsOf (k : BatchKey) : List Job := rowsWith (fun job : Job => job.key.batch) k db.jobs

/-- `SELECT ... FROM api.uploads` by primary key. -/
def uploadRows (k : UploadKey) : List Upload := rowsWith Upload.key k db.uploads

/-- `SELECT ... FROM api.uploads` of a job. -/
def uploadsOf (k : JobKey) : List Upload := rowsWith (fun upload : Upload => upload.key.job) k db.uploads

/-- The proofs of an upload. -/
def proofsOf (k : UploadKey) : List UploadProof := rowsWith UploadProof.upload k db.proofs

end Database

/-- The rows of a proof set. -/
def ProofSet.rows (proofs : ProofSet) (k : UploadKey) : List UploadProof :=
  ProofRole.all.map fun role => ⟨k, role, proofs.raw role, proofs.sha256 role, proofs.versionId⟩

/-! ## What the transactions check -/

/-- The input of `createJob`, with the fingerprint that its key is bound to. -/
structure CreateJob where
  batch : BatchKey
  principal : String
  name : String
  requestKey : Option String
  fingerprint : String
  deriving DecidableEq, Repr

/-- The jobs created under the key of a request. -/
def CreateJob.previous (input : CreateJob) (db : Database) : List Job :=
  (db.jobsOf input.batch).filter fun job =>
    job.createdBy = input.principal && input.requestKey.isSome && job.requestKey = input.requestKey

/-- What `createJob` finds in the locked batch: the job it created before, or room for a new one. -/
def CreateJob.check (input : CreateJob) (db : Database) (batch : Batch) :
    Except ApiError (Option Job) :=
  match input.previous db with
  | job :: _ => do
    require (job.requestFingerprint = some input.fingerprint)
      ⟨409, "Idempotency-Key is already bound to a different creation request"⟩
    return some job
  | [] => do
    require (batch.closed = false) ⟨400, "batch is closed"⟩
    return none

/-- The row that `createJob` inserts. -/
def CreateJob.row (input : CreateJob) (id : String) : Job where
  key := ⟨input.batch, id⟩
  name := input.name
  createdBy := input.principal
  requestKey := input.requestKey
  requestFingerprint := input.requestKey.map fun _ => input.fingerprint
  closeStatus := none
  closeError := none
  closed := false

/-- The input of `registerLog`. -/
structure RegisterLog where
  job : JobKey
  fileName : String
  fileSize : ℕ
  checksum : String
  logType : Option String
  deriving DecidableEq, Repr

/-- `logType ?? ...`. -/
def RegisterLog.kind (input : RegisterLog) : String :=
  input.logType.getD (if input.fileName.endsWith ".resim.jsonl" then "EMISSIONS_LOG" else "OTHER_LOG")

/-- `uploads.mediaType`. -/
def mediaType (fileName logType : String) : String :=
  if logType = "EMISSIONS_LOG" then "application/x-ndjson"
  else if fileName.endsWith ".png" then "image/png"
  else if fileName.endsWith ".jsonl" then "application/x-ndjson"
  else if fileName.endsWith ".json" then "application/json"
  else "text/plain"

/-- What `registerLog` finds in the locked job: the upload it registered before, or room for a new
one. -/
def RegisterLog.check (input : RegisterLog) (limits : Limits) (db : Database) (job : Job) :
    Except ApiError (Option Upload) :=
  match (db.uploadsOf input.job).filter fun upload => upload.fileName = input.fileName with
  | row :: _ => do
    require (row.checksum = input.checksum ∧ row.sizeBytes = input.fileSize ∧
        row.logType = input.kind ∧ row.mediaType = mediaType input.fileName input.kind)
      ⟨409, "log name already has another registered identity"⟩
    require (¬ (job.closeStatus ≠ none ∧ (job.closed ∨ row.versionId ≠ none ∨ row.retained)))
      ⟨400, "bound or closed upload cannot be renewed"⟩
    return some row
  | [] => do
    require (job.closeStatus = none) ⟨400, "job is closing or closed"⟩
    require ((db.uploadsOf input.job).length < limits.maximumUploads)
      ⟨400, "registered upload count exceeds this recipe"⟩
    return none

/-- The row that `registerLog` inserts. -/
def RegisterLog.row (input : RegisterLog) (id : String) : Upload where
  key := ⟨input.job, id⟩
  fileName := input.fileName
  checksum := input.checksum
  sizeBytes := input.fileSize
  mediaType := mediaType input.fileName input.kind
  logType := input.kind
  objectKey := "/".intercalate [input.job.batch.tenantId, input.job.batch.projectId,
    input.job.batch.batchId, input.job.jobId, id, "payload"]
  versionId := none
  retained := false

/-- The input of `closeJob`. -/
structure CloseJob where
  job : JobKey
  status : CloseStatus
  errorMessage : Option String
  deriving DecidableEq, Repr

/-- What `closeJob` asks of its input and of the locked job before it claims it. -/
def CloseJob.check (input : CloseJob) (job : Job) : Except ApiError Unit := do
  require (input.status = .error ∨ input.errorMessage = none)
    ⟨400, "errorMessage requires ERROR status"⟩
  require (job.closeStatus = none ∨
      (job.closeStatus = some input.status ∧ job.closeError = input.errorMessage))
    ⟨409, "job already has another close claim"⟩

/-! ## What the transactions write -/

namespace Database
variable (db : Database)

/-- `INSERT INTO api.jobs`. -/
def insertJob (job : Job) : Database := { db with jobs := db.jobs ++ [job] }

/-- `INSERT INTO api.uploads`. -/
def insertUpload (upload : Upload) : Database := { db with uploads := db.uploads ++ [upload] }

/-- `UPDATE api.jobs SET close_status, close_error`. -/
def claimJob (k : JobKey) (status : CloseStatus) (error : Option String) : Database :=
  { db with
    jobs := updateWith Job.key k
      (fun job => { job with closeStatus := some status, closeError := error }) db.jobs }

/-- `UPDATE api.jobs SET closed_at`. -/
def closeJob (k : JobKey) : Database :=
  { db with jobs := updateWith Job.key k (fun job => { job with closed := true }) db.jobs }

/-- `UPDATE api.uploads SET version_id`. -/
def bindVersion (k : UploadKey) (versionId : String) : Database :=
  { db with
    uploads := updateWith Upload.key k
      (fun upload => { upload with versionId := some versionId }) db.uploads }

/-- `INSERT INTO api.upload_proofs`, and `UPDATE api.uploads SET retained_at`. -/
def retainUpload (k : UploadKey) (proofs : ProofSet) : Database :=
  { db with
    uploads := updateWith Upload.key k (fun upload => { upload with retained := true }) db.uploads
    proofs := db.proofs ++ proofs.rows k }

/-- `UPDATE api.batches SET closed_at`. -/
def closeBatch (k : BatchKey) : Database :=
  { db with
    batches := updateWith Batch.key k (fun batch => { batch with closed := true }) db.batches }

end Database

/-! ## Callers -/

/-- Where a caller stands, and what it has read. -/
inductive Caller where
  | idle
  | createJobLocked (input : CreateJob) (batch : Batch)
  | createJobChecked (input : CreateJob)
  | registerLogLocked (input : RegisterLog) (job : Job)
  | registerLogChecked (input : RegisterLog)
  | claimLocked (input : CloseJob) (job : Job)
  | claimChecked (input : CloseJob) (job : Job) (ids : List UploadKey)
  /-- The uploads that are still to be taken into custody. -/
  | custody (job : JobKey) (ids : List UploadKey)
  /-- The advisory lock of the first one is held. -/
  | custodyLocked (job : JobKey) (id : UploadKey) (ids : List UploadKey)
  | custodyRead (job : JobKey) (upload : Upload) (ids : List UploadKey)
  | versionRead (job : JobKey) (upload : Upload) (versionId : String) (ids : List UploadKey)
  | versionLocked (job : JobKey) (upload : Upload) (versionId : String) (ids : List UploadKey)
  | versionBound (job : JobKey) (upload : UploadKey) (versionId : String) (ids : List UploadKey)
  | retained (job : JobKey) (upload : UploadKey) (proofs : ProofSet) (ids : List UploadKey)
  | retentionLocked (job : JobKey) (upload : UploadKey) (proofs : ProofSet) (ids : List UploadKey)
  | custodyDone (job : JobKey) (id : UploadKey) (ids : List UploadKey)
  | closeLocked (job : Job)
  | closeChecked (job : Job)
  | closeBatchLocked (batch : Batch)
  | closeBatchChecked (batch : Batch)

/-- Row locks, and the session locks on the ids of uploads. -/
inductive Lock where
  | batch (k : BatchKey)
  | job (k : JobKey)
  | upload (k : UploadKey)
  | advisory (id : String)
  deriving DecidableEq, Repr

/-- The locks that a caller holds. -/
def Caller.locks : Caller → List Lock
  | idle | custody .. => []
  | createJobLocked input _ | createJobChecked input => [.batch input.batch]
  | registerLogLocked input _ | registerLogChecked input => [.job input.job]
  | claimLocked input _ | claimChecked input _ _ => [.job input.job]
  | custodyLocked _ id _ | custodyDone _ id _ => [.advisory id.id]
  | custodyRead _ upload _ | versionRead _ upload _ _ => [.advisory upload.key.id]
  | versionLocked _ upload _ _ => [.advisory upload.key.id, .upload upload.key]
  | versionBound _ upload _ _ | retained _ upload _ _ => [.advisory upload.id]
  | retentionLocked _ upload _ _ => [.advisory upload.id, .upload upload]
  | closeLocked job | closeChecked job => [.job job.key]
  | closeBatchLocked batch | closeBatchChecked batch => [.batch batch.key]

/-- One statement of a caller, or a part of a call outside of the database. -/
inductive CallerStep (limits : Limits) : Database → Caller → Database → Caller → Prop where
  /-- A call returns or fails, or its caller crashes or loses its connection. -/
  | stop (db : Database) (caller : Caller) : CallerStep limits db caller db .idle
  -- `createJob`
  | createJobLock (input : CreateJob) (hrows : db.batchRows input.batch = [batch]) :
      CallerStep limits db .idle db (.createJobLocked input batch)
  | createJobCheck (hcheck : input.check db batch = .ok none) :
      CallerStep limits db (.createJobLocked input batch) db (.createJobChecked input)
  | createJobCommit (id : String) (hprimary : db.jobRows ⟨input.batch, id⟩ = [])
      (hunique : input.previous db = []) :
      CallerStep limits db (.createJobChecked input) (db.insertJob (input.row id)) .idle
  -- `registerLog`
  | registerLogLock (input : RegisterLog) (hsize : input.fileSize ≤ limits.maximumBytes)
      (hrows : db.jobRows input.job = [job]) :
      CallerStep limits db .idle db (.registerLogLocked input job)
  | registerLogCheck (hcheck : input.check limits db job = .ok none) :
      CallerStep limits db (.registerLogLocked input job) db (.registerLogChecked input)
  | registerLogCommit (id : String) (hprimary : db.uploadRows ⟨input.job, id⟩ = [])
      (hunique : ∀ upload ∈ db.uploadsOf input.job, upload.fileName ≠ input.fileName) :
      CallerStep limits db (.registerLogChecked input) (db.insertUpload (input.row id)) .idle
  -- the first transaction of `closeJob`
  | claimLock (input : CloseJob) (hrows : db.jobRows input.job = [job]) :
      CallerStep limits db .idle db (.claimLocked input job)
  | claimCheck (hcheck : input.check job = .ok ()) :
      CallerStep limits db (.claimLocked input job) db (.claimChecked input job
        (if job.closed then [] else
          ((db.uploadsOf input.job).map Upload.key).insertionSort fun a b => a.id ≤ b.id))
  | claimCommit :
      CallerStep limits db (.claimChecked input job ids)
        (if job.closeStatus = none then db.claimJob input.job input.status input.errorMessage else db)
        (.custody input.job ids)
  -- the loop of `closeJob` over its uploads
  | custodyLock : CallerStep limits db (.custody job (k :: ids)) db (.custodyLocked job k ids)
  | custodyRead (hrows : db.uploadRows k = [upload]) :
      CallerStep limits db (.custodyLocked job k ids) db (.custodyRead job upload ids)
  | alreadyRetained (hretained : upload.retained = true) :
      CallerStep limits db (.custodyRead job upload ids) db (.custodyDone job upload.key ids)
  | alreadyBound (hretained : upload.retained = false) (hversion : upload.versionId = some versionId) :
      CallerStep limits db (.custodyRead job upload ids) db
        (.versionBound job upload.key versionId ids)
  /-- `storage.version` -/
  | versionRead (hretained : upload.retained = false) (hversion : upload.versionId = none)
      (versionId : String) :
      CallerStep limits db (.custodyRead job upload ids) db
        (.versionRead job upload versionId ids)
  /-- `UPDATE ... WHERE version_id IS NULL` finds its row. -/
  | versionLock (hrows : db.uploadRows upload.key = [row]) (hversion : row.versionId = none) :
      CallerStep limits db (.versionRead job upload versionId ids) db
        (.versionLocked job upload versionId ids)
  | versionCommit :
      CallerStep limits db (.versionLocked job upload versionId ids)
        (db.bindVersion upload.key versionId) (.versionBound job upload.key versionId ids)
  /-- `retention.retain` -/
  | retain (proofs : ProofSet) (hversion : proofs.versionId = versionId) :
      CallerStep limits db (.versionBound job k versionId ids) db (.retained job k proofs ids)
  | retentionLock (hrows : db.uploadRows k = [row]) (hversion : row.versionId = some proofs.versionId)
      (hretained : row.retained = false) :
      CallerStep limits db (.retained job k proofs ids) db
        (.retentionLocked job k proofs ids)
  | retentionCommit :
      CallerStep limits db (.retentionLocked job k proofs ids) (db.retainUpload k proofs)
        (.custodyDone job k ids)
  | custodyUnlock :
      CallerStep limits db (.custodyDone job k ids) db (.custody job ids)
  -- the last transaction of `closeJob`
  | closeLock (hrows : db.jobRows k = [job]) :
      CallerStep limits db (.custody k []) db (.closeLocked job)
  | closeCheck (hclosed : job.closed = false)
      (hremaining : (db.uploadsOf job.key).filter (fun upload => !upload.retained) = []) :
      CallerStep limits db (.closeLocked job) db (.closeChecked job)
  | closeCommit :
      CallerStep limits db (.closeChecked job) (db.closeJob job.key) .idle
  -- `closeBatch`
  | closeBatchLock (k : BatchKey) (hrows : db.batchRows k = [batch]) :
      CallerStep limits db .idle db (.closeBatchLocked batch)
  | closeBatchCheck (hclosed : batch.closed = false)
      (hincomplete : (db.jobsOf batch.key).filter (fun job => !job.closed) = []) :
      CallerStep limits db (.closeBatchLocked batch) db (.closeBatchChecked batch)
  | closeBatchCommit :
      CallerStep limits db (.closeBatchChecked batch) (db.closeBatch batch.key) .idle

/-- The callers of the API. -/
def callers (limits : Limits) : Threads Database Caller Lock where
  step := CallerStep limits
  holds caller lock := lock ∈ caller.locks

/-- Batches exist, and nothing else: no call has begun. -/
def Initial (c : Threads.Config Database Caller ℕ) : Prop :=
  c.shared.jobs = [] ∧ c.shared.uploads = [] ∧ c.shared.proofs = [] ∧ ∀ i, c.thread i = .idle

/-- One step of some caller. -/
abbrev Step (limits : Limits) :
    Threads.Config Database Caller ℕ → Threads.Config Database Caller ℕ → Prop :=
  (callers limits).Step

end RoboticsRuntime.Api
