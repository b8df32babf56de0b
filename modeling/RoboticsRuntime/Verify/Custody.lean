import RoboticsRuntime.Api.Domain

/-!
# Custody over every schedule of the API

What the locks of a caller protect: a caller that holds none of the locks of a step finds the rows
it has read unchanged, and no rows added to those it has listed. From this every schedule keeps the
invariant of the tables, and neither a claim, the uploads of a claimed job nor a bound version
changes again.
-/

namespace RoboticsRuntime.Api
open Theory Relation

variable {limits : Limits} {db db' : Database} {H : Lock → Prop}

/-! ## What a step leaves alone -/

/-- The job exists and somebody claimed its closing. -/
def Database.Claimed (db : Database) (k : JobKey) : Prop :=
  ∃ job, db.jobRows k = [job] ∧ job.closeStatus ≠ none

/-- What a step that holds the locks `H` leaves alone. -/
structure Guarded (H : Lock → Prop) (db db' : Database) : Prop where
  batchRows : ∀ k, ¬ H (.batch k) → db'.batchRows k = db.batchRows k
  jobRows : ∀ k job, ¬ H (.job k) → db.jobRows k = [job] → db'.jobRows k = [job]
  claimed : ∀ k, db.Claimed k → db'.Claimed k
  jobsOf : ∀ k, ¬ H (.batch k) → (∀ job ∈ db.jobsOf k, job.closed) →
    ∀ job ∈ db'.jobsOf k, job.closed
  uploadsOf : ∀ k, ¬ H (.job k) → (db'.uploadsOf k).map Upload.key = (db.uploadsOf k).map Upload.key
  retained : ∀ k, ¬ H (.job k) → (∀ upload ∈ db.uploadsOf k, upload.retained) →
    ∀ upload ∈ db'.uploadsOf k, upload.retained
  uploadRows : ∀ k upload, ¬ H (.upload k) → db.uploadRows k = [upload] →
    db'.uploadRows k = [upload]

theorem Guarded.refl (H : Lock → Prop) (db : Database) : Guarded H db db :=
  ⟨fun _ _ => rfl, fun _ _ _ h => h, fun _ h => h, fun _ _ h => h, fun _ _ => rfl, fun _ _ h => h,
    fun _ _ _ h => h⟩

theorem guarded_insertJob {job : Job} (hfresh : db.jobRows job.key = [])
    (hlock : H (.batch job.key.batch)) : Guarded H db (db.insertJob job) := by
  have hrows : ∀ k job', db.jobRows k = [job'] → (db.insertJob job).jobRows k = [job'] := by
    intro k job' hk
    have hne : job.key ≠ k := by
      rintro rfl
      rw [hfresh] at hk
      cases hk
    unfold Database.insertJob Database.jobRows at *
    rw [rowsWith_append, hk]
    simp [rowsWith, hne]
  refine ⟨fun _ _ => rfl, fun k job' _ => hrows k job', ?_, ?_, fun _ _ => rfl, fun _ _ h => h,
    fun _ _ _ h => h⟩
  · rintro k ⟨job', hk, hclaim⟩
    exact ⟨job', hrows k job' hk, hclaim⟩
  · intro k hk hclosed job' hm
    unfold Database.insertJob Database.jobsOf at hm
    rw [rowsWith_append, List.mem_append] at hm
    rcases hm with hm | hm
    · exact hclosed job' hm
    · obtain ⟨hm, hkey⟩ := mem_rowsWith.1 hm
      obtain rfl := List.mem_singleton.1 hm
      exact absurd (hkey ▸ hlock) hk

theorem guarded_insertUpload {upload : Upload} (hfresh : db.uploadRows upload.key = [])
    (hlock : H (.job upload.key.job)) : Guarded H db (db.insertUpload upload) := by
  have hother : ∀ k, ¬ H (.job k) → (db.insertUpload upload).uploadsOf k = db.uploadsOf k := by
    intro k hk
    have hne : upload.key.job ≠ k := by
      rintro rfl
      exact hk hlock
    unfold Database.insertUpload Database.uploadsOf
    rw [rowsWith_append]
    simp [rowsWith, hne]
  refine ⟨fun _ _ => rfl, fun _ _ _ h => h, fun _ h => h, fun _ _ h => h,
    fun k hk => by rw [hother k hk], fun k hk h => by rwa [hother k hk], ?_⟩
  intro k upload' _ hk
  have hne : upload.key ≠ k := by
    rintro rfl
    rw [hfresh] at hk
    cases hk
  unfold Database.insertUpload Database.uploadRows at *
  rw [rowsWith_append, hk]
  simp [rowsWith, hne]

/-- An update of a job that keeps its keys, a claim on it, and that it is closed. -/
theorem guarded_updateJob {k : JobKey} {f : Job → Job} (hlock : H (.job k))
    (hkey : ∀ job, (f job).key = job.key)
    (hclaim : ∀ job, job.closeStatus ≠ none → (f job).closeStatus ≠ none)
    (hclosed : ∀ job, job.closed → (f job).closed) :
    Guarded H db { db with jobs := updateWith Job.key k f db.jobs } := by
  have hother : ∀ k', k' ≠ k → rowsWith Job.key k' (updateWith Job.key k f db.jobs) =
      db.jobRows k' := fun k' hne => rowsWith_updateWith_of_ne hkey hne
  refine ⟨fun _ _ => rfl, ?_, ?_, ?_, fun _ _ => rfl, fun _ _ h => h, fun _ _ _ h => h⟩
  · intro k' job hk' hrow
    have hne : k' ≠ k := by
      rintro rfl
      exact hk' hlock
    exact (hother k' hne).trans hrow
  · rintro k' ⟨job, hrow, hc⟩
    rcases eq_or_ne k' k with rfl | hne
    · refine ⟨f job, ?_, hclaim job hc⟩
      unfold Database.jobRows at hrow ⊢
      rw [rowsWith_updateWith_self hkey, hrow]
      rfl
    · exact ⟨job, (hother k' hne).trans hrow, hc⟩
  · intro b _ hall job hm
    unfold Database.jobsOf at hm hall
    rw [rowsWith_updateWith fun job => by rw [hkey], mem_updateWith] at hm
    obtain ⟨job', hm, rfl⟩ := hm
    split
    · exact hclosed job' (hall job' hm)
    · exact hall job' hm

/-- An update of an upload that keeps its key, and that it is retained. -/
theorem guarded_updateUpload {k : UploadKey} {f : Upload → Upload} {proofs : List UploadProof}
    (hlock : H (.upload k)) (hkey : ∀ upload, (f upload).key = upload.key)
    (hretained : ∀ upload, upload.retained → (f upload).retained) :
    Guarded H db
      { db with uploads := updateWith Upload.key k f db.uploads, proofs := proofs } := by
  have hof : ∀ job, rowsWith (fun upload : Upload => upload.key.job) job
      (updateWith Upload.key k f db.uploads) =
        updateWith Upload.key k f (db.uploadsOf job) :=
    fun job => rowsWith_updateWith (fun upload => by rw [hkey]) job
  refine ⟨fun _ _ => rfl, fun _ _ _ h => h, fun _ h => h, fun _ _ h => h, ?_, ?_, ?_⟩
  · intro job _
    exact (congrArg (List.map Upload.key) (hof job)).trans (map_updateWith hkey)
  · intro job _ hall upload hm
    unfold Database.uploadsOf at hm
    rw [hof, mem_updateWith] at hm
    obtain ⟨upload', hm, rfl⟩ := hm
    split
    · exact hretained upload' (hall upload' hm)
    · exact hall upload' hm
  · intro k' upload hk' hrow
    have hne : k' ≠ k := by
      rintro rfl
      exact hk' hlock
    exact (rowsWith_updateWith_of_ne hkey hne).trans hrow

theorem guarded_closeBatch {k : BatchKey} (hlock : H (.batch k)) : Guarded H db (db.closeBatch k) := by
  refine ⟨?_, fun _ _ _ h => h, fun _ h => h, fun _ _ h => h, fun _ _ => rfl, fun _ _ h => h,
    fun _ _ _ h => h⟩
  intro k' hk'
  have hne : k' ≠ k := by
    rintro rfl
    exact hk' hlock
  exact rowsWith_updateWith_of_ne (fun _ => rfl) hne

/-- A step of a caller leaves alone what its locks do not cover. -/
theorem guarded_of_step {caller caller' : Caller} (h : CallerStep limits db caller db' caller') :
    Guarded (fun k => k ∈ caller.locks ∨ k ∈ caller'.locks) db db' := by
  cases h with
  | createJobCommit id hprimary =>
    exact guarded_insertJob hprimary (.inl (by simp [Caller.locks, CreateJob.row]))
  | registerLogCommit id hprimary =>
    exact guarded_insertUpload hprimary (.inl (by simp [Caller.locks, RegisterLog.row]))
  | claimCommit =>
    split
    · exact guarded_updateJob (.inl (by simp [Caller.locks])) (fun _ => rfl)
        (fun _ _ => Option.some_ne_none _) (fun _ h => h)
    · exact .refl _ _
  | versionCommit =>
    exact guarded_updateUpload (.inl (by simp [Caller.locks])) (fun _ => rfl) (fun _ h => h)
  | retentionCommit =>
    exact guarded_updateUpload (.inl (by simp [Caller.locks])) (fun _ => rfl) (fun _ _ => rfl)
  | closeCommit =>
    exact guarded_updateJob (.inl (by simp [Caller.locks])) (fun _ => rfl) (fun _ h => h)
      (fun _ _ => rfl)
  | closeBatchCommit => exact guarded_closeBatch (.inl (by simp [Caller.locks]))
  | _ => exact .refl _ _

/-! ## What a caller knows -/

/-- What a caller knows about the database while it holds its locks, and that it has claimed the
job whose uploads it takes into custody. -/
def Caller.Knows (limits : Limits) : Caller → Database → Prop
  | .idle, _ => True
  | .createJobLocked input batch, db => db.batchRows input.batch = [batch]
  | .createJobChecked input, db => ∃ batch, db.batchRows input.batch = [batch] ∧ batch.closed = false
  | .registerLogLocked input job, db => db.jobRows input.job = [job]
  | .registerLogChecked input, db =>
    (∃ job, db.jobRows input.job = [job] ∧ job.closeStatus = none) ∧
      (db.uploadsOf input.job).length < limits.maximumUploads
  | .claimLocked input job, db => db.jobRows input.job = [job]
  | .claimChecked input job _, db => db.jobRows input.job = [job]
  | .custody job _, db => db.Claimed job
  | .custodyLocked job _ _, db => db.Claimed job
  | .custodyRead job _ _, db => db.Claimed job
  | .versionRead job _ _ _, db => db.Claimed job
  | .versionLocked job upload _ _, db =>
    db.Claimed job ∧ ∃ row, db.uploadRows upload.key = [row] ∧ row.versionId = none
  | .versionBound job _ _ _, db => db.Claimed job
  | .retained job _ _ _, db => db.Claimed job
  | .retentionLocked job id proofs _, db => db.Claimed job ∧ ∃ row, db.uploadRows id = [row] ∧
      row.versionId = some proofs.versionId ∧ row.retained = false
  | .custodyDone job _ _, db => db.Claimed job
  | .closeLocked job, db => db.Claimed job.key ∧ db.jobRows job.key = [job]
  | .closeChecked job, db => db.Claimed job.key ∧ db.jobRows job.key = [job] ∧
      ∀ upload ∈ db.uploadsOf job.key, upload.retained
  | .closeBatchLocked batch, db => db.batchRows batch.key = [batch]
  | .closeBatchChecked batch, db => ∀ job ∈ db.jobsOf batch.key, job.closed

/-- What a caller knows survives the steps of others, while it holds its locks. -/
theorem Caller.Knows.guarded {caller : Caller} (h : Guarded H db db')
    (hk : caller.Knows limits db) (hlocks : ∀ lock ∈ caller.locks, ¬ H lock) :
    caller.Knows limits db' := by
  cases caller with
  | idle => trivial
  | createJobLocked input batch =>
    exact (h.batchRows _ (hlocks _ (by simp [Caller.locks]))).trans hk
  | createJobChecked input =>
    obtain ⟨batch, hrows, hopen⟩ := hk
    exact ⟨batch, (h.batchRows _ (hlocks _ (by simp [Caller.locks]))).trans hrows, hopen⟩
  | registerLogLocked input job => exact h.jobRows _ _ (hlocks _ (by simp [Caller.locks])) hk
  | registerLogChecked input =>
    obtain ⟨⟨job, hrows, hclaim⟩, hcount⟩ := hk
    have hlock := hlocks (.job input.job) (by simp [Caller.locks])
    refine ⟨⟨job, h.jobRows _ _ hlock hrows, hclaim⟩, ?_⟩
    have hlength := congrArg List.length (h.uploadsOf _ hlock)
    rw [List.length_map, List.length_map] at hlength
    rwa [hlength]
  | claimLocked input job => exact h.jobRows _ _ (hlocks _ (by simp [Caller.locks])) hk
  | claimChecked input job ids => exact h.jobRows _ _ (hlocks _ (by simp [Caller.locks])) hk
  | custody job ids => exact h.claimed _ hk
  | custodyLocked job id ids => exact h.claimed _ hk
  | custodyRead job upload ids => exact h.claimed _ hk
  | versionRead job upload versionId ids => exact h.claimed _ hk
  | versionLocked job upload versionId ids =>
    obtain ⟨hclaimed, row, hrows, hversion⟩ := hk
    exact ⟨h.claimed _ hclaimed, row,
      h.uploadRows _ _ (hlocks _ (by simp [Caller.locks])) hrows, hversion⟩
  | versionBound job id versionId ids => exact h.claimed _ hk
  | retained job id proofs ids => exact h.claimed _ hk
  | retentionLocked job id proofs ids =>
    obtain ⟨hclaimed, row, hrows, hversion⟩ := hk
    exact ⟨h.claimed _ hclaimed, row,
      h.uploadRows _ _ (hlocks _ (by simp [Caller.locks])) hrows, hversion⟩
  | custodyDone job id ids => exact h.claimed _ hk
  | closeLocked job =>
    exact ⟨h.claimed _ hk.1, h.jobRows _ _ (hlocks _ (by simp [Caller.locks])) hk.2⟩
  | closeChecked job =>
    have hlock := hlocks (.job job.key) (by simp [Caller.locks])
    exact ⟨h.claimed _ hk.1, h.jobRows _ _ hlock hk.2.1, h.retained _ hlock hk.2.2⟩
  | closeBatchLocked batch => exact (h.batchRows _ (hlocks _ (by simp [Caller.locks]))).trans hk
  | closeBatchChecked batch => exact h.jobsOf _ (hlocks _ (by simp [Caller.locks])) hk

/-- A check that finds no job leaves an open batch. -/
theorem CreateJob.check_eq_none {input : CreateJob} {batch : Batch}
    (h : input.check db batch = .ok none) : batch.closed = false := by
  unfold CreateJob.check at h
  split at h
  · obtain ⟨-, h⟩ := seq_eq_ok.1 h
    cases h
  · exact require_eq_ok.1 (seq_eq_ok.1 h).1

/-- A check that finds no upload leaves an unclaimed job with room for one. -/
theorem RegisterLog.check_eq_none {input : RegisterLog} {job : Job}
    (h : input.check limits db job = .ok none) :
    job.closeStatus = none ∧ (db.uploadsOf input.job).length < limits.maximumUploads := by
  unfold RegisterLog.check at h
  split at h
  · obtain ⟨-, h⟩ := seq_eq_ok.1 h
    obtain ⟨-, h⟩ := seq_eq_ok.1 h
    cases h
  · obtain ⟨hclaim, h⟩ := seq_eq_ok.1 h
    exact ⟨require_eq_ok.1 hclaim, require_eq_ok.1 (seq_eq_ok.1 h).1⟩

theorem key_of_jobRows {k : JobKey} {job : Job} (h : db.jobRows k = [job]) : job.key = k :=
  (mem_rowsWith.1 (h ▸ List.mem_singleton_self job : job ∈ db.jobRows k)).2

theorem key_of_batchRows {k : BatchKey} {batch : Batch} (h : db.batchRows k = [batch]) :
    batch.key = k :=
  (mem_rowsWith.1 (h ▸ List.mem_singleton_self batch : batch ∈ db.batchRows k)).2

/-- A step tells its caller what the next one relies on. -/
theorem knows_of_step {caller caller' : Caller} (h : CallerStep limits db caller db' caller')
    (hk : caller.Knows limits db) : caller'.Knows limits db' := by
  have hclaimed : ∀ k, db.Claimed k → db'.Claimed k := (guarded_of_step h).claimed
  cases h with
  | stop | createJobCommit | registerLogCommit | closeCommit | closeBatchCommit => trivial
  | createJobLock input hrows => exact hrows
  | createJobCheck hcheck => exact ⟨_, hk, CreateJob.check_eq_none hcheck⟩
  | registerLogLock input hsize hrows => exact hrows
  | registerLogCheck hcheck =>
    obtain ⟨hclaim, hcount⟩ := RegisterLog.check_eq_none hcheck
    exact ⟨⟨_, hk, hclaim⟩, hcount⟩
  | claimLock input hrows => exact hrows
  | claimCheck hcheck => exact hk
  | @claimCommit _ input job ids =>
    by_cases hclaim : job.closeStatus = none
    · refine ⟨{ job with closeStatus := some input.status, closeError := input.errorMessage }, ?_,
        Option.some_ne_none _⟩
      have hk : rowsWith Job.key input.job db.jobs = [job] := hk
      have hkey : ∀ job : Job, { job with
        closeStatus := some input.status, closeError := input.errorMessage }.key = job.key :=
          fun _ => rfl
      rw [if_pos hclaim, Database.jobRows, Database.claimJob]
      dsimp only
      rw [rowsWith_updateWith_self hkey, hk]
      rfl
    · rw [if_neg hclaim]
      exact ⟨job, hk, hclaim⟩
  | custodyLock => exact hk
  | custodyRead hrows => exact hk
  | alreadyRetained hretained => exact hk
  | alreadyBound hretained hversion => exact hk
  | versionRead hretained hversion versionId => exact hk
  | versionLock hrows hversion => exact ⟨hk, _, hrows, hversion⟩
  | versionCommit => exact hclaimed _ hk.1
  | retain proofs hversion => exact hk
  | retentionLock hrows hversion hretained => exact ⟨hk, _, hrows, hversion, hretained⟩
  | retentionCommit => exact hclaimed _ hk.1
  | custodyUnlock => exact hk
  | closeLock hrows =>
    obtain rfl := key_of_jobRows hrows
    exact ⟨hk, hrows⟩
  | closeCheck hclosed hremaining =>
    refine ⟨hk.1, hk.2, fun upload hm => ?_⟩
    simpa using List.filter_eq_nil_iff.1 hremaining upload hm
  | closeBatchLock k hrows =>
    obtain rfl := key_of_batchRows hrows
    exact hrows
  | closeBatchCheck hclosed hincomplete =>
    intro job hm
    simpa using List.filter_eq_nil_iff.1 hincomplete job hm

/-! ## The invariant of the tables -/

/-- A retained upload has a bound version and exactly one proof set made for it, and any other has
no proofs. -/
def Upload.Proven (upload : Upload) (proofs : List UploadProof) : Prop :=
  if upload.retained then ∃ set : ProofSet,
    upload.versionId = some set.versionId ∧ proofs = set.rows upload.key
  else proofs = []

/-- A closed batch contains only closed jobs. A closed job is claimed, and every upload of it is
retained. An upload is retained with a bound version and exactly one proof set made for it; before
that it has no proofs. No job has more uploads than the bound admits. -/
structure InCustody (limits : Limits) (db : Database) : Prop where
  jobKeys : (db.jobs.map Job.key).Nodup
  uploadKeys : (db.uploads.map Upload.key).Nodup
  batch_closed : ∀ batch ∈ db.batches, batch.closed → ∀ job ∈ db.jobsOf batch.key, job.closed
  job_claimed : ∀ job ∈ db.jobs, job.closed → job.closeStatus ≠ none
  job_retained : ∀ job ∈ db.jobs, job.closed → ∀ upload ∈ db.uploadsOf job.key, upload.retained
  proven : ∀ upload ∈ db.uploads, upload.Proven (db.proofsOf upload.key)
  proof_upload : ∀ proof ∈ db.proofs, proof.upload ∈ db.uploads.map Upload.key
  bounded : ∀ k, (db.uploadsOf k).length ≤ limits.maximumUploads

/-- The jobs of a batch without open ones are closed. -/
theorem InCustody.insertJob (h : InCustody limits db) {job : Job}
    (hfresh : db.jobRows job.key = []) (hopen : job.closed = false)
    (hbatch : ∀ batch ∈ db.batches, batch.key = job.key.batch → batch.closed = false) :
    InCustody limits (db.insertJob job) where
  jobKeys := by
    unfold Database.insertJob
    rw [List.map_append]
    apply h.jobKeys.append (List.nodup_singleton _)
    intro k hk hk'
    obtain rfl := List.mem_singleton.1 hk'
    obtain ⟨job', hm, hkey⟩ := List.mem_map.1 hk
    have hm : job' ∈ db.jobRows job.key := mem_rowsWith.2 ⟨hm, hkey⟩
    rw [hfresh] at hm
    cases hm
  uploadKeys := h.uploadKeys
  batch_closed := by
    intro batch hb hclosed job' hm
    obtain ⟨hm, hkey⟩ := mem_rowsWith.1 hm
    rcases List.mem_append.1 hm with hm | hm
    · exact h.batch_closed batch hb hclosed job' (mem_rowsWith.2 ⟨hm, hkey⟩)
    · obtain rfl := List.mem_singleton.1 hm
      rw [hbatch batch hb hkey.symm] at hclosed
      cases hclosed
  job_claimed := by
    intro job' hm hclosed
    rcases List.mem_append.1 hm with hm | hm
    · exact h.job_claimed job' hm hclosed
    · obtain rfl := List.mem_singleton.1 hm
      rw [hopen] at hclosed
      cases hclosed
  job_retained := by
    intro job' hm hclosed
    rcases List.mem_append.1 hm with hm | hm
    · exact h.job_retained job' hm hclosed
    · obtain rfl := List.mem_singleton.1 hm
      rw [hopen] at hclosed
      cases hclosed
  proven := h.proven
  proof_upload := h.proof_upload
  bounded := h.bounded

theorem InCustody.insertUpload (h : InCustody limits db) {upload : Upload}
    (hfresh : db.uploadRows upload.key = []) (hretained : upload.retained = false)
    (hjob : ∀ job ∈ db.jobs, job.key = upload.key.job → job.closeStatus = none)
    (hroom : (db.uploadsOf upload.key.job).length < limits.maximumUploads) :
    InCustody limits (db.insertUpload upload) where
  jobKeys := h.jobKeys
  uploadKeys := by
    unfold Database.insertUpload
    rw [List.map_append]
    apply h.uploadKeys.append (List.nodup_singleton _)
    intro k hk hk'
    obtain rfl := List.mem_singleton.1 hk'
    obtain ⟨upload', hm, hkey⟩ := List.mem_map.1 hk
    have hm : upload' ∈ db.uploadRows upload.key := mem_rowsWith.2 ⟨hm, hkey⟩
    rw [hfresh] at hm
    cases hm
  batch_closed := h.batch_closed
  job_claimed := h.job_claimed
  job_retained := by
    intro job hj hclosed upload' hm
    obtain ⟨hm, hkey⟩ := mem_rowsWith.1 hm
    rcases List.mem_append.1 hm with hm | hm
    · exact h.job_retained job hj hclosed upload' (mem_rowsWith.2 ⟨hm, hkey⟩)
    · obtain rfl := List.mem_singleton.1 hm
      exact absurd (hjob job hj hkey.symm) (h.job_claimed job hj hclosed)
  proven := by
    intro upload' hm
    rcases List.mem_append.1 hm with hm | hm
    · exact h.proven upload' hm
    · obtain rfl := List.mem_singleton.1 hm
      -- proofs belong to uploads that were there before
      rw [Upload.Proven, if_neg (by rw [hretained]; decide)]
      apply List.filter_eq_nil_iff.2
      intro proof hp hkey
      obtain ⟨upload'', hm', hkey'⟩ := List.mem_map.1 (h.proof_upload proof hp)
      have hm' : upload'' ∈ db.uploadRows upload'.key :=
        mem_rowsWith.2 ⟨hm', hkey'.trans (of_decide_eq_true hkey)⟩
      rw [hfresh] at hm'
      cases hm'
  proof_upload := by
    intro proof hp
    unfold Database.insertUpload
    rw [List.map_append]
    exact List.mem_append_left _ (h.proof_upload proof hp)
  bounded := by
    intro k
    unfold Database.insertUpload Database.uploadsOf
    rw [rowsWith_append, List.length_append]
    by_cases hk : upload.key.job = k
    · subst hk
      have : (rowsWith (fun upload : Upload => upload.key.job) upload.key.job [upload]).length = 1 := by
        simp [rowsWith]
      rw [this]
      exact hroom
    · have : rowsWith (fun upload : Upload => upload.key.job) k [upload] = [] := by
        simp [rowsWith, hk]
      rw [this]
      exact h.bounded k

/-- An update of a job that keeps its key and that it is closed. When it closes the job, the job
must be claimed and its uploads retained. -/
theorem InCustody.updateJob (h : InCustody limits db) {k : JobKey} (f : Job → Job)
    (hkey : ∀ job, (f job).key = job.key) (hclosed : ∀ job, job.closed → (f job).closed)
    (hclaim : ∀ job ∈ db.jobs, job.key = k → (f job).closed → (f job).closeStatus ≠ none)
    (hretained : ∀ job ∈ db.jobs, job.key = k → (f job).closed →
      ∀ upload ∈ db.uploadsOf k, upload.retained) :
    InCustody limits { db with jobs := updateWith Job.key k f db.jobs } where
  jobKeys := by
    rw [map_updateWith hkey]
    exact h.jobKeys
  uploadKeys := h.uploadKeys
  batch_closed := by
    intro batch hb hc job hm
    unfold Database.jobsOf at hm
    rw [rowsWith_updateWith fun job => by rw [hkey], mem_updateWith] at hm
    obtain ⟨job', hm, rfl⟩ := hm
    have hc' := h.batch_closed batch hb hc job' hm
    split
    · exact hclosed job' hc'
    · exact hc'
  job_claimed := by
    intro job hm hc
    obtain ⟨job', hm', rfl⟩ := mem_updateWith.1 hm
    split_ifs at hc ⊢ with hk
    · exact hclaim job' hm' hk hc
    · exact h.job_claimed job' hm' hc
  job_retained := by
    intro job hm hc
    obtain ⟨job', hm', rfl⟩ := mem_updateWith.1 hm
    split_ifs at hc ⊢ with hk
    · rw [hkey, hk]
      exact hretained job' hm' hk hc
    · exact h.job_retained job' hm' hc
  proven := h.proven
  proof_upload := h.proof_upload
  bounded := h.bounded

theorem eq_of_uploadRows {k : UploadKey} {row upload : Upload} (hrow : db.uploadRows k = [row])
    (hm : upload ∈ db.uploads) (hk : upload.key = k) : upload = row := by
  have hm : upload ∈ db.uploadRows k := mem_rowsWith.2 ⟨hm, hk⟩
  rw [hrow] at hm
  exact List.mem_singleton.1 hm

/-- An update of an upload that keeps its key and that it is retained, with proofs for it. -/
theorem InCustody.updateUpload (h : InCustody limits db) (f : Upload → Upload)
    (proofs : List UploadProof) {k : UploadKey} {row : Upload} (hkey : ∀ upload, (f upload).key = upload.key)
    (hretained : ∀ upload, upload.retained → (f upload).retained)
    (hproofs : ∀ proof ∈ proofs, proof.upload = k) (hrow : db.uploadRows k = [row])
    (hproven : (f row).Proven (db.proofsOf k ++ proofs)) :
    InCustody limits { db with
      uploads := updateWith Upload.key k f db.uploads, proofs := db.proofs ++ proofs } where
  jobKeys := h.jobKeys
  uploadKeys := by
    rw [map_updateWith hkey]
    exact h.uploadKeys
  batch_closed := h.batch_closed
  job_claimed := h.job_claimed
  job_retained := by
    intro job hj hc upload hm
    unfold Database.uploadsOf at hm
    rw [rowsWith_updateWith fun upload => by rw [hkey], mem_updateWith] at hm
    obtain ⟨upload', hm, rfl⟩ := hm
    have hr := h.job_retained job hj hc upload' hm
    split
    · exact hretained upload' hr
    · exact hr
  proven := by
    intro upload hm
    obtain ⟨upload', hm', rfl⟩ := mem_updateWith.1 hm
    unfold Database.proofsOf
    rw [rowsWith_append]
    split_ifs with hk
    · have hall : rowsWith UploadProof.upload k proofs = proofs :=
        List.filter_eq_self.2 fun proof hp => decide_eq_true (hproofs proof hp)
      rw [hkey, hk, hall, eq_of_uploadRows hrow hm' hk]
      exact hproven
    · have hnone : rowsWith UploadProof.upload upload'.key proofs = [] :=
        List.filter_eq_nil_iff.2 fun proof hp hpk =>
          hk ((of_decide_eq_true hpk).symm.trans (hproofs proof hp))
      rw [hnone, List.append_nil]
      exact h.proven upload' hm'
  proof_upload := by
    intro proof hp
    rw [map_updateWith hkey]
    rcases List.mem_append.1 hp with hp | hp
    · exact h.proof_upload proof hp
    · have hm : row ∈ db.uploadRows k := hrow ▸ List.mem_singleton_self row
      obtain ⟨hm, hk⟩ := mem_rowsWith.1 hm
      exact List.mem_map.2 ⟨row, hm, hk.trans (hproofs proof hp).symm⟩
  bounded := by
    intro job
    unfold Database.uploadsOf
    rw [rowsWith_updateWith fun upload => by rw [hkey], length_updateWith]
    exact h.bounded job

theorem InCustody.proven_row (h : InCustody limits db) {k : UploadKey} {row : Upload}
    (hrow : db.uploadRows k = [row]) : row.key = k ∧ row.Proven (db.proofsOf k) := by
  have hm : row ∈ db.uploadRows k := hrow ▸ List.mem_singleton_self row
  obtain ⟨hmem, hk⟩ := mem_rowsWith.1 hm
  exact ⟨hk, hk ▸ h.proven row hmem⟩

/-- A version is bound to an upload that has none, and so is not retained. -/
theorem InCustody.bindVersion (h : InCustody limits db) {k : UploadKey} {row : Upload}
    (hrow : db.uploadRows k = [row]) (hversion : row.versionId = none) (versionId : String) :
    InCustody limits (db.bindVersion k versionId) := by
  obtain ⟨-, hproven⟩ := h.proven_row hrow
  have hopen : row.retained = false := by
    unfold Upload.Proven at hproven
    split at hproven
    · obtain ⟨set, hset, -⟩ := hproven
      rw [hversion] at hset
      cases hset
    · next hr => simpa using hr
  rw [Upload.Proven, hopen] at hproven
  have hupdate := h.updateUpload (fun upload => { upload with versionId := some versionId }) []
    (fun _ => rfl) (fun _ h => h) (fun _ hp => absurd hp List.not_mem_nil) hrow
    (by rw [Upload.Proven, List.append_nil, hopen]; exact hproven)
  rwa [List.append_nil] at hupdate

/-- The proofs of an upload are committed once: it was not retained before, and had none. -/
theorem InCustody.retainUpload (h : InCustody limits db) {k : UploadKey} {row : Upload}
    {proofs : ProofSet} (hrow : db.uploadRows k = [row])
    (hversion : row.versionId = some proofs.versionId) (hopen : row.retained = false) :
    InCustody limits (db.retainUpload k proofs) := by
  obtain ⟨hkey, hproven⟩ := h.proven_row hrow
  rw [Upload.Proven, hopen] at hproven
  have hnone : db.proofsOf k = [] := hproven
  apply h.updateUpload (fun upload => { upload with retained := true }) (proofs.rows k)
    (fun _ => rfl) (fun _ _ => rfl) ?_ hrow
  · rw [Upload.Proven, if_pos rfl, hnone]
    exact ⟨proofs, hversion, by rw [List.nil_append, hkey]⟩
  · intro proof hp
    obtain ⟨role, -, rfl⟩ := List.mem_map.1 hp
    rfl

theorem InCustody.closeBatch (h : InCustody limits db) {k : BatchKey}
    (hjobs : ∀ job ∈ db.jobsOf k, job.closed) : InCustody limits (db.closeBatch k) where
  jobKeys := h.jobKeys
  uploadKeys := h.uploadKeys
  batch_closed := by
    intro batch hb hc
    obtain ⟨batch', hb', rfl⟩ := mem_updateWith.1 hb
    split_ifs at hc ⊢ with hk
    · rw [hk]
      exact hjobs
    · exact h.batch_closed batch' hb' hc
  job_claimed := h.job_claimed
  job_retained := h.job_retained
  proven := h.proven
  proof_upload := h.proof_upload
  bounded := h.bounded

theorem eq_of_jobRows {k : JobKey} {row job : Job} (hrow : db.jobRows k = [row]) (hm : job ∈ db.jobs)
    (hk : job.key = k) : job = row := by
  have hm : job ∈ db.jobRows k := mem_rowsWith.2 ⟨hm, hk⟩
  rw [hrow] at hm
  exact List.mem_singleton.1 hm

/-- A step of a caller that knows what it has read keeps the tables in custody. -/
theorem InCustody.step {caller caller' : Caller} (h : CallerStep limits db caller db' caller')
    (hc : InCustody limits db) (hk : caller.Knows limits db) : InCustody limits db' := by
  cases h with
  | @createJobCommit _ input id hprimary hunique =>
    obtain ⟨batch, hrows, hopen⟩ := hk
    apply hc.insertJob hprimary rfl
    intro batch' hm hkey
    have hm : batch' ∈ db.batchRows input.batch := mem_rowsWith.2 ⟨hm, hkey⟩
    rw [hrows] at hm
    rw [List.mem_singleton.1 hm]
    exact hopen
  | @registerLogCommit _ input id hprimary hunique =>
    obtain ⟨⟨job, hrows, hclaim⟩, hroom⟩ := hk
    apply hc.insertUpload hprimary rfl
    · intro job' hm hkey
      rw [eq_of_jobRows hrows hm hkey]
      exact hclaim
    · exact hroom
  | @claimCommit _ input job ids =>
    split
    · apply hc.updateJob (fun job => { job with
        closeStatus := some input.status, closeError := input.errorMessage })
        (fun _ => rfl) (fun _ h => h) (fun _ _ _ _ => Option.some_ne_none _)
      intro job' hm hkey hclosed
      exact hkey ▸ hc.job_retained job' hm hclosed
    · exact hc
  | versionCommit =>
    obtain ⟨-, row, hrows, hversion⟩ := hk
    exact hc.bindVersion hrows hversion _
  | retentionCommit =>
    obtain ⟨-, row, hrows, hversion, hopen⟩ := hk
    exact hc.retainUpload hrows hversion hopen
  | closeCommit =>
    obtain ⟨⟨row, hrow, hclaim⟩, -, hretained⟩ := hk
    apply hc.updateJob (fun job => { job with closed := true }) (fun _ => rfl) (fun _ _ => rfl)
    · intro job' hm hkey _
      rw [eq_of_jobRows hrow hm hkey]
      exact hclaim
    · exact fun _ _ _ _ => hretained
  | closeBatchCommit => exact hc.closeBatch hk
  | _ => exact hc

/-! ## What never changes -/

/-- A later state of the tables: a claimed job keeps its claim and its uploads, and an upload keeps
a bound version. -/
structure Extends (db db' : Database) : Prop where
  claim : ∀ k job, db.jobRows k = [job] → job.closeStatus ≠ none →
    ∃ job', db'.jobRows k = [job'] ∧ job'.closeStatus = job.closeStatus ∧
      job'.closeError = job.closeError
  uploads : ∀ k, db.Claimed k →
    (db'.uploadsOf k).map Upload.key = (db.uploadsOf k).map Upload.key
  version : ∀ k upload versionId, db.uploadRows k = [upload] → upload.versionId = some versionId →
    ∃ upload', db'.uploadRows k = [upload'] ∧ upload'.versionId = some versionId

theorem Extends.refl (db : Database) : Extends db db :=
  ⟨fun _ job hrow _ => ⟨job, hrow, rfl, rfl⟩, fun _ _ => rfl,
    fun _ upload _ hrow hversion => ⟨upload, hrow, hversion⟩⟩

theorem Extends.trans {db'' : Database} (h : Extends db db') (h' : Extends db' db'') :
    Extends db db'' := by
  constructor
  · intro k job hrow hclaim
    obtain ⟨job', hrow', hs, he⟩ := h.claim k job hrow hclaim
    obtain ⟨job'', hrow'', hs', he'⟩ := h'.claim k job' hrow' (hs ▸ hclaim)
    exact ⟨job'', hrow'', hs'.trans hs, he'.trans he⟩
  · rintro k ⟨job, hrow, hclaim⟩
    obtain ⟨job', hrow', hs, -⟩ := h.claim k job hrow hclaim
    exact (h'.uploads k ⟨job', hrow', hs ▸ hclaim⟩).trans (h.uploads k ⟨job, hrow, hclaim⟩)
  · intro k upload versionId hrow hversion
    obtain ⟨upload', hrow', hversion'⟩ := h.version k upload versionId hrow hversion
    exact h'.version k upload' versionId hrow' hversion'

/-- An update of jobs that changes no claim. -/
theorem extends_updateJob {k : JobKey} (f : Job → Job) (hkey : ∀ job, (f job).key = job.key)
    (hclaim : ∀ job, db.jobRows k = [job] → job.closeStatus ≠ none →
      (f job).closeStatus = job.closeStatus ∧ (f job).closeError = job.closeError) :
    Extends db { db with jobs := updateWith Job.key k f db.jobs } := by
  refine ⟨?_, fun _ _ => rfl, fun _ upload _ hrow hversion => ⟨upload, hrow, hversion⟩⟩
  intro k' job hrow hc
  rcases eq_or_ne k' k with rfl | hne
  · refine ⟨f job, ?_, hclaim job hrow hc⟩
    unfold Database.jobRows at hrow ⊢
    rw [rowsWith_updateWith_self hkey, hrow]
    rfl
  · exact ⟨job, (rowsWith_updateWith_of_ne hkey hne).trans hrow, rfl, rfl⟩

/-- An update of uploads that changes no bound version. -/
theorem extends_updateUpload {k : UploadKey} (f : Upload → Upload) {proofs : List UploadProof}
    (hkey : ∀ upload, (f upload).key = upload.key)
    (hversion : ∀ upload, db.uploadRows k = [upload] → upload.versionId ≠ none →
      (f upload).versionId = upload.versionId) :
    Extends db { db with uploads := updateWith Upload.key k f db.uploads, proofs := proofs } := by
  refine ⟨fun _ job hrow _ => ⟨job, hrow, rfl, rfl⟩, ?_, ?_⟩
  · intro job _
    unfold Database.uploadsOf
    rw [rowsWith_updateWith fun upload => by rw [hkey]]
    exact map_updateWith hkey
  · intro k' upload versionId hrow hv
    rcases eq_or_ne k' k with rfl | hne
    · refine ⟨f upload, ?_, (hversion upload hrow (by rw [hv]; exact Option.some_ne_none _)).trans hv⟩
      unfold Database.uploadRows at hrow ⊢
      rw [rowsWith_updateWith_self hkey, hrow]
      rfl
    · exact ⟨upload, (rowsWith_updateWith_of_ne hkey hne).trans hrow, hv⟩

/-- A step of a caller that knows what it has read changes no claim, adds no upload to a claimed
job and changes no bound version. -/
theorem extends_of_step {caller caller' : Caller} (h : CallerStep limits db caller db' caller')
    (hk : caller.Knows limits db) : Extends db db' := by
  cases h with
  | @createJobCommit _ input id hprimary hunique =>
    have hguarded : Guarded (fun k => k = .batch input.batch) db (db.insertJob (input.row id)) :=
      guarded_insertJob hprimary rfl
    refine ⟨?_, fun _ _ => rfl, fun _ upload _ hrow hversion => ⟨upload, hrow, hversion⟩⟩
    intro k job hrow _
    exact ⟨job, hguarded.jobRows k job (by simp) hrow, rfl, rfl⟩
  | @registerLogCommit _ input id hprimary hunique =>
    obtain ⟨⟨job, hrow, hclaim⟩, -⟩ := hk
    have hguarded : Guarded (fun k => k = .job input.job) db (db.insertUpload (input.row id)) :=
      guarded_insertUpload hprimary rfl
    refine ⟨fun _ job hrow _ => ⟨job, hrow, rfl, rfl⟩, ?_, ?_⟩
    · -- the job of the upload is not claimed
      rintro k ⟨job', hrow', hclaim'⟩
      refine hguarded.uploadsOf k fun hlock => ?_
      obtain rfl := Lock.job.inj hlock
      obtain rfl : job = job' := List.singleton_inj.1 (hrow.symm.trans hrow')
      exact hclaim' hclaim
    · intro k upload versionId hrow hversion
      exact ⟨upload, hguarded.uploadRows k upload (by simp) hrow, hversion⟩
  | @claimCommit _ input job ids =>
    split
    · next hnone =>
      apply extends_updateJob (fun job => { job with
        closeStatus := some input.status, closeError := input.errorMessage }) (fun _ => rfl)
      intro job' hrow hclaim
      obtain rfl : job = job' := List.singleton_inj.1 (hk.symm.trans hrow)
      exact absurd hnone hclaim
    · exact .refl db
  | @versionCommit _ job upload versionId ids =>
    obtain ⟨-, row, hrows, hversion⟩ := hk
    apply extends_updateUpload (fun upload => { upload with versionId := some versionId })
      (fun _ => rfl)
    intro upload' hrow hv
    obtain rfl : row = upload' := List.singleton_inj.1 (hrows.symm.trans hrow)
    exact absurd hversion hv
  | retentionCommit =>
    exact extends_updateUpload (fun upload => { upload with retained := true }) (fun _ => rfl)
      (fun _ _ _ => rfl)
  | closeCommit =>
    exact extends_updateJob (fun job => { job with closed := true }) (fun _ => rfl)
      (fun _ _ _ => ⟨rfl, rfl⟩)
  | closeBatchCommit =>
    exact ⟨fun _ job hrow _ => ⟨job, hrow, rfl, rfl⟩, fun _ _ => rfl,
      fun _ upload _ hrow hversion => ⟨upload, hrow, hversion⟩⟩
  | _ => exact .refl db

/-! ## Every schedule -/

theorem callers_keep (limits : Limits) :
    (callers limits).Keeps (InCustody limits) (Caller.Knows limits) where
  shared h hc hk := hc.step h hk
  own h _ hk := knows_of_step h hk
  other h _ _ hu hapart := hu.guarded (guarded_of_step h) hapart

theorem Initial.consistent {c : Threads.Config Database Caller ℕ} (h : Initial c) :
    (callers limits).Consistent (InCustody limits) (Caller.Knows limits) c := by
  obtain ⟨hjobs, huploads, hproofs, hidle⟩ := h
  refine ⟨?_, ?_, ?_⟩
  · intro i j k hi _
    have hi : k ∈ (c.thread i).locks := hi
    rw [hidle i] at hi
    cases hi
  · constructor <;>
      simp [hjobs, huploads, hproofs, Database.jobsOf, Database.uploadsOf, rowsWith]
  · intro i
    rw [hidle i]
    trivial

/-- In every reachable state the tables are in custody, and whatever the schedule does from there
changes no claim, adds no upload to a claimed job and changes no bound version. -/
theorem custody_invariant (limits : Limits) (c : Threads.Config Database Caller ℕ)
    (hc : Reachable Initial (Step limits) c) :
    InCustody limits c.shared ∧
      ∀ c', ReflTransGen (Step limits) c c' → Extends c.shared c'.shared := by
  have hconsistent : ∀ {c}, Reachable Initial (Step limits) c →
      (callers limits).Consistent (InCustody limits) (Caller.Knows limits) c :=
    fun h => (callers_keep limits).reachable (fun _ => Initial.consistent) h
  refine ⟨(hconsistent hc).shared, fun c' hs => ?_⟩
  apply hc.related (R := fun a b => Extends a.shared b.shared) ?_ ?_ ?_ hs
  · exact fun _ => .refl _
  · exact fun h h' => Extends.trans h h'
  intro a b ha hab
  obtain ⟨i, s, t, hstep, -⟩ := hab
  exact extends_of_step hstep ((hconsistent ha).own i)

/-! ### A closed batch -/

private def exampleLimits : Limits := ⟨64, 1, by decide, by decide, by decide, by decide⟩

private def openBatch : Batch := ⟨⟨"tenant", "project", "batch"⟩, false⟩

private def exampleInput : CreateJob :=
  ⟨openBatch.key, "principal", "experience", some "key", "digest"⟩

private def exampleLog : RegisterLog := ⟨⟨openBatch.key, "job"⟩, "run.json", 1, "checksum", none⟩

private def exampleClose : CloseJob := ⟨exampleLog.job, .error, some "failed"⟩

private def exampleProofs : ProofSet := ⟨"version", fun _ => "raw", fun _ => "sha256"⟩

/-- The claimed job, and the upload whose version is bound and retained. -/
private def closedJob : Job :=
  { exampleInput.row "job" with
    closeStatus := some .error, closeError := some "failed", closed := true }

private def retainedUpload : Upload :=
  { exampleLog.row "upload" with versionId := some "version", retained := true }

/-- A batch that is closed after its only job, with one upload in custody. -/
private def closedDatabase : Database where
  batches := [{ openBatch with closed := true }]
  jobs := [closedJob]
  uploads := [retainedUpload]
  proofs := exampleProofs.rows retainedUpload.key

/-- All callers are idle but one. -/
private def only (db : Database) (caller : Caller) : Threads.Config Database Caller ℕ :=
  ⟨db, Function.update (fun _ => .idle) 0 caller⟩

private theorem only_step {caller caller' : Caller} (h : CallerStep limits db caller db' caller') :
    Step limits (only db caller) (only db' caller') := by
  have hself : (only db caller).thread 0 = caller := by simp [only]
  have hstep := Threads.Step.intro (S := callers limits) (only db caller) 0 db' caller'
    (hself.symm ▸ h) ?_
  · rwa [only, Function.update_idem] at hstep
  · intro k _ j hj hk
    have hidle : (only db caller).thread j = .idle := by simp [only, hj]
    rw [hidle] at hk
    cases hk

private theorem closedDatabase_reachable :
    Reachable Initial (Step exampleLimits) (only closedDatabase .idle) := by
  have hstart : Reachable Initial (Step exampleLimits) (only ⟨[openBatch], [], [], []⟩ .idle) :=
    .of_start ⟨rfl, rfl, rfl, fun i => by simp [only]⟩
  have hcreated := ((hstart.steps
    (.single (only_step (.createJobLock exampleInput rfl)))).steps
    (.single (only_step (.createJobCheck rfl)))).steps
    (.single (only_step (.createJobCommit "job" rfl rfl)))
  have hregistered := ((hcreated.steps
    (.single (only_step (.registerLogLock exampleLog le_rfl rfl)))).steps
    (.single (only_step (.registerLogCheck rfl)))).steps
    (.single (only_step (.registerLogCommit "upload" rfl nofun)))
  have hclaimed := ((hregistered.steps
    (.single (only_step (.claimLock exampleClose rfl)))).steps
    (.single (only_step (.claimCheck rfl)))).steps
    (.single (only_step .claimCommit))
  have hbound := ((((hclaimed.steps
    (.single (only_step .custodyLock))).steps
    (.single (only_step (.custodyRead rfl)))).steps
    (.single (only_step (.versionRead rfl rfl "version")))).steps
    (.single (only_step (.versionLock rfl rfl)))).steps
    (.single (only_step .versionCommit))
  have hretained := (((hbound.steps
    (.single (only_step (.retain exampleProofs rfl)))).steps
    (.single (only_step (.retentionLock rfl rfl rfl)))).steps
    (.single (only_step .retentionCommit))).steps
    (.single (only_step .custodyUnlock))
  have hclosed := ((hretained.steps
    (.single (only_step (.closeLock rfl)))).steps
    (.single (only_step (.closeCheck rfl rfl)))).steps
    (.single (only_step .closeCommit))
  exact ((hclosed.steps
    (.single (only_step (.closeBatchLock openBatch.key rfl)))).steps
    (.single (only_step (.closeBatchCheck rfl rfl)))).steps
    (.single (only_step .closeBatchCommit))

theorem custody_invariant_closed :
    InCustody exampleLimits closedDatabase ∧
      ∀ c', ReflTransGen (Step exampleLimits) (only closedDatabase .idle) c' →
        Extends closedDatabase c'.shared :=
  custody_invariant exampleLimits _ closedDatabase_reachable

end RoboticsRuntime.Api
