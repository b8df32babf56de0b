import RoboticsRuntime.Api.Creation

/-!
# Idempotent creation over every schedule of the API

A row that is inserted but not committed holds its creation key, so that its index entry is still
free at the commit; and what a call finds under its key is looked up again after a conflict. The
locks on branches and batches play no part in this.
-/

namespace RoboticsRuntime.Api.Creation
open Theory Python Relation

variable {δ : Type} {sha256 : PyStr → δ} {store store' : Store δ} {H : Lock → Prop}

/-! ## Indexes -/

section
variable {ρ κ : Type} [DecidableEq κ] {entry : ρ → Option κ} {rows : List ρ} {key : κ}

theorem mem_rowsOf {row : ρ} : row ∈ rowsOf entry rows (some key) ↔ row ∈ rows ∧ entry row = some key :=
  mem_rowsWith

theorem rowsOf_append_of_ne {row : ρ} (h : entry row ≠ some key) :
    rowsOf entry (rows ++ [row]) (some key) = rowsOf entry rows (some key) := by
  rw [rowsOf, rowsWith_append]
  simp [rowsWith, h, rowsOf]

/-- The entry of a row is still unique after the row is added to an index without the entry. -/
theorem length_rowsOf_append {row : ρ} (h : (rowsOf entry rows (some key)).length ≤ 1)
    (hfresh : entry row = some key → rowsOf entry rows (some key) = []) :
    (rowsOf entry (rows ++ [row]) (some key)).length ≤ 1 := by
  by_cases hentry : entry row = some key
  · have hnone := hfresh hentry
    rw [rowsOf] at hnone
    rw [rowsOf, rowsWith_append, hnone]
    exact List.length_filter_le _ _
  · rwa [rowsOf_append_of_ne hentry]

end

/-- What `retry` finds is a row under the key of the request, with its fingerprint. -/
theorem retry_eq_some [DecidableEq δ] {ρ κ : Type} [DecidableEq κ] {entry : ρ → Option κ} {rows : List ρ}
    {requestFingerprint : ρ → Option δ} {fingerprint : δ} {creation : Option κ} {row : ρ}
    (h : retry requestFingerprint fingerprint (rowsOf entry rows creation) = .ok (some row)) :
    row ∈ rows ∧ entry row = creation ∧ requestFingerprint row = some fingerprint := by
  cases creation with
  | none => cases h
  | some key =>
    cases hrows : rowsOf entry rows (some key) with
    | nil =>
      rw [hrows] at h
      cases h
    | cons first rest =>
      rw [hrows] at h
      simp only [retry, bind_eq_ok, exists_const, require_eq_ok, Except.ok.injEq,
        Option.some.injEq] at h
      obtain ⟨hfingerprint, rfl⟩ := h
      obtain ⟨hm, hentry⟩ := mem_rowsOf.1 (hrows ▸ List.mem_cons_self : first ∈ _)
      exact ⟨hm, hentry, hfingerprint⟩

/-! ## What a step leaves alone -/

/-- The row, but for whether it is closed. -/
def Batch.Same (row row' : Batch δ) : Prop := row' = { row with closed := row'.closed }

/-- What a step that holds the locks `H` leaves alone. -/
structure Guarded (H : Lock → Prop) (store store' : Store δ) : Prop where
  batchKey : ∀ key, ¬ H (.batch key) → key ∉ store.batches.map Batch.key →
    key ∉ store'.batches.map Batch.key
  batchCreation : ∀ key, ¬ H (.batchCreation key) →
    rowsOf Batch.creation store.batches (some key) = [] →
      rowsOf Batch.creation store'.batches (some key) = []
  batchKept : ∀ row ∈ store.batches, ∃ row' ∈ store'.batches, row.Same row'
  jobCreation : ∀ key, ¬ H (.jobCreation key) → rowsOf Job.creation store.jobs (some key) = [] →
    rowsOf Job.creation store'.jobs (some key) = []
  jobKept : ∀ row ∈ store.jobs, row ∈ store'.jobs

/-- A step that writes no batch and no job. -/
theorem Guarded.of_eq (hbatches : store'.batches = store.batches) (hjobs : store'.jobs = store.jobs) :
    Guarded H store store' := by
  refine ⟨?_, ?_, ?_, ?_, ?_⟩
  · exact fun _ _ h => hbatches ▸ h
  · exact fun _ _ h => hbatches ▸ h
  · exact fun row hm => ⟨row, hbatches ▸ hm, rfl⟩
  · exact fun _ _ h => hjobs ▸ h
  · exact fun row hm => hjobs ▸ hm

theorem guarded_insertBatch {row : Batch δ} (hkey : H (.batch row.key))
    (hcreation : ∀ key, row.creation = some key → H (.batchCreation key)) :
    Guarded H store { store with batches := store.batches ++ [row] } := by
  refine ⟨fun key hfree h => ?_, fun key hfree h => ?_, fun row hm => ?_, fun _ _ h => h,
    fun _ h => h⟩
  · rw [List.map_append, List.mem_append]
    rintro (hm | hm)
    · exact h hm
    · obtain rfl := List.mem_singleton.1 hm
      exact hfree hkey
  · rw [rowsOf_append_of_ne fun he => hfree (hcreation key he)]
    exact h
  · exact ⟨row, List.mem_append_left _ hm, rfl⟩

theorem guarded_insertJob {row : Job δ} {experiences : List Experience}
    (hcreation : ∀ key, row.creation = some key → H (.jobCreation key)) :
    Guarded H store { store with experiences := experiences, jobs := store.jobs ++ [row] } := by
  refine ⟨fun _ _ h => h, fun _ _ h => h, fun row hm => ⟨row, hm, rfl⟩, fun key hfree h => ?_,
    fun row hm => List.mem_append_left _ hm⟩
  rw [rowsOf_append_of_ne fun he => hfree (hcreation key he)]
  exact h

theorem keys_close (key : RowKey) (batches : List (Batch δ)) :
    (updateWith Batch.key key (fun batch => { batch with closed := true }) batches).map Batch.key =
      batches.map Batch.key := map_updateWith fun _ => rfl

theorem rowsOf_close (key : RowKey) (batches : List (Batch δ)) (creation : BatchCreation) :
    rowsOf Batch.creation
        (updateWith Batch.key key (fun batch => { batch with closed := true }) batches)
        (some creation) =
      updateWith Batch.key key (fun batch => { batch with closed := true })
        (rowsOf Batch.creation batches (some creation)) := by
  have hattr : ∀ batch : Batch δ, Batch.creation { batch with closed := true } = batch.creation :=
    fun _ => rfl
  exact rowsWith_updateWith hattr (some creation)

theorem guarded_close (key : RowKey) : Guarded H store
    { store with
      batches := updateWith Batch.key key (fun batch => { batch with closed := true })
        store.batches } := by
  refine ⟨fun _ _ h => ?_, fun creation _ h => ?_, fun row hm => ?_, fun _ _ h => h, fun _ h => h⟩
  · rwa [keys_close]
  · rw [rowsOf_close, h]
    rfl
  · refine ⟨_, mem_updateWith.2 ⟨row, hm, rfl⟩, ?_⟩
    split <;> rfl

/-- A step of a caller leaves alone what its locks do not cover. -/
theorem guarded_of_step [DecidableEq δ] {caller caller' : Caller δ}
    (h : CallerStep sha256 store caller store' caller') :
    Guarded (fun k => k ∈ caller.locks ∨ k ∈ caller'.locks) store store' := by
  cases h with
  | @batchCommit _ input branch row =>
    refine guarded_insertBatch (.inl (by simp [Caller.locks])) fun key hkey => .inl ?_
    simp [Caller.locks, hkey]
  | @jobCommit _ input batch experience inserted row =>
    refine guarded_insertJob fun key hkey => .inl ?_
    simp [Caller.locks, hkey]
  | closeCommit => exact guarded_close _
  | _ => exact .of_eq rfl rfl

/-! ## What a caller knows -/

/-- The row was made by a request, and closed since at most. -/
def Batch.MadeBy (sha256 : PyStr → δ) (row : Batch δ) (input : CreateBatch) : Prop :=
  ∃ id branch, (input.row sha256 id branch).Same row

/-- The row was made by a request. -/
def Job.MadeBy (sha256 : PyStr → δ) (row : Job δ) (input : CreateJob) : Prop :=
  ∃ id experience, row = input.row sha256 id experience

theorem CreateBatch.creation_row (input : CreateBatch) (id : String) (branch : Branch) :
    (input.row sha256 id branch).creation = input.creation := rfl

theorem CreateJob.creation_row (input : CreateJob) (id : String) (experience : Experience) :
    (input.row sha256 id experience).creation = input.creation := rfl

theorem Batch.Same.creation {row row' : Batch δ} (h : row.Same row') :
    row'.creation = row.creation := by rw [h]; rfl

theorem Batch.Same.response {row row' : Batch δ} (h : row.Same row') :
    row'.response = row.response := by rw [h]; rfl

theorem Batch.Same.requestFingerprint {row row' : Batch δ} (h : row.Same row') :
    row'.requestFingerprint = row.requestFingerprint := by rw [h]

theorem Batch.Same.key {row row' : Batch δ} (h : row.Same row') : row'.key = row.key := by rw [h]

/-- The response of a request with a key is about the committed row of the key. -/
def BatchAnswer (sha256 : PyStr → δ) (store : Store δ) (input : CreateBatch)
    (response : BatchResponse) : Prop :=
  input.key ≠ none → ∃ row ∈ store.batches, row.creation = input.creation ∧
    row.requestFingerprint = some (creationFingerprint sha256 input.values) ∧
      response = row.response

/-- The response of a request with a key is about the committed row of the key. -/
def JobAnswer (sha256 : PyStr → δ) (store : Store δ) (input : CreateJob) (response : JobResponse) :
    Prop :=
  input.key ≠ none → ∃ row ∈ store.jobs, row.creation = input.creation ∧
    row.requestFingerprint = some (creationFingerprint sha256 input.values) ∧
      ∃ batch, response = row.response batch

/-- What a caller knows of the store. -/
def Caller.Knows (sha256 : PyStr → δ) : Caller δ → Store δ → Prop
  | .batchInserted input branch row, store => (∃ id, row = input.row sha256 id branch) ∧
      row.key ∉ store.batches.map Batch.key ∧
        ∀ key, row.creation = some key → rowsOf Batch.creation store.batches (some key) = []
  | .batchFound input response, store => BatchAnswer sha256 store input response
  | .batchLocked input _, store => input.batch ∈ store.batches.map Batch.key
  | .jobMissed input _, store => input.batch ∈ store.batches.map Batch.key
  | .experienceLocked input _ _ _, store => input.batch ∈ store.batches.map Batch.key
  | .jobInserted input _ _ _ row, store => input.batch ∈ store.batches.map Batch.key ∧
      row.MadeBy sha256 input ∧
        ∀ key, row.creation = some key → rowsOf Job.creation store.jobs (some key) = []
  | .jobFound input response, store => JobAnswer sha256 store input response
  | _, _ => True

theorem Guarded.mem_keys (h : Guarded H store store') {key : RowKey}
    (hm : key ∈ store.batches.map Batch.key) : key ∈ store'.batches.map Batch.key := by
  obtain ⟨row, hrow, rfl⟩ := List.mem_map.1 hm
  obtain ⟨row', hrow', hsame⟩ := h.batchKept row hrow
  exact List.mem_map.2 ⟨row', hrow', hsame.key⟩

theorem BatchAnswer.guarded {input : CreateBatch} {response : BatchResponse}
    (ha : BatchAnswer sha256 store input response) (h : Guarded H store store') :
    BatchAnswer sha256 store' input response := by
  intro hkey
  obtain ⟨row, hrow, hcreation, hfingerprint, rfl⟩ := ha hkey
  obtain ⟨row', hrow', hsame⟩ := h.batchKept row hrow
  exact ⟨row', hrow', hsame.creation.trans hcreation, hsame.requestFingerprint.trans hfingerprint,
    hsame.response.symm⟩

theorem JobAnswer.guarded {input : CreateJob} {response : JobResponse}
    (ha : JobAnswer sha256 store input response) (h : Guarded H store store') :
    JobAnswer sha256 store' input response := by
  intro hkey
  obtain ⟨row, hrow, hrest⟩ := ha hkey
  exact ⟨row, h.jobKept row hrow, hrest⟩

/-- What a caller knows stays true while others take steps without its locks. -/
theorem Caller.Knows.guarded {caller : Caller δ} (hk : caller.Knows sha256 store)
    (h : Guarded H store store') (hapart : ∀ k ∈ caller.locks, ¬ H k) :
    caller.Knows sha256 store' := by
  cases caller with
  | batchInserted input branch row =>
    obtain ⟨hrow, hkey, hcreation⟩ := hk
    refine ⟨hrow, h.batchKey _ (hapart _ (by simp [Caller.locks])) hkey, fun key he => ?_⟩
    exact h.batchCreation key (hapart _ (by simp [Caller.locks, he])) (hcreation key he)
  | jobInserted input batch experience inserted row =>
    obtain ⟨hm, hrow, hcreation⟩ := hk
    refine ⟨h.mem_keys hm, hrow, fun key he => ?_⟩
    exact h.jobCreation key (hapart _ (by simp [Caller.locks, he])) (hcreation key he)
  | batchFound input response => exact BatchAnswer.guarded hk h
  | jobFound input response => exact JobAnswer.guarded hk h
  | batchLocked | jobMissed | experienceLocked => exact h.mem_keys hk
  | _ => trivial

/-! ## What holds of the tables -/

/-- The tables hold what requests made, once for each key, and the responses are about them. -/
structure Settled (sha256 : PyStr → δ) (store : Store δ) : Prop where
  batchKeys : (store.batches.map Batch.key).Nodup
  batchOnce : ∀ key, (rowsOf Batch.creation store.batches (some key)).length ≤ 1
  batchMade : ∀ row ∈ store.batches, ∃ input, row.MadeBy sha256 input
  batchAnswers : ∀ entry ∈ store.batchResponses, BatchAnswer sha256 store entry.1 entry.2
  jobBatches : ∀ row ∈ store.jobs, row.batch ∈ store.batches.map Batch.key
  jobOnce : ∀ key, (rowsOf Job.creation store.jobs (some key)).length ≤ 1
  jobMade : ∀ row ∈ store.jobs, ∃ input, row.MadeBy sha256 input
  jobAnswers : ∀ entry ∈ store.jobResponses, JobAnswer sha256 store entry.1 entry.2

/-- A step that writes no batch and no job, and responds what its caller knows. -/
theorem Settled.respond (h : Settled sha256 store) (hbatches : store'.batches = store.batches)
    (hjobs : store'.jobs = store.jobs)
    (hbatch : ∀ entry ∈ store'.batchResponses,
      entry ∈ store.batchResponses ∨ BatchAnswer sha256 store entry.1 entry.2)
    (hjob : ∀ entry ∈ store'.jobResponses,
      entry ∈ store.jobResponses ∨ JobAnswer sha256 store entry.1 entry.2) :
    Settled sha256 store' := by
  have hguarded : Guarded (fun _ => False) store store' := .of_eq hbatches hjobs
  constructor
  · exact hbatches ▸ h.batchKeys
  · exact hbatches ▸ h.batchOnce
  · exact hbatches ▸ h.batchMade
  · intro entry hm
    exact ((hbatch entry hm).elim (h.batchAnswers entry) id).guarded hguarded
  · exact hbatches ▸ hjobs ▸ h.jobBatches
  · exact hjobs ▸ h.jobOnce
  · exact hjobs ▸ h.jobMade
  · intro entry hm
    exact ((hjob entry hm).elim (h.jobAnswers entry) id).guarded hguarded

/-! ## Steps -/

variable [DecidableEq δ]

theorem batchAnswer_of_retry {input : CreateBatch} {row : Batch δ}
    (h : input.retry sha256 store = .ok (some row)) : BatchAnswer sha256 store input row.response := by
  obtain ⟨hm, hcreation, hfingerprint⟩ := retry_eq_some h
  exact fun _ => ⟨row, hm, hcreation, hfingerprint, rfl⟩

theorem jobAnswer_of_retry {input : CreateJob} {row : Job δ}
    (h : input.retry sha256 store = .ok (some row)) (batch : Batch δ) :
    JobAnswer sha256 store input (row.response batch) := by
  obtain ⟨hm, hcreation, hfingerprint⟩ := retry_eq_some h
  exact fun _ => ⟨row, hm, hcreation, hfingerprint, batch, rfl⟩

/-- A step of a caller leads to what it then knows. -/
theorem knows_of_step {caller caller' : Caller δ} (h : CallerStep sha256 store caller store' caller')
    (hk : caller.Knows sha256 store) : caller'.Knows sha256 store' := by
  cases h with
  | batchRetryFound hretry => exact batchAnswer_of_retry hretry
  | batchConflictFound hretry => exact batchAnswer_of_retry hretry
  | @batchInsert _ input branch id hprimary hunique =>
    refine ⟨⟨id, rfl⟩, ?_, fun key he => ?_⟩
    · intro hm
      obtain ⟨row, hrow, hkey⟩ := List.mem_map.1 hm
      have : row ∈ rowsWith Batch.key (input.row sha256 id branch).key store.batches :=
        mem_rowsWith.2 ⟨hrow, hkey⟩
      rw [hprimary] at this
      cases this
    · rwa [← he, CreateBatch.creation_row]
  | @batchCommit _ input branch row =>
    obtain ⟨⟨id, rfl⟩, -, -⟩ := hk
    intro hkey
    obtain ⟨key, hkey⟩ := Option.ne_none_iff_exists'.1 hkey
    refine ⟨_, List.mem_append_right _ (List.mem_singleton_self _), rfl, ?_, rfl⟩
    simp [CreateBatch.row, hkey]
  | batchLock hrows =>
    obtain ⟨hm, hkey⟩ := mem_rowsWith.1 (hrows ▸ List.mem_singleton_self _)
    exact List.mem_map.2 ⟨_, hm, hkey⟩
  | jobRetryFound hretry => exact jobAnswer_of_retry hretry _
  | jobRetryMissed => exact hk
  | experienceFound => exact hk
  | experienceInsert => exact hk
  | @jobInsert _ input batch experience inserted id hprimary hunique =>
    refine ⟨hk, ⟨id, experience, rfl⟩, fun key he => ?_⟩
    rwa [← he, CreateJob.creation_row]
  | @jobCommit _ input batch experience inserted row =>
    obtain ⟨-, ⟨id, experience, rfl⟩, -⟩ := hk
    intro hkey
    obtain ⟨key, hkey⟩ := Option.ne_none_iff_exists'.1 hkey
    refine ⟨_, List.mem_append_right _ (List.mem_singleton_self _), rfl, ?_, batch, rfl⟩
    simp [CreateJob.row, hkey]
  | jobConflictFound hretry => exact jobAnswer_of_retry hretry _
  | _ => trivial

/-- A step of a caller that knows what it has read keeps the tables settled. -/
theorem Settled.step {caller caller' : Caller δ} (hstep : CallerStep sha256 store caller store' caller')
    (h : Settled sha256 store) (hk : caller.Knows sha256 store) : Settled sha256 store' := by
  have hguarded := guarded_of_step hstep
  cases hstep with
  | @batchCommit _ input branch row =>
    obtain ⟨⟨id, rfl⟩, hkey, hcreation⟩ := hk
    refine ⟨?_, fun key => ?_, fun row hm => ?_, fun entry hm => ?_, fun row hm => ?_, h.jobOnce,
      h.jobMade, fun entry hm => (h.jobAnswers entry hm).guarded hguarded⟩
    · rw [List.map_append, List.nodup_append]
      refine ⟨h.batchKeys, List.nodup_singleton _, ?_⟩
      rintro key hm _ hrow rfl
      exact hkey (List.mem_singleton.1 hrow ▸ hm)
    · exact length_rowsOf_append (h.batchOnce key) (hcreation key)
    · rcases List.mem_append.1 hm with hm | hm
      · exact h.batchMade row hm
      · obtain rfl := List.mem_singleton.1 hm
        exact ⟨input, id, branch, rfl⟩
    · exact (h.batchAnswers entry hm).guarded hguarded
    · exact hguarded.mem_keys (h.jobBatches row hm)
  | @jobCommit _ input batch experience inserted row =>
    obtain ⟨hbatch, hrow, hcreation⟩ := hk
    refine ⟨h.batchKeys, h.batchOnce, h.batchMade,
      fun entry hm => (h.batchAnswers entry hm).guarded hguarded, fun row' hm => ?_, fun key => ?_,
      fun row' hm => ?_, fun entry hm => (h.jobAnswers entry hm).guarded hguarded⟩
    · rcases List.mem_append.1 hm with hm | hm
      · exact h.jobBatches row' hm
      · obtain rfl := List.mem_singleton.1 hm
        obtain ⟨id, experience, rfl⟩ := hrow
        exact hbatch
    · exact length_rowsOf_append (h.jobOnce key) (hcreation key)
    · rcases List.mem_append.1 hm with hm | hm
      · exact h.jobMade row' hm
      · obtain rfl := List.mem_singleton.1 hm
        exact ⟨input, hrow⟩
  | @closeCommit _ key =>
    refine ⟨?_, fun creation => ?_, fun row hm => ?_,
      fun entry hm => (h.batchAnswers entry hm).guarded hguarded, fun row hm => ?_, h.jobOnce,
      h.jobMade, fun entry hm => (h.jobAnswers entry hm).guarded hguarded⟩
    · rw [keys_close]
      exact h.batchKeys
    · rw [rowsOf_close, length_updateWith]
      exact h.batchOnce creation
    · obtain ⟨row', hm', rfl⟩ := mem_updateWith.1 hm
      obtain ⟨input, id, branch, hsame⟩ := h.batchMade row' hm'
      refine ⟨input, id, branch, ?_⟩
      split
      · rw [hsame]
        rfl
      · exact hsame
    · rw [keys_close]
      exact h.jobBatches row hm
  | @batchReturn _ input response =>
    refine h.respond rfl rfl (fun entry hm => ?_) fun entry hm => .inl hm
    rcases List.mem_append.1 hm with hm | hm
    · exact .inl hm
    · obtain rfl := List.mem_singleton.1 hm
      exact .inr hk
  | @jobReturn _ input response =>
    refine h.respond rfl rfl (fun entry hm => .inl hm) fun entry hm => ?_
    rcases List.mem_append.1 hm with hm | hm
    · exact .inl hm
    · obtain rfl := List.mem_singleton.1 hm
      exact .inr hk
  | jobConflictFound => exact h.respond rfl rfl (fun _ hm => .inl hm) fun _ hm => .inl hm
  | configureCommit => exact h.respond rfl rfl (fun _ hm => .inl hm) fun _ hm => .inl hm
  | _ => exact h

/-! ## Retries of a job -/

/-- A call that looks for its job finds it, whether the batch is closed or not, and can only stop
otherwise. -/
def RetryReturns (sha256 : PyStr → δ) (store : Store δ) (input : CreateJob) (row : Job δ) : Prop :=
  (∃ batch, CallerStep sha256 store (.jobBegun input) store (.batchLocked input batch)) ∧
  (∀ store' caller', CallerStep sha256 store (.jobBegun input) store' caller' →
    caller' = .idle ∨ ∃ batch, caller' = .batchLocked input batch) ∧
  ∀ batch, CallerStep sha256 store (.batchLocked input batch) store
      (.jobFound input (row.response batch)) ∧
    ∀ store' caller', CallerStep sha256 store (.batchLocked input batch) store' caller' →
      caller' = .idle ∨ caller' = .jobFound input (row.response batch)

omit [DecidableEq δ] in
theorem rowsWith_key_of_mem {key : RowKey} (h : Settled sha256 store)
    (hm : key ∈ store.batches.map Batch.key) : ∃ batch, rowsWith Batch.key key store.batches = [batch] := by
  obtain ⟨batch, hbatch, rfl⟩ := List.mem_map.1 hm
  refine ⟨batch, ?_⟩
  have hlength : (rowsWith Batch.key batch.key store.batches).length ≤ 1 := by
    have hcount := List.nodup_iff_count_le_one.1 h.batchKeys batch.key
    rwa [List.count, List.countP_map, List.countP_eq_length_filter] at hcount
  have hmem : batch ∈ rowsWith Batch.key batch.key store.batches := mem_rowsWith.2 ⟨hbatch, rfl⟩
  obtain ⟨other, hother⟩ := List.length_eq_one_iff.1
    (le_antisymm hlength (List.length_pos_of_mem hmem))
  rw [hother] at hmem
  rw [hother, List.mem_singleton.1 hmem]

/-- The request of a committed job finds it. -/
theorem retry_of_mem {input : CreateJob} {row : Job δ} (h : Settled sha256 store)
    (hm : row ∈ store.jobs) (hkey : input.key ≠ none) (hcreation : row.creation = input.creation)
    (hfingerprint : row.requestFingerprint = some (creationFingerprint sha256 input.values)) :
    input.retry sha256 store = .ok (some row) := by
  obtain ⟨key, hkey⟩ := Option.ne_none_iff_exists'.1 hkey
  obtain ⟨entry, hentry⟩ : ∃ entry, input.creation = some entry :=
    ⟨_, by rw [CreateJob.creation, hkey, Option.map_some]⟩
  have hmem : row ∈ rowsOf Job.creation store.jobs (some entry) :=
    mem_rowsOf.2 ⟨hm, hcreation.trans hentry⟩
  obtain ⟨other, hother⟩ := List.length_eq_one_iff.1
    (le_antisymm (h.jobOnce entry) (List.length_pos_of_mem hmem))
  rw [hother] at hmem
  obtain rfl := List.mem_singleton.1 hmem
  rw [CreateJob.retry, hentry, hother, retry, require_of hfingerprint]
  rfl

theorem retryReturns_of_mem {input : CreateJob} {row : Job δ} (h : Settled sha256 store)
    (hm : row ∈ store.jobs) (hkey : input.key ≠ none) (hcreation : row.creation = input.creation)
    (hfingerprint : row.requestFingerprint = some (creationFingerprint sha256 input.values)) :
    RetryReturns sha256 store input row := by
  have hretry := retry_of_mem h hm hkey hcreation hfingerprint
  have hbatch : row.batch = input.batch := by
    obtain ⟨key, hkey⟩ := Option.ne_none_iff_exists'.1 hkey
    rw [Job.creation, CreateJob.creation, hkey, Option.map_some] at hcreation
    obtain ⟨_, -, hrow⟩ := Option.map_eq_some_iff.1 hcreation
    exact congrArg JobCreation.batch hrow
  obtain ⟨batch, hrows⟩ := rowsWith_key_of_mem h (hbatch ▸ h.jobBatches row hm)
  refine ⟨⟨batch, .batchLock hrows⟩, fun store' caller' hstep => ?_,
    fun batch => ⟨.jobRetryFound hretry, fun store' caller' hstep => ?_⟩⟩
  · cases hstep with
    | stop => exact .inl rfl
    | batchLock => exact .inr ⟨_, rfl⟩
    | batchMissing hmissing => simp [hrows] at hmissing
  · cases hstep with
    | stop => exact .inl rfl
    | jobRetryFound hfound =>
      rw [hretry] at hfound
      obtain rfl := Option.some.inj (Except.ok.inj hfound)
      exact .inr rfl
    | jobRetryFailed hfailed => rw [hretry] at hfailed; cases hfailed
    | jobRetryMissed hmissed => rw [hretry] at hmissed; cases hmissed

/-! ## Every schedule -/

theorem callers_keep (sha256 : PyStr → δ) :
    (callers sha256).Keeps (Settled sha256) (Caller.Knows sha256) where
  shared hstep h hk := h.step hstep hk
  own hstep _ hk := knows_of_step hstep hk
  other hstep _ _ hu hapart := hu.guarded (guarded_of_step hstep) hapart

theorem Initial.consistent {c : Threads.Config (Store δ) (Caller δ) ℕ} (h : Initial c) :
    (callers sha256).Consistent (Settled sha256) (Caller.Knows sha256) c := by
  obtain ⟨hbatches, -, hjobs, hbatchResponses, hjobResponses, hidle⟩ := h
  refine ⟨fun i j k hi _ => ?_, ?_, fun i => ?_⟩
  · have hi : k ∈ (c.thread i).locks := hi
    rw [hidle i] at hi
    cases hi
  · constructor <;> simp [hbatches, hjobs, hbatchResponses, hjobResponses, rowsOf, rowsWith]
  · rw [hidle i]
    trivial

/-- Each key has at most one batch, and every successful call of the key returned it and had the
inputs that it was created with. -/
def BatchesOnce (sha256 : PyStr → δ) (store : Store δ) : Prop :=
  ∀ key, (rowsOf Batch.creation store.batches (some key)).length ≤ 1 ∧
    ∀ input response, (input, response) ∈ store.batchResponses → input.creation = some key →
      ∃ row ∈ store.batches, row.creation = some key ∧ response.batchId = row.key.id ∧
        (∃ creator, row.MadeBy sha256 creator) ∧
        ∀ creator, row.MadeBy sha256 creator → creator.values = input.values

/-- Each key has at most one job, and every successful call of the key returned it and had the
inputs that it was created with. -/
def JobsOnce (sha256 : PyStr → δ) (store : Store δ) : Prop :=
  ∀ key, (rowsOf Job.creation store.jobs (some key)).length ≤ 1 ∧
    ∀ input response, (input, response) ∈ store.jobResponses → input.creation = some key →
      ∃ row ∈ store.jobs, row.creation = some key ∧ response.jobId = row.id ∧
        (∃ creator, row.MadeBy sha256 creator) ∧
        ∀ creator, row.MadeBy sha256 creator → creator.values = input.values

omit [DecidableEq δ] in
/-- The fingerprint of a row is that of whatever request made it. -/
theorem Batch.MadeBy.requestFingerprint {row : Batch δ} {creator : CreateBatch}
    (h : row.MadeBy sha256 creator) (hkey : row.requestKey ≠ none) :
    row.requestFingerprint = some (creationFingerprint sha256 creator.values) := by
  obtain ⟨id, branch, hsame⟩ := h
  rw [hsame] at hkey ⊢
  obtain ⟨key, hkey⟩ := Option.ne_none_iff_exists'.1 hkey
  have hkey : creator.key = some key := hkey
  simp [CreateBatch.row, hkey]

omit [DecidableEq δ] in
theorem Job.MadeBy.requestFingerprint {row : Job δ} {creator : CreateJob}
    (h : row.MadeBy sha256 creator) (hkey : row.requestKey ≠ none) :
    row.requestFingerprint = some (creationFingerprint sha256 creator.values) := by
  obtain ⟨id, experience, rfl⟩ := h
  obtain ⟨key, hkey⟩ := Option.ne_none_iff_exists'.1 hkey
  have hkey : creator.key = some key := hkey
  simp [CreateJob.row, hkey]

omit [DecidableEq δ] in
theorem Settled.batchesOnce (h : Settled sha256 store) (hsha : Function.Injective sha256) :
    BatchesOnce sha256 store := by
  refine fun key => ⟨h.batchOnce key, fun input response hm hinput => ?_⟩
  have hkey : input.key ≠ none := fun hnone => by
    rw [CreateBatch.creation, hnone] at hinput
    cases hinput
  obtain ⟨row, hrow, hcreation, hfingerprint, rfl⟩ := h.batchAnswers _ hm hkey
  refine ⟨row, hrow, hcreation.trans hinput, rfl, h.batchMade row hrow, fun creator hmade => ?_⟩
  have hrequest : row.requestKey ≠ none := fun hnone => by
    rw [hinput, Batch.creation, hnone] at hcreation
    cases hcreation
  rw [hmade.requestFingerprint hrequest] at hfingerprint
  exact creationFingerprint_injective hsha (Option.some.inj hfingerprint)

omit [DecidableEq δ] in
theorem Settled.jobsOnce (h : Settled sha256 store) (hsha : Function.Injective sha256) :
    JobsOnce sha256 store := by
  refine fun key => ⟨h.jobOnce key, fun input response hm hinput => ?_⟩
  have hkey : input.key ≠ none := fun hnone => by
    rw [CreateJob.creation, hnone] at hinput
    cases hinput
  obtain ⟨row, hrow, hcreation, hfingerprint, batch, rfl⟩ := h.jobAnswers _ hm hkey
  refine ⟨row, hrow, hcreation.trans hinput, rfl, h.jobMade row hrow, fun creator hmade => ?_⟩
  have hrequest : row.requestKey ≠ none := fun hnone => by
    rw [hinput, Job.creation, hnone] at hcreation
    cases hcreation
  rw [hmade.requestFingerprint hrequest] at hfingerprint
  exact creationFingerprint_injective hsha (Option.some.inj hfingerprint)

/-- In every reachable state each key has at most one row, which every successful call of the key
returned and had the inputs of; a retry of the creation of a job returns it, closed batch or not; and
rows are never lost. -/
theorem creation_idempotent (sha256 : PyStr → δ) (hsha : Function.Injective sha256)
    (c : Threads.Config (Store δ) (Caller δ) ℕ) (hc : Reachable Initial (Step sha256) c) :
    BatchesOnce sha256 c.shared ∧ JobsOnce sha256 c.shared ∧
    (∀ row ∈ c.shared.jobs, ∀ creator input : CreateJob, row.MadeBy sha256 creator →
      input.key ≠ none → input.creation = creator.creation → input.values = creator.values →
        RetryReturns sha256 c.shared input row) ∧
    ∀ c', ReflTransGen (Step sha256) c c' →
      (∀ row ∈ c.shared.batches, ∃ row' ∈ c'.shared.batches, row.Same row') ∧
        ∀ row ∈ c.shared.jobs, row ∈ c'.shared.jobs := by
  have hsettled := (callers_keep sha256).reachable (fun _ => Initial.consistent) hc |>.shared
  refine ⟨hsettled.batchesOnce hsha, hsettled.jobsOnce hsha, ?_, ?_⟩
  · intro row hm creator input hmade hkey hcreation hvalues
    have hrow : row.creation = input.creation := by
      obtain ⟨id, experience, rfl⟩ := hmade
      exact hcreation.symm
    have hrequest : row.requestKey ≠ none := fun hnone => by
      obtain ⟨key, hkey⟩ := Option.ne_none_iff_exists'.1 hkey
      rw [Job.creation, hnone, CreateJob.creation, hkey] at hrow
      cases hrow
    refine retryReturns_of_mem hsettled hm hkey hrow ?_
    rw [hvalues]
    exact hmade.requestFingerprint hrequest
  · intro c' hs
    have hkept : ∀ {store store' : Store δ} {t t' : Caller δ}, CallerStep sha256 store t store' t' →
        (∀ row ∈ store.batches, ∃ row' ∈ store'.batches, row.Same row') ∧
          ∀ row ∈ store.jobs, row ∈ store'.jobs :=
      fun h => ⟨(guarded_of_step h).batchKept, (guarded_of_step h).jobKept⟩
    induction hs with
    | refl => exact ⟨fun row hm => ⟨row, hm, rfl⟩, fun _ hm => hm⟩
    | tail _ hstep ih =>
      obtain ⟨i, s, t, hstep, -⟩ := hstep
      refine ⟨fun row hm => ?_, fun row hm => (hkept hstep).2 row (ih.2 row hm)⟩
      obtain ⟨row', hm', hsame⟩ := ih.1 row hm
      obtain ⟨row'', hm'', hsame'⟩ := (hkept hstep).1 row' hm'
      refine ⟨row'', hm'', ?_⟩
      rw [Batch.Same, hsame', hsame]

/-! ### A job in a closed batch -/

/-- All callers are idle but one. -/
def only (store : Store δ) (caller : Caller δ) : Threads.Config (Store δ) (Caller δ) ℕ :=
  ⟨store, Function.update (fun _ => .idle) 0 caller⟩

theorem only_step {caller caller' : Caller δ} (h : CallerStep sha256 store caller store' caller') :
    Step sha256 (only store caller) (only store' caller') := by
  have hself : (only store caller).thread 0 = caller := by simp [only]
  have hstep := Threads.Step.intro (S := callers sha256) (only store caller) 0 store' caller'
    (hself.symm ▸ h) ?_
  · rwa [only, Function.update_idem] at hstep
  · intro k _ j hj hk
    have hidle : (only store caller).thread j = .idle := by simp [only, hj]
    rw [hidle] at hk
    cases hk

def mainBranch : Branch := ⟨⟨"tenant", "project", "branch"⟩, none⟩

def nightly : CreateBatch :=
  ⟨⟨"tenant", "project", "principal", "account"⟩, "branch", some "nightly", none, none, some "key"⟩

def probe : CreateJob := ⟨nightly.project, "batch", "probe", some "key"⟩

def probeExperience : Experience := ⟨⟨"tenant", "project", "experience"⟩, "probe"⟩

/-- A closed batch with one job, which a caller has been told of. -/
def probed : Store PyStr where
  branches := [mainBranch]
  batches := [{ nightly.row id "batch" mainBranch with closed := true }]
  experiences := [probeExperience]
  jobs := [probe.row id "job" probeExperience]
  batchResponses := []
  jobResponses :=
    [(probe, (probe.row id "job" probeExperience).response (nightly.row id "batch" mainBranch))]

theorem probed_reachable : Reachable Initial (Step id) (only probed .idle) := by
  have hstart : Reachable Initial (Step id)
      (only (⟨[mainBranch], [], [], [], [], []⟩ : Store PyStr) .idle) :=
    .of_start ⟨rfl, rfl, rfl, rfl, rfl, fun i => by simp [only]⟩
  have hbatch := ((((((hstart.steps (.single (only_step (.batchBegin nightly rfl)))).steps
    (.single (only_step (.batchRetryMissed rfl)))).steps
    (.single (only_step (.branchLock rfl)))).steps
    (.single (only_step (.batchInsert "batch" rfl rfl)))).steps
    (.single (only_step .batchCommit))).steps (.single (only_step (.stop _ _))))
  have hjob := ((((((hbatch.steps (.single (only_step (.jobBegin probe)))).steps
    (.single (only_step (.batchLock rfl)))).steps
    (.single (only_step (.jobRetryMissed rfl)))).steps
    (.single (only_step (.experienceInsert rfl "experience" nofun)))).steps
    (.single (only_step (.jobInsert "job" nofun rfl)))).steps
    (.single (only_step .jobCommit))).steps (.single (only_step .jobReturn))
  exact ((hjob.steps (.single (only_step (.close ⟨"tenant", "project", "batch"⟩)))).steps
    (.single (only_step .closeCommit)))

theorem creation_idempotent_probed : JobsOnce id probed ∧
    RetryReturns id probed probe (probe.row id "job" probeExperience) := by
  obtain ⟨-, hjobs, hretry, -⟩ :=
    creation_idempotent id Function.injective_id _ probed_reachable
  exact ⟨hjobs, hretry _ (List.mem_singleton_self _) probe probe ⟨"job", probeExperience, rfl⟩
    (by decide) rfl rfl⟩

end RoboticsRuntime.Api.Creation
