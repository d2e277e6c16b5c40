import ModelAtlas.Foundations.Table
import ModelAtlas.Records

/-!
# The durable job queue

The job table of `services/agent_jobs.py`. A transaction that selects its row
`FOR UPDATE` is one function; `process_claimed_agent_job` is given as its
unlocked read, the change of the loaded row, and the commit of the changed
columns.
-/

namespace ModelAtlas.Jobs

open Foundations

inductive JobType where
  | resumeCheckpoint
  | checkpointReconciliation
  | trafficEvidenceImport
  | modelValidationCampaign
  | trustSourceSync
  | oidcSessionCleanup
  | operationalObservabilityCycle
  | operationalAlertDelivery
  deriving DecidableEq, Repr

inductive JobStatus where
  | queued
  | leased
  | running
  | completed
  | failed
  | cancelled
  deriving DecidableEq, Repr

namespace JobStatus

/-- `status in {"leased", "running"}`. -/
def underLease : JobStatus → Bool
  | leased | running => true
  | queued | completed | failed | cancelled => false

/-- `ACTIVE_JOB_STATUSES`. -/
def active : JobStatus → Bool
  | queued | leased | running => true
  | completed | failed | cancelled => false

def text : JobStatus → String
  | queued => "queued"
  | leased => "leased"
  | running => "running"
  | completed => "completed"
  | failed => "failed"
  | cancelled => "cancelled"

end JobStatus

structure AgentExecutionJob (Payload Result : Type) where
  id : Uuid
  jobType : JobType
  status : JobStatus
  dedupeKey : String
  payloadJson : Payload
  requestedByIdentityJson : SignerIdentity
  (benchmarkRunId benchmarkResultId checkpointRecordId : Option Uuid)
  priority : Int
  availableAt : Time
  leaseOwner : Option String
  leaseToken : Option Uuid
  (leaseExpiresAt lastHeartbeatAt : Option Time)
  (heartbeatCount attemptCount maxAttempts : Int)
  (startedAt completedAt : Option Time)
  lastError : Option String
  resultJson : Option Result
  deadLetteredAt : Option Time
  deadLetterReason : Option String
  requeueCount : Int
  lastRequeuedAt : Option Time
  lastRequeuedByIdentityJson : Option (SignerIdentity × String)
  createdAt : Time

variable {Payload Result : Type}

instance : Keyed (AgentExecutionJob Payload Result) Uuid where
  key := AgentExecutionJob.id

/-- The `retry_policy` object of a job payload. -/
structure RetryPolicy where
  (baseSeconds maxSeconds jitterSeconds : Int)
  deriving DecidableEq, Repr

/-- What the queue takes from outside: `str.lower`, the retry policy of a payload, and the first
eight bytes of a SHA-256. -/
structure JobEnvironment (Payload : Type) where
  lower : String → String
  retryPolicy : Payload → Option RetryPolicy
  digest : String → Nat

def deterministicJitter (digest : String → Nat) (text : String) (maximum : Int) : Int :=
  if maximum ≤ 0 then 0 else (digest text : Int) % (maximum + 1)

/-- `int(value or fallback)` of a stored integer. -/
def intOr (value fallback : Int) : Int :=
  if value = 0 then fallback else value

/-- `retry_delay_seconds` of the trust-source scheduler. -/
def trustSourceRetryDelaySeconds (env : JobEnvironment Payload)
    (job : AgentExecutionJob Payload Result) : Int :=
  match env.retryPolicy job.payloadJson with
  | none =>
    min 60 (2 ^ job.attemptCount.toNat)
  | some policy =>
    let base := max 1 (min (intOr policy.baseSeconds 1) 3600)
    let maximum := max base (min (intOr policy.maxSeconds base) 3600)
    let jitter := max 0 (min (intOr policy.jitterSeconds 0) maximum)
    let delay := min maximum (base * 2 ^ (max 0 (job.attemptCount - 1)).toNat)
    min maximum (delay + deterministicJitter env.digest
        (toString job.id ++ ":" ++ toString job.attemptCount) jitter)

def retryDelaySeconds (env : JobEnvironment Payload)
    (job : AgentExecutionJob Payload Result) : Int :=
  if job.jobType = .trustSourceSync then
    trustSourceRetryDelaySeconds env job
  else min 60 (2 ^ job.attemptCount.toNat)

structure JobChange (Payload Result : Type) where
  apply : AgentExecutionJob Payload Result → AgentExecutionJob Payload Result
  keepsId : ∀ job, (apply job).id = job.id
  keepsDedupeKey : ∀ job, (apply job).dedupeKey = job.dedupeKey
  keepsType : ∀ job, (apply job).jobType = job.jobType
  keepsPayload : ∀ job, (apply job).payloadJson = job.payloadJson
  setsNoToken : ∀ job token,
    (apply job).leaseToken = some token → job.leaseToken = some token

namespace JobChange

def onlyAt (wanted : Uuid) (change : JobChange Payload Result) : JobChange Payload Result where
  apply job := if job.id = wanted then change.apply job else job
  keepsId job := by split <;> simp [change.keepsId]
  keepsDedupeKey job := by split <;> simp [change.keepsDedupeKey]
  keepsType job := by split <;> simp [change.keepsType]
  keepsPayload job := by split <;> simp [change.keepsPayload]
  setsNoToken job token := by
    split
    · exact change.setsNoToken job token
    · exact id

end JobChange

/-- One column of an `UPDATE`: only a column whose value differs from the
loaded one is written. -/
def flushColumn {Value : Type} [DecidableEq Value] (loaded changed current : Value) : Value :=
  if changed = loaded then current else changed

@[simp]
theorem flushColumn_unchanged {Value : Type} [DecidableEq Value] (loaded current : Value) :
    flushColumn loaded loaded current = current :=
  if_pos rfl

@[simp]
theorem flushColumn_current {Value : Type} [DecidableEq Value] (loaded changed : Value) :
    flushColumn loaded changed loaded = changed := by
  unfold flushColumn
  split
  · exact Eq.symm ‹_›
  · rfl

theorem flushColumn_cases {Value : Type} [DecidableEq Value] (loaded changed current : Value) :
    (changed = loaded ∧ flushColumn loaded changed current = current) ∨
      (changed ≠ loaded ∧ flushColumn loaded changed current = changed) := by
  by_cases same : changed = loaded
  · exact Or.inl ⟨same, if_pos same⟩
  · exact Or.inr ⟨same, if_neg same⟩

theorem flushColumn_ne {Value : Type} [DecidableEq Value] {loaded changed current excluded : Value}
    (changedOther : changed ≠ excluded) (currentOther : current ≠ excluded) :
    flushColumn loaded changed current ≠ excluded := by
  rcases flushColumn_cases loaded changed current with
    ⟨_, kept⟩ | ⟨_, written⟩
  · rw [kept]
    exact currentOther
  · rw [written]
    exact changedOther

/-- The `UPDATE` of a row `loaded` earlier and `changed` in the session, over the columns that
unlocked commits assign. -/
def flushRow [DecidableEq Result] (loaded changed current : AgentExecutionJob Payload Result) :
    AgentExecutionJob Payload Result :=
  { current with
    status := flushColumn loaded.status changed.status current.status
    availableAt :=
      flushColumn loaded.availableAt changed.availableAt current.availableAt
    leaseOwner :=
      flushColumn loaded.leaseOwner changed.leaseOwner current.leaseOwner
    leaseToken :=
      flushColumn loaded.leaseToken changed.leaseToken current.leaseToken
    leaseExpiresAt :=
      flushColumn loaded.leaseExpiresAt changed.leaseExpiresAt current.leaseExpiresAt
    completedAt :=
      flushColumn loaded.completedAt changed.completedAt current.completedAt
    lastError := flushColumn loaded.lastError changed.lastError current.lastError
    resultJson :=
      flushColumn loaded.resultJson changed.resultJson current.resultJson
    deadLetteredAt :=
      flushColumn loaded.deadLetteredAt changed.deadLetteredAt current.deadLetteredAt
    deadLetterReason :=
      flushColumn loaded.deadLetterReason changed.deadLetterReason current.deadLetterReason }

@[simp]
theorem flushRow_status [DecidableEq Result]
    (loaded changed current : AgentExecutionJob Payload Result) :
    (flushRow loaded changed current).status =
      flushColumn loaded.status changed.status current.status :=
  rfl

@[simp]
theorem flushRow_leaseToken [DecidableEq Result]
    (loaded changed current : AgentExecutionJob Payload Result) :
    (flushRow loaded changed current).leaseToken =
      flushColumn loaded.leaseToken changed.leaseToken current.leaseToken :=
  rfl

def JobChange.flushed [DecidableEq Result] (change : JobChange Payload Result)
    (loaded : AgentExecutionJob Payload Result) :
    JobChange Payload Result where
  apply current := flushRow loaded (change.apply loaded) current
  keepsId _ := rfl
  keepsDedupeKey _ := rfl
  keepsType _ := rfl
  keepsPayload _ := rfl
  setsNoToken current token := by
    intro flushedToken
    rw [flushRow_leaseToken] at flushedToken
    rcases flushColumn_cases loaded.leaseToken (change.apply loaded).leaseToken
        current.leaseToken with ⟨_, kept⟩ | ⟨changed, written⟩
    · exact kept ▸ flushedToken
    · rw [written] at flushedToken
      have unchanged := change.setsNoToken loaded token flushedToken
      exact absurd (flushedToken.trans unchanged.symm) changed

def markDeadLetter (reason : String) (now : Time) (job : AgentExecutionJob Payload Result) :
    AgentExecutionJob Payload Result :=
  { job with
    status := .failed
    completedAt := some now
    leaseExpiresAt := none
    leaseToken := none
    deadLetteredAt := some now
    deadLetterReason := some (pyClip 4000 reason) }

def leaseExpiredMessage : String :=
  "Worker lease expired before completion."

/-- The rows selected by `_recover_expired_leases`. -/
def leaseExpired (now : Time) (job : AgentExecutionJob Payload Result) : Bool :=
  job.status.underLease && job.leaseExpiresAt.any (· ≤ now)

/-- The body of the loop in `_recover_expired_leases`. -/
def recoverJob (now : Time) (job : AgentExecutionJob Payload Result) :
    AgentExecutionJob Payload Result :=
  let released : AgentExecutionJob Payload Result :=
    { job with
      lastError := some leaseExpiredMessage
      leaseOwner := none
      leaseToken := none
      leaseExpiresAt := none }
  if released.maxAttempts ≤ released.attemptCount then
    markDeadLetter leaseExpiredMessage now released
  else
    { released with status := .queued, availableAt := now }

/-- `_recover_expired_leases`, which skips the rows `locked` by other
transactions. -/
def recoverExpired (now : Time) (locked : Uuid → Bool) : JobChange Payload Result where
  apply job :=
    if leaseExpired now job && !locked job.id then recoverJob now job else job
  keepsId job := by
    simp only [recoverJob, markDeadLetter]
    split_ifs <;> rfl
  keepsDedupeKey job := by
    simp only [recoverJob, markDeadLetter]
    split_ifs <;> rfl
  keepsType job := by
    simp only [recoverJob, markDeadLetter]
    split_ifs <;> rfl
  keepsPayload job := by
    simp only [recoverJob, markDeadLetter]
    split_ifs <;> rfl
  setsNoToken job token := by
    simp only [recoverJob, markDeadLetter]
    split_ifs <;> simp

/-- `max(5, min(int(lease_seconds), MAX_LEASE_SECONDS))`. -/
def boundedLease (leaseSeconds : Int) : Int :=
  max 5 (min leaseSeconds 900)

/-- What `claim_agent_job` writes to the row it selected. -/
def leaseJob (worker : String) (token : Uuid) (lease : Int) (now : Time)
    (job : AgentExecutionJob Payload Result) :
    AgentExecutionJob Payload Result :=
  { job with
    status := .leased
    leaseOwner := some (pyClip 160 worker)
    leaseToken := some token
    leaseExpiresAt := some (now + lease)
    lastHeartbeatAt := some now
    heartbeatCount := 1
    attemptCount := job.attemptCount + 1
    startedAt := some (job.startedAt.getD now)
    lastError := none }

/-- What `heartbeat_agent_job` writes. -/
def heartbeatChange (leaseSeconds : Int) (now : Time) : JobChange Payload Result where
  apply job :=
    { job with
      leaseExpiresAt := some (now + boundedLease leaseSeconds)
      lastHeartbeatAt := some now
      heartbeatCount := job.heartbeatCount + 1 }
  keepsId _ := rfl
  keepsDedupeKey _ := rfl
  keepsType _ := rfl
  keepsPayload _ := rfl
  setsNoToken _ _ := id

/-- What `requeue_agent_job` writes. -/
def requeueChange (reason : String) (identity : SignerIdentity)
    (maxAttempts : Option Int) (now : Time) :
    JobChange Payload Result where
  apply job :=
    { job with
      status := .queued
      availableAt := now
      leaseOwner := none
      leaseToken := none
      leaseExpiresAt := none
      lastHeartbeatAt := none
      heartbeatCount := 0
      attemptCount := 0
      completedAt := none
      resultJson := none
      lastError := none
      requeueCount := job.requeueCount + 1
      lastRequeuedAt := some now
      lastRequeuedByIdentityJson := some (identity, pyClip 1000 reason)
      maxAttempts :=
        match maxAttempts with
        | none => job.maxAttempts
        | some requested => max 1 (min requested 10) }
  keepsId _ := rfl
  keepsDedupeKey _ := rfl
  keepsType _ := rfl
  keepsPayload _ := rfl
  setsNoToken _ _ := by simp

/-- `job.status = "running"` in `process_claimed_agent_job`. -/
def startChange : JobChange Payload Result where
  apply job := { job with status := .running }
  keepsId _ := rfl
  keepsDedupeKey _ := rfl
  keepsType _ := rfl
  keepsPayload _ := rfl
  setsNoToken _ _ := id

/-- The success branch of `process_claimed_agent_job`. -/
def completeJob (res : Result) (now : Time) (job : AgentExecutionJob Payload Result) :
    AgentExecutionJob Payload Result :=
  { job with
    status := .completed
    resultJson := some res
    completedAt := some now
    leaseExpiresAt := none
    leaseToken := none }

/-- The `except` branch of `process_claimed_agent_job`. -/
def failJob (env : JobEnvironment Payload) (raised : ServiceError) (now : Time)
    (job : AgentExecutionJob Payload Result) :
    AgentExecutionJob Payload Result :=
  let message := pyClip 4000 raised.text
  let failed : AgentExecutionJob Payload Result :=
    { job with lastError := some message, leaseExpiresAt := none }
  if raised.isDomainValidation || failed.maxAttempts ≤ failed.attemptCount then
    markDeadLetter (pyOr message "Agent job failed.") now failed
  else
    { failed with
      status := .queued
      availableAt := now + retryDelaySeconds env failed
      leaseOwner := none
      leaseToken := none }

def endChange (env : JobEnvironment Payload) (outcome : Except ServiceError Result) (now : Time) :
    JobChange Payload Result where
  apply job :=
    match outcome with
    | .ok res => completeJob res now job
    | .error raised => failJob env raised now job
  keepsId job := by
    cases outcome with
    | ok res => rfl
    | error raised =>
      simp only [failJob, markDeadLetter]
      split <;> rfl
  keepsDedupeKey job := by
    cases outcome with
    | ok res => rfl
    | error raised =>
      simp only [failJob, markDeadLetter]
      split <;> rfl
  keepsType job := by
    cases outcome with
    | ok res => rfl
    | error raised =>
      simp only [failJob, markDeadLetter]
      split <;> rfl
  keepsPayload job := by
    cases outcome with
    | ok res => rfl
    | error raised =>
      simp only [failJob, markDeadLetter]
      split <;> rfl
  setsNoToken job token := by
    cases outcome with
    | ok res => simp [completeJob]
    | error raised =>
      simp only [failJob, markDeadLetter]
      split <;> simp

/-- What `_cancel_or_reject_active_job` writes to a queued job. -/
def cancelChange (now : Time) : JobChange Payload Result where
  apply job :=
    { job with
      status := .cancelled
      completedAt := some now
      lastError := some "Cancelled because the trust-source schedule changed." }
  keepsId _ := rfl
  keepsDedupeKey _ := rfl
  keepsType _ := rfl
  keepsPayload _ := rfl
  setsNoToken _ _ := id

/-! ## The store -/

/-- The job table with the source of ids and lease tokens. Those in use were drawn from it, and
the dedupe key is unique. -/
structure JobStore (Payload Result : Type) where
  jobs : Table (AgentExecutionJob Payload Result)
  uuids : Uuid
  idsDrawn : ∀ job ∈ jobs, job.id < uuids
  tokensDrawn : ∀ job ∈ jobs, ∀ token,
    job.leaseToken = some token → token < uuids
  dedupeKeysDistinct : ∀ left ∈ jobs, ∀ right ∈ jobs,
    left.dedupeKey = right.dedupeKey → left = right

namespace JobStore

def empty : JobStore Payload Result where
  jobs := ∅
  uuids := 0
  idsDrawn := by simp
  tokensDrawn := by simp
  dedupeKeysDistinct := by simp

/-- `db.get(AgentExecutionJob, job_id)`. -/
def job? (store : JobStore Payload Result) (jobId : Uuid) :
    Option (AgentExecutionJob Payload Result) :=
  store.jobs.find? jobId

def commitAll (store : JobStore Payload Result)
    (change : JobChange Payload Result) : JobStore Payload Result where
  jobs := store.jobs.update change.apply change.keepsId
  uuids := store.uuids
  idsDrawn := by
    intro job mem
    obtain ⟨old, oldMem, rfl⟩ := Table.mem_update.mp mem
    rw [change.keepsId]
    exact store.idsDrawn old oldMem
  tokensDrawn := by
    intro job mem token held
    obtain ⟨old, oldMem, rfl⟩ := Table.mem_update.mp mem
    exact store.tokensDrawn old oldMem token (change.setsNoToken old token held)
  dedupeKeysDistinct := by
    intro left leftMem right rightMem sameKey
    obtain ⟨oldLeft, oldLeftMem, rfl⟩ := Table.mem_update.mp leftMem
    obtain ⟨oldRight, oldRightMem, rfl⟩ := Table.mem_update.mp rightMem
    rw [change.keepsDedupeKey, change.keepsDedupeKey] at sameKey
    rw [store.dedupeKeysDistinct oldLeft oldLeftMem oldRight oldRightMem sameKey]

def commitRow (store : JobStore Payload Result) (jobId : Uuid)
    (change : JobChange Payload Result) : JobStore Payload Result :=
  store.commitAll (change.onlyAt jobId)

def commitLoaded [DecidableEq Result] (store : JobStore Payload Result)
    (loaded : AgentExecutionJob Payload Result)
    (change : JobChange Payload Result) : JobStore Payload Result :=
  store.commitRow loaded.id (change.flushed loaded)

def commitLease (store : JobStore Payload Result) (jobId : Uuid)
    (worker : String) (lease : Int) (now : Time) :
    JobStore Payload Result where
  jobs := store.jobs.modify jobId (leaseJob worker store.uuids lease now) (fun _ => rfl)
  uuids := store.uuids + 1
  idsDrawn := by
    intro job mem
    rcases Table.mem_modify.mp mem with
      ⟨old, oldMem, _, rfl⟩ | ⟨untouched, _⟩
    · exact Nat.lt_succ_of_lt (store.idsDrawn old oldMem)
    · exact Nat.lt_succ_of_lt (store.idsDrawn job untouched)
  tokensDrawn := by
    intro job mem token held
    rcases Table.mem_modify.mp mem with
      ⟨old, _, _, rfl⟩ | ⟨untouched, _⟩
    · obtain rfl : store.uuids = token := Option.some.inj held
      exact Nat.lt_succ_self _
    · exact Nat.lt_succ_of_lt (store.tokensDrawn job untouched token held)
  dedupeKeysDistinct := by
    intro left leftMem right rightMem sameKey
    rcases Table.mem_modify.mp leftMem with
      ⟨oldLeft, oldLeftMem, leftId, rfl⟩ | ⟨leftUntouched, leftOther⟩
    · rcases Table.mem_modify.mp rightMem with
        ⟨oldRight, oldRightMem, rightId, rfl⟩ | ⟨rightUntouched, rightOther⟩
      · rw [Table.eq_of_key_eq oldLeftMem oldRightMem (leftId.trans rightId.symm)]
      · have same := store.dedupeKeysDistinct oldLeft oldLeftMem right rightUntouched sameKey
        exact absurd (same ▸ leftId) rightOther
    · rcases Table.mem_modify.mp rightMem with
        ⟨oldRight, oldRightMem, rightId, rfl⟩ | ⟨rightUntouched, _⟩
      · have same := store.dedupeKeysDistinct left leftUntouched oldRight oldRightMem sameKey
        exact absurd (same ▸ rightId) leftOther
      · exact store.dedupeKeysDistinct left leftUntouched right rightUntouched sameKey

/-- `select(AgentExecutionJob).where(dedupe_key == …)`. -/
def byDedupeKey? (store : JobStore Payload Result) (dedupeKey : String) :
    Option (AgentExecutionJob Payload Result) :=
  store.jobs.rows.find? (fun job => job.dedupeKey = dedupeKey)

theorem id_ne_of_drawn (store : JobStore Payload Result) {job : AgentExecutionJob Payload Result}
    (drawnId : job.id = store.uuids) :
    ∀ other ∈ store.jobs, key other ≠ key job := by
  intro other mem
  change other.id ≠ job.id
  rw [drawnId]
  exact Nat.ne_of_lt (store.idsDrawn other mem)

def commitInsert (store : JobStore Payload Result) (job : AgentExecutionJob Payload Result)
    (drawnId : job.id = store.uuids) (noToken : job.leaseToken = none)
    (newKey : ∀ other ∈ store.jobs, other.dedupeKey ≠ job.dedupeKey) :
    JobStore Payload Result where
  jobs := store.jobs.insert job (store.id_ne_of_drawn drawnId)
  uuids := store.uuids + 1
  idsDrawn := by
    intro other mem
    rcases Table.mem_insert.mp mem with old | rfl
    · exact Nat.lt_succ_of_lt (store.idsDrawn other old)
    · exact drawnId ▸ Nat.lt_succ_self _
  tokensDrawn := by
    intro other mem token held
    rcases Table.mem_insert.mp mem with old | rfl
    · exact Nat.lt_succ_of_lt (store.tokensDrawn other old token held)
    · rw [noToken] at held
      cases held
  dedupeKeysDistinct := by
    intro left leftMem right rightMem sameKey
    rcases Table.mem_insert.mp leftMem with oldLeft | rfl
    · rcases Table.mem_insert.mp rightMem with oldRight | rfl
      · exact store.dedupeKeysDistinct left oldLeft right oldRight sameKey
      · exact absurd sameKey (newKey left oldLeft)
    · rcases Table.mem_insert.mp rightMem with oldRight | rfl
      · exact absurd sameKey.symm (newKey right oldRight)
      · rfl

/-! ### What a commit leaves in each row -/

theorem job?_id {store : JobStore Payload Result} {jobId : Uuid}
    {job : AgentExecutionJob Payload Result} (found : store.job? jobId = some job) :
    job.id = jobId :=
  (Table.find?_eq_some_iff.mp found).2

theorem job?_mem {store : JobStore Payload Result} {jobId : Uuid}
    {job : AgentExecutionJob Payload Result} (found : store.job? jobId = some job) :
    job ∈ store.jobs :=
  (Table.find?_eq_some_iff.mp found).1

theorem mem_jobs_iff {store : JobStore Payload Result} {job : AgentExecutionJob Payload Result} :
    job ∈ store.jobs ↔ store.job? job.id = some job := by
  constructor
  · intro mem
    exact Table.find?_eq_some_iff.mpr ⟨mem, rfl⟩
  · exact job?_mem

theorem job?_id_lt {store : JobStore Payload Result} {jobId : Uuid}
    {job : AgentExecutionJob Payload Result} (found : store.job? jobId = some job) :
    jobId < store.uuids :=
  job?_id found ▸ store.idsDrawn job (job?_mem found)

@[simp]
theorem job?_empty (jobId : Uuid) : (empty : JobStore Payload Result).job? jobId = none :=
  rfl

@[simp]
theorem job?_commitAll (store : JobStore Payload Result) (change : JobChange Payload Result)
    (jobId : Uuid) :
    (store.commitAll change).job? jobId = (store.job? jobId).map change.apply :=
  Table.find?_update store.jobs change.apply change.keepsId jobId

theorem job?_commitRow (store : JobStore Payload Result) (change : JobChange Payload Result)
    (wanted jobId : Uuid) :
    (store.commitRow wanted change).job? jobId =
      if jobId = wanted then (store.job? jobId).map change.apply
      else store.job? jobId := by
  rw [commitRow, job?_commitAll]
  cases found : store.job? jobId with
  | none =>
    simp
  | some job =>
    simp only [JobChange.onlyAt, Option.map_some, job?_id found]
    split <;> rfl

theorem job?_commitLoaded [DecidableEq Result] (store : JobStore Payload Result)
    (change : JobChange Payload Result) (loaded : AgentExecutionJob Payload Result) (jobId : Uuid) :
    (store.commitLoaded loaded change).job? jobId =
      if jobId = loaded.id then
        (store.job? jobId).map (flushRow loaded (change.apply loaded))
      else store.job? jobId :=
  job?_commitRow store (change.flushed loaded) loaded.id jobId

theorem job?_commitLease (store : JobStore Payload Result) (wanted jobId : Uuid)
    (worker : String) (lease : Int) (now : Time) :
    (store.commitLease wanted worker lease now).job? jobId =
      if jobId = wanted then
        (store.job? jobId).map (leaseJob worker store.uuids lease now)
      else store.job? jobId :=
  Table.find?_modify store.jobs wanted jobId (leaseJob worker store.uuids lease now) (fun _ => rfl)

theorem job?_commitInsert (store : JobStore Payload Result) (job : AgentExecutionJob Payload Result)
    (drawnId : job.id = store.uuids) (noToken : job.leaseToken = none)
    (newKey : ∀ other ∈ store.jobs, other.dedupeKey ≠ job.dedupeKey) (jobId : Uuid) :
    (store.commitInsert job drawnId noToken newKey).job? jobId =
      if job.id = jobId then some job else store.job? jobId :=
  Table.find?_insert store.jobs job (store.id_ne_of_drawn drawnId) jobId

end JobStore

end ModelAtlas.Jobs
