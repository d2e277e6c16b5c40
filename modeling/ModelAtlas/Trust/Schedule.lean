import ModelAtlas.Jobs.Workers
import ModelAtlas.Trust.SourceSync

/-!
# Scheduled syncs of trust sources

`services/trust_source_scheduler.py` beside the job table. A transaction that
selects its schedule `FOR UPDATE` is one function; the last job is read without
a lock, so it may be a row that the session loaded earlier.
-/

namespace ModelAtlas.Trust

open Foundations Approval Jobs

structure TrustJobPayload where
  schemaVersion : String
  (scheduleId trustSourceId : Uuid)
  policyHash : String
  runSequence : Nat
  scheduledFor : Time
  scheduleLeaseTokenHash : String
  scheduleLeaseSeconds : Int
  retryPolicy : RetryPolicy

inductive TrustJobResult where
  | skipped (scheduleId jobId : Uuid)
  | succeeded (scheduleId trustSourceId syncId : Uuid) (attemptNumber : Int)
      (nextRunAt : Time) (importedCount unchangedCount : Nat)
  deriving DecidableEq

abbrev TrustJob : Type :=
  AgentExecutionJob (Option TrustJobPayload) (Option TrustJobResult)

abbrev TrustJobStore : Type :=
  JobStore (Option TrustJobPayload) (Option TrustJobResult)

abbrev TrustQueue : Type :=
  QueueState (Option TrustJobPayload) (Option TrustJobResult)

abbrev TrustQueueAction : Type :=
  QueueAction (Option TrustJobPayload) (Option TrustJobResult)

structure EvidenceTrustSourceSchedule where
  (id trustSourceId : Uuid)
  enabled : Bool
  (intervalSeconds jitterSeconds maxAttempts retryBaseSeconds retryMaxSeconds : Int)
  retryJitterSeconds : Int
  nextRunAt : Time
  (lastEnqueuedAt lastCompletedAt : Option Time)
  (lastJobId lastSyncId : Option Uuid)
  (runSequence consecutiveFailures : Nat)
  (leaseOwner leaseTokenHash : Option String)
  leaseExpiresAt : Option Time
  policyHash : String
  configuredByIdentity : SignerIdentity
  identityVerified : Bool
  createdAt : Time

/-- The primary key and the unique trust source. The constraint on the lease fingerprint, a hash
of fresh ids, is left out. -/
def sameSchedule (left right : EvidenceTrustSourceSchedule) : Bool :=
  left.id = right.id || left.trustSourceId = right.trustSourceId

structure EvidenceTrustSourceScheduleUpsert where
  enabled : Bool
  (intervalSeconds jitterSeconds maxAttempts retryBaseSeconds retryMaxSeconds : Int)
  retryJitterSeconds : Int
  runImmediately : Bool

/-- What the scheduler takes from outside in addition: the fingerprint of a lease token and the
first eight bytes of a SHA-256. -/
structure ScheduleEnvironment extends SourceEnvironment where
  tokenHash : Uuid → Uuid → String
  digest : String → Nat

def ScheduleEnvironment.jobs (env : ScheduleEnvironment) :
    JobEnvironment (Option TrustJobPayload) where
  lower := env.text.lower
  retryPolicy payload := payload.map TrustJobPayload.retryPolicy
  digest := env.digest

structure ScheduleChange where
  apply : EvidenceTrustSourceSchedule → EvidenceTrustSourceSchedule
  keepsId : ∀ schedule, (apply schedule).id = schedule.id
  keepsSource : ∀ schedule,
    (apply schedule).trustSourceId = schedule.trustSourceId

abbrev ScheduleTable : Type :=
  UniqueRows EvidenceTrustSourceSchedule sameSchedule

def ScheduleChange.onlyAt (change : ScheduleChange) (scheduleId : Uuid)
    (schedule : EvidenceTrustSourceSchedule) : EvidenceTrustSourceSchedule :=
  if schedule.id = scheduleId then change.apply schedule else schedule

theorem ScheduleChange.onlyAt_keeps (change : ScheduleChange) (scheduleId : Uuid)
    (schedule : EvidenceTrustSourceSchedule) :
    (change.onlyAt scheduleId schedule).id = schedule.id ∧
      (change.onlyAt scheduleId schedule).trustSourceId =
        schedule.trustSourceId := by
  rw [ScheduleChange.onlyAt]
  split
  · exact ⟨change.keepsId schedule, change.keepsSource schedule⟩
  · exact ⟨rfl, rfl⟩

def changeSchedule (schedules : ScheduleTable) (scheduleId : Uuid)
    (change : ScheduleChange) : ScheduleTable :=
  schedules.update (change.onlyAt scheduleId) (by
    intro left right
    have leftKept := change.onlyAt_keeps scheduleId left
    have rightKept := change.onlyAt_keeps scheduleId right
    rw [sameSchedule, sameSchedule, leftKept.1, leftKept.2, rightKept.1, rightKept.2])

def clearScheduleLease (schedule : EvidenceTrustSourceSchedule) :
    EvidenceTrustSourceSchedule :=
  { schedule with leaseOwner := none, leaseTokenHash := none, leaseExpiresAt := none }

section Changes

variable (env : ScheduleEnvironment)

def policyHash (payload : EvidenceTrustSourceScheduleUpsert) : String :=
  env.stableHash (.obj
      [("schema_version", .str "model-atlas-trust-source-schedule-v1"),
        ("enabled", .bool payload.enabled),
        ("interval_seconds", .int payload.intervalSeconds),
        ("jitter_seconds", .int payload.jitterSeconds),
        ("max_attempts", .int payload.maxAttempts),
        ("retry_base_seconds", .int payload.retryBaseSeconds),
        ("retry_max_seconds", .int payload.retryMaxSeconds),
        ("retry_jitter_seconds", .int payload.retryJitterSeconds)])

def nextPolicyRunAt (schedule : Option EvidenceTrustSourceSchedule)
    (payload : EvidenceTrustSourceScheduleUpsert) (observedAt : Time)
    (trustSourceId : Uuid) : Time :=
  if payload.runImmediately && payload.enabled then observedAt
  else
    match schedule.filter (fun stored => stored.enabled && payload.enabled) with
    | some stored => max stored.nextRunAt observedAt
    | none =>
      observedAt + (payload.intervalSeconds + deterministicJitter env.digest
          (env.uuidText trustSourceId ++ ":" ++
            toString payload.intervalSeconds ++ ":initial")
          payload.jitterSeconds)

def nextScheduledAt (schedule : EvidenceTrustSourceSchedule) (anchor : Time) :
    Time :=
  anchor + (schedule.intervalSeconds + deterministicJitter env.digest
      (env.uuidText schedule.id ++ ":" ++
        toString (schedule.runSequence + 1))
      schedule.jitterSeconds)

/-- What `upsert_evidence_trust_source_schedule` writes to a schedule. -/
def policyChange (payload : EvidenceTrustSourceScheduleUpsert)
    (nextRunAt : Time) (signerIdentity : SignerIdentity) : ScheduleChange where
  apply schedule :=
    clearScheduleLease
      { schedule with
        enabled := payload.enabled
        intervalSeconds := payload.intervalSeconds
        jitterSeconds := payload.jitterSeconds
        maxAttempts := payload.maxAttempts
        retryBaseSeconds := payload.retryBaseSeconds
        retryMaxSeconds := payload.retryMaxSeconds
        retryJitterSeconds := payload.retryJitterSeconds
        nextRunAt := nextRunAt
        policyHash := policyHash env payload
        configuredByIdentity := signerIdentity
        identityVerified := true }
  keepsId _ := rfl
  keepsSource _ := rfl

def newSchedule (scheduleId trustSourceId : Uuid) (payload : EvidenceTrustSourceScheduleUpsert)
    (nextRunAt : Time) (signerIdentity : SignerIdentity) (createdAt : Time) :
    EvidenceTrustSourceSchedule where
  id := scheduleId
  trustSourceId := trustSourceId
  enabled := payload.enabled
  intervalSeconds := payload.intervalSeconds
  jitterSeconds := payload.jitterSeconds
  maxAttempts := payload.maxAttempts
  retryBaseSeconds := payload.retryBaseSeconds
  retryMaxSeconds := payload.retryMaxSeconds
  retryJitterSeconds := payload.retryJitterSeconds
  nextRunAt := nextRunAt
  lastEnqueuedAt := none
  lastCompletedAt := none
  lastJobId := none
  lastSyncId := none
  runSequence := 0
  consecutiveFailures := 0
  leaseOwner := none
  leaseTokenHash := none
  leaseExpiresAt := none
  policyHash := policyHash env payload
  configuredByIdentity := signerIdentity
  identityVerified := true
  createdAt := createdAt

end Changes

def runNowChange (now : Time) : ScheduleChange where
  apply schedule := clearScheduleLease { schedule with nextRunAt := now }
  keepsId _ := rfl
  keepsSource _ := rfl

def disableChange : ScheduleChange where
  apply schedule := clearScheduleLease { schedule with enabled := false }
  keepsId _ := rfl
  keepsSource _ := rfl

def adoptChange (fingerprint owner : String) (expiresAt : Time) : ScheduleChange where
  apply schedule :=
    { schedule with
      leaseTokenHash := some fingerprint
      leaseOwner := some owner
      leaseExpiresAt := some expiresAt }
  keepsId _ := rfl
  keepsSource _ := rfl

def runChange (jobId : Uuid) (fingerprint owner : String)
    (now expiresAt : Time) : ScheduleChange where
  apply schedule :=
    { schedule with
      runSequence := schedule.runSequence + 1
      lastJobId := some jobId
      lastEnqueuedAt := some now
      leaseOwner := some owner
      leaseTokenHash := some fingerprint
      leaseExpiresAt := some expiresAt }
  keepsId _ := rfl
  keepsSource _ := rfl

/-! ## Transactions of the scheduler -/

structure ScheduleTables where
  store : TrustJobStore
  registry : TrustRegistry
  schedules : ScheduleTable

namespace ScheduleTables

def schedule? (tables : ScheduleTables) (scheduleId : Uuid) : Option EvidenceTrustSourceSchedule :=
  tables.schedules.rows.find? (fun schedule => schedule.id = scheduleId)

def scheduleOf? (tables : ScheduleTables) (trustSourceId : Uuid) :
    Option EvidenceTrustSourceSchedule :=
  tables.schedules.rows.find? (fun schedule => schedule.trustSourceId = trustSourceId)

def change (tables : ScheduleTables) (scheduleId : Uuid)
    (change : ScheduleChange) : ScheduleTables :=
  { tables with schedules := changeSchedule tables.schedules scheduleId change }

/-- `db.get(AgentExecutionJob, schedule.last_job_id)`: the row that the session
loaded before, or the row as it is. -/
def lastJob (tables : ScheduleTables) (session : Uuid → Option TrustJob)
    (schedule : EvidenceTrustSourceSchedule) : Option TrustJob :=
  schedule.lastJobId.bind (fun jobId =>
    (session jobId).or (tables.store.job? jobId))

end ScheduleTables

def cancelJob (store : TrustJobStore) (cancelled : Option TrustJob) (now : Time) : TrustJobStore :=
  match cancelled with
  | none => store
  | some loaded => store.commitLoaded loaded (cancelChange now)

section Transactions

variable (env : ScheduleEnvironment)

def upsertEvidenceTrustSourceSchedule (tables : ScheduleTables) (session : Uuid → Option TrustJob)
    (trustSourceId : Uuid) (payload : EvidenceTrustSourceScheduleUpsert)
    (signerIdentity : SignerIdentity) (clock : ServiceClock) :
    Except ServiceError ScheduleTables := do
  assertGovernanceOperator env.toTrustEnvironment signerIdentity
  match tables.registry.sources.find? trustSourceId with
  | none =>
    throw (.domainValidation "evidence trust source was not found")
  | some source =>
    if payload.enabled && !source.enabled then
      throw (.domainValidation "disabled trust sources cannot be scheduled")
    let stored := tables.scheduleOf? source.id
    let nextRunAt := nextPolicyRunAt env stored payload clock.now source.id
    match stored with
    | none =>
      let added := newSchedule env tables.registry.drawn source.id
        payload nextRunAt signerIdentity clock.created
      let schedules ← addRow "evidence_trust_source_schedules"
        tables.schedules added
      return { tables with
        schedules := schedules
        registry :=
          { tables.registry with drawn := tables.registry.drawn + 1 } }
    | some schedule =>
      let cancelled ← cancelOrRejectActiveJob (tables.lastJob session schedule)
      return { tables.change schedule.id (policyChange env payload nextRunAt signerIdentity) with
        store := cancelJob tables.store cancelled clock.now }

def requestEvidenceTrustSourceScheduleRun (tables : ScheduleTables)
    (session : Uuid → Option TrustJob) (trustSourceId : Uuid)
    (signerIdentity : SignerIdentity) (now : Time) :
    Except ServiceError ScheduleTables := do
  assertGovernanceOperator env.toTrustEnvironment signerIdentity
  match tables.scheduleOf? trustSourceId with
  | none =>
    throw (.domainValidation "trust source schedule was not found")
  | some schedule =>
    if !schedule.enabled then
      throw (.domainValidation "disabled trust source schedules cannot run")
    let cancelled ← cancelOrRejectActiveJob (tables.lastJob session schedule)
    return { tables.change schedule.id (runNowChange now) with
      store := cancelJob tables.store cancelled now }

def assertSchedulerIdentity (identity : SignerIdentity) : Except ServiceError Unit :=
  let role := env.text.lower (pyStrip (identity.role.getD ""))
  if !identity.identityVerified ||
      !(["system worker", "admin", "sre lead"].contains role) then
    .error (.domainValidation
      "trust source scheduling requires a verified System Worker, Admin, or SRE Lead")
  else .ok ()

/-- The arguments of `enqueue_due_trust_source_sync_jobs`, with the schedules
that other transactions hold. -/
structure DueRequest where
  schedulerId : String
  signerIdentity : SignerIdentity
  (leaseSeconds batchSize : Int)
  now : Time
  locked : Uuid → Bool

def DueRequest.boundedLease (req : DueRequest) : Int :=
  max 30 (min req.leaseSeconds 3600)

/-- The `WHERE` clause of the due schedules. -/
def isDue (req : DueRequest) (schedule : EvidenceTrustSourceSchedule) :
    Bool :=
  schedule.enabled && schedule.nextRunAt ≤ req.now &&
    schedule.leaseExpiresAt.all (fun expiresAt => expiresAt ≤ req.now) &&
    !req.locked schedule.id

def dueSchedules (schedules : ScheduleTable) (req : DueRequest) :
    List EvidenceTrustSourceSchedule :=
  ((schedules.rows.filter (isDue req)).insertionSort
    (fun left right => left.nextRunAt < right.nextRunAt ∨
      (left.nextRunAt = right.nextRunAt ∧ left.createdAt ≤ right.createdAt))).take
    (max 1 (min req.batchSize 100)).toNat

def runRequest (req : DueRequest) (schedule : EvidenceTrustSourceSchedule)
    (fingerprint : String) : EnqueueRequest (Option TrustJobPayload) where
  jobType := .trustSourceSync
  dedupeKey :=
    "trust-source-sync:" ++ env.uuidText schedule.id ++ ":run:" ++
      toString (schedule.runSequence + 1)
  payloadJson := some
    { schemaVersion := "model-atlas-trust-source-schedule-job-v1"
      scheduleId := schedule.id
      trustSourceId := schedule.trustSourceId
      policyHash := schedule.policyHash
      runSequence := schedule.runSequence + 1
      scheduledFor := schedule.nextRunAt
      scheduleLeaseTokenHash := fingerprint
      scheduleLeaseSeconds := req.boundedLease
      retryPolicy :=
        { baseSeconds := schedule.retryBaseSeconds
          maxSeconds := schedule.retryMaxSeconds
          jitterSeconds := schedule.retryJitterSeconds } }
  signerIdentity := req.signerIdentity
  priority := 15
  benchmarkRunId := none
  benchmarkResultId := none
  checkpointRecordId := none
  maxAttempts := schedule.maxAttempts

def enqueueRun (req : DueRequest) (tables : ScheduleTables)
    (schedule : EvidenceTrustSourceSchedule) :
    Except ServiceError ScheduleTables :=
  let fingerprint := env.tokenHash tables.registry.drawn (tables.registry.drawn + 1)
  let run := runRequest env req schedule fingerprint
  match absent : tables.store.byDedupeKey? run.dedupeKey with
  | some _ =>
    .error (.integrity "uq_agent_execution_jobs_dedupe_key")
  | none =>
    .ok { tables.change schedule.id (runChange tables.store.uuids fingerprint
          (pyClip 160 (pyStrip req.schedulerId)) req.now
          (req.now + req.boundedLease)) with
      store := insertNewJob tables.store run req.now absent
      registry :=
        { tables.registry with drawn := tables.registry.drawn + 2 } }

def jobFingerprint (job : TrustJob) : String :=
  (job.payloadJson.map TrustJobPayload.scheduleLeaseTokenHash).getD ""

/-- One round of the loop of `enqueue_due_trust_source_sync_jobs`. -/
def enqueueDueSchedule (req : DueRequest) (session : Uuid → Option TrustJob)
    (tables : ScheduleTables) (schedule : EvidenceTrustSourceSchedule) :
    Except ServiceError ScheduleTables :=
  if !(tables.registry.sources.find? schedule.trustSourceId).any EvidenceTrustSource.enabled then
    .ok (tables.change schedule.id disableChange)
  else
    match (tables.lastJob session schedule).filter (fun job => job.status.active) with
    | some job =>
      if jobFingerprint job = "" then .ok tables
      else
        .ok (tables.change schedule.id (adoptChange (jobFingerprint job)
            (pyOr (job.leaseOwner.getD "")
              (pyClip 160 (pyStrip req.schedulerId)))
            (req.now + req.boundedLease)))
    | none => enqueueRun env req tables schedule

def enqueueDueTrustSourceSyncJobs (tables : ScheduleTables)
    (session : Uuid → Option TrustJob) (req : DueRequest) :
    Except ServiceError ScheduleTables := do
  assertSchedulerIdentity env req.signerIdentity
  if pyStrip req.schedulerId = "" then
    throw (.domainValidation "scheduler_id is required")
  (dueSchedules tables.schedules req).foldlM (enqueueDueSchedule env req session) tables

/-! ## Execution -/

/-- The arguments of `execute_trust_source_sync_job` beside the job, with the
answer of the fetcher. -/
structure SyncRequest where
  executorIdentity : SignerIdentity
  allowedHosts : List String
  allowInsecureHttp : Bool
  fetched : Except TrustSourceFetchError FetchedJwksPayload
  clock : ServiceClock

def lineageMatches (schedule : EvidenceTrustSourceSchedule) (job : TrustJob)
    (payload : TrustJobPayload) : Bool :=
  schedule.enabled && schedule.trustSourceId = payload.trustSourceId &&
    schedule.lastJobId = some job.id &&
    schedule.policyHash = payload.policyHash &&
    schedule.runSequence = payload.runSequence &&
    payload.scheduleLeaseTokenHash.length = 64 &&
    schedule.leaseTokenHash = some payload.scheduleLeaseTokenHash

def scheduledCall (req : SyncRequest) (schedule : EvidenceTrustSourceSchedule) (job : TrustJob)
    (payload : TrustJobPayload) : SourceSyncCall where
  trustSourceId := payload.trustSourceId
  mode := .apply
  notes :=
    some ("Scheduled trust-source sync run " ++ toString schedule.runSequence)
  signerIdentity := req.executorIdentity
  allowedHosts := req.allowedHosts
  allowInsecureHttp := req.allowInsecureHttp
  fetched := req.fetched
  context :=
    { trigger := "scheduled"
      scheduleId := some schedule.id
      jobId := some job.id
      attemptNumber := job.attemptCount
      scheduledFor := some payload.scheduledFor }
  clock := req.clock

inductive SyncAttempt where
  | notStarted
  /-- The sync is committed, and the schedule is not updated. -/
  | synced (job : TrustJob) (payload : TrustJobPayload)
      (sync : EvidenceTrustSourceSync)
  | answered (outcome : Except ServiceError TrustJobResult)

/-- The first transaction of `execute_trust_source_sync_job`. -/
def executeTrustSourceSyncJob (tables : ScheduleTables) (job : TrustJob)
    (req : SyncRequest) : ScheduleTables × SyncAttempt :=
  match job.payloadJson with
  | none =>
    (tables, .answered (.error (.domainValidation
      "trust source schedule job schema_version is not supported")))
  | some payload =>
    match tables.schedule? payload.scheduleId with
    | none =>
      (tables, .answered (.error (.domainValidation
        "trust source schedule was not found")))
    | some schedule =>
      if lineageMatches schedule job payload then
        match syncEvidenceTrustSource env.toSourceEnvironment tables.registry
            (scheduledCall req schedule job payload) with
        | .error raised => (tables, .answered (.error raised))
        | .ok (reg, sync) =>
          ({ tables with registry := reg }, .synced job payload sync)
      else
        let skipped := SyncAttempt.answered (.ok (.skipped schedule.id job.id))
        if schedule.lastJobId = some job.id then
          (tables.change schedule.id (runNowChange req.clock.now), skipped)
        else (tables, skipped)

def retryableSyncErrors : List String :=
  ["transport_error", "http_error", "database_conflict"]

def settledChange (sync : EvidenceTrustSourceSync) : ScheduleChange where
  apply schedule :=
    clearScheduleLease
      { schedule with
        lastSyncId := some sync.id
        lastCompletedAt := some sync.completedAt
        consecutiveFailures := 0
        nextRunAt := nextScheduledAt env schedule sync.completedAt }
  keepsId _ := rfl
  keepsSource _ := rfl

def retriedChange (payload : TrustJobPayload)
    (sync : EvidenceTrustSourceSync) : ScheduleChange where
  apply schedule :=
    { schedule with
      lastSyncId := some sync.id
      lastCompletedAt := some sync.completedAt
      consecutiveFailures := schedule.consecutiveFailures + 1
      leaseExpiresAt := some (sync.completedAt +
        (max 30 (min (intOr payload.scheduleLeaseSeconds 900) 3600) + schedule.retryMaxSeconds)) }
  keepsId _ := rfl
  keepsSource _ := rfl

def failedChange (sync : EvidenceTrustSourceSync) : ScheduleChange where
  apply schedule :=
    clearScheduleLease
      { schedule with
        lastSyncId := some sync.id
        lastCompletedAt := some sync.completedAt
        consecutiveFailures := schedule.consecutiveFailures + 1
        nextRunAt := nextScheduledAt env schedule sync.completedAt }
  keepsId _ := rfl
  keepsSource _ := rfl

def syncFailureMessage (sync : EvidenceTrustSourceSync) : String :=
  "scheduled trust source sync failed with " ++ sync.errorCode.getD "None"

/-- The second transaction of `execute_trust_source_sync_job`. -/
def settleTrustSourceSync (tables : ScheduleTables) (job : TrustJob)
    (payload : TrustJobPayload) (sync : EvidenceTrustSourceSync) :
    ScheduleTables × Except ServiceError TrustJobResult :=
  match tables.schedule? payload.scheduleId with
  | none =>
    (tables, .error (.domainValidation
      "trust source schedule disappeared during execution"))
  | some schedule =>
    match sync.status with
    | .succeeded =>
      (tables.change schedule.id (settledChange env sync),
        .ok (.succeeded schedule.id schedule.trustSourceId sync.id job.attemptCount
          (nextScheduledAt env schedule sync.completedAt)
          sync.importedCount sync.unchangedCount))
    | .failed =>
      let retryable :=
        sync.errorCode.any (fun code => retryableSyncErrors.contains code)
      if retryable ∧ job.attemptCount < job.maxAttempts then
        (tables.change schedule.id (retriedChange payload sync),
          .error (.unexpected (syncFailureMessage sync)))
      else
        (tables.change schedule.id (failedChange env sync),
          if retryable then
            .error (.unexpected (syncFailureMessage sync))
          else .error (.domainValidation (syncFailureMessage sync)))

end Transactions

/-! ## Workers, schedulers and operators together -/

structure ScheduleState where
  queue : TrustQueue
  registry : TrustRegistry
  schedules : ScheduleTable
  session : Nat → Uuid → Option TrustJob
  attempt : Nat → SyncAttempt

inductive ScheduleAction where
  | queue (action : TrustQueueAction)
  | load (process : Nat) (jobId : Uuid)
  | upsert (process : Nat) (trustSourceId : Uuid)
      (payload : EvidenceTrustSourceScheduleUpsert)
      (signerIdentity : SignerIdentity) (clock : ServiceClock)
  | requestRun (process : Nat) (trustSourceId : Uuid)
      (signerIdentity : SignerIdentity) (now : Time)
  | enqueueDue (process : Nat) (req : DueRequest)
  | executeSync (worker : Nat) (req : SyncRequest)
  | settleSync (worker : Nat)
  /-- The body is over and `process_claimed_agent_job` reads the row. -/
  | endSync (worker : Nat)

namespace ScheduleState

def initial (reg : TrustRegistry) : ScheduleState where
  queue := .initial
  registry := reg
  schedules := ∅
  session _ _ := none
  attempt _ := .notStarted

def tables (state : ScheduleState) : ScheduleTables where
  store := state.queue.store
  registry := state.registry
  schedules := state.schedules

def withTables (state : ScheduleState) (tables : ScheduleTables) :
    ScheduleState :=
  { state with
    queue := state.queue.withStore tables.store
    registry := tables.registry
    schedules := tables.schedules }

def endTransaction (state : ScheduleState) (process : Nat)
    (answer : Except ServiceError ScheduleTables) : ScheduleState :=
  let closed :=
    { state with
      session := Function.update state.session process (fun _ => none) }
  match answer with
  | .error _ => closed
  | .ok tables => closed.withTables tables

def setAttempt (state : ScheduleState) (worker : Nat) (attempt : SyncAttempt) :
    ScheduleState :=
  { state with attempt := Function.update state.attempt worker attempt }

def syncJob? (state : ScheduleState) (worker : Nat) : Option TrustJob :=
  match state.queue.worker worker with
  | .running jobId _ =>
    (state.queue.store.job? jobId).filter (fun job => job.jobType = .trustSourceSync)
  | _ => none

/-- Sync jobs are enqueued and cancelled by the scheduler only, and end with
the outcome of their own body. -/
def admits (state : ScheduleState) : TrustQueueAction → Bool
  | .enqueue req _ => req.jobType ≠ .trustSourceSync
  | .observe worker _ => (state.syncJob? worker).isNone
  | .readCancel _ _ => false
  | .cancel _ _ => false
  | _ => true

def attemptAfter (state : ScheduleState) : TrustQueueAction → Nat → SyncAttempt
  | .start worker => Function.update state.attempt worker .notStarted
  | .crash worker => Function.update state.attempt worker .notStarted
  | _ => state.attempt

def next (env : ScheduleEnvironment) (state : ScheduleState) : ScheduleAction → Option ScheduleState
  | .queue action =>
    if state.admits action then
      (state.queue.next env.jobs action).map (fun queue =>
          { state with queue := queue, attempt := state.attemptAfter action })
    else none
  | .load process jobId =>
    some
      { state with
        session := Function.update state.session process
          (Function.update (state.session process) jobId (state.queue.store.job? jobId)) }
  | .upsert process trustSourceId payload signerIdentity clock =>
    some (state.endTransaction process (upsertEvidenceTrustSourceSchedule env state.tables
        (state.session process) trustSourceId payload signerIdentity clock))
  | .requestRun process trustSourceId signerIdentity now =>
    some (state.endTransaction process (requestEvidenceTrustSourceScheduleRun env state.tables
        (state.session process) trustSourceId signerIdentity now))
  | .enqueueDue process req =>
    some (state.endTransaction process (enqueueDueTrustSourceSyncJobs env state.tables
        (state.session process) req))
  | .executeSync worker req =>
    match state.syncJob? worker, state.attempt worker with
    | some job, .notStarted =>
      let executed :=
        executeTrustSourceSyncJob env state.tables job req
      some ((state.withTables executed.1).setAttempt worker executed.2)
    | _, _ => none
  | .settleSync worker =>
    match state.attempt worker with
    | .synced job payload sync =>
      let settled :=
        settleTrustSourceSync env state.tables job payload sync
      some ((state.withTables settled.1).setAttempt worker (.answered settled.2))
    | _ => none
  | .endSync worker =>
    match state.syncJob? worker, state.attempt worker with
    | some _, .answered outcome =>
      (state.queue.next env.jobs (.observe worker (outcome.map some))).map
          (fun queue => { state with queue := queue })
    | _, _ => none

abbrev Step (env : ScheduleEnvironment) : ScheduleState → ScheduleAction → ScheduleState → Prop :=
  stepsOf (next env)

end ScheduleState

end ModelAtlas.Trust
