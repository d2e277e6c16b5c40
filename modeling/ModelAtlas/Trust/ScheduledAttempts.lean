import ModelAtlas.Trust.ScheduleLineage
import ModelAtlas.Trust.SyncAtomicity

/-!
# The rows of a schedule and of its job after an attempt

`fetch_remote_jwks` of `services/trust_source_sync.py`, and one attempt of a
scheduled sync from the lineage check to the end that
`process_claimed_agent_job` writes to the job.
-/

namespace ModelAtlas.Trust

open Foundations Approval Jobs

/-! ## The fetcher -/

/-- The remote source cannot be reached, or answers with a status, a content type and a body in
chunks that may break off. -/
inductive RemoteAnswer where
  | unreachable
  | response (statusCode : Int) (contentType : String)
      (chunks : List (List UInt8)) (breaksOff : Bool)

def RemoteAnswer.isHttpError : RemoteAnswer → Bool
  | .unreachable => false
  | .response statusCode _ _ _ => 400 ≤ statusCode

def jwksContentTypes : List String :=
  ["application/json", "application/jwk-set+json"]

/-- `value.split(";", 1)[0]`. -/
def beforeSemicolon (value : String) : String :=
  String.ofList (value.toList.takeWhile (· ≠ ';'))

/-- The loop over `response.iter_bytes()`, from the bytes read so far: nothing
where they exceed the limit. -/
def readChunks (maxBytes : Nat) : List UInt8 → List (List UInt8) → Option (List UInt8)
  | read, [] => some read
  | read, chunk :: rest =>
    if maxBytes < (read ++ chunk).length then none
    else readChunks maxBytes (read ++ chunk) rest

/-- What the fetcher takes from outside: `str.lower`, and JSON in UTF-8. -/
structure FetchEnvironment where
  lower : String → String
  parseJson : List UInt8 → Option Json

def fetchRemoteJwks (env : FetchEnvironment) (maxBytes : Nat)
    (now : Time) : RemoteAnswer → Except TrustSourceFetchError FetchedJwksPayload
  | .unreachable =>
    .error ⟨"transport_error", "trust source could not be reached", none⟩
  | .response statusCode contentType chunks breaksOff =>
    if statusCode ≠ 200 then
      .error ⟨"http_status",
        "trust source returned HTTP " ++ toString statusCode, some statusCode⟩
    else if !jwksContentTypes.contains (env.lower (pyStrip (beforeSemicolon contentType))) then
      .error ⟨"content_type",
        "trust source response is not a JWKS JSON content type",
        some statusCode⟩
    else
      match readChunks maxBytes [] chunks with
      | none =>
        .error ⟨"payload_too_large",
          "trust source JWKS exceeds the configured size limit",
          some statusCode⟩
      | some body =>
        if breaksOff then
          .error ⟨"transport_error", "trust source could not be reached",
            none⟩
        else
          match env.parseJson body with
          | none =>
            .error ⟨"invalid_json",
              "trust source response is not valid UTF-8 JSON", some 200⟩
          | some parsed =>
            if parsed.isObject then .ok ⟨parsed, 200, now⟩
            else
              .error ⟨"invalid_jwks",
                "trust source JWKS must be a JSON object", some 200⟩

def fetchErrorCodes : List String :=
  ["transport_error", "http_status", "content_type", "payload_too_large",
    "invalid_json", "invalid_jwks"]

section Fetch

variable {env : FetchEnvironment} {maxBytes : Nat} {now : Time}
  {answer : RemoteAnswer}

theorem fetchRemoteJwks_code {failure : TrustSourceFetchError}
    (failed : fetchRemoteJwks env maxBytes now answer = .error failure) :
    failure.code ∈ fetchErrorCodes := by
  have listed : ∀ code ∈ fetchErrorCodes, ∀ error : TrustSourceFetchError,
      error.code = code → Except.error error = (Except.error failure :
          Except TrustSourceFetchError FetchedJwksPayload) →
        failure.code ∈ fetchErrorCodes := by
    intro code mem error named same
    rw [← Except.error.inj same, named]
    exact mem
  cases answer with
  | unreachable => exact listed "transport_error" (by decide) _ rfl failed
  | response statusCode contentType chunks breaksOff =>
    simp only [fetchRemoteJwks] at failed
    split at failed
    · exact listed "http_status" (by decide) _ rfl failed
    · split at failed
      · exact listed "content_type" (by decide) _ rfl failed
      · split at failed
        · exact listed "payload_too_large" (by decide) _ rfl failed
        · split at failed
          · exact listed "transport_error" (by decide) _ rfl failed
          · split at failed
            · exact listed "invalid_json" (by decide) _ rfl failed
            · split at failed
              · cases failed
              · exact listed "invalid_jwks" (by decide) _ rfl failed

theorem fetchRemoteJwks_httpError (httpError : answer.isHttpError = true) :
    ∃ failure, fetchRemoteJwks env maxBytes now answer =
        .error failure ∧ failure.code = "http_status" := by
  cases answer with
  | unreachable => cases httpError
  | response statusCode contentType chunks breaksOff =>
    have status : statusCode ≠ 200 := by
      simp only [RemoteAnswer.isHttpError, decide_eq_true_eq] at httpError
      omega
    exact ⟨_, if_pos status, rfl⟩

end Fetch

section Recorded

variable (env : SourceEnvironment)

def Raises {Value : Type} (kind : ServiceError → Prop)
    (computation : Except ServiceError Value) : Prop :=
  ∀ raised, computation = .error raised → kind raised

def IsDomainError (raised : ServiceError) : Prop :=
  ∃ message, raised = .domainValidation message

def IsIntegrityError (raised : ServiceError) : Prop :=
  ∃ constraint, raised = .integrity constraint

namespace Raises

variable {First Second Value : Type} {kind : ServiceError → Prop}

theorem ok {value : Value} : Raises kind (.ok value) := by
  intro raised failed
  cases failed

theorem error {raised : ServiceError} (isKind : kind raised) :
    Raises kind (.error raised : Except ServiceError Value) := by
  intro other failed
  rw [← Except.error.inj failed]
  exact isKind

theorem bind {first : Except ServiceError First} {next : First → Except ServiceError Second}
    (firstRaises : Raises kind first) (nextRaises : ∀ value, Raises kind (next value)) :
    Raises kind (first >>= next) := by
  cases first with
  | error raised =>
    intro other failed
    have same : (Except.error raised : Except ServiceError Second) = .error other := failed
    rw [← Except.error.inj same]
    exact firstRaises raised rfl
  | ok value => exact nextRaises value

theorem check {condition : Prop} [Decidable condition] {message : String}
    {next : PUnit → Except ServiceError Value} (nextRaises : Raises IsDomainError (next ⟨⟩)) :
    Raises IsDomainError (if condition then
        (throw (.domainValidation message) : Except ServiceError PUnit) >>= next
      else next ⟨⟩) := by
  by_cases failed : condition
  · rw [if_pos failed]
    exact error ⟨message, rfl⟩
  · rw [if_neg failed]
    exact nextRaises

end Raises

theorem validatedRemoteKey_raises (source : EvidenceTrustSource)
    (seenKeyIds : List String) (value : Json) :
    Raises IsDomainError (validatedRemoteKey env source seenKeyIds value) := by
  unfold validatedRemoteKey
  refine Raises.check ?_
  refine Raises.check ?_
  refine Raises.check ?_
  refine Raises.check ?_
  refine Raises.bind ?_ (fun _ => Raises.ok)
  unfold validatedPublicJwk
  refine Raises.check ?_
  refine Raises.check ?_
  refine Raises.check ?_
  refine Raises.check ?_
  refine Raises.check ?_
  refine Raises.check ?_
  exact Raises.ok

theorem validatedRemoteKeyList_raises (source : EvidenceTrustSource) :
    ∀ (values : List Json) (seenKeyIds : List String), Raises IsDomainError
        (validatedRemoteKeyList env source seenKeyIds values)
  | [], _ => Raises.ok
  | value :: rest, seenKeyIds =>
    Raises.bind (validatedRemoteKey_raises env source seenKeyIds value)
      (fun _ => Raises.bind (validatedRemoteKeyList_raises source rest _) (fun _ => Raises.ok))

theorem validatedRemoteKeys_raises (source : EvidenceTrustSource) (payload : Json) :
    Raises IsDomainError (validatedRemoteKeys env source payload) := by
  unfold validatedRemoteKeys
  refine Raises.check ?_
  refine Raises.check ?_
  exact Raises.bind (validatedRemoteKeyList_raises env source _ []) (fun _ => Raises.ok)

theorem classifyRemoteKeys_raises (reg : TrustRegistry) (source : EvidenceTrustSource) :
    ∀ keys : List ValidatedRemoteKey, Raises IsDomainError (classifyRemoteKeys reg source keys)
  | [] => Raises.ok
  | remoteKey :: rest => by
    unfold classifyRemoteKeys
    split
    · exact Raises.bind (classifyRemoteKeys_raises reg source rest) (fun _ => Raises.ok)
    · split
      · exact Raises.error ⟨_, rfl⟩
      · exact Raises.bind (classifyRemoteKeys_raises reg source rest) (fun _ => Raises.ok)

theorem addRow_raises {Row : Type} {clash : Row → Row → Bool}
    (constraint : String) (table : UniqueRows Row clash) (row : Row) :
    Raises IsIntegrityError (addRow constraint table row) := by
  unfold addRow
  cases table.insert? row with
  | none => exact Raises.error ⟨constraint, rfl⟩
  | some inserted => exact Raises.ok

theorem importRemoteKeys_raises (source : EvidenceTrustSource) (sync : EvidenceTrustSourceSync)
    (signerIdentity : SignerIdentity) (now : Time) :
    ∀ (keys : List ValidatedRemoteKey) (reg : TrustRegistry), Raises IsIntegrityError
        (importRemoteKeys env source sync signerIdentity now keys reg)
  | [], _ => Raises.ok
  | _ :: rest, _ =>
    Raises.bind (addRow_raises _ _ _)
      (fun _ => importRemoteKeys_raises source sync signerIdentity now rest _)

variable (reg : TrustRegistry) (call : SourceSyncCall)
  (source : EvidenceTrustSource)

theorem applySync_raises (keys : SyncKeys) : Raises IsIntegrityError
      (applySync env reg source call keys) := by
  refine Raises.bind (addRow_raises _ _ _) (fun syncs => ?_)
  dsimp only
  cases call.mode with
  | preview => exact Raises.ok
  | apply =>
    exact Raises.bind (importRemoteKeys_raises env source _ _ _ _ _) (fun imported => Raises.ok)

theorem applySync_row (keys : SyncKeys) : Yields (applySync env reg source call keys)
      (fun answer => answer.2 = succeededSync env reg.drawn source call keys) := by
  refine Yields.bind (Yields.self _) (fun syncs _ => ?_)
  dsimp only
  cases call.mode with
  | preview => exact Yields.pure rfl
  | apply =>
    exact Yields.bind (Yields.self _) (fun imported _ => Yields.pure rfl)

structure AdmittedSync : Prop where
  context : validateSyncContext env call.context call.signerIdentity =
    .ok ()
  found : reg.sources.find? call.trustSourceId = some source
  enabled : source.enabled = true
  url : validateTrustSourceUrl env source call = .ok ()

structure FreshSync : Prop where
  id : ∀ other ∈ reg.syncs.rows, other.id ≠ reg.drawn
  syncHash : ∀ other ∈ reg.syncs.rows, ∀ status payloadHash,
    other.syncHash ≠
      syncHash env reg.drawn source call status payloadHash

def syncErrorCodes : List String :=
  fetchErrorCodes ++ ["key_collision", "database_conflict"]

structure RecordedSync (sync : EvidenceTrustSourceSync) : Prop where
  completedAt : sync.completedAt = call.clock.now
  failed : sync.status = .failed →
    ∃ code ∈ syncErrorCodes, sync.errorCode = some code
  fetchFailed : ∀ failure, call.fetched = .error failure →
    sync.status = .failed ∧ sync.errorCode = some failure.code

theorem recordFailedSync_fresh (fresh : FreshSync env reg call source) (failure : SyncFailure) :
    ∃ after, recordFailedSync env reg source call failure =
      .ok (after, failedSync env reg.drawn source call failure) := by
  have free : ∀ other ∈ reg.syncs.rows, sameTrustSourceSync other
        (failedSync env reg.drawn source call failure) =
          false := by
    intro other mem
    rw [sameTrustSourceSync, Bool.or_eq_false_iff, decide_eq_false_iff_not, decide_eq_false_iff_not]
    exact ⟨fresh.id other mem, fresh.syncHash other mem _ _⟩
  unfold recordFailedSync addRow UniqueRows.insert?
  simp only [dif_pos free]
  exact ⟨_, rfl⟩

theorem conflictFailure_known (keys : SyncKeys) :
    (conflictFailure keys).errorCode ∈ syncErrorCodes := by
  show "database_conflict" ∈ syncErrorCodes
  decide

theorem recordedSync_failed {failure : SyncFailure} (known : failure.errorCode ∈ syncErrorCodes)
    (own : ∀ fetchFailure, call.fetched = .error fetchFailure →
      failure.errorCode = fetchFailure.code) :
    RecordedSync call (failedSync env reg.drawn source call failure) where
  completedAt := rfl
  failed _ := ⟨failure.errorCode, known, rfl⟩
  fetchFailed fetchFailure failed :=
    ⟨rfl, congrArg some (own fetchFailure failed)⟩

theorem syncErrorCode_known (message : String) : syncErrorCode message ∈ syncErrorCodes := by
  rw [syncErrorCode]
  split
  · decide
  · decide

theorem exists_syncKeys (known : ∀ failure, call.fetched = .error failure →
      failure.code ∈ fetchErrorCodes) :
    (∃ failure, syncKeys env reg source call =
        .ok (.error failure) ∧ failure.errorCode ∈ syncErrorCodes ∧
        ∀ fetchFailure, call.fetched = .error fetchFailure →
          failure.errorCode = fetchFailure.code) ∨
      ∃ keys fetched, syncKeys env reg source call =
        .ok (.ok keys) ∧ call.fetched = .ok fetched := by
  unfold syncKeys
  cases answered : call.fetched with
  | error failure =>
    refine Or.inl ⟨_, rfl, List.mem_append_left _ (known failure answered), ?_⟩
    intro fetchFailure same
    rw [← Except.error.inj same]
  | ok fetched =>
    have none : ∀ {code : String} (fetchFailure : TrustSourceFetchError),
        (Except.ok fetched : Except TrustSourceFetchError
          FetchedJwksPayload) = .error fetchFailure →
        code = fetchFailure.code := by
      intro code fetchFailure same
      cases same
    simp only
    cases validated : validatedRemoteKeys env source fetched.payload with
    | error raised =>
      obtain ⟨message, rfl⟩ :=
        validatedRemoteKeys_raises env source _ raised validated
      exact Or.inl ⟨_, rfl, syncErrorCode_known message, none⟩
    | ok keys =>
      simp only
      cases classified : classifyRemoteKeys reg source keys with
      | error raised =>
        obtain ⟨message, rfl⟩ :=
          classifyRemoteKeys_raises reg source keys raised classified
        exact Or.inl ⟨_, rfl, syncErrorCode_known message, none⟩
      | ok parts => exact Or.inr ⟨_, fetched, rfl, rfl⟩

def recordOutcome : Except SyncFailure SyncKeys →
    Except ServiceError (TrustRegistry × EvidenceTrustSourceSync)
  | .error failure => recordFailedSync env reg source call failure
  | .ok keys =>
    match applySync env reg source call keys with
    | .error (.integrity _) =>
      recordFailedSync env reg source call (conflictFailure keys)
    | answer => answer

theorem syncEvidenceTrustSource_admitted (admitted : AdmittedSync env reg call source) :
    syncEvidenceTrustSource env reg call = syncKeys env reg source call >>=
        recordOutcome env reg call source := by
  unfold syncEvidenceTrustSource
  simp only [admitted.context, admitted.found, admitted.enabled, admitted.url]
  rfl

theorem exists_recordedSync (admitted : AdmittedSync env reg call source)
    (fresh : FreshSync env reg call source)
    (known : ∀ failure, call.fetched = .error failure → failure.code ∈ fetchErrorCodes) :
    ∃ after sync, syncEvidenceTrustSource env reg call =
        .ok (after, sync) ∧ RecordedSync call sync := by
  rw [syncEvidenceTrustSource_admitted env reg call source admitted]
  rcases exists_syncKeys env reg call source known with
    ⟨failure, ended, isKnown, own⟩ | ⟨keys, fetched, ended, answered⟩
  · obtain ⟨after, recorded⟩ := recordFailedSync_fresh env reg call source fresh failure
    rw [ended]
    exact ⟨after, _, recorded, recordedSync_failed env reg call source isKnown own⟩
  · rw [ended]
    have noFailure : ∀ failure, call.fetched ≠ .error failure := by
      intro failure failed
      rw [answered] at failed
      cases failed
    cases applied : applySync env reg source call keys with
    | error raised =>
      obtain ⟨constraint, rfl⟩ :=
        applySync_raises env reg call source keys raised applied
      obtain ⟨after, recorded⟩ := recordFailedSync_fresh env reg
        call source fresh (conflictFailure keys)
      refine ⟨after, _, ?_, recordedSync_failed env reg call
        source (conflictFailure_known keys) (fun failure failed =>
          absurd failed (noFailure failure))⟩
      rw [← recorded]
      show recordOutcome env reg call source (.ok keys) = _
      simp only [recordOutcome, applied]
    | ok answer =>
      have row := applySync_row env reg call source keys answer applied
      refine ⟨answer.1, answer.2, ?_, ?_⟩
      · show recordOutcome env reg call source (.ok keys) = _
        simp only [recordOutcome, applied]
      · rw [row]
        exact {
          completedAt := rfl
          failed := fun failed => by cases failed
          fetchFailed := fun failure failed =>
            absurd failed (noFailure failure) }

theorem admittedSync_of_ok {answer : TrustRegistry × EvidenceTrustSourceSync}
    (recorded : syncEvidenceTrustSource env reg call = .ok answer) :
    ∃ source, AdmittedSync env reg call source := by
  have yields : Yields (syncEvidenceTrustSource env reg call)
      (fun _ => ∃ source, AdmittedSync env reg call source) := by
    refine Yields.bind (Yields.self _) (fun _ ctx => ?_)
    cases found : reg.sources.find? call.trustSourceId with
    | none => exact Yields.throw _
    | some source =>
      refine Yields.check (fun disabled => ?_)
      refine Yields.bind (Yields.self _) (fun _ url => ?_)
      intro value _
      refine ⟨source, ctx, found, ?_, url⟩
      simpa using disabled
  exact yields answer recorded

end Recorded

/-- The bounds that `EvidenceTrustSourceScheduleUpsert` checks, with the retry
policy that the payload of a job repeats. -/
structure BoundedPolicy (schedule : EvidenceTrustSourceSchedule)
    (payload : TrustJobPayload) : Prop where
  jitter : 0 ≤ schedule.jitterSeconds
  base : 1 ≤ schedule.retryBaseSeconds
  maximum : schedule.retryBaseSeconds ≤ schedule.retryMaxSeconds
  bounded : schedule.retryMaxSeconds ≤ 3600
  carried : payload.retryPolicy =
    { baseSeconds := schedule.retryBaseSeconds
      maxSeconds := schedule.retryMaxSeconds
      jitterSeconds := schedule.retryJitterSeconds }

/-- A running sync job whose execution passes the lineage check. -/
structure ScheduledAttempt (env : ScheduleEnvironment)
    (fetch : FetchEnvironment) where
  tables : ScheduleTables
  job : TrustJob
  payload : TrustJobPayload
  schedule : EvidenceTrustSourceSchedule
  request : SyncRequest
  answer : RemoteAnswer
  maxBytes : Nat
  /-- When `process_claimed_agent_job` writes the end of the attempt. -/
  finishedAt : Time
  stored : tables.store.job? job.id = some job
  running : job.status = .running
  isSync : job.jobType = .trustSourceSync
  carries : job.payloadJson = some payload
  found : tables.schedule? payload.scheduleId = some schedule
  lineage : lineageMatches schedule job payload = true
  fetched : request.fetched =
    fetchRemoteJwks fetch maxBytes request.clock.now answer
  policy : BoundedPolicy schedule payload
  fresh : ∀ source, FreshSync env.toSourceEnvironment tables.registry
    (scheduledCall request schedule job payload) source

/-- The second transaction, where the first one did not end the attempt. -/
def settleAttempt (env : ScheduleEnvironment) (tables : ScheduleTables) :
    SyncAttempt → ScheduleTables × Except ServiceError TrustJobResult
  | .notStarted => (tables, .error (.unexpected "not started"))
  | .synced job payload sync =>
    settleTrustSourceSync env tables job payload sync
  | .answered outcome => (tables, outcome)

/-- `process_claimed_agent_job` around `execute_trust_source_sync_job`. -/
def processScheduledAttempt (env : ScheduleEnvironment) (tables : ScheduleTables) (job : TrustJob)
    (req : SyncRequest) (finishedAt : Time) : ScheduleTables :=
  let executed := executeTrustSourceSyncJob env tables job req
  let ended := settleAttempt env executed.1 executed.2
  match getAgentJob ended.1.store job.id with
  | .error _ => ended.1
  | .ok loaded =>
    { ended.1 with
      store := ended.1.store.commitLoaded loaded
        (endChange env.jobs (ended.2.map some) finishedAt) }

namespace ScheduledAttempt

variable {env : ScheduleEnvironment} {fetch : FetchEnvironment}
  (attempt : ScheduledAttempt env fetch)

def call : SourceSyncCall :=
  scheduledCall attempt.request attempt.schedule attempt.job attempt.payload

def Records (sync : EvidenceTrustSourceSync) : Prop :=
  ∃ reg, syncEvidenceTrustSource env.toSourceEnvironment
    attempt.tables.registry attempt.call = .ok (reg, sync)

def after : ScheduleTables :=
  processScheduledAttempt env attempt.tables attempt.job attempt.request attempt.finishedAt

def HasAttempts : Prop :=
  attempt.job.attemptCount < attempt.job.maxAttempts

def IsTransient (sync : EvidenceTrustSourceSync) : Prop :=
  sync.errorCode = some "transport_error" ∨
    attempt.answer.isHttpError = true ∨
    sync.errorCode = some "database_conflict"

structure Released (schedule : EvidenceTrustSourceSchedule) : Prop where
  leaseOwner : schedule.leaseOwner = none
  leaseTokenHash : schedule.leaseTokenHash = none
  leaseExpiresAt : schedule.leaseExpiresAt = none
  nextRunAt : ∃ jitter, 0 ≤ jitter ∧ jitter ≤ attempt.schedule.jitterSeconds ∧
    schedule.nextRunAt = attempt.request.clock.now +
      (attempt.schedule.intervalSeconds + jitter)

structure Completed (schedule : EvidenceTrustSourceSchedule) (job : TrustJob) :
    Prop where
  released : attempt.Released schedule
  failures : schedule.consecutiveFailures = 0
  status : job.status = .completed

structure Retried (schedule : EvidenceTrustSourceSchedule) (job : TrustJob) :
    Prop where
  status : job.status = .queued
  delay : ∃ delay, 1 ≤ delay ∧ delay ≤ attempt.schedule.retryMaxSeconds ∧
    job.availableAt = attempt.finishedAt + delay
  held : schedule.leaseTokenHash = attempt.schedule.leaseTokenHash
  alive : ∃ expiry, schedule.leaseExpiresAt = some expiry ∧
    job.availableAt < expiry

structure DeadLettered (schedule : EvidenceTrustSourceSchedule)
    (job : TrustJob) : Prop where
  released : attempt.Released schedule
  status : job.status = .failed
  deadLetteredAt : job.deadLetteredAt = some attempt.finishedAt

def RowsAgree : Prop :=
  ∃ schedule job, attempt.after.schedule? attempt.payload.scheduleId = some schedule ∧
    attempt.after.store.job? attempt.job.id = some job ∧
    (∀ sync, attempt.Records sync → sync.status = .succeeded → attempt.Completed schedule job) ∧
    (∀ sync, attempt.Records sync → sync.status = .failed →
      attempt.IsTransient sync → attempt.HasAttempts → attempt.Retried schedule job) ∧
    ((∀ sync, attempt.Records sync → sync.status = .failed ∧
        ¬ (attempt.IsTransient sync ∧ attempt.HasAttempts)) →
      attempt.DeadLettered schedule job)

def leaseEnd : Time :=
  attempt.request.clock.now + (max 30 (min (intOr attempt.payload.scheduleLeaseSeconds 900) 3600) +
      attempt.schedule.retryMaxSeconds)

/-- The sync reaches its fetch, no HTTP error comes while attempts remain, and a retried failure
is written before the lease ends. -/
structure StaysInStep : Prop where
  admitted : ∃ source, AdmittedSync env.toSourceEnvironment
    attempt.tables.registry attempt.call source
  noHttpError : attempt.HasAttempts → attempt.answer.isHttpError = false
  inTime : ∀ sync, attempt.Records sync → sync.status = .failed →
    attempt.IsTransient sync → attempt.HasAttempts →
      attempt.finishedAt + retryDelaySeconds env.jobs attempt.job <
        attempt.leaseEnd

theorem schedule?_change {tables : ScheduleTables} {scheduleId : Uuid}
    {schedule : EvidenceTrustSourceSchedule} (change : ScheduleChange)
    (found : tables.schedule? scheduleId = some schedule) :
    (tables.change schedule.id change).schedule? scheduleId = some (change.apply schedule) := by
  have sameId : schedule.id = scheduleId := by
    simpa using List.find?_some found
  have kept : ∀ row, (change.onlyAt schedule.id row).id = row.id :=
    fun row => (change.onlyAt_keeps schedule.id row).1
  show (tables.schedules.rows.map (change.onlyAt schedule.id)).find?
    (fun row => row.id = scheduleId) = _
  rw [List.find?_map]
  have same : ((fun row : EvidenceTrustSourceSchedule =>
      decide (row.id = scheduleId)) ∘ change.onlyAt schedule.id) =
      fun row => decide (row.id = scheduleId) := by
    funext row
    simp only [Function.comp, kept]
  have listed : tables.schedules.rows.find?
      (fun row => decide (row.id = scheduleId)) = some schedule := found
  rw [same, listed, Option.map_some, ScheduleChange.onlyAt, if_pos rfl]

def endedJob (outcome : Except ServiceError TrustJobResult) : TrustJob :=
  flushRow attempt.job ((endChange env.jobs (outcome.map some) attempt.finishedAt).apply
      attempt.job) attempt.job

theorem after_of_ended {tables : ScheduleTables} {outcome : Except ServiceError TrustJobResult}
    (store : tables.store = attempt.tables.store)
    (ended : settleAttempt env (executeTrustSourceSyncJob env attempt.tables attempt.job
          attempt.request).1
        (executeTrustSourceSyncJob env attempt.tables attempt.job
          attempt.request).2 = (tables, outcome)) :
    attempt.after.schedules = tables.schedules ∧ attempt.after.store.job? attempt.job.id =
        some (attempt.endedJob outcome) := by
  have loaded : getAgentJob tables.store attempt.job.id = .ok attempt.job := by
    rw [getAgentJob_eq_ok_iff, store]
    exact attempt.stored
  unfold after processScheduledAttempt
  simp only [ended, loaded]
  refine ⟨trivial, ?_⟩
  rw [JobStore.job?_commitLoaded, if_pos rfl, store, attempt.stored]
  rfl

theorem execute_raised {raised : ServiceError}
    (failed : syncEvidenceTrustSource env.toSourceEnvironment
      attempt.tables.registry attempt.call = .error raised) :
    executeTrustSourceSyncJob env attempt.tables attempt.job
      attempt.request = (attempt.tables, .answered (.error raised)) := by
  unfold executeTrustSourceSyncJob
  have same : syncEvidenceTrustSource env.toSourceEnvironment
      attempt.tables.registry (scheduledCall attempt.request attempt.schedule
        attempt.job attempt.payload) = .error raised := failed
  simp only [attempt.carries, attempt.found, attempt.lineage, if_true, same]

theorem execute_recorded {reg : TrustRegistry} {sync : EvidenceTrustSourceSync}
    (recorded : syncEvidenceTrustSource env.toSourceEnvironment
      attempt.tables.registry attempt.call = .ok (reg, sync)) :
    executeTrustSourceSyncJob env attempt.tables attempt.job attempt.request =
        ({ attempt.tables with registry := reg }, .synced attempt.job attempt.payload sync) := by
  unfold executeTrustSourceSyncJob
  have same : syncEvidenceTrustSource env.toSourceEnvironment
      attempt.tables.registry (scheduledCall attempt.request attempt.schedule
        attempt.job attempt.payload) = .ok (reg, sync) := recorded
  simp only [attempt.carries, attempt.found, attempt.lineage, if_true, same]

theorem after_of_settled {reg : TrustRegistry} {sync : EvidenceTrustSourceSync}
    {change : ScheduleChange} {outcome : Except ServiceError TrustJobResult}
    (recorded : syncEvidenceTrustSource env.toSourceEnvironment
      attempt.tables.registry attempt.call = .ok (reg, sync))
    (settled : settleTrustSourceSync env
        { attempt.tables with registry := reg } attempt.job
        attempt.payload sync =
      (({ attempt.tables with registry := reg } : ScheduleTables).change
        attempt.schedule.id change, outcome)) :
    attempt.after.schedule? attempt.payload.scheduleId = some (change.apply attempt.schedule) ∧
      attempt.after.store.job? attempt.job.id = some (attempt.endedJob outcome) := by
  have executed := attempt.execute_recorded recorded
  have ended := @after_of_ended _ _ attempt
    (({ attempt.tables with registry := reg } : ScheduleTables).change
      attempt.schedule.id change) outcome rfl (by rw [executed]; exact settled)
  refine ⟨?_, ended.2⟩
  have found : ({ attempt.tables with registry := reg } :
      ScheduleTables).schedule? attempt.payload.scheduleId = some attempt.schedule := attempt.found
  rw [← schedule?_change change found]
  show attempt.after.schedules.rows.find? _ = _
  rw [ended.1]
  rfl

theorem endedJob_ok (res : TrustJobResult) : (attempt.endedJob (.ok res)).status = .completed :=
  flushColumn_current _ _

theorem endedJob_requeued {message : String} (remains : attempt.HasAttempts) :
    (attempt.endedJob (.error (.unexpected message))).status = .queued ∧
      (attempt.endedJob (.error (.unexpected message))).availableAt = attempt.finishedAt +
          retryDelaySeconds env.jobs attempt.job := by
  have more : ¬ (ServiceError.isDomainValidation (.unexpected message) ||
      decide (attempt.job.maxAttempts ≤ attempt.job.attemptCount)) = true := by
    have open_ : attempt.job.attemptCount < attempt.job.maxAttempts := remains
    simp [ServiceError.isDomainValidation, open_]
  constructor
  · show flushColumn _ (failJob env.jobs _ _ attempt.job).status _ = _
    rw [flushColumn_current, failJob, if_neg more]
  · show flushColumn _ (failJob env.jobs _ _ attempt.job).availableAt _ = _
    rw [flushColumn_current, failJob, if_neg more]
    rfl

theorem endedJob_deadLettered {raised : ServiceError}
    (final : raised.isDomainValidation = true ∨ ¬ attempt.HasAttempts) :
    (attempt.endedJob (.error raised)).status = .failed ∧
      (attempt.endedJob (.error raised)).deadLetteredAt = some attempt.finishedAt := by
  have ends : (raised.isDomainValidation ||
      decide (attempt.job.maxAttempts ≤ attempt.job.attemptCount)) = true := by
    rw [Bool.or_eq_true, decide_eq_true_eq]
    exact final.imp_right Int.not_lt.mp
  constructor
  · show flushColumn _ (failJob env.jobs _ _ attempt.job).status _ = _
    rw [flushColumn_current, failJob, if_pos ends]
    rfl
  · show flushColumn _ (failJob env.jobs _ _ attempt.job).deadLetteredAt
      _ = _
    rw [flushColumn_current, failJob, if_pos ends]
    rfl

theorem deterministicJitter_nonneg (digest : String → Nat) (text : String)
    (maximum : Int) : 0 ≤ deterministicJitter digest text maximum := by
  unfold deterministicJitter
  split
  · exact le_refl 0
  · next positive => exact Int.emod_nonneg _ (by omega)

theorem deterministicJitter_le {maximum : Int} (bounded : 0 ≤ maximum)
    (digest : String → Nat) (text : String) :
    deterministicJitter digest text maximum ≤ maximum := by
  unfold deterministicJitter
  split
  · exact bounded
  · next positive =>
      have below := Int.emod_lt_of_pos (digest text : Int) (show 0 < maximum + 1 by omega)
      omega

theorem retryDelaySeconds_bounds : 1 ≤ retryDelaySeconds env.jobs attempt.job ∧
      retryDelaySeconds env.jobs attempt.job ≤
        attempt.schedule.retryMaxSeconds := by
  have policy : env.jobs.retryPolicy attempt.job.payloadJson =
      some attempt.payload.retryPolicy := by
    rw [attempt.carries]
    rfl
  obtain ⟨_, base, maximum, bounded, carried⟩ := attempt.policy
  have baseEq : max 1 (min (intOr attempt.schedule.retryBaseSeconds 1) 3600) =
      attempt.schedule.retryBaseSeconds := by
    rw [intOr, if_neg (by omega)]
    omega
  have maximumEq : max attempt.schedule.retryBaseSeconds
      (min (intOr attempt.schedule.retryMaxSeconds attempt.schedule.retryBaseSeconds) 3600) =
          attempt.schedule.retryMaxSeconds := by
    rw [intOr, if_neg (by omega)]
    omega
  have growing : attempt.schedule.retryBaseSeconds ≤ attempt.schedule.retryBaseSeconds *
        2 ^ (max 0 (attempt.job.attemptCount - 1)).toNat := by
    have power : (1 : Int) ≤ 2 ^ (max 0 (attempt.job.attemptCount - 1)).toNat :=
      one_le_pow₀ (by decide)
    exact le_mul_of_one_le_right (by omega) power
  rw [retryDelaySeconds, if_pos attempt.isSync, trustSourceRetryDelaySeconds]
  simp only [policy, carried, baseEq, maximumEq]
  have jitter := deterministicJitter_nonneg env.jobs.digest
    (toString attempt.job.id ++ ":" ++ toString attempt.job.attemptCount)
    (max 0 (min (intOr attempt.schedule.retryJitterSeconds 0) attempt.schedule.retryMaxSeconds))
  omega

/-! ## The schedule row -/

theorem released_of_next {schedule : EvidenceTrustSourceSchedule}
    (owner : schedule.leaseOwner = none)
    (token : schedule.leaseTokenHash = none)
    (expiry : schedule.leaseExpiresAt = none)
    (next : schedule.nextRunAt = nextScheduledAt env attempt.schedule attempt.request.clock.now) :
    attempt.Released schedule where
  leaseOwner := owner
  leaseTokenHash := token
  leaseExpiresAt := expiry
  nextRunAt := by
    exact ⟨_, deterministicJitter_nonneg _ _ _,
      deterministicJitter_le attempt.policy.jitter _ _, next⟩

def IsRetryable (sync : EvidenceTrustSourceSync) : Prop :=
  sync.errorCode.any (fun code => retryableSyncErrors.contains code) = true

section Settling

variable {reg : TrustRegistry} {sync : EvidenceTrustSourceSync}

theorem settle_succeeded (success : sync.status = .succeeded) : ∃ res, settleTrustSourceSync env
        { attempt.tables with registry := reg } attempt.job
        attempt.payload sync =
      (({ attempt.tables with registry := reg } : ScheduleTables).change
        attempt.schedule.id (settledChange env sync), .ok res) := by
  have found : ({ attempt.tables with registry := reg } :
      ScheduleTables).schedule? attempt.payload.scheduleId = some attempt.schedule := attempt.found
  unfold settleTrustSourceSync
  simp only [found, success]
  exact ⟨_, rfl⟩

theorem settle_retried (failure : sync.status = .failed)
    (retryable : IsRetryable sync) (remains : attempt.HasAttempts) :
    settleTrustSourceSync env
        { attempt.tables with registry := reg } attempt.job
        attempt.payload sync =
      (({ attempt.tables with registry := reg } : ScheduleTables).change
        attempt.schedule.id (retriedChange attempt.payload sync),
        .error (.unexpected (syncFailureMessage sync))) := by
  have found : ({ attempt.tables with registry := reg } :
      ScheduleTables).schedule? attempt.payload.scheduleId = some attempt.schedule := attempt.found
  have both : sync.errorCode.any
      (fun code => retryableSyncErrors.contains code) = true ∧
        attempt.job.attemptCount < attempt.job.maxAttempts :=
    ⟨retryable, remains⟩
  unfold settleTrustSourceSync
  simp only [found, failure, both, and_self, if_true]

theorem settle_failed (failure : sync.status = .failed)
    (final : ¬ (IsRetryable sync ∧ attempt.HasAttempts)) :
    ∃ raised, settleTrustSourceSync env
        { attempt.tables with registry := reg } attempt.job
        attempt.payload sync =
      (({ attempt.tables with registry := reg } : ScheduleTables).change
        attempt.schedule.id (failedChange env sync), .error raised) ∧
      (raised.isDomainValidation = true ∨ ¬ attempt.HasAttempts) := by
  have found : ({ attempt.tables with registry := reg } :
      ScheduleTables).schedule? attempt.payload.scheduleId = some attempt.schedule := attempt.found
  have neither : ¬ (sync.errorCode.any
      (fun code => retryableSyncErrors.contains code) = true ∧
        attempt.job.attemptCount < attempt.job.maxAttempts) := final
  by_cases retryable : IsRetryable sync
  · refine ⟨.unexpected (syncFailureMessage sync), ?_,
      Or.inr (fun remains => final ⟨retryable, remains⟩)⟩
    have isRetryable : sync.errorCode.any
      (fun code => retryableSyncErrors.contains code) = true := retryable
    unfold settleTrustSourceSync
    simp only [found, failure, if_neg neither]
    rw [if_pos isRetryable]
  · refine ⟨.domainValidation (syncFailureMessage sync), ?_, Or.inl rfl⟩
    have notRetryable : ¬ sync.errorCode.any
      (fun code => retryableSyncErrors.contains code) = true := retryable
    unfold settleTrustSourceSync
    simp only [found, failure, if_neg neither]
    rw [if_neg notRetryable]

end Settling

section Codes

variable {sync : EvidenceTrustSourceSync}

theorem known_fetchCodes {failure : TrustSourceFetchError}
    (failed : attempt.call.fetched = .error failure) :
    failure.code ∈ fetchErrorCodes := by
  have fetched : attempt.call.fetched = fetchRemoteJwks fetch attempt.maxBytes
      attempt.request.clock.now attempt.answer := attempt.fetched
  rw [fetched] at failed
  exact fetchRemoteJwks_code failed

theorem exists_records {source : EvidenceTrustSource}
    (admitted : AdmittedSync env.toSourceEnvironment attempt.tables.registry attempt.call source) :
    ∃ sync, attempt.Records sync ∧ RecordedSync attempt.call sync := by
  obtain ⟨after, sync, recorded, row⟩ := exists_recordedSync
    env.toSourceEnvironment attempt.tables.registry attempt.call source
    admitted (attempt.fresh source) (fun _ => attempt.known_fetchCodes)
  exact ⟨sync, ⟨after, recorded⟩, row⟩

theorem records_unique {other : EvidenceTrustSourceSync}
    (records : attempt.Records sync) (others : attempt.Records other) :
    other = sync := by
  obtain ⟨reg, recorded⟩ := records
  obtain ⟨otherRegistry, otherRecorded⟩ := others
  rw [recorded] at otherRecorded
  exact (Prod.mk.inj (Except.ok.inj otherRecorded)).2.symm

theorem recorded_httpError (row : RecordedSync attempt.call sync)
    (httpError : attempt.answer.isHttpError = true) :
    sync.status = .failed ∧ sync.errorCode = some "http_status" := by
  obtain ⟨failure, fetched, code⟩ := @fetchRemoteJwks_httpError fetch
    attempt.maxBytes attempt.request.clock.now attempt.answer httpError
  have failed : attempt.call.fetched = .error failure :=
    attempt.fetched.trans fetched
  have recorded := row.fetchFailed failure failed
  rw [code] at recorded
  exact recorded

theorem not_isRetryable_httpError (code : sync.errorCode = some "http_status") :
    ¬ IsRetryable sync := by
  rw [IsRetryable, code]
  decide

theorem isRetryable_iff (row : RecordedSync attempt.call sync) (failure : sync.status = .failed)
    (noHttpError : attempt.answer.isHttpError = false) :
    IsRetryable sync ↔ attempt.IsTransient sync := by
  obtain ⟨code, known, recorded⟩ := row.failed failure
  have table : ∀ known ∈ syncErrorCodes, (retryableSyncErrors.contains known = true ↔
        known = "transport_error" ∨ known = "database_conflict") := by
    decide
  rw [IsRetryable, IsTransient, recorded, noHttpError]
  simp only [Option.any_some, table code known, Option.some.injEq, Bool.false_eq_true, false_or]

end Codes

theorem held_token : ∃ token, attempt.schedule.leaseTokenHash = some token := by
  have matching := attempt.lineage
  simp only [lineageMatches, Bool.and_eq_true, decide_eq_true_eq] at matching
  exact ⟨_, matching.2⟩

theorem admitted_of_rowsAgree (agree : attempt.RowsAgree) :
    ∃ source, AdmittedSync env.toSourceEnvironment attempt.tables.registry attempt.call source := by
  cases recorded : syncEvidenceTrustSource env.toSourceEnvironment
      attempt.tables.registry attempt.call with
  | ok answer =>
    exact admittedSync_of_ok env.toSourceEnvironment attempt.tables.registry attempt.call recorded
  | error raised =>
    obtain ⟨schedule, job, found, -, -, -, dead⟩ := agree
    have nothing : ∀ sync, ¬ attempt.Records sync := by
      rintro sync ⟨reg, returned⟩
      rw [recorded] at returned
      cases returned
    have released := (dead (fun sync records =>
      absurd records (nothing sync))).released
    have executed := attempt.execute_raised recorded
    have ended := @after_of_ended _ _ attempt attempt.tables (.error raised)
      rfl (by rw [executed]; rfl)
    have same : attempt.after.schedule? attempt.payload.scheduleId = some attempt.schedule := by
      rw [← attempt.found]
      show attempt.after.schedules.rows.find? _ = _
      rw [ended.1]
      rfl
    rw [same] at found
    obtain ⟨token, held⟩ := attempt.held_token
    have cleared := released.leaseTokenHash
    rw [← Option.some.inj found, held] at cleared
    cases cleared

section Ends

variable {sync : EvidenceTrustSourceSync}

theorem completed_of_records (records : attempt.Records sync)
    (row : RecordedSync attempt.call sync) (success : sync.status = .succeeded) :
    ∃ schedule job, attempt.after.schedule? attempt.payload.scheduleId = some schedule ∧
      attempt.after.store.job? attempt.job.id = some job ∧ attempt.Completed schedule job := by
  obtain ⟨reg, recorded⟩ := records
  obtain ⟨res, settled⟩ := attempt.settle_succeeded success
  obtain ⟨found, stored⟩ := attempt.after_of_settled recorded settled
  have completedAt : sync.completedAt = attempt.request.clock.now :=
    row.completedAt
  refine ⟨_, _, found, stored, ?_, rfl, attempt.endedJob_ok res⟩
  apply attempt.released_of_next rfl rfl rfl
  rw [← completedAt]
  rfl

theorem retried_rows (records : attempt.Records sync)
    (row : RecordedSync attempt.call sync) (failure : sync.status = .failed)
    (retryable : IsRetryable sync) (remains : attempt.HasAttempts) :
    ∃ schedule job, attempt.after.schedule? attempt.payload.scheduleId = some schedule ∧
      attempt.after.store.job? attempt.job.id = some job ∧
      job.status = .queued ∧
      job.availableAt = attempt.finishedAt + retryDelaySeconds env.jobs attempt.job ∧
      schedule.leaseTokenHash = attempt.schedule.leaseTokenHash ∧
      schedule.leaseExpiresAt = some attempt.leaseEnd := by
  obtain ⟨reg, recorded⟩ := records
  obtain ⟨found, stored⟩ := attempt.after_of_settled recorded
    (attempt.settle_retried failure retryable remains)
  have completedAt : sync.completedAt = attempt.request.clock.now :=
    row.completedAt
  obtain ⟨queued, available⟩ := attempt.endedJob_requeued remains
  refine ⟨_, _, found, stored, queued, available, rfl, ?_⟩
  rw [leaseEnd, ← completedAt]
  rfl

theorem deadLettered_of_records (records : attempt.Records sync)
    (row : RecordedSync attempt.call sync) (failure : sync.status = .failed)
    (final : ¬ (IsRetryable sync ∧ attempt.HasAttempts)) :
    ∃ schedule job, attempt.after.schedule? attempt.payload.scheduleId = some schedule ∧
      attempt.after.store.job? attempt.job.id = some job ∧ attempt.DeadLettered schedule job := by
  obtain ⟨reg, recorded⟩ := records
  obtain ⟨raised, settled, ends⟩ := attempt.settle_failed failure final
  obtain ⟨found, stored⟩ := attempt.after_of_settled recorded settled
  have completedAt : sync.completedAt = attempt.request.clock.now :=
    row.completedAt
  obtain ⟨failed, deadLettered⟩ := attempt.endedJob_deadLettered ends
  refine ⟨_, _, found, stored, ?_, failed, deadLettered⟩
  apply attempt.released_of_next rfl rfl rfl
  rw [← completedAt]
  rfl

end Ends

theorem noHttpError_of_rowsAgree (agree : attempt.RowsAgree)
    (remains : attempt.HasAttempts) : attempt.answer.isHttpError = false := by
  by_contra httpError
  rw [Bool.not_eq_false] at httpError
  obtain ⟨source, admitted⟩ := attempt.admitted_of_rowsAgree agree
  obtain ⟨sync, records, row⟩ := attempt.exists_records admitted
  obtain ⟨schedule, job, -, stored, -, retried, -⟩ := agree
  obtain ⟨failure, code⟩ := attempt.recorded_httpError row httpError
  have queued := (retried sync records failure (Or.inr (Or.inl httpError)) remains).status
  obtain ⟨_, dead, _, deadStored, deadLettered⟩ :=
    attempt.deadLettered_of_records records row failure
      (fun both => not_isRetryable_httpError code both.1)
  rw [stored] at deadStored
  rw [Option.some.inj deadStored, deadLettered.status] at queued
  cases queued

theorem agrees_iff_staysInStep : attempt.RowsAgree ↔ attempt.StaysInStep := by
  constructor
  · intro agree
    have noHttpError := attempt.noHttpError_of_rowsAgree agree
    obtain ⟨source, admitted⟩ := attempt.admitted_of_rowsAgree agree
    obtain ⟨sync, records, row⟩ := attempt.exists_records admitted
    obtain ⟨schedule, job, found, stored, -, retried, -⟩ := agree
    refine ⟨⟨source, admitted⟩, noHttpError, ?_⟩
    intro other others failure transient remains
    obtain rfl := attempt.records_unique records others
    have retryable := (attempt.isRetryable_iff row failure (noHttpError remains)).mpr transient
    obtain ⟨written, queued, writtenFound, queuedStored, -, available, -,
      expiry⟩ := attempt.retried_rows records row failure retryable remains
    obtain ⟨limit, limited, early⟩ :=
      (retried _ records failure transient remains).alive
    rw [found] at writtenFound
    rw [stored] at queuedStored
    rw [Option.some.inj writtenFound, expiry] at limited
    rw [Option.some.inj queuedStored, available, ← Option.some.inj limited] at early
    exact early
  · intro steps
    obtain ⟨source, admitted⟩ := steps.admitted
    obtain ⟨sync, records, row⟩ := attempt.exists_records admitted
    cases status : sync.status with
    | succeeded =>
      obtain ⟨schedule, job, found, stored, completed⟩ :=
        attempt.completed_of_records records row status
      refine ⟨schedule, job, found, stored, fun _ _ _ => completed, ?_, ?_⟩
      · intro other others failure
        rw [attempt.records_unique records others, status] at failure
        cases failure
      · intro failures
        have failure := (failures sync records).1
        rw [status] at failure
        cases failure
    | failed =>
      have noSuccess : ∀ other, attempt.Records other → other.status ≠ .succeeded := by
        intro other others
        rw [attempt.records_unique records others, status]
        decide
      by_cases retries : attempt.IsTransient sync ∧ attempt.HasAttempts
      · obtain ⟨transient, remains⟩ := retries
        have retryable := (attempt.isRetryable_iff row status
          (steps.noHttpError remains)).mpr transient
        obtain ⟨schedule, job, found, stored, queued, available, held,
          expiry⟩ := attempt.retried_rows records row status retryable remains
        obtain ⟨atLeast, atMost⟩ := attempt.retryDelaySeconds_bounds
        refine ⟨schedule, job, found, stored, fun other others success =>
          absurd success (noSuccess other others), ?_, ?_⟩
        · intro other others _ _ _
          refine ⟨queued, ⟨_, atLeast, atMost, available⟩, held, ⟨_, expiry, ?_⟩⟩
          rw [available]
          exact steps.inTime sync records status transient remains
        · intro failures
          exact absurd ⟨transient, remains⟩ (failures sync records).2
      · have final : ¬ (IsRetryable sync ∧ attempt.HasAttempts) := by
          rintro ⟨retryable, remains⟩
          exact retries ⟨(attempt.isRetryable_iff row status
            (steps.noHttpError remains)).mp retryable, remains⟩
        obtain ⟨schedule, job, found, stored, dead⟩ :=
          attempt.deadLettered_of_records records row status final
        refine ⟨schedule, job, found, stored, fun other others success =>
          absurd success (noSuccess other others), ?_, fun _ => dead⟩
        intro other others _ transient remains
        rw [attempt.records_unique records others] at transient
        exact absurd ⟨transient, remains⟩ retries

end ScheduledAttempt

def threeAttempts : EvidenceTrustSourceScheduleUpsert where
  enabled := true
  intervalSeconds := 3600
  jitterSeconds := 60
  maxAttempts := 3
  retryBaseSeconds := 5
  retryMaxSeconds := 300
  retryJitterSeconds := 2
  runImmediately := true

def startedRun : ScheduleState :=
  (perform (ScheduleState.next plainSchedule) (ScheduleState.initial sourceRegistry)
    [.upsert 0 1 threeAttempts (operatorOf "admin") { now := 0, created := 0 },
      enqueueAt 0, claimJobAt 0 0, .queue (.read 0), .queue (.start 0)]).get
    (by rfl)

def startedJob : TrustJob :=
  (startedRun.queue.store.job? 0).get (by rfl)

def startedPayload : TrustJobPayload :=
  startedJob.payloadJson.get (by rfl)

def startedSchedule : EvidenceTrustSourceSchedule :=
  startedRun.schedules.rows.head?.get (by rfl)

def bodylessFetch : FetchEnvironment where
  lower := id
  parseJson _ := none

def attemptOf (answer : RemoteAnswer) : ScheduledAttempt plainSchedule bodylessFetch where
  tables := startedRun.tables
  job := startedJob
  payload := startedPayload
  schedule := startedSchedule
  request :=
    { executorIdentity := operatorOf "system worker"
      allowedHosts := ["keys"]
      allowInsecureHttp := false
      fetched := fetchRemoteJwks bodylessFetch 1000 1 answer
      clock := { now := 1, created := 1 } }
  answer := answer
  maxBytes := 1000
  finishedAt := 2
  stored := rfl
  running := rfl
  isSync := rfl
  carries := rfl
  found := rfl
  lineage := rfl
  fetched := rfl
  policy := ⟨by decide, by decide, by decide, by decide, rfl⟩
  fresh source := by
    have none : startedRun.tables.registry.syncs.rows = [] := rfl
    constructor
    · intro other mem
      rw [none] at mem
      cases mem
    · intro other mem
      rw [none] at mem
      cases mem

/-- A first attempt that is answered with 503 is not retried. -/
theorem unavailable_disagrees :
    ¬ (attemptOf (.response 503 "text/plain" [] false)).RowsAgree := by
  intro agree
  have remains : (attemptOf (.response 503 "text/plain" [] false)).HasAttempts := by
    show startedJob.attemptCount < startedJob.maxAttempts
    decide
  have noHttpError :=
    ScheduledAttempt.noHttpError_of_rowsAgree _ agree remains
  cases noHttpError

end ModelAtlas.Trust
