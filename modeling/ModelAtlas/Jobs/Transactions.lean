import ModelAtlas.Jobs.Queue

/-!
# Transactions of the job queue

The service functions of `services/agent_jobs.py` over the store, each with the
lemma that says what it can do to the table.
-/

namespace ModelAtlas.Jobs

open Foundations

variable {Payload Result : Type}

/-! ## Enqueueing -/

/-- The arguments of `_enqueue_job`. -/
structure EnqueueRequest (Payload : Type) where
  jobType : JobType
  dedupeKey : String
  payloadJson : Payload
  signerIdentity : SignerIdentity
  priority : Int
  (benchmarkRunId benchmarkResultId checkpointRecordId : Option Uuid)
  maxAttempts : Int

/-- The row that `_enqueue_job` inserts. -/
def newJob (id : Uuid) (req : EnqueueRequest Payload) (now : Time) :
    AgentExecutionJob Payload Result where
  id := id
  jobType := req.jobType
  status := .queued
  dedupeKey := req.dedupeKey
  payloadJson := req.payloadJson
  requestedByIdentityJson := req.signerIdentity
  benchmarkRunId := req.benchmarkRunId
  benchmarkResultId := req.benchmarkResultId
  checkpointRecordId := req.checkpointRecordId
  priority := req.priority
  availableAt := now
  leaseOwner := none
  leaseToken := none
  leaseExpiresAt := none
  lastHeartbeatAt := none
  heartbeatCount := 0
  attemptCount := 0
  maxAttempts := req.maxAttempts
  startedAt := none
  completedAt := none
  lastError := none
  resultJson := none
  deadLetteredAt := none
  deadLetterReason := none
  requeueCount := 0
  lastRequeuedAt := none
  lastRequeuedByIdentityJson := none
  createdAt := now

theorem byDedupeKey?_eq_none {store : JobStore Payload Result} {dedupeKey : String}
    (absent : store.byDedupeKey? dedupeKey = none) :
    ∀ other ∈ store.jobs, other.dedupeKey ≠ dedupeKey := by
  intro other mem
  have tested := List.find?_eq_none.mp absent other mem
  simpa using tested

theorem byDedupeKey?_eq_some_iff {store : JobStore Payload Result} {dedupeKey : String}
    {job : AgentExecutionJob Payload Result} :
    store.byDedupeKey? dedupeKey = some job ↔ job ∈ store.jobs ∧ job.dedupeKey = dedupeKey := by
  constructor
  · intro found
    exact ⟨List.mem_of_find?_eq_some found, by
      simpa using List.find?_some found⟩
  · rintro ⟨mem, atKey⟩
    cases found : store.byDedupeKey? dedupeKey with
    | none =>
      exact absurd atKey (byDedupeKey?_eq_none found job mem)
    | some other =>
      have otherMem : other ∈ store.jobs :=
        List.mem_of_find?_eq_some found
      have otherKey : other.dedupeKey = dedupeKey := by
        simpa using List.find?_some found
      rw [store.dedupeKeysDistinct other otherMem job mem (otherKey.trans atKey.symm)]

def insertNewJob (store : JobStore Payload Result) (req : EnqueueRequest Payload) (now : Time)
    (absent : store.byDedupeKey? req.dedupeKey = none) :
    JobStore Payload Result :=
  store.commitInsert (newJob store.uuids req now) rfl rfl (byDedupeKey?_eq_none absent)

/-- `_enqueue_job`. The unique dedupe key decides a race of two inserts, and the loser returns
the winner's row. -/
def enqueueJob (store : JobStore Payload Result) (req : EnqueueRequest Payload) (now : Time) :
    JobStore Payload Result × Except ServiceError (AgentExecutionJob Payload Result) :=
  match found : store.byDedupeKey? req.dedupeKey with
  | some existing =>
    (store, .ok existing)
  | none =>
    if req.maxAttempts ≤ 0 then
      (store, .error (.integrity "ck_agent_execution_jobs_attempts"))
    else
      (insertNewJob store req now found, .ok (newJob store.uuids req now))

theorem enqueueJob_cases (store : JobStore Payload Result)
    (req : EnqueueRequest Payload) (now : Time) :
    (∃ existing, store.byDedupeKey? req.dedupeKey = some existing ∧
      enqueueJob store req now = (store, .ok existing)) ∨
    (∃ raised, enqueueJob store req now = (store, .error raised)) ∨
    (∃ absent : store.byDedupeKey? req.dedupeKey = none, 0 < req.maxAttempts ∧
      enqueueJob store req now = (insertNewJob store req now absent,
          .ok (newJob store.uuids req now))) := by
  unfold enqueueJob
  split
  · next existing found =>
      exact Or.inl ⟨existing, found, rfl⟩
  · next absent =>
      by_cases bound : req.maxAttempts ≤ 0
      · rw [if_pos bound]
        exact Or.inr (Or.inl ⟨_, rfl⟩)
      · rw [if_neg bound]
        exact Or.inr (Or.inr ⟨absent, by omega, rfl⟩)

theorem job?_insertNewJob (store : JobStore Payload Result) (req : EnqueueRequest Payload)
    (now : Time) (absent : store.byDedupeKey? req.dedupeKey = none) (jobId : Uuid) :
    (insertNewJob store req now absent).job? jobId =
      if store.uuids = jobId then some (newJob store.uuids req now)
      else store.job? jobId :=
  JobStore.job?_commitInsert store (newJob store.uuids req now) rfl rfl
    (byDedupeKey?_eq_none absent) jobId

theorem job?_enqueueJob_of_some {store : JobStore Payload Result} {jobId : Uuid}
    {job : AgentExecutionJob Payload Result} (found : store.job? jobId = some job)
    (req : EnqueueRequest Payload) (now : Time) :
    (enqueueJob store req now).1.job? jobId = some job := by
  rcases enqueueJob_cases store req now with
    ⟨existing, _, same⟩ | ⟨raised, same⟩ | ⟨absent, _, inserted⟩
  · rw [same]
    exact found
  · rw [same]
    exact found
  · have drawn := JobStore.job?_id_lt found
    rw [inserted, job?_insertNewJob, if_neg (Nat.ne_of_gt drawn)]
    exact found

theorem job?_enqueueJob {store : JobStore Payload Result} {jobId : Uuid}
    {req : EnqueueRequest Payload} {now : Time} {job : AgentExecutionJob Payload Result}
    (found : (enqueueJob store req now).1.job? jobId = some job) :
    store.job? jobId = some job ∨ (store.job? jobId = none ∧ jobId = store.uuids ∧
        0 < req.maxAttempts ∧ job = newJob store.uuids req now) := by
  rcases enqueueJob_cases store req now with
    ⟨existing, _, same⟩ | ⟨raised, same⟩ | ⟨absent, positive, inserted⟩
  · rw [same] at found
    exact Or.inl found
  · rw [same] at found
    exact Or.inl found
  · rw [inserted, job?_insertNewJob] at found
    split at found
    · next atNew =>
        subst atNew
        refine Or.inr ⟨?_, rfl, positive, (Option.some.inj found).symm⟩
        cases old : store.job? store.uuids with
        | none =>
          rfl
        | some row =>
          exact absurd (JobStore.job?_id_lt old) (Nat.lt_irrefl _)
    · exact Or.inl found

theorem uuids_le_enqueueJob (store : JobStore Payload Result)
    (req : EnqueueRequest Payload) (now : Time) :
    store.uuids ≤ (enqueueJob store req now).1.uuids := by
  rcases enqueueJob_cases store req now with
    ⟨existing, _, same⟩ | ⟨raised, same⟩ | ⟨absent, _, inserted⟩
  · exact Nat.le_of_eq (by rw [same])
  · exact Nat.le_of_eq (by rw [same])
  · rw [inserted]
    exact Nat.le_succ store.uuids

/-! ## Claiming -/

/-- The rows selected by `claim_agent_job`. -/
def claimable (now : Time) (job : AgentExecutionJob Payload Result) : Bool :=
  job.status = .queued && job.availableAt ≤ now && job.attemptCount < job.maxAttempts

/-- `order_by(priority, available_at, created_at)`. -/
def claimedBefore (left right : AgentExecutionJob Payload Result) : Bool :=
  left.priority < right.priority || (left.priority = right.priority &&
      (left.availableAt < right.availableAt || (left.availableAt = right.availableAt &&
          left.createdAt < right.createdAt)))

/-- The row that `claim_agent_job` takes, skipping `locked` rows. Rows that the order does not
separate come in any order: a choice among them is one of what is locked. -/
def selectQueued (store : JobStore Payload Result) (now : Time)
    (locked : Uuid → Bool) : Option (AgentExecutionJob Payload Result) :=
  firstInOrder claimedBefore (store.jobs.rows.filter
    (fun job => claimable now job && !locked job.id))

/-- The arguments of `claim_agent_job`, with its clock and the rows that others hold while it
recovers leases and while it selects. -/
structure ClaimRequest where
  workerId : String
  leaseSeconds : Int
  now : Time
  (lockedLeases lockedQueued : Uuid → Bool)

/-- The table after `_recover_expired_leases`. -/
def recoverExpiredLeases (store : JobStore Payload Result)
    (req : ClaimRequest) : JobStore Payload Result :=
  store.commitAll (recoverExpired req.now req.lockedLeases)

def leaseFor (req : ClaimRequest) (token : Uuid) (job : AgentExecutionJob Payload Result) :
    AgentExecutionJob Payload Result :=
  leaseJob (pyStrip req.workerId) token (boundedLease req.leaseSeconds) req.now job

def claimAgentJob (store : JobStore Payload Result) (req : ClaimRequest) :
    JobStore Payload Result × Except ServiceError (Option (AgentExecutionJob Payload Result)) :=
  if pyStrip req.workerId = "" then
    (store, .error (.domainValidation "worker_id is required"))
  else
    let recovered := recoverExpiredLeases store req
    match selectQueued recovered req.now req.lockedQueued with
    | none =>
      (recovered, .ok none)
    | some job =>
      (recovered.commitLease job.id (pyStrip req.workerId) (boundedLease req.leaseSeconds) req.now,
        .ok (some (leaseFor req recovered.uuids job)))

theorem selectQueued_eq_some {store : JobStore Payload Result} {now : Time} {locked : Uuid → Bool}
    {job : AgentExecutionJob Payload Result} (selected : selectQueued store now locked = some job) :
    store.job? job.id = some job ∧ job.status = .queued ∧ job.availableAt ≤ now ∧
      job.attemptCount < job.maxAttempts ∧ locked job.id = false := by
  have mem := firstInOrder_mem selected
  simp only [List.mem_filter, claimable, Bool.and_eq_true, decide_eq_true_eq,
    Bool.not_eq_true'] at mem
  obtain ⟨row, ⟨⟨queued, available⟩, remaining⟩, unlocked⟩ := mem
  exact ⟨JobStore.mem_jobs_iff.mp row, queued, available, remaining, unlocked⟩

/-- A claim raises and leaves the table, or recovers expired leases and leases one queued row or
none. -/
theorem claimAgentJob_cases (store : JobStore Payload Result) (req : ClaimRequest) :
    (∃ raised, claimAgentJob store req = (store, .error raised)) ∨
    claimAgentJob store req = (recoverExpiredLeases store req, .ok none) ∨
    (∃ job, selectQueued (recoverExpiredLeases store req) req.now req.lockedQueued = some job ∧
      claimAgentJob store req = ((recoverExpiredLeases store req).commitLease job.id
            (pyStrip req.workerId) (boundedLease req.leaseSeconds)
            req.now,
          .ok (some (leaseFor req store.uuids job)))) := by
  unfold claimAgentJob
  by_cases unnamed : pyStrip req.workerId = ""
  · rw [if_pos unnamed]
    exact Or.inl ⟨_, rfl⟩
  · rw [if_neg unnamed]
    cases selected : selectQueued (recoverExpiredLeases store req) req.now req.lockedQueued with
    | none =>
      exact Or.inr (Or.inl (by simp only [selected]))
    | some job =>
      exact Or.inr (Or.inr ⟨job, rfl, by simp only [selected]; rfl⟩)

theorem uuids_le_claimAgentJob (store : JobStore Payload Result) (req : ClaimRequest) :
    store.uuids ≤ (claimAgentJob store req).1.uuids := by
  rcases claimAgentJob_cases store req with
    ⟨raised, same⟩ | nothing | ⟨job, _, leased⟩
  · exact Nat.le_of_eq (by rw [same])
  · exact Nat.le_of_eq (by rw [nothing]; rfl)
  · rw [leased]
    exact Nat.le_succ store.uuids

/-! ## Heartbeat and requeue -/

def heartbeatAgentJob (store : JobStore Payload Result)
    (jobId leaseToken : Uuid) (leaseSeconds : Int) (now : Time) :
    JobStore Payload Result × Except ServiceError Unit :=
  match store.job? jobId with
  | none =>
    (store, .error (.domainValidation "agent job lease token is invalid"))
  | some job =>
    if job.leaseToken ≠ some leaseToken then
      (store, .error (.domainValidation "agent job lease token is invalid"))
    else if job.status.underLease = false then
      (store, .error (.domainValidation
        ("agent job cannot heartbeat from " ++ job.status.text)))
    else
      (store.commitRow jobId (heartbeatChange leaseSeconds now), .ok ())

theorem heartbeatAgentJob_cases (store : JobStore Payload Result)
    (jobId leaseToken : Uuid) (leaseSeconds : Int) (now : Time) :
    (∃ raised, heartbeatAgentJob store jobId leaseToken leaseSeconds now = (store, .error raised)) ∨
    (∃ job, store.job? jobId = some job ∧ job.leaseToken = some leaseToken ∧
      job.status.underLease = true ∧
      heartbeatAgentJob store jobId leaseToken leaseSeconds now =
        (store.commitRow jobId (heartbeatChange leaseSeconds now), .ok ())) := by
  unfold heartbeatAgentJob
  cases found : store.job? jobId with
  | none =>
    exact Or.inl ⟨_, rfl⟩
  | some job =>
    by_cases held : job.leaseToken = some leaseToken
    · cases lease : job.status.underLease with
      | false =>
        simp only [held, lease, ne_eq, not_true_eq_false, if_false, if_true]
        exact Or.inl ⟨_, rfl⟩
      | true =>
        exact Or.inr ⟨job, rfl, held, lease, by simp [held, lease]⟩
    · simp only [held, ne_eq, not_false_eq_true, if_true]
      exact Or.inl ⟨_, rfl⟩

@[simp]
theorem uuids_heartbeatAgentJob (store : JobStore Payload Result)
    (jobId leaseToken : Uuid) (leaseSeconds : Int) (now : Time) :
    (heartbeatAgentJob store jobId leaseToken leaseSeconds now).1.uuids =
      store.uuids := by
  rcases heartbeatAgentJob_cases store jobId leaseToken leaseSeconds now with
    ⟨raised, same⟩ | ⟨job, _, _, _, committed⟩
  · rw [same]
  · rw [committed]
    rfl

def maintenanceRoles : List String :=
  ["release manager", "ml ops lead", "sre lead", "admin", "system worker"]

def assertMaintenanceIdentity (lower : String → String)
    (identity : SignerIdentity) : Except ServiceError Unit :=
  let role := lower (pyStrip (identity.role.getD ""))
  if !identity.identityVerified || !maintenanceRoles.contains role then
    .error (.domainValidation
      ("Agent maintenance requires a verified Release Manager, ML Ops Lead, " ++
        "SRE Lead, Admin, or System Worker identity"))
  else .ok ()

/-- The arguments of `requeue_agent_job`. -/
structure RequeueRequest where
  jobId : Uuid
  reason : String
  signerIdentity : SignerIdentity
  maxAttempts : Option Int
  now : Time

def requeueAgentJob (env : JobEnvironment Payload)
    (store : JobStore Payload Result) (req : RequeueRequest) :
    JobStore Payload Result × Except ServiceError Unit :=
  match assertMaintenanceIdentity env.lower req.signerIdentity with
  | .error raised =>
    (store, .error raised)
  | .ok () =>
    if pyStrip req.reason = "" then
      (store, .error (.domainValidation "requeue reason is required"))
    else
      match store.job? req.jobId with
      | none =>
        (store, .error (.domainValidation
          "agent execution job was not found"))
      | some job =>
        if job.status ≠ .failed then
          (store, .error (.domainValidation
            ("agent job cannot requeue from " ++ job.status.text)))
        else
          (store.commitRow req.jobId (requeueChange (pyStrip req.reason) req.signerIdentity
              req.maxAttempts req.now), .ok ())

theorem requeueAgentJob_cases (env : JobEnvironment Payload)
    (store : JobStore Payload Result) (req : RequeueRequest) :
    (∃ raised, requeueAgentJob env store req = (store, .error raised)) ∨
    (∃ job, store.job? req.jobId = some job ∧ job.status = .failed ∧
      requeueAgentJob env store req = (store.commitRow req.jobId
          (requeueChange (pyStrip req.reason) req.signerIdentity
            req.maxAttempts req.now), .ok ())) := by
  unfold requeueAgentJob
  cases assertMaintenanceIdentity env.lower req.signerIdentity with
  | error raised =>
    exact Or.inl ⟨raised, rfl⟩
  | ok _ =>
    by_cases unreasoned : pyStrip req.reason = ""
    · simp only [if_pos unreasoned]
      exact Or.inl ⟨_, rfl⟩
    · cases found : store.job? req.jobId with
      | none =>
        simp only [if_neg unreasoned]
        exact Or.inl ⟨_, rfl⟩
      | some job =>
        by_cases failed : job.status = .failed
        · exact Or.inr ⟨job, rfl, failed, by
            simp only [if_neg unreasoned, ne_eq, failed, not_true_eq_false, if_false]⟩
        · simp only [if_neg unreasoned, ne_eq, failed, not_false_eq_true, if_true]
          exact Or.inl ⟨_, rfl⟩

@[simp]
theorem uuids_requeueAgentJob (env : JobEnvironment Payload)
    (store : JobStore Payload Result) (req : RequeueRequest) :
    (requeueAgentJob env store req).1.uuids = store.uuids := by
  rcases requeueAgentJob_cases env store req with
    ⟨raised, same⟩ | ⟨job, _, _, committed⟩
  · rw [same]
  · rw [committed]
    rfl

def getAgentJob (store : JobStore Payload Result) (jobId : Uuid) :
    Except ServiceError (AgentExecutionJob Payload Result) :=
  match store.job? jobId with
  | none => .error (.domainValidation "agent execution job was not found")
  | some job => .ok job

/-- The first read of `process_claimed_agent_job` and its check. -/
def readClaimedJob (store : JobStore Payload Result) (jobId leaseToken : Uuid) :
    Except ServiceError (AgentExecutionJob Payload Result) :=
  match getAgentJob store jobId with
  | .error raised => .error raised
  | .ok job =>
    if job.leaseToken ≠ some leaseToken ∨ job.status ≠ .leased then
      .error (.domainValidation "agent job is not held by this worker lease")
    else .ok job

theorem getAgentJob_eq_ok_iff {store : JobStore Payload Result} {jobId : Uuid}
    {job : AgentExecutionJob Payload Result} :
    getAgentJob store jobId = .ok job ↔ store.job? jobId = some job := by
  unfold getAgentJob
  cases store.job? jobId <;> simp

theorem readClaimedJob_eq_ok_iff {store : JobStore Payload Result} {jobId leaseToken : Uuid}
    {job : AgentExecutionJob Payload Result} :
    readClaimedJob store jobId leaseToken = .ok job ↔
      store.job? jobId = some job ∧ job.leaseToken = some leaseToken ∧ job.status = .leased := by
  unfold readClaimedJob getAgentJob
  cases found : store.job? jobId with
  | none =>
    simp
  | some row =>
    simp only [Option.some.injEq]
    split
    · next rejected =>
        constructor
        · intro impossible
          cases impossible
        · rintro ⟨rfl, held, leased⟩
          simp [held, leased] at rejected
    · next accepted =>
        simp only [ne_eq, not_or, not_not] at accepted
        constructor
        · intro same
          obtain rfl : row = job := by simpa using same
          exact ⟨rfl, accepted⟩
        · rintro ⟨rfl, _⟩
          rfl

theorem endChange_gives_up (env : JobEnvironment Payload) (outcome : Except ServiceError Result)
    (now : Time) (job : AgentExecutionJob Payload Result) :
    ((endChange env outcome now).apply job).leaseToken = none ∧
      ((endChange env outcome now).apply job).status.underLease = false ∧
      (((endChange env outcome now).apply job).status = .queued →
        ∃ raised, outcome = .error raised ∧ raised.isDomainValidation = false ∧
          job.attemptCount < job.maxAttempts) := by
  cases outcome with
  | ok res =>
    exact ⟨rfl, rfl, fun queued => by cases queued⟩
  | error raised =>
    simp only [endChange, failJob]
    split
    · exact ⟨rfl, rfl, fun queued => by cases queued⟩
    · next retried =>
        simp only [Bool.or_eq_true, decide_eq_true_eq, not_or,
          Bool.not_eq_true, Int.not_le] at retried
        exact ⟨rfl, rfl, fun _ => ⟨raised, rfl, retried⟩⟩

/-- The test of `_cancel_or_reject_active_job`: nothing to cancel, a queued job to cancel, or a
job under lease. -/
def cancelOrRejectActiveJob (lastJob : Option (AgentExecutionJob Payload Result)) :
    Except ServiceError (Option (AgentExecutionJob Payload Result)) :=
  match lastJob with
  | none => .ok none
  | some job =>
    if job.status.active = false then .ok none
    else if job.status.underLease then
      .error (.domainValidation
        "trust source schedule cannot change while a sync job is active")
    else .ok (some job)

theorem cancelOrRejectActiveJob_eq_some {lastJob : Option (AgentExecutionJob Payload Result)}
    {job : AgentExecutionJob Payload Result}
    (cancelled : cancelOrRejectActiveJob lastJob = .ok (some job)) :
    lastJob = some job ∧ job.status = .queued := by
  cases lastJob with
  | none =>
    simp [cancelOrRejectActiveJob] at cancelled
  | some row =>
    cases status : row.status <;>
      simp_all [cancelOrRejectActiveJob, JobStatus.active, JobStatus.underLease]

end ModelAtlas.Jobs
