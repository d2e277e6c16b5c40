import ModelAtlas.Jobs.Workers

/-!
# Jobs that no query picks up again

A job is stranded when no query will select it again. Transactions that lock
their row strand no job; the three commits that follow an unlocked read do when
the row has changed in between.
-/

namespace ModelAtlas.Jobs

open Foundations QueueState

variable {Payload Result : Type}

/-- Every query that is to pick the job up selects it. -/
structure NotStranded (job : AgentExecutionJob Payload Result) : Prop where
  underLease : job.status = .leased ∨ job.status = .running →
    job.leaseToken ≠ none ∧ job.leaseExpiresAt ≠ none
  queued : job.status = .queued → job.attemptCount < job.maxAttempts
  ended : job.status = .completed ∨ job.status = .failed ∨
    job.status = .cancelled → job.leaseToken = none

/-- What the transactions keep of a row: it has a token exactly while it is
under lease. -/
structure RowInvariant (job : AgentExecutionJob Payload Result) : Prop where
  leased : job.status.underLease = true →
    job.leaseToken ≠ none ∧ job.leaseExpiresAt ≠ none
  unleased : job.status.underLease = false → job.leaseToken = none
  queued : job.status = .queued → job.attemptCount < job.maxAttempts
  maxPositive : 0 < job.maxAttempts

/-- The commits of unlocked reads find the row under lease, or under none, as they read it, and
with attempts left where the read saw some. -/
def FindsReadLease (state : QueueState Payload Result) : QueueAction Payload Result → Prop
  | .start worker =>
    ∀ token loaded row, state.worker worker = .checked token loaded →
      state.store.job? loaded.id = some row → row.leaseToken ≠ none
  | .finish worker _ =>
    ∀ token loaded outcome row, state.worker worker = .ended token loaded outcome →
      state.store.job? loaded.id = some row → (loaded.leaseToken = none → row.leaseToken = none) ∧
        (∀ raised, outcome = .error raised → raised.isDomainValidation = false →
          loaded.attemptCount < loaded.maxAttempts → row.attemptCount < row.maxAttempts)
  | .cancel scheduler _ =>
    ∀ loaded row, state.cancelling scheduler = some loaded →
      state.store.job? loaded.id = some row → row.leaseToken = none
  | _ => True

namespace RowInvariant

variable {job loaded row : AgentExecutionJob Payload Result}

theorem notStranded (inv : RowInvariant job) : NotStranded job where
  underLease lease := by
    apply inv.leased
    rcases lease with status | status <;> rw [status] <;> rfl
  queued := inv.queued
  ended ended := by
    apply inv.unleased
    rcases ended with status | status | status <;> rw [status] <;> rfl

theorem newJob (id : Uuid) (req : EnqueueRequest Payload) (now : Time)
    (positive : 0 < req.maxAttempts) :
    RowInvariant (newJob id req now : AgentExecutionJob Payload Result) where
  leased lease := by cases lease
  unleased _ := rfl
  queued _ := positive
  maxPositive := positive

theorem recoverExpired (inv : RowInvariant job) (now : Time) (locked : Uuid → Bool) :
    RowInvariant ((recoverExpired now locked).apply job) := by
  simp only [Jobs.recoverExpired, recoverJob]
  split_ifs with selected exhausted
  · exact {
      leased := fun lease => by cases lease
      unleased := fun _ => rfl
      queued := fun queued => by cases queued
      maxPositive := inv.maxPositive }
  · exact {
      leased := fun lease => by cases lease
      unleased := fun _ => rfl
      queued := fun _ => Int.not_le.mp exhausted
      maxPositive := inv.maxPositive }
  · exact inv

theorem leaseJob (inv : RowInvariant job)
    (worker : String) (token : Uuid) (lease : Int) (now : Time) :
    RowInvariant (leaseJob worker token lease now job) where
  leased _ := ⟨Option.some_ne_none token, Option.some_ne_none (now + lease)⟩
  unleased unleased := by cases unleased
  queued queued := by cases queued
  maxPositive := inv.maxPositive

theorem heartbeatChange (inv : RowInvariant job) (leaseSeconds : Int) (now : Time) :
    RowInvariant ((heartbeatChange leaseSeconds now).apply job) where
  leased lease := ⟨(inv.leased lease).1, Option.some_ne_none _⟩
  unleased := inv.unleased
  queued := inv.queued
  maxPositive := inv.maxPositive

theorem requeueChange (inv : RowInvariant job) (reason : String)
    (identity : SignerIdentity) (maxAttempts : Option Int) (now : Time) :
    RowInvariant ((requeueChange reason identity maxAttempts now).apply job) := by
  have positive : 0 < ((Jobs.requeueChange reason identity maxAttempts now).apply
        job).maxAttempts := by
    cases maxAttempts with
    | none =>
      exact inv.maxPositive
    | some requested =>
      have atLeastOne : (1 : Int) ≤ max 1 (min requested 10) := le_max_left _ _
      exact Int.lt_of_lt_of_le Int.zero_lt_one atLeastOne
  exact {
    leased := fun lease => by cases lease
    unleased := fun _ => rfl
    queued := fun _ => positive
    maxPositive := positive }

section Flush

variable [DecidableEq Result]

theorem start (inv : RowInvariant row) (held : row.leaseToken ≠ none) :
    RowInvariant ((startChange.flushed loaded).apply row) := by
  have lease : row.status.underLease = true := by
    cases status : row.status.underLease with
    | true => rfl
    | false => exact absurd (inv.unleased status) held
  have status : ((startChange.flushed loaded).apply row).status.underLease =
      true := by
    simp only [JobChange.flushed, flushRow_status]
    rcases flushColumn_cases loaded.status (startChange.apply loaded).status
        row.status with ⟨_, kept⟩ | ⟨_, written⟩
    · rw [kept]
      exact lease
    · rw [written]
      rfl
  refine ⟨fun _ => ?_, fun unleased => ?_, fun queued => ?_, inv.maxPositive⟩
  · simpa [JobChange.flushed, flushRow, startChange] using inv.leased lease
  · rw [status] at unleased
    cases unleased
  · rw [queued] at status
    cases status

theorem cancel (inv : RowInvariant row) (now : Time) (unheld : row.leaseToken = none) :
    RowInvariant (((cancelChange now).flushed loaded).apply row) := by
  have token : (((cancelChange now).flushed loaded).apply row).leaseToken =
      none := by
    simpa [JobChange.flushed, cancelChange] using unheld
  have unleased : row.status.underLease = false := by
    cases status : row.status.underLease with
    | false => rfl
    | true => exact absurd unheld (inv.leased status).1
  have status : (((cancelChange now).flushed loaded).apply row).status = row.status ∨
        (((cancelChange now).flushed loaded).apply row).status = .cancelled := by
    simp only [JobChange.flushed, flushRow_status]
    rcases flushColumn_cases loaded.status ((cancelChange now).apply loaded).status row.status with
      ⟨_, kept⟩ | ⟨_, written⟩
    · exact Or.inl kept
    · exact Or.inr written
  refine ⟨fun lease => ?_, fun _ => token, fun queued => ?_, inv.maxPositive⟩
  · rcases status with kept | written
    · rw [kept, unleased] at lease
      cases lease
    · rw [written] at lease
      cases lease
  · rcases status with kept | written
    · exact inv.queued (kept ▸ queued)
    · rw [written] at queued
      cases queued

theorem finish (env : JobEnvironment Payload) (outcome : Except ServiceError Result) (now : Time)
    (inv : RowInvariant row) (loadedInvariant : RowInvariant loaded)
    (noNewLease : loaded.leaseToken = none → row.leaseToken = none)
    (attemptsLeft : ∀ raised, outcome = .error raised → raised.isDomainValidation = false →
      loaded.attemptCount < loaded.maxAttempts → row.attemptCount < row.maxAttempts) :
    RowInvariant (((endChange env outcome now).flushed loaded).apply row) := by
  obtain ⟨tokenNone, statusUnleased, requeued⟩ :=
    endChange_gives_up env outcome now loaded
  have token : (((endChange env outcome now).flushed loaded).apply row).leaseToken = none := by
    simp only [JobChange.flushed, flushRow_leaseToken]
    rcases flushColumn_cases loaded.leaseToken ((endChange env outcome now).apply loaded).leaseToken
        row.leaseToken with ⟨same, kept⟩ | ⟨_, written⟩
    · rw [kept]
      exact noNewLease (same.symm.trans tokenNone)
    · rw [written]
      exact tokenNone
  -- A status that is not written was read unleased, so the row is unleased too.
  have rowUnleased : ((endChange env outcome now).apply loaded).status =
      loaded.status → row.status.underLease = false := by
    intro same
    have loadedNone : loaded.leaseToken = none :=
      loadedInvariant.unleased (same ▸ statusUnleased)
    cases status : row.status.underLease with
    | false =>
      rfl
    | true =>
      exact absurd (noNewLease loadedNone) (inv.leased status).1
  rcases flushColumn_cases loaded.status
      ((endChange env outcome now).apply loaded).status row.status with
    ⟨same, kept⟩ | ⟨_, written⟩
  · have status : (((endChange env outcome now).flushed loaded).apply
        row).status = row.status := kept
    refine ⟨fun lease => ?_, fun _ => token, fun queued => ?_, inv.maxPositive⟩
    · rw [status, rowUnleased same] at lease
      cases lease
    · exact inv.queued (status ▸ queued)
  · have status : (((endChange env outcome now).flushed loaded).apply row).status =
          ((endChange env outcome now).apply loaded).status := written
    refine ⟨fun lease => ?_, fun _ => token, fun queued => ?_, inv.maxPositive⟩
    · rw [status, statusUnleased] at lease
      cases lease
    · obtain ⟨raised, failed, retryable, remaining⟩ :=
        requeued (status ▸ queued)
      exact attemptsLeft raised failed retryable remaining

end Flush

end RowInvariant

structure StrandingInvariant (state : QueueState Payload Result) : Prop where
  rows : ∀ jobId row, state.store.job? jobId = some row → RowInvariant row
  loadedRows : ∀ worker loaded,
    (state.worker worker).loaded? = some loaded → RowInvariant loaded

namespace StrandingInvariant

variable {state : QueueState Payload Result}

theorem initial : StrandingInvariant (QueueState.initial : QueueState Payload Result) where
  rows := by simp [QueueState.initial]
  loadedRows := by simp [QueueState.initial, WorkerPhase.loaded?]

theorem withStore (inv : StrandingInvariant state) {store : JobStore Payload Result}
    (rows : ∀ jobId row, store.job? jobId = some row → RowInvariant row) :
    StrandingInvariant (state.withStore store) :=
  ⟨rows, inv.loadedRows⟩

theorem setWorker (inv : StrandingInvariant state)
    {worker : Nat} {phase : WorkerPhase Payload Result}
    (loadedRow : ∀ loaded, phase.loaded? = some loaded → RowInvariant loaded) :
    StrandingInvariant (state.setWorker worker phase) where
  rows := inv.rows
  loadedRows other loaded read := by
    by_cases same : other = worker
    · subst other
      rw [setWorker_worker_self] at read
      exact loadedRow loaded read
    · rw [setWorker_worker_of_ne state phase same] at read
      exact inv.loadedRows other loaded read

theorem commitRow (inv : StrandingInvariant state)
    {wanted : Uuid} {change : JobChange Payload Result}
    (changed : ∀ row, state.store.job? wanted = some row → RowInvariant row →
      RowInvariant (change.apply row)) :
    ∀ jobId row, (state.store.commitRow wanted change).job? jobId = some row →
      RowInvariant row := by
  intro jobId row found
  rw [JobStore.job?_commitRow] at found
  split at found
  · next atWanted =>
      subst jobId
      obtain ⟨old, oldFound, rfl⟩ := Option.map_eq_some_iff.mp found
      exact changed old oldFound (inv.rows wanted old oldFound)
  · exact inv.rows jobId row found

theorem enqueueJob (inv : StrandingInvariant state) (req : EnqueueRequest Payload) (now : Time) :
    ∀ jobId row, (enqueueJob state.store req now).1.job? jobId = some row → RowInvariant row := by
  intro jobId row found
  rcases job?_enqueueJob found with old | ⟨_, _, positive, rfl⟩
  · exact inv.rows jobId row old
  · exact RowInvariant.newJob _ req now positive

theorem claimAgentJob (inv : StrandingInvariant state) (req : ClaimRequest) :
    ∀ jobId row, (claimAgentJob state.store req).1.job? jobId = some row → RowInvariant row := by
  have recovered : ∀ jobId row, (recoverExpiredLeases state.store req).job? jobId = some row →
        RowInvariant row := by
    intro jobId row found
    rw [recoverExpiredLeases, JobStore.job?_commitAll] at found
    obtain ⟨old, oldFound, rfl⟩ := Option.map_eq_some_iff.mp found
    exact (inv.rows jobId old oldFound).recoverExpired _ _
  intro jobId row found
  rcases claimAgentJob_cases state.store req with
    ⟨raised, same⟩ | nothing | ⟨job, _, leased⟩
  · rw [same] at found
    exact inv.rows jobId row found
  · rw [nothing] at found
    exact recovered jobId row found
  · rw [leased, JobStore.job?_commitLease] at found
    split at found
    · obtain ⟨old, oldFound, rfl⟩ := Option.map_eq_some_iff.mp found
      exact (recovered jobId old oldFound).leaseJob _ _ _ _
    · exact recovered jobId row found

end StrandingInvariant

section Runs

variable [DecidableEq Result] {env : JobEnvironment Payload}
  {before after : QueueState Payload Result}

theorem strandingInvariant_step {action : QueueAction Payload Result}
    (inv : StrandingInvariant before)
    (finds : FindsReadLease before action)
    (taken : Step env before action after) :
    StrandingInvariant after := by
  have noneLoaded : ∀ phase : WorkerPhase Payload Result,
      phase.loaded? = none → ∀ loaded, phase.loaded? = some loaded → RowInvariant loaded := by
    intro phase absent loaded present
    rw [absent] at present
    cases present
  cases action with
  | enqueue req now =>
    obtain rfl := Option.some.inj taken
    exact inv.withStore (inv.enqueueJob req now)
  | claim worker req =>
    obtain ⟨_, rfl⟩ := next_claim taken
    refine (inv.withStore (inv.claimAgentJob req)).setWorker (noneLoaded _ ?_)
    rcases claimAgentJob_cases before.store req with
      ⟨raised, same⟩ | nothing | ⟨job, _, leased⟩
    · rw [same]
      rfl
    · rw [nothing]
      rfl
    · rw [leased]
      rfl
  | heartbeat jobId token leaseSeconds now =>
    obtain rfl := Option.some.inj taken
    apply inv.withStore
    rcases heartbeatAgentJob_cases before.store jobId token leaseSeconds now
      with ⟨raised, same⟩ | ⟨job, _, _, _, committed⟩
    · rw [same]
      exact inv.rows
    · rw [committed]
      exact inv.commitRow (fun row _ held => held.heartbeatChange leaseSeconds now)
  | requeue req =>
    obtain rfl := Option.some.inj taken
    apply inv.withStore
    rcases requeueAgentJob_cases env before.store req with
      ⟨raised, same⟩ | ⟨job, _, _, committed⟩
    · rw [same]
      exact inv.rows
    · rw [committed]
      exact inv.commitRow (fun row _ held => held.requeueChange _ _ _ _)
  | read worker =>
    obtain ⟨jobId, token, _, rfl⟩ := next_read taken
    cases read : readClaimedJob before.store jobId token with
    | error raised =>
      exact inv.setWorker (noneLoaded _ rfl)
    | ok loaded =>
      apply inv.setWorker
      rintro _ ⟨⟩
      exact inv.rows jobId loaded (readClaimedJob_eq_ok_iff.mp read).1
  | start worker =>
    obtain ⟨token, loaded, checked, rfl⟩ := next_start taken
    refine StrandingInvariant.setWorker (inv.withStore (inv.commitRow ?_)) (noneLoaded _ rfl)
    intro row found held
    exact held.start (finds token loaded row checked found)
  | observe worker outcome =>
    obtain ⟨jobId, token, _, rfl⟩ := next_observe taken
    cases read : getAgentJob before.store jobId with
    | error raised =>
      exact inv.setWorker (noneLoaded _ rfl)
    | ok loaded =>
      apply inv.setWorker
      rintro _ ⟨⟩
      exact inv.rows jobId loaded (getAgentJob_eq_ok_iff.mp read)
  | finish worker now =>
    obtain ⟨token, loaded, outcome, ended, rfl⟩ := next_finish taken
    refine StrandingInvariant.setWorker (inv.withStore (inv.commitRow ?_)) (noneLoaded _ rfl)
    intro row found held
    have loadedInvariant : RowInvariant loaded :=
      inv.loadedRows worker loaded (by rw [ended]; rfl)
    obtain ⟨noNewLease, attemptsLeft⟩ :=
      finds token loaded outcome row ended found
    exact held.finish env outcome now loadedInvariant noNewLease attemptsLeft
  | crash worker =>
    obtain rfl := Option.some.inj taken
    exact inv.setWorker (noneLoaded _ rfl)
  | readCancel scheduler lastJobId =>
    rcases next_readCancel taken with rfl | ⟨loaded, _, _, rfl⟩
    · exact ⟨inv.rows, inv.loadedRows⟩
    · exact ⟨inv.rows, inv.loadedRows⟩
  | cancel scheduler now =>
    obtain ⟨loaded, cancelling, rfl⟩ := next_cancel taken
    refine ⟨inv.commitRow ?_, inv.loadedRows⟩
    intro row found held
    exact held.cancel now (finds loaded row cancelling found)

/-- In every run whose commits find what their unlocked reads saw, no job is
stranded in any state reached. -/
theorem notStranded_of_execution {actions : List (QueueAction Payload Result)}
    (exec : Execution (Guarded FindsReadLease (Step env)) QueueState.initial actions after)
    {jobId : Uuid} {job : AgentExecutionJob Payload Result}
    (found : after.store.job? jobId = some job) :
    NotStranded job := by
  have inv : StrandingInvariant after :=
    exec.invariant StrandingInvariant StrandingInvariant.initial
      (fun _ _ _ held step => strandingInvariant_step held step.1 step.2)
  exact (inv.rows jobId job found).notStranded

end Runs

def completedActions : List (QueueAction Unit Nat) :=
  [.enqueue reconciliationRequest 0, .claim 0 (claimAt 0), .read 0, .start 0]

def startedJob : QueueState Unit Nat :=
  (perform (next plainEnvironment) initial completedActions).get (by rfl)

theorem completedActions_findReadLease : MeetsGuard FindsReadLease (next plainEnvironment) initial
      completedActions := by
  refine ⟨trivial, fun enqueued takenEnqueue => ⟨trivial,
    fun claimed takenClaim => ⟨trivial, fun checked takenRead => ⟨?_, fun _ _ => trivial⟩⟩⟩⟩
  obtain rfl := Option.some.inj takenEnqueue
  obtain rfl := Option.some.inj takenClaim
  obtain rfl := Option.some.inj takenRead
  intro token loaded row phase found
  obtain ⟨-, rfl⟩ := WorkerPhase.checked.inj phase
  obtain rfl := Option.some.inj found
  exact Option.some_ne_none _

theorem notStranded_of_execution_started : NotStranded ((startedJob.store.job? 0).get (by rfl)) :=
  notStranded_of_execution (Execution.of_perform_guarded (Option.some_get _).symm
      completedActions_findReadLease)
    (Option.some_get _).symm

def singleAttemptRequest : EnqueueRequest Unit :=
  { reconciliationRequest with
    jobType := .trustSourceSync
    dedupeKey := "trust-source-sync:1:run:1"
    maxAttempts := 1 }

def recoveredStartActions : List (QueueAction Unit Nat) :=
  [.enqueue singleAttemptRequest 0, .claim 0 (claimAt 0), .read 0, .claim 1 (claimAt 400), .start 0]

def recoveredStart : QueueState Unit Nat :=
  (perform (next plainEnvironment) initial recoveredStartActions).get (by rfl)

/-- The worker's read found its lease, the recovery dead-lettered the job, and the commit leaves
it running without a lease. -/
theorem recoveredStart_strands_job :
    ¬ ∀ (actions : List (QueueAction Unit Nat)) (after : QueueState Unit Nat)
        (jobId : Uuid) (job : AgentExecutionJob Unit Nat),
      Execution (Step plainEnvironment) QueueState.initial actions after →
        after.store.job? jobId = some job → NotStranded job := by
  intro notStranded
  have exec : Execution (Step plainEnvironment) QueueState.initial
        recoveredStartActions recoveredStart :=
    Execution.of_perform (Option.some_get _).symm
  have job := notStranded recoveredStartActions recoveredStart 0
    ((recoveredStart.store.job? 0).get (by rfl)) exec
    (Option.some_get _).symm
  exact (job.underLease (Or.inr (by rfl))).1 (by rfl)

end ModelAtlas.Jobs
