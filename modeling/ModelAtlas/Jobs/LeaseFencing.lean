import ModelAtlas.Jobs.Workers

/-!
# Lease fencing

The two commits of `process_claimed_agent_job` do not compare the lease token.
They are fenced as long as no claim recovers the lease of a job that a worker is
still processing.
-/

namespace ModelAtlas.Jobs

open Foundations QueueState

variable {Payload Result : Type}

/-- The commits that `process_claimed_agent_job` makes. -/
def QueueAction.commitsOf (worker : Nat) : QueueAction Payload Result → Prop
  | .start committing => committing = worker
  | .finish committing _ => committing = worker
  | _ => False

/-- A commit of `process_claimed_agent_job` changes a row only if the worker's
lease token is still the row's. -/
def Fenced (before : QueueState Payload Result) (action : QueueAction Payload Result)
    (after : QueueState Payload Result) : Prop :=
  ∀ worker, action.commitsOf worker → ∀ jobId, after.store.job? jobId ≠ before.store.job? jobId →
      ∃ token row, (before.worker worker).token? = some token ∧
        before.store.job? jobId = some row ∧ row.leaseToken = some token

/-- A claim does not recover a lease under which a worker is processing: it has not expired, or
the row is locked. -/
def SparesLeaseOf (jobId : Uuid) (state : QueueState Payload Result) :
    QueueAction Payload Result → Prop
  | .claim _ req =>
    pyStrip req.workerId ≠ "" →
      ∀ worker token row, (state.worker worker).processing = some (jobId, token) →
        state.store.job? jobId = some row → row.leaseToken = some token →
        leaseExpired req.now row = true → req.lockedLeases jobId = true
  | _ => True

/-- A claim recovers no lease under which a worker is still processing. -/
def SparesProcessedLeases (state : QueueState Payload Result)
    (action : QueueAction Payload Result) : Prop :=
  ∀ jobId, SparesLeaseOf jobId state action

/-- The row is under the worker's token, and no claim or requeue takes it. -/
def Holds (store : JobStore Payload Result) (jobId token : Uuid) : Prop :=
  ∃ row, store.job? jobId = some row ∧ row.leaseToken = some token ∧
    row.status ≠ .queued ∧ row.status ≠ .failed

namespace Holds

variable {store : JobStore Payload Result} {jobId token : Uuid}

theorem after_enqueue (held : Holds store jobId token) (req : EnqueueRequest Payload) (now : Time) :
    Holds (enqueueJob store req now).1 jobId token := by
  obtain ⟨row, found, kept⟩ := held
  exact ⟨row, job?_enqueueJob_of_some found req now, kept⟩

theorem after_commitRow (held : Holds store jobId token)
    (wanted : Uuid) (change : JobChange Payload Result)
    (keeps : wanted = jobId → ∀ row, store.job? jobId = some row → row.leaseToken = some token →
        (change.apply row).leaseToken = some token ∧ (change.apply row).status ≠ .queued ∧
            (change.apply row).status ≠ .failed) :
    Holds (store.commitRow wanted change) jobId token := by
  obtain ⟨row, found, tokens, statuses⟩ := held
  by_cases same : jobId = wanted
  · have kept := keeps same.symm row found tokens
    refine ⟨change.apply row, ?_, kept⟩
    rw [JobStore.job?_commitRow, if_pos same, found, Option.map_some]
  · refine ⟨row, ?_, tokens, statuses⟩
    rw [JobStore.job?_commitRow, if_neg same]
    exact found

theorem after_commitLoaded [DecidableEq Result] (held : Holds store jobId token)
    (loaded : AgentExecutionJob Payload Result)
    (change : JobChange Payload Result)
    (tokenKept : (change.apply loaded).leaseToken = loaded.leaseToken)
    (notQueued : (change.apply loaded).status ≠ .queued)
    (notFailed : (change.apply loaded).status ≠ .failed) :
    Holds (store.commitLoaded loaded change) jobId token := by
  apply held.after_commitRow
  rintro - other otherFound tokens
  obtain ⟨row, found, _, rowNotQueued, rowNotFailed⟩ := held
  obtain rfl : row = other := Option.some.inj (found.symm.trans otherFound)
  refine ⟨?_, flushColumn_ne notQueued rowNotQueued, flushColumn_ne notFailed rowNotFailed⟩
  simpa [JobChange.flushed, flushRow, tokenKept] using tokens

theorem after_heartbeat (held : Holds store jobId token)
    (wanted presented : Uuid) (leaseSeconds : Int) (now : Time) :
    Holds (heartbeatAgentJob store wanted presented leaseSeconds now).1 jobId token := by
  rcases heartbeatAgentJob_cases store wanted presented leaseSeconds now with
    ⟨raised, same⟩ | ⟨job, found, _, lease, committed⟩
  · rw [same]
    exact held
  · rw [committed]
    apply held.after_commitRow
    rintro rfl row rowFound tokens
    obtain rfl : job = row := Option.some.inj (found.symm.trans rowFound)
    refine ⟨tokens, ?_, ?_⟩
    · intro queued
      have queuedBefore : job.status = .queued := queued
      simp [queuedBefore, JobStatus.underLease] at lease
    · intro failed
      have failedBefore : job.status = .failed := failed
      simp [failedBefore, JobStatus.underLease] at lease

theorem after_requeue (held : Holds store jobId token)
    (env : JobEnvironment Payload) (req : RequeueRequest) :
    Holds (requeueAgentJob env store req).1 jobId token := by
  rcases requeueAgentJob_cases env store req with
    ⟨raised, same⟩ | ⟨job, found, failed, committed⟩
  · rw [same]
    exact held
  · rw [committed]
    obtain ⟨row, rowFound, tokens, notQueued, notFailed⟩ := held
    apply after_commitRow ⟨row, rowFound, tokens, notQueued, notFailed⟩
    rintro rfl _ _ _
    obtain rfl : job = row := Option.some.inj (found.symm.trans rowFound)
    exact absurd failed notFailed

theorem after_claim (held : Holds store jobId token) (req : ClaimRequest)
    (spared : pyStrip req.workerId ≠ "" →
      ∀ row, store.job? jobId = some row → row.leaseToken = some token →
        leaseExpired req.now row = true → req.lockedLeases jobId = true) :
    Holds (claimAgentJob store req).1 jobId token := by
  by_cases unnamed : pyStrip req.workerId = ""
  · unfold claimAgentJob
    rw [if_pos unnamed]
    exact held
  obtain ⟨row, found, tokens, notQueued, notFailed⟩ := held
  have recoveredRow : (recoverExpiredLeases store req).job? jobId = some row := by
    rw [recoverExpiredLeases, JobStore.job?_commitAll, found, Option.map_some]
    simp only [recoverExpired, JobStore.job?_id found]
    cases expired : leaseExpired req.now row with
    | false =>
      simp
    | true =>
      simp [spared unnamed row found tokens expired]
  have recovered : Holds (recoverExpiredLeases store req) jobId token :=
    ⟨row, recoveredRow, tokens, notQueued, notFailed⟩
  rcases claimAgentJob_cases store req with
    ⟨raised, same⟩ | nothing | ⟨job, selected, leased⟩
  · rw [same]
    exact ⟨row, found, tokens, notQueued, notFailed⟩
  · rw [nothing]
    exact recovered
  · rw [leased]
    obtain ⟨jobFound, queued, _⟩ := selectQueued_eq_some selected
    have otherId : jobId ≠ job.id := by
      rintro rfl
      obtain rfl : row = job := Option.some.inj (recoveredRow.symm.trans jobFound)
      exact notQueued queued
    refine ⟨row, ?_, tokens, notQueued, notFailed⟩
    rw [JobStore.job?_commitLease, if_neg otherId]
    exact recoveredRow

theorem token_unique {other : Uuid}
    (held : Holds store jobId token) (heldOther : Holds store jobId other) :
    token = other := by
  obtain ⟨row, found, tokens, _⟩ := held
  obtain ⟨rowOther, foundOther, tokensOther, _⟩ := heldOther
  obtain rfl : row = rowOther := Option.some.inj (found.symm.trans foundOther)
  exact Option.some.inj (tokens.symm.trans tokensOther)

end Holds

/-- Tokens of workers were drawn, no two workers have one token, and the job is
held by the worker that is processing it. -/
structure FencingInvariant (jobId : Uuid)
    (state : QueueState Payload Result) : Prop where
  tokensDrawn : ∀ worker token,
    (state.worker worker).token? = some token → token < state.store.uuids
  tokensDistinct : ∀ left right token,
    (state.worker left).token? = some token →
      (state.worker right).token? = some token → left = right
  held : ∀ worker token,
    (state.worker worker).processing = some (jobId, token) →
      Holds state.store jobId token

namespace FencingInvariant

variable {jobId : Uuid} {state : QueueState Payload Result}

theorem initial : FencingInvariant jobId (QueueState.initial : QueueState Payload Result) where
  tokensDrawn := by simp [QueueState.initial, WorkerPhase.token?]
  tokensDistinct := by simp [QueueState.initial, WorkerPhase.token?]
  held := by simp [QueueState.initial, WorkerPhase.processing]

theorem withStore (inv : FencingInvariant jobId state) {store : JobStore Payload Result}
    (uuidsGrow : state.store.uuids ≤ store.uuids)
    (keeps : ∀ token, Holds state.store jobId token → Holds store jobId token) :
    FencingInvariant jobId (state.withStore store) where
  tokensDrawn worker token tokened :=
    Nat.lt_of_lt_of_le (inv.tokensDrawn worker token tokened) uuidsGrow
  tokensDistinct := inv.tokensDistinct
  held worker token processed :=
    keeps token (inv.held worker token processed)

/-- A step of one worker keeps the invariant when the worker keeps its token or gets a new one
and its job is still held. -/
theorem setWorker (inv : FencingInvariant jobId state)
    {store : JobStore Payload Result} {worker : Nat}
    {phase : WorkerPhase Payload Result}
    (uuidsGrow : state.store.uuids ≤ store.uuids)
    (tokenKept : ∀ token, phase.token? = some token → (state.worker worker).token? = some token ∨
        (state.store.uuids ≤ token ∧ token < store.uuids))
    (heldOthers : ∀ other, other ≠ worker → ∀ token,
      (state.worker other).processing = some (jobId, token) → Holds store jobId token)
    (heldSelf : ∀ token, phase.processing = some (jobId, token) → Holds store jobId token) :
    FencingInvariant jobId ((state.withStore store).setWorker worker phase) := by
  have atWorker : ((state.withStore store).setWorker worker phase).worker worker = phase :=
    setWorker_worker_self ..
  have atOther : ∀ other, other ≠ worker →
      ((state.withStore store).setWorker worker phase).worker other = state.worker other :=
    fun other different => setWorker_worker_of_ne _ _ different
  -- Another worker's token was drawn earlier, so it is not the new one.
  have tokenFresh : ∀ other token, other ≠ worker → phase.token? = some token →
        (state.worker other).token? = some token → False := by
    intro other token different ofPhase ofOther
    rcases tokenKept token ofPhase with kept | ⟨fresh, _⟩
    · exact different (inv.tokensDistinct other worker token ofOther kept)
    · exact absurd (inv.tokensDrawn other token ofOther) (Nat.not_lt.mpr fresh)
  constructor
  · intro other token tokened
    by_cases same : other = worker
    · subst other
      rw [atWorker] at tokened
      rcases tokenKept token tokened with kept | ⟨_, drawn⟩
      · exact Nat.lt_of_lt_of_le (inv.tokensDrawn _ token kept) uuidsGrow
      · exact drawn
    · rw [atOther other same] at tokened
      exact Nat.lt_of_lt_of_le (inv.tokensDrawn other token tokened) uuidsGrow
  · intro left right token ofLeft ofRight
    by_cases leftSame : left = worker
    · by_cases rightSame : right = worker
      · rw [leftSame, rightSame]
      · subst left
        rw [atWorker] at ofLeft
        rw [atOther right rightSame] at ofRight
        exact (tokenFresh right token rightSame ofLeft ofRight).elim
    · rw [atOther left leftSame] at ofLeft
      by_cases rightSame : right = worker
      · subst right
        rw [atWorker] at ofRight
        exact (tokenFresh left token leftSame ofRight ofLeft).elim
      · rw [atOther right rightSame] at ofRight
        exact inv.tokensDistinct left right token ofLeft ofRight
  · intro other token processed
    by_cases same : other = worker
    · subst other
      rw [atWorker] at processed
      exact heldSelf token processed
    · rw [atOther other same] at processed
      exact heldOthers other same token processed

theorem setWorkerOnly (inv : FencingInvariant jobId state)
    {worker : Nat} {phase : WorkerPhase Payload Result}
    (tokenKept : ∀ token, phase.token? = some token → (state.worker worker).token? = some token)
    (heldSelf : ∀ token, phase.processing = some (jobId, token) → Holds state.store jobId token) :
    FencingInvariant jobId (state.setWorker worker phase) :=
  inv.setWorker (Nat.le_refl _) (fun token tokened => Or.inl (tokenKept token tokened))
    (fun other _ token processed => inv.held other token processed) heldSelf

theorem worker_unique (inv : FencingInvariant jobId state)
    {left right : Nat} {leftToken rightToken : Uuid}
    (ofLeft : (state.worker left).processing = some (jobId, leftToken))
    (ofRight : (state.worker right).processing = some (jobId, rightToken)) :
    left = right := by
  have sameToken : leftToken = rightToken :=
    (inv.held left leftToken ofLeft).token_unique (inv.held right rightToken ofRight)
  subst rightToken
  exact inv.tokensDistinct left right leftToken (WorkerPhase.token?_of_processing ofLeft)
    (WorkerPhase.token?_of_processing ofRight)

theorem held_after_commitLoaded [DecidableEq Result] (inv : FencingInvariant jobId state)
    {worker : Nat} {loaded : AgentExecutionJob Payload Result} {token : Uuid}
    (processed : (state.worker worker).processing = some (loaded.id, token))
    (change : JobChange Payload Result)
    (other : Nat) (different : other ≠ worker) (otherToken : Uuid)
    (otherProcessed : (state.worker other).processing = some (jobId, otherToken)) :
    Holds (state.store.commitLoaded loaded change) jobId otherToken := by
  apply (inv.held other otherToken otherProcessed).after_commitRow
  intro sameJob
  subst sameJob
  exact absurd (inv.worker_unique otherProcessed processed) different

end FencingInvariant

section Runs

variable [DecidableEq Result] {env : JobEnvironment Payload}
  {before after : QueueState Payload Result}

theorem fencingInvariant_step {jobId : Uuid} {action : QueueAction Payload Result}
    (inv : FencingInvariant jobId before) (spared : SparesLeaseOf jobId before action)
    (taken : Step env before action after) :
    FencingInvariant jobId after := by
  cases action with
  | enqueue req now =>
    obtain rfl := Option.some.inj taken
    exact inv.withStore (uuids_le_enqueueJob _ _ _) (fun _ held => held.after_enqueue req now)
  | claim worker req =>
    obtain ⟨idle, rfl⟩ := next_claim taken
    refine inv.setWorker (uuids_le_claimAgentJob _ _) ?_ ?_ ?_
    · intro token tokened
      rcases claimAgentJob_cases before.store req with
        ⟨raised, same⟩ | nothing | ⟨job, _, leased⟩
      · simp [same, phaseAfterClaim, WorkerPhase.token?] at tokened
      · simp [nothing, phaseAfterClaim, WorkerPhase.token?] at tokened
      · rw [leased] at tokened
        obtain rfl : before.store.uuids = token := Option.some.inj tokened
        rw [leased]
        exact Or.inr ⟨Nat.le_refl _, Nat.lt_succ_self _⟩
    · intro other _ token processed
      exact (inv.held other token processed).after_claim req
        (fun named row => spared named other token row processed)
    · intro token processed
      rcases claimAgentJob_cases before.store req with
        ⟨raised, same⟩ | nothing | ⟨job, _, leased⟩
      · simp [same, phaseAfterClaim, WorkerPhase.processing] at processed
      · simp [nothing, phaseAfterClaim, WorkerPhase.processing] at processed
      · rw [leased] at processed
        cases processed
  | heartbeat beaten token leaseSeconds now =>
    obtain rfl := Option.some.inj taken
    exact inv.withStore (Nat.le_of_eq (by simp))
      (fun _ held => held.after_heartbeat beaten token leaseSeconds now)
  | requeue req =>
    obtain rfl := Option.some.inj taken
    exact inv.withStore (Nat.le_of_eq (by simp)) (fun _ held => held.after_requeue env req)
  | read worker =>
    obtain ⟨claimedId, token, claimed, rfl⟩ := next_read taken
    cases read : readClaimedJob before.store claimedId token with
    | error raised =>
      exact inv.setWorkerOnly (by simp [phaseAfterRead, WorkerPhase.token?])
        (by simp [phaseAfterRead, WorkerPhase.processing])
    | ok loaded =>
      obtain ⟨found, tokens, leased⟩ := readClaimedJob_eq_ok_iff.mp read
      refine inv.setWorkerOnly ?_ ?_
      · intro kept tokened
        rw [claimed]
        exact tokened
      · intro readToken processed
        obtain ⟨rfl, rfl⟩ : loaded.id = jobId ∧ token = readToken := by
          simpa [phaseAfterRead, WorkerPhase.processing] using processed
        refine ⟨loaded, ?_, tokens, by simp [leased], by simp [leased]⟩
        rw [JobStore.job?_id found]
        exact found
  | start worker =>
    obtain ⟨token, loaded, checked, rfl⟩ := next_start taken
    have processed : (before.worker worker).processing = some (loaded.id, token) := by
      rw [checked]
      rfl
    refine inv.setWorker (Nat.le_refl _) ?_ (inv.held_after_commitLoaded processed startChange) ?_
    · intro kept tokened
      rw [checked]
      exact Or.inl tokened
    · intro startedToken started
      obtain ⟨rfl, rfl⟩ : loaded.id = jobId ∧ token = startedToken := by
        simpa [WorkerPhase.processing] using started
      exact (inv.held worker token processed).after_commitLoaded
        loaded startChange rfl (by simp [startChange]) (by simp [startChange])
  | observe worker outcome =>
    obtain ⟨runningId, token, running, rfl⟩ := next_observe taken
    cases read : getAgentJob before.store runningId with
    | error raised =>
      exact inv.setWorkerOnly (by simp [phaseAfterBody, WorkerPhase.token?])
        (by simp [phaseAfterBody, WorkerPhase.processing])
    | ok loaded =>
      refine inv.setWorkerOnly ?_ ?_
      · intro kept tokened
        rw [running]
        exact tokened
      · intro readToken processed
        obtain ⟨rfl, rfl⟩ : loaded.id = jobId ∧ token = readToken := by
          simpa [phaseAfterBody, WorkerPhase.processing] using processed
        have atJob := JobStore.job?_id (getAgentJob_eq_ok_iff.mp read)
        apply inv.held worker
        rw [running, atJob]
        rfl
  | finish worker now =>
    obtain ⟨token, loaded, outcome, ended, rfl⟩ := next_finish taken
    have processed : (before.worker worker).processing = some (loaded.id, token) := by
      rw [ended]
      rfl
    exact inv.setWorker (Nat.le_refl _) (by simp [WorkerPhase.token?])
      (inv.held_after_commitLoaded processed _) (by simp [WorkerPhase.processing])
  | crash worker =>
    obtain rfl := Option.some.inj taken
    exact inv.setWorkerOnly (by simp [WorkerPhase.token?]) (by simp [WorkerPhase.processing])
  | readCancel scheduler lastJobId =>
    rcases next_readCancel taken with rfl | ⟨loaded, _, _, rfl⟩
    · exact ⟨inv.tokensDrawn, inv.tokensDistinct, inv.held⟩
    · exact ⟨inv.tokensDrawn, inv.tokensDistinct, inv.held⟩
  | cancel scheduler now =>
    obtain ⟨loaded, _, rfl⟩ := next_cancel taken
    have kept : FencingInvariant jobId (before.withStore
        (before.store.commitLoaded loaded (cancelChange now))) := by
      refine inv.withStore (Nat.le_refl _) ?_
      intro token held
      exact held.after_commitLoaded loaded (cancelChange now) rfl
        (by simp [cancelChange]) (by simp [cancelChange])
    exact ⟨kept.tokensDrawn, kept.tokensDistinct, kept.held⟩

theorem fenced_of_invariant {action : QueueAction Payload Result}
    (inv : ∀ jobId, FencingInvariant jobId before) (taken : Step env before action after) :
    Fenced before action after := by
  have commitFenced : ∀ worker token (loaded : AgentExecutionJob Payload Result)
      (change : JobChange Payload Result),
      (before.worker worker).processing = some (loaded.id, token) →
      ∀ jobId, (before.store.commitLoaded loaded change).job? jobId ≠ before.store.job? jobId →
        ∃ token row, (before.worker worker).token? = some token ∧
          before.store.job? jobId = some row ∧ row.leaseToken = some token := by
    intro worker token loaded change processed jobId changed
    rw [JobStore.job?_commitLoaded] at changed
    by_cases atLoaded : jobId = loaded.id
    · subst jobId
      obtain ⟨row, found, tokens, _⟩ :=
        (inv loaded.id).held worker token processed
      exact ⟨token, row, WorkerPhase.token?_of_processing processed, found, tokens⟩
    · rw [if_neg atLoaded] at changed
      exact absurd rfl changed
  intro worker commits jobId changed
  cases action with
  | start starting =>
    obtain rfl : starting = worker := commits
    obtain ⟨token, loaded, checked, rfl⟩ := next_start taken
    exact commitFenced starting token loaded startChange (by rw [checked]; rfl) jobId changed
  | finish finishing now =>
    obtain rfl : finishing = worker := commits
    obtain ⟨token, loaded, outcome, ended, rfl⟩ := next_finish taken
    exact commitFenced finishing token loaded _ (by rw [ended]; rfl) jobId changed
  | _ =>
    exact commits.elim

/-- In every run in which no claim recovers the lease of a job that is still
being processed, every commit of a worker is fenced. -/
theorem fenced_of_spared_execution {actions : List (QueueAction Payload Result)}
    {action : QueueAction Payload Result}
    (exec : Execution (Guarded SparesProcessedLeases (Step env)) QueueState.initial actions before)
    (taken : Step env before action after) :
    Fenced before action after := by
  have inv : ∀ jobId, FencingInvariant jobId before := fun jobId =>
    exec.invariant (FencingInvariant jobId) FencingInvariant.initial
      (fun _ _ _ held step => fencingInvariant_step held (step.1 jobId) step.2)
  exact fenced_of_invariant inv taken

end Runs

def heldLeaseActions : List (QueueAction Unit Nat) :=
  [.enqueue reconciliationRequest 0, .claim 0 (claimAt 0), .read 0, .start 0, .observe 0 (.ok 7)]

def heldLease : QueueState Unit Nat :=
  (perform (next plainEnvironment) initial heldLeaseActions).get (by rfl)

theorem heldLeaseActions_spared : MeetsGuard SparesProcessedLeases (next plainEnvironment) initial
      heldLeaseActions := by
  refine ⟨fun _ => trivial, fun enqueued taken => ⟨?_, fun _ _ =>
    ⟨fun _ => trivial, fun _ _ => ⟨fun _ => trivial, fun _ _ =>
      ⟨fun _ => trivial, fun _ _ => trivial⟩⟩⟩⟩⟩
  obtain rfl := Option.some.inj taken
  intro jobId _ worker token row processed
  cases processed

theorem fenced_of_spared_execution_one_worker : Fenced heldLease (.finish 0 500)
      ((heldLease.next plainEnvironment (.finish 0 500)).get (by rfl)) :=
  fenced_of_spared_execution (Execution.of_perform_guarded (Option.some_get _).symm
      heldLeaseActions_spared)
    (Option.some_get _).symm

def lostLeaseActions : List (QueueAction Unit Nat) :=
  [.enqueue reconciliationRequest 0, .claim 0 (claimAt 0), .read 0, .start 0,
    .claim 1 (claimAt 400), .observe 0 (.ok 7)]

def lostLease : QueueState Unit Nat :=
  (perform (next plainEnvironment) initial lostLeaseActions).get (by rfl)

theorem outcome_commit_not_fenced :
    ¬ ∀ (actions : List (QueueAction Unit Nat)) (action : QueueAction Unit Nat)
        (before after : QueueState Unit Nat),
      Execution (Step plainEnvironment) QueueState.initial actions before →
        Step plainEnvironment before action after → Fenced before action after := by
  intro fenced
  have exec : Execution (Step plainEnvironment) QueueState.initial lostLeaseActions
        lostLease :=
    Execution.of_perform (Option.some_get _).symm
  have overwritten := fenced lostLeaseActions (.finish 0 500) lostLease
    ((lostLease.next plainEnvironment (.finish 0 500)).get (by rfl))
    exec (Option.some_get _).symm 0 rfl 0
  have otherToken : (lostLease.store.job? 0).map (fun row => row.leaseToken) = some (some 2) := by
    rfl
  have changed : (((lostLease.next plainEnvironment (.finish 0 500)).get (by rfl)).store.job? 0).map
      (fun row => row.leaseToken) = some none := by rfl
  obtain ⟨token, row, ownToken, found, rowToken⟩ := overwritten (by
    intro same
    rw [same, otherToken] at changed
    cases changed)
  have own : (lostLease.worker 0).token? = some 1 := by rfl
  rw [found, Option.map_some, rowToken, ← ownToken, own] at otherToken
  cases otherToken

end ModelAtlas.Jobs
