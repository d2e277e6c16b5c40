import ModelAtlas.Jobs.LeaseFencing

/-!
# How a job is completed

While no claim recovers its lease, a job is completed by the worker that ran its
body. The jobs of trust-source schedules, which a scheduler may cancel, are left
out.
-/

namespace ModelAtlas.Jobs

open Foundations QueueState

variable {Payload Result : Type}

def Unleased (row : AgentExecutionJob Payload Result) : Prop :=
  row.status.underLease = false → row.leaseToken = none

/-- A change that neither completes the job nor leaves a token behind. -/
structure KeepsCompletion (row later : AgentExecutionJob Payload Result) :
    Prop where
  completed : later.status = .completed ↔ row.status = .completed
  unleased : Unleased row → Unleased later

namespace KeepsCompletion

variable {row loaded : AgentExecutionJob Payload Result}

theorem refl : KeepsCompletion row row :=
  ⟨Iff.rfl, id⟩

theorem trans {middle later : AgentExecutionJob Payload Result} (first : KeepsCompletion row middle)
    (second : KeepsCompletion middle later) :
    KeepsCompletion row later :=
  ⟨second.completed.trans first.completed, second.unleased ∘ first.unleased⟩

theorem of_recoverExpired (now : Time) (locked : Uuid → Bool) :
    KeepsCompletion row ((recoverExpired now locked).apply row) := by
  have notCompleted : leaseExpired now row = true → row.status ≠ .completed := by
    intro expired completed
    simp [leaseExpired, completed, JobStatus.underLease] at expired
  simp only [recoverExpired, recoverJob]
  split_ifs with selected exhausted
  · simp only [Bool.and_eq_true] at selected
    have before := notCompleted selected.1
    exact ⟨by simp [markDeadLetter, before], fun _ _ => rfl⟩
  · simp only [Bool.and_eq_true] at selected
    have before := notCompleted selected.1
    exact ⟨by simp [before], fun _ _ => rfl⟩
  · exact refl

theorem of_leaseJob (queued : row.status = .queued)
    (worker : String) (token : Uuid) (lease : Int) (now : Time) :
    KeepsCompletion row (leaseJob worker token lease now row) := by
  refine ⟨by simp [leaseJob, queued], ?_⟩
  intro _ unleased
  cases unleased

theorem of_heartbeatChange (leaseSeconds : Int) (now : Time) :
    KeepsCompletion row ((heartbeatChange leaseSeconds now).apply row) :=
  ⟨Iff.rfl, id⟩

theorem of_requeueChange (failed : row.status = .failed) (reason : String)
    (identity : SignerIdentity) (maxAttempts : Option Int) (now : Time) :
    KeepsCompletion row ((requeueChange reason identity maxAttempts now).apply row) :=
  ⟨by simp [requeueChange, failed], fun _ _ => rfl⟩

theorem of_start [DecidableEq Result] (lease : row.status.underLease = true) :
    KeepsCompletion row ((startChange.flushed loaded).apply row) := by
  have rowNotCompleted : row.status ≠ .completed := by
    intro completed
    rw [completed] at lease
    cases lease
  have leased : ((startChange.flushed loaded).apply row).status.underLease =
      true := by
    simp only [JobChange.flushed, flushRow_status]
    rcases flushColumn_cases loaded.status (startChange.apply loaded).status
        row.status with ⟨_, kept⟩ | ⟨_, written⟩
    · rw [kept]
      exact lease
    · rw [written]
      rfl
  refine ⟨⟨?_, fun completed => absurd completed rowNotCompleted⟩, ?_⟩
  · intro completed
    rw [completed] at leased
    cases leased
  · intro _ unleased
    rw [leased] at unleased
    cases unleased

end KeepsCompletion

theorem finish_of_leased [DecidableEq Result] (env : JobEnvironment Payload)
    (outcome : Except ServiceError Result) (now : Time)
    {loaded row : AgentExecutionJob Payload Result}
    (lease : loaded.status.underLease = true)
    (tokened : loaded.leaseToken ≠ none) :
    (((endChange env outcome now).flushed loaded).apply row).leaseToken = none ∧
      ((((endChange env outcome now).flushed loaded).apply row).status =
        .completed ↔ ∃ res, outcome = .ok res) := by
  obtain ⟨tokenNone, unleased, _⟩ :=
    endChange_gives_up env outcome now loaded
  have status : (((endChange env outcome now).flushed loaded).apply row).status =
        ((endChange env outcome now).apply loaded).status := by
    simp only [JobChange.flushed, flushRow_status]
    rcases flushColumn_cases loaded.status
        ((endChange env outcome now).apply loaded).status row.status
      with ⟨same, _⟩ | ⟨_, written⟩
    · rw [same, lease] at unleased
      cases unleased
    · exact written
  have token : (((endChange env outcome now).flushed loaded).apply row).leaseToken = none := by
    simp only [JobChange.flushed, flushRow_leaseToken]
    rcases flushColumn_cases loaded.leaseToken ((endChange env outcome now).apply loaded).leaseToken
        row.leaseToken with ⟨same, _⟩ | ⟨_, written⟩
    · rw [tokenNone] at same
      exact absurd same.symm tokened
    · rw [written]
      exact tokenNone
  refine ⟨token, ?_⟩
  rw [status]
  cases outcome with
  | ok res =>
    simp [endChange, completeJob]
  | error raised =>
    simp only [endChange, failJob, markDeadLetter]
    split <;> simp

structure CompletionInvariant (jobId : Uuid)
    (state : QueueState Payload Result) : Prop where
  fencing : FencingInvariant jobId state
  cancels : ∀ scheduler loaded, state.cancelling scheduler = some loaded →
    ∃ row, state.store.job? loaded.id = some row ∧
      row.jobType = .trustSourceSync
  unleased : ∀ row, state.store.job? jobId = some row →
    row.jobType ≠ .trustSourceSync → Unleased row
  loaded : ∀ worker loaded row, (state.worker worker).loaded? = some loaded →
    loaded.id = jobId → state.store.job? jobId = some row →
      row.jobType ≠ .trustSourceSync →
        loaded.status.underLease = true ∧ loaded.leaseToken ≠ none

def CancelsSyncJob (state : QueueState Payload Result) : QueueAction Payload Result → Prop
  | .readCancel _ lastJobId =>
    ∀ row, state.store.job? lastJobId = some row → row.jobType = .trustSourceSync
  | _ => True

namespace CompletionInvariant

variable {jobId : Uuid} {state : QueueState Payload Result}

theorem initial : CompletionInvariant jobId (QueueState.initial : QueueState Payload Result) where
  fencing := FencingInvariant.initial
  cancels := by simp [QueueState.initial]
  unleased := by simp [QueueState.initial]
  loaded := by simp [QueueState.initial, WorkerPhase.loaded?]

theorem underLease (inv : CompletionInvariant jobId state) {token : Uuid}
    (held : Holds state.store jobId token) {row : AgentExecutionJob Payload Result}
    (found : state.store.job? jobId = some row) (notSync : row.jobType ≠ .trustSourceSync) :
    row.status.underLease = true ∧ row.leaseToken = some token := by
  obtain ⟨heldRow, heldFound, tokened, _⟩ := held
  obtain rfl : heldRow = row := Option.some.inj (heldFound.symm.trans found)
  refine ⟨?_, tokened⟩
  cases lease : heldRow.status.underLease with
  | true =>
    rfl
  | false =>
    have none := inv.unleased heldRow found notSync lease
    rw [none] at tokened
    cases tokened

end CompletionInvariant

section Runs

variable [DecidableEq Result] {env : JobEnvironment Payload}
  {before after : QueueState Payload Result} {jobId : Uuid}

def FinishesJob (jobId : Uuid) (state : QueueState Payload Result)
    (action : QueueAction Payload Result) (outcome : Except ServiceError Result) : Prop :=
  ∃ worker now token loaded, action = .finish worker now ∧
    state.worker worker = .ended token loaded outcome ∧ loaded.id = jobId

theorem keepsCompletion_of_step {action : QueueAction Payload Result}
    (inv : CompletionInvariant jobId before) (taken : before.next env action = some after)
    {row later : AgentExecutionJob Payload Result} (found : before.store.job? jobId = some row)
    (notSync : row.jobType ≠ .trustSourceSync) (laterFound : after.store.job? jobId = some later)
    (notFinished : ∀ outcome, ¬ FinishesJob jobId before action outcome) :
    KeepsCompletion row later := by
  have unchanged : after.store = before.store → KeepsCompletion row later := by
    intro same
    rw [same, found] at laterFound
    obtain rfl := Option.some.inj laterFound
    exact KeepsCompletion.refl
  -- A commit to one row is a commit to this job's row or to another one.
  have committed : ∀ (wanted : Uuid) (change : JobChange Payload Result),
      after.store = before.store.commitRow wanted change →
        (wanted = jobId ∧ later = change.apply row) ∨ KeepsCompletion row later := by
    intro wanted change same
    rw [same, JobStore.job?_commitRow, found, Option.map_some] at laterFound
    split at laterFound
    · next atWanted =>
        exact Or.inl ⟨atWanted.symm, (Option.some.inj laterFound).symm⟩
    · obtain rfl := Option.some.inj laterFound
      exact Or.inr KeepsCompletion.refl
  cases action with
  | enqueue req now =>
    obtain rfl := Option.some.inj taken
    have kept : later = row := by
      have same := job?_enqueueJob_of_some found req now
      exact Option.some.inj (laterFound.symm.trans same)
    rw [kept]
    exact KeepsCompletion.refl
  | claim worker req =>
    obtain ⟨_, rfl⟩ := next_claim taken
    rcases claimAgentJob_cases before.store req with
      ⟨raised, same⟩ | nothing | ⟨job, selected, leased⟩
    · exact unchanged (by rw [same]; rfl)
    · change (claimAgentJob before.store req).1.job? jobId = some later at laterFound
      rw [nothing, recoverExpiredLeases, JobStore.job?_commitAll, found] at laterFound
      obtain rfl := Option.some.inj laterFound
      exact KeepsCompletion.of_recoverExpired _ _
    · change (claimAgentJob before.store req).1.job? jobId = some later at laterFound
      obtain ⟨jobFound, queued, _⟩ := selectQueued_eq_some selected
      have recoveredRow : (recoverExpiredLeases before.store req).job?
          jobId = some ((recoverExpired req.now req.lockedLeases).apply row) := by
        rw [recoverExpiredLeases, JobStore.job?_commitAll, found, Option.map_some]
      rw [leased, JobStore.job?_commitLease, recoveredRow] at laterFound
      split at laterFound
      · next atJob =>
          subst atJob
          obtain rfl := Option.some.inj (recoveredRow.symm.trans jobFound)
          obtain rfl := Option.some.inj laterFound
          exact (KeepsCompletion.of_recoverExpired _ _).trans
            (KeepsCompletion.of_leaseJob queued _ _ _ _)
      · obtain rfl := Option.some.inj laterFound
        exact KeepsCompletion.of_recoverExpired _ _
  | heartbeat beaten token leaseSeconds now =>
    obtain rfl := Option.some.inj taken
    rcases heartbeatAgentJob_cases before.store beaten token leaseSeconds now
      with ⟨raised, same⟩ | ⟨job, _, _, _, beat⟩
    · exact unchanged (by rw [same]; rfl)
    · rcases committed beaten _ (by rw [beat]; rfl) with ⟨_, rfl⟩ | kept
      · exact KeepsCompletion.of_heartbeatChange leaseSeconds now
      · exact kept
  | requeue req =>
    obtain rfl := Option.some.inj taken
    rcases requeueAgentJob_cases env before.store req with
      ⟨raised, same⟩ | ⟨job, jobFound, failed, requeued⟩
    · exact unchanged (by rw [same]; rfl)
    · rcases committed req.jobId _ (by rw [requeued]; rfl) with
        ⟨atJob, rfl⟩ | kept
      · rw [atJob, found] at jobFound
        obtain rfl := Option.some.inj jobFound
        exact KeepsCompletion.of_requeueChange failed _ _ _ _
      · exact kept
  | read worker =>
    obtain ⟨claimedId, token, _, rfl⟩ := next_read taken
    exact unchanged rfl
  | start worker =>
    obtain ⟨token, loaded, checked, rfl⟩ := next_start taken
    rcases committed loaded.id _ rfl with ⟨atJob, rfl⟩ | kept
    · have processed : (before.worker worker).processing = some (jobId, token) := by
        rw [checked, ← atJob]
        rfl
      have held := inv.fencing.held worker token processed
      have lease := (inv.underLease held found notSync).1
      exact KeepsCompletion.of_start lease
    · exact kept
  | observe worker outcome =>
    obtain ⟨runningId, token, _, rfl⟩ := next_observe taken
    exact unchanged rfl
  | finish worker now =>
    obtain ⟨token, loaded, outcome, ended, rfl⟩ := next_finish taken
    rcases committed loaded.id _ rfl with ⟨atJob, rfl⟩ | kept
    · exact absurd ⟨worker, now, token, loaded, rfl, ended, atJob⟩ (notFinished outcome)
    · exact kept
  | crash worker =>
    obtain rfl := Option.some.inj taken
    exact unchanged rfl
  | readCancel scheduler lastJobId =>
    rcases next_readCancel taken with rfl | ⟨loaded, _, _, rfl⟩
    · exact unchanged rfl
    · exact unchanged rfl
  | cancel scheduler now =>
    obtain ⟨loaded, cancelling, rfl⟩ := next_cancel taken
    rcases committed loaded.id _ rfl with ⟨atJob, _⟩ | kept
    · obtain ⟨cancelled, cancelledFound, sync⟩ :=
        inv.cancels scheduler loaded cancelling
      rw [atJob, found] at cancelledFound
      obtain rfl := Option.some.inj cancelledFound
      exact absurd sync notSync
    · exact kept

theorem completed_of_finish
    {action : QueueAction Payload Result} {outcome : Except ServiceError Result}
    (inv : CompletionInvariant jobId before)
    (taken : before.next env action = some after)
    {row later : AgentExecutionJob Payload Result}
    (found : before.store.job? jobId = some row)
    (notSync : row.jobType ≠ .trustSourceSync)
    (laterFound : after.store.job? jobId = some later)
    (finishes : FinishesJob jobId before action outcome) :
    later.leaseToken = none ∧ (later.status = .completed ↔ ∃ res, outcome = .ok res) := by
  obtain ⟨worker, now, token, loaded, rfl, ended, atJob⟩ := finishes
  obtain ⟨sameToken, sameLoaded, sameOutcome, phase, rfl⟩ := next_finish taken
  obtain ⟨rfl, rfl, rfl⟩ := WorkerPhase.ended.inj (ended.symm.trans phase)
  obtain ⟨lease, tokened⟩ := inv.loaded worker loaded row (by rw [ended]; rfl) atJob found notSync
  change (before.store.commitLoaded loaded
    (endChange env outcome now)).job? jobId = some later at laterFound
  rw [JobStore.job?_commitLoaded, if_pos atJob.symm, found, Option.map_some] at laterFound
  obtain rfl := Option.some.inj laterFound
  exact finish_of_leased env outcome now lease tokened

theorem cancelling_of_step {action : QueueAction Payload Result} {scheduler : Nat}
    {loaded : AgentExecutionJob Payload Result} (taken : before.next env action = some after)
    (present : after.cancelling scheduler = some loaded) :
    before.cancelling scheduler = some loaded ∨ action = .readCancel scheduler loaded.id ∧
        before.store.job? loaded.id = some loaded := by
  have changed : ∀ (state : QueueState Payload Result) (stepping : Nat)
      (read : Option (AgentExecutionJob Payload Result)),
      (state.setCancelling stepping read).cancelling scheduler = some loaded →
        (stepping = scheduler ∧ read = some loaded) ∨ state.cancelling scheduler = some loaded := by
    intro state stepping read atScheduler
    by_cases same : scheduler = stepping
    · subst stepping
      exact Or.inl ⟨rfl, by simpa [setCancelling] using atScheduler⟩
    · right
      simpa [setCancelling, Function.update_of_ne same] using atScheduler
  cases action with
  | enqueue req now =>
    obtain rfl := Option.some.inj taken
    exact Or.inl present
  | claim worker req =>
    obtain ⟨_, rfl⟩ := next_claim taken
    exact Or.inl present
  | heartbeat jobId token leaseSeconds now =>
    obtain rfl := Option.some.inj taken
    exact Or.inl present
  | requeue req =>
    obtain rfl := Option.some.inj taken
    exact Or.inl present
  | read worker =>
    obtain ⟨claimedId, token, _, rfl⟩ := next_read taken
    exact Or.inl present
  | start worker =>
    obtain ⟨token, startLoaded, _, rfl⟩ := next_start taken
    exact Or.inl present
  | observe worker outcome =>
    obtain ⟨runningId, token, _, rfl⟩ := next_observe taken
    exact Or.inl present
  | finish worker now =>
    obtain ⟨token, endLoaded, outcome, _, rfl⟩ := next_finish taken
    exact Or.inl present
  | crash worker =>
    obtain rfl := Option.some.inj taken
    exact Or.inl present
  | readCancel reading lastJobId =>
    rcases next_readCancel taken with rfl | ⟨row, found, _, rfl⟩
    · rcases changed _ _ _ present with ⟨_, nothing⟩ | kept
      · cases nothing
      · exact Or.inl kept
    · rcases changed _ _ _ present with ⟨rfl, same⟩ | kept
      · obtain rfl := Option.some.inj same
        have atJob := JobStore.job?_id found
        subst atJob
        exact Or.inr ⟨rfl, found⟩
      · exact Or.inl kept
  | cancel cancelling now =>
    obtain ⟨row, _, rfl⟩ := next_cancel taken
    rcases changed _ _ _ present with ⟨_, nothing⟩ | kept
    · cases nothing
    · exact Or.inl kept

theorem completionInvariant_step {action : QueueAction Payload Result}
    (inv : CompletionInvariant jobId before) (spared : SparesLeaseOf jobId before action)
    (cancelsSync : CancelsSyncJob before action) (taken : before.next env action = some after) :
    CompletionInvariant jobId after := by
  have fencing := fencingInvariant_step inv.fencing spared taken
  have unleased : ∀ later, after.store.job? jobId = some later →
      later.jobType ≠ .trustSourceSync → Unleased later := by
    intro later laterFound notSync
    rcases sameJob_or_new taken laterFound with
      ⟨row, found, same⟩ | ⟨req, now, _, _, _, rfl⟩
    · rw [same.jobType] at notSync
      by_cases finished : ∃ outcome, FinishesJob jobId before action outcome
      · obtain ⟨outcome, finishes⟩ := finished
        exact fun _ => (completed_of_finish inv taken found notSync laterFound finishes).1
      · have kept := keepsCompletion_of_step inv taken found notSync
          laterFound (not_exists.mp finished)
        exact kept.unleased (inv.unleased row found notSync)
    · exact fun _ => rfl
  refine ⟨fencing, ?_, unleased, ?_⟩
  · intro scheduler loaded cancelling
    rcases cancelling_of_step taken cancelling with kept | ⟨rfl, found⟩
    · obtain ⟨row, found, sync⟩ := inv.cancels scheduler loaded kept
      obtain ⟨later, laterFound, same⟩ := sameJob_of_step taken found
      exact ⟨later, laterFound, same.jobType.trans sync⟩
    · obtain ⟨later, laterFound, same⟩ := sameJob_of_step taken found
      exact ⟨later, laterFound, same.jobType.trans (cancelsSync loaded found)⟩
  · intro worker loaded later present atJob laterFound notSync
    rcases loaded_of_step taken present with kept | found
    · obtain ⟨token, processed⟩ := WorkerPhase.processing_of_loaded kept
      rw [atJob] at processed
      obtain ⟨row, found, _⟩ := inv.fencing.held worker token processed
      obtain ⟨same, sameFound, sameJob⟩ := sameJob_of_step taken found
      obtain rfl := Option.some.inj (sameFound.symm.trans laterFound)
      exact inv.loaded worker loaded row kept atJob found
        (fun sync => notSync (sameJob.jobType.trans sync))
    · -- The row was just read, under the token of its worker.
      obtain ⟨token, processed⟩ := WorkerPhase.processing_of_loaded present
      rw [atJob] at found processed
      obtain rfl := Option.some.inj (found.symm.trans laterFound)
      obtain ⟨held, heldFound, tokened, _⟩ :=
        fencing.held worker token processed
      obtain rfl := Option.some.inj (heldFound.symm.trans laterFound)
      have tokenNotNone : held.leaseToken ≠ none := by simp [tokened]
      refine ⟨?_, tokenNotNone⟩
      cases lease : held.status.underLease with
      | true =>
        rfl
      | false =>
        exact absurd (unleased held laterFound notSync lease) tokenNotNone

end Runs

end ModelAtlas.Jobs
