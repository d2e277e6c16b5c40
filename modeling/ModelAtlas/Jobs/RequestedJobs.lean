import ModelAtlas.Jobs.LeaseFencing

/-!
# One job for a request, one worker for a job

What becomes of the requests that `_enqueue_job` of `services/agent_jobs.py` gets,
and who processes their jobs.
-/

namespace ModelAtlas.Jobs

open Foundations QueueState

variable {Payload Result : Type}

/-- No request is lost or served twice, and every job is as it was requested. -/
structure ServesRequests (actions : List (QueueAction Payload Result))
    (store : JobStore Payload Result) : Prop where
  served : ∀ req now, QueueAction.enqueue req now ∈ actions → 0 < req.maxAttempts →
    ∃! job, job ∈ store.jobs ∧ job.dedupeKey = req.dedupeKey
  requested : ∀ job ∈ store.jobs, ∃ req now, QueueAction.enqueue req now ∈ actions ∧
    SameJob (newJob job.id req now) job

theorem existsUnique_job {store : JobStore Payload Result} {jobId : Uuid}
    {row : AgentExecutionJob Payload Result} (found : store.job? jobId = some row) :
    ∃! job, job ∈ store.jobs ∧ job.dedupeKey = row.dedupeKey :=
  ⟨row, ⟨JobStore.job?_mem found, rfl⟩, fun other ⟨mem, key⟩ =>
    store.dedupeKeysDistinct other mem row (JobStore.job?_mem found) key⟩

theorem existsUnique_job_enqueueJob (store : JobStore Payload Result)
    {req : EnqueueRequest Payload} (allowed : 0 < req.maxAttempts) (now : Time) :
    ∃! job, job ∈ (enqueueJob store req now).1.jobs ∧ job.dedupeKey = req.dedupeKey := by
  unfold enqueueJob
  split
  · next existing found =>
    obtain ⟨mem, key⟩ := byDedupeKey?_eq_some_iff.mp found
    exact key ▸ existsUnique_job (JobStore.mem_jobs_iff.mp mem)
  · next absent =>
    rw [if_neg (by omega)]
    have found : (insertNewJob store req now absent).job? store.uuids =
        some (newJob store.uuids req now) := by rw [job?_insertNewJob, if_pos rfl]
    exact existsUnique_job found

variable [DecidableEq Result] {env : JobEnvironment Payload}
  {state : QueueState Payload Result} {actions : List (QueueAction Payload Result)}

theorem ServesRequests.step {action : QueueAction Payload Result}
    {after : QueueState Payload Result} (held : ServesRequests actions state.store)
    (taken : state.next env action = some after) :
    ServesRequests (actions ++ [action]) after.store where
  served req now mem allowed := by
    rcases List.mem_append.mp mem with earlier | new
    · obtain ⟨row, ⟨rowMem, key⟩, _⟩ := held.served req now earlier allowed
      obtain ⟨later, found, same⟩ := sameJob_of_step taken (JobStore.mem_jobs_iff.mp rowMem)
      exact key ▸ same.dedupeKey ▸ existsUnique_job found
    · obtain rfl := (List.mem_singleton.mp new).symm
      obtain rfl := Option.some.inj taken
      exact existsUnique_job_enqueueJob state.store allowed now
  requested job mem := by
    rcases sameJob_or_new taken (JobStore.mem_jobs_iff.mp mem) with
      ⟨old, found, same⟩ | ⟨req, now, rfl, _, atNew, new⟩
    · obtain ⟨req, now, asked, kept⟩ := held.requested old (JobStore.job?_mem found)
      rw [JobStore.job?_id found] at kept
      exact ⟨req, now, List.mem_append_left _ asked, kept.trans same⟩
    · refine ⟨req, now, List.mem_append_right _ List.mem_cons_self, ?_⟩
      rw [atNew, new]
      exact .refl

/-- Whatever the workers do, and however often a request is repeated, there is
one job for it. -/
theorem requests_haveOneJob (exec : Execution (Step env) QueueState.initial actions state) :
    ServesRequests actions state.store :=
  exec.invariant_of_labels (fun actions state => ServesRequests actions state.store)
    ⟨fun _ _ mem => (List.not_mem_nil mem).elim, fun _ mem => by cases mem⟩
    (fun _ _ _ _ held taken => held.step taken)

theorem requests_haveOneJob_held : ServesRequests heldLeaseActions heldLease.store :=
  requests_haveOneJob (Execution.of_perform (Option.some_get _).symm)

/-- While no claim recovers the lease of a job that is being processed, who processes a job
holds its lease, and is the only one. -/
theorem oneWorker_of_spared_execution {left right : Nat} {jobId token other : Uuid}
    (exec : Execution (Guarded SparesProcessedLeases (Step env)) QueueState.initial actions state)
    (processed : (state.worker left).processing = some (jobId, token))
    (alsoProcessed : (state.worker right).processing = some (jobId, other)) :
    Holds state.store jobId token ∧ left = right := by
  have inv : FencingInvariant jobId state :=
    exec.invariant (FencingInvariant jobId) FencingInvariant.initial
      (fun _ _ _ held step => fencingInvariant_step held (step.1 jobId) step.2)
  exact ⟨inv.held left token processed, inv.worker_unique processed alsoProcessed⟩

theorem oneWorker_of_spared_execution_held : Holds heldLease.store 0 1 ∧ 0 = 0 :=
  oneWorker_of_spared_execution
    (Execution.of_perform_guarded (Option.some_get _).symm heldLeaseActions_spared) rfl rfl

end ModelAtlas.Jobs
