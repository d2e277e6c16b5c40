import ModelAtlas.Foundations.Execution
import ModelAtlas.Jobs.Transactions

/-!
# Workers on one job table

Any number of workers, maintainers and schedulers commit transactions in any
order and with any clock values, and may crash between any two. The body of a
job is its outcome, and touches no job row but by enqueueing.
-/

namespace ModelAtlas.Jobs

open Foundations

variable {worker : Nat} {Payload Result : Type}

inductive WorkerPhase (Payload Result : Type) where
  | idle
  | claimed (jobId token : Uuid)
  /-- The first read passed its check, `running` is not committed. -/
  | checked (token : Uuid) (loaded : AgentExecutionJob Payload Result)
  /-- The body runs. -/
  | running (jobId token : Uuid)
  /-- The body ended and the row was read, the outcome is not committed. -/
  | ended (token : Uuid) (loaded : AgentExecutionJob Payload Result)
      (outcome : Except ServiceError Result)

namespace WorkerPhase

def token? : WorkerPhase Payload Result → Option Uuid
  | idle => none
  | claimed _ token => some token
  | checked token _ => some token
  | running _ token => some token
  | ended token _ _ => some token

/-- The job and token of a worker inside `process_claimed_agent_job`. -/
def processing : WorkerPhase Payload Result → Option (Uuid × Uuid)
  | idle => none
  | claimed _ _ => none
  | checked token loaded => some (loaded.id, token)
  | running jobId token => some (jobId, token)
  | ended token loaded _ => some (loaded.id, token)

/-- The row a worker has read without a lock and not yet committed. -/
def loaded? : WorkerPhase Payload Result → Option (AgentExecutionJob Payload Result)
  | idle => none
  | claimed _ _ => none
  | checked _ loaded => some loaded
  | running _ _ => none
  | ended _ loaded _ => some loaded

theorem processing_of_loaded {phase : WorkerPhase Payload Result}
    {loaded : AgentExecutionJob Payload Result} (present : phase.loaded? = some loaded) :
    ∃ token, phase.processing = some (loaded.id, token) := by
  cases phase <;> simp_all [loaded?, processing]

theorem token?_of_processing {phase : WorkerPhase Payload Result} {jobId token : Uuid}
    (processed : phase.processing = some (jobId, token)) :
    phase.token? = some token := by
  cases phase <;> simp_all [processing, token?]

end WorkerPhase

structure QueueState (Payload Result : Type) where
  store : JobStore Payload Result
  worker : Nat → WorkerPhase Payload Result
  /-- The queued job a scheduler has read and is about to cancel. -/
  cancelling : Nat → Option (AgentExecutionJob Payload Result)

inductive QueueAction (Payload Result : Type) where
  | enqueue (req : EnqueueRequest Payload) (now : Time)
  | claim (worker : Nat) (req : ClaimRequest)
  | heartbeat (jobId token : Uuid) (leaseSeconds : Int) (now : Time)
  | requeue (req : RequeueRequest)
  | read (worker : Nat)
  | start (worker : Nat)
  | observe (worker : Nat) (outcome : Except ServiceError Result)
  | finish (worker : Nat) (now : Time)
  | crash (worker : Nat)
  | readCancel (scheduler : Nat) (lastJobId : Uuid)
  | cancel (scheduler : Nat) (now : Time)

namespace QueueState

def initial : QueueState Payload Result where
  store := .empty
  worker _ := .idle
  cancelling _ := none

def withStore (state : QueueState Payload Result)
    (store : JobStore Payload Result) : QueueState Payload Result :=
  { state with store := store }

def setWorker (state : QueueState Payload Result) (worker : Nat)
    (phase : WorkerPhase Payload Result) : QueueState Payload Result :=
  { state with worker := Function.update state.worker worker phase }

def setCancelling (state : QueueState Payload Result) (scheduler : Nat)
    (loaded : Option (AgentExecutionJob Payload Result)) :
    QueueState Payload Result :=
  { state with cancelling := Function.update state.cancelling scheduler loaded }

@[simp]
theorem setWorker_worker_self (state : QueueState Payload Result) (worker : Nat)
    (phase : WorkerPhase Payload Result) :
    (state.setWorker worker phase).worker worker = phase :=
  Function.update_self ..

theorem setWorker_worker_of_ne (state : QueueState Payload Result) {other : Nat}
    (phase : WorkerPhase Payload Result) (different : other ≠ worker) :
    (state.setWorker worker phase).worker other = state.worker other :=
  Function.update_of_ne different ..

/-- What `run_agent_worker_once` goes on with after a claim. -/
def phaseAfterClaim (claimed : Except ServiceError (Option (AgentExecutionJob Payload Result))) :
    WorkerPhase Payload Result :=
  match claimed with
  | .error _ => .idle
  | .ok none => .idle
  | .ok (some job) =>
    match job.leaseToken with
    | none => .idle
    | some token => .claimed job.id token

theorem phaseAfterClaim_cases (claimed : Except ServiceError
      (Option (AgentExecutionJob Payload Result))) :
    phaseAfterClaim claimed = .idle ∨
      ∃ jobId token, phaseAfterClaim claimed = .claimed jobId token := by
  unfold phaseAfterClaim
  split
  · exact Or.inl rfl
  · exact Or.inl rfl
  · split
    · exact Or.inl rfl
    · exact Or.inr ⟨_, _, rfl⟩

/-- What `process_claimed_agent_job` goes on with after its first read. -/
def phaseAfterRead (token : Uuid) (read : Except ServiceError (AgentExecutionJob Payload Result)) :
    WorkerPhase Payload Result :=
  match read with
  | .error _ => .idle
  | .ok loaded => .checked token loaded

def phaseAfterBody (token : Uuid) (outcome : Except ServiceError Result)
    (read : Except ServiceError (AgentExecutionJob Payload Result)) :
    WorkerPhase Payload Result :=
  match read with
  | .error _ => .idle
  | .ok loaded => .ended token loaded outcome

variable [DecidableEq Result]

def next (env : JobEnvironment Payload) (state : QueueState Payload Result) :
    QueueAction Payload Result → Option (QueueState Payload Result)
  | .enqueue req now =>
    some (state.withStore (enqueueJob state.store req now).1)
  | .claim worker req =>
    match state.worker worker with
    | .idle =>
      let claimed := claimAgentJob state.store req
      some ((state.withStore claimed.1).setWorker worker (phaseAfterClaim claimed.2))
    | _ => none
  | .heartbeat jobId token leaseSeconds now =>
    some (state.withStore (heartbeatAgentJob state.store jobId token leaseSeconds now).1)
  | .requeue req =>
    some (state.withStore (requeueAgentJob env state.store req).1)
  | .read worker =>
    match state.worker worker with
    | .claimed jobId token =>
      some (state.setWorker worker (phaseAfterRead token (readClaimedJob state.store jobId token)))
    | _ => none
  | .start worker =>
    match state.worker worker with
    | .checked token loaded =>
      some ((state.withStore (state.store.commitLoaded loaded startChange)).setWorker worker
          (.running loaded.id token))
    | _ => none
  | .observe worker outcome =>
    match state.worker worker with
    | .running jobId token =>
      some (state.setWorker worker (phaseAfterBody token outcome (getAgentJob state.store jobId)))
    | _ => none
  | .finish worker now =>
    match state.worker worker with
    | .ended _ loaded outcome =>
      some ((state.withStore (state.store.commitLoaded loaded
        (endChange env outcome now))).setWorker worker .idle)
    | _ => none
  | .crash worker =>
    some (state.setWorker worker .idle)
  | .readCancel scheduler lastJobId =>
    match cancelOrRejectActiveJob (state.store.job? lastJobId) with
    | .error _ => some (state.setCancelling scheduler none)
    | .ok loaded => some (state.setCancelling scheduler loaded)
  | .cancel scheduler now =>
    match state.cancelling scheduler with
    | none => none
    | some loaded =>
      some ((state.withStore (state.store.commitLoaded loaded
        (cancelChange now))).setCancelling scheduler none)

abbrev Step (env : JobEnvironment Payload) :
    QueueState Payload Result → QueueAction Payload Result → QueueState Payload Result → Prop :=
  stepsOf (next env)

end QueueState

section Inversion

variable [DecidableEq Result] {env : JobEnvironment Payload}
  {before after : QueueState Payload Result}

open QueueState

theorem next_claim {req : ClaimRequest} (taken : before.next env (.claim worker req) = some after) :
    before.worker worker = .idle ∧
      after = (before.withStore (claimAgentJob before.store req).1).setWorker
        worker (phaseAfterClaim (claimAgentJob before.store req).2) := by
  simp only [next] at taken
  split at taken
  · next idle =>
      exact ⟨idle, (Option.some.inj taken).symm⟩
  · cases taken

theorem next_read (taken : before.next env (.read worker) = some after) :
    ∃ jobId token, before.worker worker = .claimed jobId token ∧ after = before.setWorker worker
        (phaseAfterRead token (readClaimedJob before.store jobId token)) := by
  simp only [next] at taken
  split at taken
  · next jobId token claimed =>
      exact ⟨jobId, token, claimed, (Option.some.inj taken).symm⟩
  · cases taken

theorem next_start (taken : before.next env (.start worker) = some after) :
    ∃ token loaded, before.worker worker = .checked token loaded ∧ after = (before.withStore
        (before.store.commitLoaded loaded startChange)).setWorker worker
          (.running loaded.id token) := by
  simp only [next] at taken
  split at taken
  · next token loaded checked =>
      exact ⟨token, loaded, checked, (Option.some.inj taken).symm⟩
  · cases taken

theorem next_observe {outcome : Except ServiceError Result}
    (taken : before.next env (.observe worker outcome) = some after) :
    ∃ jobId token, before.worker worker = .running jobId token ∧ after = before.setWorker worker
        (phaseAfterBody token outcome (getAgentJob before.store jobId)) := by
  simp only [next] at taken
  split at taken
  · next jobId token running =>
      exact ⟨jobId, token, running, (Option.some.inj taken).symm⟩
  · cases taken

theorem next_finish {now : Time} (taken : before.next env (.finish worker now) = some after) :
    ∃ token loaded outcome, before.worker worker = .ended token loaded outcome ∧
      after = (before.withStore (before.store.commitLoaded loaded
        (endChange env outcome now))).setWorker worker .idle := by
  simp only [next] at taken
  split at taken
  · next token loaded outcome ended =>
      exact ⟨token, loaded, outcome, ended, (Option.some.inj taken).symm⟩
  · cases taken

theorem next_readCancel {scheduler : Nat} {lastJobId : Uuid} (taken :
      before.next env (.readCancel scheduler lastJobId) = some after) :
    after = before.setCancelling scheduler none ∨
      ∃ loaded, before.store.job? lastJobId = some loaded ∧ loaded.status = .queued ∧
        after = before.setCancelling scheduler (some loaded) := by
  simp only [next] at taken
  split at taken
  · exact Or.inl (Option.some.inj taken).symm
  · next loaded accepted =>
      cases loaded with
      | none =>
        exact Or.inl (Option.some.inj taken).symm
      | some job =>
        obtain ⟨found, queued⟩ := cancelOrRejectActiveJob_eq_some accepted
        exact Or.inr ⟨job, found, queued, (Option.some.inj taken).symm⟩

theorem next_cancel {scheduler : Nat} {now : Time}
    (taken : before.next env (.cancel scheduler now) = some after) :
    ∃ loaded, before.cancelling scheduler = some loaded ∧
      after = (before.withStore (before.store.commitLoaded loaded
        (cancelChange now))).setCancelling scheduler none := by
  simp only [next] at taken
  split at taken
  · cases taken
  · next loaded cancelling =>
      exact ⟨loaded, cancelling, (Option.some.inj taken).symm⟩

theorem store_of_step {action : QueueAction Payload Result}
    (taken : before.next env action = some after) :
    after.store = before.store ∨
    (∃ req now, action = .enqueue req now ∧ after.store = (enqueueJob before.store req now).1) ∨
    (∃ change, after.store = before.store.commitAll change) ∨
    (∃ change wanted worker lease now, after.store =
      (before.store.commitAll change).commitLease wanted worker lease now) := by
  cases action with
  | enqueue req now =>
    obtain rfl := Option.some.inj taken
    exact Or.inr (Or.inl ⟨req, now, rfl, rfl⟩)
  | claim worker req =>
    obtain ⟨_, rfl⟩ := next_claim taken
    change (claimAgentJob before.store req).1 = _ ∨ _
    rcases claimAgentJob_cases before.store req with
      ⟨raised, same⟩ | nothing | ⟨job, _, leased⟩
    · exact Or.inl (by rw [same])
    · exact Or.inr (Or.inr (Or.inl ⟨_, by rw [nothing]; rfl⟩))
    · exact Or.inr (Or.inr (Or.inr ⟨_, _, _, _, _, by rw [leased]; rfl⟩))
  | heartbeat jobId token leaseSeconds now =>
    obtain rfl := Option.some.inj taken
    change (heartbeatAgentJob before.store jobId token leaseSeconds now).1 =
      _ ∨ _
    rcases heartbeatAgentJob_cases before.store jobId token leaseSeconds now
      with ⟨raised, same⟩ | ⟨job, _, _, _, committed⟩
    · exact Or.inl (by rw [same])
    · exact Or.inr (Or.inr (Or.inl ⟨_, by rw [committed]; rfl⟩))
  | requeue req =>
    obtain rfl := Option.some.inj taken
    change (requeueAgentJob env before.store req).1 = _ ∨ _
    rcases requeueAgentJob_cases env before.store req with
      ⟨raised, same⟩ | ⟨job, _, _, committed⟩
    · exact Or.inl (by rw [same])
    · exact Or.inr (Or.inr (Or.inl ⟨_, by rw [committed]; rfl⟩))
  | read worker =>
    obtain ⟨jobId, token, _, rfl⟩ := next_read taken
    exact Or.inl rfl
  | start worker =>
    obtain ⟨token, loaded, _, rfl⟩ := next_start taken
    exact Or.inr (Or.inr (Or.inl ⟨_, rfl⟩))
  | observe worker outcome =>
    obtain ⟨jobId, token, _, rfl⟩ := next_observe taken
    exact Or.inl rfl
  | finish worker now =>
    obtain ⟨token, loaded, outcome, _, rfl⟩ := next_finish taken
    exact Or.inr (Or.inr (Or.inl ⟨_, rfl⟩))
  | crash worker =>
    obtain rfl := Option.some.inj taken
    exact Or.inl rfl
  | readCancel scheduler lastJobId =>
    rcases next_readCancel taken with rfl | ⟨loaded, _, _, rfl⟩
    · exact Or.inl rfl
    · exact Or.inl rfl
  | cancel scheduler now =>
    obtain ⟨loaded, _, rfl⟩ := next_cancel taken
    exact Or.inr (Or.inr (Or.inl ⟨_, rfl⟩))

def QueueAction.moves : QueueAction Payload Result → Option Nat
  | .claim worker _ => some worker
  | .read worker => some worker
  | .start worker => some worker
  | .observe worker _ => some worker
  | .finish worker _ => some worker
  | .crash worker => some worker
  | .enqueue _ _ | .heartbeat _ _ _ _ | .requeue _ => none
  | .readCancel _ _ | .cancel _ _ => none

inductive PhaseChange (before : QueueState Payload Result) (worker : Nat) :
    QueueAction Payload Result → WorkerPhase Payload Result → Prop
  | claim (req : ClaimRequest) :
      before.worker worker = .idle →
      PhaseChange before worker (.claim worker req)
        (phaseAfterClaim (claimAgentJob before.store req).2)
  | read (jobId token : Uuid) :
      before.worker worker = .claimed jobId token →
      PhaseChange before worker (.read worker)
        (phaseAfterRead token (readClaimedJob before.store jobId token))
  | start (token : Uuid) (loaded : AgentExecutionJob Payload Result) :
      before.worker worker = .checked token loaded →
      PhaseChange before worker (.start worker) (.running loaded.id token)
  | observe (jobId token : Uuid) (outcome : Except ServiceError Result) :
      before.worker worker = .running jobId token →
      PhaseChange before worker (.observe worker outcome)
        (phaseAfterBody token outcome (getAgentJob before.store jobId))
  | finish (token : Uuid) (loaded : AgentExecutionJob Payload Result)
      (outcome : Except ServiceError Result) (now : Time) :
      before.worker worker = .ended token loaded outcome →
      PhaseChange before worker (.finish worker now) .idle
  | crash : PhaseChange before worker (.crash worker) .idle

theorem worker_of_step {action : QueueAction Payload Result}
    (taken : before.next env action = some after) (worker : Nat) :
    (action.moves ≠ some worker ∧ after.worker worker = before.worker worker) ∨
    PhaseChange before worker action (after.worker worker) := by
  have moved : ∀ (state : QueueState Payload Result) (moving : Nat)
      (phase : WorkerPhase Payload Result), (some moving ≠ some worker ∧
        (state.setWorker moving phase).worker worker = state.worker worker) ∨
      (moving = worker ∧ (state.setWorker moving phase).worker worker = phase) := by
    intro state moving phase
    by_cases same : worker = moving
    · subst moving
      exact Or.inr ⟨rfl, setWorker_worker_self ..⟩
    · refine Or.inl ⟨fun equal => same (Option.some.inj equal).symm, ?_⟩
      exact setWorker_worker_of_ne _ _ same
  cases action with
  | enqueue req now =>
    obtain rfl := Option.some.inj taken
    exact Or.inl ⟨by simp [QueueAction.moves], rfl⟩
  | claim claiming req =>
    obtain ⟨idle, rfl⟩ := next_claim taken
    rcases moved _ claiming _ with unmoved | ⟨rfl, phase⟩
    · exact Or.inl unmoved
    · rw [phase]
      exact Or.inr (.claim req idle)
  | heartbeat jobId token leaseSeconds now =>
    obtain rfl := Option.some.inj taken
    exact Or.inl ⟨by simp [QueueAction.moves], rfl⟩
  | requeue req =>
    obtain rfl := Option.some.inj taken
    exact Or.inl ⟨by simp [QueueAction.moves], rfl⟩
  | read reading =>
    obtain ⟨jobId, token, claimed, rfl⟩ := next_read taken
    rcases moved _ reading _ with unmoved | ⟨rfl, phase⟩
    · exact Or.inl unmoved
    · rw [phase]
      exact Or.inr (.read jobId token claimed)
  | start starting =>
    obtain ⟨token, loaded, checked, rfl⟩ := next_start taken
    rcases moved _ starting _ with unmoved | ⟨rfl, phase⟩
    · exact Or.inl unmoved
    · rw [phase]
      exact Or.inr (.start token loaded checked)
  | observe observing outcome =>
    obtain ⟨jobId, token, running, rfl⟩ := next_observe taken
    rcases moved _ observing _ with unmoved | ⟨rfl, phase⟩
    · exact Or.inl unmoved
    · rw [phase]
      exact Or.inr (.observe jobId token outcome running)
  | finish finishing now =>
    obtain ⟨token, loaded, outcome, ended, rfl⟩ := next_finish taken
    rcases moved _ finishing _ with unmoved | ⟨rfl, phase⟩
    · exact Or.inl unmoved
    · rw [phase]
      exact Or.inr (.finish token loaded outcome now ended)
  | crash crashing =>
    obtain rfl := Option.some.inj taken
    rcases moved _ crashing _ with unmoved | ⟨rfl, phase⟩
    · exact Or.inl unmoved
    · rw [phase]
      exact Or.inr .crash
  | readCancel scheduler lastJobId =>
    rcases next_readCancel taken with rfl | ⟨loaded, _, _, rfl⟩
    · exact Or.inl ⟨by simp [QueueAction.moves], rfl⟩
    · exact Or.inl ⟨by simp [QueueAction.moves], rfl⟩
  | cancel scheduler now =>
    obtain ⟨loaded, _, rfl⟩ := next_cancel taken
    exact Or.inl ⟨by simp [QueueAction.moves], rfl⟩

theorem running_of_step {action : QueueAction Payload Result} {jobId token : Uuid}
    (taken : before.next env action = some after)
    (running : after.worker worker = .running jobId token) :
    (action.moves ≠ some worker ∧ before.worker worker = .running jobId token) ∨
        action = .start worker := by
  rcases worker_of_step taken worker with ⟨unmoved, same⟩ | change
  · exact Or.inl ⟨unmoved, same ▸ running⟩
  · rw [running] at change
    generalize phase : WorkerPhase.running jobId token = reached at change
    cases change with
    | claim req idle =>
      rcases phaseAfterClaim_cases (claimAgentJob before.store req).2 with
        nothing | ⟨claimedId, claimedToken, claimed⟩
      · rw [nothing] at phase
        cases phase
      · rw [claimed] at phase
        cases phase
    | read claimedId claimedToken claimed =>
      unfold phaseAfterRead at phase
      split at phase <;> cases phase
    | start startToken startLoaded checked =>
      exact Or.inr rfl
    | observe runningId runningToken outcome running =>
      unfold phaseAfterBody at phase
      split at phase <;> cases phase
    | finish endToken endLoaded outcome now ended =>
      cases phase
    | crash =>
      cases phase

theorem loaded_of_step {action : QueueAction Payload Result}
    {loaded : AgentExecutionJob Payload Result} (taken : before.next env action = some after)
    (present : (after.worker worker).loaded? = some loaded) :
    (before.worker worker).loaded? = some loaded ∨ after.store.job? loaded.id = some loaded := by
  rcases worker_of_step taken worker with ⟨_, same⟩ | change
  · exact Or.inl (same ▸ present)
  · generalize phase : after.worker worker = reached at change present
    cases change with
    | claim req idle =>
      rcases phaseAfterClaim_cases (claimAgentJob before.store req).2 with
        nothing | ⟨claimedId, claimedToken, claimed⟩
      · rw [nothing] at present
        cases present
      · rw [claimed] at present
        cases present
    | read claimedId claimedToken claimed =>
      obtain ⟨_, _, _, rfl⟩ := next_read taken
      cases read : readClaimedJob before.store claimedId claimedToken with
      | error raised =>
        rw [read] at present
        cases present
      | ok row =>
        rw [read] at present
        obtain rfl : row = loaded := Option.some.inj present
        have found := (readClaimedJob_eq_ok_iff.mp read).1
        have atJob := JobStore.job?_id found
        exact Or.inr (atJob ▸ found)
    | start startToken startLoaded checked =>
      cases present
    | observe runningId runningToken outcome running =>
      obtain ⟨_, _, _, rfl⟩ := next_observe taken
      cases read : getAgentJob before.store runningId with
      | error raised =>
        rw [read] at present
        cases present
      | ok row =>
        rw [read] at present
        obtain rfl : row = loaded := Option.some.inj present
        have found := getAgentJob_eq_ok_iff.mp read
        have atJob := JobStore.job?_id found
        exact Or.inr (atJob ▸ found)
    | finish endToken endLoaded outcome now ended =>
      cases present
    | crash =>
      cases present

end Inversion

/-- Two rows of one job, with the columns that no transaction assigns. -/
structure SameJob (earlier later : AgentExecutionJob Payload Result) : Prop where
  jobType : later.jobType = earlier.jobType
  payloadJson : later.payloadJson = earlier.payloadJson
  dedupeKey : later.dedupeKey = earlier.dedupeKey

namespace SameJob

variable {row : AgentExecutionJob Payload Result}

theorem refl : SameJob row row :=
  ⟨rfl, rfl, rfl⟩

theorem trans {middle later : AgentExecutionJob Payload Result}
    (first : SameJob row middle) (second : SameJob middle later) :
    SameJob row later :=
  ⟨second.jobType.trans first.jobType, second.payloadJson.trans first.payloadJson,
    second.dedupeKey.trans first.dedupeKey⟩

theorem of_change (change : JobChange Payload Result) : SameJob row (change.apply row) :=
  ⟨change.keepsType row, change.keepsPayload row, change.keepsDedupeKey row⟩

end SameJob

section Identity

variable [DecidableEq Result] {env : JobEnvironment Payload}
  {before after : QueueState Payload Result}
  {action : QueueAction Payload Result} {jobId : Uuid}

theorem sameJob_of_step (taken : before.next env action = some after)
    {row : AgentExecutionJob Payload Result} (found : before.store.job? jobId = some row) :
    ∃ later, after.store.job? jobId = some later ∧ SameJob row later := by
  rcases store_of_step taken with
    same | ⟨req, now, _, enqueued⟩ | ⟨change, changed⟩ |
      ⟨change, wanted, worker, lease, now, leased⟩
  · rw [same]
    exact ⟨row, found, SameJob.refl⟩
  · rw [enqueued]
    exact ⟨row, job?_enqueueJob_of_some found req now, SameJob.refl⟩
  · refine ⟨change.apply row, ?_, SameJob.of_change change⟩
    rw [changed, JobStore.job?_commitAll, found, Option.map_some]
  · rw [leased, JobStore.job?_commitLease, JobStore.job?_commitAll, found,
      Option.map_some, Option.map_some]
    split
    · exact ⟨_, rfl, (SameJob.of_change change).trans ⟨rfl, rfl, rfl⟩⟩
    · exact ⟨_, rfl, SameJob.of_change change⟩

theorem sameJob_or_new (taken : before.next env action = some after)
    {later : AgentExecutionJob Payload Result} (found : after.store.job? jobId = some later) :
    (∃ row, before.store.job? jobId = some row ∧ SameJob row later) ∨
    (∃ req now, action = .enqueue req now ∧
      before.store.job? jobId = none ∧ jobId = before.store.uuids ∧
      later = newJob before.store.uuids req now) := by
  cases old : before.store.job? jobId with
  | some row =>
    obtain ⟨kept, keptFound, same⟩ := sameJob_of_step taken old
    obtain rfl : kept = later := Option.some.inj (keptFound.symm.trans found)
    exact Or.inl ⟨row, rfl, same⟩
  | none =>
    rcases store_of_step taken with
      same | ⟨req, now, rfl, enqueued⟩ | ⟨change, changed⟩ |
        ⟨change, wanted, worker, lease, now, leased⟩
    · rw [same, old] at found
      cases found
    · rw [enqueued] at found
      rcases job?_enqueueJob found with kept | ⟨_, atNew, _, new⟩
      · rw [old] at kept
        cases kept
      · exact Or.inr ⟨req, now, rfl, rfl, atNew, new⟩
    · rw [changed, JobStore.job?_commitAll, old] at found
      cases found
    · rw [leased, JobStore.job?_commitLease, JobStore.job?_commitAll, old] at found
      simp at found

theorem uuids_le_of_step (taken : before.next env action = some after) :
    before.store.uuids ≤ after.store.uuids := by
  rcases store_of_step taken with
    same | ⟨req, now, _, enqueued⟩ | ⟨change, changed⟩ |
      ⟨change, wanted, worker, lease, now, leased⟩
  · exact Nat.le_of_eq (by rw [same])
  · rw [enqueued]
    exact uuids_le_enqueueJob before.store req now
  · exact Nat.le_of_eq (by rw [changed]; rfl)
  · rw [leased]
    exact Nat.le_succ before.store.uuids

end Identity

def plainEnvironment : JobEnvironment Unit where
  lower := id
  retryPolicy _ := none
  digest _ := 0

def systemWorker : SignerIdentity where
  subjectId := "worker"
  displayName := "worker"
  role := some "System Worker"
  identityProvider := "model-atlas-worker"
  authSource := "durable_job_lease"
  identityVerified := true
  ticketReference := none

def reconciliationRequest : EnqueueRequest Unit where
  jobType := .checkpointReconciliation
  dedupeKey := "reconcile:interval-1"
  payloadJson := ()
  signerIdentity := systemWorker
  priority := 10
  benchmarkRunId := none
  benchmarkResultId := none
  checkpointRecordId := none
  maxAttempts := 3

def claimAt (now : Time) : ClaimRequest where
  workerId := "worker"
  leaseSeconds := 300
  now := now
  lockedLeases _ := false
  lockedQueued _ := false

end ModelAtlas.Jobs
