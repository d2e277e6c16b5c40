import ModelAtlas.Jobs.Workers

/-!
# The attempt budget

`attempt_count` is the number of claims of the current period of a job, which
begins when the job is created or requeued.
-/

namespace ModelAtlas.Jobs

open Foundations

variable {counted event : JobEvent} {wanted : Uuid}

variable {Payload Result : Type}

inductive JobEvent where
  | created (jobId : Uuid)
  | claimed (jobId : Uuid)
  | started (jobId : Uuid)
  | requeued (jobId : Uuid)
  deriving DecidableEq

def JobEvent.opensPeriod (jobId : Uuid) : JobEvent → Bool
  | created opened => opened = jobId
  | requeued opened => opened = jobId
  | claimed _ => false
  | started _ => false

def countSince (jobId : Uuid) (counted : JobEvent) : List JobEvent → Nat
  | [] => 0
  | event :: earlier =>
    if event.opensPeriod jobId then 0
    else if event = counted then countSince jobId counted earlier + 1
    else countSince jobId counted earlier

def claimsSince (jobId : Uuid) (history : List JobEvent) : Nat :=
  countSince jobId (.claimed jobId) history

def startsSince (jobId : Uuid) (history : List JobEvent) : Nat :=
  countSince jobId (.started jobId) history

theorem countSince_cons_of_other {jobId : Uuid} {history : List JobEvent}
    (notOpening : event.opensPeriod jobId = false) (notCounted : event ≠ counted) :
    countSince jobId counted (event :: history) = countSince jobId counted history := by
  rw [countSince, notOpening, if_neg (by simp), if_neg notCounted]

theorem countSince_cons_of_opens {jobId : Uuid} {history : List JobEvent}
    (opening : event.opensPeriod jobId = true) :
    countSince jobId counted (event :: history) = 0 := by
  rw [countSince, if_pos opening]

theorem countSince_cons_of_counted {jobId : Uuid} {history : List JobEvent}
    (notOpening : counted.opensPeriod jobId = false) :
    countSince jobId counted (counted :: history) = countSince jobId counted history + 1 := by
  rw [countSince, notOpening, if_neg (by simp), if_pos rfl]

/-! ## Runs of whole operations -/

structure QueueRun (Payload Result : Type) where
  store : JobStore Payload Result
  history : List JobEvent

/-- The operations. The body of a job may enqueue others; it ends with an outcome, or the worker
dies in it. -/
inductive QueueOperation (Payload Result : Type) where
  | enqueue (req : EnqueueRequest Payload) (now : Time)
  | claim (req : ClaimRequest)
  | heartbeat (jobId token : Uuid) (leaseSeconds : Int) (now : Time)
  | process (jobId token : Uuid)
      (enqueued : List (EnqueueRequest Payload × Time))
      (ending : Option (Except ServiceError Result × Time))
  | requeue (req : RequeueRequest)

namespace QueueRun

def initial : QueueRun Payload Result where
  store := .empty
  history := []

def enqueue (run : QueueRun Payload Result)
    (req : EnqueueRequest Payload) (now : Time) : QueueRun Payload Result where
  store := (enqueueJob run.store req now).1
  history :=
    if (enqueueJob run.store req now).1.uuids = run.store.uuids then
      run.history
    else .created run.store.uuids :: run.history

def enqueueAll (run : QueueRun Payload Result) (requests : List (EnqueueRequest Payload × Time)) :
    QueueRun Payload Result :=
  requests.foldl (fun run req => run.enqueue req.1 req.2) run

def claim (run : QueueRun Payload Result) (req : ClaimRequest) : QueueRun Payload Result where
  store := (claimAgentJob run.store req).1
  history :=
    match (claimAgentJob run.store req).2 with
    | .ok (some job) => .claimed job.id :: run.history
    | .ok none => run.history
    | .error _ => run.history

def heartbeat (run : QueueRun Payload Result)
    (jobId token : Uuid) (leaseSeconds : Int) (now : Time) :
    QueueRun Payload Result :=
  { run with store := (heartbeatAgentJob run.store jobId token leaseSeconds now).1 }

def requeue (env : JobEnvironment Payload) (run : QueueRun Payload Result) (req : RequeueRequest) :
    QueueRun Payload Result where
  store := (requeueAgentJob env run.store req).1
  history :=
    match (requeueAgentJob env run.store req).2 with
    | .ok () => .requeued req.jobId :: run.history
    | .error _ => run.history

variable [DecidableEq Result]

/-- The commit of `running`. -/
def start (run : QueueRun Payload Result)
    (loaded : AgentExecutionJob Payload Result) : QueueRun Payload Result where
  store := run.store.commitLoaded loaded startChange
  history := .started loaded.id :: run.history

def finish (env : JobEnvironment Payload) (run : QueueRun Payload Result) (jobId : Uuid)
    (ending : Option (Except ServiceError Result × Time)) :
    QueueRun Payload Result :=
  match ending, getAgentJob run.store jobId with
  | some (outcome, now), .ok loaded =>
    { run with store := run.store.commitLoaded loaded (endChange env outcome now) }
  | some _, .error _ => run
  | none, _ => run

/-- `process_claimed_agent_job` with nothing in between its commits. -/
def process (env : JobEnvironment Payload) (run : QueueRun Payload Result) (jobId token : Uuid)
    (enqueued : List (EnqueueRequest Payload × Time))
    (ending : Option (Except ServiceError Result × Time)) :
    QueueRun Payload Result :=
  match readClaimedJob run.store jobId token with
  | .error _ => run
  | .ok loaded =>
    finish env ((run.start loaded).enqueueAll enqueued) jobId ending

def operate (env : JobEnvironment Payload) (run : QueueRun Payload Result) :
    QueueOperation Payload Result → QueueRun Payload Result
  | .enqueue req now => run.enqueue req now
  | .claim req => run.claim req
  | .heartbeat jobId token leaseSeconds now =>
    run.heartbeat jobId token leaseSeconds now
  | .process jobId token enqueued ending =>
    run.process env jobId token enqueued ending
  | .requeue req => run.requeue env req

abbrev Step (env : JobEnvironment Payload) :
    QueueRun Payload Result → QueueOperation Payload Result → QueueRun Payload Result → Prop :=
  stepsOf (fun run op => some (run.operate env op))

end QueueRun

/-- The row's counter is the number of claims of its period, within the
budget, and every claim started the body at most once. -/
structure RowBudget (history : List JobEvent) (jobId : Uuid)
    (row : AgentExecutionJob Payload Result) : Prop where
  counts : row.attemptCount = claimsSince jobId history
  bounded : row.attemptCount ≤ row.maxAttempts
  starts : startsSince jobId history ≤ row.attemptCount
  startLeft : row.status = .leased →
    startsSince jobId history + 1 ≤ row.attemptCount

namespace RowBudget

variable {history : List JobEvent} {jobId : Uuid}
  {row : AgentExecutionJob Payload Result}

theorem other_event (budget : RowBudget history jobId row)
    (notOpening : event.opensPeriod jobId = false)
    (notClaim : event ≠ .claimed jobId) (notStart : event ≠ .started jobId) :
    RowBudget (event :: history) jobId row := by
  have claims : claimsSince jobId (event :: history) = claimsSince jobId history :=
    countSince_cons_of_other notOpening notClaim
  have starts : startsSince jobId (event :: history) = startsSince jobId history :=
    countSince_cons_of_other notOpening notStart
  exact {
    counts := by rw [claims]; exact budget.counts
    bounded := budget.bounded
    starts := by rw [starts]; exact budget.starts
    startLeft := by rw [starts]; exact budget.startLeft }

theorem change_row (budget : RowBudget history jobId row)
    {changed : AgentExecutionJob Payload Result}
    (attempts : changed.attemptCount = row.attemptCount)
    (maxAttempts : changed.maxAttempts = row.maxAttempts)
    (status : changed.status = .leased → row.status = .leased) :
    RowBudget history jobId changed where
  counts := by rw [attempts]; exact budget.counts
  bounded := by rw [attempts, maxAttempts]; exact budget.bounded
  starts := by rw [attempts]; exact budget.starts
  startLeft leased := by rw [attempts]; exact budget.startLeft (status leased)

theorem of_opens (opening : event.opensPeriod jobId = true) (noAttempt : row.attemptCount = 0)
    (bounded : 0 ≤ row.maxAttempts) (notLeased : row.status ≠ .leased) :
    RowBudget (event :: history) jobId row where
  counts := by
    rw [claimsSince, countSince_cons_of_opens opening, noAttempt]
    rfl
  bounded := by rw [noAttempt]; exact bounded
  starts := by
    rw [startsSince, countSince_cons_of_opens opening, noAttempt]
    exact Int.le_refl 0
  startLeft leased := absurd leased notLeased

theorem claimed (budget : RowBudget history jobId row)
    (remaining : row.attemptCount < row.maxAttempts)
    {changed : AgentExecutionJob Payload Result}
    (attempts : changed.attemptCount = row.attemptCount + 1)
    (maxAttempts : changed.maxAttempts = row.maxAttempts) :
    RowBudget (.claimed jobId :: history) jobId changed := by
  have claims : claimsSince jobId (.claimed jobId :: history) = claimsSince jobId history + 1 :=
    countSince_cons_of_counted rfl
  have starts : startsSince jobId (.claimed jobId :: history) = startsSince jobId history :=
    countSince_cons_of_other rfl (by simp)
  have counts := budget.counts
  have started := budget.starts
  exact {
    counts := by rw [claims, attempts, counts]; rfl
    bounded := by rw [attempts, maxAttempts]; exact remaining
    starts := by rw [starts, attempts]; omega
    startLeft := fun _ => by rw [starts, attempts]; omega }

theorem started (budget : RowBudget history jobId row) (leased : row.status = .leased)
    {changed : AgentExecutionJob Payload Result}
    (attempts : changed.attemptCount = row.attemptCount)
    (maxAttempts : changed.maxAttempts = row.maxAttempts)
    (notLeased : changed.status ≠ .leased) :
    RowBudget (.started jobId :: history) jobId changed := by
  have claims : claimsSince jobId (.started jobId :: history) = claimsSince jobId history :=
    countSince_cons_of_other rfl (by simp)
  have starts : startsSince jobId (.started jobId :: history) = startsSince jobId history + 1 :=
    countSince_cons_of_counted rfl
  have left := budget.startLeft leased
  exact {
    counts := by rw [claims, attempts]; exact budget.counts
    bounded := by rw [attempts, maxAttempts]; exact budget.bounded
    starts := by rw [starts, attempts]; exact left
    startLeft := fun nowLeased => absurd nowLeased notLeased }

end RowBudget

/-! ## The budget of every row -/

def WithinBudget (run : QueueRun Payload Result) : Prop :=
  ∀ jobId row, run.store.job? jobId = some row → RowBudget run.history jobId row

namespace WithinBudget

variable {run : QueueRun Payload Result}

theorem initial : WithinBudget (QueueRun.initial : QueueRun Payload Result) := by
  intro jobId row found
  cases found

theorem enqueue (within : WithinBudget run) (req : EnqueueRequest Payload) (now : Time) :
    WithinBudget (run.enqueue req now) := by
  rcases enqueueJob_cases run.store req now with
    ⟨existing, _, same⟩ | ⟨raised, same⟩ | ⟨absent, positive, inserted⟩
  · have unchanged : run.enqueue req now = run := by
      simp [QueueRun.enqueue, same]
    rw [unchanged]
    exact within
  · have unchanged : run.enqueue req now = run := by
      simp [QueueRun.enqueue, same]
    rw [unchanged]
    exact within
  · have history : (run.enqueue req now).history = .created run.store.uuids :: run.history := by
      have drawn : (insertNewJob run.store req now absent).uuids = run.store.uuids + 1 := rfl
      simp [QueueRun.enqueue, inserted, drawn]
    intro jobId row found
    rw [history]
    rcases job?_enqueueJob found with old | ⟨_, rfl, _, rfl⟩
    · have drawn := JobStore.job?_id_lt old
      apply (within jobId row old).other_event
      · simpa [JobEvent.opensPeriod] using Nat.ne_of_gt drawn
      · simp
      · simp
    · exact RowBudget.of_opens (by simp [JobEvent.opensPeriod]) rfl
        (Int.le_of_lt positive) (by simp [newJob])

theorem enqueueAll (requests : List (EnqueueRequest Payload × Time)) :
    ∀ {run : QueueRun Payload Result}, WithinBudget run →
      WithinBudget (run.enqueueAll requests) := by
  induction requests with
  | nil =>
    intro run within
    exact within
  | cons req rest ih =>
    intro run within
    exact ih (within.enqueue req.1 req.2)

theorem commitRow (within : WithinBudget run) {change : JobChange Payload Result}
    {history : List JobEvent} (others : ∀ jobId (row : AgentExecutionJob Payload Result),
      jobId ≠ wanted → RowBudget run.history jobId row → RowBudget history jobId row)
    (changed : ∀ row, run.store.job? wanted = some row → RowBudget run.history wanted row →
        RowBudget history wanted (change.apply row)) :
    WithinBudget ⟨run.store.commitRow wanted change, history⟩ := by
  intro jobId row found
  rw [JobStore.job?_commitRow] at found
  split at found
  · next atWanted =>
      subst jobId
      obtain ⟨old, oldFound, rfl⟩ := Option.map_eq_some_iff.mp found
      exact changed old oldFound (within wanted old oldFound)
  · next other =>
      exact others jobId row other (within jobId row found)

theorem recover (within : WithinBudget run) (req : ClaimRequest) :
    WithinBudget ⟨recoverExpiredLeases run.store req, run.history⟩ := by
  intro jobId row found
  rw [recoverExpiredLeases, JobStore.job?_commitAll] at found
  obtain ⟨old, oldFound, rfl⟩ := Option.map_eq_some_iff.mp found
  have budget := within jobId old oldFound
  simp only [recoverExpired, recoverJob]
  split_ifs
  · exact budget.change_row rfl rfl (fun leased => by cases leased)
  · exact budget.change_row rfl rfl (fun leased => by cases leased)
  · exact budget

theorem claim (within : WithinBudget run) (req : ClaimRequest) : WithinBudget (run.claim req) := by
  have recovered := within.recover req
  rcases claimAgentJob_cases run.store req with
    ⟨raised, same⟩ | nothing | ⟨job, selected, leased⟩
  · simp only [QueueRun.claim, same]
    exact within
  · simp only [QueueRun.claim, nothing]
    exact recovered
  · obtain ⟨jobFound, _, _, remaining, _⟩ := selectQueued_eq_some selected
    have claimedId : (leaseFor req run.store.uuids job).id = job.id := rfl
    simp only [QueueRun.claim, leased, claimedId]
    intro jobId row found
    rw [JobStore.job?_commitLease] at found
    split at found
    · next atJob =>
        subst jobId
        rw [jobFound] at found
        obtain rfl := Option.some.inj found
        exact (recovered job.id job jobFound).claimed remaining rfl rfl
    · next other =>
        apply (recovered jobId row found).other_event
        · rfl
        · simpa using fun same : job.id = jobId => other same.symm
        · simp

theorem heartbeat (within : WithinBudget run)
    (jobId token : Uuid) (leaseSeconds : Int) (now : Time) :
    WithinBudget (run.heartbeat jobId token leaseSeconds now) := by
  rcases heartbeatAgentJob_cases run.store jobId token leaseSeconds now with
    ⟨raised, same⟩ | ⟨job, _, _, _, committed⟩
  · simp only [QueueRun.heartbeat, same]
    exact within
  · simp only [QueueRun.heartbeat, committed]
    exact within.commitRow (fun _ _ _ budget => budget)
      (fun row _ budget => budget.change_row rfl rfl id)

theorem requeue (within : WithinBudget run) (env : JobEnvironment Payload) (req : RequeueRequest) :
    WithinBudget (run.requeue env req) := by
  rcases requeueAgentJob_cases env run.store req with
    ⟨raised, same⟩ | ⟨job, _, _, committed⟩
  · simp only [QueueRun.requeue, same]
    exact within
  · simp only [QueueRun.requeue, committed]
    apply within.commitRow
    · intro jobId row other budget
      apply budget.other_event
      · simpa [JobEvent.opensPeriod] using fun same => other same.symm
      · simp
      · simp
    · intro row _ budget
      refine RowBudget.of_opens (by simp [JobEvent.opensPeriod]) rfl ?_ (by simp [requeueChange])
      have counts := budget.counts
      have bounded := budget.bounded
      simp only [requeueChange]
      split <;> omega

section Process

variable [DecidableEq Result]

theorem start (within : WithinBudget run) {loaded : AgentExecutionJob Payload Result}
    (found : run.store.job? loaded.id = some loaded) (leased : loaded.status = .leased) :
    WithinBudget (run.start loaded) := by
  apply within.commitRow
  · intro jobId row other budget
    apply budget.other_event
    · rfl
    · simp
    · simpa using fun same : loaded.id = jobId => other same.symm
  · intro row rowFound budget
    obtain rfl : loaded = row := Option.some.inj (found.symm.trans rowFound)
    exact budget.started leased rfl rfl (by simp [JobChange.flushed, startChange])

theorem finish (within : WithinBudget run) (env : JobEnvironment Payload) (jobId : Uuid)
    (ending : Option (Except ServiceError Result × Time)) :
    WithinBudget (run.finish env jobId ending) := by
  unfold QueueRun.finish
  split
  · next outcome now loaded read =>
      have found := getAgentJob_eq_ok_iff.mp read
      apply within.commitRow (fun _ _ _ budget => budget)
      intro row rowFound budget
      rw [JobStore.job?_id found] at rowFound
      obtain rfl : loaded = row := Option.some.inj (found.symm.trans rowFound)
      refine budget.change_row rfl rfl ?_
      intro nowLeased
      simp only [JobChange.flushed, flushRow_status, flushColumn_current] at nowLeased
      have ended := (endChange_gives_up env outcome now loaded).2.1
      rw [nowLeased] at ended
      cases ended
  · exact within
  · exact within

theorem process (within : WithinBudget run) (env : JobEnvironment Payload) (jobId token : Uuid)
    (enqueued : List (EnqueueRequest Payload × Time))
    (ending : Option (Except ServiceError Result × Time)) :
    WithinBudget (run.process env jobId token enqueued ending) := by
  unfold QueueRun.process
  split
  · exact within
  · next loaded read =>
      obtain ⟨found, _, leased⟩ := readClaimedJob_eq_ok_iff.mp read
      obtain rfl := JobStore.job?_id found
      exact (enqueueAll enqueued (within.start found leased)).finish env _ ending

theorem operate (within : WithinBudget run) (env : JobEnvironment Payload)
    (op : QueueOperation Payload Result) :
    WithinBudget (run.operate env op) := by
  cases op with
  | enqueue req now =>
    exact within.enqueue req now
  | claim req =>
    exact within.claim req
  | heartbeat jobId token leaseSeconds now =>
    exact within.heartbeat jobId token leaseSeconds now
  | process jobId token enqueued ending =>
    exact within.process env jobId token enqueued ending
  | requeue req =>
    exact within.requeue env req

end Process

end WithinBudget

/-- The job is in status `failed`. -/
def DeadLettered (store : JobStore Payload Result) (jobId : Uuid) : Prop :=
  ∃ row, store.job? jobId = some row ∧ row.status = .failed

def AttemptRaises (run : QueueRun Payload Result) (op : QueueOperation Payload Result)
    (jobId : Uuid) (raised : ServiceError) : Prop :=
  ∃ token enqueued now row, op = .process jobId token enqueued (some (.error raised, now)) ∧
    run.store.job? jobId = some row ∧ row.leaseToken = some token ∧ row.status = .leased

def LeaseRecovered (run : QueueRun Payload Result)
    (op : QueueOperation Payload Result) (jobId : Uuid) : Prop :=
  ∃ req row, op = .claim req ∧
    pyStrip req.workerId ≠ "" ∧
    run.store.job? jobId = some row ∧
    leaseExpired req.now row = true ∧
    req.lockedLeases jobId = false

section DeadLetters

variable {store : JobStore Payload Result} {jobId : Uuid}

theorem deadLettered_enqueueJob (req : EnqueueRequest Payload) (now : Time) :
    DeadLettered (enqueueJob store req now).1 jobId ↔ DeadLettered store jobId := by
  constructor
  · rintro ⟨row, found, failed⟩
    rcases job?_enqueueJob found with old | ⟨_, _, _, rfl⟩
    · exact ⟨row, old, failed⟩
    · cases failed
  · rintro ⟨row, found, failed⟩
    exact ⟨row, job?_enqueueJob_of_some found req now, failed⟩

theorem job?_enqueueAll_of_some (requests : List (EnqueueRequest Payload × Time)) :
    ∀ {run : QueueRun Payload Result} {row : AgentExecutionJob Payload Result},
      run.store.job? jobId = some row → (run.enqueueAll requests).store.job? jobId = some row := by
  induction requests with
  | nil =>
    intro run row found
    exact found
  | cons req rest ih =>
    intro run row found
    have enqueued : (run.enqueue req.1 req.2).store.job? jobId = some row :=
      job?_enqueueJob_of_some found req.1 req.2
    exact ih enqueued

theorem deadLettered_enqueueAll (requests : List (EnqueueRequest Payload × Time)) :
    ∀ {run : QueueRun Payload Result}, DeadLettered (run.enqueueAll requests).store jobId ↔
        DeadLettered run.store jobId := by
  induction requests with
  | nil =>
    intro run
    exact Iff.rfl
  | cons req rest ih =>
    intro run
    have tail : DeadLettered ((run.enqueue req.1 req.2).enqueueAll rest).store jobId ↔
          DeadLettered (run.enqueue req.1 req.2).store jobId :=
      ih
    exact tail.trans (deadLettered_enqueueJob req.1 req.2)

theorem deadLettered_commitRow {change : JobChange Payload Result} :
    DeadLettered (store.commitRow wanted change) jobId ↔ ∃ row, store.job? jobId = some row ∧
        (if jobId = wanted then change.apply row else row).status = .failed := by
  unfold DeadLettered
  rw [JobStore.job?_commitRow]
  by_cases atWanted : jobId = wanted
  · simp [atWanted]
  · simp [atWanted]

theorem recoverExpired_failed_iff (now : Time) (locked : Uuid → Bool)
    (row : AgentExecutionJob Payload Result) :
    ((recoverExpired now locked).apply row).status = .failed ↔ row.status = .failed ∨
        (leaseExpired now row = true ∧ locked row.id = false ∧
          row.maxAttempts ≤ row.attemptCount) := by
  by_cases failed : row.status = .failed
  · simp [recoverExpired, leaseExpired, failed, JobStatus.underLease]
  · simp only [recoverExpired, recoverJob, markDeadLetter]
    split_ifs with selected exhausted
    · simp_all
    · simp_all
    · simp_all

theorem deadLettered_claimAgentJob (req : ClaimRequest) :
    DeadLettered (claimAgentJob store req).1 jobId ↔ DeadLettered store jobId ∨
        ∃ row, store.job? jobId = some row ∧
          pyStrip req.workerId ≠ "" ∧
          leaseExpired req.now row = true ∧
          req.lockedLeases jobId = false ∧
          row.maxAttempts ≤ row.attemptCount := by
  by_cases unnamed : pyStrip req.workerId = ""
  · unfold claimAgentJob
    rw [if_pos unnamed]
    simp [unnamed]
  have recovered : DeadLettered (recoverExpiredLeases store req) jobId ↔
      DeadLettered store jobId ∨ ∃ row, store.job? jobId = some row ∧
          pyStrip req.workerId ≠ "" ∧
          leaseExpired req.now row = true ∧
          req.lockedLeases jobId = false ∧
          row.maxAttempts ≤ row.attemptCount := by
    unfold DeadLettered
    rw [recoverExpiredLeases, JobStore.job?_commitAll]
    cases found : store.job? jobId with
    | none =>
      simp
    | some row =>
      simpa [unnamed, JobStore.job?_id found] using
        recoverExpired_failed_iff req.now req.lockedLeases row
  rcases claimAgentJob_cases store req with
    ⟨raised, same⟩ | nothing | ⟨job, selected, leased⟩
  · simp [claimAgentJob, unnamed] at same
    split at same <;> simp at same
  · rw [nothing]
    exact recovered
  · rw [← recovered, leased]
    obtain ⟨jobFound, queued, _⟩ := selectQueued_eq_some selected
    unfold DeadLettered
    rw [JobStore.job?_commitLease]
    by_cases atJob : jobId = job.id
    · subst atJob
      simp [jobFound, leaseJob, queued]
    · simp [atJob]

theorem deadLettered_heartbeatAgentJob (wanted token : Uuid) (leaseSeconds : Int) (now : Time) :
    DeadLettered (heartbeatAgentJob store wanted token leaseSeconds now).1
      jobId ↔ DeadLettered store jobId := by
  rcases heartbeatAgentJob_cases store wanted token leaseSeconds now with
    ⟨raised, same⟩ | ⟨job, _, _, _, committed⟩
  · rw [same]
  · rw [committed, deadLettered_commitRow]
    have status : ∀ row : AgentExecutionJob Payload Result,
        (if jobId = wanted then (heartbeatChange leaseSeconds now).apply row
          else row).status = row.status := by
      intro row
      split <;> rfl
    simp only [status]
    rfl

theorem deadLettered_of_requeueAgentJob {env : JobEnvironment Payload} {req : RequeueRequest}
    (failed : DeadLettered (requeueAgentJob env store req).1 jobId) :
    DeadLettered store jobId := by
  rcases requeueAgentJob_cases env store req with
    ⟨raised, same⟩ | ⟨job, _, _, committed⟩
  · rw [same] at failed
    exact failed
  · rw [committed, deadLettered_commitRow] at failed
    obtain ⟨row, found, status⟩ := failed
    split at status
    · cases status
    · exact ⟨row, found, status⟩

theorem endChange_failed_iff (env : JobEnvironment Payload) (outcome : Except ServiceError Result)
    (now : Time) (row : AgentExecutionJob Payload Result) :
    ((endChange env outcome now).apply row).status = .failed ↔ ∃ raised, outcome = .error raised ∧
        (raised.isDomainValidation = true ∨ row.maxAttempts ≤ row.attemptCount) := by
  cases outcome with
  | ok res =>
    simp [endChange, completeJob]
  | error raised =>
    simp only [endChange, failJob, Except.error.injEq, exists_eq_left']
    split
    · next exhausted =>
        simpa [markDeadLetter] using exhausted
    · next retried =>
        simpa using retried

variable [DecidableEq Result]

theorem job?_body {run : QueueRun Payload Result} {loaded : AgentExecutionJob Payload Result}
    (found : run.store.job? loaded.id = some loaded)
    (enqueued : List (EnqueueRequest Payload × Time)) :
    ((run.start loaded).enqueueAll enqueued).store.job? loaded.id =
      some (startChange.apply loaded) := by
  apply job?_enqueueAll_of_some
  unfold QueueRun.start
  rw [JobStore.job?_commitLoaded, if_pos rfl, found, Option.map_some]
  simp [flushRow, startChange]

theorem deadLettered_body_of_ne {run : QueueRun Payload Result}
    {loaded : AgentExecutionJob Payload Result}
    (other : jobId ≠ loaded.id)
    (enqueued : List (EnqueueRequest Payload × Time)) :
    DeadLettered ((run.start loaded).enqueueAll enqueued).store jobId ↔
      DeadLettered run.store jobId := by
  rw [deadLettered_enqueueAll]
  unfold QueueRun.start DeadLettered
  rw [JobStore.job?_commitLoaded, if_neg other]

theorem deadLettered_finish (env : JobEnvironment Payload) {run : QueueRun Payload Result}
    {row : AgentExecutionJob Payload Result} (found : run.store.job? jobId = some row)
    (alive : row.status ≠ .failed) (ending : Option (Except ServiceError Result × Time)) :
    DeadLettered (run.finish env jobId ending).store jobId ↔
      ∃ raised now, ending = some (.error raised, now) ∧ (raised.isDomainValidation = true ∨
          row.maxAttempts ≤ row.attemptCount) := by
  have read := getAgentJob_eq_ok_iff.mpr found
  unfold DeadLettered
  cases ending with
  | none =>
    simp [QueueRun.finish, found, alive]
  | some ended =>
    obtain ⟨outcome, now⟩ := ended
    simp only [QueueRun.finish, read]
    rw [JobStore.job?_commitLoaded, if_pos (JobStore.job?_id found).symm, found, Option.map_some]
    simp [endChange_failed_iff]

theorem deadLettered_finish_of_ne (env : JobEnvironment Payload) (run : QueueRun Payload Result)
    (other : jobId ≠ wanted) (ending : Option (Except ServiceError Result × Time)) :
    DeadLettered (run.finish env wanted ending).store jobId ↔ DeadLettered run.store jobId := by
  unfold QueueRun.finish
  split
  · next outcome now loaded read =>
      have atLoaded := JobStore.job?_id (getAgentJob_eq_ok_iff.mp read)
      unfold DeadLettered
      rw [JobStore.job?_commitLoaded, atLoaded, if_neg other]
  · exact Iff.rfl
  · exact Iff.rfl

theorem deadLettered_process (env : JobEnvironment Payload) (run : QueueRun Payload Result)
    (wanted token : Uuid) (enqueued : List (EnqueueRequest Payload × Time))
    (ending : Option (Except ServiceError Result × Time)) :
    DeadLettered (run.process env wanted token enqueued ending).store jobId ↔
      DeadLettered run.store jobId ∨ ∃ row raised now, jobId = wanted ∧
          run.store.job? jobId = some row ∧ row.leaseToken = some token ∧
          row.status = .leased ∧ ending = some (.error raised, now) ∧
          (raised.isDomainValidation = true ∨ row.maxAttempts ≤ row.attemptCount) := by
  unfold QueueRun.process
  cases read : readClaimedJob run.store wanted token with
  | error raised =>
    simp only
    constructor
    · exact Or.inl
    · rintro (failed | ⟨row, _, _, rfl, found, held, leased, _⟩)
      · exact failed
      · rw [readClaimedJob_eq_ok_iff.mpr ⟨found, held, leased⟩] at read
        cases read
  | ok loaded =>
    obtain ⟨found, held, leased⟩ := readClaimedJob_eq_ok_iff.mp read
    obtain rfl := JobStore.job?_id found
    by_cases atJob : jobId = loaded.id
    · subst atJob
      have notBefore : ¬ DeadLettered run.store loaded.id := by
        rintro ⟨row, rowFound, failed⟩
        obtain rfl : loaded = row :=
          Option.some.inj (found.symm.trans rowFound)
        rw [leased] at failed
        cases failed
      refine (deadLettered_finish env (job?_body found enqueued)
        (by simp [startChange]) ending).trans ?_
      constructor
      · rintro ⟨raised, now, ended, ends⟩
        exact Or.inr ⟨loaded, raised, now, rfl, found, held, leased, ended, ends⟩
      · rintro (failed | ⟨row, raised, now, _, rowFound, _, _, ended, ends⟩)
        · exact absurd failed notBefore
        · obtain rfl : loaded = row :=
            Option.some.inj (found.symm.trans rowFound)
          exact ⟨raised, now, ended, ends⟩
    · refine ((deadLettered_finish_of_ne env _ atJob ending).trans
        (deadLettered_body_of_ne atJob enqueued)).trans ?_
      constructor
      · exact Or.inl
      · rintro (failed | ⟨_, _, _, same, _⟩)
        · exact failed
        · exact absurd same atJob

theorem entersFailed_iff {env : JobEnvironment Payload} {run : QueueRun Payload Result}
    (within : WithinBudget run) (op : QueueOperation Payload Result) (jobId : Uuid) :
    (DeadLettered (run.operate env op).store jobId ∧ ¬ DeadLettered run.store jobId) ↔
      (∃ raised, AttemptRaises run op jobId raised ∧ raised.isDomainValidation = true) ∨
      (∃ row, run.store.job? jobId = some row ∧ row.attemptCount = row.maxAttempts ∧
        ((∃ raised, AttemptRaises run op jobId raised) ∨ LeaseRecovered run op jobId)) := by
  have exhausted : ∀ row, run.store.job? jobId = some row → (row.maxAttempts ≤ row.attemptCount ↔
        row.attemptCount = row.maxAttempts) := by
    intro row found
    have bounded := (within jobId row found).bounded
    omega
  have notDead : ∀ row, run.store.job? jobId = some row →
      row.status ≠ .failed → ¬ DeadLettered run.store jobId := by
    rintro row found alive ⟨other, otherFound, failed⟩
    obtain rfl : row = other := Option.some.inj (found.symm.trans otherFound)
    exact alive failed
  cases op with
  | enqueue req now =>
    simp only [QueueRun.operate, QueueRun.enqueue, deadLettered_enqueueJob,
      AttemptRaises, LeaseRecovered]
    simp
  | claim req =>
    simp only [QueueRun.operate, QueueRun.claim, deadLettered_claimAgentJob]
    constructor
    · rintro ⟨failed | ⟨row, found, named, expired, unlocked, ends⟩, before⟩
      · exact absurd failed before
      · exact Or.inr ⟨row, found, (exhausted row found).mp ends,
          Or.inr ⟨req, row, rfl, named, found, expired, unlocked⟩⟩
    · rintro (⟨_, ⟨_, _, _, _, impossible, _⟩, _⟩ |
        ⟨row, found, ends, ⟨_, _, _, _, _, impossible, _⟩ | recovered⟩)
      · cases impossible
      · cases impossible
      · obtain ⟨other, otherRow, same, named, otherFound, expired, unlocked⟩ :=
          recovered
        obtain rfl : req = other := QueueOperation.claim.inj same
        obtain rfl : row = otherRow :=
          Option.some.inj (found.symm.trans otherFound)
        refine ⟨Or.inr ⟨row, found, named, expired, unlocked,
          (exhausted row found).mpr ends⟩, notDead row found ?_⟩
        intro failed
        simp [leaseExpired, failed, JobStatus.underLease] at expired
  | heartbeat wanted token leaseSeconds now =>
    simp only [QueueRun.operate, QueueRun.heartbeat,
      deadLettered_heartbeatAgentJob, AttemptRaises, LeaseRecovered]
    simp
  | process wanted token enqueued ending =>
    simp only [QueueRun.operate, deadLettered_process]
    constructor
    · rintro ⟨failed | ⟨row, raised, now, rfl, found, held, leased, rfl, domain | ends⟩, before⟩
      · exact absurd failed before
      · exact Or.inl ⟨raised, ⟨token, enqueued, now, row, rfl, found, held, leased⟩, domain⟩
      · exact Or.inr ⟨row, found, (exhausted row found).mp ends,
          Or.inl ⟨raised, token, enqueued, now, row, rfl, found, held, leased⟩⟩
    · rintro (⟨raised, ⟨_, _, now, row, same, found, held, leased⟩, domain⟩ |
        ⟨row, found, ends, ⟨raised, _, _, now, other, same, otherFound, held,
          leased⟩ | ⟨_, _, impossible, _⟩⟩)
      · obtain ⟨rfl, rfl, rfl, rfl⟩ := QueueOperation.process.inj same
        refine ⟨Or.inr ⟨row, raised, now, rfl, found, held, leased, rfl,
          Or.inl domain⟩, notDead row found (by simp [leased])⟩
      · obtain ⟨rfl, rfl, rfl, rfl⟩ := QueueOperation.process.inj same
        obtain rfl : row = other :=
          Option.some.inj (found.symm.trans otherFound)
        refine ⟨Or.inr ⟨row, raised, now, rfl, found, held, leased, rfl,
          Or.inr ((exhausted row found).mpr ends)⟩,
          notDead row found (by simp [leased])⟩
      · cases impossible
  | requeue req =>
    simp only [QueueRun.operate, QueueRun.requeue, AttemptRaises, LeaseRecovered]
    constructor
    · rintro ⟨failed, before⟩
      exact absurd (deadLettered_of_requeueAgentJob failed) before
    · simp

/-- In every run each job's counter is its claims since it was created or last requeued, within
`max_attempts`, and bounds the starts of the body; a job fails exactly when its attempt raises a
`DomainValidationError` or ends without budget. -/
theorem attemptBudget_of_execution {env : JobEnvironment Payload}
    {operations : List (QueueOperation Payload Result)} {run : QueueRun Payload Result}
    (exec : Execution (QueueRun.Step env) QueueRun.initial operations run) :
    (∀ jobId job, run.store.job? jobId = some job →
      job.attemptCount = claimsSince jobId run.history ∧
      0 ≤ job.attemptCount ∧ job.attemptCount ≤ job.maxAttempts ∧
      startsSince jobId run.history ≤ job.maxAttempts) ∧
    ∀ op after, QueueRun.Step env run op after → ∀ jobId,
        (DeadLettered after.store jobId ∧ ¬ DeadLettered run.store jobId) ↔
          (∃ raised, AttemptRaises run op jobId raised ∧ raised.isDomainValidation = true) ∨
          (∃ row, run.store.job? jobId = some row ∧ row.attemptCount = row.maxAttempts ∧
            ((∃ raised, AttemptRaises run op jobId raised) ∨ LeaseRecovered run op jobId)) := by
  have within : WithinBudget run := by
    refine exec.invariant WithinBudget WithinBudget.initial ?_
    intro before op after held taken
    obtain rfl := Option.some.inj taken
    exact held.operate env op
  constructor
  · intro jobId job found
    have budget := within jobId job found
    have counts := budget.counts
    have bounded := budget.bounded
    have starts := budget.starts
    refine ⟨counts, by omega, bounded, by omega⟩
  · intro op after taken jobId
    obtain rfl := Option.some.inj taken
    exact entersFailed_iff within op jobId

end DeadLetters

def retriedOperations : List (QueueOperation Unit Nat) :=
  [.enqueue reconciliationRequest 0, .claim (claimAt 0), .claim (claimAt 400),
    .process 0 2 [] (some (.error (.unexpected "timeout"), 410))]

def retriedRun : QueueRun Unit Nat :=
  (perform (fun run op => some (run.operate plainEnvironment op))
    .initial retriedOperations).get (by rfl)

theorem attemptBudget_of_execution_retried :
    ((retriedRun.store.job? 0).get (by rfl)).attemptCount = claimsSince 0 retriedRun.history ∧
      claimsSince 0 retriedRun.history = 2 := by
  have budget := attemptBudget_of_execution (Execution.of_perform (Option.some_get _).symm :
      Execution (QueueRun.Step plainEnvironment) .initial retriedOperations retriedRun)
  exact ⟨(budget.1 0 _ (Option.some_get _).symm).1, by rfl⟩

end ModelAtlas.Jobs
