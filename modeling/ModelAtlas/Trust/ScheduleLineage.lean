import ModelAtlas.Foundations.Yields
import ModelAtlas.Trust.Schedule

/-!
# One live run for each schedule

The run sequence of a schedule never falls and a job keeps its payload, so a job
that a newer run superseded fails the lineage check for ever.
-/

namespace ModelAtlas.Trust

open Foundations Approval Jobs

/-! ## What a transaction keeps -/

def KeepsJobs (before after : TrustJobStore) : Prop :=
  ∀ jobId row, before.job? jobId = some row →
    ∃ later, after.job? jobId = some later ∧ SameJob row later

def KeepsRuns (before after : ScheduleTable) : Prop :=
  ∀ schedule ∈ before, ∃ later ∈ after, later.id = schedule.id ∧
    schedule.runSequence ≤ later.runSequence

def KeepsKeys (before after : TrustRegistry) : Prop :=
  after.roots = before.roots ∧ after.syncs = before.syncs

theorem KeepsJobs.refl (store : TrustJobStore) : KeepsJobs store store :=
  fun _ row found => ⟨row, found, SameJob.refl⟩

theorem KeepsJobs.trans {first second third : TrustJobStore}
    (before : KeepsJobs first second) (after : KeepsJobs second third) :
    KeepsJobs first third := by
  intro jobId row found
  obtain ⟨middle, middleFound, toMiddle⟩ := before jobId row found
  obtain ⟨last, lastFound, toLast⟩ := after jobId middle middleFound
  exact ⟨last, lastFound, toMiddle.trans toLast⟩

theorem KeepsRuns.refl (schedules : ScheduleTable) : KeepsRuns schedules schedules :=
  fun schedule mem => ⟨schedule, mem, rfl, Nat.le_refl _⟩

theorem KeepsRuns.trans {first second third : ScheduleTable}
    (before : KeepsRuns first second) (after : KeepsRuns second third) :
    KeepsRuns first third := by
  intro schedule mem
  obtain ⟨middle, middleMem, middleId, toMiddle⟩ := before schedule mem
  obtain ⟨last, lastMem, lastId, toLast⟩ := after middle middleMem
  exact ⟨last, lastMem, lastId.trans middleId, Nat.le_trans toMiddle toLast⟩

theorem KeepsKeys.refl (reg : TrustRegistry) : KeepsKeys reg reg :=
  ⟨rfl, rfl⟩

theorem KeepsKeys.trans {first second third : TrustRegistry}
    (before : KeepsKeys first second) (after : KeepsKeys second third) :
    KeepsKeys first third :=
  ⟨after.1.trans before.1, after.2.trans before.2⟩

structure Schedules (before after : ScheduleTables) : Prop where
  jobs : KeepsJobs before.store after.store
  runs : KeepsRuns before.schedules after.schedules
  keys : KeepsKeys before.registry after.registry

namespace Schedules

theorem refl (tables : ScheduleTables) : Schedules tables tables where
  jobs := KeepsJobs.refl tables.store
  runs := KeepsRuns.refl tables.schedules
  keys := KeepsKeys.refl tables.registry

theorem trans {first second third : ScheduleTables}
    (before : Schedules first second) (after : Schedules second third) :
    Schedules first third where
  jobs := before.jobs.trans after.jobs
  runs := before.runs.trans after.runs
  keys := before.keys.trans after.keys

end Schedules

def ScheduleChange.Advances (change : ScheduleChange) : Prop :=
  ∀ schedule, schedule.runSequence ≤ (change.apply schedule).runSequence

theorem keepsRuns_changeSchedule {change : ScheduleChange} (advances : change.Advances)
    (schedules : ScheduleTable) (scheduleId : Uuid) :
    KeepsRuns schedules (changeSchedule schedules scheduleId change) := by
  intro schedule mem
  have changed : change.onlyAt scheduleId schedule ∈ changeSchedule schedules scheduleId change :=
    UniqueRows.mem_update.mpr ⟨schedule, mem, rfl⟩
  refine ⟨_, changed, (change.onlyAt_keeps scheduleId schedule).1, ?_⟩
  rw [ScheduleChange.onlyAt]
  split
  · exact advances schedule
  · exact Nat.le_refl _

theorem schedules_change {change : ScheduleChange} (advances : change.Advances)
    (tables : ScheduleTables) (scheduleId : Uuid) :
    Schedules tables (tables.change scheduleId change) where
  jobs := KeepsJobs.refl tables.store
  runs := keepsRuns_changeSchedule advances tables.schedules scheduleId
  keys := KeepsKeys.refl tables.registry

theorem keepsJobs_cancelJob (store : TrustJobStore) (cancelled : Option TrustJob) (now : Time) :
    KeepsJobs store (cancelJob store cancelled now) := by
  cases cancelled with
  | none => exact KeepsJobs.refl store
  | some loaded =>
    intro jobId row found
    have same : SameJob row (((cancelChange now).flushed loaded).apply row) :=
      SameJob.of_change _
    rw [cancelJob, JobStore.job?_commitLoaded, found]
    by_cases atJob : jobId = loaded.id
    · rw [if_pos atJob, Option.map_some]
      exact ⟨_, rfl, same⟩
    · rw [if_neg atJob]
      exact ⟨row, rfl, SameJob.refl⟩

theorem keepsJobs_insertNewJob {store : TrustJobStore}
    {req : EnqueueRequest (Option TrustJobPayload)} {now : Time}
    (absent : store.byDedupeKey? req.dedupeKey = none) :
    KeepsJobs store (insertNewJob store req now absent) := by
  intro jobId row found
  have drawn := JobStore.job?_id_lt found
  refine ⟨row, ?_, SameJob.refl⟩
  rw [job?_insertNewJob, if_neg (Nat.ne_of_gt drawn)]
  exact found

section Transactions

variable (env : ScheduleEnvironment) (tables : ScheduleTables)
  (session : Uuid → Option TrustJob)

theorem upsertEvidenceTrustSourceSchedule_schedules
    (trustSourceId : Uuid) (payload : EvidenceTrustSourceScheduleUpsert)
    (signerIdentity : SignerIdentity) (clock : ServiceClock) :
    Yields (upsertEvidenceTrustSourceSchedule env tables session
        trustSourceId payload signerIdentity clock)
      (Schedules tables) := by
  refine Yields.bind (Yields.self _) (fun _ _ => ?_)
  cases tables.registry.sources.find? trustSourceId with
  | none => exact Yields.throw _
  | some source =>
    refine Yields.check (fun _ => ?_)
    dsimp only
    cases tables.scheduleOf? source.id with
    | none =>
      refine Yields.bind (Yields.self _) (fun schedules added => ?_)
      have kept : KeepsRuns tables.schedules schedules := by
        intro schedule mem
        exact ⟨schedule, (addRow_eq_ok added schedule).mpr (Or.inl mem),
          rfl, Nat.le_refl _⟩
      exact Yields.pure ⟨KeepsJobs.refl _, kept, rfl, rfl⟩
    | some schedule =>
      refine Yields.bind (Yields.self _) (fun cancelled _ => ?_)
      have advances : (policyChange env payload
          (nextPolicyRunAt env (some schedule) payload clock.now
            source.id) signerIdentity).Advances :=
        fun _ => Nat.le_refl _
      have changed := schedules_change advances tables schedule.id
      exact Yields.pure ⟨keepsJobs_cancelJob tables.store cancelled clock.now,
          changed.runs, changed.keys⟩

theorem requestEvidenceTrustSourceScheduleRun_schedules
    (trustSourceId : Uuid) (signerIdentity : SignerIdentity) (now : Time) :
    Yields (requestEvidenceTrustSourceScheduleRun env tables session
        trustSourceId signerIdentity now)
      (Schedules tables) := by
  refine Yields.bind (Yields.self _) (fun _ _ => ?_)
  cases tables.scheduleOf? trustSourceId with
  | none => exact Yields.throw _
  | some schedule =>
    refine Yields.check (fun _ => ?_)
    refine Yields.bind (Yields.self _) (fun cancelled _ => ?_)
    have advances : (runNowChange now).Advances := fun _ => Nat.le_refl _
    have changed := schedules_change advances tables schedule.id
    exact Yields.pure ⟨keepsJobs_cancelJob tables.store cancelled now, changed.runs, changed.keys⟩

theorem enqueueRun_schedules (req : DueRequest) (schedule : EvidenceTrustSourceSchedule) :
    Yields (enqueueRun env req tables schedule) (Schedules tables) := by
  rw [enqueueRun]
  dsimp only
  split
  · exact Yields.error _
  · next absent =>
      have advances : (runChange tables.store.uuids (env.tokenHash tables.registry.drawn
            (tables.registry.drawn + 1))
          (pyClip 160 (pyStrip req.schedulerId)) req.now
          (req.now + req.boundedLease)).Advances :=
        fun stored => Nat.le_succ stored.runSequence
      have changed := schedules_change advances tables schedule.id
      exact Yields.ok ⟨keepsJobs_insertNewJob absent, changed.runs, changed.keys⟩

theorem enqueueDueSchedule_schedules (req : DueRequest) (schedule : EvidenceTrustSourceSchedule) :
    Yields (enqueueDueSchedule env req session tables schedule) (Schedules tables) := by
  rw [enqueueDueSchedule]
  split
  · exact Yields.ok (schedules_change (fun _ => Nat.le_refl _) tables schedule.id)
  · split
    · next job _ =>
        by_cases unmarked : jobFingerprint job = ""
        · rw [if_pos unmarked]
          exact Yields.ok (Schedules.refl tables)
        · rw [if_neg unmarked]
          exact Yields.ok (schedules_change (fun _ => Nat.le_refl _) tables schedule.id)
    · exact enqueueRun_schedules env tables req schedule

theorem enqueueDueTrustSourceSyncJobs_schedules (req : DueRequest)
      : Yields (enqueueDueTrustSourceSyncJobs env tables session req) (Schedules tables) := by
  refine Yields.bind (Yields.self _) (fun _ _ => ?_)
  refine Yields.check (fun _ => ?_)
  refine Yields.foldlM ?_ _ tables (Schedules.refl tables)
  intro reached schedule held
  exact (enqueueDueSchedule_schedules env reached session req
    schedule).mono (fun _ next => held.trans next)

theorem executeTrustSourceSyncJob_cases (job : TrustJob) (req : SyncRequest) : Schedules tables
        (executeTrustSourceSyncJob env tables job req).1 ∨
    ∃ payload schedule, job.payloadJson = some payload ∧ schedule ∈ tables.schedules ∧
      schedule.id = payload.scheduleId ∧ lineageMatches schedule job payload = true ∧
      (executeTrustSourceSyncJob env tables job req).1.store = tables.store ∧
      (executeTrustSourceSyncJob env tables job req).1.schedules =
        tables.schedules := by
  rw [executeTrustSourceSyncJob]
  cases given : job.payloadJson with
  | none => exact Or.inl (Schedules.refl tables)
  | some payload =>
    dsimp only
    cases found : tables.schedule? payload.scheduleId with
    | none => exact Or.inl (Schedules.refl tables)
    | some schedule =>
      have mem : schedule ∈ tables.schedules :=
        List.mem_of_find?_eq_some found
      have sameId : schedule.id = payload.scheduleId := by
        simpa using List.find?_some found
      dsimp only
      by_cases matching : lineageMatches schedule job payload = true
      · rw [if_pos matching]
        split
        · exact Or.inl (Schedules.refl tables)
        · exact Or.inr ⟨payload, schedule, rfl, mem, sameId, matching, rfl, rfl⟩
      · rw [if_neg matching]
        split
        · exact Or.inl (schedules_change (fun _ => Nat.le_refl _) tables schedule.id)
        · exact Or.inl (Schedules.refl tables)

theorem settleTrustSourceSync_schedules (job : TrustJob) (payload : TrustJobPayload)
    (sync : EvidenceTrustSourceSync) :
    Schedules tables (settleTrustSourceSync env tables job payload sync).1 := by
  rw [settleTrustSourceSync]
  split
  · exact Schedules.refl tables
  · next schedule _ =>
      split
      · exact schedules_change (fun _ => Nat.le_refl _) tables schedule.id
      · dsimp only
        split
        · exact schedules_change (fun _ => Nat.le_refl _) tables schedule.id
        · exact schedules_change (fun _ => Nat.le_refl _) tables schedule.id

end Transactions

section Steps

open ScheduleState

variable {env : ScheduleEnvironment} {before after : ScheduleState}
  {action : ScheduleAction}

theorem tables_endTransaction (process : Nat) {answer : Except ServiceError ScheduleTables}
    (schedules : Yields answer (Schedules before.tables)) :
    Schedules before.tables (before.endTransaction process answer).tables := by
  cases answer with
  | error raised => exact Schedules.refl before.tables
  | ok tables => exact schedules tables rfl

structure SyncsJob (before after : ScheduleState) (action : ScheduleAction)
    (job : TrustJob) : Prop where
  executed : ∃ worker req, action = .executeSync worker req ∧
    before.syncJob? worker = some job
  lineage : ∃ payload schedule, job.payloadJson = some payload ∧
    schedule ∈ before.schedules ∧ schedule.id = payload.scheduleId ∧
    lineageMatches schedule job payload = true
  jobs : after.queue.store = before.queue.store
  schedules : after.schedules = before.schedules

theorem schedules_or_syncsJob (taken : Step env before action after) :
    Schedules before.tables after.tables ∨ ∃ job, SyncsJob before after action job := by
  have stepped : before.next env action = some after := taken
  cases action with
  | queue queueAction =>
    rw [next] at stepped
    by_cases admitted : before.admits queueAction = true
    · rw [if_pos admitted] at stepped
      obtain ⟨queue, moved, rfl⟩ := Option.map_eq_some_iff.mp stepped
      refine Or.inl ⟨?_, KeepsRuns.refl _, KeepsKeys.refl _⟩
      intro jobId row found
      exact sameJob_of_step moved found
    · rw [if_neg admitted] at stepped
      cases stepped
  | load process jobId =>
    obtain rfl := Option.some.inj stepped
    exact Or.inl (Schedules.refl before.tables)
  | upsert process trustSourceId payload signerIdentity clock =>
    obtain rfl := Option.some.inj stepped
    exact Or.inl (tables_endTransaction process
      (upsertEvidenceTrustSourceSchedule_schedules env before.tables
        (before.session process) trustSourceId payload signerIdentity clock))
  | requestRun process trustSourceId signerIdentity now =>
    obtain rfl := Option.some.inj stepped
    exact Or.inl (tables_endTransaction process (requestEvidenceTrustSourceScheduleRun_schedules env
        before.tables (before.session process) trustSourceId signerIdentity
        now))
  | enqueueDue process req =>
    obtain rfl := Option.some.inj stepped
    exact Or.inl (tables_endTransaction process
      (enqueueDueTrustSourceSyncJobs_schedules env before.tables (before.session process) req))
  | executeSync worker req =>
    simp only [next] at stepped
    split at stepped
    · next job running _ =>
        obtain rfl := Option.some.inj stepped
        rcases executeTrustSourceSyncJob_cases env before.tables job req with kept | synced
        · exact Or.inl kept
        · obtain ⟨payload, schedule, given, mem, sameId, matching, jobs, schedules⟩ := synced
          exact Or.inr ⟨job,
            { executed := ⟨worker, req, rfl, running⟩
              lineage :=
                ⟨payload, schedule, given, mem, sameId, matching⟩
              jobs := jobs
              schedules := schedules }⟩
    · cases stepped
  | settleSync worker =>
    simp only [next] at stepped
    split at stepped
    · next job payload sync _ =>
        obtain rfl := Option.some.inj stepped
        exact Or.inl (settleTrustSourceSync_schedules env before.tables job payload sync)
    · cases stepped
  | endSync worker =>
    simp only [next] at stepped
    split at stepped
    · obtain ⟨queue, moved, rfl⟩ := Option.map_eq_some_iff.mp stepped
      refine Or.inl ⟨?_, KeepsRuns.refl _, KeepsKeys.refl _⟩
      intro jobId row found
      exact sameJob_of_step moved found
    · cases stepped

theorem keepsRuns_of_step (taken : Step env before action after) :
    KeepsRuns before.schedules after.schedules := by
  rcases schedules_or_syncsJob taken with kept | ⟨job, synced⟩
  · exact kept.runs
  · rw [synced.schedules]
    exact KeepsRuns.refl before.schedules

theorem keepsJobs_of_step (taken : Step env before action after) :
    KeepsJobs before.queue.store after.queue.store := by
  rcases schedules_or_syncsJob taken with kept | ⟨job, synced⟩
  · exact kept.jobs
  · rw [synced.jobs]
    exact KeepsJobs.refl before.queue.store

theorem syncsJob_of_step (taken : Step env before action after)
    (changed : ¬ KeepsKeys before.registry after.registry) :
    ∃ job, SyncsJob before after action job := by
  rcases schedules_or_syncsJob taken with kept | synced
  · exact absurd kept.keys changed
  · exact synced

end Steps

section Runs

variable {env : ScheduleEnvironment} {state : ScheduleState}

theorem schedule_eq_of_id {schedules : ScheduleTable} {left right : EvidenceTrustSourceSchedule}
    (leftMem : left ∈ schedules) (rightMem : right ∈ schedules)
    (sameId : left.id = right.id) : left = right :=
  UniqueRows.eq_of_clash leftMem rightMem
    (by simp [sameSchedule, sameId]) (by simp [sameSchedule, sameId])

theorem syncJob?_eq_some {worker : Nat} {job : TrustJob}
    (running : state.syncJob? worker = some job) :
    state.queue.store.job? job.id = some job := by
  rw [ScheduleState.syncJob?] at running
  split at running
  · next jobId token _ =>
      have found : state.queue.store.job? jobId = some job :=
        (Option.filter_eq_some_iff.mp running).1
      have atJob : job.id = jobId := JobStore.job?_id found
      rw [atJob]
      exact found
  · cases running

/-- A queued, leased or running job whose execution would pass the check. -/
structure LiveJob (state : ScheduleState)
    (schedule : EvidenceTrustSourceSchedule) (job : TrustJob) : Prop where
  mem : schedule ∈ state.schedules
  found : state.queue.store.job? job.id = some job
  jobType : job.jobType = .trustSourceSync
  active : job.status.active = true
  lineage : ∃ payload, job.payloadJson = some payload ∧
    schedule.id = payload.scheduleId ∧
    lineageMatches schedule job payload = true

theorem lastJobId_of_lineageMatches {schedule : EvidenceTrustSourceSchedule} {job : TrustJob}
    {payload : TrustJobPayload} (matching : lineageMatches schedule job payload = true) :
    schedule.lastJobId = some job.id ∧ schedule.policyHash = payload.policyHash ∧
      schedule.runSequence = payload.runSequence := by
  simp only [lineageMatches, Bool.and_eq_true, decide_eq_true_eq] at matching
  exact ⟨matching.1.1.1.1.2, matching.1.1.1.2, matching.1.1.2⟩

theorem LiveJob.eq {schedule : EvidenceTrustSourceSchedule} {left right : TrustJob}
    (leftLive : LiveJob state schedule left)
    (rightLive : LiveJob state schedule right) : left = right := by
  obtain ⟨leftPayload, _, _, leftMatching⟩ := leftLive.lineage
  obtain ⟨rightPayload, _, _, rightMatching⟩ := rightLive.lineage
  have leftLast := (lastJobId_of_lineageMatches leftMatching).1
  have rightLast := (lastJobId_of_lineageMatches rightMatching).1
  have sameId : left.id = right.id :=
    Option.some.inj (leftLast.symm.trans rightLast)
  have found := leftLive.found
  rw [sameId, rightLive.found] at found
  exact (Option.some.inj found).symm

def Superseded (state : ScheduleState) (jobId : Uuid) : Prop :=
  ∃ job payload schedule, state.queue.store.job? jobId = some job ∧ job.payloadJson = some payload ∧
    schedule ∈ state.schedules ∧ schedule.id = payload.scheduleId ∧
    payload.runSequence < schedule.runSequence

def OtherPolicy (state : ScheduleState) (job : TrustJob) : Prop :=
  ∃ payload schedule, job.payloadJson = some payload ∧ schedule ∈ state.schedules ∧
    schedule.id = payload.scheduleId ∧ schedule.policyHash ≠ payload.policyHash

theorem superseded_of_step {after : ScheduleState} {action : ScheduleAction} {jobId : Uuid}
    (superseded : Superseded state jobId) (taken : ScheduleState.Step env state action after) :
    Superseded after jobId := by
  obtain ⟨job, payload, schedule, found, given, mem, sameId, older⟩ :=
    superseded
  obtain ⟨later, laterFound, same⟩ := keepsJobs_of_step taken jobId job found
  obtain ⟨next, nextMem, nextId, grown⟩ :=
    keepsRuns_of_step taken schedule mem
  exact ⟨later, payload, next, laterFound, same.payloadJson.trans given,
    nextMem, nextId.trans sameId, Nat.lt_of_lt_of_le older grown⟩

theorem keepsKeys_of_executeSync {after : ScheduleState} {worker : Nat} {req : SyncRequest}
    {job : TrustJob} (running : state.syncJob? worker = some job)
    (refused : Superseded state job.id ∨ OtherPolicy state job)
    (taken : ScheduleState.Step env state (.executeSync worker req) after) :
    KeepsKeys state.registry after.registry := by
  rcases schedules_or_syncsJob taken with kept | ⟨other, synced⟩
  · exact kept.keys
  obtain ⟨executing, asked, sameAction, executed⟩ := synced.executed
  have sameWorker : worker = executing := by
    cases sameAction
    rfl
  have sameJob : other = job := by
    rw [← sameWorker, running] at executed
    exact (Option.some.inj executed).symm
  obtain ⟨payload, schedule, given, mem, sameId, matching⟩ := synced.lineage
  obtain ⟨_, samePolicy, sameRun⟩ := lastJobId_of_lineageMatches matching
  rw [sameJob] at given
  exfalso
  cases refused with
  | inl superseded =>
    obtain ⟨row, rowPayload, newer, found, rowGiven, newerMem, newerId, older⟩ := superseded
    have sameRow : row = job :=
      Option.some.inj (found.symm.trans (syncJob?_eq_some running))
    have samePayload : rowPayload = payload := by
      rw [sameRow, given] at rowGiven
      exact (Option.some.inj rowGiven).symm
    have sameSchedule : newer = schedule :=
      schedule_eq_of_id newerMem mem (newerId.trans (samePayload ▸ sameId.symm))
    rw [sameSchedule, samePayload] at older
    omega
  | inr otherPolicy =>
    obtain ⟨rowPayload, newer, rowGiven, newerMem, newerId, different⟩ :=
      otherPolicy
    have samePayload : rowPayload = payload :=
      Option.some.inj (rowGiven.symm.trans given)
    have sameSchedule : newer = schedule :=
      schedule_eq_of_id newerMem mem (newerId.trans (samePayload ▸ sameId.symm))
    rw [sameSchedule, samePayload] at different
    exact different samePolicy

/-- In every run a schedule has one live job at most, its run sequence does not fall, and keys
are applied only by a job of the lineage check, never by a superseded one or under another
policy. -/
theorem scheduledSync_of_execution {start : ScheduleState} {actions : List ScheduleAction}
    (exec : Execution (ScheduleState.Step env) start actions state) :
    (∀ schedule left right, LiveJob state schedule left →
      LiveJob state schedule right → left = right) ∧
    KeepsRuns start.schedules state.schedules ∧
    (∀ action after, ScheduleState.Step env state action after →
      ¬ KeepsKeys state.registry after.registry → ∃ job, SyncsJob state after action job) ∧
    (∀ worker req job after, state.syncJob? worker = some job →
      Superseded start job.id ∨ OtherPolicy state job →
        ScheduleState.Step env state (.executeSync worker req) after →
          KeepsKeys state.registry after.registry) := by
  refine ⟨?_, ?_, ?_, ?_⟩
  · intro schedule left right leftLive rightLive
    exact leftLive.eq rightLive
  · exact exec.invariant (fun reached => KeepsRuns start.schedules reached.schedules)
      (KeepsRuns.refl start.schedules)
      (fun _ _ _ held taken => held.trans (keepsRuns_of_step taken))
  · intro action after taken changed
    exact syncsJob_of_step taken changed
  · intro worker req job after running refused taken
    have refusedNow : Superseded state job.id ∨ OtherPolicy state job := by
      cases refused with
      | inl superseded =>
        exact Or.inl (exec.invariant (fun reached => Superseded reached job.id) superseded
          (fun _ _ _ held step => superseded_of_step held step))
      | inr otherPolicy => exact Or.inr otherPolicy
    exact keepsKeys_of_executeSync running refusedNow taken

end Runs

/-! ## A policy that returns -/

/-- No job applies keys that was enqueued before its schedule had another
policy. -/
def OlderJobsApplyNoKeys (env : ScheduleEnvironment) : Prop :=
  ∀ (reg : TrustRegistry) (first second : List ScheduleAction) (created changed : ScheduleState),
    Execution (ScheduleState.Step env) (ScheduleState.initial reg)
        first created →
      Execution (ScheduleState.Step env) created second changed →
        ∀ job, created.queue.store.job? job.id = some job → OtherPolicy changed job →
            ∀ (rest : List ScheduleAction) (ready after : ScheduleState)
              (worker : Nat) (req : SyncRequest) (later : TrustJob),
              Execution (ScheduleState.Step env) changed rest ready →
                ready.syncJob? worker = some later → later.id = job.id →
                  ScheduleState.Step env ready (.executeSync worker req) after →
                    KeepsKeys ready.registry after.registry

def plainSchedule : ScheduleEnvironment where
  text := { lower := id, render := fun _ => "" }
  stableHash content :=
    match content.get? "interval_seconds" with
    | some (.int seconds) => toString seconds
    | _ => "hash"
  uuidText := Nat.repr
  isoFormat _ := "time"
  isPublicKey _ _ := true
  unverifiedHeader _ := none
  unverifiedClaims _ := none
  verifiedClaims _ _ _ _ := .error (.domainValidation "unverified")
  issuedAt _ := none
  splitUrl _ :=
    { scheme := "https", hostname := some "keys", hasCredentials := false
      query := "", fragment := "" }
  tokenHash _ _ := String.ofList (List.replicate 64 'a')
  digest _ := 0

def operatorOf (role : String) : SignerIdentity where
  subjectId := role
  displayName := role
  role := some role
  identityProvider := "oidc"
  authSource := "jwt"
  identityVerified := true
  ticketReference := none

def sourceRegistry : TrustRegistry where
  roots := ∅
  actions := ∅
  sources :=
    { rows :=
        [{ id := 1
           name := "labs keys"
           purpose := .modelPublisher
           issuer := "labs"
           trustTier := .internalCa
           endpointUrl := "https://keys"
           allowedAlgorithms := ["RS256"]
           allowInsecureHttp := false
           freshnessSeconds := 3600
           enabled := true
           configurationHash := "configuration" }]
      keysNodup := List.nodup_singleton _ }
  syncs := ∅
  attestations := ∅
  attestationActions := []
  receipts := ∅
  proofs := []
  drawn := 2

def everySeconds (seconds : Int) : EvidenceTrustSourceScheduleUpsert where
  enabled := true
  intervalSeconds := seconds
  jitterSeconds := 0
  maxAttempts := 1
  retryBaseSeconds := 5
  retryMaxSeconds := 300
  retryJitterSeconds := 2
  runImmediately := true

def upsertAt (now : Time) (seconds : Int) : ScheduleAction :=
  .upsert 0 1 (everySeconds seconds) (operatorOf "admin")
    { now := now, created := now }

def enqueueAt (now : Time) : ScheduleAction :=
  .enqueueDue 0
    { schedulerId := "scheduler"
      signerIdentity := operatorOf "system worker"
      leaseSeconds := 900
      batchSize := 20
      now := now
      locked := fun _ => false }

def claimJobAt (worker : Nat) (now : Time) : ScheduleAction :=
  .queue (.claim worker
    { workerId := "worker"
      leaseSeconds := 300
      now := now
      lockedLeases := fun _ => false
      lockedQueued := fun _ => false })

def requeueJobAt (now : Time) : ScheduleAction :=
  .queue (.requeue
    { jobId := 0
      reason := "retry"
      signerIdentity := operatorOf "admin"
      maxAttempts := none
      now := now })

def fetchOneKey (now : Time) : SyncRequest where
  executorIdentity := operatorOf "system worker"
  allowedHosts := ["keys"]
  allowInsecureHttp := false
  fetched := .ok
    { payload := .obj [("keys", .arr
        [.obj [("kid", .str "k9"), ("alg", .str "RS256")]])]
      httpStatus := 200
      fetchedAt := now }
  clock := { now := now, created := now }

def hourlyRun : ScheduleState :=
  (perform (ScheduleState.next plainSchedule) (ScheduleState.initial sourceRegistry)
    [upsertAt 0 3600, enqueueAt 0]).get (by rfl)

def dailyPolicy : ScheduleState :=
  (perform (ScheduleState.next plainSchedule) hourlyRun
    [claimJobAt 0 0, claimJobAt 1 1000, upsertAt 2000 86400]).get (by rfl)

def hourlyAgain : ScheduleState :=
  (perform (ScheduleState.next plainSchedule) dailyPolicy
    [upsertAt 3000 3600, requeueJobAt 3000, enqueueAt 3000, claimJobAt 2 3000,
      .queue (.read 2), .queue (.start 2)]).get (by rfl)

def hourlySynced : ScheduleState :=
  ((ScheduleState.next plainSchedule hourlyAgain (.executeSync 2 (fetchOneKey 3000))).get (by rfl))

/-- A job that was enqueued before two changes of the policy applies a key. -/
theorem not_olderJobsApplyNoKeys : ¬ OlderJobsApplyNoKeys plainSchedule := by
  intro older
  have created : Execution (ScheduleState.Step plainSchedule)
      (ScheduleState.initial sourceRegistry) [upsertAt 0 3600, enqueueAt 0]
      hourlyRun :=
    Execution.of_perform (Option.some_get _).symm
  have changed : Execution (ScheduleState.Step plainSchedule) hourlyRun
      [claimJobAt 0 0, claimJobAt 1 1000, upsertAt 2000 86400] dailyPolicy :=
    Execution.of_perform (Option.some_get _).symm
  have returned : Execution (ScheduleState.Step plainSchedule) dailyPolicy
      [upsertAt 3000 3600, requeueJobAt 3000, enqueueAt 3000, claimJobAt 2 3000,
        .queue (.read 2), .queue (.start 2)] hourlyAgain :=
    Execution.of_perform (Option.some_get _).symm
  have synced : ScheduleState.Step plainSchedule hourlyAgain
      (.executeSync 2 (fetchOneKey 3000)) hourlySynced :=
    (Option.some_get _).symm
  let job : TrustJob := (hourlyRun.queue.store.job? 0).get (by rfl)
  let schedule : EvidenceTrustSourceSchedule :=
    (dailyPolicy.schedules.rows.head?).get (by rfl)
  let later : TrustJob := (hourlyAgain.syncJob? 2).get (by rfl)
  have otherPolicy : OtherPolicy dailyPolicy job :=
    ⟨job.payloadJson.get (by rfl), schedule, (Option.some_get _).symm,
      List.mem_of_mem_head? (Option.some_get _).symm, rfl, by decide⟩
  have kept := older sourceRegistry _ _ hourlyRun dailyPolicy created changed
    job rfl otherPolicy _ hourlyAgain hourlySynced 2 (fetchOneKey 3000) later
    returned rfl rfl synced
  have sameLength : hourlySynced.registry.roots.rows.length =
      hourlyAgain.registry.roots.rows.length := by
    rw [kept.1]
  have oneKey : hourlySynced.registry.roots.rows.length = 1 := rfl
  have noKey : hourlyAgain.registry.roots.rows.length = 0 := rfl
  omega

theorem scheduledSync_of_execution_requeued :
    (∀ schedule left right, LiveJob hourlyAgain schedule left →
      LiveJob hourlyAgain schedule right → left = right) ∧
    hourlyAgain.schedules.rows.map EvidenceTrustSourceSchedule.runSequence = [1] := by
  have returned : Execution (ScheduleState.Step plainSchedule) dailyPolicy
      [upsertAt 3000 3600, requeueJobAt 3000, enqueueAt 3000, claimJobAt 2 3000,
        .queue (.read 2), .queue (.start 2)] hourlyAgain :=
    Execution.of_perform (Option.some_get _).symm
  exact ⟨(scheduledSync_of_execution returned).1, rfl⟩

end ModelAtlas.Trust
