import ModelAtlas.Jobs.Completion
import ModelAtlas.Traffic.ImportSessions

/-!
# Batches are imported whole or not at all

A completed traffic job has written each event of its batch once, and a failed
one nothing, as long as the worker neither crashes nor loses its lease between
the import commit and the completion.
-/

namespace ModelAtlas.Traffic

open Foundations Jobs

variable {body : ImportBody} {job running : TrafficJob} {worker : Nat} {action : TrafficQueueAction}
  {queue : TrafficQueue}

structure AllOrNothing (state : TrafficState) (jobId : Uuid)
    (job : TrafficJob) : Prop where
  completed : job.status = .completed →
    PersistsBatch state.evidence jobId (batchEvents job.payloadJson)
  failed : job.status = .failed → PersistsNothing state.evidence jobId

def importedBy (jobId : Uuid) (body : ImportBody) :
    WorkerPhase (Option TrafficJobPayload) (Option TrafficImportOutcome) → Prop
  | .running runningId _ => runningId = jobId ∧ ∃ outcome, body = .ended (.ok outcome)
  | .ended _ loaded outcome => loaded.id = jobId ∧ ∃ res, outcome = .ok res
  | _ => False

def HasImported (jobId : Uuid) (state : TrafficState) (worker : Nat) : Prop :=
  importedBy jobId (state.body worker) (state.queue.worker worker)

/-- The lease of a processed job is not recovered, and no worker crashes between the import
commit and the completion. -/
def KeepsImport (jobId : Uuid) (state : TrafficState) : TrafficAction → Prop
  | .queue (.crash worker) => ¬ HasImported jobId state worker
  | .queue action => SparesLeaseOf jobId state.queue action
  | _ => True

/-! ## What holds of the runs that keep the import -/

def Settled (jobId : Uuid) (state : TrafficState) (job : TrafficJob) : Prop :=
  job.status = .completed ∨ ∃ worker, HasImported jobId state worker

structure BatchInvariant (jobId : Uuid) (state : TrafficState) : Prop where
  evidence : EvidenceInvariant state
  completion : CompletionInvariant jobId state.queue
  persisted : ∀ job, state.queue.store.job? jobId = some job →
    job.jobType = .trafficEvidenceImport → Settled jobId state job →
      PersistsBatch state.evidence jobId (batchEvents job.payloadJson)
  nothing : ∀ job, state.queue.store.job? jobId = some job →
    job.jobType = .trafficEvidenceImport → ¬ Settled jobId state job →
      PersistsNothing state.evidence jobId

theorem processing_of_importedBy {jobId : Uuid}
    {phase : WorkerPhase (Option TrafficJobPayload) (Option TrafficImportOutcome)}
    (imported : importedBy jobId body phase) :
    ∃ token, phase.processing = some (jobId, token) := by
  cases phase with
  | running runningId token =>
    exact ⟨token, by rw [← imported.1]; rfl⟩
  | ended token loaded outcome =>
    exact ⟨token, by rw [← imported.1]; rfl⟩
  | idle | claimed _ _ | checked _ _ =>
    exact imported.elim

theorem notSync_of_traffic (traffic : job.jobType = .trafficEvidenceImport) :
    job.jobType ≠ .trustSourceSync := by
  rw [traffic]
  decide

section KeptRuns

open TrafficState

variable {env : TrafficEnvironment} {before after : TrafficState}
  {jobId : Uuid}

theorem underLease_of_processing (inv : CompletionInvariant jobId before.queue) {token : Uuid}
    (found : before.queue.store.job? jobId = some job)
    (traffic : job.jobType = .trafficEvidenceImport)
    (processed : (before.queue.worker worker).processing = some (jobId, token)) :
    job.status.underLease = true :=
  (inv.underLease (inv.fencing.held worker token processed) found (notSync_of_traffic traffic)).1

theorem not_settled_of_processing (inv : CompletionInvariant jobId before.queue) {token : Uuid}
    (found : before.queue.store.job? jobId = some job)
    (traffic : job.jobType = .trafficEvidenceImport)
    (processed : (before.queue.worker worker).processing = some (jobId, token))
    (notImported : ¬ HasImported jobId before worker) :
    ¬ Settled jobId before job := by
  have lease := underLease_of_processing inv found traffic processed
  rintro (completed | ⟨other, imported⟩)
  · rw [completed] at lease
    cases lease
  · obtain ⟨otherToken, otherProcessed⟩ := processing_of_importedBy imported
    have same := inv.fencing.worker_unique otherProcessed processed
    exact notImported (same ▸ imported)

def ObservesBody (state : TrafficState) (action : TrafficQueueAction) : Prop :=
  ∀ worker outcome, action = .observe worker outcome → ∀ job, state.importJob? worker = some job →
      ∃ own, state.body worker = .ended own ∧ outcome = own.map some

theorem hasImported_of_queue_step (taken : before.queue.next env.jobs action = some queue)
    (found : before.queue.store.job? jobId = some job)
    (traffic : job.jobType = .trafficEvidenceImport) (observesBody : ObservesBody before action)
    (crashSpared : ∀ worker, action = .crash worker → ¬ HasImported jobId before worker)
    (notFinished : ∀ outcome, ¬ FinishesJob jobId before.queue action outcome) (worker : Nat) :
    HasImported jobId
        { before with queue := queue, body := before.bodyAfter action } worker ↔
      HasImported jobId before worker := by
  unfold HasImported
  rcases worker_of_step taken worker with ⟨unmoved, same⟩ | change
  · have sameBody : before.bodyAfter action worker = before.body worker := by
      cases action with
      | start starting =>
        have other : worker ≠ starting := by
          rintro rfl
          exact unmoved rfl
        exact Function.update_of_ne other ..
      | crash crashing =>
        have other : worker ≠ crashing := by
          rintro rfl
          exact unmoved rfl
        exact Function.update_of_ne other ..
      | _ =>
        rfl
    simp only [same, sameBody]
  · generalize reached : queue.worker worker = phase at change
    dsimp only
    cases change with
    | claim req idle =>
      rcases QueueState.phaseAfterClaim_cases (claimAgentJob before.queue.store req).2 with
        nothing | ⟨claimedId, claimedToken, claimed⟩
      · rw [nothing, idle]
        exact Iff.rfl
      · rw [claimed, idle]
        exact Iff.rfl
    | read claimedId claimedToken claimed =>
      rw [claimed]
      cases read : readClaimedJob before.queue.store claimedId claimedToken with
      | error raised => exact Iff.rfl
      | ok loaded => exact Iff.rfl
    | start startToken loaded checked =>
      rw [checked]
      refine iff_of_false ?_ id
      rintro ⟨_, outcome, restarted⟩
      simp [bodyAfter] at restarted
    | observe runningId token outcome running =>
      rw [running]
      by_cases own : runningId = jobId
      · subst runningId
        obtain ⟨bodyOutcome, ended, rfl⟩ := observesBody worker outcome rfl
          job (importJob?_of_running running found traffic)
        have read : getAgentJob before.queue.store jobId = .ok job :=
          getAgentJob_eq_ok_iff.mpr found
        have atJob := JobStore.job?_id found
        have sameBody : before.bodyAfter
            (.observe worker (bodyOutcome.map some)) = before.body := rfl
        rw [read, sameBody, ended]
        cases bodyOutcome with
        | ok res =>
          exact iff_of_true ⟨atJob, some res, rfl⟩ ⟨rfl, res, rfl⟩
        | error raised =>
          refine iff_of_false ?_ ?_
          · rintro ⟨_, res, returned⟩
            cases returned
          · rintro ⟨_, res, returned⟩
            cases returned
      · refine iff_of_false ?_ (fun imported => own imported.1)
        cases read : getAgentJob before.queue.store runningId with
        | error raised => exact id
        | ok loaded =>
          have atJob := JobStore.job?_id (getAgentJob_eq_ok_iff.mp read)
          rintro ⟨sameJob, _⟩
          exact own (atJob.symm.trans sameJob)
    | finish token loaded outcome now ended =>
      rw [ended]
      refine iff_of_false id ?_
      rintro ⟨sameJob, _⟩
      exact notFinished outcome ⟨worker, now, token, loaded, rfl, ended, sameJob⟩
    | crash =>
      exact iff_of_false id (crashSpared worker rfl)

theorem settled_of_queue_step (inv : CompletionInvariant jobId before.queue)
    (taken : before.queue.next env.jobs action = some queue)
    {later : TrafficJob}
    (found : before.queue.store.job? jobId = some job)
    (traffic : job.jobType = .trafficEvidenceImport)
    (laterFound : queue.store.job? jobId = some later)
    (observesBody : ObservesBody before action)
    (crashSpared : ∀ worker, action = .crash worker → ¬ HasImported jobId before worker) :
    Settled jobId
        { before with queue := queue, body := before.bodyAfter action } later ↔
      Settled jobId before job := by
  have notSync := notSync_of_traffic traffic
  by_cases finished : ∃ outcome, FinishesJob jobId before.queue action outcome
  · obtain ⟨outcome, finishes⟩ := finished
    obtain ⟨_, completed⟩ := completed_of_finish inv taken found notSync laterFound finishes
    obtain ⟨worker, now, token, loaded, rfl, ended, atJob⟩ := finishes
    have processed : (before.queue.worker worker).processing = some (jobId, token) := by
      rw [ended, ← atJob]
      rfl
    have ownImport : HasImported jobId before worker ↔ ∃ res, outcome = .ok res := by
      unfold HasImported
      rw [ended]
      exact ⟨fun imported => imported.2, fun returned => ⟨atJob, returned⟩⟩
    -- Nobody else processed the job, and the worker is idle now.
    have nobody : ∀ other, ¬ HasImported jobId
        { before with
          queue := queue
          body := before.bodyAfter (.finish worker now) } other := by
      intro other imported
      rcases worker_of_step taken other with ⟨unmoved, same⟩ | change
      · unfold HasImported at imported
        dsimp only at imported
        rw [same] at imported
        obtain ⟨otherToken, otherProcessed⟩ :=
          processing_of_importedBy imported
        have sameWorker :=
          inv.fencing.worker_unique otherProcessed processed
        exact unmoved (by rw [sameWorker]; rfl)
      · generalize reached : queue.worker other = phase at change
        unfold HasImported at imported
        dsimp only at imported
        rw [reached] at imported
        cases change
        exact imported
    constructor
    · rintro (returned | ⟨other, imported⟩)
      · exact Or.inr ⟨worker, ownImport.mpr (completed.mp returned)⟩
      · exact (nobody other imported).elim
    · intro settled
      by_cases returned : ∃ res, outcome = .ok res
      · exact Or.inl (completed.mpr returned)
      · have notImported := fun imported => returned (ownImport.mp imported)
        exact absurd settled (not_settled_of_processing inv found traffic processed notImported)
  · have notFinished := not_exists.mp finished
    have kept := keepsCompletion_of_step inv taken found notSync laterFound notFinished
    have imported := hasImported_of_queue_step taken found traffic observesBody
      crashSpared notFinished
    unfold Settled
    rw [kept.completed]
    simp only [imported]

theorem settled_setBody (notBefore : ∀ outcome, before.body worker ≠ .ended (.ok outcome))
    (notAfter : ∀ outcome, body ≠ .ended (.ok outcome))
    (runs : before.importJob? worker = some running) :
    Settled jobId (before.setBody worker body) job ↔ Settled jobId before job := by
  obtain ⟨token, phase, _⟩ := importJob?_eq_some runs
  have imported : ∀ other, HasImported jobId (before.setBody worker body) other ↔
      HasImported jobId before other := by
    intro other
    unfold HasImported
    by_cases same : other = worker
    · subst other
      simp only [TrafficState.setBody, Function.update_self, phase]
      refine iff_of_false ?_ ?_
      · rintro ⟨_, outcome, ended⟩
        exact notAfter outcome ended
      · rintro ⟨_, outcome, ended⟩
        exact notBefore outcome ended
    · simp only [TrafficState.setBody, Function.update_of_ne same]
  unfold Settled
  simp only [imported]

end KeptRuns

namespace BatchInvariant

variable {jobId : Uuid} {before after : TrafficState}

theorem initial (benchmarkRuns : List BenchmarkRun) (evaluationCases : List EvaluationCase) :
    BatchInvariant jobId (TrafficState.initial benchmarkRuns evaluationCases) where
  evidence := EvidenceInvariant.initial benchmarkRuns evaluationCases
  completion := CompletionInvariant.initial
  persisted := by
    intro job found
    cases found
  nothing := by
    intro job found
    cases found

theorem of_same (inv : BatchInvariant jobId before) (evidence : EvidenceInvariant after)
    (completion : CompletionInvariant jobId after.queue)
    (results : after.evidence.resultsOf jobId = before.evidence.resultsOf jobId)
    (metrics : after.evidence.metricsOf jobId = before.evidence.metricsOf jobId)
    (rows : ∀ later, after.queue.store.job? jobId = some later →
      later.jobType = .trafficEvidenceImport → (∃ job, before.queue.store.job? jobId = some job ∧
          SameJob job later ∧
          (Settled jobId after later ↔ Settled jobId before job)) ∨
        (¬ Settled jobId after later ∧ PersistsNothing before.evidence jobId)) :
    BatchInvariant jobId after where
  evidence := evidence
  completion := completion
  persisted later found traffic settled := by
    rcases rows later found traffic with
      ⟨job, jobFound, same, settledIff⟩ | ⟨unsettled, _⟩
    · have held := inv.persisted job jobFound
        (same.jobType.symm.trans traffic) (settledIff.mp settled)
      rw [← same.payloadJson] at held
      exact {
        oneResult := by rw [results]; exact held.oneResult
        oneMetric := by rw [metrics]; exact held.oneMetric
        noOtherResult := by rw [results]; exact held.noOtherResult
        noOtherMetric := by rw [metrics]; exact held.noOtherMetric }
    · exact absurd settled unsettled
  nothing later found traffic unsettled := by
    have held : PersistsNothing before.evidence jobId := by
      rcases rows later found traffic with
        ⟨job, jobFound, same, settledIff⟩ | ⟨_, nothing⟩
      · exact inv.nothing job jobFound (same.jobType.symm.trans traffic)
          (fun settled => unsettled (settledIff.mpr settled))
      · exact nothing
    exact ⟨results.trans held.noResult, metrics.trans held.noMetric⟩

theorem queue_step {env : TrafficEnvironment} (inv : BatchInvariant jobId before)
    (taken : before.queue.next env.jobs action = some queue)
    (spared : SparesLeaseOf jobId before.queue action)
    (cancelsSync : CancelsSyncJob before.queue action)
    (observesBody : ObservesBody before action)
    (crashSpared : ∀ worker, action = .crash worker → ¬ HasImported jobId before worker)
    (evidence : EvidenceInvariant
      { before with queue := queue, body := before.bodyAfter action }) :
    BatchInvariant jobId
      { before with queue := queue, body := before.bodyAfter action } := by
  have completion :=
    completionInvariant_step inv.completion spared cancelsSync taken
  refine inv.of_same evidence completion rfl rfl ?_
  intro later laterFound laterTraffic
  rcases sameJob_or_new taken laterFound with
    ⟨job, found, same⟩ | ⟨req, now, _, _, atNew, rfl⟩
  · have traffic := same.jobType.symm.trans laterTraffic
    exact Or.inl ⟨job, found, same, settled_of_queue_step
      inv.completion taken found traffic laterFound observesBody
      crashSpared⟩
  · refine Or.inr ⟨?_, ?_⟩
    · rintro (completed | ⟨worker, imported⟩)
      · cases completed
      · -- Nobody processes a job that was just enqueued.
        obtain ⟨token, processed⟩ := processing_of_importedBy imported
        obtain ⟨row, found, tokened, _⟩ :=
          completion.fencing.held worker token processed
        obtain rfl := Option.some.inj (found.symm.trans laterFound)
        cases tokened
    · have undrawn : before.queue.store.uuids ≤ jobId := Nat.le_of_eq atNew.symm
      exact ⟨inv.evidence.resultWriters jobId undrawn, inv.evidence.metricWriters jobId undrawn⟩

theorem setBody (inv : BatchInvariant jobId before) (runs : before.importJob? worker = some running)
    (notBefore : ∀ outcome, before.body worker ≠ .ended (.ok outcome))
    (notAfter : ∀ outcome, body ≠ .ended (.ok outcome))
    (evidence : EvidenceInvariant (before.setBody worker body)) :
    BatchInvariant jobId (before.setBody worker body) := by
  refine inv.of_same evidence inv.completion rfl rfl ?_
  intro job found _
  exact Or.inl ⟨job, found, SameJob.refl, settled_setBody notBefore notAfter runs⟩

theorem commitImport (inv : BatchInvariant jobId before) {prog : ImportProgress}
    (runs : before.importJob? worker = some running)
    (importing : before.body worker = .importing prog)
    (finished : prog.remaining = [])
    (committed : after =
      { before.setBody worker (.ended (.ok prog.outcome)) with
        evidence := before.evidence.add prog.imported })
    (evidence : EvidenceInvariant after) :
    BatchInvariant jobId after := by
  obtain ⟨token, phase, runningFound, runningTraffic⟩ :=
    importJob?_eq_some runs
  obtain ⟨sameRunning, sameRuns, done, split, part⟩ :=
    inv.evidence.sessions worker running.id token prog phase
      importing
  obtain rfl := Option.some.inj (sameRuns.symm.trans runs)
  rw [finished, List.append_nil] at split
  have notImported : ¬ HasImported jobId before worker := by
    unfold HasImported
    rw [phase, importing]
    rintro ⟨_, outcome, ended⟩
    cases ended
  by_cases own : sameRunning.id = jobId
  · have processed : (before.queue.worker worker).processing = some (jobId, token) := by
      rw [phase, ← own]
      rfl
    have imported : HasImported jobId after worker := by
      unfold HasImported
      rw [committed]
      simp only [TrafficState.setBody, Function.update_self, phase]
      exact ⟨own, prog.outcome, rfl⟩
    have sameQueue : after.queue = before.queue := by
      rw [committed]
      rfl
    rw [own] at runningFound part
    refine ⟨evidence, by rw [sameQueue]; exact inv.completion, ?_, ?_⟩
    · intro job found traffic _
      rw [sameQueue, runningFound] at found
      obtain rfl := Option.some.inj found
      have unsettled := not_settled_of_processing inv.completion
        runningFound traffic processed notImported
      have nothing := inv.nothing _ runningFound traffic unsettled
      rw [committed, split]
      exact part.persistsBatch nothing
    · intro job _ _ unsettled
      exact absurd (Or.inr ⟨worker, imported⟩) unsettled
  · have notImportedAfter : ∀ body, ¬ importedBy jobId body (before.queue.worker worker) := by
      intro body
      rw [phase]
      rintro ⟨sameJob, _⟩
      exact own sameJob
    subst committed
    refine inv.of_same evidence inv.completion
      (part.resultsOf_add_of_ne before.evidence (Ne.symm own))
      (part.metricsOf_add_of_ne before.evidence (Ne.symm own)) ?_
    intro job found _
    refine Or.inl ⟨job, found, SameJob.refl, ?_⟩
    have imported : ∀ other, HasImported jobId
        { before.setBody worker (.ended (.ok prog.outcome)) with
          evidence := before.evidence.add prog.imported } other ↔
        HasImported jobId before other := by
      intro other
      by_cases same : other = worker
      · subst other
        exact iff_of_false (notImportedAfter _) (notImportedAfter _)
      · unfold HasImported
        simp only [TrafficState.setBody, Function.update_of_ne same]
    unfold Settled
    simp only [imported]

end BatchInvariant

section KeptRuns

open TrafficState

variable {env : TrafficEnvironment} {before after : TrafficState}
  {jobId : Uuid}

theorem batchInvariant_step {action : TrafficAction} (inv : BatchInvariant jobId before)
    (keeps : KeepsImport jobId before action) (taken : Step env before action after) :
    BatchInvariant jobId after := by
  have evidence := evidenceInvariant_step inv.evidence taken
  cases action with
  | queue action =>
    obtain ⟨admitted, queue, stepped, rfl⟩ := next_queue taken
    have spared : SparesLeaseOf jobId before.queue action := by
      cases action with
      | crash worker => trivial
      | _ => exact keeps
    have cancelsSync : CancelsSyncJob before.queue action := by
      cases action with
      | readCancel scheduler lastJobId =>
        intro row found
        simpa [admits, found] using admitted
      | _ => trivial
    have observesBody : ObservesBody before action := by
      rintro worker outcome rfl job runs
      simp [admits, runs] at admitted
    have crashSpared : ∀ worker, action = .crash worker → ¬ HasImported jobId before worker := by
      rintro worker rfl
      exact keeps
    exact inv.queue_step stepped spared cancelsSync observesBody crashSpared evidence
  | openImport worker =>
    obtain ⟨job, runs, notStarted, rfl⟩ := next_openImport taken
    refine inv.setBody runs ?_ ?_ evidence
    · intro outcome ended
      rw [notStarted] at ended
      cases ended
    · intro outcome ended
      unfold openImport at ended
      split at ended
      · cases ended
      · split at ended
        · cases ended
        · split at ended <;> cases ended
  | importEvent worker resultId metricId =>
    obtain ⟨job, prog, event, rest, runs, importing, _, rfl⟩ :=
      next_importEvent taken
    refine inv.setBody runs ?_ ?_ evidence
    · intro outcome ended
      rw [importing] at ended
      cases ended
    · intro outcome ended
      unfold ImportProgress.afterEvent at ended
      split at ended <;> cases ended
  | interruptImport worker raised =>
    obtain ⟨job, prog, runs, importing, rfl⟩ :=
      next_interruptImport taken
    refine inv.setBody runs ?_ ?_ evidence
    · intro outcome ended
      rw [importing] at ended
      cases ended
    · intro outcome ended
      cases ended
  | commitImport worker =>
    obtain ⟨job, prog, runs, importing, finished, committed⟩ :=
      next_commitImport taken
    exact inv.commitImport runs importing finished committed evidence
  | endImport worker =>
    obtain ⟨job, own, queue, runs, ended, stepped, rfl⟩ :=
      next_endImport taken
    have observesBody : ObservesBody before (.observe worker (own.map some)) := by
      rintro _ _ ⟨⟩ _ _
      exact ⟨own, ended, rfl⟩
    exact inv.queue_step stepped trivial trivial observesBody
      (fun _ impossible => by cases impossible) evidence
  | writeEvidence benchmarkRuns evaluationCases results metrics =>
    obtain rfl := Option.some.inj taken
    refine inv.of_same evidence inv.completion (resultsOf_addOthers ..) (metricsOf_addOthers ..) ?_
    intro job found _
    exact Or.inl ⟨job, found, SameJob.refl, Iff.rfl⟩

/-- In every run that keeps the job's import, a completed traffic job has
persisted its batch once, and a failed one nothing. -/
theorem allOrNothing_of_execution {benchmarkRuns : List BenchmarkRun}
    {evaluationCases : List EvaluationCase} {actions : List TrafficAction}
    (exec : Execution (Guarded (KeepsImport jobId) (TrafficState.Step env))
      (TrafficState.initial benchmarkRuns evaluationCases) actions after)
    {job : TrafficJob}
    (found : after.queue.store.job? jobId = some job)
    (traffic : job.jobType = .trafficEvidenceImport) :
    AllOrNothing after jobId job := by
  have inv : BatchInvariant jobId after :=
    exec.invariant (BatchInvariant jobId) (BatchInvariant.initial benchmarkRuns evaluationCases)
      (fun _ _ _ held step => batchInvariant_step held step.1 step.2)
  constructor
  · intro completed
    exact inv.persisted job found traffic (Or.inl completed)
  · intro failed
    apply inv.nothing job found traffic
    rintro (completed | ⟨worker, imported⟩)
    · rw [failed] at completed
      cases completed
    · obtain ⟨token, processed⟩ := processing_of_importedBy imported
      have lease := underLease_of_processing inv.completion found traffic processed
      rw [failed] at lease
      cases lease

end KeptRuns

/-! ## One batch in concrete runs -/

def plainTrafficEnvironment : TrafficEnvironment where
  jobs :=
    { lower := id
      retryPolicy := fun _ => none
      digest := fun _ => 0 }
  evidence :=
    { text := { lower := id, render := fun _ => "" }
      sha256 := id
      planOutput := fun _ => .withSteps
      scoreCaseResult := fun _ _ => .ok ()
      evidenceHash := fun event _ => event.sampleId }

def trafficCollector : SignerIdentity where
  subjectId := "traffic-collector:checkout:legacy"
  displayName := "Traffic collector checkout"
  role := some "ML Ops Lead"
  identityProvider := "traffic-hmac"
  authSource := "signed_traffic_batch"
  identityVerified := true
  ticketReference := some "batch-1"

def trafficRequest : EnqueueRequest (Option TrafficJobPayload) where
  jobType := .trafficEvidenceImport
  dedupeKey := "traffic:checkout:batch-1"
  payloadJson := some
    { schemaVersion := agentTrafficBatchContractVersion
      signatureVersion := "hmac-sha256-v1"
      signatureHash := "signature"
      keyId := "legacy"
      nonce := "legacy:batch-1"
      sentAt := 0
      batch :=
        { sourceSystem := "checkout"
          batchId := "batch-1"
          collectorVersion := "1"
          capturedAt := 0
          events := [capturedEvent "checkout"] }
      collectorIdentity := some trafficCollector }
  signerIdentity := trafficCollector
  priority := 40
  benchmarkRunId := none
  benchmarkResultId := none
  checkpointRecordId := none
  maxAttempts := 2

def capturedTables : TrafficState :=
  .initial [⟨1, productionCapturedSource, some 3⟩] [⟨2, some 3, "case-2"⟩]

def importActions : List TrafficAction :=
  [.queue (.enqueue trafficRequest 0), .queue (.claim 0 (claimAt 0)),
    .queue (.read 0), .queue (.start 0), .openImport 0, .importEvent 0 10 11,
    .commitImport 0]

def completedImportActions : List TrafficAction :=
  importActions ++ [.endImport 0, .queue (.finish 0 5)]

def completedImport : TrafficState :=
  (perform (TrafficState.next plainTrafficEnvironment) capturedTables
    completedImportActions).get (by rfl)

theorem completedImport_keeps :
    MeetsGuard (KeepsImport 0) (TrafficState.next plainTrafficEnvironment)
      capturedTables completedImportActions := by
  refine ⟨trivial, fun enqueued taken => ⟨?_, fun _ _ => ⟨trivial,
    fun _ _ => ⟨trivial, fun _ _ => ⟨trivial, fun _ _ => ⟨trivial,
      fun _ _ => ⟨trivial, fun _ _ => ⟨trivial, fun _ _ => ⟨trivial, fun _ _ => trivial⟩⟩⟩⟩⟩⟩⟩⟩⟩
  obtain rfl := Option.some.inj taken
  intro _ worker token row processed
  cases processed

theorem allOrNothing_of_execution_completed : AllOrNothing completedImport 0
      ((completedImport.queue.store.job? 0).get (by rfl)) :=
  allOrNothing_of_execution (Execution.of_perform_guarded (Option.some_get _).symm
      completedImport_keeps)
    (Option.some_get _).symm (by rfl)

def crashedImportActions : List TrafficAction :=
  importActions ++ [.queue (.crash 0), .queue (.claim 1 (claimAt 400)), .queue (.read 1),
      .queue (.start 1), .openImport 1, .importEvent 1 12 13, .endImport 1,
      .queue (.finish 1 500)]

def crashedImport : TrafficState :=
  (perform (TrafficState.next plainTrafficEnvironment) capturedTables
    crashedImportActions).get (by rfl)

/-- The second worker's import meets the rows of the first as duplicates, so
the job fails with its batch persisted. -/
theorem crashedImport_fails_persisted :
    ¬ ∀ (actions : List TrafficAction) (after : TrafficState) (jobId : Uuid) (job : TrafficJob),
      Execution (TrafficState.Step plainTrafficEnvironment) capturedTables actions after →
      after.queue.store.job? jobId = some job →
      job.jobType = .trafficEvidenceImport → AllOrNothing after jobId job := by
  intro allOrNothing
  have exec : Execution (TrafficState.Step plainTrafficEnvironment) capturedTables
        crashedImportActions crashedImport :=
    Execution.of_perform (Option.some_get _).symm
  have job := allOrNothing crashedImportActions crashedImport 0
    ((crashedImport.queue.store.job? 0).get (by rfl)) exec
    (Option.some_get _).symm (by rfl)
  have written : (crashedImport.evidence.resultsOf 0).length = 1 := by rfl
  rw [(job.failed (by rfl)).noResult] at written
  cases written

end ModelAtlas.Traffic
