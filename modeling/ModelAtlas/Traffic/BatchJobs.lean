import ModelAtlas.Jobs.Workers
import ModelAtlas.Traffic.EvidenceImport

/-!
# Traffic batch jobs

`import_traffic_job_payload` of `services/agent_traffic_ingestion.py`: the body adds
the events of its batch one by one and commits them together. The job row is
completed by a later commit.
-/

namespace ModelAtlas.Traffic

open Foundations Jobs

variable {worker : Nat}

def agentTrafficBatchContractVersion : String :=
  "production-agent-traffic-batch-v1"

structure AgentTrafficEvidenceBatchCreate where
  (sourceSystem batchId collectorVersion : String)
  capturedAt : Time
  events : List AgentEvidenceImportCreate

/-- The `job_payload` of `queue_signed_traffic_batch`. -/
structure TrafficJobPayload where
  (schemaVersion signatureVersion signatureHash keyId nonce : String)
  sentAt : Time
  batch : AgentTrafficEvidenceBatchCreate
  collectorIdentity : Option SignerIdentity

structure TrafficImportOutcome where
  (schemaVersion sourceSystem batchId : String)
  importedCount : Nat
  benchmarkResultIds : List Uuid
  evidenceHashes : List String
  deriving DecidableEq

/-- The identity that `import_traffic_job_payload` reads back. -/
def readCollectorIdentity (identity : SignerIdentity) : SignerIdentity :=
  { identity with
    role := some (identity.role.getD "")
    ticketReference := identity.ticketReference.filter (fun text => text ≠ "") }

def batchEvents (payload : Option TrafficJobPayload) : List AgentEvidenceImportCreate :=
  (payload.map (fun stored => stored.batch.events)).getD []

structure ImportProgress where
  batch : AgentTrafficEvidenceBatchCreate
  signerIdentity : SignerIdentity
  imported : List ImportedEvidence
  remaining : List AgentEvidenceImportCreate

inductive ImportBody where
  | notStarted
  | importing (prog : ImportProgress)
  | ended (outcome : Except ServiceError TrafficImportOutcome)

/-- The part of `import_traffic_job_payload` before its loop. -/
def openImport (payload : Option TrafficJobPayload) : ImportBody :=
  match payload with
  | none =>
    .ended (.error (.domainValidation
      "traffic job contract version is not supported"))
  | some stored =>
    if stored.schemaVersion ≠ agentTrafficBatchContractVersion then
      .ended (.error (.domainValidation
        "traffic job contract version is not supported"))
    else
      match stored.collectorIdentity with
      | none =>
        .ended (.error (.domainValidation
          "traffic job is missing collector identity"))
      | some identity =>
        .importing
          { batch := stored.batch
            signerIdentity := readCollectorIdentity identity
            imported := []
            remaining := stored.batch.events }

namespace ImportProgress

def afterEvent (prog : ImportProgress) (rest : List AgentEvidenceImportCreate)
    (round : Except ServiceError ImportedEvidence) : ImportBody :=
  match round with
  | .error raised => .ended (.error raised)
  | .ok imported =>
    .importing
      { prog with imported := prog.imported ++ [imported], remaining := rest }

def outcome (prog : ImportProgress) : TrafficImportOutcome where
  schemaVersion := agentTrafficBatchContractVersion
  sourceSystem := prog.batch.sourceSystem
  batchId := prog.batch.batchId
  importedCount := prog.imported.length
  benchmarkResultIds := prog.imported.map (fun item => item.result.id)
  evidenceHashes := prog.imported.map
    (fun item => item.result.evidenceRevisionHash.getD "")

end ImportProgress

def EvidenceTables.add (tables : EvidenceTables)
    (imported : List ImportedEvidence) : EvidenceTables :=
  { tables with
    results := tables.results ++ imported.map ImportedEvidence.result
    metrics := tables.metrics ++ imported.map ImportedEvidence.metric }

/-- The tables after a commit of another service: new runs and cases, and rows
that no job body wrote. -/
def EvidenceTables.addOthers (tables : EvidenceTables)
    (benchmarkRuns : List BenchmarkRun) (evaluationCases : List EvaluationCase)
    (results : List BenchmarkResult) (metrics : List InferenceMetric) :
    EvidenceTables where
  benchmarkRuns := benchmarkRuns
  evaluationCases := evaluationCases
  results := tables.results ++ results.map (fun row => { row with writer := none })
  metrics := tables.metrics ++ metrics.map (fun row => { row with writer := none })

abbrev TrafficJob : Type :=
  AgentExecutionJob (Option TrafficJobPayload) (Option TrafficImportOutcome)

abbrev TrafficQueue : Type :=
  QueueState (Option TrafficJobPayload) (Option TrafficImportOutcome)

abbrev TrafficQueueAction : Type :=
  QueueAction (Option TrafficJobPayload) (Option TrafficImportOutcome)

structure TrafficEnvironment where
  jobs : JobEnvironment (Option TrafficJobPayload)
  evidence : EvidenceEnvironment

structure TrafficState where
  queue : TrafficQueue
  evidence : EvidenceTables
  body : Nat → ImportBody

inductive TrafficAction where
  | queue (action : TrafficQueueAction)
  | openImport (worker : Nat)
  | importEvent (worker : Nat) (resultId metricId : Uuid)
  /-- The database raises in the loop. -/
  | interruptImport (worker : Nat) (raised : ServiceError)
  | commitImport (worker : Nat)
  /-- The body is over and `process_claimed_agent_job` reads the row. -/
  | endImport (worker : Nat)
  | writeEvidence (benchmarkRuns : List BenchmarkRun)
      (evaluationCases : List EvaluationCase)
      (results : List BenchmarkResult) (metrics : List InferenceMetric)

namespace TrafficState

def initial (benchmarkRuns : List BenchmarkRun)
    (evaluationCases : List EvaluationCase) : TrafficState where
  queue := .initial
  evidence := ⟨benchmarkRuns, evaluationCases, [], []⟩
  body _ := .notStarted

def setBody (state : TrafficState) (worker : Nat) (body : ImportBody) :
    TrafficState :=
  { state with body := Function.update state.body worker body }

def importJob? (state : TrafficState) (worker : Nat) : Option TrafficJob :=
  match state.queue.worker worker with
  | .running jobId _ =>
    (state.queue.store.job? jobId).filter (fun job => job.jobType = .trafficEvidenceImport)
  | _ => none

/-- A traffic job ends with the outcome of its own body, and the last job of a
trust-source schedule is a sync job. -/
def admits (state : TrafficState) : TrafficQueueAction → Bool
  | .observe worker _ => (state.importJob? worker).isNone
  | .readCancel _ lastJobId =>
    (state.queue.store.job? lastJobId).all (fun job => job.jobType = .trustSourceSync)
  | _ => true

def bodyAfter (state : TrafficState) : TrafficQueueAction → Nat → ImportBody
  | .start worker => Function.update state.body worker .notStarted
  | .crash worker => Function.update state.body worker .notStarted
  | _ => state.body

def next (env : TrafficEnvironment) (state : TrafficState) : TrafficAction → Option TrafficState
  | .queue action =>
    if state.admits action then
      (state.queue.next env.jobs action).map (fun queue =>
          { state with queue := queue, body := state.bodyAfter action })
    else none
  | .openImport worker =>
    match state.importJob? worker, state.body worker with
    | some job, .notStarted =>
      some (state.setBody worker (openImport job.payloadJson))
    | _, _ => none
  | .importEvent worker resultId metricId =>
    match state.importJob? worker, state.body worker with
    | some job, .importing prog =>
      match prog.remaining with
      | [] => none
      | event :: rest =>
        some (state.setBody worker (prog.afterEvent rest
          (importProductionAgentEvidence env.evidence state.evidence (state.evidence.results ++
              prog.imported.map ImportedEvidence.result)
            prog.signerIdentity event (some job.id) resultId
            metricId)))
    | _, _ => none
  | .interruptImport worker raised =>
    match state.importJob? worker, state.body worker with
    | some _, .importing _ =>
      some (state.setBody worker (.ended (.error raised)))
    | _, _ => none
  | .commitImport worker =>
    match state.importJob? worker, state.body worker with
    | some _, .importing prog =>
      match prog.remaining with
      | [] =>
        some
          { state.setBody worker (.ended (.ok prog.outcome)) with
            evidence := state.evidence.add prog.imported }
      | _ :: _ => none
    | _, _ => none
  | .endImport worker =>
    match state.importJob? worker, state.body worker with
    | some _, .ended outcome =>
      (state.queue.next env.jobs (.observe worker (outcome.map some))).map
          (fun queue => { state with queue := queue })
    | _, _ => none
  | .writeEvidence benchmarkRuns evaluationCases results metrics =>
    some
      { state with
        evidence := state.evidence.addOthers benchmarkRuns evaluationCases results metrics }

abbrev Step (env : TrafficEnvironment) : TrafficState → TrafficAction → TrafficState → Prop :=
  stepsOf (next env)

end TrafficState

section Inversion

open TrafficState

variable {env : TrafficEnvironment} {before after : TrafficState}

theorem importJob?_eq_some {job : TrafficJob} (running : before.importJob? worker = some job) :
    ∃ token, before.queue.worker worker = .running job.id token ∧
      before.queue.store.job? job.id = some job ∧ job.jobType = .trafficEvidenceImport := by
  unfold importJob? at running
  split at running
  · next jobId token phase =>
      obtain ⟨found, traffic⟩ := Option.filter_eq_some_iff.mp running
      have atJob : job.id = jobId := JobStore.job?_id found
      rw [atJob]
      exact ⟨token, phase, found, by simpa using traffic⟩
  · cases running

theorem next_queue {action : TrafficQueueAction}
    (taken : before.next env (.queue action) = some after) :
    before.admits action = true ∧ ∃ queue, before.queue.next env.jobs action = some queue ∧
        after = { before with
          queue := queue, body := before.bodyAfter action } := by
  simp only [next] at taken
  split at taken
  · next admitted =>
      obtain ⟨queue, stepped, rfl⟩ := Option.map_eq_some_iff.mp taken
      exact ⟨admitted, queue, stepped, rfl⟩
  · cases taken

theorem next_openImport (taken : before.next env (.openImport worker) = some after) :
    ∃ job, before.importJob? worker = some job ∧ before.body worker = .notStarted ∧
      after = before.setBody worker (openImport job.payloadJson) := by
  simp only [next] at taken
  split at taken
  · next job running notStarted =>
      exact ⟨job, running, notStarted, (Option.some.inj taken).symm⟩
  · cases taken

theorem next_importEvent {resultId metricId : Uuid} (taken : before.next env
      (.importEvent worker resultId metricId) = some after) :
    ∃ job prog event rest, before.importJob? worker = some job ∧
      before.body worker = .importing prog ∧
      prog.remaining = event :: rest ∧
      after = before.setBody worker (prog.afterEvent rest
        (importProductionAgentEvidence env.evidence before.evidence (before.evidence.results ++
            prog.imported.map ImportedEvidence.result)
          prog.signerIdentity event (some job.id) resultId metricId)) := by
  simp only [next] at taken
  split at taken
  · next job prog running importing =>
      split at taken
      · cases taken
      · next event rest remaining =>
          exact ⟨job, prog, event, rest, running, importing, remaining,
            (Option.some.inj taken).symm⟩
  · cases taken

theorem next_interruptImport {raised : ServiceError} (taken : before.next env
      (.interruptImport worker raised) = some after) :
    ∃ job prog, before.importJob? worker = some job ∧ before.body worker = .importing prog ∧
      after = before.setBody worker (.ended (.error raised)) := by
  simp only [next] at taken
  split at taken
  · next job prog running importing =>
      exact ⟨job, prog, running, importing, (Option.some.inj taken).symm⟩
  · cases taken

theorem next_commitImport (taken : before.next env (.commitImport worker) = some after) :
    ∃ job prog, before.importJob? worker = some job ∧
      before.body worker = .importing prog ∧ prog.remaining = [] ∧
      after = { before.setBody worker (.ended (.ok prog.outcome)) with
        evidence := before.evidence.add prog.imported } := by
  simp only [next] at taken
  split at taken
  · next job prog running importing =>
      split at taken
      · next remaining =>
          exact ⟨job, prog, running, importing, remaining, (Option.some.inj taken).symm⟩
      · cases taken
  · cases taken

theorem next_endImport (taken : before.next env (.endImport worker) = some after) :
    ∃ job outcome queue, before.importJob? worker = some job ∧ before.body worker = .ended outcome ∧
      before.queue.next env.jobs (.observe worker (outcome.map some)) = some queue ∧
      after = { before with queue := queue } := by
  simp only [next] at taken
  split at taken
  · next job outcome running ended =>
      obtain ⟨queue, stepped, rfl⟩ := Option.map_eq_some_iff.mp taken
      exact ⟨job, outcome, queue, running, ended, stepped, rfl⟩
  · cases taken

end Inversion

def capturedEvent (sourceSystem : String) : AgentEvidenceImportCreate where
  benchmarkRunId := 1
  evaluationCaseId := 2
  sampleId := "sample-1"
  rawOutput := ""
  normalizedOutput := ""
  trace :=
    { schemaVersion := "agent-execution-trace-v2"
      externalCaseId := "case-2"
      stepCount := 0
      replanCount := 0
      liveReplanModelCallCount := 0
      pendingCheckpointCount := 0
      steps := []
      replans := []
      canonicalText := "trace" }
  provenance :=
    { sourceSystem := sourceSystem
      sourceEventId := "event-1"
      collectorVersion := "1"
      sourceTraceHash := "trace" }

end ModelAtlas.Traffic
