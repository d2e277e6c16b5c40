import ModelAtlas.Approval.Policy

/-!
# Import of production Agent evidence

`services/agent_evidence_import.py`: the checks on one captured event, and the
result and metric rows that an accepted event adds.
-/

namespace ModelAtlas.Traffic

open Foundations Approval

structure TraceStep where
  (action status : String)
  output : Option Json

structure TraceReplan where
  source : String
  modelCall : Option Json

structure AgentTrace where
  (schemaVersion externalCaseId : String)
  (stepCount replanCount liveReplanModelCallCount pendingCheckpointCount : Int)
  steps : List TraceStep
  replans : List TraceReplan
  canonicalText : String

structure AgentEvidenceProvenance where
  (sourceSystem sourceEventId collectorVersion sourceTraceHash : String)

structure AgentEvidenceImportCreate where
  (benchmarkRunId evaluationCaseId : Uuid)
  (sampleId rawOutput normalizedOutput : String)
  trace : AgentTrace
  provenance : AgentEvidenceProvenance

structure BenchmarkRun where
  id : Uuid
  dataSource : String
  evaluationSuiteId : Option Uuid

structure EvaluationCase where
  id : Uuid
  evaluationSuiteId : Option Uuid
  externalCaseId : String

/-- A result row.  `writer` is no column: it is the job whose body wrote the
row, and nothing for a row written elsewhere. -/
structure BenchmarkResult where
  (id benchmarkRunId : Uuid)
  evaluationCaseId : Option Uuid
  sampleId : String
  /-- `metadata_json["agent_evidence_import"]["source_event_id"]`. -/
  (sourceEventId evidenceRevisionHash : Option String)
  dataSource : String
  writer : Option Uuid

/-- A metric row, with the same `writer`. -/
structure InferenceMetric where
  (id benchmarkRunId : Uuid)
  (sampleId dataSource : String)
  writer : Option Uuid

structure EvidenceTables where
  benchmarkRuns : List BenchmarkRun
  evaluationCases : List EvaluationCase
  results : List BenchmarkResult
  metrics : List InferenceMetric

/-- How `json.loads` reads a normalized output. -/
inductive PlanOutput where
  | invalidJson
  | withoutSteps
  | withSteps

/-- What the import takes from outside: text operations, hashes, the JSON
reader, and the scorers, which may raise. -/
structure EvidenceEnvironment where
  text : TextEnvironment
  sha256 : String → String
  planOutput : String → PlanOutput
  scoreCaseResult : EvaluationCase → AgentEvidenceImportCreate →
    Except ServiceError Unit
  evidenceHash : AgentEvidenceImportCreate → SignerIdentity → String

def productionCapturedSource : String := "production_captured"

def supportedAgentTraceVersions : List String :=
  ["agent-execution-trace-v1", "agent-execution-trace-v2"]

def containsText (needle text : String) : Bool :=
  text.toList.tails.any (fun tail => needle.toList.isPrefixOf tail)

def validateApprovalStep (step : TraceStep) : Except ServiceError Unit :=
  if step.action ≠ "approval_checkpoint" ∨ step.status ≠ "approved" then .ok ()
  else
    let output := step.output.getD .null
    match output.get? "identity_verified" with
    | some (.bool true) =>
      if ((output.get? "decision_hash").any Json.truthy &&
          (output.get? "checkpoint_record_id").any Json.truthy) = false then
        .error (.domainValidation
          ("Production Agent approval evidence is missing persisted decision " ++
            "provenance"))
      else .ok ()
    | _ =>
      .error (.domainValidation
        ("Production Agent approval evidence requires verified approver " ++
          "provenance"))

def validateLiveReplan (text : TextEnvironment) (replan : TraceReplan) : Except ServiceError Unit :=
  if replan.source ≠ "live_callback" then .ok ()
  else
    let modelCall := replan.modelCall.getD .null
    let provider := text.lower
      (Json.pyStrOrEmpty text.render (modelCall.get? "provider_id"))
    if provider = "" || containsText "mock" provider ||
        containsText "fixture" provider then
      .error (.domainValidation
        "Production Agent live replan evidence requires a non-fixture provider")
    else if (Json.pyStrOrEmpty text.render
        (modelCall.get? "response_hash")).length ≠ 64 then
      .error (.domainValidation
        "Production Agent live replan evidence is missing response_hash")
    else .ok ()

def validateTrace (text : TextEnvironment) (evalCase : EvaluationCase)
    (trace : AgentTrace) : Except ServiceError Unit := do
  if !supportedAgentTraceVersions.contains trace.schemaVersion then
    throw (.domainValidation "Agent evidence trace version is not supported")
  if trace.externalCaseId ≠ evalCase.externalCaseId then
    throw (.domainValidation
      "Agent evidence external_case_id does not match the evaluation case")
  if trace.stepCount ≠ trace.steps.length then
    throw (.domainValidation
      "Agent evidence step_count does not match trace steps")
  if trace.replanCount > 1 then
    throw (.domainValidation "Agent evidence exceeds the replan limit")
  if trace.liveReplanModelCallCount > 1 then
    throw (.domainValidation
      "Agent evidence exceeds the live replan model-call limit")
  if trace.pendingCheckpointCount > 0 then
    throw (.domainValidation
      ("Pending Agent checkpoints must be imported through resumable " ++
        "checkpoint state"))
  trace.steps.forM validateApprovalStep
  trace.replans.forM (validateLiveReplan text)

def validatePlanOutput (planOutput : PlanOutput) : Except ServiceError Unit :=
  match planOutput with
  | .invalidJson =>
    .error (.domainValidation
      "Agent evidence normalized_output is not valid JSON")
  | .withoutSteps =>
    .error (.domainValidation
      "Agent evidence normalized_output must contain steps")
  | .withSteps => .ok ()

/-- The checks of `import_production_agent_evidence` that precede the duplicate
check. -/
def validateEvidence (env : EvidenceEnvironment) (tables : EvidenceTables)
    (signerIdentity : SignerIdentity) (event : AgentEvidenceImportCreate) :
    Except ServiceError EvaluationCase := do
  assertAgentEvidenceImportAllowed env.text signerIdentity
  let some benchmarkRun :=
      tables.benchmarkRuns.find? (fun run => run.id = event.benchmarkRunId)
    | throw (.domainValidation "benchmark_run was not found")
  let some evalCase :=
      tables.evaluationCases.find? (fun row => row.id = event.evaluationCaseId)
    | throw (.domainValidation "evaluation_case was not found")
  if benchmarkRun.dataSource ≠ productionCapturedSource then
    throw (.domainValidation
      ("production Agent evidence requires a production_captured benchmark " ++
        "run"))
  if benchmarkRun.evaluationSuiteId ≠ evalCase.evaluationSuiteId then
    throw (.domainValidation
      ("Agent evidence evaluation case does not belong to the benchmark run " ++
        "suite"))
  validateTrace env.text evalCase event.trace
  if env.text.lower event.provenance.sourceTraceHash ≠ env.sha256 event.trace.canonicalText then
    throw (.domainValidation
      "Agent evidence source_trace_hash does not match the normalized trace")
  validatePlanOutput (env.planOutput event.normalizedOutput)
  return evalCase

def duplicates (event : AgentEvidenceImportCreate) (row : BenchmarkResult) :
    Bool :=
  row.benchmarkRunId = event.benchmarkRunId && (row.sampleId = event.sampleId ||
      row.sourceEventId = some event.provenance.sourceEventId)

def assertNotDuplicate (results : List BenchmarkResult)
    (event : AgentEvidenceImportCreate) : Except ServiceError Unit :=
  match results.find? (duplicates event) with
  | none => .ok ()
  | some row =>
    if row.sampleId = event.sampleId then
      .error (.domainValidation
        "Agent evidence sample_id already exists in the run")
    else
      .error (.domainValidation
        "Agent evidence source_event_id was already imported")

structure ImportedEvidence where
  result : BenchmarkResult
  metric : InferenceMetric

/-- `import_production_agent_evidence` without its commit: `visible` are the
results that its session sees, the committed ones and its own. -/
def importProductionAgentEvidence (env : EvidenceEnvironment) (tables : EvidenceTables)
    (visible : List BenchmarkResult) (signerIdentity : SignerIdentity)
    (event : AgentEvidenceImportCreate) (writer : Option Uuid) (resultId metricId : Uuid) :
    Except ServiceError ImportedEvidence :=
  match validateEvidence env tables signerIdentity event with
  | .error raised => .error raised
  | .ok evalCase =>
    match assertNotDuplicate visible event with
    | .error raised => .error raised
    | .ok () =>
      match env.scoreCaseResult evalCase event with
      | .error raised => .error raised
      | .ok () =>
        .ok
          { result :=
              { id := resultId
                benchmarkRunId := event.benchmarkRunId
                evaluationCaseId := some evalCase.id
                sampleId := event.sampleId
                sourceEventId := some event.provenance.sourceEventId
                evidenceRevisionHash :=
                  some (env.evidenceHash event signerIdentity)
                dataSource := productionCapturedSource
                writer := writer }
            metric :=
              { id := metricId
                benchmarkRunId := event.benchmarkRunId
                sampleId := event.sampleId
                dataSource := productionCapturedSource
                writer := writer } }

structure ImportsEvent (writer : Option Uuid)
    (event : AgentEvidenceImportCreate) (imported : ImportedEvidence) :
    Prop where
  resultRun : imported.result.benchmarkRunId = event.benchmarkRunId
  resultSample : imported.result.sampleId = event.sampleId
  resultEvent :
    imported.result.sourceEventId = some event.provenance.sourceEventId
  resultWriter : imported.result.writer = writer
  metricRun : imported.metric.benchmarkRunId = event.benchmarkRunId
  metricSample : imported.metric.sampleId = event.sampleId
  metricWriter : imported.metric.writer = writer

theorem assertNotDuplicate_eq_ok {results : List BenchmarkResult}
    {event : AgentEvidenceImportCreate} (accepted : assertNotDuplicate results event = .ok ()) :
    ∀ row ∈ results, duplicates event row = false := by
  intro row mem
  unfold assertNotDuplicate at accepted
  cases found : results.find? (duplicates event) with
  | none =>
    have absent := List.find?_eq_none.mp found row mem
    simpa using absent
  | some other =>
    simp only [found] at accepted
    split at accepted <;> cases accepted

theorem importProductionAgentEvidence_eq_ok {env : EvidenceEnvironment} {tables : EvidenceTables}
    {visible : List BenchmarkResult} {signerIdentity : SignerIdentity}
    {event : AgentEvidenceImportCreate} {writer : Option Uuid} {resultId metricId : Uuid}
    {imported : ImportedEvidence} (accepted : importProductionAgentEvidence env tables visible
      signerIdentity event writer resultId metricId = .ok imported) :
    ImportsEvent writer event imported ∧ ∀ row ∈ visible, duplicates event row = false := by
  unfold importProductionAgentEvidence at accepted
  split at accepted
  · cases accepted
  · split at accepted
    · cases accepted
    · next fresh =>
        split at accepted
        · cases accepted
        · obtain rfl := Except.ok.inj accepted
          exact ⟨⟨rfl, rfl, rfl, rfl, rfl, rfl, rfl⟩, assertNotDuplicate_eq_ok fresh⟩

end ModelAtlas.Traffic
