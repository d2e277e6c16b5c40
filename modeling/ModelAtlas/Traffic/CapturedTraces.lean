import ModelAtlas.Agent.Plan
import ModelAtlas.Agent.Preparation
import ModelAtlas.Foundations.Outcomes
import ModelAtlas.Foundations.Yields
import ModelAtlas.Traffic.EvidenceImport

/-!
# Captured traces

`agent_evidence_import.py` stores the trace of a collector as it is;
`AgentExecutionScorer` and the gate read its summary fields, and the import
recounts few of them.
-/

namespace ModelAtlas.Traffic

open Foundations Approval

/-! ## Traces as the import receives them -/

/-- `AgentExecutionStepRead`, as far as a summary counts it. -/
structure AgentExecutionStepRead where
  (action status : String)
  successful : Bool
  output : Option Json
  policyViolations : List String
  recovered : Bool
  retryCount : Int
  (memoryProvenanceValid approvalProvenanceValid recoveredByReplan : Bool)
  phase : String
  observation : Option Json

/-- `AgentReplanRead`, as far as a summary counts it. -/
structure AgentReplanRead where
  (sequenceMatch successful : Bool)
  source : String
  modelCall : Option Json

/-- The summary fields that the scorer and the gate read, but for the number of
steps. -/
@[ext]
structure TraceSummary where
  (planValid successful sequenceMatch finalResponsePresent : Bool)
  (successfulStepCount failedStepCount : Int)
  stepSuccessRate : Option Rat
  (toolCallCount retrievalCount memoryReadCount memoryWriteCount retriedToolCount : Int)
  (recoveredToolCount policyViolationCount memoryProvenanceCount memoryActionCount : Int)
  (observationCount replanCount successfulReplanCount recoveryStepCount : Int)
  successfulRecoveryStepCount : Int
  recoverySequenceMatch : Option Bool
  (unrecoveredFailureCount approvalCheckpointCount approvedCheckpointCount : Int)
  (deniedCheckpointCount pendingCheckpointCount approvalProvenanceCount : Int)
  (liveReplanCount liveReplanModelCallCount : Int)
  deriving DecidableEq

structure AgentExecutionTraceRead extends TraceSummary where
  (schemaVersion externalCaseId : String)
  parseValid : Bool
  (parseError haltReason observationSchemaVersion : Option String)
  stepCount : Int
  (expectedActionSequence actualActionSequence : List String)
  replans : List AgentReplanRead
  steps : List AgentExecutionStepRead

/-- The members that `_validate_trace` reads, and the text that is hashed. -/
def AgentExecutionTraceRead.dumped (canonical : AgentExecutionTraceRead → String)
    (trace : AgentExecutionTraceRead) : AgentTrace where
  schemaVersion := trace.schemaVersion
  externalCaseId := trace.externalCaseId
  stepCount := trace.stepCount
  replanCount := trace.replanCount
  liveReplanModelCallCount := trace.liveReplanModelCallCount
  pendingCheckpointCount := trace.pendingCheckpointCount
  steps := trace.steps.map (fun step =>
    { action := step.action, status := step.status, output := step.output })
  replans := trace.replans.map (fun replan =>
    { source := replan.source, modelCall := replan.modelCall })
  canonicalText := canonical trace

namespace AgentExecutionStepRead

def isUnrecovered (step : AgentExecutionStepRead) : Bool :=
  !step.successful && !step.recoveredByReplan

def isFinalResponse (step : AgentExecutionStepRead) : Bool :=
  step.action = "respond" && step.successful

def isMemoryAction (step : AgentExecutionStepRead) : Bool :=
  ["memory_read", "memory_write"].contains step.action

def isCheckpoint (step : AgentExecutionStepRead) : Bool :=
  step.action = "approval_checkpoint"

def isCheckpointWith (status : String) (step : AgentExecutionStepRead) : Bool :=
  step.isCheckpoint && step.status = status

def isRecovery (step : AgentExecutionStepRead) : Bool :=
  step.phase = "recovery"

end AgentExecutionStepRead

def AgentReplanRead.isLive (replan : AgentReplanRead) : Bool :=
  replan.source = "live_callback"

def plannedActions (steps : List AgentExecutionStepRead) : List String :=
  (steps.filter (fun step => step.phase = "plan")).map
    AgentExecutionStepRead.action

section Recount

variable (rate : Nat → Nat → Option Rat) (trace : AgentExecutionTraceRead)

/-- The plan was read, its actions are the expected ones, and the steps follow
it as far as they go. -/
def recountSequenceMatch : Bool :=
  trace.parseError.isNone &&
    Agent.actionsMatch trace.expectedActionSequence trace.actualActionSequence &&
    (plannedActions trace.steps).isPrefixOf trace.actualActionSequence

def recountRecoverySequenceMatch : Option Bool :=
  if trace.replans.isEmpty then none
  else some (trace.replans.all AgentReplanRead.sequenceMatch)

def recountPolicyViolations : Nat :=
  (trace.steps.map (fun step => step.policyViolations.length)).sum +
    (if recountSequenceMatch trace then 0 else 1) +
    (if trace.replans.any (fun replan => !replan.sequenceMatch) then 1 else 0)

def recountPlanValid : Bool :=
  recountSequenceMatch trace && recountPolicyViolations trace = 0 &&
    recountRecoverySequenceMatch trace ≠ some false

/-- `successful`: nothing failed for good, the answer was given, and the whole
plan was executed. -/
def recountSuccessful : Bool :=
  !trace.steps.isEmpty && recountPlanValid trace &&
    !trace.steps.any AgentExecutionStepRead.isUnrecovered &&
    trace.steps.any AgentExecutionStepRead.isFinalResponse &&
    trace.haltReason.isNone &&
    plannedActions trace.steps = trace.actualActionSequence

/-- The summary of the steps and replans, as `execute_agent_plan` counts it;
`rate` is its `_rate`. -/
def recount : TraceSummary :=
  let steps := trace.steps
  let replans := trace.replans
  let withAction := fun action : String =>
    steps.countP (fun step => step.action = action)
  { planValid := recountPlanValid trace
    successful := recountSuccessful trace
    sequenceMatch := recountSequenceMatch trace
    finalResponsePresent := steps.any AgentExecutionStepRead.isFinalResponse
    successfulStepCount := steps.countP AgentExecutionStepRead.successful
    failedStepCount := steps.countP (fun step => !step.successful)
    stepSuccessRate :=
      rate (steps.countP AgentExecutionStepRead.successful) steps.length
    toolCallCount := withAction "tool"
    retrievalCount := withAction "retrieve"
    memoryReadCount := withAction "memory_read"
    memoryWriteCount := withAction "memory_write"
    retriedToolCount := steps.countP (fun step => step.retryCount > 0)
    recoveredToolCount :=
      steps.countP (fun step => step.retryCount > 0 && step.recovered)
    policyViolationCount := recountPolicyViolations trace
    memoryProvenanceCount := steps.countP (fun step =>
      step.isMemoryAction && step.memoryProvenanceValid)
    memoryActionCount := steps.countP AgentExecutionStepRead.isMemoryAction
    observationCount := steps.countP (fun step => step.observation.isSome)
    replanCount := replans.length
    successfulReplanCount := replans.countP AgentReplanRead.successful
    recoveryStepCount := steps.countP AgentExecutionStepRead.isRecovery
    successfulRecoveryStepCount := steps.countP (fun step =>
      step.isRecovery && step.successful)
    recoverySequenceMatch := recountRecoverySequenceMatch trace
    unrecoveredFailureCount := steps.countP AgentExecutionStepRead.isUnrecovered
    approvalCheckpointCount := steps.countP AgentExecutionStepRead.isCheckpoint
    approvedCheckpointCount :=
      steps.countP (AgentExecutionStepRead.isCheckpointWith "approved")
    deniedCheckpointCount :=
      steps.countP (AgentExecutionStepRead.isCheckpointWith "denied")
    pendingCheckpointCount :=
      steps.countP (AgentExecutionStepRead.isCheckpointWith "pending")
    approvalProvenanceCount := steps.countP (fun step =>
      step.isCheckpoint && step.approvalProvenanceValid)
    liveReplanCount := replans.countP AgentReplanRead.isLive
    liveReplanModelCallCount := replans.countP (fun replan =>
      replan.isLive && replan.modelCall.isSome) }

def SummaryAgrees : Prop :=
  trace.toTraceSummary = recount rate trace

instance : Decidable (SummaryAgrees rate trace) :=
  inferInstanceAs (Decidable (trace.toTraceSummary = recount rate trace))

end Recount

structure AgentScores where
  (quality groundedness faithfulness : Rat)

def clamp (value : Rat) : Rat :=
  max 0 (min 1 value)

def scoreOf (value : Bool) : Rat :=
  if value then 1 else 0

def shareOf (part whole : Int) : Rat :=
  if whole = 0 then 1 else part / whole

/-- `AgentExecutionScorer.score` in exact arithmetic; `round` rounds to three
digits. -/
def agentScores (round : Rat → Rat) (summary : TraceSummary) (stepCount : Int)
    (observes : Bool) : AgentScores :=
  let taskSuccess := scoreOf summary.successful
  let planValidity := scoreOf summary.planValid
  let stepSuccess := (summary.stepSuccessRate.map clamp).getD 0
  let sequence := scoreOf summary.sequenceMatch
  let finalResponse := scoreOf summary.finalResponsePresent
  let noPolicyViolation := scoreOf (summary.policyViolationCount = 0)
  let memoryProvenance :=
    shareOf summary.memoryProvenanceCount summary.memoryActionCount
  let replanSuccess :=
    shareOf summary.successfulReplanCount summary.replanCount
  let approvalCompliance :=
    shareOf summary.approvedCheckpointCount summary.approvalCheckpointCount
  let observationCoverage :=
    if observes then shareOf summary.observationCount stepCount else 1
  { quality := round (clamp (22 / 100 * taskSuccess + 18 / 100 * planValidity +
        12 / 100 * stepSuccess + 12 / 100 * sequence +
        10 / 100 * finalResponse + 10 / 100 * noPolicyViolation +
        4 / 100 * memoryProvenance + 5 / 100 * replanSuccess +
        4 / 100 * approvalCompliance + 3 / 100 * observationCoverage))
    groundedness := round (clamp (35 / 100 * stepSuccess + 25 / 100 * sequence +
        15 / 100 * memoryProvenance + 15 / 100 * replanSuccess +
        10 / 100 * observationCoverage))
    faithfulness := round (clamp (35 / 100 * planValidity + 30 / 100 * noPolicyViolation +
        15 / 100 * finalResponse + 20 / 100 * approvalCompliance)) }

/-- `AgentEvidenceImportCreate` with its whole trace. -/
structure CapturedEvent where
  (benchmarkRunId evaluationCaseId : Uuid)
  (sampleId rawOutput normalizedOutput : String)
  trace : AgentExecutionTraceRead
  provenance : AgentEvidenceProvenance

def CapturedEvent.dumped (canonical : AgentExecutionTraceRead → String)
    (event : CapturedEvent) : AgentEvidenceImportCreate where
  benchmarkRunId := event.benchmarkRunId
  evaluationCaseId := event.evaluationCaseId
  sampleId := event.sampleId
  rawOutput := event.rawOutput
  normalizedOutput := event.normalizedOutput
  trace := event.trace.dumped canonical
  provenance := event.provenance

/-- What the trace of an event goes through besides the checks: its canonical
text, and the arithmetic of its scores. -/
structure TraceEnvironment extends EvidenceEnvironment where
  canonical : AgentExecutionTraceRead → String
  rate : Nat → Nat → Option Rat
  round : Rat → Rat

structure CapturedResult where
  rows : ImportedEvidence
  (exactMatch jsonValid : Bool)
  errorType : Option String
  scores : AgentScores
  /-- `metadata_json["agent_execution"]`. -/
  agentExecution : AgentExecutionTraceRead

/-- The result of a trace; `score_case_result` replaces neither `exact_match`
nor `json_valid`. -/
def capturedResult (env : TraceEnvironment)
    (trace : AgentExecutionTraceRead) (rows : ImportedEvidence) :
    CapturedResult where
  rows := rows
  exactMatch := trace.successful
  jsonValid := trace.parseValid
  errorType := if trace.successful then none else some "agent_execution_failed"
  scores := agentScores env.round trace.toTraceSummary trace.stepCount
    (trace.observationSchemaVersion.any (fun version => version ≠ ""))
  agentExecution := trace

/-- `import_production_agent_evidence`. -/
def importCapturedEvidence (env : TraceEnvironment) (tables : EvidenceTables)
    (visible : List BenchmarkResult) (signerIdentity : SignerIdentity) (event : CapturedEvent)
    (writer : Option Uuid) (resultId metricId : Uuid) :
    Except ServiceError CapturedResult :=
  (importProductionAgentEvidence env.toEvidenceEnvironment tables
    visible signerIdentity (event.dumped env.canonical) writer resultId
    metricId).map (capturedResult env event.trace)

/-- The checks that `_validate_trace` makes of the steps, the replans and their
numbers. -/
structure TraceChecked (text : TextEnvironment) (trace : AgentTrace) : Prop where
  stepCount : trace.stepCount = trace.steps.length
  replanCount : trace.replanCount ≤ Agent.maxAgentReplans
  liveCalls :
    trace.liveReplanModelCallCount ≤ Agent.maxAgentLiveReplanCalls
  noPending : trace.pendingCheckpointCount ≤ 0
  steps : ∀ step ∈ trace.steps, validateApprovalStep step = .ok ()
  replans : ∀ replan ∈ trace.replans, validateLiveReplan text replan = .ok ()

theorem validateTrace_checks {text : TextEnvironment}
    {evalCase : EvaluationCase} {trace : AgentTrace} :
    Yields (validateTrace text evalCase trace) (fun _ => TraceChecked text trace) := by
  unfold validateTrace
  refine Yields.check (fun _ => ?_)
  refine Yields.check (fun _ => ?_)
  refine Yields.check (fun counted => ?_)
  refine Yields.check (fun replans => ?_)
  refine Yields.check (fun liveCalls => ?_)
  refine Yields.check (fun pending => ?_)
  refine Yields.bind (Yields.self _) (fun _ stepsPass => ?_)
  intro _ replansPass
  have replanCount : trace.replanCount ≤ Agent.maxAgentReplans :=
    not_lt.mp replans
  have liveCount : trace.liveReplanModelCallCount ≤
      Agent.maxAgentLiveReplanCalls := not_lt.mp liveCalls
  exact
    { stepCount := not_not.mp counted
      replanCount := replanCount
      liveCalls := liveCount
      noPending := not_lt.mp pending
      steps := forM_eq_ok stepsPass
      replans := forM_eq_ok replansPass }

theorem validateEvidence_checks {env : EvidenceEnvironment} {tables : EvidenceTables}
    {signerIdentity : SignerIdentity} {event : AgentEvidenceImportCreate} :
    Yields (validateEvidence env tables signerIdentity event)
      (fun _ => TraceChecked env.text event.trace) := by
  unfold validateEvidence
  refine Yields.bind (Yields.self _) (fun _ _ => ?_)
  split
  · split
    · refine Yields.check (fun _ => ?_)
      refine Yields.check (fun _ => ?_)
      refine Yields.bind validateTrace_checks (fun _ checked => ?_)
      refine Yields.check (fun _ => ?_)
      exact Yields.bind (Yields.self _) (fun _ _ => Yields.pure checked)
    · exact Yields.throw _
  · exact Yields.throw _

theorem importCapturedEvidence_eq_ok {env : TraceEnvironment} {tables : EvidenceTables}
    {visible : List BenchmarkResult} {signerIdentity : SignerIdentity} {event : CapturedEvent}
    {writer : Option Uuid} {resultId metricId : Uuid} {res : CapturedResult}
    (accepted : importCapturedEvidence env tables visible signerIdentity
      event writer resultId metricId = .ok res) :
    TraceChecked env.text (event.trace.dumped env.canonical) ∧
      ∃ rows, res = capturedResult env event.trace rows := by
  unfold importCapturedEvidence at accepted
  cases imported : importProductionAgentEvidence
      env.toEvidenceEnvironment tables visible signerIdentity
      (event.dumped env.canonical) writer resultId metricId with
  | error raised =>
    rw [imported] at accepted
    cases accepted
  | ok rows =>
    rw [imported] at accepted
    refine ⟨?_, rows, (Except.ok.inj accepted).symm⟩
    unfold importProductionAgentEvidence at imported
    split at imported
    · cases imported
    · next evalCase validated =>
        exact validateEvidence_checks evalCase validated

/-! ## Traces that their steps support -/

/-- The step of an approved checkpoint names a verified decision that was
recorded. -/
structure CarriesProvenance (step : AgentExecutionStepRead) : Prop where
  verified : ∃ output, step.output = some output ∧
    output.get? "identity_verified" = some (.bool true)
  decisionHash : ∃ output, step.output = some output ∧
    output.truthyMember "decision_hash" = true
  recordId : ∃ output, step.output = some output ∧
    output.truthyMember "checkpoint_record_id" = true

def providerOf (text : TextEnvironment) (replan : AgentReplanRead) : String :=
  text.lower (Json.pyStrOrEmpty text.render
    ((replan.modelCall.getD .null).get? "provider_id"))

structure NamesProvider (text : TextEnvironment) (replan : AgentReplanRead) :
    Prop where
  named : providerOf text replan ≠ ""
  notMock : containsText "mock" (providerOf text replan) = false
  notFixture : containsText "fixture" (providerOf text replan) = false

structure Supported (env : TraceEnvironment) (res : CapturedResult) :
    Prop where
  noPending : ∀ step ∈ res.agentExecution.steps,
    step.isCheckpointWith "pending" = false
  provenance : ∀ step ∈ res.agentExecution.steps,
    step.isCheckpointWith "approved" = true → CarriesProvenance step
  replans : res.agentExecution.replans.length ≤ Agent.maxAgentReplans
  liveReplans : res.agentExecution.replans.countP AgentReplanRead.isLive ≤
    Agent.maxAgentLiveReplanCalls
  providers : ∀ replan ∈ res.agentExecution.replans,
    replan.isLive = true → NamesProvider env.text replan
  stepCount : res.agentExecution.stepCount =
    res.agentExecution.steps.length
  summary : SummaryAgrees env.rate res.agentExecution
  scores : res.scores = agentScores env.round
    (recount env.rate res.agentExecution)
    res.agentExecution.steps.length
    (res.agentExecution.observationSchemaVersion.any
      (fun version => version ≠ ""))
  exactMatch : res.exactMatch = true →
    recountSuccessful res.agentExecution = true

section Checked

variable {env : TraceEnvironment} {trace : AgentExecutionTraceRead}

theorem TraceChecked.validStep (checked : TraceChecked env.text (trace.dumped env.canonical))
    {step : AgentExecutionStepRead} (mem : step ∈ trace.steps) :
    validateApprovalStep
      { action := step.action
        status := step.status
        output := step.output } = .ok () :=
  checked.steps _ (List.mem_map_of_mem mem)

theorem TraceChecked.validReplan (checked : TraceChecked env.text (trace.dumped env.canonical))
    {replan : AgentReplanRead} (mem : replan ∈ trace.replans) :
    validateLiveReplan env.text
      { source := replan.source
        modelCall := replan.modelCall } = .ok () :=
  checked.replans _ (List.mem_map_of_mem mem)

theorem carriesProvenance_of_valid {step : AgentExecutionStepRead} (valid : validateApprovalStep
      { action := step.action, status := step.status, output := step.output } = .ok ())
    (approved : step.isCheckpointWith "approved" = true) :
    CarriesProvenance step := by
  simp only [AgentExecutionStepRead.isCheckpointWith,
    AgentExecutionStepRead.isCheckpoint, Bool.and_eq_true,
    decide_eq_true_eq] at approved
  obtain ⟨isCheckpoint, isApproved⟩ := approved
  unfold validateApprovalStep at valid
  rw [if_neg (by simp [isCheckpoint, isApproved])] at valid
  cases present : step.output with
  | none =>
    simp only [present, Option.getD_none, Json.get?] at valid
    cases valid
  | some output =>
    simp only [present, Option.getD_some] at valid
    split at valid
    · next verified =>
        split at valid
        · cases valid
        · next recorded =>
            rw [Bool.not_eq_false, Bool.and_eq_true] at recorded
            exact ⟨⟨output, present, verified⟩, ⟨output, present, recorded.1⟩,
              ⟨output, present, recorded.2⟩⟩
    · cases valid

theorem namesProvider_of_valid {text : TextEnvironment} {replan : AgentReplanRead}
    (valid : validateLiveReplan text
      { source := replan.source, modelCall := replan.modelCall } = .ok ())
    (live : replan.isLive = true) : NamesProvider text replan := by
  have source : replan.source = "live_callback" := of_decide_eq_true live
  unfold validateLiveReplan at valid
  rw [if_neg (by simp [source])] at valid
  simp only at valid
  split at valid
  · cases valid
  · next real =>
      simp only [Bool.or_eq_true, decide_eq_true_eq, not_or, Bool.not_eq_true] at real
      exact ⟨real.1.1, real.1.2, real.2⟩

theorem noPending_of_agrees (checked : TraceChecked env.text (trace.dumped env.canonical))
    (agrees : SummaryAgrees env.rate trace) :
    ∀ step ∈ trace.steps, step.isCheckpointWith "pending" = false := by
  have counted : trace.pendingCheckpointCount = (trace.steps.countP
      (AgentExecutionStepRead.isCheckpointWith "pending") : Int) :=
    congrArg TraceSummary.pendingCheckpointCount agrees
  have bounded : trace.pendingCheckpointCount ≤ 0 := checked.noPending
  have none : trace.steps.countP
      (AgentExecutionStepRead.isCheckpointWith "pending") = 0 := by omega
  intro step mem
  exact Bool.eq_false_iff.mpr (List.countP_eq_zero.mp none step mem)

theorem replans_le_of_agrees (checked : TraceChecked env.text (trace.dumped env.canonical))
    (agrees : SummaryAgrees env.rate trace) :
    trace.replans.length ≤ Agent.maxAgentReplans := by
  have counted : trace.replanCount = (trace.replans.length : Int) :=
    congrArg TraceSummary.replanCount agrees
  have bounded : trace.replanCount ≤ Agent.maxAgentReplans :=
    checked.replanCount
  omega

theorem supported_of_agrees (checked : TraceChecked env.text (trace.dumped env.canonical))
    (agrees : SummaryAgrees env.rate trace) (rows : ImportedEvidence) :
    Supported env (capturedResult env trace rows) := by
  have replansLe := replans_le_of_agrees checked agrees
  have stepCount : trace.stepCount = trace.steps.length := by
    have checkedCount : trace.stepCount = ((trace.dumped env.canonical).steps.length : Int) :=
      checked.stepCount
    rw [checkedCount]
    exact congrArg Nat.cast (List.length_map _)
  exact
    { noPending := noPending_of_agrees checked agrees
      provenance := fun step mem =>
        carriesProvenance_of_valid (checked.validStep mem)
      replans := replansLe
      liveReplans := List.countP_le_length.trans replansLe
      providers := fun replan mem =>
        namesProvider_of_valid (checked.validReplan mem)
      stepCount := stepCount
      summary := agrees
      scores := by
        have same : trace.toTraceSummary = recount env.rate trace :=
          agrees
        simp only [capturedResult, same, stepCount]
      exactMatch := by
        have same : trace.successful = recountSuccessful trace :=
          congrArg TraceSummary.successful agrees
        exact fun matched => same ▸ matched }

end Checked

/-- An imported result is supported by its steps and replans just if the caller's summary is the
one they give. -/
theorem importCapturedEvidence_supported_iff {env : TraceEnvironment} {tables : EvidenceTables}
    {visible : List BenchmarkResult} {signerIdentity : SignerIdentity} {event : CapturedEvent}
    {writer : Option Uuid} {resultId metricId : Uuid} {res : CapturedResult}
    (accepted : importCapturedEvidence env tables visible signerIdentity
      event writer resultId metricId = .ok res) :
    Supported env res ↔ SummaryAgrees env.rate event.trace := by
  obtain ⟨checked, rows, rfl⟩ := importCapturedEvidence_eq_ok accepted
  constructor
  · intro supported
    exact supported.summary
  · intro agrees
    exact supported_of_agrees checked agrees rows

def importTables : EvidenceTables where
  benchmarkRuns :=
    [{ id := 1, dataSource := productionCapturedSource, evaluationSuiteId := some 2 }]
  evaluationCases :=
    [{ id := 3, evaluationSuiteId := some 2, externalCaseId := "refund" }]
  results := []
  metrics := []

def capturedEnvironment : TraceEnvironment where
  text :=
    { lower := fun text => String.ofList (text.toList.map Char.toLower)
      render := fun _ => "" }
  sha256 text := String.ofList (List.replicate 64 (Nat.digitChar (text.length % 16)))
  planOutput _ := .withSteps
  scoreCaseResult _ _ := .ok ()
  evidenceHash event _ := event.sampleId
  canonical trace := trace.schemaVersion ++ trace.externalCaseId
  rate part whole := if whole = 0 then none else some (part / whole)
  round value := value

def evidenceImporter : SignerIdentity where
  subjectId := "importer"
  displayName := "Importer"
  role := some "SRE Lead"
  identityProvider := "oidc"
  authSource := "session"
  identityVerified := true
  ticketReference := none

def undecidedStep : AgentExecutionStepRead where
  action := "approval_checkpoint"
  status := "pending"
  successful := false
  output := none
  policyViolations := []
  recovered := false
  retryCount := 0
  memoryProvenanceValid := false
  approvalProvenanceValid := false
  recoveredByReplan := false
  phase := "plan"
  observation := none

def answeredStep : AgentExecutionStepRead where
  action := "respond"
  status := "success"
  successful := true
  output := none
  policyViolations := []
  recovered := false
  retryCount := 0
  memoryProvenanceValid := false
  approvalProvenanceValid := false
  recoveredByReplan := false
  phase := "plan"
  observation := none

def answeredSummary : TraceSummary where
  planValid := true
  successful := true
  sequenceMatch := true
  finalResponsePresent := true
  successfulStepCount := 1
  failedStepCount := 0
  stepSuccessRate := some 1
  toolCallCount := 0
  retrievalCount := 0
  memoryReadCount := 0
  memoryWriteCount := 0
  retriedToolCount := 0
  recoveredToolCount := 0
  policyViolationCount := 0
  memoryProvenanceCount := 0
  memoryActionCount := 0
  observationCount := 0
  replanCount := 0
  successfulReplanCount := 0
  recoveryStepCount := 0
  successfulRecoveryStepCount := 0
  recoverySequenceMatch := none
  unrecoveredFailureCount := 0
  approvalCheckpointCount := 0
  approvedCheckpointCount := 0
  deniedCheckpointCount := 0
  pendingCheckpointCount := 0
  approvalProvenanceCount := 0
  liveReplanCount := 0
  liveReplanModelCallCount := 0

def answeredTrace (steps : List AgentExecutionStepRead) : AgentExecutionTraceRead where
  toTraceSummary := answeredSummary
  schemaVersion := "agent-execution-trace-v2"
  externalCaseId := "refund"
  parseValid := true
  parseError := none
  haltReason := none
  observationSchemaVersion := none
  stepCount := steps.length
  expectedActionSequence := ["respond"]
  actualActionSequence := ["respond"]
  replans := []
  steps := steps

def answeredEvent (steps : List AgentExecutionStepRead) : CapturedEvent where
  benchmarkRunId := 1
  evaluationCaseId := 3
  sampleId := "sample-1"
  rawOutput := "output"
  normalizedOutput := "output"
  trace := answeredTrace steps
  provenance :=
    { sourceSystem := "checkout"
      sourceEventId := "event-1"
      collectorVersion := "1"
      sourceTraceHash := capturedEnvironment.sha256
        (capturedEnvironment.canonical (answeredTrace steps)) }

def importAnswered (steps : List AgentExecutionStepRead) : Except ServiceError CapturedResult :=
  importCapturedEvidence capturedEnvironment importTables [] evidenceImporter
    (answeredEvent steps) none 4 5

theorem answered_supported : ∃ res, importAnswered [answeredStep] = .ok res ∧
    Supported capturedEnvironment res := by
  have accepted : (importAnswered [answeredStep]).isOk = true := by
    decide +kernel
  cases imported : importAnswered [answeredStep] with
  | error raised =>
    rw [imported] at accepted
    cases accepted
  | ok res =>
    have agrees : SummaryAgrees capturedEnvironment.rate
        (answeredEvent [answeredStep]).trace := by decide +kernel
    exact ⟨res, rfl, (importCapturedEvidence_supported_iff imported).mpr agrees⟩

theorem undecided_imported : ∃ res,
    importAnswered [undecidedStep, answeredStep] = .ok res ∧ res.exactMatch = true ∧
      (∃ step ∈ res.agentExecution.steps,
        step.isCheckpointWith "pending" = true) ∧
      recountSuccessful res.agentExecution = false := by
  have accepted : (importAnswered [undecidedStep, answeredStep]).isOk = true := by
    decide +kernel
  cases imported : importAnswered [undecidedStep, answeredStep] with
  | error raised =>
    rw [imported] at accepted
    cases accepted
  | ok res =>
    obtain ⟨_, rows, rfl⟩ := importCapturedEvidence_eq_ok imported
    have pending : undecidedStep.isCheckpointWith "pending" = true := by
      decide
    have unsupported : recountSuccessful
        (answeredTrace [undecidedStep, answeredStep]) = false := by decide
    exact ⟨_, rfl, rfl, ⟨undecidedStep, List.mem_cons_self, pending⟩, unsupported⟩

end ModelAtlas.Traffic
