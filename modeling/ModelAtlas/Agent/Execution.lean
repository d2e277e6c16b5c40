import ModelAtlas.Agent.Plan

/-!
# Execution of an agent plan

`execute_agent_plan` of `services/agent_execution/execution.py`: the planned
steps are executed in order until one of them halts the plan, and a failed step
may be recovered by a branch of the plan or by a live callback.
-/

namespace ModelAtlas.Agent

open Foundations Approval

structure ReplanEvent where
  (replanIndex triggerStepIndex : Nat)
  triggerErrorType : Option String
  observation : Json
  (strategy source : String)
  (expectedActionSequence actualActionSequence : List String)
  sequenceMatch : Bool
  recoveryStepIndices : List Nat
  status : String
  successful : Bool
  modelCall : Json

def ReplanEvent.toJson (event : ReplanEvent) : Json :=
  .obj
    [("replan_index", .int event.replanIndex),
      ("trigger_step_index", .int event.triggerStepIndex),
      ("trigger_error_type", Json.optionText event.triggerErrorType),
      ("observation", event.observation),
      ("strategy", .str event.strategy),
      ("source", .str event.source),
      ("expected_action_sequence",
        .arr (event.expectedActionSequence.map .str)),
      ("actual_action_sequence", .arr (event.actualActionSequence.map .str)),
      ("sequence_match", .bool event.sequenceMatch),
      ("recovery_step_indices",
        .arr (event.recoveryStepIndices.map (fun index => .int index))),
      ("status", .str event.status),
      ("successful", .bool event.successful),
      ("policy_version", .str "bounded-recovery-policy-v1"),
      ("model_call", event.modelCall)]

/-- `AgentExecutionTrace`, without its rates, costs and durations. -/
structure AgentExecutionTrace where
  externalCaseId : String
  parseValid : Bool
  parseError : Option String
  planValid : Bool
  status : String
  successful : Bool
  (stepLimit executionStepLimit replanLimit stepCount : Nat)
  (expectedActionSequence actualActionSequence : List String)
  sequenceMatch : Bool
  (successfulStepCount failedStepCount toolCallCount retrievalCount memoryReadCount : Nat)
  (memoryWriteCount retriedToolCount recoveredToolCount policyViolationCount : Nat)
  finalResponsePresent : Bool
  (memoryProvenanceCount memoryActionCount observationCount replanCount : Nat)
  (successfulReplanCount recoveryStepCount successfulRecoveryStepCount : Nat)
  recoverySequenceMatch : Option Bool
  (unrecoveredFailureCount approvalCheckpointCount approvedCheckpointCount : Nat)
  (deniedCheckpointCount pendingCheckpointCount approvalProvenanceCount : Nat)
  haltReason : Option String
  (liveReplanCount liveReplanModelCallCount : Nat)
  (liveReplanPromptTokens liveReplanCompletionTokens : Int)
  replans : List ReplanEvent
  steps : List AgentStep

/-- `AgentExecutionTrace.to_dict`. -/
def AgentExecutionTrace.toJson (env : AgentEnvironment) (trace : AgentExecutionTrace) : Json :=
  .obj
    [("schema_version", .str "agent-execution-trace-v2"),
      ("context_version", .str "agent-context-v2"),
      ("runtime_version", .str "bounded-agent-runtime-v2"),
      ("observation_schema_version", .str "agent-observation-v1"),
      ("recovery_policy_version", .str "bounded-recovery-policy-v1"),
      ("approval_policy_version", .str "human-checkpoint-policy-v1"),
      ("memory_registry_version", .str env.memoryRegistryVersion),
      ("tool_registry_version", .str "local-tool-registry-v1"),
      ("corpus_version", .str env.corpusVersion),
      ("retriever_version", .str env.retrieverVersion),
      ("external_case_id", .str trace.externalCaseId),
      ("parse_valid", .bool trace.parseValid),
      ("parse_error", Json.optionText trace.parseError),
      ("plan_valid", .bool trace.planValid),
      ("status", .str trace.status),
      ("successful", .bool trace.successful),
      ("step_limit", .int trace.stepLimit),
      ("execution_step_limit", .int trace.executionStepLimit),
      ("replan_limit", .int trace.replanLimit),
      ("step_count", .int trace.stepCount),
      ("expected_action_sequence",
        .arr (trace.expectedActionSequence.map .str)),
      ("actual_action_sequence", .arr (trace.actualActionSequence.map .str)),
      ("sequence_match", .bool trace.sequenceMatch),
      ("successful_step_count", .int trace.successfulStepCount),
      ("failed_step_count", .int trace.failedStepCount),
      ("tool_call_count", .int trace.toolCallCount),
      ("retrieval_count", .int trace.retrievalCount),
      ("memory_read_count", .int trace.memoryReadCount),
      ("memory_write_count", .int trace.memoryWriteCount),
      ("retried_tool_count", .int trace.retriedToolCount),
      ("recovered_tool_count", .int trace.recoveredToolCount),
      ("policy_violation_count", .int trace.policyViolationCount),
      ("final_response_present", .bool trace.finalResponsePresent),
      ("memory_provenance_count", .int trace.memoryProvenanceCount),
      ("memory_action_count", .int trace.memoryActionCount),
      ("observation_count", .int trace.observationCount),
      ("replan_count", .int trace.replanCount),
      ("successful_replan_count", .int trace.successfulReplanCount),
      ("recovery_step_count", .int trace.recoveryStepCount),
      ("successful_recovery_step_count",
        .int trace.successfulRecoveryStepCount),
      ("recovery_sequence_match",
        (trace.recoverySequenceMatch.map (fun sequenceMatch =>
          Json.bool sequenceMatch)).getD .null),
      ("unrecovered_failure_count", .int trace.unrecoveredFailureCount),
      ("approval_checkpoint_count", .int trace.approvalCheckpointCount),
      ("approved_checkpoint_count", .int trace.approvedCheckpointCount),
      ("denied_checkpoint_count", .int trace.deniedCheckpointCount),
      ("pending_checkpoint_count", .int trace.pendingCheckpointCount),
      ("approval_provenance_count", .int trace.approvalProvenanceCount),
      ("halt_reason", Json.optionText trace.haltReason),
      ("live_replan_count", .int trace.liveReplanCount),
      ("live_replan_model_call_count", .int trace.liveReplanModelCallCount),
      ("live_replan_prompt_tokens", .int trace.liveReplanPromptTokens),
      ("live_replan_completion_tokens", .int trace.liveReplanCompletionTokens),
      ("replans", .arr (trace.replans.map ReplanEvent.toJson)),
      ("steps", .arr (trace.steps.map (AgentStep.toJson env)))]

structure AgentLiveReplanRequest where
  externalCaseId : String
  triggerStepIndex : Nat
  triggerErrorType : String
  observation : Json
  (expectedRecoverySteps priorOutputs : List Json)
  recoveryStepLimit : Nat

/-- How a callback ends; `modelCall` is the provenance of its response. -/
inductive LiveReplanAnswer where
  | raised (errorType : String)
  | noResponse
  | response (steps : List Json) (modelCall : Json)

/-- A callback; `execute_agent_plan` calls it once at most. -/
abbrev AgentLiveReplanCallback : Type :=
  AgentLiveReplanRequest → LiveReplanAnswer

/-- The variables of the loop over the planned steps.  The loop breaks exactly
when it assigns `halt_reason`. -/
structure PlanProgress where
  actionCounts : String → Nat
  priorOutputs : List Json
  executedSteps : List AgentStep
  approvedCheckpointIds : List String
  replanEvents : List ReplanEvent
  liveReplanCallCount : Nat
  haltReason : Option String

def PlanProgress.initial : PlanProgress where
  actionCounts _ := 0
  priorOutputs := []
  executedSteps := []
  approvedCheckpointIds := []
  replanEvents := []
  liveReplanCallCount := 0
  haltReason := none

def recordApprovedCheckpoint (env : AgentEnvironment)
    (approved : List String) (step : AgentStep) : List String :=
  let checkpointId := Json.pyStrOrEmpty env.text.render
    (step.output.bind (fun output => output.get? "checkpoint_id"))
  if step.action = "approval_checkpoint" && step.status = "approved" &&
      checkpointId ≠ "" then approved ++ [checkpointId]
  else approved

namespace PlanProgress

def counting (prog : PlanProgress) (action : String) : PlanProgress :=
  { prog with
    actionCounts := fun other =>
      if other = action then prog.actionCounts action + 1
      else prog.actionCounts other }

def record (env : AgentEnvironment) (prog : PlanProgress) (step : AgentStep) : PlanProgress :=
  { prog with
    executedSteps := prog.executedSteps ++ [step]
    priorOutputs :=
      match step.successful, step.output with
      | true, some output =>
        if output.isObject then prog.priorOutputs ++ [output]
        else prog.priorOutputs
      | _, _ => prog.priorOutputs
    approvedCheckpointIds := recordApprovedCheckpoint env prog.approvedCheckpointIds step }

def halt (prog : PlanProgress) (reason : String) : PlanProgress :=
  { prog with haltReason := some reason }

def addEvent (prog : PlanProgress) (event : ReplanEvent) : PlanProgress :=
  { prog with replanEvents := prog.replanEvents ++ [event] }

/-- `step["recovered_by_replan"] = True`. -/
def markRecovered (prog : PlanProgress) (stepIndex : Nat) : PlanProgress :=
  { prog with
    executedSteps := prog.executedSteps.map (fun step =>
      if step.stepIndex = stepIndex then { step with recoveredByReplan := true }
      else step) }

end PlanProgress

structure PlanContext where
  env : AgentEnvironment
  externalCaseId : String
  preparation : AgentPreparation
  recoveryPlans : List RecoveryBranch
  callback : Option AgentLiveReplanCallback

section Steps

variable (ctx : PlanContext)

/-- The step that `_execute_agent_step` makes of a planned one. -/
def executePlanned (prog : PlanProgress) (planned : Json)
    (expected : Option Json) (phase : String) (parentStepIndex : Option Nat) :
    AgentStep :=
  executeAgentStep ctx.env ctx.externalCaseId ctx.preparation
    { stepIndex := prog.executedSteps.length
      planned := planned
      expected := expected
      actionCount := prog.actionCounts (Json.pyStrOrEmpty
        ctx.env.text.render (planned.get? "action"))
      priorOutputs := prog.priorOutputs
      approvedCheckpointIds := prog.approvedCheckpointIds
      phase := phase
      parentStepIndex := parentStepIndex }

def performPlanned (prog : PlanProgress) (planned : Json)
    (expected : Option Json) (phase : String) (parentStepIndex : Option Nat) :
    PlanProgress × AgentStep :=
  let counted := prog.counting (Json.pyStrOrEmpty
    ctx.env.text.render (planned.get? "action"))
  let step := executePlanned ctx counted planned expected phase parentStepIndex
  (counted.record ctx.env step, step)

structure RecoveryRun where
  progress : PlanProgress
  recoveryStepIndices : List Nat
  status : String
  successful : Bool

/-- The loop over the steps of a recovery branch; `recoveryIndex` is the number
of the first of the remaining steps. -/
def runRecovery (expectedRecovery : List Json) (triggerIndex : Nat) :
    List Json → Nat → RecoveryRun → RecoveryRun
  | [], _, run => run
  | recoveryStep :: rest, recoveryIndex, run =>
    if !recoveryStep.isObject then
      { run with
        successful := false
        status := "invalid_recovery_step" }
    else if run.progress.executedSteps.length ≥ ctx.preparation.agentContext.executionStepLimit then
      { run with
        successful := false
        status := "limit_exceeded"
        progress := run.progress.halt "execution_step_limit_exceeded" }
    else
      let performed := performPlanned ctx run.progress recoveryStep
        expectedRecovery[recoveryIndex]? "recovery" (some triggerIndex)
      let indices := run.recoveryStepIndices ++ [performed.2.stepIndex]
      if performed.2.successful then
        runRecovery expectedRecovery triggerIndex rest (recoveryIndex + 1)
          { run with progress := performed.1, recoveryStepIndices := indices }
      else
        { progress := performed.1
          recoveryStepIndices := indices
          status := if run.status = "running" then "failed" else run.status
          successful := false }

structure RecoveryPlan where
  steps : List Json
  strategy : Option Json
  source : String
  modelCall : Json

/-- `str(recovery_plan.get("strategy") or default)`. -/
def RecoveryPlan.strategyOr (plan : RecoveryPlan) (default : String) : String :=
  pyOr (Json.pyStrOrEmpty ctx.env.text.render plan.strategy) default

def attemptRecovery (prog : PlanProgress) (index : Nat) (step : AgentStep)
    (plan : RecoveryPlan) : PlanProgress :=
  let limits := ctx.preparation.agentContext
  let text := ctx.env.text
  if prog.replanEvents.length ≥ limits.replanLimit then prog
  else
    let expectedRecovery :=
      expectedRecoverySteps ctx.preparation.contract index
    let expected := expectedActions text expectedRecovery
    let actual := actualActions text (plan.steps.filter Json.isObject)
    let event : ReplanEvent :=
      { replanIndex := prog.replanEvents.length + 1
        triggerStepIndex := index
        triggerErrorType := step.errorType
        observation := step.observation ctx.env
        strategy := plan.strategyOr ctx "replace_with_recovery_steps"
        source := plan.source
        expectedActionSequence := expected
        actualActionSequence := actual
        sequenceMatch := actionsMatch expected actual
        recoveryStepIndices := []
        status := "running"
        successful := false
        modelCall := plan.modelCall }
    if plan.steps.length > limits.recoveryStepLimit then
      (prog.addEvent { event with
        strategy := plan.strategyOr ctx "recovery"
        sequenceMatch := false
        status := "limit_exceeded" }).halt "recovery_step_limit_exceeded"
    else if !actionsMatch expected actual then
      (prog.addEvent { event with status := "policy_violation" }).halt
        "recovery_sequence_violation"
    else
      let run := runRecovery ctx expectedRecovery index plan.steps 0
        { progress := prog
          recoveryStepIndices := []
          status := "running"
          successful := !plan.steps.isEmpty }
      if run.successful then
        (run.progress.markRecovered step.stepIndex).addEvent { event with
          recoveryStepIndices := run.recoveryStepIndices
          status := "success"
          successful := true }
      else
        (run.progress.addEvent { event with
          recoveryStepIndices := run.recoveryStepIndices
          status :=
            if run.status = "running" then "failed" else run.status }).halt
              (run.progress.haltReason.getD "recovery_failed")

def callbackEvent (prog : PlanProgress) (index : Nat) (step : AgentStep)
    (status : String) (modelCall : List (String × Json)) : ReplanEvent where
  replanIndex := prog.replanEvents.length + 1
  triggerStepIndex := index
  triggerErrorType := step.errorType
  observation := step.observation ctx.env
  strategy := "live_callback"
  source := "live_callback"
  expectedActionSequence := expectedActions ctx.env.text
    (expectedRecoverySteps ctx.preparation.contract index)
  actualActionSequence := []
  sequenceMatch := false
  recoveryStepIndices := []
  status := status
  successful := false
  modelCall := .obj
    (("schema_version", .str "agent-live-replan-callback-v1") :: modelCall)

def replanLive (callback : AgentLiveReplanCallback) (prog : PlanProgress)
    (index : Nat) (step : AgentStep) : PlanProgress :=
  let called :=
    { prog with liveReplanCallCount := prog.liveReplanCallCount + 1 }
  match callback
      { externalCaseId := ctx.externalCaseId
        triggerStepIndex := index
        triggerErrorType := step.errorType.getD ""
        observation := step.observation ctx.env
        expectedRecoverySteps :=
          expectedRecoverySteps ctx.preparation.contract index
        priorOutputs := prog.priorOutputs
        recoveryStepLimit :=
          ctx.preparation.agentContext.recoveryStepLimit } with
  | .raised errorType =>
    (called.addEvent (callbackEvent ctx prog index step
      "callback_error" [("error_type", .str errorType)])).halt
        "live_replan_callback_error"
  | .noResponse =>
    (called.addEvent (callbackEvent ctx prog index step "no_recovery"
      [])).halt "live_replan_no_recovery"
  | .response steps modelCall =>
    attemptRecovery ctx called index step
      { steps := steps
        strategy := some (.str "live_callback_recovery")
        source := "live_callback"
        modelCall := modelCall }

def recoverStep (prog : PlanProgress) (index : Nat) (step : AgentStep) :
    PlanProgress :=
  match selectRecoveryPlan ctx.recoveryPlans index
      (step.errorType.getD "") with
  | some branch =>
    attemptRecovery ctx prog index step
      { steps := branch.steps
        strategy := branch.strategy
        source := "predeclared_plan"
        modelCall := .null }
  | none =>
    match ctx.callback with
    | none => prog
    | some callback =>
      if ctx.preparation.agentContext.allowLiveReplanning && prog.liveReplanCallCount < 1 &&
          prog.replanEvents.length < ctx.preparation.agentContext.replanLimit then
        replanLive ctx callback prog index step
      else prog

def runPlannedStep (index : Nat) (planned : Json) (prog : PlanProgress) :
    PlanProgress :=
  let performed := performPlanned ctx prog planned
    (expectedSteps ctx.preparation.contract)[index]? "plan" none
  if performed.2.status = "pending" then performed.1.halt "approval_pending"
  else if performed.2.status = "denied" then performed.1.halt "approval_denied"
  else if !performed.2.policyViolations.isEmpty then
    performed.1.halt "policy_violation"
  else if performed.2.successful then performed.1
  else recoverStep ctx performed.1 index performed.2

/-- The loop of `execute_agent_plan`; `index` is the number of the first of the
remaining steps. -/
def runPlan : List Json → Nat → PlanProgress → PlanProgress
  | [], _, prog => prog
  | planned :: rest, index, prog =>
    let next := runPlannedStep ctx index planned prog
    if next.haltReason.isSome then next else runPlan rest (index + 1) next

end Steps

def emptyTrace (externalCaseId : String) (limits : AgentContext) (expected actual : List String)
    (parseValid : Bool) (parseError : Option String) (status haltReason : String) (stepCount : Nat)
    : AgentExecutionTrace where
  externalCaseId := externalCaseId
  parseValid := parseValid
  parseError := parseError
  planValid := false
  status := status
  successful := false
  stepLimit := limits.stepLimit
  executionStepLimit := limits.executionStepLimit
  replanLimit := limits.replanLimit
  stepCount := stepCount
  expectedActionSequence := expected
  actualActionSequence := actual
  sequenceMatch := false
  successfulStepCount := 0
  failedStepCount := 0
  toolCallCount := 0
  retrievalCount := 0
  memoryReadCount := 0
  memoryWriteCount := 0
  retriedToolCount := 0
  recoveredToolCount := 0
  policyViolationCount := 1
  finalResponsePresent := false
  memoryProvenanceCount := 0
  memoryActionCount := 0
  observationCount := 0
  replanCount := 0
  successfulReplanCount := 0
  recoveryStepCount := 0
  successfulRecoveryStepCount := 0
  recoverySequenceMatch := none
  unrecoveredFailureCount := 0
  approvalCheckpointCount := 0
  approvedCheckpointCount := 0
  deniedCheckpointCount := 0
  pendingCheckpointCount := 0
  approvalProvenanceCount := 0
  haltReason := some haltReason
  liveReplanCount := 0
  liveReplanModelCallCount := 0
  liveReplanPromptTokens := 0
  liveReplanCompletionTokens := 0
  replans := []
  steps := []

def policyViolationCount (sequenceMatch : Bool) (prog : PlanProgress) :
    Nat :=
  (prog.executedSteps.map (fun step => step.policyViolations.length)).sum +
    (if sequenceMatch then 0 else 1) +
    (if prog.replanEvents.any (fun event => !event.sequenceMatch) then 1
    else 0)

/-- `all(event["sequence_match"] for event in replan_events)`, if there are
any. -/
def recoverySequenceMatch (replans : List ReplanEvent) : Option Bool :=
  if replans.isEmpty then none else some (replans.all ReplanEvent.sequenceMatch)

def AgentStep.isUnrecovered (step : AgentStep) : Bool :=
  !step.successful && !step.recoveredByReplan

def AgentStep.isFinalResponse (step : AgentStep) : Bool :=
  step.action = "respond" && step.successful

def AgentStep.isMemoryAction (step : AgentStep) : Bool :=
  ["memory_read", "memory_write"].contains step.action

def AgentStep.isCheckpointWith (status : String) (step : AgentStep) : Bool :=
  step.action = "approval_checkpoint" && step.status = status

/-- `event["model_call"]` of the events of a live callback, where it is a
`dict`. -/
def liveModelCalls (replans : List ReplanEvent) : List Json :=
  ((replans.filter (fun event => event.source = "live_callback")).map
    ReplanEvent.modelCall).filter Json.isObject

/-- `int(call.get(name) or 0)`; the provenance of a response holds integers. -/
def callTokens (name : String) (call : Json) : Int :=
  match call.get? name with
  | some (.int tokens) => tokens
  | _ => 0

def finishedTrace (externalCaseId : String) (limits : AgentContext)
    (expected actual : List String) (prog : PlanProgress) :
    AgentExecutionTrace :=
  let sequenceMatch := actionsMatch expected actual
  let steps := prog.executedSteps
  let replans := prog.replanEvents
  let violations := policyViolationCount sequenceMatch prog
  let planValid := sequenceMatch && violations = 0 && recoverySequenceMatch replans ≠ some false
  let successful := !steps.isEmpty && planValid && !steps.any AgentStep.isUnrecovered &&
    steps.any AgentStep.isFinalResponse && prog.haltReason.isNone
  { externalCaseId := externalCaseId
    parseValid := true
    parseError := none
    planValid := planValid
    status :=
      if prog.haltReason = some "approval_pending" then "pending_approval"
      else if prog.haltReason = some "approval_denied" then
        "approval_denied"
      else if successful then "success"
      else if steps.any AgentStep.successful then "partial_failure"
      else "failed"
    successful := successful
    stepLimit := limits.stepLimit
    executionStepLimit := limits.executionStepLimit
    replanLimit := limits.replanLimit
    stepCount := steps.length
    expectedActionSequence := expected
    actualActionSequence := actual
    sequenceMatch := sequenceMatch
    successfulStepCount := steps.countP AgentStep.successful
    failedStepCount := steps.countP (fun step => !step.successful)
    toolCallCount := prog.actionCounts "tool"
    retrievalCount := prog.actionCounts "retrieve"
    memoryReadCount := prog.actionCounts "memory_read"
    memoryWriteCount := prog.actionCounts "memory_write"
    retriedToolCount := steps.countP (fun step => step.retryCount > 0)
    recoveredToolCount :=
      steps.countP (fun step => step.retryCount > 0 && step.recovered)
    policyViolationCount := violations
    finalResponsePresent := steps.any AgentStep.isFinalResponse
    memoryProvenanceCount := steps.countP (fun step =>
      step.isMemoryAction && step.memoryProvenanceValid)
    memoryActionCount := steps.countP AgentStep.isMemoryAction
    observationCount := steps.length
    replanCount := replans.length
    successfulReplanCount := replans.countP ReplanEvent.successful
    recoveryStepCount := steps.countP (fun step => step.phase = "recovery")
    successfulRecoveryStepCount := steps.countP (fun step =>
      step.phase = "recovery" && step.successful)
    recoverySequenceMatch := recoverySequenceMatch replans
    unrecoveredFailureCount := steps.countP AgentStep.isUnrecovered
    approvalCheckpointCount :=
      steps.countP (fun step => step.action = "approval_checkpoint")
    approvedCheckpointCount :=
      steps.countP (AgentStep.isCheckpointWith "approved")
    deniedCheckpointCount := steps.countP (AgentStep.isCheckpointWith "denied")
    pendingCheckpointCount :=
      steps.countP (AgentStep.isCheckpointWith "pending")
    approvalProvenanceCount := steps.countP (fun step =>
      step.action = "approval_checkpoint" && step.approvalProvenanceValid)
    haltReason := prog.haltReason
    liveReplanCount :=
      replans.countP (fun event => event.source = "live_callback")
    liveReplanModelCallCount := (liveModelCalls replans).length
    liveReplanPromptTokens :=
      ((liveModelCalls replans).map (callTokens "prompt_tokens")).sum
    liveReplanCompletionTokens :=
      ((liveModelCalls replans).map (callTokens "completion_tokens")).sum
    replans := replans
    steps := steps }

/-- `execute_agent_plan`; `payload` is what `json.loads` makes of the output. -/
def executeAgentPlan (env : AgentEnvironment) (externalCaseId : String) (payload : Option Json)
    (prep : AgentPreparation) (callback : Option AgentLiveReplanCallback) : AgentExecutionTrace :=
  let limits := prep.agentContext
  let expected := expectedActions env.text (expectedSteps prep.contract)
  match parsePlan env.text payload with
  | .error parseError =>
    emptyTrace externalCaseId limits expected [] false (some parseError)
      "invalid_plan" "invalid_plan" 0
  | .ok plan =>
    let actual := actualActions env.text plan.steps
    let rejected := fun status reason =>
      emptyTrace externalCaseId limits expected actual true (some reason) status
        "policy_violation" 0
    if plan.steps.length > limits.stepLimit then
      emptyTrace externalCaseId limits expected actual true
        (some ("agent step count " ++ toString plan.steps.length ++
          " exceeds limit " ++ toString limits.stepLimit))
        "limit_exceeded" "step_limit_exceeded" plan.steps.length
    else if !plan.recoveryPlans.isEmpty && limits.replanLimit = 0 then
      rejected "failed" "recovery plans are not allowed for this task"
    else if plan.recoveryPlans.length > limits.recoveryBranchLimit then
      rejected "limit_exceeded"
        ("recovery branch count " ++ toString plan.recoveryPlans.length ++
          " exceeds limit " ++ toString limits.recoveryBranchLimit)
    else if hasAmbiguousRecoveryPlans plan.recoveryPlans then
      rejected "failed" "recovery plans contain overlapping triggers"
    else if plan.recoveryPlans.any (fun branch =>
        limits.recoveryStepLimit < branch.steps.length) then
      rejected "limit_exceeded"
        ("recovery step count exceeds limit " ++
          toString limits.recoveryStepLimit)
    else
      finishedTrace externalCaseId limits expected actual (runPlan
          { env := env
            externalCaseId := externalCaseId
            preparation := prep
            recoveryPlans := plan.recoveryPlans
            callback := callback }
          plan.steps 0 PlanProgress.initial)

end ModelAtlas.Agent
