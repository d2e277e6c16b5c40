import ModelAtlas.Approval.Policy

/-!
# Steps of an agent plan

`services/agent_execution/steps.py` and `checkpoints.py`: one planned step is
checked against the context, dispatched to its action and recorded.  The
retriever and the tool registry are taken from outside; times and durations
are left out.
-/

namespace ModelAtlas.Agent

open Foundations Approval

/-- What the executor reads of `agent_context`. -/
structure AgentContext where
  (stepLimit executionStepLimit replanLimit recoveryStepLimit recoveryBranchLimit : Nat)
  (approvalCheckpointLimit toolCallLimit retrievalLimit memoryReadLimit : Nat)
  memoryWriteLimit : Nat
  (allowedActions allowedMemoryIds allowedTools allowedCheckpointIds : List String)
  (allowMemoryWrite allowLiveReplanning : Bool)

/-- `AgentPreparation`; the decisions are the normalized ones, by checkpoint. -/
structure AgentPreparation where
  contract : Json
  agentContext : AgentContext
  approvalDecisions : List (String × Json)

structure OperationalMemoryRecord where
  (memoryId memoryVersion content contentHash : String)

/-- What the executor reads of a retrieval; `payload` is its `to_dict()`. -/
structure RetrievalTrace where
  status : String
  recalledAll : Bool
  payload : Json

/-- What the executor reads of a tool step; `payload` is its `asdict()`. -/
structure ToolStep where
  executionStatus : String
  (errorType errorMessage : Option String)
  recovered : Bool
  retryCount : Nat
  payload : Json

/-- The arguments of `execute_registered_tool_call`. -/
structure ToolCall where
  externalCaseId : String
  stepIndex : Nat
  toolName : String
  arguments : Json
  expected : Option Json
  priorOutputs : List Json
  callId : String

structure AgentEnvironment where
  text : TextEnvironment
  hashPayload : Json → String
  sha256 : String → String
  (memoryRegistryVersion corpusVersion retrieverVersion : String)
  memory : String → Option OperationalMemoryRecord
  retrieve : String → List String → RetrievalTrace
  executeRegisteredToolCall : ToolCall → ToolStep

/-- A step of a trace, as `_step_result` builds it and
`_decorate_executed_step` completes it. -/
structure AgentStep where
  stepIndex : Nat
  action : String
  expectedAction : Option String
  status : String
  successful : Bool
  input : Json
  output : Option Json
  (errorType errorMessage : Option String)
  policyViolations : List String
  recovered : Bool
  retryCount : Nat
  (memoryProvenanceValid approvalProvenanceValid recoveredByReplan : Bool)
  phase : String
  parentStepIndex : Option Nat

/-- Members whose values are times. -/
def volatileKeys : List String :=
  ["callback_duration_ms", "duration_ms", "live_replan_latency_ms",
    "model_call_latency_ms", "retrieval_latency_ms", "total_duration_ms"]

mutual

/-- `_semantic_projection`; the hash of the projection sorts the members. -/
def semanticProjection : Json → Json
  | .arr items => .arr (semanticItems items)
  | .obj members => .obj (semanticMembers members)
  | value => value

def semanticItems : List Json → List Json
  | [] => []
  | item :: rest => semanticProjection item :: semanticItems rest

def semanticMembers : List (String × Json) → List (String × Json)
  | [] => []
  | (name, value) :: rest =>
    if volatileKeys.contains name then semanticMembers rest
    else (name, semanticProjection value) :: semanticMembers rest

end

/-- `step["observation"]`. -/
def AgentStep.observation (env : AgentEnvironment) (step : AgentStep) :
    Json :=
  .obj
    [("schema_version", .str "agent-observation-v1"),
      ("status", .str step.status),
      ("successful", .bool step.successful),
      ("error_type", Json.optionText step.errorType),
      ("policy_violation_count", .int step.policyViolations.length),
      ("output_digest", Json.optionText (step.output.map (fun output =>
        env.hashPayload (semanticProjection output))))]

def AgentStep.toJson (env : AgentEnvironment) (step : AgentStep) :
    Json :=
  .obj
    [("step_index", .int step.stepIndex),
      ("action", .str step.action),
      ("expected_action", Json.optionText step.expectedAction),
      ("status", .str step.status),
      ("successful", .bool step.successful),
      ("input", step.input),
      ("output", step.output.getD .null),
      ("error_type", Json.optionText step.errorType),
      ("error_message", Json.optionText step.errorMessage),
      ("policy_violations", .arr (step.policyViolations.map .str)),
      ("recovered", .bool step.recovered),
      ("retry_count", .int step.retryCount),
      ("memory_provenance_valid", .bool step.memoryProvenanceValid),
      ("approval_provenance_valid", .bool step.approvalProvenanceValid),
      ("recovered_by_replan", .bool step.recoveredByReplan),
      ("phase", .str step.phase),
      ("parent_step_index",
        (step.parentStepIndex.map (fun index => Json.int index)).getD .null),
      ("observation", step.observation env)]

/-- The arguments of `_execute_agent_step` that differ between steps. -/
structure StepCall where
  stepIndex : Nat
  planned : Json
  expected : Option Json
  actionCount : Nat
  priorOutputs : List Json
  approvedCheckpointIds : List String
  phase : String
  parentStepIndex : Option Nat

section Call

variable (env : AgentEnvironment) (externalCaseId : String)
  (prep : AgentPreparation) (call : StepCall)

/-- `str(planned_step.get(name) or "")`. -/
def StepCall.plannedText (name : String) : String :=
  Json.pyStrOrEmpty env.text.render (call.planned.get? name)

/-- `str(expected.get(name) or "").strip() if expected else ""`. -/
def StepCall.expectedText (name : String) : String :=
  pyStrip (Json.pyStrOrEmpty env.text.render
    (call.expected.bind (fun expected => expected.get? name)))

/-- `str(expected.get("action")) if expected else None`. -/
def StepCall.expectedAction : Option String :=
  call.expected.map (fun expected =>
    ((expected.get? "action").getD .null).pyStr env.text.render)

/-- `_step_result` of a step that fails with an error. -/
def failedStep (action status errorType errorMessage : String)
    (output : Option Json) (policyViolations : List String) : AgentStep where
  stepIndex := call.stepIndex
  action := action
  expectedAction := call.expectedAction env
  status := status
  successful := false
  input := call.planned
  output := output
  errorType := some errorType
  errorMessage := some errorMessage
  policyViolations := policyViolations
  recovered := false
  retryCount := 0
  memoryProvenanceValid := false
  approvalProvenanceValid := false
  recoveredByReplan := false
  phase := call.phase
  parentStepIndex := call.parentStepIndex

/-- `_step_result` of a step that succeeds. -/
def succeededStep (action status : String) (output : Json) : AgentStep :=
  { failedStep env call action status "" "" (some output) [] with
    successful := true
    errorType := none
    errorMessage := none }

/-- `_step_result` of a policy violation. -/
def policyViolationStep (action : String) (violations : List String) :
    AgentStep :=
  failedStep env call action "policy_violation" "agent_policy_violation"
    ("; ".intercalate violations) none violations

/-- What `_execute_approval_checkpoint` finds wrong with a checkpoint id. -/
def checkpointViolations (checkpointId : String) : List String :=
  let allowedIds := prep.agentContext.allowedCheckpointIds
  let expectedId := call.expectedText env "checkpoint_id"
  (if checkpointId = "" then ["approval checkpoint_id is required"] else []) ++
  (if !allowedIds.isEmpty && !allowedIds.contains checkpointId then
    ["checkpoint " ++ checkpointId ++ " is not allowed"]
  else []) ++
  (if expectedId ≠ "" ∧ checkpointId ≠ expectedId then
    ["expected checkpoint " ++ expectedId ++ ", received " ++ checkpointId]
  else [])

/-- `decision.get(name)`, left out when it is `None`. -/
def decisionMember (decision : Json) (name : String) : Option (String × Json) :=
  match decision.get? name with
  | none => none
  | some .null => none
  | some value => some (name, value)

def decisionPayload (checkpointId : String) (decision : Json) : List (String × Json) :=
  [("checkpoint_id", .str checkpointId),
    ("decision", (decision.get? "decision").getD .null),
    ("decided_by", (decision.get? "decided_by").getD .null),
    ("reason", (decision.get? "reason").getD .null),
    ("decision_source", (decision.get? "decision_source").getD
      (.str "benchmark_execution_request")),
    ("policy_version", (decision.get? "policy_version").getD
      (.str "human-checkpoint-policy-v1"))] ++
    ["identity_verified", "approver_identity", "decided_at",
      "checkpoint_record_id"].filterMap (decisionMember decision)

def decisionHash (decision : Json) (payload : List (String × Json)) : String :=
  let supplied := env.text.lower (pyStrip (Json.pyStrOrEmpty
    env.text.render (decision.get? "decision_hash")))
  if isHexDigest supplied then supplied
  else env.hashPayload (.obj payload)

def executeApprovalCheckpoint : AgentStep :=
  let checkpointId := pyStrip (call.plannedText env "checkpoint_id")
  let violations := checkpointViolations env prep call checkpointId
  if !violations.isEmpty then
    policyViolationStep env call "approval_checkpoint" violations
  else
    match (prep.approvalDecisions.lookup checkpointId).or
        (prep.approvalDecisions.lookup "*") with
    | none =>
      failedStep env call "approval_checkpoint" "pending"
        "approval_pending"
        ("Checkpoint " ++ checkpointId ++ " requires a human decision.")
        (some (.obj
          [("checkpoint_id", .str checkpointId),
            ("decision", .str "pending"),
            ("decision_source", .str "external_request_only"),
            ("decision_hash", .null)])) []
    | some decision =>
      let payload := decisionPayload checkpointId decision
      let hash := decisionHash env decision payload
      let output := .obj (payload ++ [("decision_hash", .str hash)])
      let provenance := hash ≠ "" &&
        ((decision.get? "identity_verified").getD (.bool true)).truthy
      if Json.isText (decision.get? "decision") "approved" then
        { succeededStep env call "approval_checkpoint" "approved"
            output with
          approvalProvenanceValid := provenance }
      else
        { failedStep env call "approval_checkpoint" "denied"
            "approval_denied"
            ("Checkpoint " ++ checkpointId ++
              " was denied by the human approver.") (some output) [] with
          approvalProvenanceValid := provenance }

/-- `text or "<missing>"`. -/
def orMissing (text : String) : String :=
  pyOr text "<missing>"

def executeMemoryRead : AgentStep :=
  let memoryId := call.plannedText env "memory_id"
  match env.memory memoryId, prep.agentContext.allowedMemoryIds.contains memoryId with
  | some record, true =>
    { succeededStep env call "memory_read" "success" (.obj
        [("memory_id", .str record.memoryId),
          ("memory_version", .str record.memoryVersion),
          ("content", .str record.content),
          ("content_hash", .str record.contentHash),
          ("registry_version",
            .str env.memoryRegistryVersion)]) with
      memoryProvenanceValid := true }
  | _, _ =>
    failedStep env call "memory_read" "failed" "memory_access_denied"
      ("Memory " ++ orMissing memoryId ++ " is unavailable or not allowed.")
      none []

def executeMemoryWrite : AgentStep :=
  let name := pyStrip (call.plannedText env "key")
  let value := pyStrip (call.plannedText env "value")
  if prep.agentContext.allowMemoryWrite && name ≠ "" && value ≠ "" then
    { succeededStep env call "memory_write" "success" (.obj
        [("memory_id", .str ("task-memory-" ++ pyClip 12 (env.sha256
            (externalCaseId ++ ":" ++ name ++ ":" ++ value)))),
          ("key", .str name),
          ("value", .str value),
          ("scope", .str "task_local_simulated"),
          ("registry_version", .str env.memoryRegistryVersion),
          ("persisted", .bool false)]) with
      memoryProvenanceValid := true }
  else
    failedStep env call "memory_write" "failed" "memory_write_denied"
      "Memory write is disabled or the task-local key/value is empty." none []

def executeRetrieval : AgentStep :=
  let query := pyStrip (call.plannedText env "query")
  let relevantChunkIds := Json.stringList env.text.render
    (call.expected.bind (fun expected => expected.get? "relevant_chunk_ids"))
  let trace := env.retrieve query relevantChunkIds
  let output := Json.obj [("retrieval", trace.payload)]
  if query ≠ "" && trace.status = "success" &&
      (relevantChunkIds.isEmpty || trace.recalledAll) then
    succeededStep env call "retrieve" "success" output
  else
    failedStep env call "retrieve" "failed" "agent_retrieval_failed"
      "Retrieval was empty or missed a required relevant chunk." (some output)
      []

def executeToolAction : AgentStep :=
  let toolName := call.plannedText env "tool_name"
  if !prep.agentContext.allowedTools.contains toolName then
    failedStep env call "tool" "failed" "tool_access_denied"
      ("Tool " ++ orMissing toolName ++ " is not allowed for this task.") none
      ["tool allowlist violation"]
  else
    let toolStep := env.executeRegisteredToolCall
      { externalCaseId := externalCaseId
        stepIndex := call.stepIndex
        toolName := toolName
        arguments := call.planned.objectOr "arguments"
        expected := call.expected
        priorOutputs := call.priorOutputs
        callId := pyOr (call.plannedText env "call_id")
          ("agent-call-" ++ toString (call.stepIndex + 1)) }
    { failedStep env call "tool" toolStep.executionStatus "" ""
        (some (.obj [("tool_execution", toolStep.payload)])) [] with
      successful := toolStep.executionStatus = "success"
      errorType := toolStep.errorType
      errorMessage := toolStep.errorMessage
      recovered := toolStep.recovered
      retryCount := toolStep.retryCount }

def executeResponse : AgentStep :=
  let content := pyStrip (call.plannedText env "content")
  let requiredTerms := Json.stringList env.text.render
    (call.expected.bind (fun expected => expected.get? "required_terms"))
  let missingTerms := requiredTerms.filter (fun term =>
    !pyContains (env.text.lower content) (env.text.lower term))
  let output := Json.obj
    [("content", .str content),
      ("citations", .arr ((Json.stringList env.text.render
        (call.planned.get? "citations")).map .str))]
  if content ≠ "" && missingTerms.isEmpty then
    succeededStep env call "respond" "success" output
  else
    failedStep env call "respond" "failed" "invalid_final_response"
      (if content = "" then "Final response is empty."
      else "Final response is missing required terms: " ++
        env.text.render (.arr (missingTerms.map .str)) ++ ".")
      (some output) []

def actionLimit (ctx : AgentContext) (action : String) : Option Nat :=
  [("approval_checkpoint", ctx.approvalCheckpointLimit),
    ("tool", ctx.toolCallLimit),
    ("retrieve", ctx.retrievalLimit),
    ("memory_read", ctx.memoryReadLimit),
    ("memory_write", ctx.memoryWriteLimit)].lookup action

/-- What `_execute_agent_step` finds wrong with a planned step. -/
def stepViolations : List String :=
  let action := call.plannedText env "action"
  let plannedCheckpoint :=
    pyStrip (call.plannedText env "requires_approval")
  let expectedCheckpoint := call.expectedText env "requires_approval"
  let requiredCheckpoint := pyOr expectedCheckpoint plannedCheckpoint
  (if !prep.agentContext.allowedActions.contains action then
    ["action " ++ orMissing action ++ " is not allowed"]
  else []) ++
  (match call.expectedAction env with
  | none => []
  | some expectedAction =>
    if action ≠ expectedAction then
      ["expected action " ++ expectedAction ++ ", received " ++ action]
    else []) ++
  (match actionLimit prep.agentContext action with
  | none => []
  | some limit =>
    if call.actionCount > limit then
      ["action " ++ action ++ " exceeds limit " ++ toString limit]
    else []) ++
  (if expectedCheckpoint ≠ "" ∧ plannedCheckpoint ≠ expectedCheckpoint then
    ["action " ++ action ++ " must declare checkpoint " ++ expectedCheckpoint]
  else []) ++
  (if requiredCheckpoint ≠ "" ∧
      !call.approvedCheckpointIds.contains requiredCheckpoint then
    ["checkpoint " ++ requiredCheckpoint ++
      " must be approved before action " ++ action]
  else [])

def executeAgentStep : AgentStep :=
  let action := call.plannedText env "action"
  let violations := stepViolations env prep call
  if !violations.isEmpty then
    policyViolationStep env call action violations
  else if action = "approval_checkpoint" then
    executeApprovalCheckpoint env prep call
  else if action = "memory_read" then
    executeMemoryRead env prep call
  else if action = "memory_write" then
    executeMemoryWrite env externalCaseId prep call
  else if action = "retrieve" then
    executeRetrieval env call
  else if action = "tool" then
    executeToolAction env externalCaseId prep call
  else if action = "respond" then
    executeResponse env call
  else
    failedStep env call action "failed" "unsupported_agent_action"
      ("Action " ++ orMissing action ++ " is not supported.") none []

end Call

def AgentStep.isPendingCheckpoint (step : AgentStep) : Bool :=
  step.action = "approval_checkpoint" && step.status = "pending"

section Waiting

variable {env : AgentEnvironment} {externalCaseId : String}
  {prep : AgentPreparation} {call : StepCall}

theorem AgentStep.not_pending_of_action
    {step : AgentStep} (other : step.action ≠ "approval_checkpoint") :
    step.isPendingCheckpoint = false := by
  simp [AgentStep.isPendingCheckpoint, other]

theorem executeApprovalCheckpoint_pending (pending : (executeApprovalCheckpoint env prep
      call).isPendingCheckpoint = true) :
    (executeApprovalCheckpoint env prep call).successful =
      false := by
  revert pending
  simp only [executeApprovalCheckpoint]
  split
  · exact fun _ => rfl
  split
  · exact fun _ => rfl
  split
  · intro pending
    simp [AgentStep.isPendingCheckpoint, succeededStep, failedStep] at pending
  · exact fun _ => rfl

theorem executeMemoryRead_action : (executeMemoryRead env prep call).action =
      "memory_read" := by
  rw [executeMemoryRead]
  split <;> rfl

theorem executeMemoryWrite_action : (executeMemoryWrite env externalCaseId prep call).action =
      "memory_write" := by
  simp only [executeMemoryWrite]
  split <;> rfl

theorem executeRetrieval_action :
    (executeRetrieval env call).action = "retrieve" := by
  simp only [executeRetrieval]
  split <;> rfl

theorem executeToolAction_action : (executeToolAction env externalCaseId prep call).action =
      "tool" := by
  simp only [executeToolAction]
  split <;> rfl

theorem executeResponse_action :
    (executeResponse env call).action = "respond" := by
  simp only [executeResponse]
  split <;> rfl

theorem executeAgentStep_pending (pending : (executeAgentStep env externalCaseId prep
      call).isPendingCheckpoint = true) :
    (executeAgentStep env externalCaseId prep call).successful = false := by
  have waits : ∀ step : AgentStep, step.action ≠ "approval_checkpoint" →
      step.isPendingCheckpoint = true → step.successful = false := by
    intro step other isPending
    rw [AgentStep.not_pending_of_action other] at isPending
    cases isPending
  revert pending
  simp only [executeAgentStep]
  split
  · exact fun _ => rfl
  split
  · exact executeApprovalCheckpoint_pending
  split
  · exact waits _ (by rw [executeMemoryRead_action]; decide)
  split
  · exact waits _ (by rw [executeMemoryWrite_action]; decide)
  split
  · exact waits _ (by rw [executeRetrieval_action]; decide)
  split
  · exact waits _ (by rw [executeToolAction_action]; decide)
  split
  · exact waits _ (by rw [executeResponse_action]; decide)
  · exact fun _ => rfl

end Waiting

end ModelAtlas.Agent
