import ModelAtlas.Agent.JsonSchema
import ModelAtlas.Agent.Preparation

/-!
# Evaluation of critical agent results

`_agent_trace_errors` of `services/deployment_gate/critical_evaluation.py`, with
the strict reading of a stored trace by `AgentExecutionTraceRead`. The
durations, rates and costs of a trace are left out.
-/

namespace ModelAtlas.Gate

open Foundations Approval Agent

structure FieldSpec where
  name : String
  required : Bool
  accepts : Json → Bool

/-- The value is a `dict` with the fields of a model. -/
def validFields (fields : List FieldSpec) (value : Json) : Bool :=
  value.isObject && fields.all (fun field =>
    match value.get? field.name with
    | none => !field.required
    | some stored => field.accepts stored)

def isStr : Json → Bool
  | .str _ => true
  | _ => false

def isBool : Json → Bool
  | .bool _ => true
  | _ => false

def isInt : Json → Bool
  | .int _ => true
  | _ => false

/-- `T | None`. -/
def orNull (accepts : Json → Bool) : Json → Bool
  | .null => true
  | value => accepts value

/-- `list[T]`. -/
def isListOf (accepts : Json → Bool) : Json → Bool
  | .arr items => items.all accepts
  | _ => false

/-- `Literal[...]`. -/
def isOneOf (texts : List String) : Json → Bool
  | .str text => texts.contains text
  | _ => false

/-- `AgentObservationRead`. -/
def observationFields : List FieldSpec :=
  [⟨"schema_version", true, isStr⟩, ⟨"status", true, isStr⟩,
    ⟨"successful", true, isBool⟩, ⟨"error_type", false, orNull isStr⟩,
    ⟨"policy_violation_count", false, isInt⟩,
    ⟨"output_digest", false, orNull isStr⟩]

/-- `AgentExecutionStepRead`. -/
def stepFields : List FieldSpec :=
  [⟨"step_index", true, isInt⟩, ⟨"action", true, isStr⟩,
    ⟨"expected_action", false, orNull isStr⟩, ⟨"status", true, isStr⟩,
    ⟨"successful", true, isBool⟩, ⟨"input", false, Json.isObject⟩,
    ⟨"output", false, orNull Json.isObject⟩,
    ⟨"error_type", false, orNull isStr⟩,
    ⟨"error_message", false, orNull isStr⟩,
    ⟨"policy_violations", false, isListOf isStr⟩,
    ⟨"recovered", false, isBool⟩, ⟨"retry_count", false, isInt⟩,
    ⟨"memory_provenance_valid", false, isBool⟩,
    ⟨"approval_provenance_valid", false, isBool⟩,
    ⟨"recovered_by_replan", false, isBool⟩,
    ⟨"phase", false, isOneOf ["plan", "recovery"]⟩,
    ⟨"parent_step_index", false, orNull isInt⟩,
    ⟨"observation", false, orNull (validFields observationFields)⟩]

/-- `AgentReplanRead`. -/
def replanFields : List FieldSpec :=
  [⟨"replan_index", true, isInt⟩, ⟨"trigger_step_index", true, isInt⟩,
    ⟨"trigger_error_type", false, orNull isStr⟩,
    ⟨"observation", false, orNull (validFields observationFields)⟩,
    ⟨"strategy", true, isStr⟩,
    ⟨"expected_action_sequence", false, isListOf isStr⟩,
    ⟨"actual_action_sequence", false, isListOf isStr⟩,
    ⟨"sequence_match", true, isBool⟩,
    ⟨"recovery_step_indices", false, isListOf isInt⟩,
    ⟨"status", true, isStr⟩, ⟨"successful", true, isBool⟩,
    ⟨"policy_version", true, isStr⟩,
    ⟨"source", false, isOneOf ["predeclared_plan", "live_callback"]⟩,
    ⟨"model_call", false, orNull Json.isObject⟩]

/-- `AgentExecutionTraceRead`. -/
def traceFields : List FieldSpec :=
  [⟨"schema_version", true, isStr⟩, ⟨"context_version", true, isStr⟩,
    ⟨"runtime_version", false, orNull isStr⟩,
    ⟨"observation_schema_version", false, orNull isStr⟩,
    ⟨"recovery_policy_version", false, orNull isStr⟩,
    ⟨"approval_policy_version", false, orNull isStr⟩,
    ⟨"memory_registry_version", true, isStr⟩,
    ⟨"tool_registry_version", true, isStr⟩, ⟨"corpus_version", true, isStr⟩,
    ⟨"retriever_version", true, isStr⟩, ⟨"external_case_id", true, isStr⟩,
    ⟨"parse_valid", true, isBool⟩, ⟨"parse_error", false, orNull isStr⟩,
    ⟨"plan_valid", true, isBool⟩,
    ⟨"status", true, isOneOf ["success", "partial_failure", "failed",
      "invalid_plan", "limit_exceeded", "pending_approval",
      "approval_denied"]⟩,
    ⟨"successful", true, isBool⟩, ⟨"step_limit", true, isInt⟩,
    ⟨"execution_step_limit", false, orNull isInt⟩,
    ⟨"replan_limit", false, isInt⟩, ⟨"step_count", true, isInt⟩,
    ⟨"expected_action_sequence", false, isListOf isStr⟩,
    ⟨"actual_action_sequence", false, isListOf isStr⟩,
    ⟨"sequence_match", true, isBool⟩,
    ⟨"successful_step_count", true, isInt⟩,
    ⟨"failed_step_count", true, isInt⟩, ⟨"tool_call_count", true, isInt⟩,
    ⟨"retrieval_count", true, isInt⟩, ⟨"memory_read_count", true, isInt⟩,
    ⟨"memory_write_count", true, isInt⟩, ⟨"retried_tool_count", true, isInt⟩,
    ⟨"recovered_tool_count", true, isInt⟩,
    ⟨"policy_violation_count", true, isInt⟩,
    ⟨"final_response_present", true, isBool⟩,
    ⟨"memory_provenance_count", true, isInt⟩,
    ⟨"memory_action_count", true, isInt⟩,
    ⟨"observation_count", false, isInt⟩, ⟨"replan_count", false, isInt⟩,
    ⟨"successful_replan_count", false, isInt⟩,
    ⟨"recovery_step_count", false, isInt⟩,
    ⟨"successful_recovery_step_count", false, isInt⟩,
    ⟨"recovery_sequence_match", false, orNull isBool⟩,
    ⟨"unrecovered_failure_count", false, isInt⟩,
    ⟨"approval_checkpoint_count", false, isInt⟩,
    ⟨"approved_checkpoint_count", false, isInt⟩,
    ⟨"denied_checkpoint_count", false, isInt⟩,
    ⟨"pending_checkpoint_count", false, isInt⟩,
    ⟨"approval_provenance_count", false, isInt⟩,
    ⟨"halt_reason", false, orNull isStr⟩,
    ⟨"live_replan_count", false, isInt⟩,
    ⟨"live_replan_model_call_count", false, isInt⟩,
    ⟨"live_replan_prompt_tokens", false, isInt⟩,
    ⟨"live_replan_completion_tokens", false, isInt⟩,
    ⟨"replans", false, isListOf (validFields replanFields)⟩,
    ⟨"steps", false, isListOf (validFields stepFields)⟩]

def textField (value : Json) (name : String) : String :=
  match value.get? name with
  | some (.str text) => text
  | _ => ""

def boolField (value : Json) (name : String) : Bool :=
  match value.get? name with
  | some (.bool stored) => stored
  | _ => false

/-- A whole number; `0` where the field is left out. -/
def intField (value : Json) (name : String) : Int :=
  match value.get? name with
  | some (.int stored) => stored
  | _ => 0

def textsField (value : Json) (name : String) : List String :=
  (value.items name).filterMap (fun item =>
    match item with
    | .str text => some text
    | _ => none)

def intsField (value : Json) (name : String) : List Int :=
  (value.items name).filterMap (fun item =>
    match item with
    | .int stored => some stored
    | _ => none)

def isNone (value : Json) (name : String) : Bool :=
  match value.get? name with
  | none => true
  | some .null => true
  | _ => false

/-- `step.phase`. -/
def stepPhase (step : Json) : String :=
  match step.get? "phase" with
  | some (.str phase) => phase
  | _ => "plan"

def stepIndex (step : Json) : Int :=
  intField step "step_index"

/-! ## The trace as a whole -/

/-- `required` of `_agent_trace_errors`. -/
def requiredMembers : List String :=
  ["execution_step_limit", "unrecovered_failure_count",
    "pending_checkpoint_count", "denied_checkpoint_count", "halt_reason",
    "steps", "replans", "replan_count", "recovery_step_count",
    "successful_replan_count", "observation_count", "actual_action_sequence",
    "expected_action_sequence", "parse_error"]

def supportedVersions (trace : Json) : Bool :=
  Json.isText (trace.get? "schema_version") "agent-execution-trace-v2" &&
    Json.isText (trace.get? "runtime_version") "bounded-agent-runtime-v2" &&
    Json.isText (trace.get? "context_version") "agent-context-v2"

def claimsSuccess (jsonValid : Option Bool) (trace : Json) : Bool :=
  textField trace "status" = "success" && jsonValid = some true &&
    boolField trace "successful" && boolField trace "parse_valid" &&
    isNone trace "parse_error" && boolField trace "plan_valid" &&
    boolField trace "sequence_match" &&
    boolField trace "final_response_present" && isNone trace "halt_reason" &&
    intField trace "policy_violation_count" = 0 &&
    intField trace "unrecovered_failure_count" = 0 &&
    intField trace "pending_checkpoint_count" = 0 &&
    intField trace "denied_checkpoint_count" = 0

structure ContractReading where
  expected : List Json
  (allowedActions allowedTools : List String)

/-- A list of texts; `default` where it is missing. -/
def textsOr (default : List String) (value : Option Json) : Option (List String) :=
  match value with
  | none => some default
  | some (.arr items) =>
    if items.all isStr then
      some (items.filterMap (fun item =>
        match item with
        | .str text => some text
        | _ => none))
    else none
  | some _ => none

def isExpectedStep (step : Json) : Bool :=
  step.isObject &&
    match step.get? "action" with
    | some (.str action) => allowedAgentActions.contains action
    | _ => false

/-- The contract checks of `_agent_trace_errors`. -/
def readContract (contract : Json) : Option ContractReading :=
  let expected := contract.items "expected_steps"
  if expected.isEmpty || !expected.all isExpectedStep then none
  else
    match textsOr ["respond"] (contract.get? "allowed_actions"),
        textsOr [] (contract.get? "allowed_tools") with
    | some allowedActions, some allowedTools =>
      some ⟨expected, allowedActions, allowedTools⟩
    | _, _ => none

section Checks

variable (trace : Json)

def traceSteps : List Json :=
  trace.items "steps"

def planStepsOf : List Json :=
  (traceSteps trace).filter (fun step => stepPhase step = "plan")

def recoveryStepsOf : List Json :=
  (traceSteps trace).filter (fun step => stepPhase step = "recovery")

def sequenceAgrees (expected : List Json) : Bool :=
  let expectedActions := expected.map (fun step => textField step "action")
  textsField trace "expected_action_sequence" = expectedActions &&
    textsField trace "actual_action_sequence" = expectedActions &&
    (planStepsOf trace).map (fun step => textField step "action") =
      expectedActions

def coverageAgrees : Bool :=
  let steps := traceSteps trace
  !steps.isEmpty && intField trace "step_count" = steps.length &&
    steps.map stepIndex = (List.range steps.length).map (fun index : Nat => (index : Int)) &&
    1 ≤ intField trace "execution_step_limit" &&
    intField trace "step_count" ≤ intField trace "execution_step_limit" &&
    ((planStepsOf trace).length : Int) ≤ intField trace "step_limit"

def actionSteps (action : String) : Nat :=
  (traceSteps trace).countP (fun step => textField step "action" = action)

def observedCounts : List (String × Nat) :=
  let steps := traceSteps trace
  [("successful_step_count",
      steps.countP (fun step => boolField step "successful")),
    ("failed_step_count",
      steps.countP (fun step => !boolField step "successful")),
    ("recovery_step_count", (recoveryStepsOf trace).length),
    ("successful_recovery_step_count", (recoveryStepsOf trace).countP
      (fun step => boolField step "successful")),
    ("observation_count",
      steps.countP (fun step => !isNone step "observation")),
    ("replan_count", (trace.items "replans").length),
    ("successful_replan_count", (trace.items "replans").countP
      (fun event => boolField event "successful")),
    ("tool_call_count", actionSteps trace "tool"),
    ("retrieval_count", actionSteps trace "retrieve"),
    ("memory_read_count", actionSteps trace "memory_read"),
    ("memory_write_count", actionSteps trace "memory_write"),
    ("approval_checkpoint_count", actionSteps trace "approval_checkpoint"),
    ("approved_checkpoint_count",
      steps.countP (fun step => textField step "status" = "approved"))]

def countersAgree : Bool :=
  (observedCounts trace).all (fun count =>
    intField trace count.1 = (count.2 : Int))

def selectedSteps (event : Json) : List Json :=
  (recoveryStepsOf trace).filter (fun step =>
    (intsField event "recovery_step_indices").contains (stepIndex step))

def recoveredIndex (event : Json) : Option Int :=
  let indices := intsField event "recovery_step_indices"
  let selected := selectedSteps trace event
  let actual := textsField event "actual_action_sequence"
  let expected := textsField event "expected_action_sequence"
  let trigger := intField event "trigger_step_index"
  if boolField event "successful" && textField event "status" = "success" &&
      boolField event "sequence_match" && !indices.isEmpty &&
      selected.map stepIndex = indices &&
      selected.all (fun step => boolField step "successful" &&
        pyEqOption (step.get? "parent_step_index") (some (.int trigger))) &&
      selected.map (fun step => textField step "action") = actual &&
      (expected.isEmpty || expected = actual) && 0 ≤ trigger then
    ((planStepsOf trace)[trigger.toNat]?).map stepIndex
  else none

def recoveredIndices : List Int :=
  (trace.items "replans").filterMap (recoveredIndex trace)

def recoveryCovered : Bool :=
  let used := (trace.items "replans").flatMap (fun event =>
    intsField event "recovery_step_indices")
  used.isPerm ((recoveryStepsOf trace).map stepIndex) &&
    intField trace "replan_count" ≤ intField trace "replan_limit" &&
    ((trace.items "replans").isEmpty ||
      boolField trace "recovery_sequence_match")

def toolAgrees (render : Json → String) (reading : ContractReading) (step : Json) : Bool :=
  let expectedStep := ((((planStepsOf trace).map stepIndex).zip
    reading.expected).reverse.lookup (stepIndex step)).getD (.obj [])
  match (step.objectOr "output").get? "tool_execution" with
  | some (.obj members) =>
    let tool := Json.obj members
    let input := step.objectOr "input"
    ["selection_valid", "arguments_valid", "output_valid"].all
        (fun name => boolField tool name) &&
      textField tool "execution_status" = "success" &&
      isNone tool "error_type" &&
      (tool.get? "tool_name").any isStr &&
      reading.allowedTools.contains (textField tool "tool_name") &&
      pyEqOption (tool.get? "tool_name") (input.get? "tool_name") &&
      (!expectedStep.truthyMember "tool_name" ||
        pyEqOption (tool.get? "tool_name")
          (expectedStep.get? "tool_name")) &&
      (match tool.get? "arguments" with
      | some (.obj arguments) =>
        pyEqOption (some (.obj arguments)) (input.get? "arguments") &&
          (match expectedStep.get? "arguments" with
          | some (.obj schema) => (validateJsonSchema render (.obj schema)
              (.obj arguments) "$").isEmpty
          | _ => true)
      | _ => false)
  | _ => false

def observationAgrees (step : Json) : Bool :=
  match step.get? "observation" with
  | some (.obj members) =>
    let observation := Json.obj members
    Json.isText (observation.get? "schema_version") "agent-observation-v1" &&
      boolField observation "successful" &&
      textField observation "status" = textField step "status" &&
      isNone observation "error_type" &&
      intField observation "policy_violation_count" = 0
  | _ => false

def requiredStepMembers : List String :=
  ["policy_violations", "error_type", "phase", "recovered_by_replan",
    "observation"]

def stepAllowed (contract : Json) (reading : ContractReading) (step : Json) :
    Bool :=
  let action := textField step "action"
  allowedAgentActions.contains action && reading.allowedActions.contains action &&
    (textsField step "policy_violations").isEmpty &&
    (action ≠ "memory_write" || boolField contract "allow_memory_write")

def successfulStepErrors (render : Json → String) (reading : ContractReading)
    (step : Json) : List String :=
  let action := textField step "action"
  let status := textField step "status"
  (if !(["success", "approved"].contains status) || !isNone step "error_type"
  then ["agent_step_status_mismatch"] else []) ++
  (if observationAgrees step then [] else ["agent_observation_invalid"]) ++
  (if action = "tool" && !toolAgrees trace render reading step then
    ["agent_tool_step_invalid"] else []) ++
  (if "memory_".toList.isPrefixOf action.toList &&
      !boolField step "memory_provenance_valid" then
    ["agent_memory_provenance_invalid"] else []) ++
  (if action = "approval_checkpoint" && (status ≠ "approved" ||
      !boolField step "approval_provenance_valid") then
    ["agent_approval_invalid"] else [])

def stepErrors (render : Json → String) (contract : Json)
    (reading : ContractReading) (step : Json) : List String :=
  let rawStep :=
    if 0 ≤ stepIndex step then
      ((traceSteps trace)[(stepIndex step).toNat]?).getD (.obj [])
    else .obj []
  let recovered := (recoveredIndices trace).contains (stepIndex step)
  (if requiredStepMembers.all (fun name => (rawStep.get? name).isSome) then []
  else ["agent_step_incomplete"]) ++
  (if stepAllowed contract reading step then []
  else ["agent_step_policy_violation"]) ++
  (if boolField step "recovered_by_replan" = recovered then []
  else ["agent_recovery_claim_mismatch"]) ++
  (if !boolField step "successful" then
    if recovered then [] else ["agent_step_failed"]
  else successfulStepErrors trace render reading step)

def isResponse (step : Json) : Bool :=
  textField step "action" = "respond" && boolField step "successful" &&
    match (step.objectOr "output").get? "content" with
    | some (.str content) => pyStrip content ≠ ""
    | _ => false

def contractErrors (render : Json → String) (contract : Json)
    (reading : ContractReading) : List String :=
  (if sequenceAgrees trace reading.expected then []
  else ["agent_action_sequence_mismatch"]) ++
  (if coverageAgrees trace then [] else ["agent_step_coverage_invalid"]) ++
  (if countersAgree trace then [] else ["agent_counter_mismatch"]) ++
  (if (trace.items "replans").all (fun event =>
    (recoveredIndex trace event).isSome) then []
  else ["agent_recovery_invalid"]) ++
  (if recoveryCovered trace then [] else ["agent_recovery_coverage_invalid"]) ++
  (traceSteps trace).flatMap (stepErrors trace render contract reading) ++
  (if (traceSteps trace).any isResponse then []
  else ["agent_response_missing"])

end Checks

/-- `sorted(set(errors))`. -/
def sortedErrors (errors : List String) : List String :=
  errors.eraseDups.insertionSort (fun left right => left ≤ right)

/-- `_agent_trace_errors`; `metadata` is `result.metadata_json`. -/
def agentTraceErrors (render : Json → String) (jsonValid : Option Bool)
    (metadata : Json) (evalCase : Agent.EvaluationCase) : List String :=
  match metadata.get? "agent_execution" with
  | some (.obj members) =>
    let trace := Json.obj members
    if requiredMembers.any (fun name => (trace.get? name).isNone) then
      ["agent_trace_incomplete"]
    else if !validFields traceFields trace then ["agent_trace_invalid_types"]
    else if !supportedVersions trace then
      ["agent_trace_version_unsupported"]
    else if textField trace "external_case_id" ≠
        evalCase.externalCaseId then ["agent_trace_case_mismatch"]
    else
      let errors :=
        if claimsSuccess jsonValid trace then []
        else ["agent_execution_not_successful"]
      match evalCase.reference.get? "agent" with
      | some (.obj contractMembers) =>
        match readContract (.obj contractMembers) with
        | some reading => sortedErrors (errors ++
            contractErrors trace render (.obj contractMembers) reading)
        | none => errors ++ ["agent_contract_invalid"]
      | _ => errors ++ ["agent_contract_missing"]
  | _ => ["agent_trace_missing"]

end ModelAtlas.Gate
