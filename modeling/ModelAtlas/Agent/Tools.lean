import ModelAtlas.Agent.JsonSchema
import ModelAtlas.Agent.Preparation

/-!
# Registered tools

The part of `services/tool_execution.py` that an agent step uses: the default
registry and `execute_registered_tool_call`, with the attempts of a call.  The
descriptions, the capabilities and the fault fixtures are left out.
-/

namespace ModelAtlas.Agent

open Foundations Approval

def maxToolAttempts : Int := 3

/-- What a handler reads of `ToolExecutionContext`. -/
structure ToolExecutionContext where
  externalCaseId : String
  priorOutputs : List Json

structure RegisteredTool where
  toolId : String
  (argumentSchema outputSchema : Json)
  handler : Json → ToolExecutionContext → Json
  defaultMaxAttempts : Int

def textSchema (maxLength : Int) : Json :=
  .obj [("type", .str "string"), ("minLength", .int 1),
    ("maxLength", .int maxLength)]

/-- The schema of `simulate_failure`. -/
def simulateFailureSchema : Json :=
  .obj [("type", .str "string"),
    ("enum", .arr [.str "transient_once", .str "permanent"])]

def querySchema (extraProperties : List (String × Json)) : Json :=
  .obj [("type", .str "object"), ("required", .arr [.str "query"]),
    ("properties", .obj
      ([("query", textSchema 500),
        ("simulate_failure", simulateFailureSchema)] ++ extraProperties)),
    ("additionalProperties", .bool false)]

def documentSchema : Json :=
  .obj [("type", .str "object"), ("required", .arr [.str "document_id"]),
    ("properties", .obj
      [("document_id", textSchema 160),
        ("simulate_failure", simulateFailureSchema)]),
    ("additionalProperties", .bool false)]

def outputSchema : Json :=
  .obj [("type", .str "object"),
    ("required", .arr [.str "tool", .str "status", .str "data"]),
    ("properties", .obj
      [("tool", .obj [("type", .str "string")]),
        ("status", .obj [("type", .str "string")]),
        ("data", .obj [("type", .str "object")])])]

def toolResult (tool : String) (data : List (String × Json)) : Json :=
  .obj [("tool", .str tool), ("status", .str "ok"), ("data", .obj data)]

/-- `arguments[name]`. -/
def argument (arguments : Json) (name : String) : Json :=
  (arguments.get? name).getD .null

def lookupInternalDocument (arguments : Json) (ctx : ToolExecutionContext) :
    Json :=
  toolResult "lookup_internal_document"
    [("document_id", argument arguments "document_id"),
      ("title", .str "Deterministic local document fixture"),
      ("case_id", .str ctx.externalCaseId)]

def lookupPolicy (arguments : Json) (ctx : ToolExecutionContext) : Json :=
  toolResult "lookup_policy"
    [("query", argument arguments "query"),
      ("policy_id", .str "POL-LOCAL-001"),
      ("release_requires_gate", .bool true),
      ("case_id", .str ctx.externalCaseId)]

def searchIncidents (arguments : Json) (ctx : ToolExecutionContext) : Json :=
  toolResult "search_incidents"
    [("query", argument arguments "query"),
      ("incident_ids", .arr [.str "INC-1042", .str "INC-1088"]),
      ("count", .int 2), ("case_id", .str ctx.externalCaseId)]

def createTicket (env : AgentEnvironment) (arguments : Json) (ctx : ToolExecutionContext) : Json :=
  let digest := pyClip 8 (env.sha256 (ctx.externalCaseId ++ ":" ++
    (argument arguments "query").pyStr env.text.render))
  toolResult "create_ticket"
    [("ticket_id", .str ("SIM-" ++ digest.toUpper)),
      ("priority", (arguments.get? "priority").getD (.str "normal")),
      ("simulated", .bool true)]

def lookupCustomer (arguments : Json) (ctx : ToolExecutionContext) : Json :=
  toolResult "lookup_customer"
    [("query", argument arguments "query"), ("contract_status", .str "active"),
      ("support_tier", .str "standard"),
      ("case_id", .str ctx.externalCaseId)]

def summarizeThread (env : AgentEnvironment) (arguments : Json)
    (ctx : ToolExecutionContext) : Json :=
  toolResult "summarize_thread"
    [("summary", .str (pyClip 160
        ((argument arguments "query").pyStr env.text.render))),
      ("source_step_count", .int ctx.priorOutputs.length),
      ("case_id", .str ctx.externalCaseId)]

def defaultToolRegistry (env : AgentEnvironment) : List RegisteredTool :=
  [⟨"lookup_internal_document", documentSchema, outputSchema,
      lookupInternalDocument, 2⟩,
    ⟨"lookup_policy", querySchema [], outputSchema, lookupPolicy, 2⟩,
    ⟨"search_incidents", querySchema [], outputSchema, searchIncidents, 2⟩,
    ⟨"create_ticket",
      querySchema [("priority", .obj [("type", .str "string"),
        ("enum", .arr [.str "low", .str "normal", .str "high"])])],
      outputSchema, createTicket env, 1⟩,
    ⟨"lookup_customer", querySchema [], outputSchema, lookupCustomer, 2⟩,
    ⟨"summarize_thread", querySchema [], outputSchema,
      summarizeThread env, 1⟩]

/-- `ToolRegistry.get`. -/
def registeredTool? (env : AgentEnvironment) (toolName : String) : Option RegisteredTool :=
  (defaultToolRegistry env).find? (fun tool => tool.toolId = toolName)

structure ToolExecutionError where
  (message errorType : String)
  retryable : Bool

def simulatedFailure (arguments : Json) (attemptNumber : Nat) : Option ToolExecutionError :=
  if Json.isText (arguments.get? "simulate_failure") "transient_once" &&
      attemptNumber = 1 then
    some ⟨"The deterministic fixture produced one transient failure.",
      "transient_tool_error", true⟩
  else if Json.isText (arguments.get? "simulate_failure") "permanent" then
    some ⟨"The deterministic fixture produced a permanent failure.",
      "permanent_tool_error", false⟩
  else none

def attemptTool (env : AgentEnvironment) (tool : RegisteredTool)
    (arguments : Json) (ctx : ToolExecutionContext) (attemptNumber : Nat) :
    Except (ToolExecutionError × List String) Json :=
  match simulatedFailure arguments attemptNumber with
  | some error => .error (error, [])
  | none =>
    let candidate := tool.handler arguments ctx
    let outputErrors := validateJsonSchema env.text.render
      tool.outputSchema candidate "$"
    if outputErrors.isEmpty then .ok candidate
    else
      .error (⟨"Tool output did not match its descriptor.",
        "invalid_tool_output", false⟩, outputErrors)

/-- `ToolExecutionAttempt`. -/
def attemptJson (attemptNumber : Nat) (error : Option ToolExecutionError) :
    Json :=
  .obj
    [("attempt_number", .int attemptNumber),
      ("status", .str (if error.isNone then "success" else "failed")),
      ("retryable", .bool (error.any ToolExecutionError.retryable)),
      ("error_type",
        Json.optionText (error.map ToolExecutionError.errorType)),
      ("message", Json.optionText (error.map ToolExecutionError.message))]

structure ToolAttempts where
  attempts : List Json
  result : Except (ToolExecutionError × List String) Json

def runAttempts (env : AgentEnvironment) (tool : RegisteredTool)
    (arguments : Json) (ctx : ToolExecutionContext) :
    Nat → Nat → List Json → ToolAttempts
  | attemptsLeft, attemptNumber, attempts =>
    match attemptTool env tool arguments ctx attemptNumber with
    | .ok output =>
      ⟨attempts ++ [attemptJson attemptNumber none], .ok output⟩
    | .error failure =>
      let attempted :=
        attempts ++ [attemptJson attemptNumber (some failure.1)]
      match attemptsLeft with
      | 0 => ⟨attempted, .error failure⟩
      | left + 1 =>
        if failure.1.retryable then
          runAttempts env tool arguments ctx left (attemptNumber + 1) attempted
        else ⟨attempted, .error failure⟩

def maxAttempts (expected : Option Json) (default : Int) : Nat :=
  (max 1 (min maxToolAttempts ((pyInt? (expected.bind (fun expected =>
    expected.get? "max_attempts"))).getD default))).toNat

/-- `ToolExecutionStep`, without its durations. -/
structure ToolExecutionStep where
  stepIndex : Nat
  callId : String
  expectedToolName : Option String
  toolName : String
  arguments : Json
  (selectionValid argumentsValid : Bool)
  validationErrors : List String
  executionStatus : String
  retryCount : Nat
  (recovered outputValid : Bool)
  outputValidationErrors : List String
  output : Option Json
  (errorType errorMessage : Option String)
  attempts : List Json

/-- `asdict(step)`. -/
def ToolExecutionStep.toJson (step : ToolExecutionStep) : Json :=
  .obj
    [("step_index", .int step.stepIndex),
      ("call_id", .str step.callId),
      ("expected_tool_name", Json.optionText step.expectedToolName),
      ("tool_name", .str step.toolName),
      ("arguments", step.arguments),
      ("selection_valid", .bool step.selectionValid),
      ("arguments_valid", .bool step.argumentsValid),
      ("validation_errors", .arr (step.validationErrors.map .str)),
      ("execution_status", .str step.executionStatus),
      ("attempt_count", .int step.attempts.length),
      ("retry_count", .int step.retryCount),
      ("recovered", .bool step.recovered),
      ("output_valid", .bool step.outputValid),
      ("output_validation_errors",
        .arr (step.outputValidationErrors.map .str)),
      ("output", step.output.getD .null),
      ("error_type", Json.optionText step.errorType),
      ("error_message", Json.optionText step.errorMessage),
      ("attempts", .arr step.attempts)]

section Call

variable (env : AgentEnvironment) (call : ToolCall)

/-- `expected_name` of `_execute_step`. -/
def expectedToolName : Option String :=
  match call.expected with
  | some expected =>
    if expected.truthyMember "tool_name" then
      some (((expected.get? "tool_name").getD .null).pyStr
        env.text.render)
    else none
  | none => none

/-- `validation_errors` of `_execute_step`. -/
def callErrors : List String :=
  (match registeredTool? env call.toolName with
  | none => ["tool " ++ call.toolName ++ " is not registered"]
  | some tool => validateJsonSchema env.text.render tool.argumentSchema
      call.arguments "$") ++
  (match call.expected.bind (fun expected => expected.get? "arguments") with
  | some (.obj members) => validateJsonSchema env.text.render
      (.obj members) call.arguments "$"
  | _ => [])

def selectionValid : Bool :=
  (registeredTool? env call.toolName).isSome && (expectedToolName env call).all
      (fun expected => call.toolName = expected)

def skippedToolCall : ToolExecutionStep where
  stepIndex := call.stepIndex
  callId := call.callId
  expectedToolName := expectedToolName env call
  toolName := call.toolName
  arguments := call.arguments
  selectionValid := selectionValid env call
  argumentsValid := (callErrors env call).isEmpty
  validationErrors := callErrors env call
  executionStatus := "skipped"
  retryCount := 0
  recovered := false
  outputValid := false
  outputValidationErrors := []
  output := none
  errorType :=
    if selectionValid env call then some "invalid_arguments"
    else some "invalid_tool_selection"
  errorMessage := some
    "Tool execution was skipped because the call contract was invalid."
  attempts := []

def attemptedToolCall (run : ToolAttempts) : ToolExecutionStep :=
  let attempted : ToolExecutionStep :=
    { skippedToolCall env call with
      selectionValid := true
      argumentsValid := true
      validationErrors := []
      retryCount := run.attempts.length - 1
      attempts := run.attempts }
  match run.result with
  | .ok output =>
    { attempted with
      executionStatus := "success"
      recovered := 1 < run.attempts.length
      outputValid := true
      output := some output
      errorType := none
      errorMessage := none }
  | .error (error, outputErrors) =>
    { attempted with
      executionStatus := "failed"
      outputValidationErrors := outputErrors
      errorType := some error.errorType
      errorMessage := some error.message }

def executeStep : ToolExecutionStep :=
  match registeredTool? env call.toolName with
  | none => skippedToolCall env call
  | some tool =>
    if selectionValid env call && (callErrors env call).isEmpty then
      attemptedToolCall env call (runAttempts env tool call.arguments
          ⟨call.externalCaseId, call.priorOutputs⟩
          (maxAttempts call.expected tool.defaultMaxAttempts - 1) 1 [])
    else skippedToolCall env call

def executeRegisteredToolCall : ToolStep :=
  let step := executeStep env call
  { executionStatus := step.executionStatus
    errorType := step.errorType
    errorMessage := step.errorMessage
    recovered := step.recovered
    retryCount := step.retryCount
    payload := step.toJson }

end Call

def AgentEnvironment.withDefaultTools (env : AgentEnvironment) : PreparationEnvironment where
  toAgentEnvironment :=
    { env with executeRegisteredToolCall := Agent.executeRegisteredToolCall env }
  registeredTool toolName :=
    (registeredTool? env toolName).isSome

section Successful

variable {env : AgentEnvironment} {call : ToolCall}

structure SuccessfulToolCall (env : AgentEnvironment)
    (call : ToolCall) (step : ToolExecutionStep) : Prop where
  toolName : step.toolName = call.toolName
  arguments : step.arguments = call.arguments
  selectionValid : step.selectionValid = true
  argumentsValid : step.argumentsValid = true
  outputValid : step.outputValid = true
  errorType : step.errorType = none
  registered : (registeredTool? env call.toolName).isSome = true
  selected : (expectedToolName env call).all
    (fun expected => call.toolName = expected) = true
  noErrors : callErrors env call = []

theorem successfulToolCall_of_status (successful : (executeStep env call).executionStatus =
      "success") :
    SuccessfulToolCall env call (executeStep env call) := by
  revert successful
  simp only [executeStep]
  split
  · intro skipped
    exact absurd skipped (show "skipped" ≠ "success" by decide)
  next tool found =>
  split
  · next valid =>
      rw [Bool.and_eq_true, List.isEmpty_iff] at valid
      have selected := valid.1
      simp only [Agent.selectionValid, Bool.and_eq_true] at selected
      simp only [attemptedToolCall]
      split
      · exact fun _ => ⟨rfl, rfl, rfl, rfl, rfl, rfl, by rw [found]; rfl, selected.2, valid.2⟩
      · intro failed
        exact absurd failed (show "failed" ≠ "success" by decide)
  · intro skipped
    exact absurd skipped (show "skipped" ≠ "success" by decide)

theorem requires_argument {tool : RegisteredTool} (mem : tool ∈ defaultToolRegistry env) :
    ∃ members name, tool.argumentSchema = .obj members ∧
      Json.isText ((Json.obj members).get? "type") "object" = true ∧
      Json.str name ∈ (Json.obj members).items "required" := by
  simp only [defaultToolRegistry, List.mem_cons, List.not_mem_nil, or_false] at mem
  rcases mem with rfl | rfl | rfl | rfl | rfl | rfl
  · exact ⟨_, "document_id", rfl, rfl, List.mem_singleton_self _⟩
  all_goals exact ⟨_, "query", rfl, rfl, List.mem_singleton_self _⟩

theorem SuccessfulToolCall.has_argument {step : ToolExecutionStep}
    (successful : SuccessfulToolCall env call step) :
    ∃ name value, call.arguments.get? name = some value := by
  obtain ⟨tool, found⟩ := Option.isSome_iff_exists.mp successful.registered
  obtain ⟨members, name, schemaEq, object, required⟩ :=
    requires_argument (List.mem_of_find?_eq_some found)
  have noErrors := successful.noErrors
  simp only [callErrors, found, List.append_eq_nil_iff, schemaEq] at noErrors
  obtain ⟨value, present⟩ := required_of_valid env.text.render noErrors.1 object required
  exact ⟨name, value, present⟩

end Successful

end ModelAtlas.Agent
