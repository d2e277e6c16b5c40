import ModelAtlas.Agent.Corpora
import ModelAtlas.Agent.Runs
import ModelAtlas.Isolation.Preflight

/-!
# The tools of an execution

The tools that the cases of a benchmark expect (`workload_isolation.py`), and
those whose handlers an execution attempts: of `execute_tool_calls`
(`services/tool_execution.py`), without the outputs of its calls, and of the
steps of an agent plan.
-/

namespace ModelAtlas.Isolation

open Foundations Agent

variable {agent : AgentEnvironment} {toolName : String} {prep : AgentPreparation}
  {call : StepCall}

structure IsolationCase extends AgentCase where
  expectedToolSchema : Option Json

section Cases

variable (env : CorpusEnvironment) (evalCase : IsolationCase)

def isToolCase : Bool :=
  evalCase.expectedToolSchema.isSome ||
    pyContains (env.agent.text.lower evalCase.category) "tool"

def isRagCase : Bool :=
  ((evalCase.reference.get? "rag").any Json.isObject) ||
    pyContains (env.agent.text.lower evalCase.category) "rag"

def isAgentCase : Bool :=
  evalCase.toEvaluationCase.isAgentCase env.agent.text

end Cases

mutual

/-- `_collect_tool_names`, of the value of a key. -/
def namesAt (key : String) : Json → List String
  | .str text =>
    if key = "tool_name" ∨ key = "expected_tool" then [text] else []
  | .arr items => namesOfItems items
  | .obj members => namesOfMembers members
  | _ => []

def namesOfItems : List Json → List String
  | [] => []
  | item :: rest => namesAt "" item ++ namesOfItems rest

def namesOfMembers : List (String × Json) → List String
  | [] => []
  | (key, item) :: rest => namesAt key item ++ namesOfMembers rest

end

section Calls

variable (env : CorpusEnvironment)

/-- `_expected_steps`. -/
def expectedToolSteps (schema : Option Json) : List Json :=
  let render := env.agent.text.render
  match schema with
  | none => []
  | some schema =>
    match schema.get? "expected_sequence" with
    | some (.arr sequence) => sequence.filterMap (fun item =>
      match item with
      | .str name => some (.obj [("tool_name", .str name)])
      | item => if item.truthyMember "tool_name" then some item else none)
    | _ =>
      if schema.truthyMember "tool_name" then
        let required := (schema.items "required_arguments").map
          (Json.pyStr render)
        let arguments : Json :=
          match schema.get? "arguments", schema.get? "required_arguments" with
          | some (.obj members), _ => .obj members
          | _, some (.arr _) => .obj
              [("type", .str "object"),
                ("required", .arr (required.map .str)),
                ("properties", .obj (required.map (fun name =>
                  (name, .obj [("type", .str "string")]))))]
          | other, _ => other.getD .null
        [Json.obj
          [("tool_name",
              .str (Json.pyStrOrEmpty render (schema.get? "tool_name"))),
            ("arguments", arguments)]]
      else []

/-- `_normalize_call`: the name and the arguments of a call. -/
def normalizeCall (rawCall : Json) : Option (String × Json) :=
  let render := env.agent.text.render
  let source :=
    match rawCall.get? "function" with
    | some (.obj members) => Json.obj members
    | _ => rawCall
  let toolName := pyOr (Json.pyStrOrEmpty render (source.get? "tool_name"))
    (Json.pyStrOrEmpty render (source.get? "name"))
  let arguments : Option Json :=
    match source.get? "arguments" with
    | none => some (.obj [])
    | some (.str text) => env.loads text
    | other => other
  if rawCall.isObject && toolName ≠ "" then
    (arguments.filter Json.isObject).map (fun arguments =>
      (toolName, arguments))
  else none

/-- `_parse_tool_calls`; nothing where the output is refused. -/
def parseToolCalls (output : String) : Option (List (String × Json)) :=
  match env.loads output with
  | none => none
  | some parsed =>
    match parsed.get? "tool_calls", parsed.get? "tool_call" with
    | some (.arr calls), _ => calls.mapM (normalizeCall env)
    | _, some .null | _, none =>
      if parsed.truthyMember "tool_name" || parsed.truthyMember "name" then
        (normalizeCall env parsed).map (fun call => [call])
      else none
    | _, some call =>
      (normalizeCall env call).map (fun call => [call])

def maxToolCallsPerCase : Nat := 8

/-- The argument schema of a tool in `build_fault_tool_registry`. -/
def faultArgumentSchema (schema : Json) : Json :=
  let members := match schema with
    | .obj members => members
    | _ => []
  let properties := match schema.objectOr "properties" with
    | .obj properties => properties
    | _ => []
  .obj (Json.setMember
    (Json.setMember members "properties" (.obj (properties.filter
      (fun property => property.1 ≠ "simulate_failure"))))
    "required" (.arr ((schema.items "required").filter (fun name =>
      !Json.isText (some name) "simulate_failure"))))

/-- `validation_errors` of `_execute_step`, of a call that is not blocked;
`isFault` is whether the run has a fault scenario. -/
def toolCallErrors (isFault : Bool) (call : ToolCall) : List String :=
  let render := env.agent.text.render
  (match registeredTool? env.agent call.toolName with
  | none => ["tool " ++ call.toolName ++ " is not registered"]
  | some tool => validateJsonSchema render (if isFault then faultArgumentSchema tool.argumentSchema
        else tool.argumentSchema) call.arguments "$") ++
  (match call.expected.bind (fun expected => expected.get? "arguments") with
  | some (.obj members) =>
    validateJsonSchema render (.obj members) call.arguments "$"
  | _ => []) ++
  (if isFault && (call.arguments.get? "simulate_failure").isSome then
    ["model-authored failure simulation is forbidden in fault fixtures"]
  else [])

def attemptedCall? (isFault isBlocked : Bool) (call : ToolCall) : Option String :=
  if selectionValid env.agent call && !isBlocked &&
      (toolCallErrors env isFault call).isEmpty then some call.toolName
  else none

/-- The tools that `attach_tool_execution` attempts. -/
def attemptedByCase (isFault isBlocked : Bool) (evalCase : IsolationCase)
    (output : String) : List String :=
  if isAgentCase env evalCase || !isToolCase env evalCase then []
  else
    match parseToolCalls env output with
    | none => []
    | some calls =>
      if maxToolCallsPerCase < calls.length || (isFault && calls.length ≠ 1) then []
      else
        let expected := expectedToolSteps env evalCase.expectedToolSchema
        calls.zipIdx.filterMap (fun entry =>
          attemptedCall? env isFault isBlocked
            { externalCaseId := evalCase.externalCaseId
              stepIndex := entry.2
              toolName := entry.1.1
              arguments := entry.1.2
              expected := expected[entry.2]?
              priorOutputs := []
              callId := "call-" ++ toString (entry.2 + 1) })

end Calls

def attemptedPayload? (payload : Json) : Option String :=
  if (payload.items "attempts").isEmpty then none
  else
    match payload.get? "tool_name" with
    | some (.str toolName) => some toolName
    | _ => none

def attemptedStep? (step : AgentStep) : Option String :=
  if step.action = "tool" then
    (step.output.bind (fun output => output.get? "tool_execution")).bind
      attemptedPayload?
  else none

/-- The tools that `attach_agent_execution` attempts. -/
def attemptedByAgent (env : CorpusEnvironment) (evalCase : AgentCase) (prepared : PreparedExecution)
    (output : String) (provider : Option LiveReplanProvider) : List String :=
  let executing := env.executing prepared
  (executeAgentPlan executing evalCase.externalCaseId (env.loads
      (compileBoundedAgentPlan env evalCase prepared output))
    prepared.preparation
    (provider.map (LiveReplanProvider.callback executing))).steps.filterMap attemptedStep?

section Attempts

variable {env : CorpusEnvironment}

theorem localTool_of_registered (registered : (registeredTool? agent toolName).isSome = true) :
    toolName ∈ localTools := by
  obtain ⟨tool, found⟩ := Option.isSome_iff_exists.mp registered
  have named : tool.toolId = toolName := by
    simpa using List.find?_some found
  have mem := List.mem_of_find?_eq_some found
  have known : tool.toolId ∈ (defaultToolRegistry agent).map (·.toolId) :=
    List.mem_map_of_mem mem
  rw [← named]
  have subset : ∀ name ∈ ["lookup_internal_document", "lookup_policy",
      "search_incidents", "create_ticket", "lookup_customer",
      "summarize_thread"], name ∈ localTools := by
    decide
  exact subset _ known

theorem localTool_of_attemptedCall {isFault isBlocked : Bool} {call : ToolCall}
    (attempted : attemptedCall? env isFault isBlocked call =
      some toolName) : toolName ∈ localTools := by
  rw [attemptedCall?] at attempted
  split at attempted
  · next valid =>
      cases attempted
      rw [Bool.and_eq_true, Bool.and_eq_true, selectionValid, Bool.and_eq_true] at valid
      exact localTool_of_registered valid.1.1.1
  · cases attempted

theorem localTool_of_attemptedByCase {isFault isBlocked : Bool}
    {evalCase : IsolationCase} {output : String}
    (attempted : toolName ∈ attemptedByCase env isFault isBlocked evalCase output) :
    isToolCase env evalCase = true ∧ toolName ∈ localTools := by
  rw [attemptedByCase] at attempted
  split at attempted
  · cases attempted
  next executed =>
  have isTool : isToolCase env evalCase = true := by
    simp only [Bool.or_eq_true, not_or, Bool.not_eq_true', Bool.not_eq_false] at executed
    exact executed.2
  refine ⟨isTool, ?_⟩
  split at attempted
  · cases attempted
  split at attempted
  · cases attempted
  obtain ⟨entry, _, isAttempted⟩ := List.mem_filterMap.mp attempted
  exact localTool_of_attemptedCall isAttempted

theorem registered_of_attempts {call : ToolCall}
    (attempted : (executeStep agent call).attempts ≠ []) :
    (registeredTool? agent call.toolName).isSome = true := by
  rw [executeStep] at attempted
  split at attempted
  · exact absurd rfl attempted
  · next found =>
      rw [found]
      rfl

theorem executeStep_toolName (agent : AgentEnvironment) (call : ToolCall) :
    (executeStep agent call).toolName = call.toolName := by
  rw [executeStep]
  split
  · rfl
  · split
    · rw [attemptedToolCall]
      split <;> rfl
    · rfl

theorem attemptedPayload_toJson (step : ToolExecutionStep) : attemptedPayload? step.toJson =
      if step.attempts.isEmpty then none else some step.toolName := by
  simp [attemptedPayload?, ToolExecutionStep.toJson, Json.items, Json.get?]

theorem attemptedStep_of_action {step : AgentStep}
    (other : step.action ≠ "tool") : attemptedStep? step = none :=
  if_neg other

theorem attemptedStep_of_output {step : AgentStep} (none_ : step.output = none) :
    attemptedStep? step = none := by
  rw [attemptedStep?, none_]
  split <;> rfl

theorem attemptedStep_toolAction {caseId : String}
    (executes : agent.executeRegisteredToolCall = executeRegisteredToolCall env.agent)
    (attempted : attemptedStep? (executeToolAction agent caseId prep call) = some toolName) :
    toolName ∈ prep.agentContext.allowedTools ∧ toolName ∈ localTools := by
  rw [executeToolAction] at attempted
  dsimp only at attempted
  split at attempted
  · rw [attemptedStep_of_output rfl] at attempted
    cases attempted
  next isAllowed =>
  rw [executes] at attempted
  have recorded : attemptedPayload? (executeStep env.agent _).toJson = some toolName := attempted
  rw [attemptedPayload_toJson] at recorded
  split at recorded
  · cases recorded
  next hasAttempts =>
  have same := Option.some.inj recorded
  rw [executeStep_toolName] at same
  have registered := registered_of_attempts (fun none_ => hasAttempts (List.isEmpty_iff.mpr none_))
  rw [← same]
  exact ⟨by simpa using isAllowed, localTool_of_registered registered⟩

theorem allowedAction_of_noViolation {action : String}
    (unviolated : stepViolations agent prep call = [])
    (planned : call.plannedText agent "action" = action) :
    action ∈ prep.agentContext.allowedActions := by
  simp only [stepViolations, List.append_eq_nil_iff] at unviolated
  have allowed := unviolated.1.1.1.1
  by_contra outside
  rw [planned, if_pos (by simpa using outside)] at allowed
  cases allowed

theorem attemptedStep_executeAgentStep {caseId : String}
    (executes : agent.executeRegisteredToolCall = executeRegisteredToolCall env.agent)
    (attempted : attemptedStep? (executeAgentStep agent caseId prep call) = some toolName) :
    "tool" ∈ prep.agentContext.allowedActions ∧
      toolName ∈ prep.agentContext.allowedTools := by
  have otherwise : ∀ {action : String} {step : AgentStep},
      AnswersCall agent call action step → action ≠ "tool" →
        attemptedStep? step = some toolName →
          "tool" ∈ prep.agentContext.allowedActions ∧
            toolName ∈ prep.agentContext.allowedTools := by
    intro action step answers other isAttempted
    rw [attemptedStep_of_action (by rw [answers.action]; exact other)] at isAttempted
    cases isAttempted
  revert attempted
  apply executeAgentStep_cases
    (motive := fun step => attemptedStep? step = some toolName →
      "tool" ∈ prep.agentContext.allowedActions ∧
        toolName ∈ prep.agentContext.allowedTools)
  case refused =>
    intro _ isAttempted
    rw [attemptedStep_of_output rfl] at isAttempted
    cases isAttempted
  case unsupported =>
    intro _ isAttempted
    rw [attemptedStep_of_output rfl] at isAttempted
    cases isAttempted
  case approvalCheckpoint =>
    exact fun _ _ => otherwise answersCall_executeApprovalCheckpoint (by decide)
  case memoryRead =>
    exact fun _ _ => otherwise answersCall_executeMemoryRead (by decide)
  case memoryWrite =>
    exact fun _ _ => otherwise answersCall_executeMemoryWrite (by decide)
  case retrieve =>
    exact fun _ _ => otherwise answersCall_executeRetrieval (by decide)
  case respond =>
    exact fun _ _ => otherwise answersCall_executeResponse (by decide)
  case tool =>
    intro unviolated planned isAttempted
    exact ⟨allowedAction_of_noViolation unviolated planned,
      (attemptedStep_toolAction executes isAttempted).1⟩

theorem allowed_of_attemptedByAgent {evalCase : AgentCase} {prepared : PreparedExecution}
    {output : String} {provider : Option LiveReplanProvider}
    (attempted : toolName ∈ attemptedByAgent env evalCase prepared output provider) :
    "tool" ∈ prepared.preparation.agentContext.allowedActions ∧
      toolName ∈ prepared.preparation.agentContext.allowedTools := by
  obtain ⟨step, mem, isAttempted⟩ := List.mem_filterMap.mp attempted
  obtain ⟨before, _, recorded⟩ := executeAgentPlan_recorded.of_mem mem
  have unmarked : attemptedStep? step.unmarked = some toolName := isAttempted
  rw [recorded.executed] at unmarked
  exact attemptedStep_executeAgentStep rfl unmarked

end Attempts

end ModelAtlas.Isolation
