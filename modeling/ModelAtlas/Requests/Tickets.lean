import ModelAtlas.Agent.Tools

/-!
# Structured tickets

`services/structured_ticket_contract.py` and what it uses of
`tool_call_contract.py` and `tool_execution.py`. A canonical JSON text is
modelled by the value that it stands for.
-/

namespace ModelAtlas.Requests

open Foundations Approval
open Agent (RegisteredTool ToolExecutionContext validateJsonSchema pyEqOption)

/-- What the requests take from outside: strict `json.loads`, and the digests of a proposal, a
contract and an owner. -/
structure RequestEnvironment (Content : Type) where
  text : TextEnvironment
  readJson : String → Option Json
  sha256 : String → String
  contractDigest : Content → String
  ownerKey : SignerIdentity → String

inductive PriorityValue where
  | low
  | normal
  | high
  deriving DecidableEq, Repr

def PriorityValue.text : PriorityValue → String
  | low => "low"
  | normal => "normal"
  | high => "high"

inductive PriorityChoice where
  | set (value : PriorityValue)
  | omit
  | unresolved
  deriving DecidableEq, Repr

structure StructuredTicketInput where
  (originalRequest query : String)
  priority : PriorityChoice
  deriving DecidableEq, Repr

structure SatisfiesDraft (draft : StructuredTicketInput) (arguments : Json) :
    Prop where
  resolved : draft.priority ≠ .unresolved
  query : arguments.get? "query" = some (.str draft.query)
  assigned : ∀ value, draft.priority = .set value →
    arguments.get? "priority" = some (.str value.text)
  omitted : draft.priority = .omit → arguments.get? "priority" = none

/-- The argument schema of `create_ticket` in the registry of fault
fixtures. -/
def ticketSchema : Json :=
  .obj [("type", .str "object"), ("required", .arr [.str "query"]),
    ("properties", .obj
      [("query", Agent.textSchema 500),
        ("priority", .obj [("type", .str "string"),
          ("enum", .arr [.str "low", .str "normal", .str "high"])])]),
    ("additionalProperties", .bool false)]

section Calls

variable {Content : Type} (env : RequestEnvironment Content)

/-- `_single_tool_call` of a value that is read. -/
def singleToolCall (parsed : Json) : Except String (String × Json) :=
  let has := fun (value : Json) (name : String) => (value.get? name).isSome
  let shapes := ["tool_calls", "tool_call", "tool_name", "name",
    "function"].filter (has parsed)
  let envelope : Except String Json :=
    if !parsed.isObject then .error "tool call must be an object"
    else
      match shapes with
      | ["tool_calls"] =>
        match parsed.get? "tool_calls" with
        | some (.arr [call]) => .ok call
        | _ => .error "exactly one tool call is required"
      | ["tool_call"] => .ok ((parsed.get? "tool_call").getD .null)
      | [_] => .ok parsed
      | _ => .error "tool call envelope is missing or ambiguous"
  match envelope with
  | .error reason => .error reason
  | .ok call =>
    if !call.isObject then .error "tool call must be an object"
    else if has call "function" && (has call "tool_name" || has call "name")
      then .error "tool call has conflicting names"
    else
      let source := if has call "function" then
          (call.get? "function").getD .null
        else call
      if !source.isObject || has source "tool_name" = has source "name" then
        .error "tool call must have exactly one name"
      else
        match (source.get? "tool_name").or (source.get? "name") with
        | some (.str name) =>
          if name = "" ∨ name ≠ pyStrip name then
            .error "tool name must be a nonblank identifier"
          else
            let arguments :=
              match source.get? "arguments" with
              | some (.str text) => env.readJson text
              | value => value
            match arguments with
            | some (.obj members) => .ok (name, .obj members)
            | _ => .error "arguments must be an explicit object"
        | _ => .error "tool name must be a nonblank identifier"

/-- `ToolCallCompilation`, with what the comparison reads of it. -/
structure ToolCallCompilation where
  normalizedOutput : Option (String × Json)
  (schemaErrors boundaryErrors : List String)

def ToolCallCompilation.executionAllowed (compiled : ToolCallCompilation) : Bool :=
  compiled.schemaErrors.isEmpty && compiled.boundaryErrors.isEmpty

/-- `compile_bounded_tool_call` with the descriptor of `create_ticket`, whose
schema `_check_supported_schema` accepts. -/
def compileBoundedToolCall (output : String) : ToolCallCompilation :=
  match env.readJson output with
  | none => ⟨none, ["invalid JSON"], []⟩
  | some parsed =>
    match singleToolCall env parsed with
    | .error reason => ⟨none, [reason], []⟩
    | .ok (name, arguments) =>
      { normalizedOutput := some (name, arguments)
        schemaErrors :=
          if name = "create_ticket" then
            validateJsonSchema env.text.render ticketSchema
              arguments "$"
          else ["selected tool has no public object argument schema"]
        boundaryErrors :=
          (if (arguments.get? "simulate_failure").isSome then
            ["failure_simulation_not_authorized"] else []) ++
          (if (arguments.get? "document_id").isSome then
            ["document_id_catalog_unavailable"] else []) }

/-- The reasons of `compare_structured_ticket`. -/
def ticketReasons (draft : StructuredTicketInput) (proposal : String) : List String :=
  let compiled := compileBoundedToolCall env proposal
  (if draft.priority = .unresolved then ["priority_unresolved"] else []) ++
  match compiled.executionAllowed, compiled.normalizedOutput with
  | true, some (_, arguments) =>
    (if !pyEqOption (arguments.get? "query") (some (.str draft.query)) then
      ["query_mismatch"] else []) ++
    (match draft.priority with
    | .set value =>
      if !pyEqOption (arguments.get? "priority")
          (some (.str value.text)) then
        ["priority_mismatch"]
      else []
    | .omit =>
      if (arguments.get? "priority").isSome then
        ["priority_must_be_absent"]
      else []
    | .unresolved => [])
  | _, _ => ["public_guard_rejected"]

def createTicket (arguments : Json) (externalCaseId : String) : Json :=
  let digest := pyClip 8 (env.sha256 (externalCaseId ++ ":" ++
    (Agent.argument arguments "query").pyStr env.text.render))
  Agent.toolResult "create_ticket"
    [("ticket_id", .str ("SIM-" ++ digest.toUpper)),
      ("priority", (arguments.get? "priority").getD (.str "normal")),
      ("simulated", .bool true)]

structure TicketStep where
  toolName : String
  arguments : Json
  validationErrors : List String
  executionStatus : String
  output : Option Json

/-- `validation_errors` of `_execute_step`, in a normal fault scenario. -/
def ticketErrors (toolName : String) (arguments : Json) : List String :=
  (if toolName = "create_ticket" then
      validateJsonSchema env.text.render ticketSchema arguments "$"
    else ["tool " ++ toolName ++ " is not registered"]) ++
  (if (arguments.get? "simulate_failure").isSome then
    ["model-authored failure simulation is forbidden in fault fixtures"]
  else [])

/-- `execute_tool_calls` of one canonical call, in a normal fault scenario: the
handler is called once, as it raises nothing. -/
def executeTicket (externalCaseId : String) (call : String × Json) :
    TicketStep :=
  let errors := ticketErrors env call.1 call.2
  let output := createTicket env call.2 externalCaseId
  if !errors.isEmpty then ⟨call.1, call.2, errors, "skipped", none⟩
  else if !(validateJsonSchema env.text.render Agent.outputSchema output
      "$").isEmpty then
    ⟨call.1, call.2, [], "failed", none⟩
  else ⟨call.1, call.2, [], "success", some output⟩

theorem executeTicket_arguments (externalCaseId : String) (call : String × Json) :
    (executeTicket env externalCaseId call).arguments = call.2 := by
  simp only [executeTicket]
  split
  · rfl
  · split
    · rfl
    · rfl

theorem get?_of_pyEqOption {value : Option Json} {text : String}
    (equal : pyEqOption value (some (.str text)) = true) :
    value = some (.str text) := by
  rw [pyEqOption, Option.getD_some] at equal
  cases value with
  | none =>
    rw [Option.getD_none, Agent.pyEq] at equal
    · cases equal
    all_goals simp
  | some present =>
    rw [Option.getD_some] at equal
    cases present <;> simp_all [Agent.pyEq, Agent.pyNumber]

def proposalArguments (proposal : String) : Option Json :=
  ((env.readJson proposal).bind (fun parsed =>
    (singleToolCall env parsed).toOption)).map Prod.snd

theorem compiled_arguments {proposal : String} {call : String × Json}
    (compiled : (compileBoundedToolCall env proposal).normalizedOutput = some call) :
    proposalArguments env proposal = some call.2 := by
  rw [compileBoundedToolCall] at compiled
  rw [proposalArguments]
  split at compiled
  · cases compiled
  · next parsed isRead =>
      split at compiled
      · cases compiled
      · next name arguments isCall =>
          rw [isRead, Option.bind_some, isCall]
          exact congrArg (fun call => some call.2) (Option.some.inj compiled)

theorem satisfiesDraft_of_noReasons {draft : StructuredTicketInput} {proposal : String}
    (noReasons : ticketReasons env draft proposal = []) :
    ∃ call, (compileBoundedToolCall env proposal).normalizedOutput =
        some call ∧ SatisfiesDraft draft call.2 := by
  simp only [ticketReasons, List.append_eq_nil_iff] at noReasons
  obtain ⟨resolved, compared⟩ := noReasons
  have isResolved : draft.priority ≠ .unresolved := by
    intro unresolved
    rw [if_pos unresolved] at resolved
    cases resolved
  split at compared
  · next name arguments _ isCall =>
      obtain ⟨sameQuery, samePriority⟩ := List.append_eq_nil_iff.mp compared
      refine ⟨(name, arguments), isCall, isResolved, ?_, ?_, ?_⟩
      · refine get?_of_pyEqOption ?_
        by_contra different
        rw [Bool.not_eq_true] at different
        rw [different] at sameQuery
        cases sameQuery
      · intro value isSet
        rw [isSet] at samePriority
        refine get?_of_pyEqOption ?_
        by_contra different
        rw [Bool.not_eq_true] at different
        simp only [different] at samePriority
        cases samePriority
      · intro isOmitted
        rw [isOmitted] at samePriority
        rw [← Option.not_isSome_iff_eq_none]
        intro present
        simp only [present] at samePriority
        cases samePriority
  · cases compared

end Calls

end ModelAtlas.Requests
