import ModelAtlas.Agent.Tools
import ModelAtlas.Foundations.Retries

/-!
# Steps of generated tool calls

`_execute_step` over any registry.  A handler reads and changes a state that is
taken from outside, and may return, raise or crash.  The fault fixtures and the
durations are left out.
-/

namespace ModelAtlas.Tools

open Foundations Approval
open Agent (ToolExecutionError simulatedFailure validateJsonSchema pyInt?
  maxToolAttempts)

structure ToolExecutionContext where
  externalCaseId : String
  (stepIndex attemptNumber : Nat)
  priorOutputs : List Json

/-- What a handler does: it returns a `dict`, raises a `ToolExecutionError` or
raises anything else. -/
inductive HandlerOutcome where
  | returned (output : List (String × Json))
  | raised (error : ToolExecutionError)
  | crashed (message : String)

/-- `RegisteredTool`, with what an execution reads of its descriptor. -/
structure RegisteredTool (World : Type) where
  (argumentSchema outputSchema : Json)
  defaultMaxAttempts : Int
  handler : Json → ToolExecutionContext → World → HandlerOutcome × World

structure ToolRegistry (World : Type) where
  tools : List (String × RegisteredTool World)
  (registryId registryVersion : String)

def ToolRegistry.get {World : Type} (reg : ToolRegistry World)
    (toolId : String) : Option (RegisteredTool World) :=
  reg.tools.lookup toolId

structure Invocation where
  toolName : String
  arguments : Json
  context : ToolExecutionContext
  outcome : HandlerOutcome

inductive AttemptStatus where
  | success
  | failed
  deriving DecidableEq

structure ToolExecutionAttempt where
  attemptNumber : Nat
  status : AttemptStatus
  retryable : Bool
  (errorType message : Option String)

structure AttemptPass where
  attempt : ToolExecutionAttempt
  output : Option Json
  outputErrors : List String
  invocation : Option Invocation

def failedPass (attemptNumber : Nat) (error : ToolExecutionError)
    (outputErrors : List String) (invocation : Option Invocation) :
    AttemptPass where
  attempt :=
    ⟨attemptNumber, .failed, error.retryable, some error.errorType, some error.message⟩
  output := none
  outputErrors := outputErrors
  invocation := invocation

def successfulPass (attemptNumber : Nat) (output : Json)
    (invocation : Invocation) : AttemptPass where
  attempt := ⟨attemptNumber, .success, false, none, none⟩
  output := some output
  outputErrors := []
  invocation := some invocation

section Attempts

variable {World : Type} (render : Json → String) (tool : RegisteredTool World)
  (toolName : String) (arguments : Json)

def concludePass (attemptNumber : Nat) (invocation : Invocation) : AttemptPass :=
  match invocation.outcome with
  | .returned output =>
    let outputErrors :=
      validateJsonSchema render tool.outputSchema (.obj output) "$"
    if outputErrors.isEmpty then
      successfulPass attemptNumber (.obj output) invocation
    else
      failedPass attemptNumber
        ⟨"Tool output did not match its descriptor.", "invalid_tool_output",
          false⟩ outputErrors (some invocation)
  | .raised error => failedPass attemptNumber error [] (some invocation)
  | .crashed message =>
    failedPass attemptNumber ⟨message, "tool_internal_error", false⟩ []
      (some invocation)

/-- One pass of the loop; `context` is the context of the step. -/
def attemptPass (ctx : ToolExecutionContext) (attemptNumber : Nat)
    (world : World) : AttemptPass × World :=
  match simulatedFailure arguments attemptNumber with
  | some error => (failedPass attemptNumber error [] none, world)
  | none =>
    let attempted := { ctx with attemptNumber := attemptNumber }
    let handled := tool.handler arguments attempted world
    (concludePass render tool attemptNumber ⟨toolName, arguments, attempted, handled.1⟩, handled.2)

/-- The loop over the attempts: the last pass leaves what it sets, since a pass before another
one sets only its error. -/
def runAttempts (ctx : ToolExecutionContext) (maxAttempts : Nat)
    (world : World) : List AttemptPass × World :=
  retry (attemptPass render tool toolName arguments ctx)
    (fun pass => pass.attempt.retryable) maxAttempts 1 world

end Attempts

def configuredAttempts (expected : Option Json) (default : Int) : Int :=
  (pyInt? (expected.bind (fun expected => expected.get? "max_attempts"))).getD
    default

def maxAttempts (expected : Option Json) (default : Int) : Nat :=
  (max 1 (min maxToolAttempts (configuredAttempts expected default))).toNat

structure GeneratedCall where
  (callId toolName : String)
  arguments : Json

inductive StepStatus where
  | skipped
  | success
  | failed
  deriving DecidableEq

structure ToolExecutionStep where
  stepIndex : Nat
  callId : String
  expectedToolName : Option String
  toolName : String
  arguments : Json
  (selectionValid argumentsValid : Bool)
  validationErrors : List String
  executionStatus : StepStatus
  retryCount : Nat
  (recovered outputValid : Bool)
  outputValidationErrors : List String
  output : Option Json
  (errorType errorMessage : Option String)
  attempts : List ToolExecutionAttempt

/-- A step, the handlers that were called for it and the state they left. -/
structure ExecutedStep (World : Type) where
  step : ToolExecutionStep
  invocations : List Invocation
  world : World

structure StepContext where
  externalCaseId : String
  stepIndex : Nat
  expected : Option Json
  priorOutputs : List Json
  executionBlockReason : Option String

section Steps

variable {World : Type} (render : Json → String) (reg : ToolRegistry World)
  (ctx : StepContext) (call : GeneratedCall)

def expectedToolName : Option String :=
  match ctx.expected with
  | some expected =>
    if expected.truthyMember "tool_name" then
      some (((expected.get? "tool_name").getD .null).pyStr render)
    else none
  | none => none

/-- `expected_arguments`, where it is a schema. -/
def expectedArguments : Option Json :=
  (ctx.expected.bind (fun expected => expected.get? "arguments")).filter
    Json.isObject

def selectionValid : Bool :=
  (reg.get call.toolName).isSome && (expectedToolName render ctx).all
      (fun expected => call.toolName = expected)

/-- `execution_block_reason`, where it is not empty. -/
def blockErrors : List String :=
  match ctx.executionBlockReason with
  | some reason => if reason = "" then [] else [reason]
  | none => []

def validationErrors : List String :=
  (match reg.get call.toolName with
  | none => ["tool " ++ call.toolName ++ " is not registered"]
  | some tool => validateJsonSchema render tool.argumentSchema call.arguments "$") ++
  (match expectedArguments ctx with
  | some schema => validateJsonSchema render schema call.arguments "$"
  | none => []) ++
  blockErrors ctx

def skippedStep : ToolExecutionStep where
  stepIndex := ctx.stepIndex
  callId := call.callId
  expectedToolName := expectedToolName render ctx
  toolName := call.toolName
  arguments := call.arguments
  selectionValid := selectionValid render reg ctx call
  argumentsValid := (validationErrors render reg ctx call).isEmpty
  validationErrors := validationErrors render reg ctx call
  executionStatus := .skipped
  retryCount := 0
  recovered := false
  outputValid := false
  outputValidationErrors := []
  output := none
  errorType :=
    if selectionValid render reg ctx call then some "invalid_arguments"
    else some "invalid_tool_selection"
  errorMessage := some
    "Tool execution was skipped because the call contract was invalid."
  attempts := []

def attemptedStep (passes : List AttemptPass) : ToolExecutionStep :=
  let last := passes.getLast?
  let output := last.bind AttemptPass.output
  let outputErrors := (last.map AttemptPass.outputErrors).getD []
  let success := output.isSome && outputErrors.isEmpty
  { stepIndex := ctx.stepIndex
    callId := call.callId
    expectedToolName := expectedToolName render ctx
    toolName := call.toolName
    arguments := call.arguments
    selectionValid := true
    argumentsValid := true
    validationErrors := []
    executionStatus := if success then .success else .failed
    retryCount := passes.length - 1
    recovered := success && decide (1 < passes.length)
    outputValid := success
    outputValidationErrors := outputErrors
    output := output
    errorType :=
      if success then none else last.bind (fun pass => pass.attempt.errorType)
    errorMessage :=
      if success then none else last.bind (fun pass => pass.attempt.message)
    attempts := passes.map AttemptPass.attempt }

def executeStep (world : World) : ExecutedStep World :=
  match reg.get call.toolName with
  | none => ⟨skippedStep render reg ctx call, [], world⟩
  | some tool =>
    if selectionValid render reg ctx call && (validationErrors render reg ctx call).isEmpty then
      let run := runAttempts render tool call.toolName call.arguments
        ⟨ctx.externalCaseId, ctx.stepIndex, 0, ctx.priorOutputs⟩
        (maxAttempts ctx.expected tool.defaultMaxAttempts) world
      ⟨attemptedStep render ctx call run.1, run.1.filterMap AttemptPass.invocation, run.2⟩
    else ⟨skippedStep render reg ctx call, [], world⟩

end Steps

end ModelAtlas.Tools
