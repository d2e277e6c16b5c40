import ModelAtlas.Tools.StepContracts

/-!
# Traces of generated tool calls

`execute_tool_calls` without a fault scenario: the calls of an output, the steps
that a case expects, and the trace of the execution.  An attempt is made even
where the configured number is not positive.
-/

namespace ModelAtlas.Tools

open Foundations Approval
open Agent (ToolExecutionError simulatedFailure validateJsonSchema pyInt?
  maxToolAttempts)

def firstTruthy (value : Json) (names : List String) : Option Json :=
  names.findSome? (fun name => (value.get? name).filter Json.truthy)

/-- `raw_calls`. -/
def rawToolCalls (parsed : Json) : Option (List Json) :=
  match parsed with
  | .obj _ =>
    match parsed.get? "tool_calls", parsed.get? "tool_call" with
    | some (.arr calls), _ => some calls
    | _, none | _, some .null =>
      if (firstTruthy parsed ["tool_name", "name"]).isSome then some [parsed]
      else none
    | _, some call => some [call]
  | _ => none

def callLabel (index : Nat) : String :=
  "tool call " ++ toString (index + 1)

section Parsing

variable (loads : String → Option Json) (render : Json → String)

/-- `arguments` of `_normalize_call`. -/
def normalizeArguments (source : Json) (index : Nat) : Except String Json :=
  match (source.get? "arguments").getD (.obj []) with
  | .obj members => .ok (.obj members)
  | .str text =>
    match loads text with
    | none => .error (callLabel index ++ " arguments are not valid JSON")
    | some (.obj members) => .ok (.obj members)
    | some _ => .error (callLabel index ++ " arguments must be an object")
  | _ => .error (callLabel index ++ " arguments must be an object")

/-- `_normalize_call`; the id is the one of the step. -/
def normalizeCall (rawCall : Json) (index : Nat) : Except String GeneratedCall :=
  if !rawCall.isObject then .error (callLabel index ++ " must be an object")
  else
    let source := ((rawCall.get? "function").filter Json.isObject).getD rawCall
    match firstTruthy source ["tool_name", "name"] with
    | none => .error (callLabel index ++ " is missing tool_name")
    | some toolName =>
      (normalizeArguments loads source index).map (fun arguments =>
        { callId := ((firstTruthy rawCall ["id", "call_id"]).map
            (Json.pyStr render)).getD ("call-" ++ toString (index + 1))
          toolName := toolName.pyStr render
          arguments := arguments })

def normalizeCalls : List Json → Nat → Except String (List GeneratedCall)
  | [], _ => .ok []
  | rawCall :: rest, index => do
    let call ← normalizeCall loads render rawCall index
    let calls ← normalizeCalls rest (index + 1)
    .ok (call :: calls)

def parseToolCalls (output : String) : Except String (List GeneratedCall) :=
  match loads output with
  | none => .error "output is not valid JSON"
  | some parsed =>
    match rawToolCalls parsed with
    | none => .error "output does not contain a tool call"
    | some rawCalls => normalizeCalls loads render rawCalls 0

end Parsing

def requiredArgumentSchema (render : Json → String) (required : List Json) :
    Json :=
  let names := required.map (Json.pyStr render)
  .obj [("type", .str "object"), ("required", .arr (names.map .str)),
    ("properties", .obj (names.eraseDups.map (fun name =>
      (name, .obj [("type", .str "string")]))))]

def sequenceStep : Json → Option Json
  | .str name => some (.obj [("tool_name", .str name)])
  | .obj members =>
    if (Json.obj members).truthyMember "tool_name" then some (.obj members)
    else none
  | _ => none

def singleStep (render : Json → String) (schema : Json) : Json :=
  let arguments :=
    match schema.get? "arguments", schema.get? "required_arguments" with
    | some (.obj members), _ => .obj members
    | _, some (.arr required) => requiredArgumentSchema render required
    | given, _ => given.getD .null
  .obj [("tool_name",
      .str (((schema.get? "tool_name").getD .null).pyStr render)),
    ("arguments", arguments),
    ("example_arguments", (schema.get? "example_arguments").getD .null),
    ("max_attempts", (schema.get? "max_attempts").getD .null)]

def expectedSteps (render : Json → String) (schema : Option Json) : List Json :=
  match schema.filter Json.isObject with
  | none => []
  | some schema =>
    match schema.get? "expected_sequence" with
    | some (.arr sequence) => sequence.filterMap sequenceStep
    | _ =>
      if schema.truthyMember "tool_name" then [singleStep render schema]
      else []

def maxToolCallsPerCase : Nat := 8

inductive TraceStatus where
  | success
  | partialFailure
  | failed
  | invalidCall
  deriving DecidableEq

/-- `ToolExecutionTrace`, without its durations. -/
structure ToolExecutionTrace where
  (registryId registryVersion externalCaseId : String)
  parseError : Option String
  callValid : Bool
  status : TraceStatus
  sequenceMatch : Bool
  (expectedToolSequence actualToolSequence : List String)
  (selectionAccuracy argumentValidityRate executionSuccessRate : Option Rat)
  retryRecoveryRate : Option Rat
  steps : List ToolExecutionStep

def rate (values : List Bool) : Option Rat :=
  if values.isEmpty then none else some (values.count true / values.length)

structure ToolCase where
  externalCaseId : String
  expectedToolSchema : Option Json
  executionBlockReason : Option String

structure ExecutedTrace (World : Type) where
  trace : ToolExecutionTrace
  runs : List (ExecutedStep World)
  world : World

section Execution

variable {World : Type} (loads : String → Option Json) (render : Json → String)
  (reg : ToolRegistry World) (toolCase : ToolCase)

/-- `[str(step["tool_name"]) for step in expected_steps]`. -/
def expectedSequence : List String :=
  (expectedSteps render toolCase.expectedToolSchema).map (fun step =>
    ((step.get? "tool_name").getD .null).pyStr render)

def stepContext (index : Nat) (priorOutputs : List Json) : StepContext where
  externalCaseId := toolCase.externalCaseId
  stepIndex := index
  expected := (expectedSteps render toolCase.expectedToolSchema)[index]?
  priorOutputs := priorOutputs
  executionBlockReason := toolCase.executionBlockReason

def executeSteps : Nat → List Json → List GeneratedCall → World → List (ExecutedStep World) × World
  | _, _, [], world => ([], world)
  | index, priorOutputs, call :: rest, world =>
    let run := executeStep render reg (stepContext render toolCase index priorOutputs) call world
    let later := executeSteps (index + 1) (priorOutputs ++ run.step.output.toList) rest run.world
    (run :: later.1, later.2)

def emptyTrace (parseError : String) : ToolExecutionTrace where
  registryId := reg.registryId
  registryVersion := reg.registryVersion
  externalCaseId := toolCase.externalCaseId
  parseError := some parseError
  callValid := false
  status := .invalidCall
  sequenceMatch := false
  expectedToolSequence := expectedSequence render toolCase
  actualToolSequence := []
  selectionAccuracy := none
  argumentValidityRate := none
  executionSuccessRate := none
  retryRecoveryRate := none
  steps := []

def traceStatus (steps : List ToolExecutionStep) : TraceStatus :=
  let succeeded := steps.map (fun step => decide (step.executionStatus = .success))
  if !steps.isEmpty && succeeded.all id then .success
  else if succeeded.any id then .partialFailure
  else if !steps.isEmpty then .failed
  else .invalidCall

def executedTrace (calls : List GeneratedCall) (steps : List ToolExecutionStep) :
    ToolExecutionTrace :=
  let expected := expectedSequence render toolCase
  let actual := calls.map GeneratedCall.toolName
  let sequenceMatch := expected.isEmpty || actual = expected
  let retried := steps.filter (fun step => 0 < step.retryCount)
  { registryId := reg.registryId
    registryVersion := reg.registryVersion
    externalCaseId := toolCase.externalCaseId
    parseError := none
    callValid := !steps.isEmpty && sequenceMatch && steps.all ToolExecutionStep.selectionValid &&
      steps.all ToolExecutionStep.argumentsValid
    status := traceStatus steps
    sequenceMatch := sequenceMatch
    expectedToolSequence := expected
    actualToolSequence := actual
    selectionAccuracy := rate (steps.map ToolExecutionStep.selectionValid)
    argumentValidityRate := rate (steps.map ToolExecutionStep.argumentsValid)
    executionSuccessRate := rate (steps.map (fun step =>
      decide (step.executionStatus = .success)))
    retryRecoveryRate := rate (retried.map ToolExecutionStep.recovered)
    steps := steps }

def executeToolCalls (output : String) (world : World) : ExecutedTrace World :=
  match parseToolCalls loads render output with
  | .error parseError =>
    ⟨emptyTrace render reg toolCase parseError, [], world⟩
  | .ok calls =>
    if maxToolCallsPerCase < calls.length then
      ⟨emptyTrace render reg toolCase
        ("tool call count exceeds limit " ++ toString maxToolCallsPerCase), [],
        world⟩
    else
      let executed := executeSteps render reg toolCase 0 [] calls world
      ⟨executedTrace render reg toolCase calls
        (executed.1.map ExecutedStep.step), executed.1, executed.2⟩

end Execution

section Contracts

variable {World : Type} {loads : String → Option Json} {render : Json → String}
  {reg : ToolRegistry World} {toolCase : ToolCase} {output : String}
  {world : World}

theorem normalizeCalls_error {rawCalls : List Json} {start index : Nat} {rawCall : Json}
    {message : String} (found : rawCalls[index]? = some rawCall)
    (refused : normalizeCall loads render rawCall (start + index) = .error message) :
    ∃ first, normalizeCalls loads render rawCalls start = .error first := by
  induction rawCalls generalizing start index with
  | nil => simp at found
  | cons head rest ih =>
    rw [normalizeCalls]
    cases normalized : normalizeCall loads render head start with
    | error first => exact ⟨first, rfl⟩
    | ok call =>
      cases index with
      | zero =>
        rw [List.getElem?_cons_zero, Option.some.injEq] at found
        rw [found, ← Nat.add_zero start, refused] at normalized
        cases normalized
      | succ index =>
        rw [List.getElem?_cons_succ] at found
        have later : normalizeCall loads render rawCall (start + 1 + index) = .error message := by
          rw [Nat.add_assoc, Nat.add_comm 1]
          exact refused
        obtain ⟨first, isFirst⟩ := ih found later
        exact ⟨first, by rw [isFirst]; rfl⟩

theorem executeToolCalls_refused
    (refused : ∀ calls, parseToolCalls loads render output = .ok calls →
      maxToolCallsPerCase < calls.length) :
    (executeToolCalls loads render reg toolCase output world).runs = [] ∧
      (executeToolCalls loads render reg toolCase output world).trace.steps = [] ∧
      (executeToolCalls loads render reg toolCase output world).trace.status = .invalidCall := by
  rw [executeToolCalls]
  cases parsed : parseToolCalls loads render output with
  | error message => simp [emptyTrace]
  | ok calls =>
    dsimp only
    rw [if_pos (refused calls parsed)]
    simp [emptyTrace]

theorem executeToolCalls_executed {calls : List GeneratedCall}
    (parsed : parseToolCalls loads render output = .ok calls)
    (atMost : calls.length ≤ maxToolCallsPerCase) :
    (executeToolCalls loads render reg toolCase output world).runs =
      (executeSteps render reg toolCase 0 [] calls world).1 := by
  rw [executeToolCalls, parsed]
  dsimp only
  rw [if_neg (by omega)]

def successfulOutputs (runs : List (ExecutedStep World)) : List Json :=
  (runs.filter (fun run => decide (run.step.executionStatus = .success))).filterMap
    (fun run => run.step.output)

theorem successfulOutputs_cons {run : ExecutedStep World} {runs : List (ExecutedStep World)}
    (outputs : run.step.output.isSome = true ↔ run.step.executionStatus = .success) :
    successfulOutputs (run :: runs) = run.step.output.toList ++ successfulOutputs runs := by
  rw [successfulOutputs, successfulOutputs]
  cases isOutput : run.step.output with
  | none =>
    rw [isOutput] at outputs
    have failed : ¬ run.step.executionStatus = .success := by
      intro success
      have present := outputs.mpr success
      cases present
    rw [List.filter_cons_of_neg (by simp [failed])]
    rfl
  | some output =>
    rw [isOutput] at outputs
    have success := outputs.mp rfl
    rw [List.filter_cons_of_pos (by simp [success])]
    simp [isOutput]

theorem executeSteps_length (index : Nat) (priorOutputs : List Json)
    (calls : List GeneratedCall) (world : World) :
    (executeSteps render reg toolCase index priorOutputs calls world).1.length = calls.length := by
  induction calls generalizing index priorOutputs world with
  | nil => rfl
  | cons call rest ih =>
    rw [executeSteps]
    simp only [List.length_cons, ih]

theorem executeSteps_contract (start : Nat) (priorOutputs : List Json)
    (calls : List GeneratedCall) (world : World) :
    ∀ index call run, calls[index]? = some call →
      (executeSteps render reg toolCase start priorOutputs calls world).1[index]? = some run →
      StepContract render reg (stepContext render toolCase (start + index) (priorOutputs ++
          successfulOutputs ((executeSteps render reg toolCase start
            priorOutputs calls world).1.take index))) call run := by
  induction calls generalizing start priorOutputs world with
  | nil => simp
  | cons first rest ih =>
    intro index call run isCall isRun
    have firstContract := executeStep_contract render reg
      (stepContext render toolCase start priorOutputs) first world
    rw [executeSteps] at isRun ⊢
    dsimp only at isRun ⊢
    cases index with
    | zero =>
      rw [List.getElem?_cons_zero, Option.some.injEq] at isCall isRun
      rw [List.take_zero, successfulOutputs, List.filter_nil,
        List.filterMap_nil, List.append_nil, Nat.add_zero, ← isCall, ← isRun]
      exact firstContract
    | succ index =>
      rw [List.getElem?_cons_succ] at isCall isRun
      have later := ih (start + 1) _ _ index call run isCall isRun
      rw [List.take_succ_cons, successfulOutputs_cons firstContract.output,
        ← List.append_assoc, ← Nat.add_assoc, Nat.add_right_comm]
      exact later

theorem traceStatus_success (steps : List ToolExecutionStep) : traceStatus steps = .success ↔
      steps ≠ [] ∧ ∀ step ∈ steps, step.executionStatus = .success := by
  have succeeded : (!steps.isEmpty && (steps.map (fun step =>
      decide (step.executionStatus = .success))).all id) = true ↔
        steps ≠ [] ∧ ∀ step ∈ steps, step.executionStatus = .success := by
    simp
  rw [← succeeded, traceStatus]
  split
  · next all => exact ⟨fun _ => all, fun _ => rfl⟩
  · next some =>
      constructor
      · intro success
        split at success
        · cases success
        · split at success <;> cases success
      · exact fun all => absurd all some

structure TraceContract (loads : String → Option Json) (render : Json → String)
    (reg : ToolRegistry World) (toolCase : ToolCase) (output : String)
    (executed : ExecutedTrace World) : Prop where
  refused : (∀ calls, parseToolCalls loads render output = .ok calls →
      maxToolCallsPerCase < calls.length) →
    executed.runs = [] ∧ executed.trace.status = .invalidCall
  unparsable : ∀ parsed rawCalls index rawCall message,
    loads output = some parsed → rawToolCalls parsed = some rawCalls →
    rawCalls[index]? = some rawCall →
    normalizeCall loads render rawCall index = .error message →
    executed.runs = []
  steps : executed.trace.steps = executed.runs.map ExecutedStep.step
  contract : ∀ index run, executed.runs[index]? = some run →
    ∃ calls call, parseToolCalls loads render output = .ok calls ∧
      calls.length = executed.runs.length ∧ calls[index]? = some call ∧
      StepContract render reg (stepContext render toolCase index
        (successfulOutputs (executed.runs.take index))) call run
  success : executed.trace.status = .success ↔
    executed.trace.steps ≠ [] ∧
      ∀ step ∈ executed.trace.steps, step.executionStatus = .success

/-- `execute_tool_calls` keeps its contract, whatever the handlers do. -/
theorem executeToolCalls_contract (loads : String → Option Json) (render : Json → String)
    (reg : ToolRegistry World) (toolCase : ToolCase) (output : String) (world : World) :
    TraceContract loads render reg toolCase output
      (executeToolCalls loads render reg toolCase output world) := by
  have refused := @executeToolCalls_refused World loads render reg toolCase output world
  refine ⟨fun isRefused => ⟨(refused isRefused).1, (refused isRefused).2.2⟩, ?_, ?_, ?_, ?_⟩
  · intro parsed rawCalls index rawCall message isParsed isRaw found notNormal
    have notParsed : ∃ first, parseToolCalls loads render output = .error first := by
      rw [parseToolCalls, isParsed]
      dsimp only
      rw [isRaw]
      refine @normalizeCalls_error loads render rawCalls 0 index rawCall message found ?_
      rw [Nat.zero_add]
      exact notNormal
    obtain ⟨first, isFirst⟩ := notParsed
    refine (refused ?_).1
    intro calls isCalls
    rw [isFirst] at isCalls
    cases isCalls
  · rw [executeToolCalls]
    split
    · rfl
    · split <;> rfl
  · intro index run isRun
    by_cases executable : ∃ calls, parseToolCalls loads render output = .ok calls ∧
        calls.length ≤ maxToolCallsPerCase
    · obtain ⟨calls, parsed, atMost⟩ := executable
      rw [executeToolCalls_executed parsed atMost] at isRun ⊢
      have sameLength := @executeSteps_length World render reg toolCase 0 [] calls world
      have inside := (List.getElem?_eq_some_iff.mp isRun).1
      rw [sameLength] at inside
      have isCall := List.getElem?_eq_getElem inside
      have contract := executeSteps_contract 0 [] calls world index _ run isCall isRun
      rw [Nat.zero_add, List.nil_append] at contract
      exact ⟨calls, _, parsed, sameLength.symm, isCall, contract⟩
    · have nothing := (refused (fun calls isCalls => by
        by_contra few
        exact executable ⟨calls, isCalls, by omega⟩)).1
      rw [nothing] at isRun
      simp at isRun
  · rw [executeToolCalls]
    split
    · simp [emptyTrace]
    · split
      · simp [emptyTrace]
      · exact traceStatus_success _

end Contracts

def echoTool : RegisteredTool Unit where
  argumentSchema := .obj [("type", .str "object")]
  outputSchema := .obj [("type", .str "object")]
  defaultMaxAttempts := 2
  handler arguments _ world := (.returned [("echo", arguments)], world)

def echoRegistry : ToolRegistry Unit where
  tools := [("echo", echoTool)]
  registryId := "model_atlas_local_tools"
  registryVersion := "local-tool-registry-v1"

def echoCase : ToolCase where
  externalCaseId := "case"
  expectedToolSchema := some (.obj [("expected_sequence", .arr
    [.obj [("tool_name", .str "echo"), ("max_attempts", .int 0)]])])
  executionBlockReason := none

def echoOutput : String :=
  "\x7b\"tool_name\":\"echo\",\"arguments\":\x7b\x7d\x7d"

def readEcho (text : String) : Option Json :=
  if text = echoOutput then
    some (.obj [("tool_name", .str "echo"), ("arguments", .obj [])])
  else none

theorem executeToolCalls_unconfigured :
    ((executeToolCalls readEcho (fun _ => "value") echoRegistry echoCase echoOutput
        ()).trace.steps.map (fun step => step.attempts.length) = [1] ∧
      configuredAttempts
        (stepContext (fun _ => "value") echoCase 0 []).expected
        echoTool.defaultMaxAttempts = 0) ∧
      ¬ ((1 : Int) ≤ min maxToolAttempts 0) := by
  decide +kernel

end ModelAtlas.Tools
