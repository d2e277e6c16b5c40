import ModelAtlas.Tools.ToolSteps

/-!
# What a step of a generated tool call guarantees

Handlers are called for permitted calls only, another attempt follows exactly
where one failed retryably within the budget, and the last one gives the status.
-/

namespace ModelAtlas.Tools

open Foundations Approval
open Agent (ToolExecutionError simulatedFailure validateJsonSchema pyInt?
  maxToolAttempts)

section Contracts

variable {World : Type} {render : Json → String} {reg : ToolRegistry World}
  {ctx : StepContext} {call : GeneratedCall}

structure PassContract (render : Json → String) (tool : RegisteredTool World)
    (toolName : String) (arguments : Json) (ctx : ToolExecutionContext)
    (number : Nat) (pass : AttemptPass) : Prop where
  numbered : pass.attempt.attemptNumber = number
  final : pass.attempt.status = .success → pass.attempt.retryable = false
  output : pass.output.isSome = true ↔ pass.attempt.status = .success
  noErrors : pass.attempt.status = .success → pass.outputErrors = []
  returned : ∀ output, pass.output = some output →
    ∃ members invocation, output = .obj members ∧
      validateJsonSchema render tool.outputSchema output "$" = [] ∧
      pass.invocation = some invocation ∧
      invocation.outcome = .returned members
  invoked : ∀ invocation, pass.invocation = some invocation →
    invocation.toolName = toolName ∧ invocation.arguments = arguments ∧
      invocation.context = { ctx with attemptNumber := number }

section Passes

variable {tool : RegisteredTool World} {toolName : String} {arguments : Json}
  {toolContext : ToolExecutionContext} {number : Nat}

theorem failedPass_contract {error : ToolExecutionError} {outputErrors : List String}
    {invocation : Option Invocation} (invoked : ∀ called, invocation = some called →
      called.toolName = toolName ∧ called.arguments = arguments ∧
        called.context = { toolContext with attemptNumber := number }) :
    PassContract render tool toolName arguments toolContext number
      (failedPass number error outputErrors invocation) where
  numbered := rfl
  final := by simp [failedPass]
  output := by simp [failedPass]
  noErrors := by simp [failedPass]
  returned := by simp [failedPass]
  invoked := invoked

theorem concludePass_contract {invocation : Invocation}
    (isCall : invocation.toolName = toolName ∧ invocation.arguments = arguments ∧
      invocation.context = { toolContext with attemptNumber := number }) :
    PassContract render tool toolName arguments toolContext number
      (concludePass render tool number invocation) := by
  have invoked : ∀ called, some invocation = some called →
      called.toolName = toolName ∧ called.arguments = arguments ∧
        called.context = { toolContext with attemptNumber := number } := by
    intro called same
    rw [← Option.some.inj same]
    exact isCall
  rw [concludePass]
  cases outcome : invocation.outcome with
  | raised error => exact failedPass_contract invoked
  | crashed message => exact failedPass_contract invoked
  | returned members =>
    dsimp only
    by_cases valid : (validateJsonSchema render tool.outputSchema (.obj members)
        "$").isEmpty = true
    · rw [if_pos valid]
      refine ⟨rfl, fun _ => rfl, by simp [successfulPass], fun _ => rfl, ?_, invoked⟩
      intro output isOutput
      have sameOutput := Option.some.inj isOutput
      refine ⟨members, invocation, sameOutput.symm, ?_, rfl, outcome⟩
      rw [← sameOutput]
      exact List.isEmpty_iff.mp valid
    · rw [if_neg valid]
      exact failedPass_contract invoked

theorem isPass_contract {pass : AttemptPass}
    (isPass : IsPass (attemptPass render tool toolName arguments toolContext) number pass) :
    PassContract render tool toolName arguments toolContext number pass := by
  obtain ⟨world, performed⟩ := isPass
  rw [← performed, attemptPass]
  cases simulated : simulatedFailure arguments number with
  | some error => exact failedPass_contract (by simp)
  | none => exact concludePass_contract ⟨rfl, rfl, rfl⟩

end Passes

structure IsPermitted (render : Json → String) (reg : ToolRegistry World)
    (ctx : StepContext) (call : GeneratedCall) : Prop where
  registered : ∃ tool, reg.get call.toolName = some tool ∧
    validateJsonSchema render tool.argumentSchema call.arguments "$" = []
  expected : ∀ name, expectedToolName render ctx = some name →
    call.toolName = name
  expectedArguments : ∀ schema, expectedArguments ctx = some schema →
    validateJsonSchema render schema call.arguments "$" = []
  unblocked : ∀ reason, ctx.executionBlockReason = some reason → reason = ""

theorem blockErrors_eq_nil : blockErrors ctx = [] ↔
      ∀ reason, ctx.executionBlockReason = some reason → reason = "" := by
  rw [blockErrors]
  cases ctx.executionBlockReason with
  | none => simp
  | some reason => by_cases empty : reason = "" <;> simp [empty]

theorem isPermitted_iff {tool : RegisteredTool World}
    (registered : reg.get call.toolName = some tool) :
    (selectionValid render reg ctx call && (validationErrors render reg ctx call).isEmpty) = true ↔
        IsPermitted render reg ctx call := by
  rw [Bool.and_eq_true, List.isEmpty_iff, selectionValid, validationErrors, registered]
  simp only [Option.isSome_some, Bool.true_and, List.append_eq_nil_iff]
  rw [blockErrors_eq_nil]
  constructor
  · rintro ⟨selected, ⟨noErrors, noExpected⟩, unblocked⟩
    refine ⟨⟨tool, registered, noErrors⟩, ?_, ?_, unblocked⟩
    · intro name isExpected
      rw [isExpected] at selected
      exact of_decide_eq_true selected
    · intro schema isSchema
      rw [isSchema] at noExpected
      exact noExpected
  · rintro ⟨⟨found, isFound, noErrors⟩, selected, noExpected, unblocked⟩
    rw [registered] at isFound
    rw [← Option.some.inj isFound] at noErrors
    refine ⟨?_, ⟨noErrors, ?_⟩, unblocked⟩
    · cases isExpected : expectedToolName render ctx with
      | none => rfl
      | some name => exact decide_eq_true (selected name isExpected)
    · cases isSchema : expectedArguments ctx with
      | none => rfl
      | some schema => exact noExpected schema isSchema

def attemptBudget (ctx : StepContext) (tool : RegisteredTool World) : Int :=
  max 1 (min maxToolAttempts (configuredAttempts ctx.expected tool.defaultMaxAttempts))

structure StepContract (render : Json → String) (reg : ToolRegistry World)
    (ctx : StepContext) (call : GeneratedCall) (run : ExecutedStep World) :
    Prop where
  skipped : run.step.executionStatus = .skipped ↔
    ¬ IsPermitted render reg ctx call
  permitted : run.invocations ≠ [] → IsPermitted render reg ctx call
  own : ∀ invocation ∈ run.invocations,
    invocation.toolName = call.toolName ∧
      invocation.arguments = call.arguments ∧
      invocation.context.stepIndex = ctx.stepIndex ∧
      invocation.context.priorOutputs = ctx.priorOutputs
  budget : ∀ tool, reg.get call.toolName = some tool →
    (run.step.attempts.length : Int) ≤ attemptBudget ctx tool
  numbered : ∀ index attempt, run.step.attempts[index]? = some attempt →
    attempt.attemptNumber = index + 1
  continues : ∀ tool, reg.get call.toolName = some tool →
    ∀ index attempt, run.step.attempts[index]? = some attempt →
      (index + 1 < run.step.attempts.length ↔
        attempt.status = .failed ∧ attempt.retryable = true ∧
          ((index + 1 : Nat) : Int) < attemptBudget ctx tool)
  lastSuccess : ∀ index attempt, run.step.attempts[index]? = some attempt →
    attempt.status = .success → index + 1 = run.step.attempts.length
  success : run.step.executionStatus = .success ↔
    ∃ last tool output invocation, run.step.attempts.getLast? = some last ∧
      last.status = .success ∧ reg.get call.toolName = some tool ∧
      validateJsonSchema render tool.outputSchema (.obj output) "$" = [] ∧
      run.step.output = some (.obj output) ∧ invocation ∈ run.invocations ∧
      invocation.context.attemptNumber = run.step.attempts.length ∧
      invocation.outcome = .returned output
  output : run.step.output.isSome = true ↔ run.step.executionStatus = .success
  recovered : run.step.recovered = true ↔
    run.step.executionStatus = .success ∧ 1 < run.step.attempts.length

theorem skippedStep_contract {world : World} (refused : ¬ IsPermitted render reg ctx call) :
    StepContract render reg ctx call ⟨skippedStep render reg ctx call, [], world⟩ where
  skipped := by simp [skippedStep, refused]
  permitted := by simp
  own := by simp
  budget := by
    intro tool _
    simp only [skippedStep, List.length_nil, attemptBudget]
    omega
  numbered := by simp [skippedStep]
  continues := by simp [skippedStep]
  lastSuccess := by simp [skippedStep]
  success := by simp [skippedStep]
  output := by simp [skippedStep]
  recovered := by simp [skippedStep]

theorem maxAttempts_eq (tool : RegisteredTool World) :
    (maxAttempts ctx.expected tool.defaultMaxAttempts : Int) = attemptBudget ctx tool := by
  rw [maxAttempts, attemptBudget]
  omega

structure RunContract (render : Json → String) (tool : RegisteredTool World)
    (toolName : String) (arguments : Json) (ctx : ToolExecutionContext)
    (budget : Nat) (passes : List AttemptPass) : Prop where
  each : ∀ index pass, passes[index]? = some pass →
    PassContract render tool toolName arguments ctx (index + 1) pass
  continues : ∀ index pass, passes[index]? = some pass →
    (index + 1 < passes.length ↔
      pass.attempt.retryable = true ∧ index + 1 < budget)
  atMost : passes.length ≤ budget
  nonempty : passes ≠ []

theorem runAttempts_run {tool : RegisteredTool World} {toolName : String} {arguments : Json}
    {toolContext : ToolExecutionContext} {budget : Nat} {world : World} (positive : 0 < budget) :
    RunContract render tool toolName arguments toolContext budget
      (runAttempts render tool toolName arguments toolContext budget world).1 := by
  obtain ⟨left, isBudget⟩ := Nat.exists_eq_succ_of_ne_zero positive.ne'
  refine ⟨?_, retry_continues budget 1 world, retry_length_le budget 1 world, ?_⟩
  · intro index pass found
    have isPass := retry_isPass budget 1 world index pass found
    rw [Nat.add_comm] at isPass
    exact isPass_contract isPass
  · rw [isBudget]
    exact retry_ne_nil left 1 world

section Runs

variable {tool : RegisteredTool World} {toolName : String} {arguments : Json}
  {toolContext : ToolExecutionContext} {budget : Nat} {passes : List AttemptPass}

theorem RunContract.last
    (run : RunContract render tool toolName arguments toolContext budget passes) :
    ∃ last, passes.getLast? = some last ∧ PassContract render tool toolName
      arguments toolContext passes.length last := by
  have longer := List.length_pos_iff.mpr run.nonempty
  have isLast := List.getLast?_eq_some_getLast run.nonempty
  refine ⟨_, isLast, ?_⟩
  rw [List.getLast?_eq_getElem?] at isLast
  have contract := run.each _ _ isLast
  rw [Nat.sub_add_cancel longer] at contract
  exact contract

theorem RunContract.pass_of_attempt
    (run : RunContract render tool toolName arguments toolContext budget passes)
    {index : Nat} {attempt : ToolExecutionAttempt}
    (found : (passes.map AttemptPass.attempt)[index]? = some attempt) :
    ∃ pass, passes[index]? = some pass ∧ pass.attempt = attempt ∧
      PassContract render tool toolName arguments toolContext (index + 1)
        pass := by
  rw [List.getElem?_map, Option.map_eq_some_iff] at found
  obtain ⟨pass, isPass, isAttempt⟩ := found
  exact ⟨pass, isPass, isAttempt, run.each index pass isPass⟩

theorem RunContract.continues_iff
    (run : RunContract render tool toolName arguments toolContext budget passes)
    {index : Nat} {attempt : ToolExecutionAttempt}
    (found : (passes.map AttemptPass.attempt)[index]? = some attempt) :
    index + 1 < passes.length ↔ attempt.status = .failed ∧ attempt.retryable = true ∧
        index + 1 < budget := by
  obtain ⟨pass, isPass, isAttempt, contract⟩ := run.pass_of_attempt found
  rw [run.continues index pass isPass, ← isAttempt]
  constructor
  · rintro ⟨retryable, inside⟩
    refine ⟨?_, retryable, inside⟩
    cases status : pass.attempt.status with
    | failed => rfl
    | success =>
      have final := contract.final status
      rw [retryable] at final
      cases final
  · rintro ⟨-, retryable, inside⟩
    exact ⟨retryable, inside⟩

end Runs

theorem attemptedStep_success {passes : List AttemptPass} {last : AttemptPass}
    {tool : RegisteredTool World} {toolName : String} {arguments : Json}
    {toolContext : ToolExecutionContext} {number : Nat} (isLast : passes.getLast? = some last)
    (contract : PassContract render tool toolName arguments toolContext number last) :
    ((attemptedStep render ctx call passes).executionStatus = .success ↔
        last.attempt.status = .success) ∧
      (attemptedStep render ctx call passes).output = last.output := by
  have isOutput : (attemptedStep render ctx call passes).output =
      last.output := by
    simp only [attemptedStep, isLast, Option.bind_some]
  refine ⟨?_, isOutput⟩
  simp only [attemptedStep, isLast, Option.bind_some, Option.map_some, Option.getD_some]
  by_cases succeeded : last.attempt.status = .success
  · rw [contract.noErrors succeeded, contract.output.mpr succeeded]
    simp [succeeded]
  · have noOutput : last.output.isSome = false := by
      rw [Bool.eq_false_iff]
      intro present
      exact succeeded (contract.output.mp present)
    rw [noOutput]
    simp [succeeded]

theorem attemptedStep_recovered (passes : List AttemptPass) :
    (attemptedStep render ctx call passes).recovered = true ↔
      (attemptedStep render ctx call passes).executionStatus = .success ∧ 1 < passes.length := by
  simp only [attemptedStep, Bool.and_eq_true, decide_eq_true_eq]
  split <;> simp_all

theorem attemptedStep_contract {tool : RegisteredTool World} {world : World}
    {passes : List AttemptPass}
    (permitted : IsPermitted render reg ctx call)
    (registered : reg.get call.toolName = some tool)
    (run : RunContract render tool call.toolName call.arguments
      ⟨ctx.externalCaseId, ctx.stepIndex, 0, ctx.priorOutputs⟩
      (maxAttempts ctx.expected tool.defaultMaxAttempts) passes) :
    StepContract render reg ctx call ⟨attemptedStep render ctx call passes,
        passes.filterMap AttemptPass.invocation, world⟩ := by
  have sameBudget := @maxAttempts_eq World ctx tool
  obtain ⟨last, isLast, lastContract⟩ := run.last
  obtain ⟨status, isOutput⟩ :=
    @attemptedStep_success World render ctx call _ _ tool _ _ _ _ isLast lastContract
  have sameTool : ∀ other, reg.get call.toolName = some other → other = tool := by
    intro other isOther
    rw [registered] at isOther
    exact (Option.some.inj isOther).symm
  have sameLength : (attemptedStep render ctx call passes).attempts.length =
      passes.length := by
    simp [attemptedStep]
  refine ⟨?_, fun _ => permitted, ?_, ?_, ?_, ?_, ?_, ?_, ?_, ?_⟩
  · constructor
    · intro skipped
      simp only [attemptedStep] at skipped
      split at skipped <;> cases skipped
    · exact fun refused => absurd permitted refused
  · intro invocation mem
    obtain ⟨pass, isPass, invoked⟩ := List.mem_filterMap.mp mem
    obtain ⟨index, inside⟩ := List.mem_iff_getElem?.mp isPass
    obtain ⟨isName, isArguments, isContext⟩ :=
      (run.each index pass inside).invoked invocation invoked
    rw [isContext]
    exact ⟨isName, isArguments, rfl, rfl⟩
  · intro other isOther
    rw [sameTool other isOther, ← sameBudget]
    dsimp only
    rw [sameLength]
    exact_mod_cast run.atMost
  · intro index attempt found
    obtain ⟨pass, -, isAttempt, contract⟩ := run.pass_of_attempt found
    rw [← isAttempt]
    exact contract.numbered
  · intro other isOther index attempt found
    rw [sameTool other isOther, ← sameBudget]
    dsimp only
    rw [sameLength, run.continues_iff found, Nat.cast_lt]
  · intro index attempt found success
    obtain ⟨inside, -⟩ := List.getElem?_eq_some_iff.mp found
    have continues := run.continues_iff found
    dsimp only at inside ⊢
    rw [sameLength] at inside ⊢
    rw [success] at continues
    simp only [reduceCtorEq, false_and, iff_false] at continues
    omega
  · dsimp only
    rw [status, isOutput]
    constructor
    · intro success
      obtain ⟨output, found⟩ :=
        Option.isSome_iff_exists.mp (lastContract.output.mpr success)
      obtain ⟨members, invocation, isObject, valid, invoked, outcome⟩ :=
        lastContract.returned output found
      rw [isObject] at found valid
      refine ⟨last.attempt, tool, members, invocation, ?_, success, registered,
        valid, found, ?_, ?_, outcome⟩
      · simp [attemptedStep, List.getLast?_map, isLast]
      · exact List.mem_filterMap.mpr ⟨last, List.mem_of_getLast? isLast, invoked⟩
      · rw [(lastContract.invoked invocation invoked).2.2, sameLength]
    · rintro ⟨attempt, other, output, invocation, isAttempt, success, -⟩
      simp only [attemptedStep, List.getLast?_map, isLast, Option.map_some,
        Option.some.injEq] at isAttempt
      rw [isAttempt]
      exact success
  · dsimp only
    rw [status, isOutput]
    exact lastContract.output
  · dsimp only
    rw [sameLength]
    exact attemptedStep_recovered passes

theorem executeStep_contract (render : Json → String) (reg : ToolRegistry World) (ctx : StepContext)
    (call : GeneratedCall) (world : World) :
    StepContract render reg ctx call (executeStep render reg ctx call world) := by
  rw [executeStep]
  cases registered : reg.get call.toolName with
  | none =>
    refine skippedStep_contract ?_
    intro permitted
    obtain ⟨tool, isTool, -⟩ := permitted.registered
    rw [registered] at isTool
    cases isTool
  | some tool =>
    have permitted_iff := @isPermitted_iff World render reg ctx call tool registered
    have sameBudget := @maxAttempts_eq World ctx tool
    have positive : 0 < maxAttempts ctx.expected tool.defaultMaxAttempts := by
      rw [attemptBudget] at sameBudget
      omega
    dsimp only
    split
    · next valid =>
        exact attemptedStep_contract (permitted_iff.mp valid) registered (runAttempts_run positive)
    · next invalid =>
        exact skippedStep_contract (fun permitted =>
          invalid (permitted_iff.mpr permitted))

end Contracts

end ModelAtlas.Tools
