import ModelAtlas.Agent.Guards

/-!
# Bounds of an execution

The limits of a prepared execution hold over the plan and its recovery
together, for every plan and for every answer of the live callback.
-/

namespace ModelAtlas.Agent

open Foundations Approval

def OversizedPlan (limits : AgentContext) (plan : ParsedPlan) : Prop :=
  limits.stepLimit < plan.steps.length ∨ limits.recoveryBranchLimit < plan.recoveryPlans.length ∨
    ∃ branch ∈ plan.recoveryPlans, limits.recoveryStepLimit < branch.steps.length

def AgentStep.executes (action : String) (step : AgentStep) : Bool :=
  step.action = action && step.status ≠ "policy_violation"

structure AllowedAccess (env : AgentEnvironment)
    (limits : AgentContext) (step : AgentStep) : Prop where
  memory : step.action = "memory_read" → step.output.isSome = true →
    Json.pyStrOrEmpty env.text.render (step.input.get? "memory_id") ∈
      limits.allowedMemoryIds
  tool : step.action = "tool" → step.output.isSome = true →
    Json.pyStrOrEmpty env.text.render (step.input.get? "tool_name") ∈
      limits.allowedTools

structure BoundedTrace (env : AgentEnvironment)
    (limits : AgentContext) (payload : Option Json)
    (trace : AgentExecutionTrace) : Prop where
  steps : trace.steps.length ≤ limits.executionStepLimit
  replans : trace.replans.length ≤ limits.replanLimit
  actions : ∀ action limit, actionLimit limits action = some limit →
    trace.steps.countP (AgentStep.executes action) ≤ limit
  access : ∀ step ∈ trace.steps, AllowedAccess env limits step
  numbered : trace.steps.map AgentStep.stepIndex =
    List.range trace.steps.length
  oversized : ∀ plan, parsePlan env.text payload = .ok plan →
    OversizedPlan limits plan → trace.steps = []

section Recorded

variable {env : AgentEnvironment} {externalCaseId : String}
  {prep : AgentPreparation}

theorem actionCount_le_of_no_violation {call : StepCall} {limit : Nat}
    (allowed : stepViolations env prep call = []) (limited : actionLimit prep.agentContext
      (call.plannedText env "action") = some limit) :
    call.actionCount ≤ limit := by
  simp only [stepViolations, List.append_eq_nil_iff, limited] at allowed
  have counted := allowed.1.1.2
  by_contra exceeds
  rw [if_pos (by omega)] at counted
  cases counted

theorem executes_lt_of_recorded {before : List AgentStep} {step : AgentStep}
    {action : String} {limit : Nat}
    (limited : actionLimit prep.agentContext action = some limit)
    (recorded : Recorded env externalCaseId prep before step)
    (executes : step.executes action = true) :
    before.countP (AgentStep.executes action) < limit := by
  simp only [AgentStep.executes, Bool.and_eq_true, decide_eq_true_eq] at executes
  have answered := recorded.executed
  have actionEq : Json.pyStrOrEmpty env.text.render
      (step.input.get? "action") = action := by
    have answers : step.unmarked.action = _ :=
      answered ▸ answersCall_executeAgentStep.action
    exact answers.symm.trans executes.1
  have allowed : stepViolations env prep (callAfter env
      prep.contract before step.input step.parentStepIndex) = [] := by
    apply stepViolations_eq_nil
    rw [← answered]
    exact executes.2
  have counted : actionCount before (Json.pyStrOrEmpty env.text.render
      (step.input.get? "action")) + 1 ≤ limit := by
    refine actionCount_le_of_no_violation allowed ?_
    exact (congrArg (actionLimit prep.agentContext) actionEq).trans limited
  have fewer : before.countP (AgentStep.executes action) ≤ actionCount before action := by
    apply List.countP_mono_left
    intro earlier _ earlierExecutes
    simp only [AgentStep.executes, Bool.and_eq_true] at earlierExecutes
    exact earlierExecutes.1
  rw [actionEq] at counted
  omega

theorem executeAgentStep_allowedAccess {call : StepCall} : AllowedAccess env prep.agentContext
      (executeAgentStep env externalCaseId prep call) := by
  have inputEq : (executeAgentStep env externalCaseId prep
      call).input = call.planned := answersCall_executeAgentStep.input
  have other : ∀ {step : AgentStep}, step.action ≠ "memory_read" →
      step.action ≠ "tool" →
      AllowedAccess env prep.agentContext step :=
    fun notRead notTool =>
      ⟨fun read => absurd read notRead, fun tool => absurd tool notTool⟩
  have nothing : ∀ {step : AgentStep}, step.output = none →
      AllowedAccess env prep.agentContext step := by
    intro step noOutput
    constructor <;>
    · intro _ some
      rw [noOutput] at some
      cases some
  apply executeAgentStep_cases
  case refused => exact fun _ => nothing rfl
  case unsupported => exact fun _ => nothing rfl
  case approvalCheckpoint =>
    intro _ _
    refine other ?_ ?_ <;>
    · rw [answersCall_executeApprovalCheckpoint.action]
      decide
  case memoryWrite =>
    intro _ _
    refine other ?_ ?_ <;>
    · rw [answersCall_executeMemoryWrite.action]
      decide
  case retrieve =>
    intro _ _
    refine other ?_ ?_ <;>
    · rw [answersCall_executeRetrieval.action]
      decide
  case respond =>
    intro _ _
    refine other ?_ ?_ <;>
    · rw [answersCall_executeResponse.action]
      decide
  case memoryRead =>
    intro _ _
    simp only [executeMemoryRead]
    split
    · next allowed =>
        refine ⟨fun _ _ => ?_, fun tool => ?_⟩
        · exact List.contains_iff_mem.mp allowed
        · exact absurd tool (show "memory_read" ≠ "tool" by decide)
    · exact nothing rfl
  case tool =>
    intro _ _
    simp only [executeToolAction]
    split
    · exact nothing rfl
    · next allowed =>
        refine ⟨fun read => ?_, fun _ _ => ?_⟩
        · exact absurd read (show "tool" ≠ "memory_read" by decide)
        · have contained : prep.agentContext.allowedTools.contains
              (call.plannedText env "tool_name") = true := by
            simpa using allowed
          exact List.contains_iff_mem.mp contained

end Recorded

section Executions

variable {env : AgentEnvironment} {externalCaseId : String}
  {payload : Option Json} {prep : AgentPreparation}
  {callback : Option AgentLiveReplanCallback}

theorem executeAgentPlan_actions {action : String} {limit : Nat}
    (limited : actionLimit prep.agentContext action = some limit) :
    (executeAgentPlan env externalCaseId payload prep
      callback).steps.countP (AgentStep.executes action) ≤ limit :=
  executeAgentPlan_recorded.countP_le (fun _ _ recorded executes =>
    executes_lt_of_recorded limited recorded executes)

theorem executeAgentPlan_access {step : AgentStep}
    (mem : step ∈ (executeAgentPlan env externalCaseId payload prep callback).steps) :
    AllowedAccess env prep.agentContext step := by
  obtain ⟨before, _, recorded⟩ := executeAgentPlan_recorded.of_mem mem
  have access : AllowedAccess env prep.agentContext
      step.unmarked := recorded.executed ▸ executeAgentStep_allowedAccess
  exact ⟨access.memory, access.tool⟩

theorem executeAgentPlan_numbered : (executeAgentPlan env externalCaseId payload prep
        callback).steps.map AgentStep.stepIndex =
      List.range (executeAgentPlan env externalCaseId payload prep callback).steps.length := by
  apply EachStep.map_eq_range
  refine executeAgentPlan_recorded.mono (fun before step recorded => ?_)
  have answered : step.unmarked.stepIndex = _ :=
    recorded.executed ▸ answersCall_executeAgentStep.stepIndex
  exact answered

theorem executeAgentPlan_oversized {plan : ParsedPlan}
    (parsed : parsePlan env.text payload = .ok plan)
    (oversized : OversizedPlan prep.agentContext plan) :
    (executeAgentPlan env externalCaseId payload prep callback).steps = [] := by
  apply executeAgentPlan_outcomes (motive := fun trace => trace.steps = [])
  · intro _ _ _ _ _ _ _ _
    rfl
  · intro other otherParsed accepted
    obtain rfl := Except.ok.inj (parsed.symm.trans otherParsed)
    rcases oversized with steps | branches | ⟨branch, mem, branchSteps⟩
    · have stepsLe := accepted.stepsLe
      omega
    · have branchesLe := accepted.branchesLe
      omega
    · have branchStepsLe := accepted.branchStepsLe branch mem
      omega

theorem runPlan_liveReplanCallCount_le (plan : ParsedPlan) :
    (runPlan (planContext env externalCaseId prep plan callback)
      plan.steps 0 PlanProgress.initial).liveReplanCallCount ≤ 1 := by
  obtain ⟨_, _, onCourse⟩ := planRun_onCourse plan
  exact onCourse.liveCallsLe

end Executions

theorem executeAgentPlan_lengths_le (env : AgentEnvironment) (externalCaseId : String)
    (payload : Option Json) {prep : AgentPreparation} (callback : Option AgentLiveReplanCallback)
    (limitEq : prep.agentContext.executionStepLimit = prep.agentContext.stepLimit +
        prep.agentContext.recoveryStepLimit)
    (replanLimitLe : prep.agentContext.replanLimit ≤ 1) :
    (executeAgentPlan env externalCaseId payload prep callback).steps.length ≤
      prep.agentContext.executionStepLimit ∧
    (executeAgentPlan env externalCaseId payload prep
        callback).replans.length ≤ prep.agentContext.replanLimit := by
  apply executeAgentPlan_outcomes (motive := fun trace =>
    trace.steps.length ≤ prep.agentContext.executionStepLimit ∧
      trace.replans.length ≤ prep.agentContext.replanLimit)
  · intro _ _ _ _ _ _ _ _
    exact ⟨Nat.zero_le _, Nat.zero_le _⟩
  · intro plan _ accepted
    obtain ⟨reached, reachedLe, onCourse⟩ := planRun_onCourse plan
    refine ⟨?_, onCourse.replansLe⟩
    have stepsLe := accepted.stepsLe
    have recordedLe := onCourse.stepsLe
    have recoveryLe := Nat.mul_le_mul_left prep.agentContext.recoveryStepLimit
      (onCourse.replansLe.trans replanLimitLe)
    rw [limitEq]
    calc (finishedTrace externalCaseId _ _ _ _).steps.length
        ≤ reached + prep.agentContext.recoveryStepLimit * _ := recordedLe
      _ ≤ prep.agentContext.stepLimit +
          prep.agentContext.recoveryStepLimit := by omega

/-- A prepared execution keeps its limits, and calls the live callback at most
once. -/
theorem boundedTrace_of_prepared (env : PreparationEnvironment) (evalCase : EvaluationCase)
    (decisions : Option Json) (payload : Option Json)
    (callback : Option AgentLiveReplanCallback)
    {prep : AgentPreparation}
    (prepared : prepareAgentExecution env evalCase decisions = some prep) :
    prep.agentContext.executionStepLimit = prep.agentContext.stepLimit +
          prep.agentContext.recoveryStepLimit ∧
    BoundedTrace env.toAgentEnvironment prep.agentContext payload
      (executeAgentPlan env.toAgentEnvironment evalCase.externalCaseId payload prep callback) ∧
    ∀ plan, parsePlan env.text payload = .ok plan → (runPlan (planContext env.toAgentEnvironment
          evalCase.externalCaseId prep plan callback)
        plan.steps 0 PlanProgress.initial).liveReplanCallCount ≤ 1 := by
  have contextEq : prep.agentContext = agentContext env (agentContract evalCase) := by
    rw [prepareAgentExecution_eq_some prepared]
  have limitEq : prep.agentContext.executionStepLimit = prep.agentContext.stepLimit +
        prep.agentContext.recoveryStepLimit := by
    rw [contextEq]
    rfl
  have replanLimitLe : prep.agentContext.replanLimit ≤ 1 := by
    rw [contextEq]
    exact agentContext_replanLimit_le _
  have lengths := executeAgentPlan_lengths_le env.toAgentEnvironment
    evalCase.externalCaseId payload callback limitEq replanLimitLe
  exact ⟨limitEq,
    { steps := lengths.1
      replans := lengths.2
      actions := fun _ _ limited => executeAgentPlan_actions limited
      access := fun _ mem => executeAgentPlan_access mem
      numbered := executeAgentPlan_numbered
      oversized := fun _ parsed oversized =>
        executeAgentPlan_oversized parsed oversized },
    fun plan _ => runPlan_liveReplanCallCount_le plan⟩

def recoverableCase : EvaluationCase where
  externalCaseId := "case"
  category := "agent"
  reference := .obj [("agent", .obj
    [("allowed_actions", .arr [.str "memory_read", .str "respond"]),
      ("allowed_memory_ids", .arr [.str "runbook"]),
      ("allow_replanning", .bool true),
      ("allow_live_replanning", .bool true)])]

def recoverablePlan : Json :=
  .obj [("steps", .arr
    [.obj [("action", .str "memory_read"), ("memory_id", .str "missing")],
      .obj [("action", .str "respond"), ("content", .str "done")]])]

def recoverablePreparation : AgentPreparation :=
  (prepareAgentExecution smallEnvironment recoverableCase none).get (by rfl)

def runbookCallback : AgentLiveReplanCallback :=
  fun _ => .response
    [.obj [("action", .str "memory_read"), ("memory_id", .str "runbook")]] .null

theorem boundedTrace_of_prepared_recovered :
    (executeAgentPlan smallEnvironment.toAgentEnvironment "case"
      (some recoverablePlan) recoverablePreparation
      (some runbookCallback)).steps.map AgentStep.status =
        ["failed", "success", "success"] ∧
    BoundedTrace smallEnvironment.toAgentEnvironment
      recoverablePreparation.agentContext (some recoverablePlan)
      (executeAgentPlan smallEnvironment.toAgentEnvironment "case"
        (some recoverablePlan) recoverablePreparation
        (some runbookCallback)) :=
  ⟨by decide, (boundedTrace_of_prepared smallEnvironment recoverableCase none
    (some recoverablePlan) (some runbookCallback)
    (Option.some_get _).symm).2.1⟩

end ModelAtlas.Agent
