import ModelAtlas.Agent.Replans
import ModelAtlas.Agent.SuccessfulSteps

/-!
# Successful traces

A successful plan was executed to its end over quiet steps, and a step that
failed is the one that was recovered.
-/

namespace ModelAtlas.Agent

open Foundations Approval

def runTrace (ctx : PlanContext) (plan : ParsedPlan) (prog : PlanProgress) : AgentExecutionTrace :=
  finishedTrace ctx.externalCaseId ctx.preparation.agentContext
    (expectedActions ctx.env.text (expectedSteps ctx.preparation.contract))
    (actualActions ctx.env.text plan.steps) prog

structure ReportsSuccess (ctx : PlanContext) (plan : ParsedPlan)
    (prog : PlanProgress) : Prop where
  someStep : prog.executedSteps ≠ []
  sequenceMatch : actionsMatch
    (expectedActions ctx.env.text
      (expectedSteps ctx.preparation.contract))
    (actualActions ctx.env.text plan.steps) = true
  noViolation : policyViolationCount true prog = 0
  recoveryMatch : recoverySequenceMatch prog.replanEvents ≠ some false
  recovered : ∀ step ∈ prog.executedSteps, step.successful = false →
    step.recoveredByReplan = true
  response : ∃ step ∈ prog.executedSteps, step.isFinalResponse = true
  haltReason : prog.haltReason = none

theorem reportsSuccess_of_successful {ctx : PlanContext} {plan : ParsedPlan} {prog : PlanProgress}
    (successful : (runTrace ctx plan prog).successful = true) :
    ReportsSuccess ctx plan prog := by
  simp only [runTrace, finishedTrace, Bool.and_eq_true, decide_eq_true_eq,
    Bool.not_eq_true', List.isEmpty_eq_false_iff, List.any_eq_true,
    Option.isNone_iff_eq_none] at successful
  obtain ⟨⟨⟨⟨someStep, ⟨sequenceMatch, noViolation⟩, recoveryMatch⟩,
    noneUnrecovered⟩, response⟩, haltReason⟩ := successful
  rw [sequenceMatch] at noViolation
  refine ⟨someStep, sequenceMatch, noViolation, recoveryMatch, ?_, response, haltReason⟩
  intro step mem failed
  have notUnrecovered := List.any_eq_false.mp noneUnrecovered step mem
  simpa [AgentStep.isUnrecovered, failed] using notUnrecovered

structure SuccessfulRun (ctx : PlanContext) (plan : ParsedPlan)
    (prog : PlanProgress) : Prop
    extends ReportsSuccess ctx plan prog where
  faithful : Faithful ctx prog
  quiet : AllQuiet prog.executedSteps
  replanState : ReplanState prog
  replansLe : prog.replanEvents.length ≤
    ctx.preparation.agentContext.replanLimit
  stepsLe : prog.executedSteps.length ≤
    ctx.preparation.agentContext.stepLimit +
      ctx.preparation.agentContext.recoveryStepLimit
  planStepsLe : (planSteps prog.executedSteps).length ≤
    ctx.preparation.agentContext.stepLimit
  planInputs : planInputs prog.executedSteps = plan.steps
  objects : ∀ step ∈ prog.executedSteps, step.input.isObject = true

theorem parsePlan_objects {text : TextEnvironment} {payload : Option Json}
    {plan : ParsedPlan} (parsed : parsePlan text payload = .ok plan) :
    ∀ step ∈ plan.steps, step.isObject = true := by
  simp only [parsePlan] at parsed
  split at parsed
  · cases parsed
  split at parsed
  · cases parsed
  split at parsed
  · next steps stepsEq =>
      split at parsed
      · cases parsed
      next allObjects =>
      split at parsed
      · next branches branchesEq =>
          cases read : branches.mapM (parseRecoveryBranch text steps.length) with
          | error parseError =>
            rw [read] at parsed
            cases parsed
          | ok recoveryPlans =>
            rw [read] at parsed
            cases parsed
            have all : steps.all Json.isObject = true := by
              simpa using allObjects
            exact List.all_eq_true.mp all
      · cases parsed
  · cases parsed

theorem mem_planSteps_or_recoverySteps {steps : List AgentStep}
    {step : AgentStep} (mem : step ∈ steps) :
    step ∈ planSteps steps ∨ step ∈ recoverySteps steps := by
  by_cases noParent : step.parentStepIndex = none
  · exact Or.inl (List.mem_filter.mpr ⟨mem, by simp [noParent]⟩)
  · exact Or.inr (List.mem_filter.mpr ⟨mem, by simp [noParent]⟩)

theorem objects_of_planInputs {steps : List Json} {prog : PlanProgress}
    (objects : ∀ step ∈ steps, step.isObject = true)
    (inputs : planInputs prog.executedSteps = steps) (state : ReplanState prog) :
    ∀ step ∈ prog.executedSteps, step.input.isObject = true := by
  intro step mem
  rcases mem_planSteps_or_recoverySteps mem with planned | recovery
  · apply objects
    rw [← inputs]
    exact List.mem_map_of_mem planned
  · rcases state with none | ⟨event, triggered, once⟩
    · rw [none.noRecovery] at recovery
      cases recovery
    · exact once.objects step recovery

section Recorded

variable {env : AgentEnvironment} {externalCaseId : String}
  {prep : AgentPreparation} {before : List AgentStep} {step : AgentStep}

theorem Recorded.answers (recorded : Recorded env externalCaseId prep before step) :
    AnswersCall env (callAfter env prep.contract before step.input step.parentStepIndex)
      (actionText env.text step.input) step.unmarked :=
  recorded.executed ▸ answersCall_executeAgentStep

theorem Recorded.phase_eq (recorded : Recorded env externalCaseId prep before step) :
    step.phase = phaseOf step.parentStepIndex :=
  recorded.answers.phase

theorem Recorded.action_eq (recorded : Recorded env externalCaseId prep before step) :
    step.action = actionText env.text step.input :=
  recorded.answers.action

theorem Recorded.not_refused (recorded : Recorded env externalCaseId prep before step)
    (noViolation : step.policyViolations = []) :
    stepViolations env prep (callAfter env
      prep.contract before step.input step.parentStepIndex) = [] := by
  by_contra violated
  have refused := recorded.executed
  simp only [executeAgentStep] at refused
  rw [if_pos (by simpa using violated)] at refused
  have sameViolations := congrArg AgentStep.policyViolations refused
  exact violated (sameViolations.symm.trans noViolation)

theorem Recorded.action_allowed (recorded : Recorded env externalCaseId prep before step)
    (noViolation : step.policyViolations = []) :
    step.action ∈ prep.agentContext.allowedActions := by
  have noViolations := recorded.not_refused noViolation
  simp only [stepViolations, List.append_eq_nil_iff] at noViolations
  have allowed := noViolations.1.1.1.1
  rw [recorded.action_eq]
  by_contra notAllowed
  have refused : (!prep.agentContext.allowedActions.contains
      ((callAfter env prep.contract before step.input
        step.parentStepIndex).plannedText env "action")) = true := by
    rw [Bool.not_eq_true', List.contains_eq_mem, decide_eq_false_iff_not]
    exact notAllowed
  rw [if_pos refused] at allowed
  cases allowed

theorem Recorded.successfulStatus (recorded : Recorded env externalCaseId prep before step)
    (successful : step.successful = true) : SuccessfulStatus step := by
  have status : SuccessfulStatus step.unmarked := by
    rw [recorded.executed]
    apply executeAgentStep_successfulStatus
    rw [← recorded.executed]
    exact successful
  exact ⟨status.status, status.noViolation⟩

end Recorded

section DefaultTools

variable {env : AgentEnvironment} {externalCaseId : String}
  {prep : AgentPreparation} {before : List AgentStep} {step : AgentStep}

theorem Recorded.shape (recorded : Recorded env.withDefaultTools.toAgentEnvironment
      externalCaseId prep before step) : StepShape step := by
  have shape : StepShape step.unmarked := by
    rw [recorded.executed]
    exact stepShape_executeAgentStep
  exact ⟨shape.output, shape.approved⟩

theorem Recorded.success (recorded : Recorded env.withDefaultTools.toAgentEnvironment
      externalCaseId prep before step)
    (hashes : HashesToText env)
    (verified : VerifiedDecisions prep.approvalDecisions)
    (successful : step.successful = true) :
    SuccessfulStep env prep.agentContext (callAfter env.withDefaultTools.toAgentEnvironment
        prep.contract before step.input step.parentStepIndex) step := by
  have facts : SuccessfulStep env prep.agentContext
      (callAfter env.withDefaultTools.toAgentEnvironment
        prep.contract before step.input step.parentStepIndex)
      step.unmarked := by
    rw [recorded.executed]
    apply successfulStep_executeAgentStep hashes verified
    rw [← recorded.executed]
    exact successful
  exact ⟨facts.errorType, facts.memory, facts.approval, facts.tool, facts.respond⟩

end DefaultTools

section Run

variable {ctx : PlanContext} {plan : ParsedPlan} {prog : PlanProgress}

theorem successfulRun_of_reported (records : RecordsObjects ctx.callback)
    (replanLimitLe : ctx.preparation.agentContext.replanLimit ≤ 1)
    (objects : ∀ step ∈ plan.steps, step.isObject = true)
    (stepsLe : plan.steps.length ≤ ctx.preparation.agentContext.stepLimit)
    (reported : ReportsSuccess ctx plan (runPlan ctx plan.steps 0 PlanProgress.initial)) :
    SuccessfulRun ctx plan (runPlan ctx plan.steps 0 PlanProgress.initial) := by
  have running := reported.haltReason
  have start : OnCourse ctx 0 PlanProgress.initial := onCourse_initial
  obtain ⟨reached, reachedLe, onCourse⟩ :=
    runPlan_onCourse plan.steps 0 PlanProgress.initial start rfl
  have state := runPlan_replanState records replanLimitLe plan.steps 0
    PlanProgress.initial start rfl replanState_initial running
  have inputs : planInputs (runPlan ctx plan.steps 0
      PlanProgress.initial).executedSteps = plan.steps :=
    (runPlan_planInputs plan.steps 0 PlanProgress.initial running).trans (List.nil_append _)
  generalize runPlan ctx plan.steps 0 PlanProgress.initial = prog
    at reported running onCourse state inputs ⊢
  have planStepsEq : (planSteps prog.executedSteps).length =
      plan.steps.length := by
    rw [← inputs, planInputs, List.length_map]
  refine
    { reported with
      faithful := onCourse.faithful
      quiet := onCourse.quietWhileRunning running
      replanState := state
      replansLe := onCourse.replansLe
      stepsLe := ?_
      planStepsLe := planStepsEq.trans_le stepsLe
      planInputs := inputs
      objects := objects_of_planInputs objects inputs state }
  have historyLe := onCourse.stepsLe
  have replansLe := onCourse.replansLe
  have recoveriesLe : ctx.preparation.agentContext.recoveryStepLimit * prog.replanEvents.length ≤
        ctx.preparation.agentContext.recoveryStepLimit * 1 :=
    Nat.mul_le_mul_left _ (by omega)
  omega

theorem SuccessfulRun.phase_eq (run : SuccessfulRun ctx plan prog)
    {step : AgentStep} (mem : step ∈ prog.executedSteps) :
    step.phase = phaseOf step.parentStepIndex := by
  obtain ⟨before, _, recorded⟩ := run.faithful.recorded.of_mem mem
  exact recorded.phase_eq

theorem SuccessfulRun.action_eq (run : SuccessfulRun ctx plan prog)
    {step : AgentStep} (mem : step ∈ prog.executedSteps) :
    step.action = actionText ctx.env.text step.input := by
  obtain ⟨before, _, recorded⟩ := run.faithful.recorded.of_mem mem
  exact recorded.action_eq

end Run

section Trace

variable {env : AgentEnvironment} {externalCaseId : String}
  {payload : Option Json} {prep : AgentPreparation}
  {callback : Option AgentLiveReplanCallback}

theorem executeAgentPlan_successful (records : RecordsObjects callback)
    (replanLimitLe : prep.agentContext.replanLimit ≤ 1) :
    (executeAgentPlan env externalCaseId payload prep callback).successful = true →
      ∃ plan prog, SuccessfulRun (planContext env externalCaseId prep plan callback) plan prog ∧
        executeAgentPlan env externalCaseId payload prep callback =
          runTrace (planContext env externalCaseId prep plan callback) plan prog := by
  apply executeAgentPlan_outcomes (motive := fun trace =>
    trace.successful = true → ∃ plan prog,
      SuccessfulRun (planContext env externalCaseId prep plan callback) plan prog ∧
      trace = runTrace (planContext env externalCaseId prep plan callback) plan prog)
  case rejected =>
    intro expected actual parseValid parseError status haltReason stepCount _ successful
    cases successful
  case executed =>
    intro plan parsed accepted successful
    refine ⟨plan, _, ?_, rfl⟩
    exact successfulRun_of_reported records replanLimitLe (parsePlan_objects parsed)
      accepted.stepsLe (reportsSuccess_of_successful successful)

end Trace

end ModelAtlas.Agent
