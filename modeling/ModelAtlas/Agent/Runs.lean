import ModelAtlas.Agent.History

/-!
# Runs of a plan

Both loops of `execute_agent_plan` keep the variables of the executor equal to
what its history says they are, and go on over quiet steps only.
-/

namespace ModelAtlas.Agent

open Foundations Approval

variable {index : Nat} {steps : List AgentStep} {step : AgentStep} {reason : String}
  {event : ReplanEvent} {parentStepIndex : Option Nat}

/-- The variables are what the executed steps say, and every executed step is
recorded. -/
structure Faithful (ctx : PlanContext) (prog : PlanProgress) : Prop where
  recorded : EachStep (Recorded ctx.env ctx.externalCaseId
    ctx.preparation) prog.executedSteps
  actionCounts : ∀ action, prog.actionCounts action =
    actionCount prog.executedSteps action
  priorOutputs : prog.priorOutputs = outputsAfter prog.executedSteps
  approvedCheckpointIds : prog.approvedCheckpointIds =
    approvedAfter ctx.env prog.executedSteps

def AllQuiet (steps : List AgentStep) : Prop :=
  ∀ step ∈ steps, step.Quiet

/-- The next step of the plan has this index: so many steps of the plan were
executed, and recoveries for them only. -/
structure AtIndex (index : Nat) (steps : List AgentStep) : Prop where
  planned : childCount steps none = index
  recovered : ∀ step ∈ steps, ∀ trigger,
    step.parentStepIndex = some trigger → trigger < index

theorem faithful_initial (ctx : PlanContext) : Faithful ctx PlanProgress.initial where
  recorded := EachStep.nil
  actionCounts _ := rfl
  priorOutputs := rfl
  approvedCheckpointIds := rfl

theorem atIndex_initial : AtIndex 0 [] where
  planned := rfl
  recovered step mem := by cases mem

theorem AtIndex.childCount_eq_zero
    (atIndex : AtIndex index steps) {trigger : Nat} (later : index ≤ trigger) :
    childCount steps (some trigger) = 0 := by
  rw [childCount, List.countP_eq_zero]
  intro step mem isChild
  have below := atIndex.recovered step mem trigger (of_decide_eq_true isChild)
  omega

theorem AtIndex.plan (atIndex : AtIndex index steps) (noParent : step.parentStepIndex = none) :
    AtIndex (index + 1) (steps ++ [step]) where
  planned := by
    rw [childCount, List.countP_append, ← childCount, atIndex.planned]
    simp [noParent]
  recovered other mem trigger parent := by
    rcases List.mem_append.mp mem with earlier | last
    · have below := atIndex.recovered other earlier trigger parent
      omega
    · rw [List.mem_singleton.mp last, noParent] at parent
      cases parent

theorem AtIndex.recover {trigger : Nat} (atIndex : AtIndex index steps)
    (parentEq : step.parentStepIndex = some trigger) (below : trigger < index) :
    AtIndex index (steps ++ [step]) where
  planned := by
    rw [childCount, List.countP_append, ← childCount, atIndex.planned]
    simp [parentEq]
  recovered other mem other_trigger parent := by
    rcases List.mem_append.mp mem with earlier | last
    · exact atIndex.recovered other earlier other_trigger parent
    · rw [List.mem_singleton.mp last, parentEq] at parent
      cases parent
      exact below

theorem AtIndex.map {change : AgentStep → AgentStep} (keeps : KeepsUnmarked change)
    (atIndex : AtIndex index steps) : AtIndex index (steps.map change) where
  planned := (childCount_map keeps steps none).trans atIndex.planned
  recovered step mem trigger parent := by
    obtain ⟨original, originalMem, rfl⟩ := List.mem_map.mp mem
    rw [keeps.field AgentStep.parentStepIndex (fun _ => rfl)] at parent
    exact atIndex.recovered original originalMem trigger parent

theorem AllQuiet.concat
    (quiet : AllQuiet steps) (last : step.Quiet) : AllQuiet (steps ++ [step]) := by
  intro other mem
  rcases List.mem_append.mp mem with earlier | final
  · exact quiet other earlier
  · rw [List.mem_singleton.mp final]
    exact last

theorem AllQuiet.map {change : AgentStep → AgentStep}
    (keeps : KeepsUnmarked change) (quiet : AllQuiet steps) :
    AllQuiet (steps.map change) := by
  intro step mem
  obtain ⟨original, originalMem, rfl⟩ := List.mem_map.mp mem
  exact (quiet original originalMem).marked keeps

section Runs

variable {ctx : PlanContext} {prog : PlanProgress}

theorem Faithful.halt (faithful : Faithful ctx prog) : Faithful ctx (prog.halt reason) :=
  ⟨faithful.recorded, faithful.actionCounts, faithful.priorOutputs, faithful.approvedCheckpointIds⟩

theorem Faithful.addEvent (faithful : Faithful ctx prog) : Faithful ctx (prog.addEvent event) :=
  ⟨faithful.recorded, faithful.actionCounts, faithful.priorOutputs, faithful.approvedCheckpointIds⟩

theorem Faithful.markRecovered {stepIndex : Nat} (faithful : Faithful ctx prog) :
    Faithful ctx (prog.markRecovered stepIndex) where
  recorded := faithful.recorded.map (fun _ _ recorded =>
    recorded.map (keepsUnmarked_markRecovered stepIndex))
  actionCounts action := (faithful.actionCounts action).trans
    (actionCount_map (keepsUnmarked_markRecovered stepIndex) _ action).symm
  priorOutputs := faithful.priorOutputs.trans
    (outputsAfter_map (keepsUnmarked_markRecovered stepIndex) _).symm
  approvedCheckpointIds := faithful.approvedCheckpointIds.trans (approvedAfter_map ctx.env
      (keepsUnmarked_markRecovered stepIndex) _).symm

structure Performed (ctx : PlanContext) (prog : PlanProgress)
    (planned : Json) (parentStepIndex : Option Nat) (next : PlanProgress)
    (step : AgentStep) : Prop where
  faithful : Faithful ctx next
  executedSteps : next.executedSteps = prog.executedSteps ++ [step]
  answer : step = executeAgentStep ctx.env ctx.externalCaseId
    ctx.preparation (callAfter ctx.env
      ctx.preparation.contract prog.executedSteps planned
      parentStepIndex)
  replanEvents : next.replanEvents = prog.replanEvents
  liveReplanCallCount :
    next.liveReplanCallCount = prog.liveReplanCallCount
  haltReason : next.haltReason = prog.haltReason

theorem actionCount_concat (steps : List AgentStep) (step : AgentStep) (action : String) :
    actionCount (steps ++ [step]) action =
      actionCount steps action + if step.action = action then 1 else 0 := by
  rw [actionCount, List.countP_append, List.countP_singleton, actionCount]
  simp

theorem outputsAfter_concat (steps : List AgentStep) (step : AgentStep) :
    outputsAfter (steps ++ [step]) = outputsAfter steps ++ outputsAfter [step] :=
  List.filterMap_append

theorem approvedAfter_concat (env : AgentEnvironment) (steps : List AgentStep) (step : AgentStep) :
    approvedAfter env (steps ++ [step]) = recordApprovedCheckpoint env (approvedAfter env steps)
        step := by
  rw [approvedAfter, List.foldl_append]
  rfl

theorem record_priorOutputs (env : AgentEnvironment) (step : AgentStep) :
    (prog.record env step).priorOutputs = prog.priorOutputs ++ outputsAfter [step] := by
  simp only [PlanProgress.record, outputsAfter]
  cases successful : step.successful
  · simp [successful]
  · cases output : step.output with
    | none => simp [output]
    | some value =>
      by_cases object : value.isObject = true
      · simp [successful, output, object]
      · simp [successful, output, object]

theorem executePlanned_eq {expected : Option Json} {phase : String} (planned : Json)
    (faithful : Faithful ctx prog)
    (expectedEq : expected = matchingExpected ctx.preparation.contract
      prog.executedSteps parentStepIndex)
    (phaseEq : phase = phaseOf parentStepIndex) :
    executePlanned ctx (prog.counting (Json.pyStrOrEmpty
        ctx.env.text.render (planned.get? "action"))) planned
        expected phase parentStepIndex =
      executeAgentStep ctx.env ctx.externalCaseId ctx.preparation (callAfter ctx.env
          ctx.preparation.contract prog.executedSteps planned
          parentStepIndex) := by
  rw [executePlanned, expectedEq, phaseEq]
  congr 1
  simp only [PlanProgress.counting, callAfter, faithful.priorOutputs,
    faithful.approvedCheckpointIds, if_true]
  rw [faithful.actionCounts]

theorem recorded_of_answer {env : AgentEnvironment} {externalCaseId : String}
    {prep : AgentPreparation} {before : List AgentStep} {planned : Json} (quiet : AllQuiet before)
    (answer : step = executeAgentStep env externalCaseId prep
      (callAfter env prep.contract before planned parentStepIndex)) :
    Recorded env externalCaseId prep before step := by
  have answers : AnswersCall env (callAfter env prep.contract before planned
        parentStepIndex) _ step := answer ▸ answersCall_executeAgentStep
  have unmarkedEq : step.unmarked = step := by
    rw [AgentStep.unmarked, ← answers.recoveredByReplan]
  have inputEq : step.input = planned := answers.input
  have parentEq : step.parentStepIndex = parentStepIndex :=
    answers.parentStepIndex
  refine ⟨?_, quiet⟩
  rw [unmarkedEq, inputEq, parentEq]
  exact answer

theorem performPlanned_performed {expected : Option Json} {phase : String} (planned : Json)
    (faithful : Faithful ctx prog) (quiet : AllQuiet prog.executedSteps)
    (expectedEq : expected = matchingExpected ctx.preparation.contract
      prog.executedSteps parentStepIndex)
    (phaseEq : phase = phaseOf parentStepIndex) :
    Performed ctx prog planned parentStepIndex
      (performPlanned ctx prog planned expected phase parentStepIndex).1
      (performPlanned ctx prog planned expected phase parentStepIndex).2 := by
  have answer : (performPlanned ctx prog planned expected phase
      parentStepIndex).2 = executeAgentStep ctx.env ctx.externalCaseId ctx.preparation (callAfter
          ctx.env ctx.preparation.contract
          prog.executedSteps planned parentStepIndex) :=
    executePlanned_eq planned faithful expectedEq phaseEq
  have actionEq : (performPlanned ctx prog planned expected phase
      parentStepIndex).2.action = Json.pyStrOrEmpty
        ctx.env.text.render (planned.get? "action") := by
    rw [answer]
    exact answersCall_executeAgentStep.action
  refine ⟨⟨?_, ?_, ?_, ?_⟩, rfl, answer, rfl, rfl, rfl⟩
  · exact faithful.recorded.concat (recorded_of_answer quiet answer)
  · intro action
    have before := faithful.actionCounts action
    have counted := actionCount_concat prog.executedSteps
      (performPlanned ctx prog planned expected phase parentStepIndex).2 action
    rw [actionEq, ← before] at counted
    refine Eq.trans ?_ counted.symm
    simp only [performPlanned, PlanProgress.record, PlanProgress.counting]
    split
    · next same => rw [if_pos same.symm, same]
    · next other => rw [if_neg (Ne.symm other), Nat.add_zero]
  · exact (record_priorOutputs ctx.env _).trans ((congrArg (· ++ _) faithful.priorOutputs).trans
        (outputsAfter_concat prog.executedSteps _).symm)
  · exact (congrArg (recordApprovedCheckpoint ctx.env · _) faithful.approvedCheckpointIds).trans
        (approvedAfter_concat ctx.env prog.executedSteps _).symm

structure RecoveryRan (ctx : PlanContext) (before : RecoveryRun)
    (stepCount trigger : Nat) (after : RecoveryRun) : Prop where
  faithful : Faithful ctx after.progress
  atIndex : AtIndex (trigger + 1) after.progress.executedSteps
  quietOnSuccess : after.successful = true →
    AllQuiet after.progress.executedSteps
  recoverySteps : after.progress.executedSteps.length ≤
    before.progress.executedSteps.length + stepCount
  replanEvents : after.progress.replanEvents = before.progress.replanEvents
  liveReplanCallCount : after.progress.liveReplanCallCount =
    before.progress.liveReplanCallCount

theorem runRecovery_ran (trigger : Nat) (steps : List Json)
    (recoveryIndex : Nat) (run : RecoveryRun)
    (faithful : Faithful ctx run.progress)
    (atIndex : AtIndex (trigger + 1) run.progress.executedSteps)
    (quiet : AllQuiet run.progress.executedSteps)
    (aligned : childCount run.progress.executedSteps (some trigger) = recoveryIndex) :
    RecoveryRan ctx run steps.length trigger (runRecovery ctx
      (expectedRecoverySteps ctx.preparation.contract trigger) trigger
      steps recoveryIndex run) := by
  induction steps generalizing recoveryIndex run with
  | nil => exact ⟨faithful, atIndex, fun _ => quiet, le_rfl, rfl, rfl⟩
  | cons recoveryStep rest ih =>
    rw [runRecovery]
    split
    · exact ⟨faithful, atIndex, fun _ => quiet, Nat.le_add_right _ _, rfl, rfl⟩
    split
    · exact ⟨faithful.halt, atIndex, fun _ => quiet, Nat.le_add_right _ _, rfl,
        rfl⟩
    simp only
    have expectedEq : (expectedRecoverySteps ctx.preparation.contract
        trigger)[recoveryIndex]? = matchingExpected
          ctx.preparation.contract run.progress.executedSteps
          (some trigger) := by
      rw [matchingExpected, aligned]
    have performed := performPlanned_performed recoveryStep faithful quiet
      expectedEq (show "recovery" = phaseOf (some trigger) from rfl)
    generalize performPlanned ctx run.progress recoveryStep
      (expectedRecoverySteps ctx.preparation.contract
        trigger)[recoveryIndex]? "recovery" (some trigger) = outcome
      at performed ⊢
    have parentEq : outcome.2.parentStepIndex = some trigger := by
      rw [performed.answer]
      exact answersCall_executeAgentStep.parentStepIndex
    have nextAtIndex := atIndex.recover parentEq (Nat.lt_succ_self trigger)
    rw [← performed.executedSteps] at nextAtIndex
    split
    · next successful =>
        -- The loop goes on over a successful step only, which is quiet.
        have stepQuiet := (executeAgentStep_successfulStatus (performed.answer ▸ successful)).quiet
        rw [← performed.answer] at stepQuiet
        have nextQuiet := quiet.concat stepQuiet
        rw [← performed.executedSteps] at nextQuiet
        have nextAligned : childCount outcome.1.executedSteps (some trigger) =
            recoveryIndex + 1 := by
          rw [performed.executedSteps, childCount, List.countP_append, ← childCount, aligned]
          simp [parentEq]
        have ran := ih (recoveryIndex + 1)
          { run with
            progress := outcome.1
            recoveryStepIndices :=
              run.recoveryStepIndices ++ [outcome.2.stepIndex] }
          performed.faithful nextAtIndex nextQuiet nextAligned
        refine ⟨ran.faithful, ran.atIndex, ran.quietOnSuccess, ?_,
          ran.replanEvents.trans performed.replanEvents,
          ran.liveReplanCallCount.trans performed.liveReplanCallCount⟩
        have stepsLe := ran.recoverySteps
        simp only [performed.executedSteps, List.length_append, List.length_singleton] at stepsLe
        rw [List.length_cons]
        omega
    · refine ⟨performed.faithful, nextAtIndex,
        fun completed => absurd completed Bool.false_ne_true, ?_,
        performed.replanEvents, performed.liveReplanCallCount⟩
      rw [performed.executedSteps, List.length_append, List.length_singleton, List.length_cons]
      omega

/-- The history explains the variables, and the replan events and the recovery
steps keep their limits. -/
structure WithinLimits (ctx : PlanContext) (index : Nat)
    (prog : PlanProgress) : Prop where
  faithful : Faithful ctx prog
  atIndex : AtIndex index prog.executedSteps
  stepsLe : prog.executedSteps.length ≤ index +
    ctx.preparation.agentContext.recoveryStepLimit *
      prog.replanEvents.length
  replansLe : prog.replanEvents.length ≤
    ctx.preparation.agentContext.replanLimit
  liveCallsLe : prog.liveReplanCallCount ≤ 1

/-- Where the plan stands between two steps: within its limits, and over quiet
steps while it goes on. -/
structure OnCourse (ctx : PlanContext) (index : Nat)
    (prog : PlanProgress) : Prop
    extends WithinLimits ctx index prog where
  quietWhileRunning : prog.haltReason = none →
    AllQuiet prog.executedSteps

theorem onCourse_initial : OnCourse ctx 0 PlanProgress.initial where
  faithful := faithful_initial ctx
  atIndex := atIndex_initial
  quietWhileRunning _ := by
    intro step mem
    cases mem
  stepsLe := Nat.zero_le _
  replansLe := Nat.zero_le _
  liveCallsLe := Nat.zero_le _

theorem WithinLimits.halt (within : WithinLimits ctx index prog) :
    OnCourse ctx index (prog.halt reason) where
  faithful := within.faithful.halt
  atIndex := within.atIndex
  quietWhileRunning running := by cases running
  stepsLe := within.stepsLe
  replansLe := within.replansLe
  liveCallsLe := within.liveCallsLe

theorem WithinLimits.addEvent {before : PlanProgress} (within : WithinLimits ctx index before)
    (below : before.replanEvents.length < ctx.preparation.agentContext.replanLimit)
    (faithful : Faithful ctx prog) (atIndex : AtIndex index prog.executedSteps)
    (stepsLe : prog.executedSteps.length ≤ before.executedSteps.length +
      ctx.preparation.agentContext.recoveryStepLimit)
    (replanEvents : prog.replanEvents = before.replanEvents)
    (liveCalls : prog.liveReplanCallCount = before.liveReplanCallCount) :
    WithinLimits ctx index (prog.addEvent event) where
  faithful := faithful.addEvent
  atIndex := atIndex
  stepsLe := by
    have earlierLe := within.stepsLe
    simp only [PlanProgress.addEvent, replanEvents, List.length_append,
      List.length_singleton, Nat.mul_add]
    omega
  replansLe := by
    simp only [PlanProgress.addEvent, replanEvents, List.length_append, List.length_singleton]
    omega
  liveCallsLe := liveCalls.trans_le within.liveCallsLe

theorem WithinLimits.reject (within : WithinLimits ctx index prog)
    (below : prog.replanEvents.length < ctx.preparation.agentContext.replanLimit) :
    OnCourse ctx index ((prog.addEvent event).halt reason) :=
  (within.addEvent below within.faithful within.atIndex (Nat.le_add_right _ _)
    rfl rfl).halt

theorem attemptRecovery_onCourse {plan : RecoveryPlan} (onCourse : OnCourse ctx (index + 1) prog)
    (quiet : AllQuiet prog.executedSteps) (fresh : childCount prog.executedSteps (some index) = 0) :
    OnCourse ctx (index + 1) (attemptRecovery ctx prog index step plan) := by
  have within := onCourse.toWithinLimits
  simp only [attemptRecovery]
  split
  · exact onCourse
  next available =>
  have below : prog.replanEvents.length <
      ctx.preparation.agentContext.replanLimit := by omega
  split
  · exact within.reject below
  next short =>
  split
  · exact within.reject below
  have ran := runRecovery_ran index plan.steps 0
    ⟨prog, [], "running", !plan.steps.isEmpty⟩ within.faithful
    within.atIndex quiet fresh
  have stepsLe : (runRecovery ctx (expectedRecoverySteps
      ctx.preparation.contract index) index plan.steps 0
      ⟨prog, [], "running",
        !plan.steps.isEmpty⟩).progress.executedSteps.length ≤
      prog.executedSteps.length +
        ctx.preparation.agentContext.recoveryStepLimit :=
    ran.recoverySteps.trans (by simp only; omega)
  split
  · next successful =>
      have keeps := keepsUnmarked_markRecovered step.stepIndex
      have quietAfter := (ran.quietOnSuccess successful).map keeps
      exact
        { within.addEvent below ran.faithful.markRecovered (ran.atIndex.map keeps)
            (by simpa only [PlanProgress.markRecovered, List.length_map])
            ran.replanEvents ran.liveReplanCallCount with
          quietWhileRunning := fun _ => quietAfter }
  · exact (within.addEvent below ran.faithful ran.atIndex stepsLe
      ran.replanEvents ran.liveReplanCallCount).halt

theorem replanLive_onCourse {callback : AgentLiveReplanCallback}
    (onCourse : OnCourse ctx (index + 1) prog)
    (quiet : AllQuiet prog.executedSteps)
    (fresh : childCount prog.executedSteps (some index) = 0)
    (firstCall : prog.liveReplanCallCount < 1)
    (below : prog.replanEvents.length < ctx.preparation.agentContext.replanLimit) :
    OnCourse ctx (index + 1) (replanLive ctx callback prog index step) := by
  have called : OnCourse ctx (index + 1)
      { prog with
        liveReplanCallCount := prog.liveReplanCallCount + 1 } :=
    { faithful := ⟨onCourse.faithful.recorded, onCourse.faithful.actionCounts,
        onCourse.faithful.priorOutputs,
        onCourse.faithful.approvedCheckpointIds⟩
      atIndex := onCourse.atIndex
      quietWhileRunning := onCourse.quietWhileRunning
      stepsLe := onCourse.stepsLe
      replansLe := onCourse.replansLe
      liveCallsLe := firstCall }
  simp only [replanLive]
  split
  · exact called.toWithinLimits.reject below
  · exact called.toWithinLimits.reject below
  · exact attemptRecovery_onCourse called quiet fresh

theorem recoverStep_onCourse (onCourse : OnCourse ctx (index + 1) prog)
    (quiet : AllQuiet prog.executedSteps) (fresh : childCount prog.executedSteps (some index) = 0) :
    OnCourse ctx (index + 1) (recoverStep ctx prog index step) := by
  rw [recoverStep]
  split
  · exact attemptRecovery_onCourse onCourse quiet fresh
  split
  · exact onCourse
  split
  · next available =>
      simp only [Bool.and_eq_true, decide_eq_true_eq] at available
      exact replanLive_onCourse onCourse quiet fresh available.1.2 available.2
  · exact onCourse

theorem runPlannedStep_onCourse (planned : Json) (onCourse : OnCourse ctx index prog)
    (running : prog.haltReason = none) :
    OnCourse ctx (index + 1) (runPlannedStep ctx index planned prog) := by
  have quiet := onCourse.quietWhileRunning running
  have expectedEq : (expectedSteps ctx.preparation.contract)[index]? =
      matchingExpected ctx.preparation.contract prog.executedSteps
        none := by
    rw [matchingExpected, onCourse.atIndex.planned]
  have performed := performPlanned_performed planned onCourse.faithful quiet
    expectedEq (show "plan" = phaseOf none from rfl)
  simp only [runPlannedStep]
  generalize performPlanned ctx prog planned
    (expectedSteps ctx.preparation.contract)[index]? "plan" none = outcome
    at performed ⊢
  have noParent : outcome.2.parentStepIndex = none := by
    rw [performed.answer]
    exact answersCall_executeAgentStep.parentStepIndex
  have nextAtIndex := onCourse.atIndex.plan noParent
  rw [← performed.executedSteps] at nextAtIndex
  have stepsLe := onCourse.stepsLe
  have fresh : childCount outcome.1.executedSteps (some index) = 0 := by
    rw [performed.executedSteps, childCount, List.countP_append, ← childCount,
      onCourse.atIndex.childCount_eq_zero le_rfl]
    simp [noParent]
  have within : WithinLimits ctx (index + 1) outcome.1 :=
    { faithful := performed.faithful
      atIndex := nextAtIndex
      stepsLe := by
        rw [performed.executedSteps, performed.replanEvents,
          List.length_append, List.length_singleton]
        omega
      replansLe := performed.replanEvents ▸ onCourse.replansLe
      liveCallsLe := performed.liveReplanCallCount ▸ onCourse.liveCallsLe }
  split
  · exact within.halt
  next notPending =>
  split
  · exact within.halt
  next notDenied =>
  split
  · exact within.halt
  next noViolation =>
  have stepQuiet : outcome.2.Quiet :=
    ⟨notPending, notDenied, by simpa using noViolation⟩
  have nextQuiet := quiet.concat stepQuiet
  rw [← performed.executedSteps] at nextQuiet
  have next : OnCourse ctx (index + 1) outcome.1 :=
    { within with quietWhileRunning := fun _ => nextQuiet }
  split
  · exact next
  · exact recoverStep_onCourse next nextQuiet fresh

theorem runPlan_onCourse (steps : List Json) (index : Nat) (prog : PlanProgress)
    (onCourse : OnCourse ctx index prog) (running : prog.haltReason = none) :
    ∃ reached, reached ≤ index + steps.length ∧
      OnCourse ctx reached (runPlan ctx steps index prog) := by
  induction steps generalizing index prog with
  | nil => exact ⟨index, le_rfl, onCourse⟩
  | cons planned rest ih =>
    have next := runPlannedStep_onCourse planned onCourse running
    rw [runPlan]
    split
    · exact ⟨index + 1, by rw [List.length_cons]; omega, next⟩
    · next goesOn =>
        obtain ⟨reached, reachedLe, reachedOnCourse⟩ := ih
          (index + 1) _ next (Option.not_isSome_iff_eq_none.mp goesOn)
        refine ⟨reached, ?_, reachedOnCourse⟩
        rw [List.length_cons]
        omega

end Runs

def planContext (env : AgentEnvironment) (externalCaseId : String) (prep : AgentPreparation)
    (plan : ParsedPlan) (callback : Option AgentLiveReplanCallback) : PlanContext where
  env := env
  externalCaseId := externalCaseId
  preparation := prep
  recoveryPlans := plan.recoveryPlans
  callback := callback

structure AcceptedPlan (limits : AgentContext) (plan : ParsedPlan) : Prop where
  stepsLe : plan.steps.length ≤ limits.stepLimit
  noBranchWithoutReplan : limits.replanLimit = 0 → plan.recoveryPlans = []
  branchesLe : plan.recoveryPlans.length ≤ limits.recoveryBranchLimit
  branchStepsLe : ∀ branch ∈ plan.recoveryPlans,
    branch.steps.length ≤ limits.recoveryStepLimit

section Trace

variable {env : AgentEnvironment} {externalCaseId : String}
  {payload : Option Json} {prep : AgentPreparation}
  {callback : Option AgentLiveReplanCallback}

def rejectedStatuses : List String :=
  ["invalid_plan", "limit_exceeded", "failed"]

/-- A trace is that of a rejected plan, which has no steps and one of three
statuses, or of a run over an accepted one. -/
theorem executeAgentPlan_outcomes (motive : AgentExecutionTrace → Prop)
    (rejected : ∀ expected actual parseValid parseError status haltReason
      stepCount, status ∈ rejectedStatuses →
        motive (emptyTrace externalCaseId prep.agentContext expected
          actual parseValid (some parseError) status haltReason stepCount))
    (executed : ∀ plan, parsePlan env.text payload = .ok plan →
      AcceptedPlan prep.agentContext plan →
      motive (finishedTrace externalCaseId prep.agentContext
        (expectedActions env.text (expectedSteps prep.contract))
        (actualActions env.text plan.steps)
        (runPlan (planContext env externalCaseId prep plan
          callback) plan.steps 0 PlanProgress.initial))) :
    motive (executeAgentPlan env externalCaseId payload prep callback) := by
  simp only [executeAgentPlan]
  split
  · exact rejected _ _ _ _ _ _ _ (by decide)
  next plan parsed =>
  split
  · exact rejected _ _ _ _ _ _ _ (by decide)
  next stepsLe =>
  split
  · exact rejected _ _ _ _ _ _ _ (by decide)
  next allowed =>
  split
  · exact rejected _ _ _ _ _ _ _ (by decide)
  next branchesLe =>
  split
  · exact rejected _ _ _ _ _ _ _ (by decide)
  split
  · exact rejected _ _ _ _ _ _ _ (by decide)
  next branchStepsLe =>
  refine executed plan parsed ⟨by omega, ?_, by omega, ?_⟩
  · intro noReplan
    simpa [noReplan] using allowed
  · intro branch mem
    by_contra longer
    apply branchStepsLe
    exact List.any_eq_true.mpr ⟨branch, mem, by simpa using longer⟩

theorem planRun_onCourse (plan : ParsedPlan) : ∃ reached, reached ≤ plan.steps.length ∧
      OnCourse (planContext env externalCaseId prep plan callback) reached
        (runPlan (planContext env externalCaseId prep plan
          callback) plan.steps 0 PlanProgress.initial) := by
  obtain ⟨reached, reachedLe, onCourse⟩ :=
    runPlan_onCourse plan.steps 0 PlanProgress.initial onCourse_initial rfl
  exact ⟨reached, by omega, onCourse⟩

theorem executeAgentPlan_recorded : EachStep (Recorded env externalCaseId prep)
      (executeAgentPlan env externalCaseId payload prep callback).steps := by
  apply executeAgentPlan_outcomes (motive := fun trace =>
      EachStep (Recorded env externalCaseId prep) trace.steps)
  · intro _ _ _ _ _ _ _ _
    exact EachStep.nil
  · intro plan _ _
    obtain ⟨reached, _, onCourse⟩ := planRun_onCourse plan
    exact onCourse.faithful.recorded

end Trace

end ModelAtlas.Agent
