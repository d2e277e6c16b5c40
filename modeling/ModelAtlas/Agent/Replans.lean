import ModelAtlas.Agent.Bounds
import ModelAtlas.Agent.LiveReplan

/-!
# Replan events

What a recovery leaves in the history: the steps that its event names, and one
mark.  While a plan with at most one replanning goes on, either nothing was
replanned, or one recovery succeeded.
-/

namespace ModelAtlas.Agent

open Foundations Approval

variable {trigger index : Nat} {steps : List Json} {before after : RecoveryRun} {step : AgentStep}

/-- `str(step.get("action") or "")`. -/
def actionText (text : TextEnvironment) (planned : Json) : String :=
  Json.pyStrOrEmpty text.render (planned.get? "action")

structure RecoveryStepOf (text : TextEnvironment) (trigger : Nat)
    (step : AgentStep) : Prop where
  parentStepIndex : step.parentStepIndex = some trigger
  phase : step.phase = "recovery"
  unmarked : step.recoveredByReplan = false
  action : step.action = actionText text step.input
  object : step.input.isObject = true

structure RecoveryTrail (text : TextEnvironment) (trigger : Nat)
    (steps : List Json) (before after : RecoveryRun) (added : List AgentStep) :
    Prop where
  executedSteps : after.progress.executedSteps =
    before.progress.executedSteps ++ added
  recoveryStepIndices : after.recoveryStepIndices =
    before.recoveryStepIndices ++ added.map AgentStep.stepIndex
  inputs : added.map AgentStep.input <+: steps
  recoverySteps : ∀ step ∈ added, RecoveryStepOf text trigger step
  complete : after.successful = true →
    added.map AgentStep.input = steps ∧
      (∀ step ∈ added, step.successful = true) ∧
      after.progress.haltReason = before.progress.haltReason

section Trail

variable {ctx : PlanContext}

theorem recoveryTrail_stopped (same : after.progress.executedSteps = before.progress.executedSteps)
    (indices : after.recoveryStepIndices = before.recoveryStepIndices)
    (failed : after.successful = false) :
    RecoveryTrail ctx.env.text trigger steps before after [] where
  executedSteps := by rw [same, List.append_nil]
  recoveryStepIndices := by rw [indices, List.map_nil, List.append_nil]
  inputs := List.nil_prefix
  recoverySteps step mem := by cases mem
  complete successful := by
    rw [failed] at successful
    cases successful

theorem recoveryStepOf_performPlanned {prog : PlanProgress} {planned : Json}
    {expected : Option Json} (object : planned.isObject = true) :
    RecoveryStepOf ctx.env.text trigger
      (performPlanned ctx prog planned expected "recovery"
        (some trigger)).2 := by
  have answers : AnswersCall ctx.env _ _
      (performPlanned ctx prog planned expected "recovery"
        (some trigger)).2 := answersCall_executeAgentStep
  refine ⟨answers.parentStepIndex, answers.phase, answers.recoveredByReplan, ?_, ?_⟩
  · rw [actionText, answers.input]
    exact answers.action
  · rw [answers.input]
    exact object

theorem performPlanned_input {prog : PlanProgress} {planned : Json}
    {expected : Option Json} {phase : String} {parentStepIndex : Option Nat} :
    (performPlanned ctx prog planned expected phase parentStepIndex).2.input = planned :=
  answersCall_executeAgentStep.input

theorem runRecovery_trail (ctx : PlanContext) (expectedRecovery : List Json) (trigger : Nat)
    (steps : List Json) (recoveryIndex : Nat) (run : RecoveryRun) :
    ∃ added, RecoveryTrail ctx.env.text trigger steps run
      (runRecovery ctx expectedRecovery trigger steps recoveryIndex run)
      added := by
  induction steps generalizing recoveryIndex run with
  | nil =>
    refine ⟨[], ?_, ?_, List.nil_prefix, ?_, ?_⟩
    · rw [runRecovery, List.append_nil]
    · rw [runRecovery, List.map_nil, List.append_nil]
    · intro step mem
      cases mem
    · intro _
      refine ⟨rfl, ?_, rfl⟩
      intro step mem
      cases mem
  | cons recoveryStep rest ih =>
    rw [runRecovery]
    split
    · exact ⟨[], recoveryTrail_stopped rfl rfl rfl⟩
    next notObject =>
    split
    · exact ⟨[], recoveryTrail_stopped rfl rfl rfl⟩
    have object : recoveryStep.isObject = true := by simpa using notObject
    have ofPlanned : RecoveryStepOf ctx.env.text trigger
        (performPlanned ctx run.progress recoveryStep
          expectedRecovery[recoveryIndex]? "recovery" (some trigger)).2 :=
      recoveryStepOf_performPlanned object
    have inputEq : (performPlanned ctx run.progress recoveryStep
        expectedRecovery[recoveryIndex]? "recovery" (some trigger)).2.input =
        recoveryStep := performPlanned_input
    have appended : (performPlanned ctx run.progress recoveryStep
        expectedRecovery[recoveryIndex]? "recovery"
        (some trigger)).1.executedSteps = run.progress.executedSteps ++
          [(performPlanned ctx run.progress recoveryStep
            expectedRecovery[recoveryIndex]? "recovery" (some trigger)).2] :=
      rfl
    have sameHalt : (performPlanned ctx run.progress recoveryStep
        expectedRecovery[recoveryIndex]? "recovery"
        (some trigger)).1.haltReason = run.progress.haltReason := rfl
    generalize performPlanned ctx run.progress recoveryStep
      expectedRecovery[recoveryIndex]? "recovery" (some trigger) = outcome
      at ofPlanned inputEq appended sameHalt ⊢
    simp only
    split
    · next successful =>
        obtain ⟨added, trail⟩ := ih (recoveryIndex + 1)
          { run with
            progress := outcome.1
            recoveryStepIndices :=
              run.recoveryStepIndices ++ [outcome.2.stepIndex] }
        refine ⟨outcome.2 :: added, ?_, ?_, ?_, ?_, ?_⟩
        · rw [trail.executedSteps, appended, List.append_assoc]
          rfl
        · rw [trail.recoveryStepIndices, List.append_assoc]
          rfl
        · rw [List.map_cons, inputEq]
          exact List.cons_prefix_cons.mpr ⟨rfl, trail.inputs⟩
        · intro step mem
          rcases List.mem_cons.mp mem with rfl | later
          · exact ofPlanned
          · exact trail.recoverySteps step later
        · intro completed
          obtain ⟨inputs, allSuccessful, halt⟩ := trail.complete completed
          refine ⟨?_, ?_, halt.trans sameHalt⟩
          · rw [List.map_cons, inputEq, inputs]
          · intro step mem
            rcases List.mem_cons.mp mem with rfl | later
            · exact successful
            · exact allSuccessful step later
    · refine ⟨[outcome.2], appended, rfl, ?_, ?_,
        fun completed => absurd completed Bool.false_ne_true⟩
      · rw [List.map_singleton, inputEq]
        exact List.cons_prefix_cons.mpr ⟨rfl, List.nil_prefix⟩
      · intro step mem
        rw [List.mem_singleton.mp mem]
        exact ofPlanned

theorem runRecovery_replanEvents (ctx : PlanContext) (expectedRecovery : List Json) (trigger : Nat)
    (steps : List Json) (recoveryIndex : Nat) (run : RecoveryRun) :
    (runRecovery ctx expectedRecovery trigger steps recoveryIndex
      run).progress.replanEvents = run.progress.replanEvents := by
  induction steps generalizing recoveryIndex run with
  | nil => rfl
  | cons recoveryStep rest ih =>
    rw [runRecovery]
    split
    · rfl
    split
    · rfl
    simp only
    split
    · rw [ih]
      rfl
    · rfl

end Trail

def planSteps (steps : List AgentStep) : List AgentStep :=
  steps.filter (fun step => step.parentStepIndex = none)

def recoverySteps (steps : List AgentStep) : List AgentStep :=
  steps.filter (fun step => step.parentStepIndex ≠ none)

/-- The event comes from one of the two sources, and the provenance of a
response, if there is one, is an object. -/
structure EventShape (source : String) (modelCall : Json) : Prop where
  source : source = "predeclared_plan" ∨ source = "live_callback"
  modelCall : modelCall = .null ∨ modelCall.isObject = true

structure NotReplanned (prog : PlanProgress) : Prop where
  noEvent : prog.replanEvents = []
  noRecovery : recoverySteps prog.executedSteps = []
  noMark : ∀ step ∈ prog.executedSteps, step.recoveredByReplan = false

/-- One recovery succeeded: its event names the recovery steps, and the step
that triggered it is the marked one. -/
structure ReplannedOnce (prog : PlanProgress)
    (event : ReplanEvent) (triggered : AgentStep) : Prop where
  onlyEvent : prog.replanEvents = [event]
  shape : EventShape event.source event.modelCall
  status : event.status = "success"
  successful : event.successful = true
  sequenceMatch : actionsMatch event.expectedActionSequence
    event.actualActionSequence = true
  matchNoted : event.sequenceMatch = true
  indices : event.recoveryStepIndices =
    (recoverySteps prog.executedSteps).map AgentStep.stepIndex
  someRecovery : recoverySteps prog.executedSteps ≠ []
  actions : event.actualActionSequence =
    (recoverySteps prog.executedSteps).map AgentStep.action
  recovered : ∀ step ∈ recoverySteps prog.executedSteps,
    step.successful = true ∧
      step.parentStepIndex = some event.triggerStepIndex
  objects : ∀ step ∈ recoverySteps prog.executedSteps,
    step.input.isObject = true
  observed : ∃ env step,
    event.observation = AgentStep.observation env step
  trigger : (planSteps prog.executedSteps)[event.triggerStepIndex]? =
    some triggered
  marked : ∀ step ∈ prog.executedSteps,
    step.recoveredByReplan = decide (step.stepIndex = triggered.stepIndex)

def ReplanState (prog : PlanProgress) : Prop :=
  NotReplanned prog ∨ ∃ event triggered, ReplannedOnce prog event triggered

section State

variable {ctx : PlanContext} {prog : PlanProgress}

theorem planSteps_append (steps added : List AgentStep) :
    planSteps (steps ++ added) = planSteps steps ++ planSteps added :=
  List.filter_append ..

theorem recoverySteps_append (steps added : List AgentStep) : recoverySteps (steps ++ added) =
      recoverySteps steps ++ recoverySteps added :=
  List.filter_append ..

theorem planSteps_map {change : AgentStep → AgentStep}
    (keeps : KeepsUnmarked change) (steps : List AgentStep) :
    planSteps (steps.map change) = (planSteps steps).map change := by
  rw [planSteps, List.filter_map, planSteps]
  congr 2
  funext step
  rw [Function.comp_apply, keeps.field AgentStep.parentStepIndex (fun _ => rfl)]

theorem recoverySteps_map {change : AgentStep → AgentStep}
    (keeps : KeepsUnmarked change) (steps : List AgentStep) :
    recoverySteps (steps.map change) = (recoverySteps steps).map change := by
  rw [recoverySteps, List.filter_map, recoverySteps]
  congr 2
  funext step
  rw [Function.comp_apply, keeps.field AgentStep.parentStepIndex (fun _ => rfl)]

theorem planSteps_length (steps : List AgentStep) :
    (planSteps steps).length = childCount steps none := by
  rw [planSteps, childCount, List.countP_eq_length_filter]

theorem Faithful.numbered (faithful : Faithful ctx prog) :
    prog.executedSteps.map AgentStep.stepIndex = List.range prog.executedSteps.length := by
  apply EachStep.map_eq_range
  refine faithful.recorded.mono (fun before step recorded => ?_)
  have answered : step.unmarked.stepIndex = _ :=
    recorded.executed ▸ answersCall_executeAgentStep.stepIndex
  exact answered

theorem Faithful.stepIndex_lt (faithful : Faithful ctx prog) (mem : step ∈ prog.executedSteps) :
    step.stepIndex < prog.executedSteps.length := by
  have inRange : step.stepIndex ∈ List.range prog.executedSteps.length := by
    rw [← faithful.numbered]
    exact List.mem_map_of_mem mem
  exact List.mem_range.mp inRange

theorem replanState_initial : ReplanState PlanProgress.initial :=
  Or.inl ⟨rfl, rfl, fun _ mem => by cases mem⟩

theorem ReplanState.appendPlanned {next : PlanProgress}
    (state : ReplanState prog) (faithful : Faithful ctx prog)
    (appended : next.executedSteps = prog.executedSteps ++ [step])
    (events : next.replanEvents = prog.replanEvents)
    (noParent : step.parentStepIndex = none)
    (unmarked : step.recoveredByReplan = false)
    (last : step.stepIndex = prog.executedSteps.length) :
    ReplanState next := by
  have samePlan : planSteps next.executedSteps = planSteps prog.executedSteps ++ [step] := by
    rw [appended, planSteps_append]
    simp [planSteps, noParent]
  have sameRecovery : recoverySteps next.executedSteps = recoverySteps prog.executedSteps := by
    rw [appended, recoverySteps_append]
    simp [recoverySteps, noParent]
  rcases state with none | ⟨event, triggered, once⟩
  · refine Or.inl ⟨events.trans none.noEvent, sameRecovery.trans none.noRecovery, ?_⟩
    intro other mem
    rw [appended] at mem
    rcases List.mem_append.mp mem with earlier | final
    · exact none.noMark other earlier
    · rw [List.mem_singleton.mp final]
      exact unmarked
  · have triggeredMem : triggered ∈ prog.executedSteps :=
      List.mem_of_mem_filter (List.mem_of_getElem? once.trigger)
    have triggeredLt := faithful.stepIndex_lt triggeredMem
    refine Or.inr ⟨event, triggered, events.trans once.onlyEvent, once.shape,
      once.status, once.successful, once.sequenceMatch, once.matchNoted,
      sameRecovery ▸ once.indices, sameRecovery ▸ once.someRecovery,
      sameRecovery ▸ once.actions, sameRecovery ▸ once.recovered,
      sameRecovery ▸ once.objects, once.observed, ?_, ?_⟩
    · rw [samePlan]
      exact List.getElem?_append_left
        (List.getElem?_eq_some_iff.mp once.trigger).1 |>.trans once.trigger
    · intro other mem
      rw [appended] at mem
      rcases List.mem_append.mp mem with earlier | final
      · exact once.marked other earlier
      · rw [List.mem_singleton.mp final, unmarked, last]
        exact (decide_eq_false (by omega)).symm

theorem replannedOnce_of_recovery {text : TextEnvironment}
    {event : ReplanEvent} {added : List AgentStep}
    (none : NotReplanned before.progress)
    (trail : RecoveryTrail text index steps before after added)
    (completed : after.successful = true) (someStep : steps ≠ [])
    (noIndices : before.recoveryStepIndices = [])
    (events : after.progress.replanEvents = before.progress.replanEvents)
    (position : (planSteps before.progress.executedSteps)[index]? = some step)
    (shape : EventShape event.source event.modelCall)
    (observed : ∃ env step, event.observation = AgentStep.observation env step)
    (trigger : event.triggerStepIndex = index)
    (status : event.status = "success") (successful : event.successful = true)
    (matching : actionsMatch event.expectedActionSequence event.actualActionSequence = true)
    (matchNoted : event.sequenceMatch = true)
    (indices : event.recoveryStepIndices = after.recoveryStepIndices)
    (actions : event.actualActionSequence = actualActions text (steps.filter Json.isObject)) :
    ReplannedOnce ((after.progress.markRecovered step.stepIndex).addEvent event)
      event { step with recoveredByReplan := true } := by
  obtain ⟨inputs, allSuccessful, _⟩ := trail.complete completed
  have keeps := keepsUnmarked_markRecovered step.stepIndex
  have addedRecovery : recoverySteps added = added := by
    rw [recoverySteps, List.filter_eq_self]
    intro other mem
    simp [(trail.recoverySteps other mem).parentStepIndex]
  have recoveryEq : recoverySteps after.progress.executedSteps = added := by
    rw [trail.executedSteps, recoverySteps_append, none.noRecovery, addedRecovery, List.nil_append]
  have markedRecovery : recoverySteps ((after.progress.markRecovered
      step.stepIndex).addEvent event).executedSteps = added.map (fun other =>
        if other.stepIndex = step.stepIndex then
          { other with recoveredByReplan := true }
        else other) := by
    rw [← recoveryEq]
    exact recoverySteps_map keeps _
  have addedEmpty : added ≠ [] := by
    intro empty
    rw [empty] at inputs
    exact someStep inputs.symm
  refine ⟨?_, shape, status, successful, matching, matchNoted, ?_, ?_, ?_, ?_, ?_, observed, ?_, ?_⟩
  · show after.progress.replanEvents ++ [event] = [event]
    rw [events, none.noEvent, List.nil_append]
  · rw [markedRecovery, indices, trail.recoveryStepIndices, noIndices,
      List.nil_append, List.map_map]
    apply List.map_congr_left
    intro other _
    exact (keeps.field AgentStep.stepIndex (fun _ => rfl) other).symm
  · rw [markedRecovery]
    simpa using addedEmpty
  · rw [markedRecovery, actions, ← inputs, List.map_map]
    have allObjects : (added.map AgentStep.input).filter Json.isObject =
        added.map AgentStep.input := by
      rw [List.filter_eq_self]
      intro input mem
      obtain ⟨other, otherMem, rfl⟩ := List.mem_map.mp mem
      exact (trail.recoverySteps other otherMem).object
    rw [allObjects, actualActions, List.map_map]
    apply List.map_congr_left
    intro other mem
    exact (trail.recoverySteps other mem).action.symm.trans
      (keeps.field AgentStep.action (fun _ => rfl) other).symm
  · intro other mem
    rw [markedRecovery] at mem
    obtain ⟨original, originalMem, rfl⟩ := List.mem_map.mp mem
    refine ⟨?_, ?_⟩
    · exact (keeps.field AgentStep.successful (fun _ => rfl) original).trans
        (allSuccessful original originalMem)
    · rw [trigger]
      exact (keeps.field AgentStep.parentStepIndex (fun _ => rfl) original).trans
          (trail.recoverySteps original originalMem).parentStepIndex
  · intro other mem
    rw [markedRecovery] at mem
    obtain ⟨original, originalMem, rfl⟩ := List.mem_map.mp mem
    rw [keeps.field AgentStep.input (fun _ => rfl)]
    exact (trail.recoverySteps original originalMem).object
  · rw [trigger]
    show (planSteps (List.map _ after.progress.executedSteps))[index]? = _
    rw [planSteps_map keeps, trail.executedSteps, planSteps_append,
      List.getElem?_map, List.getElem?_append_left
        (List.getElem?_eq_some_iff.mp position).1, position]
    simp
  · intro other mem
    obtain ⟨original, originalMem, rfl⟩ := List.mem_map.mp mem
    have originalUnmarked : original.recoveredByReplan = false := by
      rw [trail.executedSteps] at originalMem
      rcases List.mem_append.mp originalMem with earlier | later
      · exact none.noMark original earlier
      · exact (trail.recoverySteps original later).unmarked
    by_cases same : original.stepIndex = step.stepIndex
    · simp [same]
    · simp [same, originalUnmarked]

theorem attemptRecovery_replanState
    {plan : RecoveryPlan} (shape : EventShape plan.source plan.modelCall)
    (replanLimitLe : ctx.preparation.agentContext.replanLimit ≤ 1)
    (state : ReplanState prog)
    (position : (planSteps prog.executedSteps)[index]? = some step)
    (running : (attemptRecovery ctx prog index step plan).haltReason = none) :
    ReplanState (attemptRecovery ctx prog index step plan) := by
  revert running
  simp only [attemptRecovery]
  split
  · exact fun _ => state
  next available =>
  -- There is room for a replanning only where none was made.
  have noneMade : NotReplanned prog := by
    rcases state with none | ⟨event, triggered, once⟩
    · exact none
    · rw [once.onlyEvent, List.length_singleton] at available
      omega
  split
  · intro running
    cases running
  split
  · intro running
    cases running
  next matching =>
  obtain ⟨added, trail⟩ := runRecovery_trail ctx
    (expectedRecoverySteps ctx.preparation.contract index) index plan.steps
    0 ⟨prog, [], "running", !plan.steps.isEmpty⟩
  split
  · next completed =>
      intro _
      have someStep : plan.steps ≠ [] := by
        intro empty
        rw [empty] at completed
        cases completed
      have events := runRecovery_replanEvents ctx
        (expectedRecoverySteps ctx.preparation.contract index) index
        plan.steps 0 ⟨prog, [], "running", !plan.steps.isEmpty⟩
      have matches_ : actionsMatch (expectedActions ctx.env.text (expectedRecoverySteps
            ctx.preparation.contract index))
          (actualActions ctx.env.text (plan.steps.filter Json.isObject)) = true := by
        simpa using matching
      exact Or.inr ⟨_, _, replannedOnce_of_recovery noneMade trail completed
        someStep rfl events position shape ⟨_, _, rfl⟩ rfl rfl rfl matches_
        matches_ rfl rfl⟩
  · intro running
    cases running

theorem recoverStep_replanState (records : RecordsObjects ctx.callback)
    (replanLimitLe : ctx.preparation.agentContext.replanLimit ≤ 1) (state : ReplanState prog)
    (position : (planSteps prog.executedSteps)[index]? = some step)
    (running : (recoverStep ctx prog index step).haltReason = none) :
    ReplanState (recoverStep ctx prog index step) := by
  revert running
  simp only [recoverStep]
  split
  · exact fun running => attemptRecovery_replanState
      ⟨Or.inl rfl, Or.inl rfl⟩ replanLimitLe state position running
  split
  · exact fun _ => state
  next callback isCallback =>
  split
  · simp only [replanLive]
    split
    · intro running
      cases running
    · intro running
      cases running
    · next steps modelCall answered =>
      intro running
      have called : ReplanState { prog with
          liveReplanCallCount := prog.liveReplanCallCount + 1 } := by
        rcases state with none | ⟨event, triggered, once⟩
        · exact Or.inl ⟨none.noEvent, none.noRecovery, none.noMark⟩
        · exact Or.inr ⟨event, triggered, once.onlyEvent, once.shape,
            once.status, once.successful, once.sequenceMatch, once.matchNoted,
            once.indices, once.someRecovery, once.actions, once.recovered,
            once.objects, once.observed, once.trigger, once.marked⟩
      have object := records callback isCallback _ steps modelCall answered
      exact attemptRecovery_replanState ⟨Or.inr rfl, Or.inr object⟩
        replanLimitLe called position running
  · exact fun _ => state

theorem runPlannedStep_replanState (planned : Json) (records : RecordsObjects ctx.callback)
    (replanLimitLe : ctx.preparation.agentContext.replanLimit ≤ 1)
    (onCourse : OnCourse ctx index prog)
    (goesOn : prog.haltReason = none)
    (state : ReplanState prog)
    (running : (runPlannedStep ctx index planned prog).haltReason = none) :
    ReplanState (runPlannedStep ctx index planned prog) := by
  have expectedEq : (expectedSteps ctx.preparation.contract)[index]? =
      matchingExpected ctx.preparation.contract prog.executedSteps
        none := by
    rw [matchingExpected, onCourse.atIndex.planned]
  have performed := performPlanned_performed planned onCourse.faithful
    (onCourse.quietWhileRunning goesOn) expectedEq
    (show "plan" = phaseOf none from rfl)
  revert running
  simp only [runPlannedStep]
  generalize performPlanned ctx prog planned
    (expectedSteps ctx.preparation.contract)[index]? "plan" none = outcome
    at performed ⊢
  have answers : AnswersCall ctx.env (callAfter ctx.env
      ctx.preparation.contract prog.executedSteps planned none) _
      outcome.2 := performed.answer ▸ answersCall_executeAgentStep
  have nextState := state.appendPlanned onCourse.faithful
    performed.executedSteps performed.replanEvents answers.parentStepIndex
    answers.recoveredByReplan answers.stepIndex
  have position : (planSteps outcome.1.executedSteps)[index]? = some outcome.2 := by
    have lengthEq : (planSteps prog.executedSteps).length = index :=
      (planSteps_length _).trans onCourse.atIndex.planned
    have lastEq : planSteps [outcome.2] = [outcome.2] := by
      simp [planSteps, answers.parentStepIndex, callAfter]
    rw [performed.executedSteps, planSteps_append, lastEq, ← lengthEq]
    exact List.getElem?_concat_length
  split
  · intro running
    cases running
  split
  · intro running
    cases running
  split
  · intro running
    cases running
  split
  · exact fun _ => nextState
  · exact fun running => recoverStep_replanState records replanLimitLe nextState position running

theorem runPlan_replanState (records : RecordsObjects ctx.callback)
    (replanLimitLe : ctx.preparation.agentContext.replanLimit ≤ 1) (steps : List Json) (index : Nat)
    (prog : PlanProgress) (onCourse : OnCourse ctx index prog) (goesOn : prog.haltReason = none)
    (state : ReplanState prog) (running : (runPlan ctx steps index prog).haltReason = none) :
    ReplanState (runPlan ctx steps index prog) := by
  induction steps generalizing index prog with
  | nil => exact state
  | cons planned rest ih =>
    have next := runPlannedStep_onCourse planned onCourse goesOn
    rw [runPlan] at running ⊢
    split at running
    · next halted =>
        rw [running] at halted
        cases halted
    · next notHalted =>
        rw [if_neg notHalted]
        have nextGoesOn := Option.not_isSome_iff_eq_none.mp notHalted
        exact ih (index + 1) _ next nextGoesOn
          (runPlannedStep_replanState planned records replanLimitLe onCourse
            goesOn state nextGoesOn) running

def planInputs (steps : List AgentStep) : List Json :=
  (planSteps steps).map AgentStep.input

theorem planInputs_append (steps added : List AgentStep) :
    planInputs (steps ++ added) = planInputs steps ++ planInputs added := by
  rw [planInputs, planSteps_append, List.map_append, planInputs, planInputs]

theorem planInputs_map {change : AgentStep → AgentStep}
    (keeps : KeepsUnmarked change) (steps : List AgentStep) :
    planInputs (steps.map change) = planInputs steps := by
  rw [planInputs, planSteps_map keeps, List.map_map, planInputs]
  apply List.map_congr_left
  intro step _
  exact keeps.field AgentStep.input (fun _ => rfl) step

theorem RecoveryTrail.planInputs_eq {text : TextEnvironment} {added : List AgentStep}
    (trail : RecoveryTrail text trigger steps before after added) :
    planInputs after.progress.executedSteps = planInputs before.progress.executedSteps := by
  have noPlan : planSteps added = [] := by
    rw [planSteps, List.filter_eq_nil_iff]
    intro step mem
    simp [(trail.recoverySteps step mem).parentStepIndex]
  rw [trail.executedSteps, planInputs_append, planInputs, planInputs, noPlan,
    List.map_nil, List.append_nil]

theorem attemptRecovery_planInputs {plan : RecoveryPlan} :
    planInputs (attemptRecovery ctx prog index step
      plan).executedSteps = planInputs prog.executedSteps := by
  obtain ⟨added, trail⟩ := runRecovery_trail ctx
    (expectedRecoverySteps ctx.preparation.contract index) index plan.steps
    0 ⟨prog, [], "running", !plan.steps.isEmpty⟩
  have same := trail.planInputs_eq
  simp only [attemptRecovery]
  split
  · rfl
  split
  · rfl
  split
  · rfl
  split
  · exact (planInputs_map (keepsUnmarked_markRecovered step.stepIndex) _).trans same
  · exact same

theorem recoverStep_planInputs : planInputs (recoverStep ctx prog index step).executedSteps =
      planInputs prog.executedSteps := by
  rw [recoverStep]
  split
  · exact attemptRecovery_planInputs
  split
  · rfl
  split
  · simp only [replanLive]
    split
    · rfl
    · rfl
    · exact attemptRecovery_planInputs
  · rfl

theorem runPlannedStep_planInputs (planned : Json) :
    planInputs (runPlannedStep ctx index planned prog).executedSteps =
      planInputs prog.executedSteps ++ [planned] := by
  have appended : planInputs (performPlanned ctx prog planned
      (expectedSteps ctx.preparation.contract)[index]? "plan"
      none).1.executedSteps = planInputs prog.executedSteps ++ [planned] := by
    have answers : AnswersCall ctx.env _ _ (performPlanned ctx prog planned
          (expectedSteps ctx.preparation.contract)[index]? "plan"
          none).2 := answersCall_executeAgentStep
    have last : planInputs [(performPlanned ctx prog planned
        (expectedSteps ctx.preparation.contract)[index]? "plan" none).2] =
        [planned] := by
      simp [planInputs, planSteps, answers.parentStepIndex, answers.input]
    exact (planInputs_append _ _).trans (congrArg _ last)
  simp only [runPlannedStep]
  split
  · exact appended
  split
  · exact appended
  split
  · exact appended
  split
  · exact appended
  · exact recoverStep_planInputs.trans appended

theorem runPlan_planInputs (steps : List Json) (index : Nat) (prog : PlanProgress)
    (running : (runPlan ctx steps index prog).haltReason = none) :
    planInputs (runPlan ctx steps index prog).executedSteps =
      planInputs prog.executedSteps ++ steps := by
  induction steps generalizing index prog with
  | nil => rw [runPlan, List.append_nil]
  | cons planned rest ih =>
    rw [runPlan] at running ⊢
    split at running
    · next halted =>
        rw [running] at halted
        cases halted
    · next notHalted =>
        rw [if_neg notHalted, ih _ _ running, runPlannedStep_planInputs, List.append_assoc]
        rfl

end State

end ModelAtlas.Agent
