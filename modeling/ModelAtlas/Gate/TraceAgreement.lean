import ModelAtlas.Gate.StoredTraces

/-!
# Agreement of the executor and the critical evaluator

The trace of a successful run, stored unchanged, passes every check of
`_agent_trace_errors`, one lemma for each check.
-/

namespace ModelAtlas.Gate

open Foundations Approval Agent

variable {contract : Json} {reading : ContractReading}

section Reading

variable (env : AgentEnvironment)

def storedSteps (steps : List AgentStep) : List Json :=
  steps.map (AgentStep.toJson env)

variable {env}

theorem isNone_optionText (value : Option String) {stored : Json}
    {name : String} (found : stored.get? name = some (Json.optionText value)) :
    isNone stored name = value.isNone := by
  rw [isNone, found]
  cases value with
  | none => rfl
  | some text => rfl

theorem isNone_errorType (step : AgentStep) :
    isNone (step.toJson env) "error_type" = step.errorType.isNone :=
  isNone_optionText step.errorType rfl

theorem filterMap_texts (texts : List String) : (texts.map Json.str).filterMap (fun item =>
      match item with
      | .str text => some text
      | _ => none) = texts := by
  induction texts with
  | nil => rfl
  | cons text rest ih =>
    rw [List.map_cons, List.filterMap_cons]
    exact congrArg (text :: ·) ih

theorem textsField_eq {stored : Json} {name : String} {texts : List String}
    (found : stored.get? name = some (.arr (texts.map .str))) :
    textsField stored name = texts := by
  rw [textsField, Json.items, found]
  exact filterMap_texts texts

theorem filterMap_indices (indices : List Nat) :
    (indices.map (fun index : Nat => Json.int index)).filterMap (fun item =>
      match item with
      | .int stored => some stored
      | _ => none) = indices.map (fun index : Nat => (index : Int)) := by
  induction indices with
  | nil => rfl
  | cons index rest ih =>
    rw [List.map_cons, List.filterMap_cons]
    exact congrArg ((index : Int) :: ·) ih

theorem intsField_recoveryStepIndices (event : ReplanEvent) :
    intsField event.toJson "recovery_step_indices" =
      event.recoveryStepIndices.map (fun index : Nat => (index : Int)) := by
  refine Eq.trans ?_ (filterMap_indices event.recoveryStepIndices)
  rw [intsField]
  congr 1
  show (event.recoveryStepIndices.flatMap (fun index : Nat =>
    [(index : Int)])).map Json.int = _
  rw [← List.map_eq_flatMap, List.map_map]
  rfl

end Reading

/-! ## Reading a contract -/

structure ReadsContract (contract : Json) (reading : ContractReading) : Prop where
  expected : reading.expected = contract.items "expected_steps"
  someExpected : reading.expected ≠ []
  expectedSteps : ∀ step ∈ reading.expected, isExpectedStep step = true
  allowedActions : textsOr ["respond"] (contract.get? "allowed_actions") =
    some reading.allowedActions
  allowedTools : textsOr [] (contract.get? "allowed_tools") =
    some reading.allowedTools

theorem readsContract_of_read (read : readContract contract = some reading) :
    ReadsContract contract reading := by
  simp only [readContract] at read
  split at read
  · cases read
  next expectedValid =>
  split at read
  · next allowedActions allowedTools actionsRead toolsRead =>
      cases read
      rw [Bool.or_eq_true, not_or, List.isEmpty_iff, Bool.not_eq_true',
        Bool.not_eq_false, List.all_eq_true] at expectedValid
      exact ⟨rfl, expectedValid.1, expectedValid.2, actionsRead, toolsRead⟩
  · cases read

theorem isExpectedStep_action {step : Json} (isExpected : isExpectedStep step = true) :
    step.isObject = true ∧ ∃ action,
      step.get? "action" = some (.str action) ∧
        action ∈ allowedAgentActions := by
  rw [isExpectedStep, Bool.and_eq_true] at isExpected
  refine ⟨isExpected.1, ?_⟩
  have known := isExpected.2
  split at known
  · next action found =>
      exact ⟨action, found, List.contains_iff_mem.mp known⟩
  · cases known

theorem ne_empty_of_allowed {action : String}
    (allowed : action ∈ allowedAgentActions) : action ≠ "" := by
  rintro rfl
  revert allowed
  decide

theorem ReadsContract.expectedSteps_eq (reads : ReadsContract contract reading) :
    Agent.expectedSteps contract = reading.expected := by
  rw [Agent.expectedSteps, stepsWithAction, ← reads.expected, List.filter_eq_self]
  intro step mem
  obtain ⟨object, action, found, known⟩ :=
    isExpectedStep_action (reads.expectedSteps step mem)
  have someAction := ne_empty_of_allowed known
  simp [object, Json.truthyMember, found, Json.truthy, someAction]

theorem ReadsContract.expectedActions_eq (reads : ReadsContract contract reading)
    (text : TextEnvironment) :
    expectedActions text (Agent.expectedSteps contract) =
      reading.expected.map (fun step => textField step "action") := by
  rw [reads.expectedSteps_eq, expectedActions]
  apply List.map_congr_left
  intro step mem
  obtain ⟨_, action, found, _⟩ :=
    isExpectedStep_action (reads.expectedSteps step mem)
  rw [textField, found]
  rfl

section Run

variable {ctx : PlanContext} {plan : ParsedPlan} {prog : PlanProgress}

def storedTrace (ctx : PlanContext) (plan : ParsedPlan) (prog : PlanProgress) : Json :=
  (runTrace ctx plan prog).toJson ctx.env

theorem traceSteps_storedTrace : traceSteps (storedTrace ctx plan prog) =
      storedSteps ctx.env prog.executedSteps := rfl

theorem replans_storedTrace :
    (storedTrace ctx plan prog).items "replans" =
      prog.replanEvents.map ReplanEvent.toJson := rfl

theorem runTrace_policyViolationCount (run : SuccessfulRun ctx plan prog) :
    (runTrace ctx plan prog).policyViolationCount = 0 := by
  have noViolation := run.noViolation
  rw [← run.sequenceMatch] at noViolation
  exact noViolation

theorem countP_checkpointWith_eq_zero {status : String}
    (other : ∀ step ∈ prog.executedSteps, step.status ≠ status) :
    prog.executedSteps.countP (AgentStep.isCheckpointWith status) = 0 := by
  rw [List.countP_eq_zero]
  intro step mem
  simp [AgentStep.isCheckpointWith, other step mem]

theorem runTrace_status (run : SuccessfulRun ctx plan prog)
    (successful : (runTrace ctx plan prog).successful = true) :
    (runTrace ctx plan prog).status = "success" := by
  simp only [runTrace, finishedTrace, run.haltReason] at successful ⊢
  rw [if_neg (by decide), if_neg (by decide), if_pos successful]

theorem claimsSuccess_storedTrace (run : SuccessfulRun ctx plan prog)
    (successful : (runTrace ctx plan prog).successful = true) :
    claimsSuccess (some true) (storedTrace ctx plan prog) = true := by
  have status := runTrace_status run successful
  have pending := countP_checkpointWith_eq_zero (fun step mem => (run.quiet step mem).notPending)
  have denied := countP_checkpointWith_eq_zero (fun step mem => (run.quiet step mem).notDenied)
  have unrecovered : prog.executedSteps.countP AgentStep.isUnrecovered = 0 := by
    rw [List.countP_eq_zero]
    intro step mem
    cases outcome : step.successful with
    | true => simp [AgentStep.isUnrecovered, outcome]
    | false =>
      simp [AgentStep.isUnrecovered, outcome, run.recovered step mem outcome]
  have violations := runTrace_policyViolationCount run
  have planValid : (runTrace ctx plan prog).planValid = true := by
    have valid := successful
    simp only [runTrace, finishedTrace, Bool.and_eq_true] at valid
    simp only [runTrace, finishedTrace, Bool.and_eq_true]
    exact valid.1.1.1.2
  have finalResponse : (runTrace ctx plan prog).finalResponsePresent = true :=
    List.any_eq_true.mpr run.response
  have noParseError :
      isNone (storedTrace ctx plan prog) "parse_error" = true :=
    isNone_optionText none rfl
  have noHalt :
      isNone (storedTrace ctx plan prog) "halt_reason" = true := by
    rw [isNone_optionText prog.haltReason rfl, run.haltReason]
    rfl
  simp only [claimsSuccess, Bool.and_eq_true, decide_eq_true_eq]
  refine ⟨⟨⟨⟨⟨⟨⟨⟨⟨⟨⟨⟨status, trivial⟩, successful⟩, rfl⟩, noParseError⟩,
    planValid⟩, run.sequenceMatch⟩, finalResponse⟩, noHalt⟩, ?_⟩, ?_⟩, ?_⟩, ?_⟩
  · exact congrArg Int.ofNat violations
  · exact congrArg Int.ofNat unrecovered
  · exact congrArg Int.ofNat pending
  · exact congrArg Int.ofNat denied

theorem planStepsOf_storedTrace (run : SuccessfulRun ctx plan prog) :
    planStepsOf (storedTrace ctx plan prog) =
      storedSteps ctx.env (planSteps prog.executedSteps) := by
  rw [planStepsOf, traceSteps_storedTrace, storedSteps, List.filter_map, storedSteps, planSteps]
  congr 1
  apply List.filter_congr
  intro step mem
  show decide (step.phase = "plan") = _
  rw [run.phase_eq mem]
  cases step.parentStepIndex with
  | none => rfl
  | some trigger => rfl

theorem recoveryStepsOf_storedTrace (run : SuccessfulRun ctx plan prog) :
    recoveryStepsOf (storedTrace ctx plan prog) = storedSteps ctx.env
        (recoverySteps prog.executedSteps) := by
  rw [recoveryStepsOf, traceSteps_storedTrace, storedSteps, List.filter_map,
    storedSteps, recoverySteps]
  congr 1
  apply List.filter_congr
  intro step mem
  show decide (step.phase = "recovery") = _
  rw [run.phase_eq mem]
  cases step.parentStepIndex with
  | none => rfl
  | some trigger => rfl

theorem planActions_eq (run : SuccessfulRun ctx plan prog) :
    (planSteps prog.executedSteps).map AgentStep.action =
      actualActions ctx.env.text plan.steps := by
  rw [← run.planInputs, planInputs, actualActions, List.map_map]
  apply List.map_congr_left
  intro step mem
  exact run.action_eq (List.mem_of_mem_filter mem)

theorem sequenceAgrees_storedTrace (run : SuccessfulRun ctx plan prog)
    (reads : ReadsContract ctx.preparation.contract reading) :
    sequenceAgrees (storedTrace ctx plan prog) reading.expected =
      true := by
  have expectedEq := reads.expectedActions_eq ctx.env.text
  have someExpected : (expectedActions ctx.env.text
      (Agent.expectedSteps ctx.preparation.contract)).isEmpty = false := by
    rw [expectedEq]
    simpa using reads.someExpected
  have sequenceMatch := run.sequenceMatch
  rw [actionsMatch, someExpected, Bool.false_or, decide_eq_true_eq] at sequenceMatch
  have actualEq := sequenceMatch.trans expectedEq
  have storedExpected : textsField (storedTrace ctx plan prog)
      "expected_action_sequence" = expectedActions ctx.env.text
        (Agent.expectedSteps ctx.preparation.contract) :=
    textsField_eq rfl
  have storedActual : textsField (storedTrace ctx plan prog)
      "actual_action_sequence" =
        actualActions ctx.env.text plan.steps :=
    textsField_eq rfl
  have storedActions : (planStepsOf (storedTrace ctx plan prog)).map
      (fun step => textField step "action") =
        (planSteps prog.executedSteps).map AgentStep.action := by
    rw [planStepsOf_storedTrace run, storedSteps, List.map_map]
    rfl
  simp only [sequenceAgrees, Bool.and_eq_true, decide_eq_true_eq]
  refine ⟨⟨?_, ?_⟩, ?_⟩
  · exact storedExpected.trans expectedEq
  · exact storedActual.trans actualEq
  · exact storedActions.trans ((planActions_eq run).trans actualEq)

theorem stepIndices_storedSteps (run : SuccessfulRun ctx plan prog) :
    (storedSteps ctx.env prog.executedSteps).map stepIndex =
      (List.range prog.executedSteps.length).map (fun index : Nat => (index : Int)) := by
  rw [storedSteps, List.map_map, ← run.faithful.numbered, List.map_map]
  rfl

theorem coverageAgrees_storedTrace (run : SuccessfulRun ctx plan prog)
    (executionLimit : ctx.preparation.agentContext.executionStepLimit =
      ctx.preparation.agentContext.stepLimit + ctx.preparation.agentContext.recoveryStepLimit) :
    coverageAgrees (storedTrace ctx plan prog) = true := by
  have stepsLe := run.stepsLe
  have planStepsLe := run.planStepsLe
  have someStep := List.length_pos_iff.mpr run.someStep
  have stepCountEq : intField (storedTrace ctx plan prog)
      "step_count" = prog.executedSteps.length := rfl
  have limitEq : intField (storedTrace ctx plan prog)
      "execution_step_limit" =
        ctx.preparation.agentContext.executionStepLimit := rfl
  have planLimitEq : intField (storedTrace ctx plan prog)
      "step_limit" = ctx.preparation.agentContext.stepLimit := rfl
  simp only [coverageAgrees, Bool.and_eq_true, decide_eq_true_eq,
    traceSteps_storedTrace, stepCountEq, limitEq, planLimitEq,
    planStepsOf_storedTrace run, stepIndices_storedSteps run]
  simp only [storedSteps, List.length_map]
  refine ⟨⟨⟨⟨⟨?_, ?_⟩, ?_⟩, ?_⟩, ?_⟩, ?_⟩
  · simpa using run.someStep
  · trivial
  · trivial
  · omega
  · omega
  · omega

theorem countP_storedSteps (steps : List AgentStep) (stored : Json → Bool)
    (executed : AgentStep → Bool)
    (same : ∀ step ∈ steps, stored (step.toJson ctx.env) = executed step) :
    (storedSteps ctx.env steps).countP stored = steps.countP executed := by
  rw [storedSteps, List.countP_map]
  apply List.countP_congr
  intro step mem
  rw [Function.comp_apply, same step mem]

theorem actionSteps_storedTrace (run : SuccessfulRun ctx plan prog) (action : String) :
    actionSteps (storedTrace ctx plan prog) action = prog.actionCounts action := by
  rw [actionSteps, traceSteps_storedTrace, run.faithful.actionCounts]
  exact countP_storedSteps _ _ _ (fun _ _ => rfl)

theorem countP_recovery (run : SuccessfulRun ctx plan prog) :
    prog.executedSteps.countP (fun step => step.phase = "recovery") =
      (recoverySteps prog.executedSteps).length := by
  rw [recoverySteps, ← List.countP_eq_length_filter]
  apply List.countP_congr
  intro step mem
  rw [run.phase_eq mem]
  cases step.parentStepIndex with
  | none => simp [phaseOf]
  | some trigger => simp [phaseOf]

theorem countP_successful_recovery (run : SuccessfulRun ctx plan prog) :
    prog.executedSteps.countP (fun step =>
        step.phase = "recovery" && step.successful) =
      (recoverySteps prog.executedSteps).countP AgentStep.successful := by
  rw [recoverySteps, List.countP_filter]
  apply List.countP_congr
  intro step mem
  rw [run.phase_eq mem]
  cases step.parentStepIndex with
  | none => simp [phaseOf]
  | some trigger => simp [phaseOf]

theorem countP_const_true {Item : Type} (items : List Item) :
    items.countP (fun _ => true) = items.length := by
  rw [List.countP_eq_length]
  intro item _
  rfl

theorem countersAgree_storedTrace (run : SuccessfulRun ctx plan prog)
    (shapes : ∀ step ∈ prog.executedSteps, StepShape step) :
    countersAgree (storedTrace ctx plan prog) = true := by
  have stored : ∀ steps : List AgentStep, (storedSteps ctx.env steps).countP
          (fun step => boolField step "successful") =
        steps.countP AgentStep.successful :=
    fun steps => countP_storedSteps steps _ _ (fun _ _ => rfl)
  have failed : (storedSteps ctx.env prog.executedSteps).countP (fun step =>
        !boolField step "successful") =
      prog.executedSteps.countP (fun step => !step.successful) :=
    countP_storedSteps _ _ _ (fun _ _ => rfl)
  have observed : (storedSteps ctx.env prog.executedSteps).countP (fun step =>
        !isNone step "observation") = prog.executedSteps.length :=
    (countP_storedSteps _ _ (fun _ => true) (fun _ _ => rfl)).trans (countP_const_true _)
  have replanned : (prog.replanEvents.map ReplanEvent.toJson).countP
      (fun event => boolField event "successful") =
        prog.replanEvents.countP ReplanEvent.successful := by
    rw [List.countP_map]
    rfl
  have approved : (storedSteps ctx.env prog.executedSteps).countP (fun step =>
        textField step "status" = "approved") =
      prog.executedSteps.countP
        (AgentStep.isCheckpointWith "approved") := by
    apply countP_storedSteps
    intro step mem
    show decide (step.status = "approved") = _
    by_cases isApproved : step.status = "approved"
    · simp [AgentStep.isCheckpointWith, isApproved, (shapes step mem).approved isApproved]
    · simp [AgentStep.isCheckpointWith, isApproved]
  have checkpoints : actionSteps (storedTrace ctx plan prog)
      "approval_checkpoint" = prog.executedSteps.countP
        (fun step => step.action = "approval_checkpoint") :=
    countP_storedSteps _ _ _ (fun _ _ => rfl)
  simp only [countersAgree, observedCounts, traceSteps_storedTrace,
    recoveryStepsOf_storedTrace run, replans_storedTrace, stored, failed,
    observed, replanned, approved, checkpoints, actionSteps_storedTrace run,
    List.all_cons, List.all_nil, Bool.and_true, Bool.and_eq_true,
    decide_eq_true_eq]
  have recoveries := countP_recovery run
  have successfulRecoveries := countP_successful_recovery run
  refine ⟨rfl, rfl, ?_, ?_, rfl, ?_, rfl, rfl, rfl, rfl, rfl, rfl, rfl⟩
  · rw [storedSteps, List.length_map, ← recoveries]
    rfl
  · rw [← successfulRecoveries]
    rfl
  · rw [List.length_map]
    rfl

section Once

variable {event : ReplanEvent} {triggered : AgentStep}

theorem selectedSteps_storedTrace (run : SuccessfulRun ctx plan prog)
    (once : ReplannedOnce prog event triggered) :
    selectedSteps (storedTrace ctx plan prog) event.toJson = storedSteps ctx.env
        (recoverySteps prog.executedSteps) := by
  rw [selectedSteps, recoveryStepsOf_storedTrace run,
    intsField_recoveryStepIndices, once.indices, List.filter_eq_self]
  intro stored mem
  obtain ⟨step, stepMem, rfl⟩ := List.mem_map.mp mem
  rw [List.contains_iff_mem, List.map_map]
  exact List.mem_map.mpr ⟨step, stepMem, rfl⟩

theorem recoveredIndex_storedTrace (run : SuccessfulRun ctx plan prog)
    (once : ReplannedOnce prog event triggered) :
    recoveredIndex (storedTrace ctx plan prog) event.toJson = some (triggered.stepIndex : Int) := by
  have trigger : intField event.toJson "trigger_step_index" =
      event.triggerStepIndex := rfl
  have actual : textsField event.toJson "actual_action_sequence" =
      event.actualActionSequence := textsField_eq rfl
  have expected : textsField event.toJson "expected_action_sequence" =
      event.expectedActionSequence := textsField_eq rfl
  have someIndex : (event.recoveryStepIndices.map
      (fun index : Nat => (index : Int))).isEmpty = false := by
    rw [once.indices]
    simpa using once.someRecovery
  have sameIndices : (storedSteps ctx.env (recoverySteps prog.executedSteps)).map stepIndex =
        event.recoveryStepIndices.map (fun index : Nat => (index : Int)) := by
    rw [once.indices, storedSteps, List.map_map, List.map_map]
    rfl
  have allRecovered : (storedSteps ctx.env (recoverySteps prog.executedSteps)).all (fun step =>
        boolField step "successful" && pyEqOption
          (step.get? "parent_step_index")
          (some (.int event.triggerStepIndex))) = true := by
    rw [List.all_eq_true]
    intro stored mem
    obtain ⟨step, stepMem, rfl⟩ := List.mem_map.mp mem
    obtain ⟨successful, parent⟩ := once.recovered step stepMem
    have storedParent : (step.toJson ctx.env).get?
        "parent_step_index" = some (.int event.triggerStepIndex) := by
      simp only [AgentStep.toJson, parent]
      rfl
    rw [Bool.and_eq_true, storedParent]
    exact ⟨successful, pyEq_self _⟩
  have sameActions : (storedSteps ctx.env (recoverySteps prog.executedSteps)).map (fun step =>
        textField step "action") = event.actualActionSequence := by
    rw [once.actions, storedSteps, List.map_map]
    rfl
  have sequenceMatch : (event.expectedActionSequence.isEmpty ||
      event.expectedActionSequence = event.actualActionSequence) = true := by
    have matching := once.sequenceMatch
    rw [actionsMatch, Bool.or_eq_true, decide_eq_true_eq] at matching
    rw [Bool.or_eq_true, decide_eq_true_eq]
    exact matching.imp_right Eq.symm
  have position : ((planStepsOf (storedTrace ctx plan
      prog))[event.triggerStepIndex]?).map stepIndex = some (triggered.stepIndex : Int) := by
    rw [planStepsOf_storedTrace run, storedSteps, List.getElem?_map, once.trigger]
    rfl
  simp only [recoveredIndex, trigger, actual, expected,
    intsField_recoveryStepIndices, selectedSteps_storedTrace run once]
  rw [if_pos]
  · exact position
  · simp only [Bool.and_eq_true, decide_eq_true_eq, Bool.not_eq_true']
    refine ⟨⟨⟨⟨⟨⟨⟨⟨once.successful, once.status⟩, once.matchNoted⟩, someIndex⟩,
      sameIndices⟩, allRecovered⟩, sameActions⟩, sequenceMatch⟩, ?_⟩
    omega

end Once

theorem recoveredIndices_storedTrace (run : SuccessfulRun ctx plan prog) {step : AgentStep}
    (mem : step ∈ prog.executedSteps) :
    (recoveredIndices (storedTrace ctx plan prog)).contains
        (step.stepIndex : Int) = step.recoveredByReplan := by
  rw [recoveredIndices, replans_storedTrace]
  rcases run.replanState with none | ⟨event, triggered, once⟩
  · rw [none.noEvent, none.noMark step mem]
    rfl
  · rw [once.onlyEvent, List.map_singleton, List.filterMap_cons,
      recoveredIndex_storedTrace run once, once.marked step mem]
    simp

theorem recoveredIndex_isSome (run : SuccessfulRun ctx plan prog) :
    ((storedTrace ctx plan prog).items "replans").all (fun event =>
      (recoveredIndex (storedTrace ctx plan prog) event).isSome) =
      true := by
  rw [replans_storedTrace]
  rcases run.replanState with none | ⟨event, triggered, once⟩
  · rw [none.noEvent]
    rfl
  · rw [once.onlyEvent, List.map_singleton, List.all_cons, recoveredIndex_storedTrace run once]
    rfl

theorem recoveryCovered_storedTrace (run : SuccessfulRun ctx plan prog) :
    recoveryCovered (storedTrace ctx plan prog) = true := by
  have replansLe := run.replansLe
  have countEq : intField (storedTrace ctx plan prog) "replan_count" =
      prog.replanEvents.length := rfl
  have limitEq : intField (storedTrace ctx plan prog) "replan_limit" =
      ctx.preparation.agentContext.replanLimit := rfl
  have covered : (((storedTrace ctx plan prog).items
      "replans").flatMap (fun event =>
        intsField event "recovery_step_indices")).isPerm
      ((recoveryStepsOf (storedTrace ctx plan prog)).map stepIndex) =
        true := by
    rw [List.isPerm_iff, replans_storedTrace, recoveryStepsOf_storedTrace run,
      storedSteps, List.map_map]
    rcases run.replanState with none | ⟨event, triggered, once⟩
    · rw [none.noEvent, none.noRecovery]
      rfl
    · rw [once.onlyEvent, List.map_singleton, List.flatMap_singleton,
        intsField_recoveryStepIndices, once.indices, List.map_map]
      rfl
  have matched : (((storedTrace ctx plan prog).items
      "replans").isEmpty || boolField (storedTrace ctx plan prog)
        "recovery_sequence_match") = true := by
    rw [replans_storedTrace]
    rcases run.replanState with none | ⟨event, triggered, once⟩
    · rw [none.noEvent]
      rfl
    · have noted : recoverySequenceMatch prog.replanEvents = some true := by
        rw [once.onlyEvent, recoverySequenceMatch, List.all_cons, once.matchNoted]
        rfl
      rw [Bool.or_eq_true]
      right
      simp only [storedTrace, runTrace, finishedTrace, noted]
      rfl
  simp only [recoveryCovered, Bool.and_eq_true, decide_eq_true_eq]
  refine ⟨⟨covered, ?_⟩, matched⟩
  omega

end Run

end ModelAtlas.Gate
