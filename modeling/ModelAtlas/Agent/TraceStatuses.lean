import ModelAtlas.Agent.TraceOutcomes

/-!
# Statuses of a trace

A trace is faithful to its steps exactly when no recovery of its run reaches a
checkpoint that it has no approval for: the executor reports such a checkpoint
as a failed recovery.
-/

namespace ModelAtlas.Agent

open Foundations Approval

structure StopsAtCheckpoint (env : AgentEnvironment)
    (prep : AgentPreparation) (call : StepCall) : Prop where
  notRefused : stepViolations env prep call = []
  action : call.plannedText env "action" = "approval_checkpoint"
  allowed : checkpointViolations env prep call
    (pyStrip (call.plannedText env "checkpoint_id")) = []
  notApproved : ∀ decision,
    (prep.approvalDecisions.lookup
        (pyStrip (call.plannedText env "checkpoint_id"))).or
      (prep.approvalDecisions.lookup "*") = some decision →
    Json.isText (decision.get? "decision") "approved" = false

section Stops

variable {env : AgentEnvironment} {externalCaseId : String}
  {prep : AgentPreparation} {call : StepCall}

def AgentStep.isStopped (step : AgentStep) : Prop :=
  step.status = "pending" ∨ step.status = "denied"

theorem executeStep_statuses (toolCall : ToolCall) : (executeStep env toolCall).executionStatus ∈
      ["success", "failed", "skipped"] := by
  simp only [executeStep]
  split
  · exact (show "skipped" ∈ _ by decide)
  split
  · simp only [attemptedToolCall]
    split
    · exact (show "success" ∈ _ by decide)
    · exact (show "failed" ∈ _ by decide)
  · exact (show "skipped" ∈ _ by decide)

theorem executeApprovalCheckpoint_isStopped_iff (allowed : stepViolations env prep call = [])
    (action : call.plannedText env "action" = "approval_checkpoint") :
    (executeApprovalCheckpoint env prep call).isStopped ↔ StopsAtCheckpoint env prep call := by
  have notOther : ∀ status, status ∉ ["pending", "denied"] →
      ¬ (status = "pending" ∨ status = "denied") := by
    intro status notStopped stopped
    simp only [List.mem_cons, List.not_mem_nil, or_false] at notStopped
    exact notStopped stopped
  simp only [executeApprovalCheckpoint]
  split
  · next violated =>
      constructor
      · exact fun stopped => absurd stopped
          (notOther "policy_violation" (by decide))
      · intro stops
        rw [stops.allowed] at violated
        cases violated
  next kept =>
  have noViolation : checkpointViolations env prep call
      (pyStrip (call.plannedText env "checkpoint_id")) = [] := by
    simpa using kept
  split
  · next undecided =>
      refine ⟨fun _ => ⟨allowed, action, noViolation, ?_⟩, fun _ => Or.inl rfl⟩
      intro decision decided
      rw [undecided] at decided
      cases decided
  · next decision decided =>
      split
      · next approved =>
          constructor
          · exact fun stopped => absurd stopped (notOther "approved" (by decide))
          · intro stops
            rw [stops.notApproved decision decided] at approved
            cases approved
      · next notApproved =>
          refine ⟨fun _ => ⟨allowed, action, noViolation, ?_⟩, fun _ => Or.inr rfl⟩
          intro other otherDecided
          rw [decided] at otherDecided
          cases otherDecided
          simpa using notApproved

def otherStatuses : List String :=
  ["policy_violation", "success", "failed", "skipped"]

theorem not_isStopped_of_other {step : AgentStep}
    (status : step.status ∈ otherStatuses) : ¬ step.isStopped := by
  rintro (waits | refused)
  · rw [waits] at status
    exact absurd status (by decide)
  · rw [refused] at status
    exact absurd status (by decide)

theorem executeAgentStep_otherStatus {env : AgentEnvironment}
    (other : call.plannedText env.withDefaultTools.toAgentEnvironment
      "action" ≠ "approval_checkpoint") :
    (executeAgentStep env.withDefaultTools.toAgentEnvironment
      externalCaseId prep call).status ∈ otherStatuses := by
  have success : "success" ∈ otherStatuses := by decide
  have failed : "failed" ∈ otherStatuses := by decide
  apply executeAgentStep_cases (motive := fun step => step.status ∈ otherStatuses)
  case refused => exact fun _ => (show "policy_violation" ∈ _ by decide)
  case unsupported => exact fun _ => failed
  case approvalCheckpoint => exact fun _ action => absurd action other
  case memoryRead =>
    intro _ _
    simp only [executeMemoryRead]
    split
    · exact success
    · exact failed
  case memoryWrite =>
    intro _ _
    simp only [executeMemoryWrite]
    split
    · exact success
    · exact failed
  case retrieve =>
    intro _ _
    simp only [executeRetrieval]
    split
    · exact success
    · exact failed
  case tool =>
    intro _ _
    simp only [executeToolAction]
    split
    · exact failed
    · simp only [failedStep, withDefaultTools_executeRegisteredToolCall, executeRegisteredToolCall]
      exact List.mem_cons_of_mem _ (executeStep_statuses _)
  case respond =>
    intro _ _
    simp only [executeResponse]
    split
    · exact success
    · exact failed

theorem executeAgentStep_isStopped_iff {env : AgentEnvironment} :
    (executeAgentStep env.withDefaultTools.toAgentEnvironment externalCaseId prep call).isStopped ↔
      StopsAtCheckpoint env.withDefaultTools.toAgentEnvironment prep call := by
  by_cases action : call.plannedText
      env.withDefaultTools.toAgentEnvironment "action" =
        "approval_checkpoint"
  · by_cases allowed : stepViolations env.withDefaultTools.toAgentEnvironment prep call = []
    · have isCheckpoint : executeAgentStep env.withDefaultTools.toAgentEnvironment externalCaseId
            prep call =
          executeApprovalCheckpoint env.withDefaultTools.toAgentEnvironment prep
              call := by
        simp only [executeAgentStep, allowed, action, List.isEmpty_nil,
          Bool.not_true, Bool.false_eq_true, if_false, if_true]
      rw [isCheckpoint]
      exact executeApprovalCheckpoint_isStopped_iff allowed action
    · have refused : (executeAgentStep env.withDefaultTools.toAgentEnvironment externalCaseId
          prep call).status ∈ otherStatuses := by
        simp only [executeAgentStep]
        rw [if_pos (by simpa using allowed)]
        exact (show "policy_violation" ∈ _ by decide)
      exact iff_of_false (not_isStopped_of_other refused) (fun stops => allowed stops.notRefused)
  · exact iff_of_false (not_isStopped_of_other (executeAgentStep_otherStatus action))
      (fun stops => action stops.action)

end Stops

structure FaithfulOutcome (env : AgentEnvironment)
    (payload : Option Json) (prep : AgentPreparation)
    (trace : AgentExecutionTrace) : Prop where
  verdict : trace.successful = true ↔
    FollowedPlan env payload prep trace
  success : trace.status = "success" ↔ trace.successful = true
  pending : trace.status = "pending_approval" ↔
    ∃ step ∈ trace.steps, step.status = "pending"
  denied : trace.status = "approval_denied" ↔
    ∃ step ∈ trace.steps, step.status = "denied"

def RecoveryStops (env : AgentEnvironment)
    (prep : AgentPreparation) (trace : AgentExecutionTrace) : Prop :=
  ∃ before step after, trace.steps = before ++ step :: after ∧ step.parentStepIndex ≠ none ∧
    StopsAtCheckpoint env prep (callAfter env prep.contract before step.input step.parentStepIndex)

structure PlanOutcome (env : AgentEnvironment)
    (payload : Option Json) (prep : AgentPreparation)
    (trace : AgentExecutionTrace) : Prop where
  verdict : trace.successful = true ↔
    FollowedPlan env payload prep trace
  success : trace.status = "success" ↔ trace.successful = true
  pending : trace.status = "pending_approval" ↔
    ∃ step ∈ planSteps trace.steps, step.status = "pending"
  denied : trace.status = "approval_denied" ↔
    ∃ step ∈ planSteps trace.steps, step.status = "denied"

section Outcome

theorem runTrace_status (ctx : PlanContext) (plan : ParsedPlan) (prog : PlanProgress) :
    ((runTrace ctx plan prog).status = "pending_approval" ↔
        prog.haltReason = some "approval_pending") ∧
      ((runTrace ctx plan prog).status = "approval_denied" ↔
        prog.haltReason = some "approval_denied") ∧
      ((runTrace ctx plan prog).status = "success" ↔
        (runTrace ctx plan prog).successful = true) := by
  have running : (runTrace ctx plan prog).successful = true → prog.haltReason = none :=
    fun successful => (reportsSuccess_of_successful successful).haltReason
  have statusEq : (runTrace ctx plan prog).status =
      if prog.haltReason = some "approval_pending" then "pending_approval"
      else if prog.haltReason = some "approval_denied" then
        "approval_denied"
      else if (runTrace ctx plan prog).successful then "success"
      else if prog.executedSteps.any AgentStep.successful then
        "partial_failure"
      else "failed" := rfl
  rw [statusEq]
  by_cases waits : prog.haltReason = some "approval_pending"
  · have failed : (runTrace ctx plan prog).successful ≠ true := by
      intro successful
      rw [running successful] at waits
      cases waits
    rw [if_pos waits, waits]
    exact ⟨by decide, by decide, iff_of_false (by decide) failed⟩
  rw [if_neg waits]
  by_cases refused : prog.haltReason = some "approval_denied"
  · have failed : (runTrace ctx plan prog).successful ≠ true := by
      intro successful
      rw [running successful] at refused
      cases refused
    rw [if_pos refused, refused]
    exact ⟨by decide, by decide, iff_of_false (by decide) failed⟩
  rw [if_neg refused]
  by_cases successful : (runTrace ctx plan prog).successful = true
  · rw [if_pos successful]
    exact ⟨iff_of_false (by decide) waits, iff_of_false (by decide) refused,
      iff_of_true rfl successful⟩
  rw [if_neg successful]
  split
  · exact ⟨iff_of_false (by decide) waits, iff_of_false (by decide) refused,
      iff_of_false (by decide) successful⟩
  · exact ⟨iff_of_false (by decide) waits, iff_of_false (by decide) refused,
      iff_of_false (by decide) successful⟩

variable {env : AgentEnvironment} {externalCaseId : String}
  {payload : Option Json} {prep : AgentPreparation}
  {callback : Option AgentLiveReplanCallback}

theorem executeAgentPlan_planOutcome (records : RecordsObjects callback)
    (replanLimitLe : prep.agentContext.replanLimit ≤ 1) :
    PlanOutcome env payload prep (executeAgentPlan env externalCaseId payload prep callback) := by
  apply executeAgentPlan_outcomes (motive := PlanOutcome env payload prep)
  case rejected =>
    intro expected actual parseValid parseError status haltReason stepCount rejected
    have noStep : ∀ other : String,
        ¬ ∃ step ∈ planSteps ([] : List AgentStep), step.status = other := by
      rintro other ⟨step, mem, _⟩
      cases mem
    have distinct : ∀ other, other ∉ rejectedStatuses → status ≠ other :=
      fun other notRejected same => notRejected (same ▸ rejected)
    refine ⟨iff_of_false nofun ?_, iff_of_false (distinct _ (by decide)) nofun,
      iff_of_false (distinct _ (by decide)) (noStep _),
      iff_of_false (distinct _ (by decide)) (noStep _)⟩
    intro followed
    obtain ⟨step, mem, _⟩ := followed.response
    cases mem
  case executed =>
    intro plan parsed accepted
    have explained : HaltExplained (runPlan (planContext env
        externalCaseId prep plan callback) plan.steps 0 PlanProgress.initial) :=
      runPlan_explained plan.steps 0 PlanProgress.initial onCourse_initial rfl
    obtain ⟨pending, denied, success⟩ := runTrace_status (planContext env
      externalCaseId prep plan callback) plan (runPlan (planContext
        env externalCaseId prep plan callback) plan.steps 0
        PlanProgress.initial)
    exact ⟨runTrace_successful_iff records replanLimitLe parsed accepted,
      success, pending.trans explained.pending, denied.trans explained.denied⟩

theorem eq_of_isStopped {steps : List AgentStep}
    (recorded : EachStep (Recorded env externalCaseId prep) steps)
    {step other : AgentStep} (mem : step ∈ steps)
    (otherMem : other ∈ steps) (stopped : step.isStopped)
    (otherStopped : other.isStopped) : step = other := by
  have notQuiet : ∀ {each : AgentStep}, each.isStopped → ¬ each.Quiet := by
    rintro each (waits | refused) quiet
    · exact quiet.notPending waits
    · exact quiet.notDenied refused
  obtain ⟨before, after, rfl⟩ := List.append_of_mem mem
  rcases List.mem_append.mp otherMem with earlier | later
  · exact absurd ((recorded before step after rfl).quietBefore other earlier)
      (notQuiet otherStopped)
  · rcases List.mem_cons.mp later with rfl | last
    · rfl
    · obtain ⟨between, rest, rfl⟩ := List.append_of_mem last
      have quiet := (recorded (before ++ step :: between) other rest
        (by simp)).quietBefore step (by simp)
      exact absurd quiet (notQuiet stopped)

theorem Recorded.isStopped_iff {env : AgentEnvironment} {before : List AgentStep} {step : AgentStep}
    (recorded : Recorded env.withDefaultTools.toAgentEnvironment externalCaseId prep before step) :
    step.isStopped ↔ StopsAtCheckpoint env.withDefaultTools.toAgentEnvironment prep
      (callAfter env.withDefaultTools.toAgentEnvironment
        prep.contract before step.input step.parentStepIndex) := by
  have sameStatus : step.unmarked.isStopped ↔ step.isStopped := Iff.rfl
  rw [← sameStatus, recorded.executed]
  exact executeAgentStep_isStopped_iff

/-- A trace says what its steps do exactly when no recovery of its run stops at
a checkpoint. -/
theorem faithfulOutcome_iff (env : AgentEnvironment)
    (evalCase : EvaluationCase) (decisions payload : Option Json)
    (provider : Option LiveReplanProvider) {prep : AgentPreparation}
    (prepared : prepareAgentExecution env.withDefaultTools evalCase decisions = some prep) :
    let executing := env.withDefaultTools.toAgentEnvironment
    let trace := executeAgentPlan executing evalCase.externalCaseId payload
      prep (provider.map (LiveReplanProvider.callback executing))
    FaithfulOutcome executing payload prep trace ↔ ¬ RecoveryStops executing prep trace := by
  intro executing trace
  have replanLimitLe : prep.agentContext.replanLimit ≤ 1 := by
    rw [prepareAgentExecution_eq_some prepared]
    exact agentContext_replanLimit_le _
  have outcome : PlanOutcome executing payload prep trace :=
    executeAgentPlan_planOutcome (recordsObjects_callback executing provider) replanLimitLe
  have recorded : EachStep (Recorded executing evalCase.externalCaseId
      prep) trace.steps := executeAgentPlan_recorded
  constructor
  · rintro faithful ⟨before, step, after, split, ofRecovery, stops⟩
    have mem : step ∈ trace.steps := by
      rw [split]
      exact List.mem_append_right _ (List.mem_cons_self ..)
    have stopped : step.isStopped :=
      (recorded before step after split).isStopped_iff.mpr stops
    -- the step of the plan that the status tells of would be a second one
    have second : ∀ status, (∃ planned ∈ planSteps trace.steps, planned.status = status) →
        (status = "pending" ∨ status = "denied") → False := by
      rintro status ⟨planned, plannedMem, isStatus⟩ stops
      have plannedStopped : planned.isStopped := by
        rw [AgentStep.isStopped, isStatus]
        exact stops
      have same := eq_of_isStopped recorded mem
        (List.mem_of_mem_filter plannedMem) stopped plannedStopped
      have noParent : planned.parentStepIndex = none := by
        simpa [planSteps] using (List.mem_filter.mp plannedMem).2
      exact ofRecovery (same ▸ noParent)
    rcases stopped with waits | refused
    · exact second "pending"
        (outcome.pending.mp (faithful.pending.mpr ⟨step, mem, waits⟩))
        (Or.inl rfl)
    · exact second "denied"
        (outcome.denied.mp (faithful.denied.mpr ⟨step, mem, refused⟩))
        (Or.inr rfl)
  · intro noneStops
    have ofPlan : ∀ status, (status = "pending" ∨ status = "denied") →
        ((∃ step ∈ planSteps trace.steps, step.status = status) ↔
          ∃ step ∈ trace.steps, step.status = status) := by
      intro status stops
      constructor
      · rintro ⟨step, mem, isStatus⟩
        exact ⟨step, List.mem_of_mem_filter mem, isStatus⟩
      · rintro ⟨step, mem, isStatus⟩
        refine ⟨step, List.mem_filter.mpr ⟨mem, ?_⟩, isStatus⟩
        by_contra ofRecovery
        obtain ⟨before, after, split⟩ := List.append_of_mem mem
        apply noneStops
        refine ⟨before, step, after, split, by simpa using ofRecovery, ?_⟩
        apply (recorded before step after split).isStopped_iff.mp
        rw [AgentStep.isStopped, isStatus]
        exact stops
    exact ⟨outcome.verdict, outcome.success,
      outcome.pending.trans (ofPlan "pending" (Or.inl rfl)),
      outcome.denied.trans (ofPlan "denied" (Or.inr rfl))⟩

end Outcome

def guardedRecoveryCase : EvaluationCase where
  externalCaseId := "case"
  category := "agent"
  reference := .obj [("agent", .obj
    [("allowed_actions", .arr [.str "memory_read", .str "approval_checkpoint",
        .str "respond"]),
      ("allowed_memory_ids", .arr [.str "runbook"]),
      ("allowed_checkpoint_ids", .arr [.str "release"]),
      ("allow_replanning", .bool true)])]

def guardedRecoveryPlan : Json :=
  .obj
    [("steps", .arr
      [.obj [("action", .str "memory_read"), ("memory_id", .str "missing")],
        .obj [("action", .str "respond"), ("content", .str "done")]]),
      ("recovery_plans", .arr
        [.obj [("trigger_step_index", .int 0),
          ("steps", .arr [.obj [("action", .str "approval_checkpoint"),
            ("checkpoint_id", .str "release")]])]])]

def guardedRecoveryPreparation : AgentPreparation :=
  (prepareAgentExecution smallEnvironment.toAgentEnvironment.withDefaultTools guardedRecoveryCase
    none).get (by rfl)

def guardedRecoveryTrace (payload : Json) : AgentExecutionTrace :=
  executeAgentPlan smallEnvironment.toAgentEnvironment.withDefaultTools.toAgentEnvironment
    "case" (some payload) guardedRecoveryPreparation none

theorem faithfulOutcome_recoveryWaits :
    (guardedRecoveryTrace guardedRecoveryPlan).steps.map AgentStep.status =
        ["failed", "pending"] ∧
      (guardedRecoveryTrace guardedRecoveryPlan).status = "failed" ∧
      ¬ FaithfulOutcome smallEnvironment.toAgentEnvironment.withDefaultTools.toAgentEnvironment
        (some guardedRecoveryPlan) guardedRecoveryPreparation
        (guardedRecoveryTrace guardedRecoveryPlan) := by
  have statuses : (guardedRecoveryTrace guardedRecoveryPlan).steps.map
      AgentStep.status = ["failed", "pending"] := by decide +kernel
  have failed : (guardedRecoveryTrace guardedRecoveryPlan).status =
      "failed" := by decide +kernel
  refine ⟨statuses, failed, fun faithful => ?_⟩
  have waits : "pending" ∈ (guardedRecoveryTrace guardedRecoveryPlan).steps.map
      AgentStep.status := by
    rw [statuses]
    decide
  have told := faithful.pending.mpr (List.mem_map.mp waits)
  rw [failed] at told
  exact absurd told (by decide)

theorem faithfulOutcome_iff_response : FaithfulOutcome
      smallEnvironment.toAgentEnvironment.withDefaultTools.toAgentEnvironment
      (some recoverablePlan) guardedRecoveryPreparation
      (guardedRecoveryTrace recoverablePlan) := by
  have prepared : prepareAgentExecution
      smallEnvironment.toAgentEnvironment.withDefaultTools guardedRecoveryCase
      none = some guardedRecoveryPreparation := (Option.some_get _).symm
  refine (faithfulOutcome_iff smallEnvironment.toAgentEnvironment
    guardedRecoveryCase none (some recoverablePlan) none prepared).mpr ?_
  rintro ⟨before, step, after, split, ofRecovery, _⟩
  have parents : (guardedRecoveryTrace recoverablePlan).steps.all
      (fun step => step.parentStepIndex.isNone) = true := by decide +kernel
  have steps : (guardedRecoveryTrace recoverablePlan).steps = before ++ step :: after := split
  rw [steps, List.all_append, List.all_cons, Bool.and_eq_true, Bool.and_eq_true] at parents
  exact ofRecovery (Option.isNone_iff_eq_none.mp parents.2.1)

end ModelAtlas.Agent
