import ModelAtlas.Agent.SuccessfulTraces

/-!
# Outcomes of a trace

What the verdict and the status of a trace say of its steps. The status does not
tell a checkpoint of a recovery.
-/

namespace ModelAtlas.Agent

open Foundations Approval

def KeepsPlanSteps (before after : List AgentStep) : Prop :=
  ∃ change, KeepsUnmarked change ∧ planSteps after = (planSteps before).map change

theorem keepsPlanSteps_of_eq {before after : List AgentStep}
    (same : planSteps after = planSteps before) : KeepsPlanSteps before after :=
  ⟨id, fun _ => rfl, by rw [same, List.map_id]⟩

theorem KeepsPlanSteps.exists_status_iff {before after : List AgentStep}
    (keeps : KeepsPlanSteps before after) (status : String) :
    (∃ step ∈ planSteps after, step.status = status) ↔
      ∃ step ∈ planSteps before, step.status = status := by
  obtain ⟨change, keepsMarks, same⟩ := keeps
  have sameStatus := keepsMarks.field AgentStep.status (fun _ => rfl)
  rw [same]
  constructor
  · rintro ⟨step, mem, isStatus⟩
    obtain ⟨original, originalMem, rfl⟩ := List.mem_map.mp mem
    exact ⟨original, originalMem, (sameStatus original).symm.trans isStatus⟩
  · rintro ⟨step, mem, isStatus⟩
    exact ⟨change step, List.mem_map_of_mem mem, (sameStatus step).trans isStatus⟩

theorem RecoveryTrail.planSteps_eq {text : TextEnvironment} {trigger : Nat}
    {steps : List Json} {before after : RecoveryRun} {added : List AgentStep}
    (trail : RecoveryTrail text trigger steps before after added) :
    planSteps after.progress.executedSteps = planSteps before.progress.executedSteps := by
  have noPlan : planSteps added = [] := by
    rw [planSteps, List.filter_eq_nil_iff]
    intro step mem
    simp [(trail.recoverySteps step mem).parentStepIndex]
  rw [trail.executedSteps, planSteps_append, noPlan, List.append_nil]

structure RecoveryEnds (before : List AgentStep) (after : PlanProgress)
    (step : AgentStep) : Prop where
  planSteps : KeepsPlanSteps before after.executedSteps
  reason : ∀ reason, after.haltReason = some reason →
    reason ≠ "approval_pending" ∧ reason ≠ "approval_denied"
  triggerStays : after.haltReason ≠ none → step ∈ after.executedSteps

section Recovery

variable {ctx : PlanContext} {prog : PlanProgress} {step : AgentStep}

theorem recoveryEnds_rejected {event : ReplanEvent} {reason : String}
    (mem : step ∈ prog.executedSteps)
    (other : reason ≠ "approval_pending" ∧ reason ≠ "approval_denied") :
    RecoveryEnds prog.executedSteps ((prog.addEvent event).halt reason) step where
  planSteps := keepsPlanSteps_of_eq rfl
  reason _ halted := Option.some.inj halted ▸ other
  triggerStays _ := mem

theorem recoveryEnds_running (running : prog.haltReason = none) :
    RecoveryEnds prog.executedSteps prog step where
  planSteps := keepsPlanSteps_of_eq rfl
  reason _ halted := by
    rw [running] at halted
    cases halted
  triggerStays halted := absurd running halted

theorem runRecovery_haltReason (ctx : PlanContext) (expectedRecovery : List Json) (trigger : Nat)
    (steps : List Json) (recoveryIndex : Nat) (run : RecoveryRun)
    (running : run.progress.haltReason = none) :
    (runRecovery ctx expectedRecovery trigger steps recoveryIndex run).progress.haltReason = none ∨
      (runRecovery ctx expectedRecovery trigger steps recoveryIndex
        run).progress.haltReason = some "execution_step_limit_exceeded" := by
  induction steps generalizing recoveryIndex run with
  | nil =>
    exact Or.inl running
  | cons recoveryStep rest ih =>
    rw [runRecovery]
    split
    · exact Or.inl running
    split
    · exact Or.inr rfl
    simp only
    split
    · exact ih _ _ running
    · exact Or.inl running

theorem attemptRecovery_ends {index : Nat} {plan : RecoveryPlan} (mem : step ∈ prog.executedSteps)
    (running : prog.haltReason = none) :
    RecoveryEnds prog.executedSteps (attemptRecovery ctx prog index step plan) step := by
  obtain ⟨added, trail⟩ := runRecovery_trail ctx
    (expectedRecoverySteps ctx.preparation.contract index) index plan.steps
    0 ⟨prog, [], "running", !plan.steps.isEmpty⟩
  have halted := runRecovery_haltReason ctx
    (expectedRecoverySteps ctx.preparation.contract index) index plan.steps
    0 ⟨prog, [], "running", !plan.steps.isEmpty⟩ running
  simp only [attemptRecovery]
  split
  · exact recoveryEnds_running running
  split
  · exact recoveryEnds_rejected mem (by decide)
  split
  · exact recoveryEnds_rejected mem (by decide)
  generalize runRecovery ctx (expectedRecoverySteps ctx.preparation.contract index) index plan.steps
    0 ⟨prog, [], "running", !plan.steps.isEmpty⟩ = run at trail halted ⊢
  have appended : run.progress.executedSteps = prog.executedSteps ++ added := trail.executedSteps
  split
  · next completed =>
      have goesOn : run.progress.haltReason = none :=
        (trail.complete completed).2.2.trans running
      refine ⟨⟨_, keepsUnmarked_markRecovered step.stepIndex, ?_⟩, ?_, ?_⟩
      · exact (planSteps_map (keepsUnmarked_markRecovered step.stepIndex)
          _).trans (congrArg _ trail.planSteps_eq)
      · intro reason isReason
        have same : (run.progress.haltReason : Option String) = some reason :=
          isReason
        rw [goesOn] at same
        cases same
      · intro notNone
        exact absurd goesOn notNone
  · refine ⟨keepsPlanSteps_of_eq trail.planSteps_eq, ?_, ?_⟩
    · intro reason isReason
      rw [← Option.some.inj isReason]
      rcases halted with none | limit
      · rw [none]
        exact ⟨by decide, by decide⟩
      · rw [limit]
        exact ⟨by decide, by decide⟩
    · intro _
      have stays : step ∈ run.progress.executedSteps := by
        rw [appended]
        exact List.mem_append_left _ mem
      exact stays

theorem recoverStep_ends {index : Nat} (mem : step ∈ prog.executedSteps)
    (running : prog.haltReason = none) :
    RecoveryEnds prog.executedSteps (recoverStep ctx prog index step) step := by
  rw [recoverStep]
  split
  · exact attemptRecovery_ends mem running
  split
  · exact recoveryEnds_running running
  split
  · simp only [replanLive]
    generalize calledEq : ({ prog with
      liveReplanCallCount := prog.liveReplanCallCount + 1 } : PlanProgress) = called
    have sameSteps : prog.executedSteps = called.executedSteps :=
      calledEq ▸ rfl
    have goesOn : called.haltReason = none := calledEq ▸ running
    rw [sameSteps] at mem ⊢
    split
    · exact recoveryEnds_rejected mem ⟨by decide, by decide⟩
    · exact recoveryEnds_rejected mem ⟨by decide, by decide⟩
    · exact attemptRecovery_ends mem goesOn
  · exact recoveryEnds_running running

end Recovery

/-- Why a run was halted, as its steps tell: by a checkpoint that waits or was denied, or over a
step that no recovery mended. -/
structure HaltExplained (prog : PlanProgress) : Prop where
  pending : prog.haltReason = some "approval_pending" ↔
    ∃ step ∈ planSteps prog.executedSteps, step.status = "pending"
  denied : prog.haltReason = some "approval_denied" ↔
    ∃ step ∈ planSteps prog.executedSteps, step.status = "denied"
  unmended : prog.haltReason ≠ none → ∃ step ∈ prog.executedSteps,
    step.policyViolations ≠ [] ∨ step.isUnrecovered = true

theorem haltExplained_of_quiet {prog : PlanProgress} (running : prog.haltReason = none)
    (quiet : AllQuiet prog.executedSteps) : HaltExplained prog where
  pending := by
    rw [running]
    refine ⟨nofun, fun ⟨step, mem, waits⟩ => ?_⟩
    exact absurd waits (quiet step (List.mem_of_mem_filter mem)).notPending
  denied := by
    rw [running]
    refine ⟨nofun, fun ⟨step, mem, refused⟩ => ?_⟩
    exact absurd refused (quiet step (List.mem_of_mem_filter mem)).notDenied
  unmended halted := absurd running halted

theorem haltExplained_of_last {prog : PlanProgress} {before : List AgentStep} {step : AgentStep}
    {reason : String} (steps : prog.executedSteps = before ++ [step]) (quiet : AllQuiet before)
    (noParent : step.parentStepIndex = none) (halted : prog.haltReason = some reason)
    (pending : reason = "approval_pending" ↔ step.status = "pending")
    (denied : reason = "approval_denied" ↔ step.status = "denied")
    (unmended : step.policyViolations ≠ [] ∨ step.isUnrecovered = true) :
    HaltExplained prog := by
  have lastMem : step ∈ prog.executedSteps := by
    rw [steps]
    exact List.mem_append_right _ (List.mem_singleton_self step)
  have planned : step ∈ planSteps prog.executedSteps :=
    List.mem_filter.mpr ⟨lastMem, by simp [noParent]⟩
  have onlyLast : ∀ other ∈ planSteps prog.executedSteps, ¬ other.Quiet → other = step := by
    intro other mem notQuiet
    have executed := List.mem_of_mem_filter mem
    rw [steps] at executed
    rcases List.mem_append.mp executed with earlier | last
    · exact absurd (quiet other earlier) notQuiet
    · exact List.mem_singleton.mp last
  refine ⟨?_, ?_, fun _ => ⟨step, lastMem, unmended⟩⟩
  · rw [halted, Option.some.injEq, pending]
    refine ⟨fun waits => ⟨step, planned, waits⟩, fun ⟨other, mem, waits⟩ => ?_⟩
    exact onlyLast other mem (fun isQuiet => isQuiet.notPending waits) ▸ waits
  · rw [halted, Option.some.injEq, denied]
    refine ⟨fun refused => ⟨step, planned, refused⟩, fun ⟨other, mem, refused⟩ => ?_⟩
    exact onlyLast other mem (fun isQuiet => isQuiet.notDenied refused) ▸ refused

theorem RecoveryEnds.explained {before : PlanProgress} {after : PlanProgress} {step : AgentStep}
    (ends : RecoveryEnds before.executedSteps after step) (quiet : AllQuiet before.executedSteps)
    (unrecovered : step.isUnrecovered = true) : HaltExplained after where
  pending := by
    rw [ends.planSteps.exists_status_iff "pending"]
    refine ⟨fun halted => absurd rfl (ends.reason _ halted).1, fun ⟨other, mem, waits⟩ => ?_⟩
    exact absurd waits (quiet other (List.mem_of_mem_filter mem)).notPending
  denied := by
    rw [ends.planSteps.exists_status_iff "denied"]
    refine ⟨fun halted => absurd rfl (ends.reason _ halted).2, fun ⟨other, mem, refused⟩ => ?_⟩
    exact absurd refused (quiet other (List.mem_of_mem_filter mem)).notDenied
  unmended halted := ⟨step, ends.triggerStays halted, Or.inr unrecovered⟩

section Halts

variable {ctx : PlanContext} {prog : PlanProgress}

theorem runPlannedStep_explained {index : Nat} (planned : Json) (onCourse : OnCourse ctx index prog)
    (running : prog.haltReason = none) :
    HaltExplained (runPlannedStep ctx index planned prog) := by
  have quiet := onCourse.quietWhileRunning running
  have expectedEq : (expectedSteps ctx.preparation.contract)[index]? =
      matchingExpected ctx.preparation.contract prog.executedSteps
        none := by
    rw [matchingExpected, onCourse.atIndex.planned]
  have performed := performPlanned_performed planned onCourse.faithful quiet
    expectedEq (show "plan" = phaseOf none from rfl)
  simp only [runPlannedStep]
  generalize performPlanned ctx prog planned
    (expectedSteps ctx.preparation.contract)[index]? "plan" none = outcome
    at performed ⊢
  have answers : AnswersCall ctx.env (callAfter ctx.env
      ctx.preparation.contract prog.executedSteps planned none) _
      outcome.2 := performed.answer ▸ answersCall_executeAgentStep
  have noParent : outcome.2.parentStepIndex = none := answers.parentStepIndex
  have goesOn : outcome.1.haltReason = none :=
    performed.haltReason.trans running
  -- a step that succeeds neither waits nor is denied
  have successfulQuiet : outcome.2.successful = true → outcome.2.Quiet := by
    intro successful
    rw [performed.answer] at successful ⊢
    exact (executeAgentStep_successfulStatus successful).quiet
  have unrecovered : ¬ outcome.2.Quiet → outcome.2.isUnrecovered = true := by
    intro notQuiet
    have failed : outcome.2.successful = false := by
      by_contra notFailed
      exact notQuiet (successfulQuiet (by simpa using notFailed))
    have unmarked : outcome.2.recoveredByReplan = false :=
      answers.recoveredByReplan
    rw [AgentStep.isUnrecovered, failed, unmarked]
    rfl
  split
  · next waits =>
      exact haltExplained_of_last performed.executedSteps quiet noParent rfl (by rw [waits]; decide)
        (by rw [waits]; decide) (Or.inr (unrecovered (fun isQuiet => isQuiet.notPending waits)))
  next notPending =>
  split
  · next refused =>
      exact haltExplained_of_last performed.executedSteps quiet noParent rfl
        (by rw [refused]; decide) (by rw [refused]; decide)
        (Or.inr (unrecovered (fun isQuiet => isQuiet.notDenied refused)))
  next notDenied =>
  split
  · next violated =>
      have someViolation : outcome.2.policyViolations ≠ [] := by
        simpa using violated
      exact haltExplained_of_last performed.executedSteps quiet noParent rfl
        ⟨fun same => absurd same (by decide), fun waits => absurd waits notPending⟩
        ⟨fun same => absurd same (by decide), fun refused => absurd refused notDenied⟩
        (Or.inl someViolation)
  next noViolation =>
  have stepQuiet : outcome.2.Quiet :=
    ⟨notPending, notDenied, by simpa using noViolation⟩
  have nextQuiet := quiet.concat stepQuiet
  rw [← performed.executedSteps] at nextQuiet
  split
  · exact haltExplained_of_quiet goesOn nextQuiet
  · next notSuccessful =>
      have mem : outcome.2 ∈ outcome.1.executedSteps := by
        rw [performed.executedSteps]
        exact List.mem_append_right _ (List.mem_singleton_self _)
      have failed : outcome.2.successful = false := by
        simpa using notSuccessful
      have unmarked : outcome.2.recoveredByReplan = false :=
        answers.recoveredByReplan
      exact (recoverStep_ends mem goesOn).explained nextQuiet
        (by rw [AgentStep.isUnrecovered, failed, unmarked]; rfl)

theorem runPlan_explained (steps : List Json) (index : Nat) (prog : PlanProgress)
    (onCourse : OnCourse ctx index prog) (running : prog.haltReason = none) :
    HaltExplained (runPlan ctx steps index prog) := by
  induction steps generalizing index prog with
  | nil =>
    exact haltExplained_of_quiet running (onCourse.quietWhileRunning running)
  | cons planned rest ih =>
    have next := runPlannedStep_onCourse planned onCourse running
    rw [runPlan]
    split
    · exact runPlannedStep_explained planned onCourse running
    · next goesOn =>
        exact ih (index + 1) _ next (Option.not_isSome_iff_eq_none.mp goesOn)

end Halts

def RecoveredIn (trace : AgentExecutionTrace) (step : AgentStep) : Prop :=
  step.recoveredByReplan = true ∧ ∃ event ∈ trace.replans, event.successful = true ∧
      (planSteps trace.steps)[event.triggerStepIndex]? = some step ∧ event.recoveryStepIndices ≠ []
      ∧ ∀ recovery ∈ trace.steps, recovery.stepIndex ∈ event.recoveryStepIndices →
          recovery.successful = true

/-- The plan kept the limits and was executed to its end over successful or recovered steps,
without a violation, and one of them responded. -/
structure FollowedPlan (env : AgentEnvironment) (payload : Option Json)
    (prep : AgentPreparation) (trace : AgentExecutionTrace) : Prop where
  planned : ∃ plan, parsePlan env.text payload = .ok plan ∧
    AcceptedPlan prep.agentContext plan ∧
    (planSteps trace.steps).map AgentStep.action =
      actualActions env.text plan.steps ∧
    actionsMatch
      (expectedActions env.text (expectedSteps prep.contract))
      (actualActions env.text plan.steps) = true
  mended : ∀ step ∈ trace.steps,
    step.successful = true ∨ RecoveredIn trace step
  noViolation : ∀ step ∈ trace.steps, step.policyViolations = []
  noReplanViolation : ∀ event ∈ trace.replans,
    event.status ≠ "policy_violation"
  response : ∃ step ∈ trace.steps,
    step.action = "respond" ∧ step.successful = true

section Verdict

variable {ctx : PlanContext} {plan : ParsedPlan} {prog : PlanProgress}

theorem successful_of_reportsSuccess (reports : ReportsSuccess ctx plan
    prog) : (runTrace ctx plan prog).successful = true := by
  have someStep : prog.executedSteps.isEmpty = false :=
    List.isEmpty_eq_false_iff.mpr reports.someStep
  have noneUnrecovered : prog.executedSteps.any AgentStep.isUnrecovered = false := by
    rw [List.any_eq_false]
    intro step mem unrecovered
    rw [AgentStep.isUnrecovered, Bool.and_eq_true, Bool.not_eq_true',
      Bool.not_eq_true'] at unrecovered
    rw [reports.recovered step mem unrecovered.1] at unrecovered
    cases unrecovered.2
  have response : prog.executedSteps.any AgentStep.isFinalResponse = true :=
    List.any_eq_true.mpr reports.response
  simp only [runTrace, finishedTrace, Bool.and_eq_true, decide_eq_true_eq,
    someStep, noneUnrecovered, response, reports.sequenceMatch,
    reports.noViolation, reports.haltReason]
  exact ⟨⟨⟨⟨rfl, ⟨trivial, trivial⟩, reports.recoveryMatch⟩, rfl⟩, trivial⟩,
    rfl⟩

theorem Faithful.eq_of_stepIndex (faithful : Faithful ctx prog) {step other : AgentStep}
    (mem : step ∈ prog.executedSteps) (otherMem : other ∈ prog.executedSteps)
    (same : step.stepIndex = other.stepIndex) : step = other := by
  have nodup : (prog.executedSteps.map AgentStep.stepIndex).Nodup := by
    rw [faithful.numbered]
    exact List.nodup_range
  exact List.inj_on_of_nodup_map nodup mem otherMem same

theorem SuccessfulRun.recoveredIn (run : SuccessfulRun ctx plan prog) {step : AgentStep}
    (mem : step ∈ prog.executedSteps) (failed : step.successful = false) :
    RecoveredIn (runTrace ctx plan prog) step := by
  have marked := run.recovered step mem failed
  rcases run.replanState with none | ⟨event, triggered, once⟩
  · rw [none.noMark step mem] at marked
    cases marked
  have triggeredMem : triggered ∈ prog.executedSteps :=
    List.mem_of_mem_filter (List.mem_of_getElem? once.trigger)
  have isTriggered : step = triggered := by
    apply run.faithful.eq_of_stepIndex mem triggeredMem
    rw [once.marked step mem] at marked
    exact of_decide_eq_true marked
  refine ⟨marked, event, ?_, once.successful, isTriggered ▸ once.trigger, ?_, ?_⟩
  · show event ∈ prog.replanEvents
    rw [once.onlyEvent]
    exact List.mem_singleton_self event
  · rw [once.indices]
    exact fun empty => once.someRecovery (List.map_eq_nil_iff.mp empty)
  · intro recovery recoveryMem named
    rw [once.indices] at named
    obtain ⟨other, otherMem, sameIndex⟩ := List.mem_map.mp named
    have same := run.faithful.eq_of_stepIndex
      (List.mem_of_mem_filter otherMem) recoveryMem sameIndex
    exact same ▸ (once.recovered other otherMem).1

theorem SuccessfulRun.planActions (run : SuccessfulRun ctx plan prog) :
    (planSteps prog.executedSteps).map AgentStep.action =
      actualActions ctx.env.text plan.steps := by
  have inputs : plan.steps = Agent.planInputs prog.executedSteps :=
    run.planInputs.symm
  rw [inputs, Agent.planInputs, actualActions, List.map_map]
  apply List.map_congr_left
  intro step mem
  exact run.action_eq (List.mem_of_mem_filter mem)

theorem runTrace_successful_iff {payload : Option Json} (records : RecordsObjects ctx.callback)
    (replanLimitLe : ctx.preparation.agentContext.replanLimit ≤ 1)
    (parsed : parsePlan ctx.env.text payload = .ok plan)
    (accepted : AcceptedPlan ctx.preparation.agentContext plan) :
    (runTrace ctx plan (runPlan ctx plan.steps 0 PlanProgress.initial)).successful = true ↔
      FollowedPlan ctx.env payload ctx.preparation (runTrace ctx plan
          (runPlan ctx plan.steps 0 PlanProgress.initial)) := by
  constructor
  · intro successful
    have run := successfulRun_of_reported records replanLimitLe (parsePlan_objects parsed)
      accepted.stepsLe (reportsSuccess_of_successful successful)
    generalize runPlan ctx plan.steps 0 PlanProgress.initial = prog at run
    refine ⟨⟨plan, parsed, accepted, run.planActions, run.sequenceMatch⟩, ?_,
      fun step mem => (run.quiet step mem).noViolation, ?_, ?_⟩
    · intro step mem
      cases failed : step.successful with
      | true => exact Or.inl rfl
      | false => exact Or.inr (run.recoveredIn mem failed)
    · intro event mem
      have listed : event ∈ prog.replanEvents := mem
      rcases run.replanState with none | ⟨only, triggered, once⟩
      · rw [none.noEvent] at listed
        cases listed
      · rw [once.onlyEvent] at listed
        rw [List.mem_singleton.mp listed, once.status]
        decide
    · obtain ⟨step, mem, isResponse⟩ := run.response
      rw [AgentStep.isFinalResponse, Bool.and_eq_true, decide_eq_true_eq] at isResponse
      exact ⟨step, mem, isResponse⟩
  · intro followed
    have start : OnCourse ctx 0 PlanProgress.initial := onCourse_initial
    have explained := runPlan_explained plan.steps 0 PlanProgress.initial start
      rfl
    have state := runPlan_replanState records replanLimitLe plan.steps 0
      PlanProgress.initial start rfl replanState_initial
    generalize runPlan ctx plan.steps 0 PlanProgress.initial = prog at followed explained state
    have recovered : ∀ step ∈ prog.executedSteps,
        step.successful = false → step.recoveredByReplan = true := by
      intro step mem failed
      rcases followed.mended step mem with successful | recoveredIn
      · rw [failed] at successful
        cases successful
      · exact recoveredIn.1
    have running : prog.haltReason = none := by
      by_contra halted
      obtain ⟨step, mem, violated | unrecovered⟩ := explained.unmended halted
      · exact violated (followed.noViolation step mem)
      · rw [AgentStep.isUnrecovered, Bool.and_eq_true, Bool.not_eq_true',
          Bool.not_eq_true'] at unrecovered
        rw [recovered step mem unrecovered.1] at unrecovered
        cases unrecovered.2
    have matching : ∀ event ∈ prog.replanEvents, event.sequenceMatch = true := by
      intro event mem
      rcases state running with none | ⟨only, triggered, once⟩
      · rw [none.noEvent] at mem
        cases mem
      · rw [once.onlyEvent] at mem
        rw [List.mem_singleton.mp mem]
        exact once.matchNoted
    obtain ⟨other, otherParsed, _, _, sequenceMatch⟩ := followed.planned
    rw [parsed] at otherParsed
    cases otherParsed
    obtain ⟨response, mem, isRespond, successful⟩ := followed.response
    apply successful_of_reportsSuccess
    refine ⟨List.ne_nil_of_mem mem, sequenceMatch, ?_, ?_, recovered, ⟨response, mem, ?_⟩, running⟩
    · have noneViolated : (prog.executedSteps.map (fun step =>
          step.policyViolations.length)).sum = 0 := by
        apply List.sum_eq_zero_iff_forall_eq_nat.mpr
        intro count counted
        obtain ⟨step, stepMem, rfl⟩ := List.mem_map.mp counted
        rw [followed.noViolation step stepMem]
        rfl
      have noneMissed : prog.replanEvents.any (fun event => !event.sequenceMatch) = false := by
        rw [List.any_eq_false]
        intro event eventMem
        rw [matching event eventMem]
        decide
      rw [policyViolationCount, noneViolated, noneMissed]
      rfl
    · rw [recoverySequenceMatch]
      split
      · intro unmatched
        cases unmatched
      · have all : prog.replanEvents.all ReplanEvent.sequenceMatch = true :=
          List.all_eq_true.mpr matching
        rw [all]
        decide
    · rw [AgentStep.isFinalResponse, isRespond, successful]
      rfl

end Verdict

end ModelAtlas.Agent
