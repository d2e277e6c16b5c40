import ModelAtlas.Agent.ReplayAgreement
import ModelAtlas.Agent.TraceStatuses

/-!
# Resumption of a paused plan

A plan that waits for a decision is executed again from its start when the
decision is there, and makes the steps of the first run up to the checkpoint.
-/

namespace ModelAtlas.Agent

open Foundations Approval

variable {added steps later : List AgentStep} {marked : Option Nat} {checkpointId : String}

def DecidesAlike (prep other : AgentPreparation) : Prop :=
  ∀ checkpointId decision, prep.decisionFor checkpointId = some decision →
      other.decisionFor checkpointId = some decision

/-- The call is answered by a checkpoint that waits, and under the other preparation by the same
one with its decision. -/
structure AwaitsDecision (env : AgentEnvironment)
    (prep other : AgentPreparation) (call : StepCall)
    (step decided : AgentStep) (checkpointId : String) : Prop where
  undecided : prep.decisionFor checkpointId = none
  waits : step = checkpointStep env call checkpointId none
  decides : decided = checkpointStep env call checkpointId
    (other.decisionFor checkpointId)

section Step

variable {env : AgentEnvironment} {externalCaseId : String}
  {prep : AgentPreparation} {decisions : List (String × Json)}
  {call : StepCall}

theorem checkpointStep_pending (checkpointId : String) (decision : Option Json) :
    (checkpointStep env call checkpointId decision).isPendingCheckpoint = decision.isNone := by
  cases decision with
  | none => rfl
  | some given =>
    simp only [checkpointStep]
    split
    · rfl
    · rfl

theorem executeApprovalCheckpoint_resumes (alike : DecidesAlike prep
      { prep with approvalDecisions := decisions }) :
    (executeApprovalCheckpoint env
          { prep with approvalDecisions := decisions } call =
        executeApprovalCheckpoint env prep call ∧
      (executeApprovalCheckpoint env prep call).isPendingCheckpoint = false) ∨
      ∃ checkpointId, AwaitsDecision env prep
        { prep with approvalDecisions := decisions } call
        (executeApprovalCheckpoint env prep call)
        (executeApprovalCheckpoint env
          { prep with approvalDecisions := decisions } call)
        checkpointId := by
  by_cases valid : checkpointViolations env prep call
      (pyStrip (call.plannedText env "checkpoint_id")) = []
  · have own := executeApprovalCheckpoint_valid valid
    have validOther : checkpointViolations env
        { prep with approvalDecisions := decisions } call
        (pyStrip (call.plannedText env "checkpoint_id")) = [] := valid
    have others := executeApprovalCheckpoint_valid validOther
    cases decided : prep.decisionFor
        (pyStrip (call.plannedText env "checkpoint_id")) with
    | none =>
      rw [decided] at own
      exact Or.inr ⟨_, decided, own, others⟩
    | some decision =>
      left
      rw [alike _ decision decided] at others
      rw [decided] at own
      refine ⟨others.trans own.symm, ?_⟩
      rw [own, checkpointStep_pending]
      rfl
  · have violatedOther : checkpointViolations env
        { prep with approvalDecisions := decisions } call
        (pyStrip (call.plannedText env "checkpoint_id")) ≠ [] := valid
    have own := executeApprovalCheckpoint_violated valid
    refine Or.inl ⟨(executeApprovalCheckpoint_violated violatedOther).trans own.symm, ?_⟩
    rw [own]
    rfl

theorem executeAgentStep_resumes (alike : DecidesAlike prep
      { prep with approvalDecisions := decisions }) :
    (executeAgentStep env externalCaseId
          { prep with approvalDecisions := decisions } call =
        executeAgentStep env externalCaseId prep call ∧
      (executeAgentStep env externalCaseId prep call).isPendingCheckpoint = false) ∨
      ∃ checkpointId, AwaitsDecision env prep
        { prep with approvalDecisions := decisions } call
        (executeAgentStep env externalCaseId prep call)
        (executeAgentStep env externalCaseId
          { prep with approvalDecisions := decisions } call)
        checkpointId := by
  have answers : AnswersCall env call
      (call.plannedText env "action")
      (executeAgentStep env externalCaseId prep call) :=
    answersCall_executeAgentStep
  by_cases refused : (!(stepViolations env prep call).isEmpty) = true
  · have own : executeAgentStep env externalCaseId prep call = policyViolationStep env call
          (call.plannedText env "action")
          (stepViolations env prep call) := if_pos refused
    refine Or.inl ⟨(if_pos refused).trans own.symm, ?_⟩
    rw [own]
    exact Bool.and_false _
  by_cases checkpoint :
      call.plannedText env "action" = "approval_checkpoint"
  · have own : executeAgentStep env externalCaseId prep call =
        executeApprovalCheckpoint env prep call :=
      (if_neg refused).trans (if_pos checkpoint)
    have others : executeAgentStep env externalCaseId
        { prep with approvalDecisions := decisions } call = executeApprovalCheckpoint env
            { prep with approvalDecisions := decisions } call :=
      (if_neg refused).trans (if_pos checkpoint)
    rw [own, others]
    exact executeApprovalCheckpoint_resumes alike
  · left
    refine ⟨((if_neg refused).trans (if_neg checkpoint)).trans
      ((if_neg refused).trans (if_neg checkpoint)).symm, ?_⟩
    apply AgentStep.not_pending_of_action
    rw [answers.action]
    exact checkpoint

end Step

def AgentStep.markedAt (marked : Option Nat) (step : AgentStep) : AgentStep :=
  if marked = some step.stepIndex then { step with recoveredByReplan := true }
  else step

theorem markedAt_none : AgentStep.markedAt none = id := by
  funext step
  exact if_neg nofun

theorem markedAt_of_ne {step : AgentStep}
    (other : marked ≠ some step.stepIndex) : step.markedAt marked = step :=
  if_neg other

theorem markRecovered_steps (prog : PlanProgress) (stepIndex : Nat) :
    (prog.markRecovered stepIndex).executedSteps =
      prog.executedSteps.map (AgentStep.markedAt (some stepIndex)) := by
  simp only [PlanProgress.markRecovered]
  apply List.map_congr_left
  intro step _
  rw [AgentStep.markedAt]
  by_cases same : step.stepIndex = stepIndex
  · rw [if_pos same, if_pos (congrArg some same.symm)]
  · rw [if_neg same, if_neg (fun marked => same (Option.some.inj marked).symm)]

theorem map_markedAt_of_lt (below : ∀ step ∈ steps, marked ≠ some step.stepIndex) :
    steps.map (AgentStep.markedAt marked) = steps := by
  have same : steps.map (AgentStep.markedAt marked) = steps.map id :=
    List.map_congr_left (fun step mem => markedAt_of_ne (below step mem))
  rw [same, List.map_id]

def NoneWaits (steps : List AgentStep) : Prop :=
  ∀ step ∈ steps, step.isPendingCheckpoint = false

theorem NoneWaits.append (none : NoneWaits steps) (noneAdded : NoneWaits added) :
    NoneWaits (steps ++ added) := by
  intro step mem
  rcases List.mem_append.mp mem with earlier | later
  · exact none step earlier
  · exact noneAdded step later

theorem NoneWaits.map (none : NoneWaits steps) (marked : Option Nat) :
    NoneWaits (steps.map (AgentStep.markedAt marked)) := by
  intro step mem
  obtain ⟨original, originalMem, rfl⟩ := List.mem_map.mp mem
  have same : (original.markedAt marked).isPendingCheckpoint =
      original.isPendingCheckpoint := by
    rw [AgentStep.markedAt]
    split
    · rfl
    · rfl
  rw [same]
  exact none original originalMem

/-- The mark of a recovery is that of the failed step of the plan which the
recovery is for: only its steps follow. -/
structure MarksTrigger (earlier : List AgentStep) (parent : Option Nat)
    (stepIndex : Nat) : Prop where
  isRecovery : parent ≠ none
  trigger : ∃ before trigger recovery, earlier = before ++ trigger :: recovery ∧
    trigger.stepIndex = stepIndex ∧ trigger.successful = false ∧
    ∀ step ∈ recovery, step.parentStepIndex = parent

/-- A history that ends with a waiting checkpoint, and one that goes on from the
same checkpoint. -/
structure ResumesAt (env : AgentEnvironment)
    (prep other : AgentPreparation) (paused resumed : List AgentStep)
    (earlier : List AgentStep) (call : StepCall) (checkpointId : String)
    (marked : Option Nat) (later : List AgentStep) : Prop where
  undecided : prep.decisionFor checkpointId = none
  paused : paused =
    earlier ++ [checkpointStep env call checkpointId none]
  resumed : resumed = earlier.map (AgentStep.markedAt marked) ++
    checkpointStep env call checkpointId
      (other.decisionFor checkpointId) :: later
  quiet : NoneWaits earlier
  marks : ∀ stepIndex, marked = some stepIndex →
    MarksTrigger earlier call.parentStepIndex stepIndex

def Resumes (env : AgentEnvironment)
    (prep other : AgentPreparation) (paused resumed : List AgentStep) :
    Prop :=
  ∃ earlier call checkpointId marked later,
    ResumesAt env prep other paused resumed earlier call checkpointId marked later

section Runs

variable {ctx : PlanContext} {decisions : List (String × Json)}
  {prog : PlanProgress}

abbrev PlanContext.deciding (ctx : PlanContext) (decisions : List (String × Json)) : PlanContext :=
  ctx.replaying decisions ctx.callback

/-- The run under more decisions is the same, or it goes on where the first one
waits. -/
def Follows (ctx : PlanContext) (decisions : List (String × Json))
    (prog other : PlanProgress) : Prop :=
  (other = prog ∧ NoneWaits prog.executedSteps) ∨ (prog.haltReason.isSome = true ∧
      Resumes ctx.env ctx.preparation
        { ctx.preparation with approvalDecisions := decisions }
        prog.executedSteps other.executedSteps)

theorem performPlanned_resumes (alike : DecidesAlike ctx.preparation
      { ctx.preparation with approvalDecisions := decisions })
    (prog : PlanProgress) (planned : Json) (expected : Option Json)
    (phase : String) (parentStepIndex : Option Nat) :
    (performPlanned (ctx.deciding decisions) prog planned expected phase parentStepIndex =
        performPlanned ctx prog planned expected phase parentStepIndex ∧
      (performPlanned ctx prog planned expected phase
        parentStepIndex).2.isPendingCheckpoint = false) ∨
      ∃ call checkpointId, call.stepIndex = prog.executedSteps.length ∧
        call.parentStepIndex = parentStepIndex ∧ AwaitsDecision ctx.env ctx.preparation
          { ctx.preparation with approvalDecisions := decisions } call
          (performPlanned ctx prog planned expected phase parentStepIndex).2
          (performPlanned (ctx.deciding decisions) prog planned expected
            phase parentStepIndex).2 checkpointId := by
  rcases @executeAgentStep_resumes ctx.env ctx.externalCaseId ctx.preparation decisions
      { stepIndex := prog.executedSteps.length
        planned := planned
        expected := expected
        actionCount := (prog.counting (Json.pyStrOrEmpty
          ctx.env.text.render (planned.get? "action"))).actionCounts
            (Json.pyStrOrEmpty ctx.env.text.render
              (planned.get? "action"))
        priorOutputs := prog.priorOutputs
        approvedCheckpointIds := prog.approvedCheckpointIds
        phase := phase
        parentStepIndex := parentStepIndex } alike with
    ⟨same, quiet⟩ | ⟨checkpointId, awaits⟩
  · have stepEq : (performPlanned (ctx.deciding decisions) prog planned
        expected phase parentStepIndex).2 = (performPlanned ctx prog
          planned expected phase parentStepIndex).2 := same
    exact Or.inl ⟨Prod.ext (congrArg (PlanProgress.record ctx.env _) stepEq) stepEq, quiet⟩
  · exact Or.inr ⟨_, checkpointId, rfl, rfl, awaits⟩

theorem performPlanned_steps (planned : Json) (expected : Option Json)
    (phase : String) (parentStepIndex : Option Nat) :
    (performPlanned ctx prog planned expected phase parentStepIndex).1.executedSteps =
      prog.executedSteps ++ [(performPlanned ctx prog planned
        expected phase parentStepIndex).2] := rfl

structure RecoveryResumes (ctx : PlanContext)
    (decisions : List (String × Json)) (trigger : Nat)
    (before : List AgentStep) (paused resumed : RecoveryRun)
    (added : List AgentStep) (call : StepCall) (checkpointId : String)
    (later : List AgentStep) : Prop where
  failed : paused.successful = false
  undecided : ctx.preparation.decisionFor checkpointId = none
  stepIndex : call.stepIndex = (before ++ added).length
  parent : call.parentStepIndex = some trigger
  parents : ∀ step ∈ added, step.parentStepIndex = some trigger
  quiet : NoneWaits added
  paused : paused.progress.executedSteps = before ++ added ++
    [checkpointStep ctx.env call checkpointId none]
  resumed : resumed.progress.executedSteps = before ++ added ++
    checkpointStep ctx.env call checkpointId
      (AgentPreparation.decisionFor
        { ctx.preparation with approvalDecisions := decisions }
        checkpointId) :: later

def afterRecoveryStep (ctx : PlanContext) (expectedRecovery : List Json)
    (trigger : Nat) (rest : List Json) (recoveryIndex : Nat) (run : RecoveryRun)
    (performed : PlanProgress × AgentStep) : RecoveryRun :=
  if performed.2.successful then
    runRecovery ctx expectedRecovery trigger rest (recoveryIndex + 1)
      { run with
        progress := performed.1
        recoveryStepIndices :=
          run.recoveryStepIndices ++ [performed.2.stepIndex] }
  else
    { progress := performed.1
      recoveryStepIndices := run.recoveryStepIndices ++ [performed.2.stepIndex]
      status := if run.status = "running" then "failed" else run.status
      successful := false }

theorem runRecovery_performed {expectedRecovery : List Json} {trigger : Nat}
    {recoveryStep : Json} {rest : List Json} {recoveryIndex : Nat}
    {run : RecoveryRun} (object : ¬(!recoveryStep.isObject) = true)
    (room : ¬run.progress.executedSteps.length ≥ ctx.preparation.agentContext.executionStepLimit) :
    runRecovery ctx expectedRecovery trigger (recoveryStep :: rest) recoveryIndex run =
      afterRecoveryStep ctx expectedRecovery trigger rest recoveryIndex run
        (performPlanned ctx run.progress recoveryStep
          expectedRecovery[recoveryIndex]? "recovery" (some trigger)) :=
  (if_neg object).trans (if_neg room)

theorem afterRecoveryStep_steps {expectedRecovery : List Json} {trigger : Nat} {rest : List Json}
    {recoveryIndex : Nat} {run : RecoveryRun} (performed : PlanProgress × AgentStep) :
    ∃ later, (afterRecoveryStep ctx expectedRecovery trigger rest
      recoveryIndex run performed).progress.executedSteps = performed.1.executedSteps ++ later := by
  rw [afterRecoveryStep]
  split
  · obtain ⟨later, trail⟩ := runRecovery_trail ctx expectedRecovery trigger rest (recoveryIndex + 1)
      { run with
        progress := performed.1
        recoveryStepIndices :=
          run.recoveryStepIndices ++ [performed.2.stepIndex] }
    exact ⟨later, trail.executedSteps⟩
  · exact ⟨[], (List.append_nil _).symm⟩

theorem RecoveryResumes.cons {trigger : Nat} {before : List AgentStep}
    {step : AgentStep} {paused resumed : RecoveryRun}
    {call : StepCall}
    (resumes : RecoveryResumes ctx decisions trigger (before ++ [step])
      paused resumed added call checkpointId later)
    (parent : step.parentStepIndex = some trigger)
    (quiet : step.isPendingCheckpoint = false) :
    RecoveryResumes ctx decisions trigger before paused resumed
      (step :: added) call checkpointId later := by
  have assoc : before ++ step :: added = before ++ [step] ++ added := by
    rw [List.append_assoc, List.singleton_append]
  exact
    { failed := resumes.failed
      undecided := resumes.undecided
      stepIndex := by rw [assoc, resumes.stepIndex]
      parent := resumes.parent
      parents := List.forall_mem_cons.mpr ⟨parent, resumes.parents⟩
      quiet := List.forall_mem_cons.mpr ⟨quiet, resumes.quiet⟩
      paused := by rw [assoc, resumes.paused]
      resumed := by rw [assoc, resumes.resumed] }

theorem runRecovery_resumes (alike : DecidesAlike ctx.preparation
      { ctx.preparation with approvalDecisions := decisions })
    (expectedRecovery : List Json) (trigger : Nat) (steps : List Json)
    (recoveryIndex : Nat) (run : RecoveryRun)
    (quiet : NoneWaits run.progress.executedSteps) :
    (runRecovery (ctx.deciding decisions) expectedRecovery trigger steps recoveryIndex run =
        runRecovery ctx expectedRecovery trigger steps recoveryIndex run ∧
      NoneWaits (runRecovery ctx expectedRecovery trigger steps
        recoveryIndex run).progress.executedSteps) ∨
      ∃ added call checkpointId later, RecoveryResumes ctx decisions trigger
        run.progress.executedSteps
        (runRecovery ctx expectedRecovery trigger steps recoveryIndex run)
        (runRecovery (ctx.deciding decisions) expectedRecovery trigger steps
          recoveryIndex run) added call checkpointId later := by
  induction steps generalizing recoveryIndex run with
  | nil => exact Or.inl ⟨rfl, quiet⟩
  | cons recoveryStep rest ih =>
    by_cases notObject : (!recoveryStep.isObject) = true
    · rw [runRecovery, runRecovery, if_pos notObject, if_pos notObject]
      exact Or.inl ⟨rfl, quiet⟩
    by_cases full : run.progress.executedSteps.length ≥
        ctx.preparation.agentContext.executionStepLimit
    · rw [runRecovery, runRecovery, if_neg notObject, if_neg notObject, if_pos full]
      exact Or.inl ⟨if_pos full, quiet⟩
    have fullOther : ¬run.progress.executedSteps.length ≥ (ctx.deciding
          decisions).preparation.agentContext.executionStepLimit := full
    rw [runRecovery_performed notObject full, runRecovery_performed notObject fullOther]
    rcases performPlanned_resumes alike run.progress recoveryStep
        expectedRecovery[recoveryIndex]? "recovery" (some trigger) with
      ⟨same, stepQuiet⟩ | ⟨call, checkpointId, stepIndex, parent, awaits⟩
    · rw [same]
      have answers : AnswersCall ctx.env _ _ (performPlanned ctx run.progress recoveryStep
            expectedRecovery[recoveryIndex]? "recovery" (some trigger)).2 :=
        answersCall_executeAgentStep
      have hasParent : (performPlanned ctx run.progress recoveryStep
          expectedRecovery[recoveryIndex]? "recovery"
            (some trigger)).2.parentStepIndex = some trigger :=
        answers.parentStepIndex
      have steps : (performPlanned ctx run.progress recoveryStep
          expectedRecovery[recoveryIndex]? "recovery"
            (some trigger)).1.executedSteps = _ :=
        performPlanned_steps recoveryStep _ _ _
      generalize performPlanned ctx run.progress recoveryStep
        expectedRecovery[recoveryIndex]? "recovery" (some trigger) =
          performed at stepQuiet hasParent steps ⊢
      have performedQuiet : NoneWaits performed.1.executedSteps := by
        rw [steps]
        exact quiet.append (List.forall_mem_singleton.mpr stepQuiet)
      by_cases successful : performed.2.successful = true
      · simp only [afterRecoveryStep, successful, if_true]
        rcases ih (recoveryIndex + 1)
            { run with
              progress := performed.1
              recoveryStepIndices :=
                run.recoveryStepIndices ++ [performed.2.stepIndex] }
            performedQuiet with
          equal | ⟨added, call, checkpointId, later, resumes⟩
        · exact Or.inl equal
        · rw [steps] at resumes
          exact Or.inr ⟨_, call, checkpointId, later, resumes.cons hasParent stepQuiet⟩
      · simp only [afterRecoveryStep, successful]
        exact Or.inl ⟨rfl, performedQuiet⟩
    · right
      obtain ⟨later, resumed⟩ := @afterRecoveryStep_steps (ctx.deciding decisions)
        expectedRecovery trigger rest recoveryIndex run (performPlanned (ctx.deciding decisions)
          run.progress recoveryStep expectedRecovery[recoveryIndex]?
          "recovery" (some trigger))
      have failed : (performPlanned ctx run.progress recoveryStep
          expectedRecovery[recoveryIndex]? "recovery"
            (some trigger)).2.successful = false := by
        rw [awaits.waits]
        rfl
      have paused : afterRecoveryStep ctx expectedRecovery trigger rest
          recoveryIndex run (performPlanned ctx run.progress recoveryStep
            expectedRecovery[recoveryIndex]? "recovery" (some trigger)) = _ :=
        if_neg (by rw [failed]; decide)
      refine ⟨[], call, checkpointId, later, ?_⟩
      rw [performPlanned_steps, awaits.decides, List.append_assoc, List.singleton_append] at resumed
      exact
        { failed := by rw [paused]
          undecided := awaits.undecided
          stepIndex := by rw [stepIndex, List.append_nil]
          parent := parent
          parents := by
            intro step mem
            cases mem
          quiet := by
            intro step mem
            cases mem
          paused := by
            rw [paused, performPlanned_steps, awaits.waits, List.append_nil]
          resumed := by
            rw [resumed, List.append_nil] }

theorem afterRecovery_steps (ctx : PlanContext) (prog : PlanProgress)
    (index : Nat) (step : AgentStep) (plan : RecoveryPlan) (run : RecoveryRun) :
    ∃ marked, (marked = none ∨ marked = some step.stepIndex) ∧
      (afterRecovery ctx prog index step plan run).executedSteps =
        run.progress.executedSteps.map (AgentStep.markedAt marked) := by
  rw [afterRecovery]
  split
  · exact ⟨some step.stepIndex, Or.inr rfl, markRecovered_steps _ _⟩
  · refine ⟨none, Or.inl rfl, ?_⟩
    rw [markedAt_none, List.map_id]
    rfl

theorem afterRecovery_failed {index : Nat} {step : AgentStep}
    {plan : RecoveryPlan} {run : RecoveryRun} (failed : run.successful = false) :
    (afterRecovery ctx prog index step plan run).haltReason.isSome = true ∧
      (afterRecovery ctx prog index step plan run).executedSteps =
        run.progress.executedSteps := by
  rw [afterRecovery, if_neg (by rw [failed]; decide)]
  exact ⟨rfl, rfl⟩

theorem checkpointStep_stepIndex (env : AgentEnvironment)
    (call : StepCall) (checkpointId : String) (decision : Option Json) :
    (checkpointStep env call checkpointId decision).stepIndex =
      call.stepIndex := by
  cases decision with
  | none => rfl
  | some given =>
    simp only [checkpointStep]
    split
    · rfl
    · rfl

theorem RecoveryResumes.resumesAt {index : Nat} {before : List AgentStep}
    {step : AgentStep} {paused resumed : RecoveryRun}
    {call : StepCall} {resumedSteps : List AgentStep}
    (resumes : RecoveryResumes ctx decisions index (before ++ [step]) paused
      resumed added call checkpointId later)
    (stepIndex : step.stepIndex = before.length)
    (failed : step.successful = false)
    (quiet : NoneWaits (before ++ [step]))
    (isMark : marked = none ∨ marked = some step.stepIndex)
    (steps : resumedSteps = resumed.progress.executedSteps.map (AgentStep.markedAt marked)) :
    ResumesAt ctx.env ctx.preparation
      { ctx.preparation with approvalDecisions := decisions }
      paused.progress.executedSteps resumedSteps (before ++ [step] ++ added) call
      checkpointId marked (later.map (AgentStep.markedAt marked)) := by
  have above : marked ≠ some call.stepIndex := by
    rw [resumes.stepIndex]
    intro same
    rcases isMark with none | own
    · rw [none] at same
      cases same
    · rw [own, stepIndex] at same
      have equal := Option.some.inj same
      rw [List.length_append, List.length_append, List.length_singleton] at equal
      omega
  have decided : AgentStep.markedAt marked (checkpointStep ctx.env call checkpointId
        (AgentPreparation.decisionFor
          { ctx.preparation with approvalDecisions := decisions }
          checkpointId)) = checkpointStep ctx.env call checkpointId
        (AgentPreparation.decisionFor
          { ctx.preparation with approvalDecisions := decisions }
          checkpointId) := by
    apply markedAt_of_ne
    rw [checkpointStep_stepIndex]
    exact above
  exact
    { undecided := resumes.undecided
      paused := resumes.paused
      resumed := by
        rw [steps, resumes.resumed, List.map_append, List.map_cons, decided]
      quiet := quiet.append resumes.quiet
      marks := by
        intro other isOther
        rcases isMark with none | own
        · rw [none] at isOther
          cases isOther
        · rw [own] at isOther
          refine ⟨by rw [resumes.parent]; exact Option.some_ne_none index,
            before, step, added, ?_, Option.some.inj isOther, failed, ?_⟩
          · rw [List.append_assoc, List.singleton_append]
          · intro recovery mem
            rw [resumes.parents recovery mem, resumes.parent] }

theorem attemptRecovery_resumes (alike : DecidesAlike ctx.preparation
      { ctx.preparation with approvalDecisions := decisions })
    {index : Nat} {before : List AgentStep} {step : AgentStep}
    {plan : RecoveryPlan} (steps : prog.executedSteps = before ++ [step])
    (stepIndex : step.stepIndex = before.length)
    (failed : step.successful = false)
    (quiet : NoneWaits prog.executedSteps) :
    Follows ctx decisions (attemptRecovery ctx prog index step plan)
      (attemptRecovery (ctx.deciding decisions) prog index step plan) := by
  by_cases full : ctx.preparation.agentContext.replanLimit ≤ prog.replanEvents.length
  · have own : attemptRecovery ctx prog index step plan = prog :=
      if_pos full
    rw [own]
    exact Or.inl ⟨if_pos full, quiet⟩
  by_cases long : plan.steps.length > ctx.preparation.agentContext.recoveryStepLimit
  · have own : attemptRecovery ctx prog index step plan = _ :=
      (if_neg full).trans (if_pos long)
    rw [own]
    exact Or.inl ⟨(if_neg full).trans (if_pos long), quiet⟩
  by_cases mismatch : (!actionsMatch (expectedActions ctx.env.text (expectedRecoverySteps
        ctx.preparation.contract index))
      (actualActions ctx.env.text (plan.steps.filter Json.isObject))) = true
  · have own : attemptRecovery ctx prog index step plan = _ :=
      (if_neg full).trans ((if_neg long).trans (if_pos mismatch))
    rw [own]
    exact Or.inl ⟨(if_neg full).trans ((if_neg long).trans (if_pos mismatch)), quiet⟩
  have ran : attemptRecovery ctx prog index step plan =
      afterRecovery ctx prog index step plan (recoveryRun ctx prog index plan) :=
    attemptRecovery_ran full long mismatch
  have resumed : attemptRecovery (ctx.deciding decisions) prog index step
      plan = afterRecovery ctx prog index step plan
        (recoveryRun (ctx.deciding decisions) prog index plan) :=
    attemptRecovery_ran full long mismatch
  rw [ran, resumed]
  rcases runRecovery_resumes alike
      (expectedRecoverySteps ctx.preparation.contract index) index plan.steps
      0 ⟨prog, [], "running", !plan.steps.isEmpty⟩ quiet with
    ⟨same, quietRun⟩ | ⟨added, call, checkpointId, later, resumes⟩
  · left
    have sameRun : recoveryRun (ctx.deciding decisions) prog index plan =
        recoveryRun ctx prog index plan := same
    obtain ⟨marked, _, marks⟩ := afterRecovery_steps ctx prog index step
      plan (recoveryRun ctx prog index plan)
    refine ⟨by rw [sameRun], ?_⟩
    rw [marks]
    exact NoneWaits.map quietRun marked
  · right
    have runFailed : (recoveryRun ctx prog index plan).successful =
        false := resumes.failed
    obtain ⟨halted, pausedSteps⟩ := @afterRecovery_failed ctx prog index step plan _ runFailed
    obtain ⟨marked, isMark, marks⟩ := afterRecovery_steps ctx prog index
      step plan (recoveryRun (ctx.deciding decisions) prog index plan)
    refine ⟨halted, before ++ [step] ++ added, call, checkpointId, marked,
      later.map (AgentStep.markedAt marked), ?_⟩
    rw [pausedSteps]
    simp only [steps] at resumes quiet
    exact resumes.resumesAt stepIndex failed quiet isMark marks

theorem replanLive_resumes (alike : DecidesAlike ctx.preparation
      { ctx.preparation with approvalDecisions := decisions })
    {index : Nat} {before : List AgentStep} {step : AgentStep}
    (callback : AgentLiveReplanCallback)
    (steps : prog.executedSteps = before ++ [step])
    (stepIndex : step.stepIndex = before.length)
    (failed : step.successful = false)
    (quiet : NoneWaits prog.executedSteps) :
    Follows ctx decisions (replanLive ctx callback prog index step)
      (replanLive (ctx.deciding decisions) callback prog index step) := by
  have asked : replanLive (ctx.deciding decisions) callback prog index
      step = replanAnswered (ctx.deciding decisions)
        (callback (liveReplanRequest ctx prog index step)) prog index
        step := rfl
  rw [asked, replanLive_eq]
  cases callback (liveReplanRequest ctx prog index step) with
  | raised errorType => exact Or.inl ⟨rfl, quiet⟩
  | noResponse => exact Or.inl ⟨rfl, quiet⟩
  | response recoverySteps modelCall =>
    exact attemptRecovery_resumes alike steps stepIndex failed quiet

theorem recoverStep_resumes (alike : DecidesAlike ctx.preparation
      { ctx.preparation with approvalDecisions := decisions })
    {index : Nat} {before : List AgentStep} {step : AgentStep}
    (steps : prog.executedSteps = before ++ [step])
    (stepIndex : step.stepIndex = before.length)
    (failed : step.successful = false)
    (quiet : NoneWaits prog.executedSteps) :
    Follows ctx decisions (recoverStep ctx prog index step)
      (recoverStep (ctx.deciding decisions) prog index step) := by
  cases selected : selectRecoveryPlan ctx.recoveryPlans index
      (step.errorType.getD "") with
  | some branch =>
    have recovery : ∀ running : PlanContext, running.recoveryPlans = ctx.recoveryPlans →
        recoverStep running prog index step = attemptRecovery running prog index step
            ⟨branch.steps, branch.strategy, "predeclared_plan", .null⟩ := by
      intro running same
      simp only [recoverStep, same, selected]
    rw [recovery ctx rfl, recovery (ctx.deciding decisions) rfl]
    exact attemptRecovery_resumes alike steps stepIndex failed quiet
  | none =>
    cases asking : ctx.callback with
    | none =>
      have kept : ∀ running : PlanContext, running.recoveryPlans = ctx.recoveryPlans →
          running.callback = ctx.callback → recoverStep running prog index step = prog := by
        intro running samePlans sameCallback
        simp only [recoverStep, samePlans, selected, sameCallback, asking]
      rw [kept ctx rfl rfl, kept (ctx.deciding decisions) rfl rfl]
      exact Or.inl ⟨rfl, quiet⟩
    | some callback =>
      have live : ∀ running : PlanContext, running.recoveryPlans = ctx.recoveryPlans →
          running.callback = ctx.callback → recoverStep running prog index step =
            if running.preparation.agentContext.allowLiveReplanning &&
                prog.liveReplanCallCount < 1 &&
                prog.replanEvents.length < running.preparation.agentContext.replanLimit then
              replanLive running callback prog index step
            else prog := by
        intro running samePlans sameCallback
        simp only [recoverStep, samePlans, selected, sameCallback, asking]
      rw [live ctx rfl rfl, live (ctx.deciding decisions) rfl rfl]
      by_cases available : (ctx.preparation.agentContext.allowLiveReplanning &&
            decide (prog.liveReplanCallCount < 1) &&
            decide (prog.replanEvents.length < ctx.preparation.agentContext.replanLimit)) = true
      · rw [if_pos available]
        refine Eq.mpr (congrArg (Follows ctx decisions _) (if_pos available)) ?_
        exact replanLive_resumes alike callback steps stepIndex failed quiet
      · rw [if_neg available]
        exact Or.inl ⟨if_neg available, quiet⟩

theorem attemptRecovery_steps (ctx : PlanContext) (prog : PlanProgress)
    (index : Nat) (step : AgentStep) (plan : RecoveryPlan) :
    ∃ added marked, (marked = none ∨ marked = some step.stepIndex) ∧
      (attemptRecovery ctx prog index step plan).executedSteps =
        (prog.executedSteps ++ added).map (AgentStep.markedAt marked) := by
  have unchanged : prog.executedSteps =
      (prog.executedSteps ++ []).map (AgentStep.markedAt none) := by
    rw [markedAt_none, List.map_id, List.append_nil]
  by_cases full : ctx.preparation.agentContext.replanLimit ≤ prog.replanEvents.length
  · have own : attemptRecovery ctx prog index step plan = prog :=
      if_pos full
    exact ⟨[], none, Or.inl rfl, by rw [own, ← unchanged]⟩
  by_cases long : plan.steps.length > ctx.preparation.agentContext.recoveryStepLimit
  · have own : attemptRecovery ctx prog index step plan = _ :=
      (if_neg full).trans (if_pos long)
    refine ⟨[], none, Or.inl rfl, ?_⟩
    rw [own, ← unchanged]
    rfl
  by_cases mismatch : (!actionsMatch (expectedActions ctx.env.text (expectedRecoverySteps
        ctx.preparation.contract index))
      (actualActions ctx.env.text (plan.steps.filter Json.isObject))) = true
  · have own : attemptRecovery ctx prog index step plan = _ :=
      (if_neg full).trans ((if_neg long).trans (if_pos mismatch))
    refine ⟨[], none, Or.inl rfl, ?_⟩
    rw [own, ← unchanged]
    rfl
  obtain ⟨added, trail⟩ := runRecovery_trail ctx
    (expectedRecoverySteps ctx.preparation.contract index) index plan.steps 0
    ⟨prog, [], "running", !plan.steps.isEmpty⟩
  obtain ⟨marked, isMark, marks⟩ := afterRecovery_steps ctx prog index
    step plan (recoveryRun ctx prog index plan)
  have runSteps : (recoveryRun ctx prog index
      plan).progress.executedSteps = prog.executedSteps ++ added :=
    trail.executedSteps
  refine ⟨added, marked, isMark, ?_⟩
  rw [attemptRecovery_ran full long mismatch, marks, runSteps]

theorem recoverStep_steps (ctx : PlanContext) (prog : PlanProgress)
    (index : Nat) (step : AgentStep) :
    ∃ added marked, (marked = none ∨ marked = some step.stepIndex) ∧
      (recoverStep ctx prog index step).executedSteps =
        (prog.executedSteps ++ added).map (AgentStep.markedAt marked) := by
  have unchanged : prog.executedSteps =
      (prog.executedSteps ++ []).map (AgentStep.markedAt none) := by
    rw [markedAt_none, List.map_id, List.append_nil]
  rw [recoverStep]
  split
  · exact attemptRecovery_steps _ _ _ _ _
  split
  · exact ⟨[], none, Or.inl rfl, unchanged⟩
  split
  · simp only [replanLive]
    split
    · exact ⟨[], none, Or.inl rfl, unchanged⟩
    · exact ⟨[], none, Or.inl rfl, unchanged⟩
    · exact attemptRecovery_steps _ _ _ _ _
  · exact ⟨[], none, Or.inl rfl, unchanged⟩

theorem afterPerformed_steps (performed : PlanProgress × AgentStep) (recovered : PlanProgress) :
    (afterPerformed performed recovered).executedSteps = performed.1.executedSteps ∨
      (performed.2.successful = false ∧ ∀ other, afterPerformed performed other = other) := by
  rcases afterPerformed_cases performed with same | isRecovered
  · left
    rw [same recovered performed.1, afterPerformed]
    split
    · rfl
    split
    · rfl
    split
    · rfl
    split
    · rfl
    · rfl
  · exact Or.inr isRecovered

theorem runPlannedStep_prefix {index : Nat} (planned : Json) (faithful : Faithful ctx prog) :
    prog.executedSteps <+: (runPlannedStep ctx index planned prog).executedSteps := by
  have appended := @performPlanned_steps ctx prog planned
    (expectedSteps ctx.preparation.contract)[index]? "plan" none
  have answers : AnswersCall ctx.env _ _ (performPlanned ctx prog planned
        (expectedSteps ctx.preparation.contract)[index]? "plan" none).2 :=
    answersCall_executeAgentStep
  have stepIndex : (performPlanned ctx prog planned
      (expectedSteps ctx.preparation.contract)[index]? "plan"
        none).2.stepIndex = prog.executedSteps.length := answers.stepIndex
  rw [runPlannedStep_eq]
  generalize performPlanned ctx prog planned
    (expectedSteps ctx.preparation.contract)[index]? "plan" none = performed
    at appended stepIndex ⊢
  rcases afterPerformed_steps performed (recoverStep ctx performed.1 index performed.2) with
    kept | ⟨_, recovered⟩
  · rw [kept, appended]
    exact List.prefix_append _ _
  · obtain ⟨added, marked, isMark, steps⟩ :=
      recoverStep_steps ctx performed.1 index performed.2
    have below : ∀ step ∈ prog.executedSteps, marked ≠ some step.stepIndex := by
      intro step mem same
      have smaller := faithful.stepIndex_lt mem
      rcases isMark with none | own
      · rw [none] at same
        cases same
      · rw [own, stepIndex] at same
        have equal := Option.some.inj same
        omega
    rw [recovered, steps, appended, List.append_assoc, List.map_append, map_markedAt_of_lt below]
    exact List.prefix_append _ _

theorem runPlan_prefix (steps : List Json) (index : Nat) (prog : PlanProgress)
    (onCourse : OnCourse ctx index prog) (running : prog.haltReason = none) :
    prog.executedSteps <+: (runPlan ctx steps index prog).executedSteps := by
  induction steps generalizing index prog with
  | nil => exact List.prefix_rfl
  | cons planned rest ih =>
    have first : prog.executedSteps <+: (runPlannedStep ctx index planned prog).executedSteps :=
      runPlannedStep_prefix planned onCourse.faithful
    rw [runPlan]
    split
    · exact first
    · next goesOn =>
        exact first.trans (ih (index + 1) _ (runPlannedStep_onCourse planned onCourse running)
          (Option.not_isSome_iff_eq_none.mp goesOn))

theorem Resumes.extend {env : AgentEnvironment} {prep other : AgentPreparation}
    {paused resumed longer : List AgentStep} (resumes : Resumes env prep other paused resumed)
    (grown : resumed <+: longer) :
    Resumes env prep other paused longer := by
  obtain ⟨earlier, call, checkpointId, marked, later, resumesAt⟩ := resumes
  obtain ⟨more, rfl⟩ := grown
  refine ⟨earlier, call, checkpointId, marked, later ++ more, ?_⟩
  exact
    { resumesAt with
      resumed := by
        rw [resumesAt.resumed, List.append_assoc, List.cons_append] }

theorem afterPerformed_checkpoint {performed : PlanProgress × AgentStep} {env : AgentEnvironment}
    {call : StepCall} {decision : Option Json} (recovered : PlanProgress)
    (isCheckpoint : performed.2 = checkpointStep env call checkpointId decision) :
    (afterPerformed performed recovered).executedSteps =
      performed.1.executedSteps := by
  rcases afterPerformed_steps performed recovered with kept | ⟨failed, _⟩
  · exact kept
  · have stops : performed.2.status = "pending" ∨
        performed.2.status = "denied" ∨ performed.2.successful = true := by
      rw [isCheckpoint]
      cases decision with
      | none => exact Or.inl rfl
      | some given =>
        simp only [checkpointStep]
        split
        · exact Or.inr (Or.inr rfl)
        · exact Or.inr (Or.inl rfl)
    rw [afterPerformed]
    by_cases pending : performed.2.status = "pending"
    · rw [if_pos pending]
      rfl
    by_cases denied : performed.2.status = "denied"
    · rw [if_neg pending, if_pos denied]
      rfl
    have successful : performed.2.successful = true :=
      (stops.resolve_left pending).resolve_left denied
    rw [failed] at successful
    cases successful

theorem runPlannedStep_resumes (alike : DecidesAlike ctx.preparation
      { ctx.preparation with approvalDecisions := decisions })
    {index : Nat} (planned : Json) (quiet : NoneWaits prog.executedSteps) :
    Follows ctx decisions (runPlannedStep ctx index planned prog)
      (runPlannedStep (ctx.deciding decisions) index planned prog) := by
  have appended := @performPlanned_steps ctx prog planned
    (expectedSteps ctx.preparation.contract)[index]? "plan" none
  have appendedOther := @performPlanned_steps (ctx.deciding decisions)
    prog planned (expectedSteps ctx.preparation.contract)[index]? "plan"
    none
  have answers : AnswersCall ctx.env _ _ (performPlanned ctx prog planned
        (expectedSteps ctx.preparation.contract)[index]? "plan" none).2 :=
    answersCall_executeAgentStep
  have stepIndex : (performPlanned ctx prog planned
      (expectedSteps ctx.preparation.contract)[index]? "plan"
        none).2.stepIndex = prog.executedSteps.length := answers.stepIndex
  have ran : runPlannedStep (ctx.deciding decisions) index planned prog =
      afterPerformed (performPlanned (ctx.deciding decisions) prog planned
          (expectedSteps ctx.preparation.contract)[index]? "plan" none)
        (recoverStep (ctx.deciding decisions) (performPlanned (ctx.deciding decisions) prog planned
            (expectedSteps ctx.preparation.contract)[index]? "plan" none).1
          index
          (performPlanned (ctx.deciding decisions) prog planned
            (expectedSteps ctx.preparation.contract)[index]? "plan"
            none).2) := rfl
  rw [runPlannedStep_eq, ran]
  rcases performPlanned_resumes alike prog planned
      (expectedSteps ctx.preparation.contract)[index]? "plan" none with
    ⟨same, stepQuiet⟩ | ⟨call, checkpointId, _, parent, awaits⟩
  · rw [same]
    generalize performPlanned ctx prog planned
      (expectedSteps ctx.preparation.contract)[index]? "plan" none =
        performed at appended stepIndex stepQuiet ⊢
    have performedQuiet : NoneWaits performed.1.executedSteps := by
      rw [appended]
      exact quiet.append (List.forall_mem_singleton.mpr stepQuiet)
    rcases afterPerformed_cases performed with unrecovered | ⟨failed, recovered⟩
    · left
      refine ⟨unrecovered _ _, ?_⟩
      rcases afterPerformed_steps performed performed.1 with kept | ⟨_, isOther⟩
      · rw [unrecovered _ performed.1, kept]
        exact performedQuiet
      · rw [unrecovered _ performed.1, isOther]
        exact performedQuiet
    · rw [recovered, recovered]
      exact recoverStep_resumes alike appended stepIndex failed performedQuiet
  · right
    have halted : afterPerformed (performPlanned ctx prog planned
        (expectedSteps ctx.preparation.contract)[index]? "plan" none)
        (recoverStep ctx (performPlanned ctx prog planned
          (expectedSteps ctx.preparation.contract)[index]? "plan" none).1
          index (performPlanned ctx prog planned
            (expectedSteps ctx.preparation.contract)[index]? "plan" none).2) =
        _ := if_pos (by rw [awaits.waits]; rfl)
    refine ⟨by rw [halted]; rfl, prog.executedSteps, call, checkpointId, none, [], ?_⟩
    exact
      { undecided := awaits.undecided
        paused := by
          rw [afterPerformed_checkpoint _ awaits.waits, appended, awaits.waits]
        resumed := by
          rw [afterPerformed_checkpoint _ awaits.decides, appendedOther,
            awaits.decides, markedAt_none, List.map_id]
        quiet := quiet
        marks := by
          intro stepIndex isMark
          cases isMark }

theorem runPlan_resumes (alike : DecidesAlike ctx.preparation
      { ctx.preparation with approvalDecisions := decisions })
    (steps : List Json) (index : Nat) (prog : PlanProgress)
    (onCourse : OnCourse (ctx.deciding decisions) index prog)
    (running : prog.haltReason = none)
    (quiet : NoneWaits prog.executedSteps) :
    Follows ctx decisions (runPlan ctx steps index prog)
      (runPlan (ctx.deciding decisions) steps index prog) := by
  induction steps generalizing index prog with
  | nil => exact Or.inl ⟨rfl, quiet⟩
  | cons planned rest ih =>
    have nextOnCourse := runPlannedStep_onCourse planned onCourse running
    rw [runPlan, runPlan]
    rcases @runPlannedStep_resumes ctx decisions prog alike index
        planned quiet with ⟨same, nextQuiet⟩ | ⟨halted, resumes⟩
    · rw [same] at nextOnCourse
      simp only [same]
      by_cases halts : (runPlannedStep ctx index planned prog).haltReason.isSome = true
      · rw [if_pos halts, if_pos halts]
        exact Or.inl ⟨rfl, nextQuiet⟩
      · rw [if_neg halts, if_neg halts]
        exact ih (index + 1) _ nextOnCourse (Option.not_isSome_iff_eq_none.mp halts) nextQuiet
    · rw [if_pos halted]
      right
      refine ⟨halted, resumes.extend ?_⟩
      split
      · exact List.prefix_rfl
      · next goesOn =>
          exact runPlan_prefix rest (index + 1) _ nextOnCourse
            (Option.not_isSome_iff_eq_none.mp goesOn)

end Runs

section Trace

variable {env : AgentEnvironment} {externalCaseId : String}
  {payload : Option Json} {prep : AgentPreparation}
  {callback : Option AgentLiveReplanCallback}

theorem executeAgentPlan_deciding (decisions : List (String × Json))
    (motive : AgentExecutionTrace → AgentExecutionTrace → Prop)
    (rejected : ∀ trace : AgentExecutionTrace, trace.steps = [] → motive trace trace)
    (executed : ∀ plan,
      let ctx := planContext env externalCaseId prep plan callback
      motive (runTrace ctx plan (runPlan ctx plan.steps 0 PlanProgress.initial))
        (runTrace ctx plan (runPlan (ctx.deciding decisions) plan.steps 0 PlanProgress.initial))) :
    motive (executeAgentPlan env externalCaseId payload prep callback)
      (executeAgentPlan env externalCaseId payload
        { prep with approvalDecisions := decisions } callback) := by
  simp only [executeAgentPlan]
  cases parsed : parsePlan env.text payload with
  | error parseError => exact rejected _ rfl
  | ok plan =>
    simp only
    split
    · exact rejected _ rfl
    split
    · exact rejected _ rfl
    split
    · exact rejected _ rfl
    split
    · exact rejected _ rfl
    split
    · exact rejected _ rfl
    · exact executed plan

theorem executeAgentPlan_resumesAt {decisions : List (String × Json)} (alike : DecidesAlike prep
      { prep with approvalDecisions := decisions })
    {waiting : AgentStep}
    (mem : waiting ∈ (executeAgentPlan env externalCaseId payload prep callback).steps)
    (pending : waiting.isPendingCheckpoint = true) :
    Resumes env prep
      { prep with approvalDecisions := decisions }
      (executeAgentPlan env externalCaseId payload prep callback).steps
      (executeAgentPlan env externalCaseId payload
        { prep with approvalDecisions := decisions } callback).steps := by
  revert mem
  apply executeAgentPlan_deciding decisions (motive := fun trace resumed =>
    waiting ∈ trace.steps → Resumes env prep
      { prep with approvalDecisions := decisions } trace.steps
      resumed.steps)
  · intro trace noSteps mem
    rw [noSteps] at mem
    cases mem
  · intro plan ctx mem
    have noneWaits : NoneWaits PlanProgress.initial.executedSteps := by
      intro first isFirst
      cases isFirst
    rcases @runPlan_resumes ctx decisions alike plan.steps 0
        PlanProgress.initial onCourse_initial rfl noneWaits with
      ⟨_, quiet⟩ | ⟨_, resumes⟩
    · rw [quiet waiting mem] at pending
      cases pending
    · exact resumes

end Trace

end ModelAtlas.Agent
