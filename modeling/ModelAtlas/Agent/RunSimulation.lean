import ModelAtlas.Agent.Replans

/-!
# Simulation of a run by another

Two runs of a plan are the same as long as their decisions agree on the steps
that the first one executes and no callback is called. One call at most is made
in a run.
-/

namespace ModelAtlas.Agent

open Foundations Approval

variable {before after : PlanProgress} {planned modelCall : Json} {index : Nat} {step : AgentStep}
  {plan : RecoveryPlan} {answer : LiveReplanAnswer} {callback : Option AgentLiveReplanCallback}
  {event : ReplanEvent} {call : LiveCall} {steps : List Json} {added : List AgentStep}

/-! ## A run only grows -/

/-- The history and the events of a progress are kept; marks may be added. -/
structure Extends (before after : PlanProgress) : Prop where
  steps : before.executedSteps.map AgentStep.unmarked <+:
    after.executedSteps.map AgentStep.unmarked
  events : before.replanEvents <+: after.replanEvents

theorem Extends.refl (prog : PlanProgress) : Extends prog prog :=
  ⟨List.prefix_rfl, List.prefix_rfl⟩

theorem Extends.trans {first second third : PlanProgress}
    (earlier : Extends first second) (later : Extends second third) :
    Extends first third :=
  ⟨earlier.steps.trans later.steps, earlier.events.trans later.events⟩

theorem extends_of_eq (steps : after.executedSteps = before.executedSteps)
    (events : after.replanEvents = before.replanEvents) :
    Extends before after :=
  ⟨steps ▸ List.prefix_rfl, events ▸ List.prefix_rfl⟩

theorem extends_addEvent (prog : PlanProgress) (event : ReplanEvent) :
    Extends prog (prog.addEvent event) :=
  ⟨List.prefix_rfl, List.prefix_append _ _⟩

theorem map_unmarked_markRecovered (prog : PlanProgress) (stepIndex : Nat) :
    (prog.markRecovered stepIndex).executedSteps.map AgentStep.unmarked =
      prog.executedSteps.map AgentStep.unmarked := by
  simp only [PlanProgress.markRecovered, List.map_map]
  apply List.map_congr_left
  intro step _
  exact keepsUnmarked_markRecovered stepIndex step

theorem extends_markRecovered (prog : PlanProgress) (stepIndex : Nat) :
    Extends prog (prog.markRecovered stepIndex) := by
  refine ⟨?_, List.prefix_rfl⟩
  rw [map_unmarked_markRecovered]

section Growth

variable {ctx : PlanContext} {prog : PlanProgress}

theorem extends_performPlanned {expected : Option Json}
    {phase : String} {parentStepIndex : Option Nat} :
    Extends prog (performPlanned ctx prog planned expected phase parentStepIndex).1 := by
  refine ⟨?_, List.prefix_rfl⟩
  simp only [performPlanned, PlanProgress.record, PlanProgress.counting, List.map_append]
  exact List.prefix_append _ _

theorem extends_runRecovery (expectedRecovery : List Json) (trigger : Nat)
    (steps : List Json) (recoveryIndex : Nat) (run : RecoveryRun) :
    Extends run.progress (runRecovery ctx expectedRecovery trigger steps
      recoveryIndex run).progress := by
  induction steps generalizing recoveryIndex run with
  | nil => exact Extends.refl _
  | cons recoveryStep rest ih =>
    rw [runRecovery]
    split
    · exact Extends.refl _
    split
    · exact extends_of_eq rfl rfl
    simp only
    split
    · refine Extends.trans ?_ (ih (recoveryIndex + 1) _)
      exact extends_performPlanned
    · exact extends_performPlanned

def recoveryRun (ctx : PlanContext) (prog : PlanProgress) (index : Nat)
    (plan : RecoveryPlan) : RecoveryRun :=
  runRecovery ctx (expectedRecoverySteps ctx.preparation.contract index) index plan.steps 0
    { progress := prog
      recoveryStepIndices := []
      status := "running"
      successful := !plan.steps.isEmpty }

def recoveryEvent (ctx : PlanContext) (prog : PlanProgress)
    (index : Nat) (step : AgentStep) (plan : RecoveryPlan) : ReplanEvent where
  replanIndex := prog.replanEvents.length + 1
  triggerStepIndex := index
  triggerErrorType := step.errorType
  observation := step.observation ctx.env
  strategy := plan.strategyOr ctx "replace_with_recovery_steps"
  source := plan.source
  expectedActionSequence := expectedActions ctx.env.text
    (expectedRecoverySteps ctx.preparation.contract index)
  actualActionSequence := actualActions ctx.env.text (plan.steps.filter Json.isObject)
  sequenceMatch := actionsMatch (expectedActions ctx.env.text
      (expectedRecoverySteps ctx.preparation.contract index))
    (actualActions ctx.env.text (plan.steps.filter Json.isObject))
  recoveryStepIndices := []
  status := "running"
  successful := false
  modelCall := plan.modelCall

def afterRecovery (ctx : PlanContext) (prog : PlanProgress)
    (index : Nat) (step : AgentStep) (plan : RecoveryPlan) (run : RecoveryRun) :
    PlanProgress :=
  if run.successful then
    (run.progress.markRecovered step.stepIndex).addEvent
      { recoveryEvent ctx prog index step plan with
        recoveryStepIndices := run.recoveryStepIndices
        status := "success"
        successful := true }
  else
    (run.progress.addEvent
      { recoveryEvent ctx prog index step plan with
        recoveryStepIndices := run.recoveryStepIndices
        status := if run.status = "running" then "failed" else run.status }).halt
      (run.progress.haltReason.getD "recovery_failed")

theorem attemptRecovery_ran
    (room : ¬ctx.preparation.agentContext.replanLimit ≤ prog.replanEvents.length)
    (short : ¬plan.steps.length > ctx.preparation.agentContext.recoveryStepLimit)
    (matching : ¬(!actionsMatch (expectedActions ctx.env.text (expectedRecoverySteps
        ctx.preparation.contract index))
      (actualActions ctx.env.text (plan.steps.filter Json.isObject))) = true) :
    attemptRecovery ctx prog index step plan =
      afterRecovery ctx prog index step plan (recoveryRun ctx prog index plan) :=
  (if_neg room).trans ((if_neg short).trans (if_neg matching))

theorem extends_afterRecovery (run : RecoveryRun) :
    Extends run.progress (afterRecovery ctx prog index step plan run) := by
  rw [afterRecovery]
  split
  · exact (extends_markRecovered _ _).trans (extends_addEvent _ _)
  · exact (extends_addEvent _ _).trans (extends_of_eq rfl rfl)

theorem extends_recoveryRun : Extends prog (recoveryRun ctx prog index plan).progress :=
  extends_runRecovery _ _ _ _ ⟨prog, [], "running", !plan.steps.isEmpty⟩

theorem extends_attemptRecovery : Extends prog (attemptRecovery ctx prog index step plan) := by
  simp only [attemptRecovery]
  split
  · exact Extends.refl _
  split
  · exact (extends_addEvent prog _).trans (extends_of_eq rfl rfl)
  split
  · exact (extends_addEvent prog _).trans (extends_of_eq rfl rfl)
  exact extends_recoveryRun.trans (extends_afterRecovery _)

/-- What the recovery of a failed step does with the answer of a callback. -/
def replanAnswered (ctx : PlanContext) (answer : LiveReplanAnswer)
    (prog : PlanProgress) (index : Nat) (step : AgentStep) : PlanProgress :=
  replanLive ctx (fun _ => answer) prog index step

def liveReplanRequest (ctx : PlanContext) (prog : PlanProgress)
    (index : Nat) (step : AgentStep) : AgentLiveReplanRequest where
  externalCaseId := ctx.externalCaseId
  triggerStepIndex := index
  triggerErrorType := step.errorType.getD ""
  observation := step.observation ctx.env
  expectedRecoverySteps :=
    expectedRecoverySteps ctx.preparation.contract index
  priorOutputs := prog.priorOutputs
  recoveryStepLimit := ctx.preparation.agentContext.recoveryStepLimit

theorem replanLive_eq (callback : AgentLiveReplanCallback) :
    replanLive ctx callback prog index step = replanAnswered ctx
        (callback (liveReplanRequest ctx prog index step)) prog index
        step := rfl

theorem extends_replanAnswered : Extends prog (replanAnswered ctx answer prog index step) := by
  have called : Extends prog
      { prog with
        liveReplanCallCount := prog.liveReplanCallCount + 1 } :=
    extends_of_eq rfl rfl
  cases answer with
  | raised errorType =>
    exact (extends_addEvent prog _).trans (extends_of_eq rfl rfl)
  | noResponse =>
    exact (extends_addEvent prog _).trans (extends_of_eq rfl rfl)
  | response steps modelCall => exact called.trans extends_attemptRecovery

theorem extends_recoverStep : Extends prog (recoverStep ctx prog index step) := by
  rw [recoverStep]
  split
  · exact extends_attemptRecovery
  split
  · exact Extends.refl _
  split
  · rw [replanLive_eq]
    exact extends_replanAnswered
  · exact Extends.refl _

/-- What follows a performed step, where its recovery would leave `recovered`. -/
def afterPerformed (performed : PlanProgress × AgentStep)
    (recovered : PlanProgress) : PlanProgress :=
  if performed.2.status = "pending" then performed.1.halt "approval_pending"
  else if performed.2.status = "denied" then
    performed.1.halt "approval_denied"
  else if !performed.2.policyViolations.isEmpty then
    performed.1.halt "policy_violation"
  else if performed.2.successful then performed.1
  else recovered

theorem runPlannedStep_eq : runPlannedStep ctx index planned prog = afterPerformed
        (performPlanned ctx prog planned
          (expectedSteps ctx.preparation.contract)[index]? "plan" none)
        (recoverStep ctx (performPlanned ctx prog planned
            (expectedSteps ctx.preparation.contract)[index]? "plan" none).1
          index
          (performPlanned ctx prog planned
            (expectedSteps ctx.preparation.contract)[index]? "plan"
            none).2) := rfl

theorem afterPerformed_cases (performed : PlanProgress × AgentStep) :
    (∀ recovered other, afterPerformed performed recovered = afterPerformed performed other) ∨
    performed.2.successful = false ∧
      ∀ recovered, afterPerformed performed recovered = recovered := by
  by_cases pending : performed.2.status = "pending"
  · left
    intro recovered other
    exact (if_pos pending).trans (if_pos pending).symm
  by_cases denied : performed.2.status = "denied"
  · left
    intro recovered other
    exact ((if_neg pending).trans (if_pos denied)).trans
      ((if_neg pending).trans (if_pos denied)).symm
  by_cases violated : (!performed.2.policyViolations.isEmpty) = true
  · left
    intro recovered other
    simp only [afterPerformed, pending, denied, violated, if_true, if_false]
  by_cases successful : performed.2.successful = true
  · left
    intro recovered other
    simp only [afterPerformed, pending, denied, successful, if_true, if_false]
  · right
    refine ⟨Bool.eq_false_of_not_eq_true successful, ?_⟩
    intro recovered
    simp only [afterPerformed, if_neg pending, if_neg denied, if_neg violated, if_neg successful]

theorem extends_afterPerformed {performed : PlanProgress × AgentStep}
    {recovered : PlanProgress} (grown : Extends performed.1 recovered) :
    Extends performed.1 (afterPerformed performed recovered) := by
  rw [afterPerformed]
  split
  · exact extends_of_eq rfl rfl
  split
  · exact extends_of_eq rfl rfl
  split
  · exact extends_of_eq rfl rfl
  split
  · exact Extends.refl _
  · exact grown

theorem afterPerformed_replanEvents {performed : PlanProgress × AgentStep} :
    (afterPerformed performed performed.1).replanEvents =
      performed.1.replanEvents := by
  rw [afterPerformed]
  split
  · rfl
  split
  · rfl
  split
  · rfl
  split
  · rfl
  · rfl

theorem extends_runPlannedStep (planned : Json) :
    Extends prog (runPlannedStep ctx index planned prog) := by
  rw [runPlannedStep_eq]
  exact extends_performPlanned.trans (extends_afterPerformed extends_recoverStep)

theorem extends_runPlan (steps : List Json) (index : Nat) (prog : PlanProgress) :
    Extends prog (runPlan ctx steps index prog) := by
  induction steps generalizing index prog with
  | nil => exact Extends.refl _
  | cons planned rest ih =>
    rw [runPlan]
    split
    · exact extends_runPlannedStep planned
    · exact (extends_runPlannedStep planned).trans (ih _ _)

def Settled (ctx : PlanContext) (prog : PlanProgress) : Prop :=
  ctx.preparation.agentContext.replanLimit ≤ prog.replanEvents.length

theorem attemptRecovery_settled (settled : Settled ctx prog) :
    attemptRecovery ctx prog index step plan = prog := by
  simp only [attemptRecovery]
  exact if_pos settled

theorem recoverStep_settled (settled : Settled ctx prog) :
    recoverStep ctx prog index step = prog := by
  rw [recoverStep]
  split
  · exact attemptRecovery_settled settled
  split
  · rfl
  split
  · next available =>
      simp only [Bool.and_eq_true, decide_eq_true_eq] at available
      rw [Settled] at settled
      omega
  · rfl

theorem runPlannedStep_settled_events (planned : Json) (settled : Settled ctx prog) :
    (runPlannedStep ctx index planned prog).replanEvents =
      prog.replanEvents := by
  simp only [runPlannedStep]
  split
  · rfl
  split
  · rfl
  split
  · rfl
  split
  · rfl
  · rw [recoverStep_settled (show Settled ctx (performPlanned ctx
      prog planned (expectedSteps ctx.preparation.contract)[index]?
      "plan" none).1 from settled)]
    rfl

theorem runPlan_settled_events (steps : List Json) (index : Nat)
    (prog : PlanProgress) (settled : Settled ctx prog) :
    (runPlan ctx steps index prog).replanEvents =
      prog.replanEvents := by
  induction steps generalizing index prog with
  | nil => rfl
  | cons planned rest ih =>
    have kept : (runPlannedStep ctx index planned prog).replanEvents =
        prog.replanEvents :=
      runPlannedStep_settled_events planned settled
    rw [runPlan]
    split
    · exact kept
    · have nextSettled : Settled ctx (runPlannedStep ctx index planned prog) := by
        rw [Settled, kept]
        exact settled
      rw [ih _ _ nextSettled, kept]

end Growth

def PlanContext.replaying (ctx : PlanContext) (decisions : List (String × Json))
    (callback : Option AgentLiveReplanCallback) : PlanContext :=
  { ctx with
    preparation := { ctx.preparation with approvalDecisions := decisions }
    callback := callback }

/-- Where a call is answered by this step, it is answered so under the other
decisions too. -/
def AgreesOn (ctx : PlanContext) (decisions : List (String × Json)) (step : AgentStep) : Prop :=
  ∀ call, executeAgentStep ctx.env ctx.externalCaseId ctx.preparation call = step.unmarked →
    executeAgentStep ctx.env ctx.externalCaseId
      { ctx.preparation with approvalDecisions := decisions } call = step.unmarked

def AgreesThrough (ctx : PlanContext) (decisions : List (String × Json))
    (prog : PlanProgress) : Prop :=
  ∀ step ∈ prog.executedSteps, AgreesOn ctx decisions step

section Simulation

variable {ctx : PlanContext} {decisions : List (String × Json)}
  {prog : PlanProgress}

theorem AgreesThrough.of_extends (grown : Extends prog after)
    (agrees : AgreesThrough ctx decisions after) :
    AgreesThrough ctx decisions prog := by
  intro step mem call answered
  have kept : step.unmarked ∈ after.executedSteps.map AgentStep.unmarked :=
    grown.steps.subset (List.mem_map_of_mem mem)
  obtain ⟨later, laterMem, sameStep⟩ := List.mem_map.mp kept
  rw [← sameStep] at answered ⊢
  exact agrees later laterMem call answered

theorem executeAgentStep_unmarked {env : AgentEnvironment} {externalCaseId : String}
    {prep : AgentPreparation} {call : StepCall} :
    (executeAgentStep env externalCaseId prep call).unmarked =
      executeAgentStep env externalCaseId prep call := by
  have answers : AnswersCall env call _ (executeAgentStep env
    externalCaseId prep call) := answersCall_executeAgentStep
  rw [AgentStep.unmarked, ← answers.recoveredByReplan]

theorem performPlanned_simulates {expected : Option Json} {phase : String}
    {parentStepIndex : Option Nat} (agrees : AgreesThrough ctx decisions (performPlanned ctx prog
      planned expected phase parentStepIndex).1) :
    performPlanned (ctx.replaying decisions callback) prog planned expected phase parentStepIndex =
      performPlanned ctx prog planned expected phase
        parentStepIndex := by
  have mem : (performPlanned ctx prog planned expected phase
      parentStepIndex).2 ∈ (performPlanned ctx prog planned expected
        phase parentStepIndex).1.executedSteps :=
    List.mem_append_right _ (List.mem_singleton_self _)
  have same := agrees _ mem _ executeAgentStep_unmarked.symm
  have stepEq : (performPlanned (ctx.replaying decisions callback) prog
      planned expected phase parentStepIndex).2 = (performPlanned ctx
        prog planned expected phase parentStepIndex).2 :=
    same.trans executeAgentStep_unmarked
  exact Prod.ext (congrArg (PlanProgress.record ctx.env _) stepEq) stepEq

theorem runRecovery_simulates (expectedRecovery : List Json) (trigger : Nat) (steps : List Json)
    (recoveryIndex : Nat) (run : RecoveryRun) (agrees : AgreesThrough ctx decisions (runRecovery ctx
      expectedRecovery trigger steps recoveryIndex run).progress) :
    runRecovery (ctx.replaying decisions callback) expectedRecovery trigger
        steps recoveryIndex run =
      runRecovery ctx expectedRecovery trigger steps recoveryIndex run := by
  induction steps generalizing recoveryIndex run with
  | nil => rfl
  | cons recoveryStep rest ih =>
    rw [runRecovery] at agrees ⊢
    rw [runRecovery]
    split at agrees
    · next notObject => rw [if_pos notObject, if_pos notObject]
    next object =>
    rw [if_neg object, if_neg object]
    split at agrees
    · next full => rw [if_pos full]; exact if_pos full
    next room =>
    rw [if_neg room]
    refine (if_neg room).trans ?_
    simp only at agrees ⊢
    have performedAgrees : AgreesThrough ctx decisions (performPlanned ctx run.progress recoveryStep
          expectedRecovery[recoveryIndex]? "recovery" (some trigger)).1 := by
      refine AgreesThrough.of_extends ?_ agrees
      split
      · exact extends_runRecovery expectedRecovery trigger rest
          (recoveryIndex + 1) ⟨(performPlanned ctx run.progress
            recoveryStep expectedRecovery[recoveryIndex]? "recovery"
            (some trigger)).1, _, _, _⟩
      · exact Extends.refl _
    rw [performPlanned_simulates performedAgrees]
    split at agrees
    · next successful =>
        rw [if_pos successful, if_pos successful]
        exact ih _ _ agrees
    · next failed => rw [if_neg failed, if_neg failed]

theorem attemptRecovery_simulates
    (agrees : AgreesThrough ctx decisions (attemptRecovery ctx prog index step plan)) :
    attemptRecovery (ctx.replaying decisions callback) prog index step plan =
      attemptRecovery ctx prog index step plan := by
  by_cases full : ctx.preparation.agentContext.replanLimit ≤ prog.replanEvents.length
  · exact (if_pos full).trans (if_pos full).symm
  by_cases long : plan.steps.length > ctx.preparation.agentContext.recoveryStepLimit
  · exact ((if_neg full).trans (if_pos long)).trans ((if_neg full).trans (if_pos long)).symm
  by_cases mismatch : (!actionsMatch (expectedActions ctx.env.text (expectedRecoverySteps
        ctx.preparation.contract index))
      (actualActions ctx.env.text (plan.steps.filter Json.isObject))) = true
  · exact ((if_neg full).trans ((if_neg long).trans (if_pos mismatch))).trans
      ((if_neg full).trans ((if_neg long).trans (if_pos mismatch))).symm
  have ran : attemptRecovery ctx prog index step plan =
      afterRecovery ctx prog index step plan (recoveryRun ctx prog index plan) :=
    attemptRecovery_ran full long mismatch
  have replayed : attemptRecovery (ctx.replaying decisions callback) prog index step plan =
        afterRecovery ctx prog index step plan
          (recoveryRun (ctx.replaying decisions callback) prog index
            plan) := attemptRecovery_ran full long mismatch
  rw [ran] at agrees
  have runAgrees := agrees.of_extends (extends_afterRecovery _)
  have sameRun : recoveryRun (ctx.replaying decisions callback) prog
      index plan = recoveryRun ctx prog index plan :=
    runRecovery_simulates _ _ _ _ _ runAgrees
  rw [ran, replayed, sameRun]

theorem replanAnswered_simulates
    (agrees : AgreesThrough ctx decisions (replanAnswered ctx answer prog index step)) :
    replanAnswered (ctx.replaying decisions callback) answer prog index step =
      replanAnswered ctx answer prog index step := by
  cases answer with
  | raised errorType => rfl
  | noResponse => rfl
  | response steps modelCall => exact attemptRecovery_simulates agrees

structure LiveCall where
  rest : List Json
  index : Nat
  progress : PlanProgress
  step : AgentStep

namespace LiveCall

def finish (ctx : PlanContext) (call : LiveCall) (answer : LiveReplanAnswer) : PlanProgress :=
  let next := replanAnswered ctx answer call.progress call.index call.step
  if next.haltReason.isSome then next
  else runPlan ctx call.rest (call.index + 1) next

def request (ctx : PlanContext) (call : LiveCall) :
    AgentLiveReplanRequest :=
  liveReplanRequest ctx call.progress call.index call.step

/-- The callback is called for an executed step that failed, while there is room
for a replanning. -/
structure Made (ctx : PlanContext) (call : LiveCall) : Prop where
  room : call.progress.replanEvents.length <
    ctx.preparation.agentContext.replanLimit
  failed : call.step.successful = false
  executed : ∃ stepCall, call.step = executeAgentStep ctx.env
    ctx.externalCaseId ctx.preparation stepCall

end LiveCall

def OnlyPredeclared (before after : PlanProgress) : Prop :=
  ∀ event ∈ after.replanEvents,
    event ∈ before.replanEvents ∨ event.source = "predeclared_plan"

theorem OnlyPredeclared.trans {first second third : PlanProgress}
    (earlier : OnlyPredeclared first second)
    (later : OnlyPredeclared second third) : OnlyPredeclared first third := by
  intro event mem
  rcases later event mem with before | predeclared
  · exact earlier event before
  · exact Or.inr predeclared

theorem onlyPredeclared_of_eq (events : after.replanEvents = before.replanEvents) :
    OnlyPredeclared before after := by
  intro event mem
  rw [events] at mem
  exact Or.inl mem

theorem onlyPredeclared_concat (source : event.source = "predeclared_plan")
    (events : after.replanEvents = before.replanEvents ++ [event]) :
    OnlyPredeclared before after := by
  intro other mem
  rw [events] at mem
  rcases List.mem_append.mp mem with earlier | last
  · exact Or.inl earlier
  · rw [List.mem_singleton.mp last]
    exact Or.inr source

theorem recoveryRun_replanEvents : (recoveryRun ctx prog index plan).progress.replanEvents =
      prog.replanEvents :=
  runRecovery_replanEvents _ _ _ _ _ _

theorem afterRecovery_replanEvents (ctx : PlanContext) (prog : PlanProgress) (index : Nat)
    (step : AgentStep) (plan : RecoveryPlan) :
    ∃ event, event.source = plan.source ∧ event.modelCall = plan.modelCall ∧
      (afterRecovery ctx prog index step plan (recoveryRun ctx prog index plan)).replanEvents =
          prog.replanEvents ++ [event] := by
  rw [afterRecovery]
  split
  · exact ⟨_, rfl, rfl, congrArg (· ++ _) recoveryRun_replanEvents⟩
  · exact ⟨_, rfl, rfl, congrArg (· ++ _) recoveryRun_replanEvents⟩

theorem attemptRecovery_onlyPredeclared (source : plan.source = "predeclared_plan") :
    OnlyPredeclared prog (attemptRecovery ctx prog index step plan) := by
  simp only [attemptRecovery]
  split
  · exact onlyPredeclared_of_eq rfl
  split
  · exact onlyPredeclared_concat source rfl
  split
  · exact onlyPredeclared_concat source rfl
  obtain ⟨event, eventSource, _, events⟩ :=
    afterRecovery_replanEvents ctx prog index step plan
  exact onlyPredeclared_concat (eventSource.trans source) events

structure MakesNoCall (ctx : PlanContext)
    (decisions : List (String × Json)) (run : PlanContext → PlanProgress)
    (before : PlanProgress) : Prop where
  onlyPredeclared : OnlyPredeclared before (run ctx)
  same : ∀ callback, callback.isSome = ctx.callback.isSome →
    run (ctx.replaying decisions callback) = run ctx

structure MakesCall (ctx : PlanContext) (decisions : List (String × Json))
    (run : PlanContext → PlanProgress)
    (finish : PlanContext → LiveReplanAnswer → PlanProgress)
    (call : LiveCall) : Prop where
  made : LiveCall.Made ctx call
  answered : ∃ asked, ctx.callback = some asked ∧
    run ctx = finish ctx (asked (call.request ctx))
  replayed : ∀ callback, run (ctx.replaying decisions (some callback)) =
    finish (ctx.replaying decisions (some callback))
      (callback (call.request ctx))

theorem recoverStep_simulates (rest : List Json)
    (agrees : AgreesThrough ctx decisions (recoverStep ctx prog index step))
    (failed : step.successful = false) (executed : ∃ stepCall, step = executeAgentStep ctx.env
      ctx.externalCaseId ctx.preparation stepCall) :
    MakesNoCall ctx decisions (fun running => recoverStep running prog index step) prog ∨
      MakesCall ctx decisions (fun running => recoverStep running prog index step)
        (fun running answer =>
          replanAnswered running answer prog index step)
        ⟨rest, index, prog, step⟩ := by
  cases selected : selectRecoveryPlan ctx.recoveryPlans index
      (step.errorType.getD "") with
  | some branch =>
    left
    have recovery : ∀ running : PlanContext, running.recoveryPlans = ctx.recoveryPlans →
        recoverStep running prog index step = attemptRecovery running prog index step
            ⟨branch.steps, branch.strategy, "predeclared_plan", .null⟩ := by
      intro running same
      simp only [recoverStep, same, selected]
    rw [recovery ctx rfl] at agrees
    refine ⟨?_, ?_⟩
    · simp only [recovery ctx rfl]
      exact attemptRecovery_onlyPredeclared rfl
    · intro callback _
      simp only [recovery ctx rfl, recovery (ctx.replaying decisions callback) rfl]
      exact attemptRecovery_simulates agrees
  | none =>
    have noBranch : ∀ callback, selectRecoveryPlan
        (ctx.replaying decisions callback).recoveryPlans index
        (step.errorType.getD "") = none := fun _ => selected
    cases asking : ctx.callback with
    | none =>
      left
      have kept : recoverStep ctx prog index step = prog := by
        simp only [recoverStep, selected, asking]
      refine ⟨onlyPredeclared_of_eq (by rw [kept]), ?_⟩
      intro callback sameCallback
      rw [asking, Option.isSome_none, Option.isSome_eq_false_iff,
        Option.isNone_iff_eq_none] at sameCallback
      rw [kept, sameCallback]
      simp only [recoverStep, noBranch]
      rfl
    | some asked =>
      have asks : ∀ running : PlanContext, ∀ callback, running.recoveryPlans = ctx.recoveryPlans →
          running.preparation.agentContext = ctx.preparation.agentContext →
          running.callback = some callback → recoverStep running prog index step =
            if ctx.preparation.agentContext.allowLiveReplanning && prog.liveReplanCallCount < 1 &&
                prog.replanEvents.length < ctx.preparation.agentContext.replanLimit then
              replanLive running callback prog index step
            else prog := by
        intro running callback samePlans sameLimits asksCallback
        simp only [recoverStep, samePlans, selected, asksCallback, sameLimits]
      by_cases available : (ctx.preparation.agentContext.allowLiveReplanning &&
            prog.liveReplanCallCount < 1 &&
            prog.replanEvents.length < ctx.preparation.agentContext.replanLimit) = true
      · right
        refine ⟨⟨?_, failed, executed⟩, ⟨asked, asking, ?_⟩, ?_⟩
        · simp only [Bool.and_eq_true, decide_eq_true_eq] at available
          exact available.2
        · simp only [asks ctx asked rfl rfl asking, if_pos available]
          exact replanLive_eq asked
        · intro callback
          simp only [asks (ctx.replaying decisions (some callback))
            callback rfl rfl rfl, if_pos available]
          exact replanLive_eq callback
      · left
        have kept : recoverStep ctx prog index step = prog := by
          simp only [asks ctx asked rfl rfl asking, if_neg available]
        refine ⟨onlyPredeclared_of_eq (by rw [kept]), ?_⟩
        intro callback sameCallback
        obtain ⟨other, rfl⟩ : ∃ other, callback = some other := by
          rw [asking] at sameCallback
          exact Option.isSome_iff_exists.mp sameCallback
        rw [kept]
        simp only [asks (ctx.replaying decisions (some other)) other rfl
          rfl rfl, if_neg available]

theorem runPlannedStep_simulates (planned : Json) (rest : List Json)
    (agrees : AgreesThrough ctx decisions (runPlannedStep ctx index planned prog)) :
    MakesNoCall ctx decisions (fun running => runPlannedStep running index planned prog) prog ∨
      ∃ performed step, MakesCall ctx decisions
        (fun running => runPlannedStep running index planned prog)
        (fun running answer => replanAnswered running answer performed index
          step) ⟨rest, index, performed, step⟩ := by
  have grown : Extends (performPlanned ctx prog planned
      (expectedSteps ctx.preparation.contract)[index]? "plan" none).1
      (runPlannedStep ctx index planned prog) := by
    rw [runPlannedStep_eq]
    exact extends_afterPerformed extends_recoverStep
  have performedSame : ∀ callback, performPlanned (ctx.replaying decisions
      callback) prog planned (expectedSteps
        ctx.preparation.contract)[index]? "plan" none =
      performPlanned ctx prog planned (expectedSteps
        ctx.preparation.contract)[index]? "plan" none :=
    fun callback => performPlanned_simulates (agrees.of_extends grown)
  have executed : ∃ stepCall, (performPlanned ctx prog planned
      (expectedSteps ctx.preparation.contract)[index]? "plan" none).2 =
        executeAgentStep ctx.env ctx.externalCaseId ctx.preparation stepCall := ⟨_, rfl⟩
  have performedEvents : (performPlanned ctx prog planned
      (expectedSteps ctx.preparation.contract)[index]? "plan"
      none).1.replanEvents = prog.replanEvents := rfl
  have stepEq : ∀ callback, runPlannedStep (ctx.replaying decisions
      callback) index planned prog = afterPerformed (performPlanned ctx prog planned (expectedSteps
          ctx.preparation.contract)[index]? "plan" none)
        (recoverStep (ctx.replaying decisions callback)
          (performPlanned ctx prog planned (expectedSteps
            ctx.preparation.contract)[index]? "plan" none).1 index
          (performPlanned ctx prog planned (expectedSteps
            ctx.preparation.contract)[index]? "plan" none).2) := by
    intro callback
    rw [← performedSame callback]
    rfl
  have ownEq : runPlannedStep ctx index planned prog = afterPerformed
      (performPlanned ctx prog planned (expectedSteps
        ctx.preparation.contract)[index]? "plan" none)
      (recoverStep ctx (performPlanned ctx prog planned (expectedSteps
          ctx.preparation.contract)[index]? "plan" none).1 index
        (performPlanned ctx prog planned (expectedSteps
          ctx.preparation.contract)[index]? "plan" none).2) := rfl
  generalize performPlanned ctx prog planned (expectedSteps
    ctx.preparation.contract)[index]? "plan" none = performed
    at executed performedEvents stepEq ownEq
  rcases afterPerformed_cases performed with unaffected | ⟨failed, recovers⟩
  · left
    refine ⟨?_, ?_⟩
    · apply onlyPredeclared_of_eq
      simp only [ownEq]
      rw [unaffected _ performed.1, afterPerformed_replanEvents, performedEvents]
    · intro callback _
      simp only [ownEq, stepEq callback]
      exact unaffected _ _
  · have ownRecovery := ownEq.trans (recovers _)
    rw [ownRecovery] at agrees
    rcases recoverStep_simulates rest agrees failed executed with none | call
    · left
      refine ⟨?_, ?_⟩
      · simp only [ownRecovery]
        exact (onlyPredeclared_of_eq performedEvents).trans none.onlyPredeclared
      · intro callback sameCallback
        simp only [ownRecovery, stepEq callback, recovers]
        exact none.same callback sameCallback
    · right
      refine ⟨performed.1, performed.2, call.made, ?_, ?_⟩
      · obtain ⟨asked, asking, answered⟩ := call.answered
        exact ⟨asked, asking, ownRecovery.trans answered⟩
      · intro callback
        simp only [stepEq, recovers]
        exact call.replayed callback

theorem runPlan_simulates (steps : List Json) (index : Nat) (prog : PlanProgress)
    (agrees : AgreesThrough ctx decisions (runPlan ctx steps index prog)) :
    MakesNoCall ctx decisions (fun running => runPlan running steps index prog) prog ∨
      ∃ call, MakesCall ctx decisions (fun running => runPlan running steps index prog)
        (fun running answer => call.finish running answer) call := by
  induction steps generalizing index prog with
  | nil =>
    left
    refine ⟨onlyPredeclared_of_eq rfl, ?_⟩
    intro callback _
    rfl
  | cons planned rest ih =>
    have nextAgrees : AgreesThrough ctx decisions (runPlannedStep ctx index planned prog) := by
      refine AgreesThrough.of_extends ?_ agrees
      rw [runPlan]
      split
      · exact Extends.refl _
      · exact extends_runPlan _ _ _
    rcases runPlannedStep_simulates planned rest nextAgrees with
      none | ⟨performed, step, call⟩
    · -- The step is the same with any callback, and the rest is simulated.
      by_cases halted : (runPlannedStep ctx index planned prog).haltReason.isSome = true
      · left
        have own : runPlan ctx (planned :: rest) index prog =
            runPlannedStep ctx index planned prog := if_pos halted
        refine ⟨?_, ?_⟩
        · simp only [own]
          exact none.onlyPredeclared
        · intro callback sameCallback
          have sameStep := none.same callback sameCallback
          refine Eq.trans ?_ own.symm
          simp only [runPlan, sameStep]
          exact if_pos halted
      · have own : runPlan ctx (planned :: rest) index prog =
            runPlan ctx rest (index + 1) (runPlannedStep ctx index planned prog) :=
          if_neg halted
        have goesOn : ∀ callback, callback.isSome = ctx.callback.isSome →
            runPlan (ctx.replaying decisions callback) (planned :: rest) index prog =
              runPlan (ctx.replaying decisions callback) rest (index + 1)
                (runPlannedStep ctx index planned prog) := by
          intro callback sameCallback
          have sameStep := none.same callback sameCallback
          simp only [runPlan, sameStep]
          exact if_neg halted
        rw [own] at agrees
        rcases ih (index + 1) _ agrees with
          later | ⟨call, later⟩
        · left
          refine ⟨?_, ?_⟩
          · simp only [own]
            exact none.onlyPredeclared.trans later.onlyPredeclared
          · intro callback sameCallback
            simp only [own, goesOn callback sameCallback]
            exact later.same callback sameCallback
        · right
          obtain ⟨asked, asking, answered⟩ := later.answered
          refine ⟨call, later.made, ⟨asked, asking, ?_⟩, ?_⟩
          · exact own.trans answered
          · intro callback
            have sameCallback : (some callback).isSome = ctx.callback.isSome := by
              rw [asking]
              rfl
            simp only [goesOn (some callback) sameCallback]
            exact later.replayed callback
    · -- The callback is called for this step.
      right
      obtain ⟨asked, asking, answered⟩ := call.answered
      refine ⟨⟨rest, index, performed, step⟩, call.made, ⟨asked, asking, ?_⟩, ?_⟩
      · have stepEq : runPlannedStep ctx index planned prog =
            replanAnswered ctx (asked (liveReplanRequest ctx performed
              index step)) performed index step := answered
        simp only [runPlan, stepEq]
        rfl
      · intro callback
        have replayed := call.replayed callback
        have stepEq : runPlannedStep (ctx.replaying decisions (some callback)) index planned
            prog = replanAnswered (ctx.replaying decisions (some callback))
              (callback (liveReplanRequest ctx performed index step))
              performed index step := replayed
        simp only [runPlan, stepEq]
        rfl

/-! ## After the call -/

theorem runPlannedStep_settled_simulates (planned : Json) (settled : Settled ctx prog)
    (agrees : AgreesThrough ctx decisions (runPlannedStep ctx index planned prog)) :
    runPlannedStep (ctx.replaying decisions callback) index planned prog =
      runPlannedStep ctx index planned prog := by
  have settledAfter : Settled ctx (performPlanned ctx prog planned
      (expectedSteps ctx.preparation.contract)[index]? "plan" none).1 :=
    settled
  have grown : Extends (performPlanned ctx prog planned
      (expectedSteps ctx.preparation.contract)[index]? "plan" none).1
      (runPlannedStep ctx index planned prog) := by
    rw [runPlannedStep_eq]
    exact extends_afterPerformed extends_recoverStep
  have performedSame : performPlanned (ctx.replaying decisions callback)
      prog planned (expectedSteps ctx.preparation.contract)[index]?
      "plan" none = performPlanned ctx prog planned (expectedSteps
        ctx.preparation.contract)[index]? "plan" none :=
    performPlanned_simulates (agrees.of_extends grown)
  have own : runPlannedStep ctx index planned prog = afterPerformed
      (performPlanned ctx prog planned (expectedSteps
        ctx.preparation.contract)[index]? "plan" none)
      (performPlanned ctx prog planned (expectedSteps
        ctx.preparation.contract)[index]? "plan" none).1 := by
    rw [runPlannedStep_eq, recoverStep_settled settledAfter]
  rw [own, ← performedSame, runPlannedStep_eq]
  refine congrArg (afterPerformed _) (recoverStep_settled ?_)
  exact settled

theorem runPlan_settled_simulates (steps : List Json) (index : Nat) (prog : PlanProgress)
    (settled : Settled ctx prog)
    (agrees : AgreesThrough ctx decisions (runPlan ctx steps index prog)) :
    runPlan (ctx.replaying decisions callback) steps index prog = runPlan ctx steps index prog := by
  induction steps generalizing index prog with
  | nil => rfl
  | cons planned rest ih =>
    have grown : Extends (runPlannedStep ctx index planned prog)
        (runPlan ctx (planned :: rest) index prog) := by
      rw [runPlan]
      split
      · exact Extends.refl _
      · exact extends_runPlan _ _ _
    have sameStep : runPlannedStep (ctx.replaying decisions callback) index planned prog =
          runPlannedStep ctx index planned prog :=
      runPlannedStep_settled_simulates planned settled (agrees.of_extends grown)
    have nextSettled : Settled ctx (runPlannedStep ctx index planned prog) := by
      rw [Settled, runPlannedStep_settled_events planned settled]
      exact settled
    rw [runPlan] at agrees ⊢
    rw [runPlan]
    simp only [sameStep]
    split at agrees
    · next halted => rw [if_pos halted, if_pos halted]
    · next goesOn =>
        rw [if_neg goesOn, if_neg goesOn]
        exact ih (index + 1) _ nextSettled agrees

/-- What the event of an answered call says of the answer, and the recovery steps
that it names. -/
structure AnsweredBy (answer : LiveReplanAnswer) (call : LiveCall)
    (after : PlanProgress) (event : ReplanEvent) (added : List AgentStep) :
    Prop where
  events : after.replanEvents = call.progress.replanEvents ++ [event]
  source : event.source = "live_callback"
  triggerStepIndex : event.triggerStepIndex = call.index
  triggerErrorType : event.triggerErrorType = call.step.errorType
  raised : ∀ errorType, answer = .raised errorType →
    event.status = "callback_error" ∧ added = []
  noResponse : answer = .noResponse → event.status = "no_recovery"
  response : ∀ steps modelCall, answer = .response steps modelCall →
    event.status ≠ "callback_error" ∧ event.status ≠ "no_recovery" ∧
      event.modelCall = modelCall ∧ added.map AgentStep.input <+: steps
  indices : event.recoveryStepIndices = added.map AgentStep.stepIndex
  history : after.executedSteps.map AgentStep.unmarked =
    (call.progress.executedSteps ++ added).map AgentStep.unmarked
  objects : ∀ step ∈ added, step.input.isObject = true

theorem runRecovery_status (ctx : PlanContext) (expectedRecovery : List Json) (trigger : Nat)
    (steps : List Json) (recoveryIndex : Nat) (run : RecoveryRun) (known : run.status ∈
      ["running", "failed", "limit_exceeded", "invalid_recovery_step"]) :
    (runRecovery ctx expectedRecovery trigger steps recoveryIndex run).status ∈
        ["running", "failed", "limit_exceeded", "invalid_recovery_step"] := by
  induction steps generalizing recoveryIndex run with
  | nil => exact known
  | cons recoveryStep rest ih =>
    rw [runRecovery]
    split
    · show "invalid_recovery_step" ∈ _
      decide
    split
    · show "limit_exceeded" ∈ _
      decide
    simp only
    split
    · exact ih _ _ known
    · simp only
      split
      · decide
      · exact known

theorem ne_callbackStatus {status : String}
    (known : status ∈ ["success", "running", "failed", "limit_exceeded",
      "invalid_recovery_step", "policy_violation"]) :
    status ≠ "callback_error" ∧ status ≠ "no_recovery" := by
  constructor
  · rintro rfl
    revert known
    decide
  · rintro rfl
    revert known
    decide

theorem answeredBy_rejected (events : after.replanEvents = call.progress.replanEvents ++ [event])
    (history : after.executedSteps = call.progress.executedSteps)
    (source : event.source = "live_callback")
    (triggerStepIndex : event.triggerStepIndex = call.index)
    (triggerErrorType : event.triggerErrorType = call.step.errorType)
    (known : event.status ∈ ["success", "running", "failed", "limit_exceeded",
      "invalid_recovery_step", "policy_violation"])
    (sameCall : event.modelCall = modelCall)
    (indices : event.recoveryStepIndices = []) :
    AnsweredBy (.response steps modelCall) call after event [] where
  events := events
  source := source
  triggerStepIndex := triggerStepIndex
  triggerErrorType := triggerErrorType
  raised := nofun
  noResponse := nofun
  response givenSteps givenCall given := by
    cases given
    have notCallback := ne_callbackStatus known
    exact ⟨notCallback.1, notCallback.2, sameCall, List.nil_prefix⟩
  indices := indices
  history := by rw [history, List.append_nil]
  objects step mem := by cases mem

theorem answeredBy_run {trigger : Nat} {before run : RecoveryRun}
    (trail : RecoveryTrail ctx.env.text trigger steps before run added)
    (started : before.progress.executedSteps = call.progress.executedSteps)
    (noIndices : before.recoveryStepIndices = [])
    (events : after.replanEvents = call.progress.replanEvents ++ [event])
    (history : after.executedSteps.map AgentStep.unmarked =
      run.progress.executedSteps.map AgentStep.unmarked)
    (source : event.source = "live_callback")
    (triggerStepIndex : event.triggerStepIndex = call.index)
    (triggerErrorType : event.triggerErrorType = call.step.errorType)
    (known : event.status ∈ ["success", "running", "failed", "limit_exceeded",
      "invalid_recovery_step", "policy_violation"])
    (sameCall : event.modelCall = modelCall)
    (indices : event.recoveryStepIndices = run.recoveryStepIndices) :
    AnsweredBy (.response steps modelCall) call after event added where
  events := events
  source := source
  triggerStepIndex := triggerStepIndex
  triggerErrorType := triggerErrorType
  raised := nofun
  noResponse := nofun
  response givenSteps givenCall given := by
    cases given
    have notCallback := ne_callbackStatus known
    exact ⟨notCallback.1, notCallback.2, sameCall, trail.inputs⟩
  indices := by
    rw [indices, trail.recoveryStepIndices, noIndices, List.nil_append]
  history := by rw [history, trail.executedSteps, started]
  objects step mem := (trail.recoverySteps step mem).object

theorem failedStatus_known {status : String} (known : status ∈
      ["running", "failed", "limit_exceeded", "invalid_recovery_step"]) :
    (if status = "running" then "failed" else status) ∈
      ["success", "running", "failed", "limit_exceeded",
        "invalid_recovery_step", "policy_violation"] := by
  split
  · decide
  · have among : ["running", "failed", "limit_exceeded",
        "invalid_recovery_step"] ⊆ ["success", "running", "failed",
          "limit_exceeded", "invalid_recovery_step", "policy_violation"] := by
      decide
    exact among known

theorem answeredBy_response
    (room : call.progress.replanEvents.length < ctx.preparation.agentContext.replanLimit) :
    ∃ event added, AnsweredBy (.response steps modelCall) call
      (replanAnswered ctx (.response steps modelCall) call.progress
        call.index call.step) event added := by
  have answered : replanAnswered ctx (.response steps modelCall)
      call.progress call.index call.step =
    attemptRecovery ctx
      { call.progress with liveReplanCallCount := call.progress.liveReplanCallCount + 1 }
      call.index call.step
      ⟨steps, some (.str "live_callback_recovery"), "live_callback",
        modelCall⟩ := rfl
  rw [answered]
  simp only [attemptRecovery]
  rw [if_neg (by omega)]
  split
  · exact ⟨_, [], answeredBy_rejected rfl rfl rfl rfl rfl
      (show "limit_exceeded" ∈ _ by decide) rfl rfl⟩
  split
  · exact ⟨_, [], answeredBy_rejected rfl rfl rfl rfl rfl
      (show "policy_violation" ∈ _ by decide) rfl rfl⟩
  obtain ⟨added, trail⟩ := runRecovery_trail ctx
    (expectedRecoverySteps ctx.preparation.contract call.index) call.index
    steps 0
    ⟨{ call.progress with liveReplanCallCount := call.progress.liveReplanCallCount + 1 }, [],
      "running", !steps.isEmpty⟩
  have known := runRecovery_status ctx
    (expectedRecoverySteps ctx.preparation.contract call.index) call.index
    steps 0
    ⟨{ call.progress with liveReplanCallCount := call.progress.liveReplanCallCount + 1 }, [],
      "running", !steps.isEmpty⟩ (show "running" ∈ _ by decide)
  have events := runRecovery_replanEvents ctx
    (expectedRecoverySteps ctx.preparation.contract call.index) call.index
    steps 0
    ⟨{ call.progress with liveReplanCallCount := call.progress.liveReplanCallCount + 1 }, [],
      "running", !steps.isEmpty⟩
  generalize runRecovery ctx _ _ _ _ _ = run at trail known events ⊢
  split
  · refine ⟨_, added, answeredBy_run trail rfl rfl (congrArg (· ++ _) events)
      (map_unmarked_markRecovered _ _) rfl rfl rfl
      (show "success" ∈ _ by decide) rfl rfl⟩
  · refine ⟨_, added, answeredBy_run trail rfl rfl (congrArg (· ++ _) events)
      rfl rfl rfl rfl (failedStatus_known known) rfl rfl⟩

theorem answeredBy_replanAnswered (answer : LiveReplanAnswer)
    (room : call.progress.replanEvents.length < ctx.preparation.agentContext.replanLimit) :
    ∃ event added, AnsweredBy answer call
      (replanAnswered ctx answer call.progress call.index call.step) event
        added := by
  cases answer with
  | raised errorType =>
    refine ⟨_, [], rfl, rfl, rfl, rfl, ?_, ?_, ?_, rfl, ?_, ?_⟩
    · exact fun _ _ => ⟨rfl, rfl⟩
    · exact nofun
    · exact nofun
    · rw [List.append_nil]
      rfl
    · intro step mem
      cases mem
  | noResponse =>
    refine ⟨_, [], rfl, rfl, rfl, rfl, ?_, ?_, ?_, rfl, ?_, ?_⟩
    · exact nofun
    · exact fun _ => rfl
    · exact nofun
    · rw [List.append_nil]
      rfl
    · intro step mem
      cases mem
  | response steps modelCall => exact answeredBy_response room

theorem AnsweredBy.settled (answered : AnsweredBy answer call after event added)
    (replanLimitLe : ctx.preparation.agentContext.replanLimit ≤ 1) :
    Settled ctx after := by
  rw [Settled, answered.events, List.length_append]
  simp only [List.length_singleton]
  omega

theorem LiveCall.finish_extends (answer : LiveReplanAnswer) :
    Extends (replanAnswered ctx answer call.progress call.index call.step)
      (call.finish ctx answer) := by
  simp only [LiveCall.finish]
  split
  · exact Extends.refl _
  · exact extends_runPlan _ _ _

theorem LiveCall.finish_answered (answered : AnsweredBy answer call (replanAnswered ctx answer
      call.progress call.index call.step) event added)
    (replanLimitLe : ctx.preparation.agentContext.replanLimit ≤ 1) :
    (call.finish ctx answer).replanEvents = call.progress.replanEvents ++ [event] ∧
      (call.progress.executedSteps ++ added).map AgentStep.unmarked <+:
        (call.finish ctx answer).executedSteps.map
          AgentStep.unmarked := by
  have settled := answered.settled replanLimitLe
  constructor
  · rw [← answered.events, LiveCall.finish]
    split
    · rfl
    · exact runPlan_settled_events _ _ _ settled
  · rw [← answered.history]
    exact (LiveCall.finish_extends answer).steps

theorem LiveCall.finish_simulates (made : LiveCall.Made ctx call)
    (replanLimitLe : ctx.preparation.agentContext.replanLimit ≤ 1)
    (agrees : AgreesThrough ctx decisions (call.finish ctx answer)) :
    call.finish (ctx.replaying decisions callback) answer = call.finish ctx answer := by
  obtain ⟨event, added, answered⟩ :=
    answeredBy_replanAnswered answer made.room
  have settled := answered.settled replanLimitLe
  have sameAnswer : replanAnswered (ctx.replaying decisions callback) answer
      call.progress call.index call.step =
        replanAnswered ctx answer call.progress call.index call.step :=
    replanAnswered_simulates (agrees.of_extends (LiveCall.finish_extends answer))
  simp only [LiveCall.finish] at agrees ⊢
  rw [sameAnswer]
  split at agrees
  · next halted => rw [if_pos halted, if_pos halted]
  · next goesOn =>
      rw [if_neg goesOn, if_neg goesOn]
      exact runPlan_settled_simulates call.rest _ _ settled agrees

end Simulation

end ModelAtlas.Agent
