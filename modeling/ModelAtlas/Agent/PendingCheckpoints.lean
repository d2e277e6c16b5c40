import ModelAtlas.Agent.Execution
import ModelAtlas.Approval.ControlPlane

/-!
# Pending checkpoints of a trace

A plan is halted by its first step that waits for a decision, also where the
step belongs to a recovery branch, so a trace has at most one such step.
-/

namespace ModelAtlas.Agent

open Foundations Approval

variable {index : Nat} {step : AgentStep}

def pendingCount (steps : List AgentStep) : Nat :=
  steps.countP AgentStep.isPendingCheckpoint

@[simp]
theorem pendingCount_nil : pendingCount [] = 0 :=
  rfl

theorem pendingCount_append_singleton (steps : List AgentStep) (step : AgentStep) :
    pendingCount (steps ++ [step]) =
      pendingCount steps + if step.isPendingCheckpoint then 1 else 0 := by
  rw [pendingCount, List.countP_append, List.countP_singleton, pendingCount]

theorem pendingCount_markRecovered (prog : PlanProgress) (stepIndex : Nat) :
    pendingCount (prog.markRecovered stepIndex).executedSteps =
      pendingCount prog.executedSteps := by
  rw [PlanProgress.markRecovered, pendingCount, pendingCount, List.countP_map]
  congr 1
  funext step
  by_cases marked : step.stepIndex = stepIndex
  · simp [marked, AgentStep.isPendingCheckpoint]
  · simp [marked]

structure HaltsOnPending (prog : PlanProgress) : Prop where
  atMostOne : pendingCount prog.executedSteps ≤ 1
  noneWhileRunning : prog.haltReason = none →
    pendingCount prog.executedSteps = 0

theorem haltsOnPending_of_none {prog : PlanProgress} (clear : pendingCount prog.executedSteps = 0) :
    HaltsOnPending prog where
  atMostOne := by omega
  noneWhileRunning _ := clear

theorem haltsOnPending_halt {prog : PlanProgress} {reason : String}
    (atMostOne : pendingCount prog.executedSteps ≤ 1) :
    HaltsOnPending (prog.halt reason) where
  atMostOne := atMostOne
  noneWhileRunning running := by
    cases running

section Steps

variable {ctx : PlanContext} {prog : PlanProgress}
  {planned : Json} {expected : Option Json} {phase : String}
  {parentStepIndex : Option Nat}

theorem pendingCount_performPlanned (clear : pendingCount prog.executedSteps = 0) :
    pendingCount (performPlanned ctx prog planned expected phase parentStepIndex).1.executedSteps =
      if (performPlanned ctx prog planned expected phase
        parentStepIndex).2.isPendingCheckpoint then 1 else 0 := by
  have counted := pendingCount_append_singleton prog.executedSteps
    (performPlanned ctx prog planned expected phase parentStepIndex).2
  rw [clear, Nat.zero_add] at counted
  exact counted

theorem pendingCount_performPlanned_le (clear : pendingCount prog.executedSteps = 0) :
    pendingCount (performPlanned ctx prog planned expected phase
      parentStepIndex).1.executedSteps ≤ 1 := by
  rw [pendingCount_performPlanned clear]
  split <;> omega

theorem pendingCount_performPlanned_eq_zero (clear : pendingCount prog.executedSteps = 0)
    (goesOn : (performPlanned ctx prog planned expected phase
      parentStepIndex).2.isPendingCheckpoint = false) :
    pendingCount (performPlanned ctx prog planned expected phase
      parentStepIndex).1.executedSteps = 0 := by
  rw [pendingCount_performPlanned clear, goesOn]
  rfl

theorem performPlanned_not_pending (successful : (performPlanned ctx prog planned expected phase
      parentStepIndex).2.successful = true) :
    (performPlanned ctx prog planned expected phase
      parentStepIndex).2.isPendingCheckpoint = false := by
  by_contra waits
  have pending : (performPlanned ctx prog planned expected phase
      parentStepIndex).2.isPendingCheckpoint = true := by
    simpa using waits
  have failed := executeAgentStep_pending pending
  rw [performPlanned, executePlanned] at successful
  rw [failed] at successful
  cases successful

structure RecoveryHaltsOnPending (run : RecoveryRun) : Prop where
  atMostOne : pendingCount run.progress.executedSteps ≤ 1
  noneOnSuccess : run.successful = true →
    pendingCount run.progress.executedSteps = 0

theorem runRecovery_haltsOnPending (expectedRecovery : List Json) (triggerIndex : Nat)
    (steps : List Json) (recoveryIndex : Nat) (run : RecoveryRun)
    (clear : pendingCount run.progress.executedSteps = 0) :
    RecoveryHaltsOnPending (runRecovery ctx expectedRecovery triggerIndex
      steps recoveryIndex run) := by
  induction steps generalizing recoveryIndex run with
  | nil =>
    rw [runRecovery]
    exact ⟨by omega, fun _ => clear⟩
  | cons recoveryStep rest ih =>
    rw [runRecovery]
    split
    · exact ⟨by simp [clear], fun _ => clear⟩
    split
    · exact ⟨by simp [PlanProgress.halt, clear], fun _ => clear⟩
    simp only
    split
    · next successful =>
        apply ih
        exact pendingCount_performPlanned_eq_zero clear (performPlanned_not_pending successful)
    · exact ⟨pendingCount_performPlanned_le clear, nofun⟩

theorem attemptRecovery_haltsOnPending {plan : RecoveryPlan}
    (clear : pendingCount prog.executedSteps = 0) :
    HaltsOnPending (attemptRecovery ctx prog index step plan) := by
  simp only [attemptRecovery]
  split
  · exact haltsOnPending_of_none clear
  split
  · exact haltsOnPending_halt (by simp [PlanProgress.addEvent, clear])
  split
  · exact haltsOnPending_halt (by simp [PlanProgress.addEvent, clear])
  have halts : RecoveryHaltsOnPending (runRecovery ctx
      (expectedRecoverySteps ctx.preparation.contract index) index
      plan.steps 0 ⟨prog, [], "running", !plan.steps.isEmpty⟩) :=
    runRecovery_haltsOnPending _ _ _ _ _ clear
  split
  · next successful =>
      apply haltsOnPending_of_none
      exact (pendingCount_markRecovered _ step.stepIndex).trans (halts.noneOnSuccess successful)
  · exact haltsOnPending_halt halts.atMostOne

theorem replanLive_haltsOnPending {callback : AgentLiveReplanCallback}
    (clear : pendingCount prog.executedSteps = 0) :
    HaltsOnPending (replanLive ctx callback prog index step) := by
  simp only [replanLive]
  split
  · exact haltsOnPending_halt (by simp [PlanProgress.addEvent, clear])
  · exact haltsOnPending_halt (by simp [PlanProgress.addEvent, clear])
  · exact attemptRecovery_haltsOnPending clear

theorem recoverStep_haltsOnPending (clear : pendingCount prog.executedSteps = 0) :
    HaltsOnPending (recoverStep ctx prog index step) := by
  rw [recoverStep]
  split
  · exact attemptRecovery_haltsOnPending clear
  split
  · exact haltsOnPending_of_none clear
  split
  · exact replanLive_haltsOnPending clear
  · exact haltsOnPending_of_none clear

theorem runPlannedStep_haltsOnPending (clear : pendingCount prog.executedSteps = 0) :
    HaltsOnPending (runPlannedStep ctx index planned prog) := by
  simp only [runPlannedStep]
  split
  · exact haltsOnPending_halt (pendingCount_performPlanned_le clear)
  next notPending =>
    have goesOn : (performPlanned ctx prog planned
        (expectedSteps ctx.preparation.contract)[index]? "plan"
          none).2.isPendingCheckpoint = false := by
      simp [AgentStep.isPendingCheckpoint, notPending]
    have stillClear := pendingCount_performPlanned_eq_zero clear goesOn
    split
    · exact haltsOnPending_halt (by omega)
    split
    · exact haltsOnPending_halt (by omega)
    split
    · exact haltsOnPending_of_none stillClear
    · exact recoverStep_haltsOnPending stillClear

theorem runPlan_haltsOnPending (steps : List Json) (index : Nat) (prog : PlanProgress)
    (clear : pendingCount prog.executedSteps = 0) :
    HaltsOnPending (runPlan ctx steps index prog) := by
  induction steps generalizing index prog with
  | nil =>
    exact haltsOnPending_of_none clear
  | cons planned rest ih =>
    have halts : HaltsOnPending (runPlannedStep ctx index planned prog) :=
      runPlannedStep_haltsOnPending clear
    rw [runPlan]
    split
    · exact halts
    · next goesOn =>
        apply ih
        exact halts.noneWhileRunning (Option.not_isSome_iff_eq_none.mp goesOn)

end Steps

theorem executeAgentPlan_pending_le_one (env : AgentEnvironment) (externalCaseId : String)
    (payload : Option Json) (prep : AgentPreparation) (callback : Option AgentLiveReplanCallback) :
    pendingCount (executeAgentPlan env externalCaseId payload prep callback).steps ≤ 1 := by
  simp only [executeAgentPlan]
  split
  · simp [emptyTrace]
  split
  · simp [emptyTrace]
  split
  · simp [emptyTrace]
  split
  · simp [emptyTrace]
  split
  · simp [emptyTrace]
  split
  · simp [emptyTrace]
  · exact (runPlan_haltsOnPending _ 0 PlanProgress.initial rfl).atMostOne

theorem pendingCheckpointSteps_toJson (env : AgentEnvironment) (trace : AgentExecutionTrace) :
    pendingCheckpointSteps (trace.toJson env) =
      (trace.steps.filter AgentStep.isPendingCheckpoint).map (AgentStep.toJson env) := by
  have steps : (trace.toJson env).items "steps" =
      trace.steps.map (AgentStep.toJson env) := by
    simp [AgentExecutionTrace.toJson, Json.items, Json.get?]
  rw [pendingCheckpointSteps, steps, List.filter_map]
  congr 2

def PlanTrace (trace : Json) : Prop :=
  ∃ env externalCaseId payload prep callback,
    trace = (executeAgentPlan env externalCaseId payload prep callback).toJson env

theorem pendingCheckpointSteps_le_one {trace : Json} (executed : PlanTrace trace) :
    (pendingCheckpointSteps trace).length ≤ 1 := by
  obtain ⟨env, externalCaseId, payload, prep, callback, rfl⟩ :=
    executed
  rw [pendingCheckpointSteps_toJson, List.length_map, ← List.countP_eq_length_filter]
  exact executeAgentPlan_pending_le_one env externalCaseId payload prep callback

theorem eq_of_pendingCheckpointSteps {trace left right : Json} (executed : PlanTrace trace)
    (leftPending : left ∈ pendingCheckpointSteps trace)
    (rightPending : right ∈ pendingCheckpointSteps trace) :
    left = right := by
  have atMostOne := pendingCheckpointSteps_le_one executed
  cases pending : pendingCheckpointSteps trace with
  | nil =>
    simp [pending] at leftPending
  | cons step rest =>
    have alone : rest = [] := by
      rw [pending, List.length_cons] at atMostOne
      exact List.length_eq_zero_iff.mp (by omega)
    rw [pending, alone, List.mem_singleton] at leftPending rightPending
    exact leftPending.trans rightPending.symm

end ModelAtlas.Agent
