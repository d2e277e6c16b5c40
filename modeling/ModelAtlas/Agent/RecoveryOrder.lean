import ModelAtlas.Agent.Bounds
import ModelAtlas.Agent.RecoveryChoice

/-!
# The order of recovery branches

`execute_agent_plan` of `services/agent_execution/execution.py` over outputs that
list the same recovery branches.
-/

namespace ModelAtlas.Agent

open Foundations

section Branches

variable (ctx : PlanContext) {recoveryPlans : List RecoveryBranch}

theorem runRecovery_branches (expectedRecovery : List Json) (triggerIndex : Nat) :
    ∀ (steps : List Json) (recoveryIndex : Nat) (run : RecoveryRun),
      runRecovery { ctx with recoveryPlans := recoveryPlans } expectedRecovery triggerIndex steps
        recoveryIndex run = runRecovery ctx expectedRecovery triggerIndex steps recoveryIndex run
  | [], _, _ => rfl
  | step :: rest, recoveryIndex, run => by
    simp only [runRecovery, runRecovery_branches expectedRecovery triggerIndex rest]
    rfl

theorem attemptRecovery_branches (prog : PlanProgress) (index : Nat) (step : AgentStep)
    (plan : RecoveryPlan) :
    attemptRecovery { ctx with recoveryPlans := recoveryPlans } prog index step plan =
      attemptRecovery ctx prog index step plan := by
  simp only [attemptRecovery, runRecovery_branches]
  rfl

theorem runPlan_branches (same : ∀ triggerStepIndex errorType,
      selectRecoveryPlan recoveryPlans triggerStepIndex errorType =
        selectRecoveryPlan ctx.recoveryPlans triggerStepIndex errorType) :
    ∀ (steps : List Json) (index : Nat) (prog : PlanProgress),
      runPlan { ctx with recoveryPlans := recoveryPlans } steps index prog =
        runPlan ctx steps index prog
  | [], _, _ => rfl
  | planned :: rest, index, prog => by
    have step : runPlannedStep { ctx with recoveryPlans := recoveryPlans } index planned prog =
        runPlannedStep ctx index planned prog := by
      simp only [runPlannedStep, recoverStep, replanLive, attemptRecovery_branches, same]
      rfl
    simp only [runPlan, step, runPlan_branches same rest]

end Branches

/-- An output whose plan lists the same branches in another order is executed
alike. -/
theorem executeAgentPlan_perm (env : AgentEnvironment) (externalCaseId : String)
    (prep : AgentPreparation) (callback : Option AgentLiveReplanCallback)
    {payload other : Option Json} {plan : ParsedPlan} {recoveryPlans : List RecoveryBranch}
    (parsed : parsePlan env.text payload = .ok plan)
    (parsedOther : parsePlan env.text other = .ok ⟨plan.steps, recoveryPlans⟩)
    (perm : plan.recoveryPlans.Perm recoveryPlans) :
    executeAgentPlan env externalCaseId other prep callback =
      executeAgentPlan env externalCaseId payload prep callback := by
  have ambiguous : hasAmbiguousRecoveryPlans recoveryPlans =
      hasAmbiguousRecoveryPlans plan.recoveryPlans := by
    rw [Bool.eq_iff_iff, hasAmbiguousRecoveryPlans_iff, hasAmbiguousRecoveryPlans_iff]
    simp only [perm.countP_eq]
  simp only [executeAgentPlan, parsed, parsedOther, ambiguous, perm.length_eq.symm,
    perm.isEmpty_eq.symm, perm.any_eq.symm]
  cases clear : hasAmbiguousRecoveryPlans plan.recoveryPlans with
  | true => rfl
  | false =>
    have once : ∀ triggerStepIndex errorType,
        plan.recoveryPlans.countP (RecoveryBranch.answers triggerStepIndex errorType) ≤ 1 := by
      by_contra! twice
      have found := (hasAmbiguousRecoveryPlans_iff plan.recoveryPlans).mpr twice
      exact Bool.false_ne_true (clear.symm.trans found)
    have run := runPlan_branches (planContext env externalCaseId prep plan callback)
      (fun index error => selectRecoveryPlan_perm (once index error) perm) plan.steps 0 .initial
    simp only [planContext] at run
    rw [run]

def branchOn (errorType : String) : Json :=
  .obj [("trigger_step_index", .int 0), ("on_error_types", .arr [.str errorType]),
    ("steps", .arr [.obj [("action", .str "respond")]])]

def planWith (branches : List Json) : Option Json :=
  some (.obj [("steps", .arr [.obj [("action", .str "respond")]]),
    ("recovery_plans", .arr branches)])

theorem executeAgentPlan_perm_two :
    executeAgentPlan smallEnvironment.toAgentEnvironment "case"
        (planWith [branchOn "timeout", branchOn "not_found"]) recoverablePreparation none =
      executeAgentPlan smallEnvironment.toAgentEnvironment "case"
        (planWith [branchOn "not_found", branchOn "timeout"]) recoverablePreparation none :=
  executeAgentPlan_perm _ _ _ _ rfl rfl (.swap _ _ _)

end ModelAtlas.Agent
