import ModelAtlas.Agent.Decisions
import ModelAtlas.Agent.Runs

/-!
# Guarded actions

A step that names a checkpoint is executed only after a step that approved it,
and no step follows one that waits, was denied or violates a policy.
-/

namespace ModelAtlas.Agent

open Foundations Approval

variable {checkpointId : String} {call : StepCall}

/-- `str(step["output"].get("checkpoint_id") or "")`. -/
def AgentStep.outputCheckpointId (env : AgentEnvironment) (step : AgentStep) : String :=
  Json.pyStrOrEmpty env.text.render
    (step.output.bind (fun output => output.get? "checkpoint_id"))

/-- An `approval_checkpoint` step that approved a checkpoint. -/
structure ApprovesCheckpoint (env : AgentEnvironment) (step : AgentStep)
    (checkpointId : String) : Prop where
  action : step.action = "approval_checkpoint"
  status : step.status = "approved"
  outputCheckpointId : step.outputCheckpointId env = checkpointId

/-- The planned step, or the expected step that matches it, names a checkpoint
that has to be approved. -/
def RequiresCheckpoint (env : AgentEnvironment) (contract : Json)
    (before : List AgentStep) (step : AgentStep) (checkpointId : String) :
    Prop :=
  checkpointId ≠ "" ∧
    (strippedMember env.text step.input "requires_approval" =
        checkpointId ∨
      ∃ expected, matchingExpected contract before step.parentStepIndex = some expected ∧
        strippedMember env.text expected "requires_approval" =
          checkpointId)

structure GuardedStep (env : AgentEnvironment) (contract : Json)
    (decisions : Option Json) (before : List AgentStep) (step : AgentStep) :
    Prop where
  approvedBefore : step.status ≠ "policy_violation" → ∀ checkpointId,
    RequiresCheckpoint env contract before step checkpointId →
      ∃ checkpoint ∈ before,
        ApprovesCheckpoint env checkpoint checkpointId
  suppliedApproval : ∀ checkpointId,
    ApprovesCheckpoint env step checkpointId →
      SuppliedApproval env.text decisions checkpointId ∨
        SuppliedApproval env.text decisions "*"
  quietBefore : ∀ earlier ∈ before,
    earlier.status ≠ "pending" ∧ earlier.status ≠ "denied" ∧
      earlier.policyViolations = []

section Guards

variable {env : AgentEnvironment}

theorem mem_approvedAfter {steps : List AgentStep} (mem : checkpointId ∈ approvedAfter env steps) :
    ∃ checkpoint ∈ steps, ApprovesCheckpoint env checkpoint checkpointId := by
  induction steps using List.reverseRecOn with
  | nil => cases mem
  | append_singleton earlier step ih =>
    rw [approvedAfter_concat, recordApprovedCheckpoint] at mem
    by_cases recorded : (step.action = "approval_checkpoint" &&
        step.status = "approved" &&
        step.outputCheckpointId env ≠ "") = true
    · rw [AgentStep.outputCheckpointId] at recorded
      rw [if_pos recorded] at mem
      simp only [Bool.and_eq_true, decide_eq_true_eq] at recorded
      rcases List.mem_append.mp mem with before | last
      · obtain ⟨checkpoint, checkpointMem, approves⟩ :=
          ih before
        exact ⟨checkpoint, List.mem_append_left _ checkpointMem, approves⟩
      · exact ⟨step, List.mem_append_right _ (List.mem_singleton_self step),
          recorded.1.1, recorded.1.2, (List.mem_singleton.mp last).symm⟩
    · rw [AgentStep.outputCheckpointId] at recorded
      rw [if_neg recorded] at mem
      obtain ⟨checkpoint, checkpointMem, approves⟩ :=
        ih mem
      exact ⟨checkpoint, List.mem_append_left _ checkpointMem, approves⟩

theorem mem_of_lookup_eq_some {decisions : List (String × Json)} {decision : Json}
    (found : decisions.lookup checkpointId = some decision) :
    (checkpointId, decision) ∈ decisions := by
  obtain ⟨before, after, rfl, _⟩ := List.lookup_eq_some_iff.mp found
  exact List.mem_append_right before (List.mem_cons_self ..)

variable {externalCaseId : String} {prep : AgentPreparation}

theorem mem_approved_of_no_violation (allowed : stepViolations env prep call = [])
    (named : checkpointId ≠ "")
    (required : pyStrip (call.plannedText env "requires_approval") =
        checkpointId ∨
      call.expectedText env "requires_approval" = checkpointId) :
    checkpointId ∈ call.approvedCheckpointIds := by
  simp only [stepViolations, List.append_eq_nil_iff] at allowed
  obtain ⟨⟨-, declared⟩, approved⟩ := allowed
  -- The expected checkpoint has to be declared, so the two names agree.
  have sameName : pyOr (call.expectedText env "requires_approval")
      (pyStrip (call.plannedText env "requires_approval")) =
        checkpointId := by
    rw [pyOr]
    by_cases noExpected : call.expectedText env "requires_approval" = ""
    · rw [if_pos noExpected]
      rcases required with planned | expected
      · exact planned
      · exact absurd (expected.symm.trans noExpected) named
    · rw [if_neg noExpected]
      rcases required with planned | expected
      · by_contra other
        have different : pyStrip (call.plannedText env
            "requires_approval") ≠ call.expectedText env
              "requires_approval" := by
          rw [planned]
          exact Ne.symm other
        rw [if_pos ⟨noExpected, different⟩] at declared
        cases declared
      · exact expected
  rw [sameName] at approved
  by_contra missing
  rw [if_pos ⟨named, by simpa using missing⟩] at approved
  cases approved

theorem decision_of_approved (approves : ApprovesCheckpoint env (executeApprovalCheckpoint
      env prep call) checkpointId) :
    ∃ decision, Json.isText (decision.get? "decision") "approved" = true ∧
      ((checkpointId, decision) ∈ prep.approvalDecisions ∨
        ("*", decision) ∈ prep.approvalDecisions) := by
  revert approves
  simp only [executeApprovalCheckpoint]
  split
  · intro approves
    exact absurd approves.status
      (show "policy_violation" ≠ "approved" by decide)
  split
  · intro approves
    exact absurd approves.status (show "pending" ≠ "approved" by decide)
  next decision found =>
  split
  · next approved =>
      intro approves
      have sameId : pyStrip (call.plannedText env "checkpoint_id") =
          checkpointId :=
        (Json.pyStrOrEmpty_str env.text.render _).symm.trans approves.outputCheckpointId
      refine ⟨decision, approved, ?_⟩
      rcases Option.or_eq_some_iff.mp found with own | ⟨_, any⟩
      · exact Or.inl (sameId ▸ mem_of_lookup_eq_some own)
      · exact Or.inr (mem_of_lookup_eq_some any)
  · intro approves
    exact absurd approves.status (show "denied" ≠ "approved" by decide)

theorem decision_of_approving_step {step : AgentStep}
    (answer : step.unmarked = executeAgentStep env externalCaseId prep call)
    (approves : ApprovesCheckpoint env step checkpointId) :
    ∃ decision, Json.isText (decision.get? "decision") "approved" = true ∧
      ((checkpointId, decision) ∈ prep.approvalDecisions ∨
        ("*", decision) ∈ prep.approvalDecisions) := by
  have approvesAnswer : ApprovesCheckpoint env (executeAgentStep env externalCaseId prep call)
      checkpointId :=
    answer ▸ ⟨approves.action, approves.status, approves.outputCheckpointId⟩
  have actionEq : call.plannedText env "action" =
      "approval_checkpoint" :=
    answersCall_executeAgentStep.action.symm.trans approvesAnswer.action
  have allowed : stepViolations env prep call = [] := by
    apply stepViolations_eq_nil
    rw [approvesAnswer.status]
    decide
  rw [executeAgentStep] at approvesAnswer
  simp only [allowed, actionEq, List.isEmpty_nil, Bool.not_true, if_true,
    Bool.false_eq_true, if_false] at approvesAnswer
  exact decision_of_approved approvesAnswer

theorem guardedStep_of_recorded {contract : Json} {decisions : Option Json}
    {before : List AgentStep} {step : AgentStep} (contractEq : prep.contract = contract)
    (decisionsEq : prep.approvalDecisions = normalizeApprovalDecisions env.text decisions)
    (recorded : Recorded env externalCaseId prep before step) :
    GuardedStep env contract decisions before step := by
  refine ⟨?_, ?_, ?_⟩
  · intro executed checkpointId required
    subst contractEq
    have allowed : stepViolations env prep (callAfter env
        prep.contract before step.input step.parentStepIndex) = [] := by
      apply stepViolations_eq_nil
      rw [← recorded.executed]
      exact executed
    apply mem_approvedAfter
    apply mem_approved_of_no_violation allowed required.1
    rcases required.2 with planned | ⟨expected, expectedEq, expectedNames⟩
    · exact Or.inl planned
    · refine Or.inr ?_
      simp only [StepCall.expectedText, callAfter, expectedEq]
      exact expectedNames
  · intro checkpointId approves
    obtain ⟨decision, approved, supplied⟩ :=
      decision_of_approving_step recorded.executed approves
    rw [decisionsEq] at supplied
    rcases supplied with own | any
    · exact Or.inl (suppliedApproval_of_normalized own approved)
    · exact Or.inr (suppliedApproval_of_normalized any approved)
  · intro earlier mem
    have quiet := recorded.quietBefore earlier mem
    exact ⟨quiet.notPending, quiet.notDenied, quiet.noViolation⟩

end Guards

theorem guardedSteps_of_prepared (env : PreparationEnvironment) (evalCase : EvaluationCase)
    (decisions : Option Json) (payload : Option Json)
    (callback : Option AgentLiveReplanCallback)
    {prep : AgentPreparation}
    (prepared : prepareAgentExecution env evalCase decisions = some prep) :
    EachStep (GuardedStep env.toAgentEnvironment (agentContract evalCase) decisions)
      (executeAgentPlan env.toAgentEnvironment
        evalCase.externalCaseId payload prep callback).steps := by
  have preparedEq := prepareAgentExecution_eq_some prepared
  have contractEq : prep.contract = agentContract evalCase := by
    rw [preparedEq]
  have decisionsEq : prep.approvalDecisions = normalizeApprovalDecisions env.text decisions := by
    rw [preparedEq]
  refine executeAgentPlan_recorded.mono ?_
  intro before step recorded
  exact guardedStep_of_recorded contractEq decisionsEq recorded

/-- A case whose response has to wait for the checkpoint `gate`. -/
def gatedCase : EvaluationCase where
  externalCaseId := "case"
  category := "agent"
  reference := .obj [("agent", .obj
    [("allowed_actions",
        .arr [.str "approval_checkpoint", .str "respond"]),
      ("expected_steps", .arr
        [.obj [("action", .str "approval_checkpoint")],
          .obj [("action", .str "respond"),
            ("requires_approval", .str "gate")]])])]

def gateApproval : Json :=
  .obj [("gate", .obj
    [("decision", .str "approved"), ("decided_by", .str "lead"),
      ("reason", .str "reviewed")])]

/-- A plan that asks for `gate` and responds. -/
def gatedPlan : Json :=
  .obj [("steps", .arr
    [.obj [("action", .str "approval_checkpoint"),
        ("checkpoint_id", .str "gate")],
      .obj [("action", .str "respond"), ("requires_approval", .str "gate"),
        ("content", .str "done")]])]

def gatedPreparation : AgentPreparation :=
  (prepareAgentExecution smallEnvironment gatedCase (some gateApproval)).get (by rfl)

theorem guardedSteps_of_prepared_gate :
    (executeAgentPlan smallEnvironment.toAgentEnvironment "case"
      (some gatedPlan) gatedPreparation none).steps.map AgentStep.status =
        ["approved", "success"] ∧
    EachStep (GuardedStep smallEnvironment.toAgentEnvironment
        (agentContract gatedCase) (some gateApproval))
      (executeAgentPlan smallEnvironment.toAgentEnvironment "case"
        (some gatedPlan) gatedPreparation none).steps :=
  ⟨by decide, guardedSteps_of_prepared smallEnvironment gatedCase
    (some gateApproval) (some gatedPlan) none (Option.some_get _).symm⟩

end ModelAtlas.Agent
