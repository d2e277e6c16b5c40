import ModelAtlas.Agent.Guards
import ModelAtlas.Agent.Tools

/-!
# Successful steps

What a step that `_execute_agent_step` did not refuse looks like when it runs
over the default registry of tools, and what its success establishes, one
action at a time.
-/

namespace ModelAtlas.Agent

open Foundations Approval

variable {limits : AgentContext} {step : AgentStep}

/-- The decisions are of verified identities, as a decision that does not say
otherwise is taken to be. -/
def VerifiedDecisions (decisions : List (String × Json)) : Prop :=
  ∀ checkpointId decision, (checkpointId, decision) ∈ decisions →
    ((decision.get? "identity_verified").getD (.bool true)).truthy = true

def HashesToText (env : AgentEnvironment) : Prop :=
  ∀ payload, env.hashPayload payload ≠ ""

def PrintsNoTool (env : AgentEnvironment) : Prop :=
  ∀ value, (∀ text, value ≠ .str text) → registeredTool? env (env.text.render value) = none

structure SuccessfulToolStep (env : AgentEnvironment) (call : StepCall)
    (toolCall : ToolCall) (toolStep : ToolExecutionStep) (output : Option Json) :
    Prop where
  output : output = some (.obj [("tool_execution", toolStep.toJson)])
  status : toolStep.executionStatus = "success"
  successful : SuccessfulToolCall env toolCall toolStep
  toolName : toolCall.toolName = call.plannedText env "tool_name"
  arguments : toolCall.arguments = call.planned.objectOr "arguments"
  expected : toolCall.expected = call.expected

structure SuccessfulStep (env : AgentEnvironment)
    (limits : AgentContext) (call : StepCall) (step : AgentStep) : Prop where
  errorType : step.errorType = none
  memory : step.action = "memory_read" ∨ step.action = "memory_write" →
    step.memoryProvenanceValid = true
  approval : step.action = "approval_checkpoint" →
    step.status = "approved" ∧ step.approvalProvenanceValid = true
  tool : step.action = "tool" →
    call.plannedText env "tool_name" ∈ limits.allowedTools ∧
      ∃ toolCall toolStep, SuccessfulToolStep env call toolCall toolStep
        step.output
  respond : step.action = "respond" → ∃ content members,
    step.output = some (.obj (("content", .str content) :: members)) ∧
      pyStrip content ≠ ""

section Success

variable {env : AgentEnvironment} {externalCaseId : String}
  {prep : AgentPreparation} {call : StepCall}

theorem successfulStep_of_failed (failed : step.successful = false) :
    step.successful = true → SuccessfulStep env limits call step := by
  intro successful
  rw [failed] at successful
  cases successful

theorem successfulStep_executeApprovalCheckpoint (hashes : HashesToText env)
    (verified : VerifiedDecisions prep.approvalDecisions) :
    (executeApprovalCheckpoint env prep call).successful = true →
      SuccessfulStep env prep.agentContext call (executeApprovalCheckpoint env prep call) := by
  simp only [executeApprovalCheckpoint]
  split
  · exact successfulStep_of_failed rfl
  split
  · exact successfulStep_of_failed rfl
  next decision found =>
  split
  · intro _
    have isVerified :
        ((decision.get? "identity_verified").getD (.bool true)).truthy =
          true := by
      rcases Option.or_eq_some_iff.mp found with own | ⟨_, any⟩
      · exact verified _ decision (mem_of_lookup_eq_some own)
      · exact verified _ decision (mem_of_lookup_eq_some any)
    have someHash : ∀ payload, decisionHash env decision payload ≠ "" := by
      intro payload
      simp only [decisionHash]
      split
      · next digest =>
          intro empty
          rw [empty] at digest
          revert digest
          decide
      · exact hashes _
    refine ⟨rfl, ?_, ?_, ?_, ?_⟩
    · intro memory
      exact absurd memory (show ¬("approval_checkpoint" = "memory_read" ∨
        "approval_checkpoint" = "memory_write") by decide)
    · intro _
      refine ⟨rfl, ?_⟩
      simp only [isVerified, Bool.and_true, decide_eq_true_eq]
      exact someHash _
    · intro tool
      exact absurd tool (show "approval_checkpoint" ≠ "tool" by decide)
    · intro respond
      exact absurd respond (show "approval_checkpoint" ≠ "respond" by decide)
  · exact successfulStep_of_failed rfl

theorem successfulStep_of_memory
    (action : step.action = "memory_read" ∨ step.action = "memory_write")
    (errorType : step.errorType = none)
    (provenance : step.memoryProvenanceValid = true) :
    SuccessfulStep env limits call step := by
  refine ⟨errorType, fun _ => provenance, ?_, ?_, ?_⟩ <;>
  · intro other
    rw [other] at action
    exact absurd action (by decide)

theorem successfulStep_executeMemoryRead :
    (executeMemoryRead env prep call).successful = true → SuccessfulStep env limits call
        (executeMemoryRead env prep call) := by
  simp only [executeMemoryRead]
  split
  · exact fun _ => successfulStep_of_memory (Or.inl rfl) rfl rfl
  · exact successfulStep_of_failed rfl

theorem successfulStep_executeMemoryWrite :
    (executeMemoryWrite env externalCaseId prep call).successful = true →
      SuccessfulStep env limits call (executeMemoryWrite env externalCaseId prep call) := by
  simp only [executeMemoryWrite]
  split
  · exact fun _ => successfulStep_of_memory (Or.inr rfl) rfl rfl
  · exact successfulStep_of_failed rfl

theorem successfulStep_executeRetrieval :
    (executeRetrieval env call).successful = true → SuccessfulStep env limits call
        (executeRetrieval env call) := by
  simp only [executeRetrieval]
  split
  · intro _
    refine ⟨rfl, ?_, ?_, ?_, ?_⟩
    · intro memory
      exact absurd memory
        (show ¬("retrieve" = "memory_read" ∨ "retrieve" = "memory_write") by
          decide)
    · intro approval
      exact absurd approval (show "retrieve" ≠ "approval_checkpoint" by decide)
    · intro tool
      exact absurd tool (show "retrieve" ≠ "tool" by decide)
    · intro respond
      exact absurd respond (show "retrieve" ≠ "respond" by decide)
  · exact successfulStep_of_failed rfl

theorem successfulStep_executeResponse :
    (executeResponse env call).successful = true → SuccessfulStep env limits call
        (executeResponse env call) := by
  simp only [executeResponse]
  split
  · next valid =>
      intro _
      refine ⟨rfl, ?_, ?_, ?_, ?_⟩
      · intro memory
        exact absurd memory
          (show ¬("respond" = "memory_read" ∨ "respond" = "memory_write") by
            decide)
      · intro approval
        exact absurd approval (show "respond" ≠ "approval_checkpoint" by decide)
      · intro tool
        exact absurd tool (show "respond" ≠ "tool" by decide)
      · intro _
        rw [Bool.and_eq_true, decide_eq_true_eq] at valid
        refine ⟨_, _, rfl, ?_⟩
        rw [pyStrip_pyStrip]
        exact valid.1
  · exact successfulStep_of_failed rfl

theorem withDefaultTools_executeRegisteredToolCall (env : AgentEnvironment) :
    env.withDefaultTools.toAgentEnvironment.executeRegisteredToolCall =
      executeRegisteredToolCall env :=
  rfl

theorem successfulStep_executeToolAction :
    (executeToolAction env.withDefaultTools.toAgentEnvironment
        externalCaseId prep call).successful = true →
      SuccessfulStep env prep.agentContext call
        (executeToolAction env.withDefaultTools.toAgentEnvironment externalCaseId prep call) := by
  simp only [executeToolAction]
  split
  · exact successfulStep_of_failed rfl
  next notForbidden =>
  intro successful
  have status := of_decide_eq_true successful
  have allowed : call.plannedText env "tool_name" ∈
      prep.agentContext.allowedTools := by
    have contained : prep.agentContext.allowedTools.contains
        (call.plannedText env.withDefaultTools.toAgentEnvironment
          "tool_name") = true := by
      simpa using notForbidden
    exact List.contains_iff_mem.mp contained
  simp only [withDefaultTools_executeRegisteredToolCall, executeRegisteredToolCall] at status ⊢
  have toolCall := successfulToolCall_of_status status
  refine ⟨toolCall.errorType, ?_, ?_, ?_, ?_⟩
  · intro memory
    exact absurd memory
      (show ¬("tool" = "memory_read" ∨ "tool" = "memory_write") by decide)
  · intro approval
    exact absurd approval (show "tool" ≠ "approval_checkpoint" by decide)
  · intro _
    exact ⟨allowed, _, _, rfl, status, toolCall, rfl, rfl, rfl⟩
  · intro respond
    exact absurd respond (show "tool" ≠ "respond" by decide)

theorem successfulStep_executeAgentStep (hashes : HashesToText env)
    (verified : VerifiedDecisions prep.approvalDecisions) :
    (executeAgentStep env.withDefaultTools.toAgentEnvironment
        externalCaseId prep call).successful = true →
      SuccessfulStep env prep.agentContext call
        (executeAgentStep env.withDefaultTools.toAgentEnvironment externalCaseId prep call) := by
  have transfer : ∀ {step : AgentStep}, SuccessfulStep env.withDefaultTools.toAgentEnvironment
        prep.agentContext call step → step.action ≠ "tool" →
      SuccessfulStep env prep.agentContext call step :=
    fun facts notTool => ⟨facts.errorType, facts.memory, facts.approval,
      fun tool => absurd tool notTool, facts.respond⟩
  apply executeAgentStep_cases (motive := fun step => step.successful = true →
    SuccessfulStep env prep.agentContext call step)
  case refused => exact fun _ => successfulStep_of_failed rfl
  case unsupported => exact fun _ => successfulStep_of_failed rfl
  case approvalCheckpoint =>
    intro _ _ successful
    refine transfer (successfulStep_executeApprovalCheckpoint hashes verified successful) ?_
    rw [answersCall_executeApprovalCheckpoint.action]
    decide
  case memoryRead =>
    intro _ _ successful
    refine transfer (successfulStep_executeMemoryRead successful) ?_
    rw [answersCall_executeMemoryRead.action]
    decide
  case memoryWrite =>
    intro _ _ successful
    refine transfer (successfulStep_executeMemoryWrite successful) ?_
    rw [answersCall_executeMemoryWrite.action]
    decide
  case retrieve =>
    intro _ _ successful
    refine transfer (successfulStep_executeRetrieval successful) ?_
    rw [answersCall_executeRetrieval.action]
    decide
  case tool => exact fun _ _ => successfulStep_executeToolAction
  case respond =>
    intro _ _ successful
    refine transfer (successfulStep_executeResponse successful) ?_
    rw [answersCall_executeResponse.action]
    decide

end Success

structure StepShape (step : AgentStep) : Prop where
  output : ∀ output, step.output = some output → output.isObject = true
  approved : step.status = "approved" → step.action = "approval_checkpoint"

section Shape

variable {env : AgentEnvironment} {externalCaseId : String}
  {prep : AgentPreparation} {call : StepCall}

theorem stepShape_of_fields {output : Option Json} (outputEq : step.output = output)
    (object : ∀ value, output = some value → value.isObject = true)
    (status : step.status ≠ "approved") : StepShape step :=
  ⟨fun value isOutput => object value (outputEq.symm.trans isOutput),
    fun approved => absurd approved status⟩

theorem executeStep_status (call : ToolCall) :
    (executeStep env call).executionStatus ≠ "approved" := by
  simp only [executeStep]
  split
  · exact (show "skipped" ≠ "approved" by decide)
  split
  · simp only [attemptedToolCall]
    split
    · exact (show "success" ≠ "approved" by decide)
    · exact (show "failed" ≠ "approved" by decide)
  · exact (show "skipped" ≠ "approved" by decide)

theorem stepShape_executeAgentStep :
    StepShape (executeAgentStep env.withDefaultTools.toAgentEnvironment
      externalCaseId prep call) := by
  have nothing : ∀ value : Json, none = some value → value.isObject = true := nofun
  have object : ∀ members, ∀ value : Json, some (.obj members) = some value →
      value.isObject = true := by
    intro members value same
    rw [← Option.some.inj same]
    rfl
  have failed : "failed" ≠ "approved" := by decide
  have success : "success" ≠ "approved" := by decide
  apply executeAgentStep_cases
  case refused =>
    exact fun _ => stepShape_of_fields rfl nothing
      (show "policy_violation" ≠ "approved" by decide)
  case unsupported => exact fun _ => stepShape_of_fields rfl nothing failed
  case approvalCheckpoint =>
    intro _ _
    simp only [executeApprovalCheckpoint]
    split
    · exact stepShape_of_fields rfl nothing
        (show "policy_violation" ≠ "approved" by decide)
    split
    · exact stepShape_of_fields rfl (object _)
        (show "pending" ≠ "approved" by decide)
    split
    · exact ⟨object _, fun _ => rfl⟩
    · exact stepShape_of_fields rfl (object _)
        (show "denied" ≠ "approved" by decide)
  case memoryRead =>
    intro _ _
    simp only [executeMemoryRead]
    split
    · exact stepShape_of_fields rfl (object _) success
    · exact stepShape_of_fields rfl nothing failed
  case memoryWrite =>
    intro _ _
    simp only [executeMemoryWrite]
    split
    · exact stepShape_of_fields rfl (object _) success
    · exact stepShape_of_fields rfl nothing failed
  case retrieve =>
    intro _ _
    simp only [executeRetrieval]
    split
    · exact stepShape_of_fields rfl (object _) success
    · exact stepShape_of_fields rfl (object _) failed
  case tool =>
    intro _ _
    simp only [executeToolAction]
    split
    · exact stepShape_of_fields rfl nothing failed
    · refine stepShape_of_fields rfl (object _) ?_
      simp only [failedStep, withDefaultTools_executeRegisteredToolCall, executeRegisteredToolCall]
      exact executeStep_status _
  case respond =>
    intro _ _
    simp only [executeResponse]
    split
    · exact stepShape_of_fields rfl (object _) success
    · exact stepShape_of_fields rfl (object _) failed

end Shape

end ModelAtlas.Agent
