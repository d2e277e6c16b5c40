import ModelAtlas.Foundations.Histories
import ModelAtlas.Agent.Preparation
import ModelAtlas.Agent.Execution

/-!
# The history of an execution

What the executor remembers between two steps can be read off the steps it has
executed: the loops append `Recorded` steps only.
-/

namespace ModelAtlas.Agent

open Foundations Approval

/-! ## What a step keeps of its call -/

structure AnswersCall (env : AgentEnvironment) (call : StepCall)
    (action : String) (step : AgentStep) : Prop where
  stepIndex : step.stepIndex = call.stepIndex
  action : step.action = action
  expectedAction : step.expectedAction = call.expectedAction env
  input : step.input = call.planned
  phase : step.phase = call.phase
  parentStepIndex : step.parentStepIndex = call.parentStepIndex
  recoveredByReplan : step.recoveredByReplan = false

structure AgentStep.Quiet (step : AgentStep) : Prop where
  notPending : step.status ≠ "pending"
  notDenied : step.status ≠ "denied"
  noViolation : step.policyViolations = []

section Call

variable {env : AgentEnvironment} {externalCaseId : String}
  {prep : AgentPreparation} {call : StepCall}

theorem answersCall_failedStep (action status errorType errorMessage : String)
    (output : Option Json) (violations : List String) :
    AnswersCall env call action (failedStep env call action
      status errorType errorMessage output violations) :=
  ⟨rfl, rfl, rfl, rfl, rfl, rfl, rfl⟩

theorem answersCall_succeededStep (action status : String) (output : Json) :
    AnswersCall env call action (succeededStep env call action status output) :=
  ⟨rfl, rfl, rfl, rfl, rfl, rfl, rfl⟩

theorem answersCall_executeApprovalCheckpoint :
    AnswersCall env call "approval_checkpoint"
      (executeApprovalCheckpoint env prep call) := by
  simp only [executeApprovalCheckpoint]
  split
  · exact answersCall_failedStep _ _ _ _ _ _
  split
  · exact answersCall_failedStep _ _ _ _ _ _
  split
  · exact ⟨rfl, rfl, rfl, rfl, rfl, rfl, rfl⟩
  · exact ⟨rfl, rfl, rfl, rfl, rfl, rfl, rfl⟩

theorem answersCall_executeMemoryRead :
    AnswersCall env call "memory_read"
      (executeMemoryRead env prep call) := by
  simp only [executeMemoryRead]
  split
  · exact ⟨rfl, rfl, rfl, rfl, rfl, rfl, rfl⟩
  · exact answersCall_failedStep _ _ _ _ _ _

theorem answersCall_executeMemoryWrite :
    AnswersCall env call "memory_write"
      (executeMemoryWrite env externalCaseId prep call) := by
  simp only [executeMemoryWrite]
  split
  · exact ⟨rfl, rfl, rfl, rfl, rfl, rfl, rfl⟩
  · exact answersCall_failedStep _ _ _ _ _ _

theorem answersCall_executeRetrieval :
    AnswersCall env call "retrieve"
      (executeRetrieval env call) := by
  simp only [executeRetrieval]
  split
  · exact answersCall_succeededStep _ _ _
  · exact answersCall_failedStep _ _ _ _ _ _

theorem answersCall_executeToolAction :
    AnswersCall env call "tool"
      (executeToolAction env externalCaseId prep call) := by
  simp only [executeToolAction]
  split
  · exact answersCall_failedStep _ _ _ _ _ _
  · exact ⟨rfl, rfl, rfl, rfl, rfl, rfl, rfl⟩

theorem answersCall_executeResponse :
    AnswersCall env call "respond"
      (executeResponse env call) := by
  simp only [executeResponse]
  split
  · exact answersCall_succeededStep _ _ _
  · exact answersCall_failedStep _ _ _ _ _ _

/-- What `_execute_agent_step` does: it refuses the step, or it executes the
action, one case for each. -/
theorem executeAgentStep_cases (motive : AgentStep → Prop)
    (refused : stepViolations env prep call ≠ [] → motive (policyViolationStep env call
        (call.plannedText env "action")
        (stepViolations env prep call)))
    (approvalCheckpoint : stepViolations env prep call = [] →
      call.plannedText env "action" = "approval_checkpoint" →
      motive (executeApprovalCheckpoint env prep call))
    (memoryRead : stepViolations env prep call = [] →
      call.plannedText env "action" = "memory_read" →
      motive (executeMemoryRead env prep call))
    (memoryWrite : stepViolations env prep call = [] →
      call.plannedText env "action" = "memory_write" →
      motive (executeMemoryWrite env externalCaseId prep call))
    (retrieve : stepViolations env prep call = [] →
      call.plannedText env "action" = "retrieve" →
      motive (executeRetrieval env call))
    (tool : stepViolations env prep call = [] →
      call.plannedText env "action" = "tool" →
      motive (executeToolAction env externalCaseId prep call))
    (respond : stepViolations env prep call = [] →
      call.plannedText env "action" = "respond" →
      motive (executeResponse env call))
    (unsupported : stepViolations env prep call = [] →
      motive (failedStep env call (call.plannedText env "action")
        "failed" "unsupported_agent_action"
        ("Action " ++ orMissing (call.plannedText env "action") ++
          " is not supported.") none [])) :
    motive (executeAgentStep env externalCaseId prep call) := by
  simp only [executeAgentStep]
  by_cases violated : stepViolations env prep call = []
  · simp only [violated, List.isEmpty_nil, Bool.not_true]
    rw [if_neg (by decide)]
    split
    · next action => exact approvalCheckpoint violated action
    split
    · next action => exact memoryRead violated action
    split
    · next action => exact memoryWrite violated action
    split
    · next action => exact retrieve violated action
    split
    · next action => exact tool violated action
    split
    · next action => exact respond violated action
    · exact unsupported violated
  · rw [if_pos (by simpa using violated)]
    exact refused violated

theorem answersCall_executeAgentStep :
    AnswersCall env call (call.plannedText env "action")
      (executeAgentStep env externalCaseId prep call) := by
  apply executeAgentStep_cases
  case refused => exact fun _ => answersCall_failedStep _ _ _ _ _ _
  case unsupported => exact fun _ => answersCall_failedStep _ _ _ _ _ _
  case approvalCheckpoint =>
    intro _ action
    rw [action]
    exact answersCall_executeApprovalCheckpoint
  case memoryRead =>
    intro _ action
    rw [action]
    exact answersCall_executeMemoryRead
  case memoryWrite =>
    intro _ action
    rw [action]
    exact answersCall_executeMemoryWrite
  case retrieve =>
    intro _ action
    rw [action]
    exact answersCall_executeRetrieval
  case tool =>
    intro _ action
    rw [action]
    exact answersCall_executeToolAction
  case respond =>
    intro _ action
    rw [action]
    exact answersCall_executeResponse

theorem stepViolations_eq_nil (executed : (executeAgentStep env externalCaseId prep
      call).status ≠ "policy_violation") :
    stepViolations env prep call = [] := by
  by_contra violated
  apply executed
  simp only [executeAgentStep]
  rw [if_pos (by simpa using violated)]
  rfl

structure SuccessfulStatus (step : AgentStep) : Prop where
  status : step.status = "success" ∨ step.status = "approved"
  noViolation : step.policyViolations = []

theorem SuccessfulStatus.quiet {step : AgentStep}
    (successful : SuccessfulStatus step) : step.Quiet := by
  have statusCases := successful.status
  refine ⟨?_, ?_, successful.noViolation⟩
  · intro pending
    rw [pending] at statusCases
    revert statusCases
    decide
  · intro denied
    rw [denied] at statusCases
    revert statusCases
    decide

theorem successfulStatus_of_failed {step : AgentStep} (failed : step.successful = false) :
    step.successful = true → SuccessfulStatus step := by
  intro successful
  rw [failed] at successful
  cases successful

theorem executeAgentStep_successfulStatus : (executeAgentStep env externalCaseId prep
        call).successful = true →
      SuccessfulStatus (executeAgentStep env externalCaseId prep call) := by
  apply executeAgentStep_cases
    (motive := fun step => step.successful = true → SuccessfulStatus step)
  case refused => exact fun _ => successfulStatus_of_failed rfl
  case unsupported => exact fun _ => successfulStatus_of_failed rfl
  case approvalCheckpoint =>
    intro _ _
    simp only [executeApprovalCheckpoint]
    split
    · exact successfulStatus_of_failed rfl
    split
    · exact successfulStatus_of_failed rfl
    split
    · exact fun _ => ⟨Or.inr rfl, rfl⟩
    · exact successfulStatus_of_failed rfl
  case memoryRead =>
    intro _ _
    simp only [executeMemoryRead]
    split
    · exact fun _ => ⟨Or.inl rfl, rfl⟩
    · exact successfulStatus_of_failed rfl
  case memoryWrite =>
    intro _ _
    simp only [executeMemoryWrite]
    split
    · exact fun _ => ⟨Or.inl rfl, rfl⟩
    · exact successfulStatus_of_failed rfl
  case retrieve =>
    intro _ _
    simp only [executeRetrieval]
    split
    · exact fun _ => ⟨Or.inl rfl, rfl⟩
    · exact successfulStatus_of_failed rfl
  case tool =>
    intro _ _
    simp only [executeToolAction]
    split
    · exact successfulStatus_of_failed rfl
    · intro successful
      exact ⟨Or.inl (of_decide_eq_true successful), rfl⟩
  case respond =>
    intro _ _
    simp only [executeResponse]
    split
    · exact fun _ => ⟨Or.inl rfl, rfl⟩
    · exact successfulStatus_of_failed rfl

end Call

def AgentStep.unmarked (step : AgentStep) : AgentStep :=
  { step with recoveredByReplan := false }

/-- `prior_outputs` after some steps. -/
def outputsAfter (steps : List AgentStep) : List Json :=
  steps.filterMap (fun step =>
    match step.successful, step.output with
    | true, some output => if output.isObject then some output else none
    | _, _ => none)

/-- `approved_checkpoint_ids` after some steps. -/
def approvedAfter (env : AgentEnvironment) (steps : List AgentStep) : List String :=
  steps.foldl (recordApprovedCheckpoint env) []

/-- `action_counts[action]` after some steps. -/
def actionCount (steps : List AgentStep) (action : String) : Nat :=
  steps.countP (fun step => step.action = action)

def childCount (steps : List AgentStep) (parentStepIndex : Option Nat) : Nat :=
  steps.countP (fun step => step.parentStepIndex = parentStepIndex)

def matchingExpected (contract : Json) (before : List AgentStep)
    (parentStepIndex : Option Nat) : Option Json :=
  match parentStepIndex with
  | none => (expectedSteps contract)[childCount before none]?
  | some trigger =>
    (expectedRecoverySteps contract trigger)[childCount before (some trigger)]?

/-- `"recovery"` for a step with a parent. -/
def phaseOf (parentStepIndex : Option Nat) : String :=
  match parentStepIndex with
  | none => "plan"
  | some _ => "recovery"

def callAfter (env : AgentEnvironment) (contract : Json)
    (before : List AgentStep) (planned : Json) (parentStepIndex : Option Nat) :
    StepCall where
  stepIndex := before.length
  planned := planned
  expected := matchingExpected contract before parentStepIndex
  actionCount := actionCount before (Json.pyStrOrEmpty env.text.render
    (planned.get? "action")) + 1
  priorOutputs := outputsAfter before
  approvedCheckpointIds := approvedAfter env before
  phase := phaseOf parentStepIndex
  parentStepIndex := parentStepIndex

/-- The step is what the executor makes of its input after the earlier steps,
none of which halts a plan. -/
structure Recorded (env : AgentEnvironment) (externalCaseId : String)
    (prep : AgentPreparation) (before : List AgentStep)
    (step : AgentStep) : Prop where
  executed : step.unmarked = executeAgentStep env externalCaseId
    prep (callAfter env prep.contract before step.input
      step.parentStepIndex)
  quietBefore : ∀ earlier ∈ before, earlier.Quiet

def KeepsUnmarked (change : AgentStep → AgentStep) : Prop :=
  ∀ step, (change step).unmarked = step.unmarked

section Marks

variable {change : AgentStep → AgentStep}

theorem KeepsUnmarked.field {Value : Type} (keeps : KeepsUnmarked change)
    (field : AgentStep → Value)
    (unmarkedField : ∀ step : AgentStep, field step.unmarked = field step)
    (step : AgentStep) : field (change step) = field step := by
  rw [← unmarkedField, keeps step, unmarkedField]

theorem outputsAfter_map (keeps : KeepsUnmarked change) (steps : List AgentStep) :
    outputsAfter (steps.map change) = outputsAfter steps := by
  rw [outputsAfter, outputsAfter, List.filterMap_map]
  congr 1
  funext step
  rw [Function.comp_apply, keeps.field AgentStep.successful (fun _ => rfl),
    keeps.field AgentStep.output (fun _ => rfl)]

theorem recordApprovedCheckpoint_change (env : AgentEnvironment)
    (keeps : KeepsUnmarked change) (approved : List String) (step : AgentStep) :
    recordApprovedCheckpoint env approved (change step) =
      recordApprovedCheckpoint env approved step := by
  rw [recordApprovedCheckpoint, recordApprovedCheckpoint,
    keeps.field AgentStep.output (fun _ => rfl),
    keeps.field AgentStep.action (fun _ => rfl),
    keeps.field AgentStep.status (fun _ => rfl)]

theorem approvedAfter_map (env : AgentEnvironment)
    (keeps : KeepsUnmarked change) (steps : List AgentStep) :
    approvedAfter env (steps.map change) = approvedAfter env steps := by
  rw [approvedAfter, approvedAfter, List.foldl_map]
  congr 1
  funext approved step
  exact recordApprovedCheckpoint_change env keeps approved step

theorem actionCount_map (keeps : KeepsUnmarked change) (steps : List AgentStep) (action : String) :
    actionCount (steps.map change) action = actionCount steps action := by
  rw [actionCount, actionCount, List.countP_map]
  congr 1
  funext step
  rw [Function.comp_apply, keeps.field AgentStep.action (fun _ => rfl)]

theorem childCount_map (keeps : KeepsUnmarked change)
    (steps : List AgentStep) (parentStepIndex : Option Nat) :
    childCount (steps.map change) parentStepIndex = childCount steps parentStepIndex := by
  rw [childCount, childCount, List.countP_map]
  congr 1
  funext step
  rw [Function.comp_apply, keeps.field AgentStep.parentStepIndex (fun _ => rfl)]

theorem matchingExpected_map (keeps : KeepsUnmarked change) (contract : Json)
    (before : List AgentStep) (parentStepIndex : Option Nat) :
    matchingExpected contract (before.map change) parentStepIndex =
      matchingExpected contract before parentStepIndex := by
  cases parentStepIndex <;>
    simp only [matchingExpected, childCount_map keeps]

theorem callAfter_map (env : AgentEnvironment) (keeps : KeepsUnmarked change) (contract : Json)
    (before : List AgentStep) (planned : Json) (parentStepIndex : Option Nat) :
    callAfter env contract (before.map change) planned parentStepIndex =
      callAfter env contract before planned parentStepIndex := by
  simp only [callAfter, List.length_map, matchingExpected_map keeps,
    actionCount_map keeps, outputsAfter_map keeps,
    approvedAfter_map env keeps]

theorem AgentStep.Quiet.marked {step : AgentStep}
    (keeps : KeepsUnmarked change) (quiet : step.Quiet) :
    (change step).Quiet := by
  have statusEq := keeps.field AgentStep.status (fun _ => rfl) step
  have violationsEq := keeps.field AgentStep.policyViolations (fun _ => rfl) step
  exact ⟨statusEq ▸ quiet.notPending, statusEq ▸ quiet.notDenied, violationsEq ▸ quiet.noViolation⟩

theorem Recorded.map {env : AgentEnvironment} {externalCaseId : String} {prep : AgentPreparation}
    {before : List AgentStep} {step : AgentStep} (keeps : KeepsUnmarked change)
    (recorded : Recorded env externalCaseId prep before step) :
    Recorded env externalCaseId prep (before.map change) (change step) := by
  refine ⟨?_, ?_⟩
  · rw [keeps step, callAfter_map env keeps, keeps.field AgentStep.input (fun _ => rfl),
      keeps.field AgentStep.parentStepIndex (fun _ => rfl)]
    exact recorded.executed
  · intro earlier mem
    obtain ⟨original, originalMem, rfl⟩ := List.mem_map.mp mem
    exact (recorded.quietBefore original originalMem).marked keeps

theorem keepsUnmarked_markRecovered (stepIndex : Nat) : KeepsUnmarked (fun step =>
      if step.stepIndex = stepIndex then { step with recoveredByReplan := true }
      else step) := by
  intro step
  simp only
  split
  · rfl
  · rfl

end Marks

end ModelAtlas.Agent
