import ModelAtlas.Agent.Steps

/-!
# Agent plans

`services/agent_execution/planning.py` and `recovery.py`: how the JSON output of
a model is read as a plan with recovery branches, and what the contract expects
of them.
-/

namespace ModelAtlas.Agent

open Foundations Approval

structure RecoveryBranch where
  triggerStepIndex : Nat
  onErrorTypes : List String
  strategy : Option Json
  steps : List Json

structure ParsedPlan where
  steps : List Json
  recoveryPlans : List RecoveryBranch

/-- One branch of `_parse_plan`, for a plan of `stepCount` steps. -/
def parseRecoveryBranch (text : TextEnvironment) (stepCount : Nat)
    (branch : Json) : Except String RecoveryBranch :=
  if !branch.isObject then
    .error "every recovery plan must be a JSON object"
  else
    match branch.get? "trigger_step_index" with
    | some (.int triggerIndex) =>
      if triggerIndex < 0 ∨ (stepCount : Int) ≤ triggerIndex then
        .error "recovery plan trigger_step_index is out of range"
      else if (branch.items "steps").isEmpty then
        .error "recovery plan must contain a non-empty steps array"
      else if !(branch.items "steps").all Json.isObject then
        .error "every recovery step must be a JSON object"
      else
        .ok
          { triggerStepIndex := triggerIndex.toNat
            onErrorTypes :=
              Json.stringList text.render (branch.get? "on_error_types")
            strategy := branch.get? "strategy"
            steps := branch.items "steps" }
    | _ => .error "recovery plan trigger_step_index must be an integer"

/-- `_parse_plan`; `payload` is what `json.loads` makes of the output, if it is
valid. -/
def parsePlan (text : TextEnvironment) (payload : Option Json) : Except String ParsedPlan :=
  match payload with
  | none => .error "agent output is not valid JSON"
  | some payload =>
    if !payload.isObject then
      .error "agent output must be a JSON object"
    else
      match if payload.truthyMember "steps" then payload.get? "steps"
          else payload.get? "agent_steps" with
      | some (.arr steps) =>
        if !steps.all Json.isObject then
          .error "every agent step must be a JSON object"
        else
          match (payload.get? "recovery_plans").getD (.arr []) with
          | .arr branches =>
            (branches.mapM (parseRecoveryBranch text steps.length)).map
              (fun recoveryPlans => ⟨steps, recoveryPlans⟩)
          | _ => .error "agent recovery_plans must be an array"
      | _ => .error "agent output must contain a steps array"

def stepsWithAction (steps : List Json) : List Json :=
  steps.filter (fun step => step.isObject && step.truthyMember "action")

def expectedSteps (contract : Json) : List Json :=
  stepsWithAction (contract.items "expected_steps")

def expectedRecoverySteps (contract : Json) (triggerStepIndex : Nat) : List Json :=
  match (contract.items "expected_recovery_plans").find? (fun branch =>
    branch.isObject && Json.isIndex (branch.get? "trigger_step_index")
      triggerStepIndex) with
  | none => []
  | some branch => stepsWithAction (branch.items "steps")

/-- `str(step.get("action"))`, for each step. -/
def expectedActions (text : TextEnvironment) (steps : List Json) : List String :=
  steps.map (fun step => ((step.get? "action").getD .null).pyStr text.render)

/-- `str(step.get("action") or "")`, for each step. -/
def actualActions (text : TextEnvironment) (steps : List Json) : List String :=
  steps.map (fun step => Json.pyStrOrEmpty text.render (step.get? "action"))

def actionsMatch (expected actual : List String) : Bool :=
  expected.isEmpty || actual = expected

def selectRecoveryPlan (recoveryPlans : List RecoveryBranch)
    (triggerStepIndex : Nat) (errorType : String) : Option RecoveryBranch :=
  recoveryPlans.find? (fun branch =>
    branch.triggerStepIndex = triggerStepIndex &&
      (branch.onErrorTypes.isEmpty || branch.onErrorTypes.contains errorType))

def recoveryPlansOverlap (left right : RecoveryBranch) : Bool :=
  right.triggerStepIndex = left.triggerStepIndex &&
    (left.onErrorTypes.isEmpty || right.onErrorTypes.isEmpty ||
      left.onErrorTypes.any right.onErrorTypes.contains)

def hasAmbiguousRecoveryPlans : List RecoveryBranch → Bool
  | [] => false
  | left :: rest =>
    rest.any (recoveryPlansOverlap left) || hasAmbiguousRecoveryPlans rest

end ModelAtlas.Agent
