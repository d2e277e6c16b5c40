import ModelAtlas.Approval.Policy

/-!
# Approval decisions of a trace

`services/agent_execution/approval.py`: the decisions that an earlier execution
of an agent plan was given, read back from its trace.
-/

namespace ModelAtlas.Agent

open Foundations Approval

def decisionMembers : List String :=
  ["decision", "decided_by", "reason", "decision_source", "policy_version",
    "decision_hash", "identity_verified", "approver_identity", "decided_at",
    "checkpoint_record_id"]

/-- `str(output.get(name) or "").strip()`. -/
def strippedMember (text : TextEnvironment) (output : Json) (name : String) :
    String :=
  pyStrip (Json.pyStrOrEmpty text.render (output.get? name))

/-- `output.get(name) is not None`. -/
def presentMember (output : Json) (name : String) : Option (String × Json) :=
  match output.get? name with
  | none => none
  | some .null => none
  | some value => some (name, value)

/-- The decision of one step of `_approval_decisions_from_trace`. -/
def decisionOfStep (text : TextEnvironment) (step : Json) : Option (String × Json) :=
  if !Json.isText (step.get? "action") "approval_checkpoint" then none
  else
    match step.get? "output" with
    | some (.obj members) =>
      let output := Json.obj members
      let checkpointId := strippedMember text output "checkpoint_id"
      let decision := text.lower (strippedMember text output "decision")
      if checkpointId = "" ||
          !(["approved", "denied"].contains decision) then
        none
      else if strippedMember text output "decided_by" = "" ||
          strippedMember text output "reason" = "" then none
      else
        some (checkpointId, .obj (decisionMembers.filterMap (presentMember output)))
    | _ => none

def approvalDecisionsFromAgentTrace (text : TextEnvironment) (trace : Json) :
    List (String × Json) :=
  (trace.items "steps").foldl
    (fun decisions step =>
      match decisionOfStep text step with
      | none => decisions
      | some (checkpointId, decision) =>
        Json.setMember decisions checkpointId decision) []

end ModelAtlas.Agent
