import ModelAtlas.Foundations.Json
import ModelAtlas.Records

/-!
# Approval policies

`services/agent_approval_policy.py`: how a checkpoint's policy is resolved from
its contract, stored and read back, and which identities it allows to decide,
revoke or resume.
-/

namespace ModelAtlas.Approval

open Foundations

/-- Text operations the policies take from outside: `str.lower`, and `str` of a
JSON value that is not a text. -/
structure TextEnvironment where
  lower : String → String
  render : Json → String

def agentControlPolicyVersion : String := "agent-control-approval-rbac-v1"

def defaultAgentApproverRoles : List String :=
  ["Release Manager", "ML Ops Lead", "SRE Lead", "Model Governance", "Admin"]

def defaultAgentResumerRoles : List String :=
  ["Release Manager", "ML Ops Lead", "SRE Lead", "Admin"]

def agentEvidenceImportRoles : List String :=
  ["ML Ops Lead", "SRE Lead", "Model Governance", "Admin"]

inductive AgentCheckpointOperation where
  | decide
  | revoke
  | resume
  deriving DecidableEq, Repr

def AgentCheckpointOperation.text : AgentCheckpointOperation → String
  | decide => "decide"
  | revoke => "revoke"
  | resume => "resume"

structure AgentCheckpointPolicy where
  (policyVersion checkpointId : String)
  (allowedRoles resumeRoles : List String)
  (requiresVerifiedIdentity separationOfDuties : Bool)
  expiresInSeconds : Int

def AgentCheckpointPolicy.toJson (policy : AgentCheckpointPolicy) : Json :=
  .obj
    [("policy_version", .str policy.policyVersion),
      ("checkpoint_id", .str policy.checkpointId),
      ("allowed_roles", .arr (policy.allowedRoles.map .str)),
      ("resume_roles", .arr (policy.resumeRoles.map .str)),
      ("requires_verified_identity", .bool policy.requiresVerifiedIdentity),
      ("separation_of_duties", .bool policy.separationOfDuties),
      ("expires_in_seconds", .int policy.expiresInSeconds)]

def rolesOr (text : TextEnvironment) (value : Option Json) (default : List String) : List String :=
  match value with
  | some (.arr items) =>
    let roles := (((items.take 20).map
      (fun item => pyStrip (item.pyStr text.render))).filter
        (fun role => role ≠ "")).eraseDups
    if roles.isEmpty then default else roles
  | _ => default

def roleKey (text : TextEnvironment) (role : Option String) : Option String :=
  match role with
  | none => none
  | some name =>
    let normalized := text.lower (" ".intercalate (pySplit (pyStrip name)))
    if normalized = "" then none else some normalized

def boolOr (value : Option Json) (default : Bool) : Bool :=
  match value with
  | some (.bool stored) => stored
  | _ => default

/-- `_bounded_expiry`: an hour unless a number is given, and from one minute to
one week. -/
def boundedExpiry (value : Option Json) : Int :=
  match value with
  | some (.int stored) => max 60 (min stored 604800)
  | some (.float stored) =>
    max 60 (min (stored.num.tdiv (stored.den : Int)) 604800)
  | _ => 3600

/-- `resolve_agent_checkpoint_policy`: the checkpoint's own policy overrides the
contract's, member by member. -/
def resolveAgentCheckpointPolicy (text : TextEnvironment) (contract : Json)
    (checkpointId : String) : AgentCheckpointPolicy :=
  let defaults := (contract.get? "approval_policy").getD .null
  let override := (((contract.get? "approval_policies").getD .null).get?
    checkpointId).getD .null
  let merged := fun name => (override.get? name).or (defaults.get? name)
  { policyVersion := agentControlPolicyVersion
    checkpointId := checkpointId
    allowedRoles := rolesOr text (merged "allowed_roles")
      defaultAgentApproverRoles
    resumeRoles := rolesOr text (merged "resume_roles") defaultAgentResumerRoles
    requiresVerifiedIdentity := boolOr (merged "requires_verified_identity") true
    separationOfDuties := boolOr (merged "separation_of_duties") true
    expiresInSeconds := boundedExpiry (merged "expires_in_seconds") }

def checkpointPolicyFromJson (text : TextEnvironment) (payload : Json) :
    Except ServiceError AgentCheckpointPolicy :=
  let checkpointId :=
    pyStrip (Json.pyStrOrEmpty text.render (payload.get? "checkpoint_id"))
  if checkpointId = "" then
    .error (.domainValidation
      "agent checkpoint policy is missing checkpoint_id")
  else
    .ok
      { policyVersion := pyOr
          (Json.pyStrOrEmpty text.render (payload.get? "policy_version"))
          agentControlPolicyVersion
        checkpointId := checkpointId
        allowedRoles := rolesOr text (payload.get? "allowed_roles")
          defaultAgentApproverRoles
        resumeRoles := rolesOr text (payload.get? "resume_roles")
          defaultAgentResumerRoles
        requiresVerifiedIdentity :=
          boolOr (payload.get? "requires_verified_identity") true
        separationOfDuties := boolOr (payload.get? "separation_of_duties") true
        expiresInSeconds := boundedExpiry (payload.get? "expires_in_seconds") }

structure AgentCheckpointPolicyEvaluation where
  (policyVersion checkpointId : String)
  operation : AgentCheckpointOperation
  allowed : Bool
  allowedRoles : List String
  signerRole : Option String
  (identityVerified separationOfDuties : Bool)
  (requesterSubjectId signerSubjectId : String)
  reasons : List String

def AgentCheckpointPolicyEvaluation.toJson (evaluation : AgentCheckpointPolicyEvaluation) : Json :=
  .obj
    [("policy_version", .str evaluation.policyVersion),
      ("checkpoint_id", .str evaluation.checkpointId),
      ("operation", .str evaluation.operation.text),
      ("allowed", .bool evaluation.allowed),
      ("allowed_roles", .arr (evaluation.allowedRoles.map .str)),
      ("signer_role", Json.optionText evaluation.signerRole),
      ("identity_verified", .bool evaluation.identityVerified),
      ("separation_of_duties", .bool evaluation.separationOfDuties),
      ("requester_subject_id", .str evaluation.requesterSubjectId),
      ("signer_subject_id", .str evaluation.signerSubjectId),
      ("reasons", .arr (evaluation.reasons.map .str))]

def hasRole (text : TextEnvironment) (role : Option String) (allowedRoles : List String) : Bool :=
  match roleKey text role with
  | none => false
  | some key => (allowedRoles.map (fun allowed => roleKey text (some allowed))).contains (some key)

def evaluateAgentCheckpointPolicy (text : TextEnvironment)
    (policy : AgentCheckpointPolicy) (op : AgentCheckpointOperation)
    (signerIdentity : SignerIdentity) (requesterSubjectId : String) :
    AgentCheckpointPolicyEvaluation :=
  let allowedRoles :=
    if op = .resume then policy.resumeRoles else policy.allowedRoles
  let reasons :=
    (if policy.requiresVerifiedIdentity && !signerIdentity.identityVerified then
      ["Agent checkpoint " ++ op.text ++
        " requires verified operator identity."]
    else []) ++
    (if !hasRole text signerIdentity.role allowedRoles then
      ["Agent checkpoint " ++ op.text ++
        " requires one of these roles: " ++ ", ".intercalate allowedRoles ++ "."]
    else []) ++
    (if op = .decide && policy.separationOfDuties &&
        signerIdentity.subjectId = requesterSubjectId then
      ["Agent checkpoint decision requires a different operator from the " ++
        "requester."]
    else [])
  { policyVersion := policy.policyVersion
    checkpointId := policy.checkpointId
    operation := op
    allowed := reasons.isEmpty
    allowedRoles := allowedRoles
    signerRole := signerIdentity.role
    identityVerified := signerIdentity.identityVerified
    separationOfDuties := policy.separationOfDuties
    requesterSubjectId := requesterSubjectId
    signerSubjectId := signerIdentity.subjectId
    reasons := reasons }

def assertAgentCheckpointOperationAllowed (text : TextEnvironment)
    (policy : AgentCheckpointPolicy) (op : AgentCheckpointOperation)
    (signerIdentity : SignerIdentity) (requesterSubjectId : String) :
    Except ServiceError AgentCheckpointPolicyEvaluation :=
  let evaluation := evaluateAgentCheckpointPolicy text policy op signerIdentity requesterSubjectId
  if evaluation.allowed then .ok evaluation
  else
    .error (.domainValidation
      ("Agent checkpoint policy denied: " ++ " ".intercalate evaluation.reasons))

def assertAgentEvidenceImportAllowed (text : TextEnvironment)
    (signerIdentity : SignerIdentity) : Except ServiceError Unit :=
  let reasons :=
    (if !signerIdentity.identityVerified then
      ["Agent evidence import requires verified operator identity."]
    else []) ++
    (if !hasRole text signerIdentity.role agentEvidenceImportRoles then
      ["Agent evidence import requires one of these roles: " ++
        ", ".intercalate agentEvidenceImportRoles ++ "."]
    else [])
  if reasons.isEmpty then .ok ()
  else
    .error (.domainValidation
      ("Agent evidence import policy denied: " ++ " ".intercalate reasons))

theorem assertAgentCheckpointOperationAllowed_eq_ok
    {text : TextEnvironment} {policy : AgentCheckpointPolicy}
    {op : AgentCheckpointOperation} {signerIdentity : SignerIdentity}
    {requesterSubjectId : String}
    {evaluation : AgentCheckpointPolicyEvaluation}
    (allowed : assertAgentCheckpointOperationAllowed text policy op
      signerIdentity requesterSubjectId = .ok evaluation) :
    evaluation = evaluateAgentCheckpointPolicy text policy op signerIdentity requesterSubjectId ∧
      evaluation.allowed = true := by
  simp only [assertAgentCheckpointOperationAllowed] at allowed
  split at allowed
  · next isAllowed =>
      obtain rfl := Except.ok.inj allowed
      exact ⟨rfl, isAllowed⟩
  · cases allowed

end ModelAtlas.Approval
