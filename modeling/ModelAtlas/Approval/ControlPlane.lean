import ModelAtlas.Agent.Decisions
import ModelAtlas.Foundations.Table

/-!
# The agent control plane

The checkpoint records of `services/agent_control_plane.py` and the operations
on them. An operation that raises is rolled back, but for the expiry of a due
record.
-/

namespace ModelAtlas.Approval

open Foundations Agent

inductive CheckpointStatus where
  | pending
  | approved
  | denied
  | revoked
  | expired
  | resumed
  deriving DecidableEq, Repr

def CheckpointStatus.text : CheckpointStatus → String
  | pending => "pending"
  | approved => "approved"
  | denied => "denied"
  | revoked => "revoked"
  | expired => "expired"
  | resumed => "resumed"

inductive CheckpointDecision where
  | approved
  | denied
  deriving DecidableEq, Repr

namespace CheckpointDecision

def text : CheckpointDecision → String
  | approved => "approved"
  | denied => "denied"

def status : CheckpointDecision → CheckpointStatus
  | approved => .approved
  | denied => .denied

end CheckpointDecision

structure AgentApprovalCheckpoint where
  (id benchmarkRunId benchmarkResultId : Uuid)
  checkpointId : String
  status : CheckpointStatus
  requestedBySubjectId : String
  requestedByIdentityJson : SignerIdentity
  (requestSnapshotJson approvalPolicyJson : Json)
  requestHash : String
  expiresAt : Time
  decision : Option CheckpointDecision
  decisionReason : Option String
  decidedAt : Option Time
  approverIdentityJson : Option SignerIdentity
  identityVerified : Bool
  decisionHash : Option String
  revokedAt : Option Time
  revocationReason : Option String
  revokedByIdentityJson : Option SignerIdentity
  revocationHash : Option String
  resumedAt : Option Time
  resumedByIdentityJson : Option SignerIdentity
  resumeHash : Option String
  (transitionBenchmarkRunId transitionBenchmarkResultId : Option Uuid)
  version : Int

instance : Keyed AgentApprovalCheckpoint Uuid where
  key := AgentApprovalCheckpoint.id

/-- What the control plane reads of an evaluation case; `contract` is
`reference_context_json["agent"]`. -/
structure EvaluationCase where
  id : Uuid
  externalCaseId : String
  contract : Json

/-- `metadata_json["agent_control_plane"]`. -/
structure ControlLink where
  checkpointRecordIds : List Uuid
  requestHashes : List String
  resultRevision : Int

/-- What the control plane reads of a result and of its run; `trace` is
`metadata_json["agent_execution"]`. -/
structure BenchmarkResult where
  (id benchmarkRunId : Uuid)
  sampleId : String
  evaluationCase : Option EvaluationCase
  (deploymentConfigurationId parentBenchmarkResultId rootBenchmarkResultId : Option Uuid)
  revisionNumber : Int
  trace : Option Json
  controlLink : Option ControlLink

instance : Keyed BenchmarkResult Uuid where
  key := BenchmarkResult.id

structure CheckpointChange where
  apply : AgentApprovalCheckpoint → AgentApprovalCheckpoint
  keepsId : ∀ record, (apply record).id = record.id
  keepsResult : ∀ record,
    (apply record).benchmarkResultId = record.benchmarkResultId
  keepsCheckpoint : ∀ record,
    (apply record).checkpointId = record.checkpointId
  keepsPolicy : ∀ record,
    (apply record).approvalPolicyJson = record.approvalPolicyJson
  keepsExpiry : ∀ record, (apply record).expiresAt = record.expiresAt

structure ControlPlane where
  checkpoints : Table AgentApprovalCheckpoint
  results : Table BenchmarkResult
  uuids : Uuid
  checkpointsDrawn : ∀ record ∈ checkpoints, record.id < uuids
  resultsDrawn : ∀ result ∈ results, result.id < uuids

namespace ControlPlane

def empty : ControlPlane where
  checkpoints := ∅
  results := ∅
  uuids := 0
  checkpointsDrawn := by simp
  resultsDrawn := by simp

/-- `db.get(AgentApprovalCheckpoint, checkpoint_record_id)`. -/
def checkpoint? (state : ControlPlane) (recordId : Uuid) : Option AgentApprovalCheckpoint :=
  state.checkpoints.find? recordId

/-- `db.get(BenchmarkResult, benchmark_result_id)`. -/
def result? (state : ControlPlane) (resultId : Uuid) : Option BenchmarkResult :=
  state.results.find? resultId

def recordsOf (state : ControlPlane) (resultId : Uuid) : List AgentApprovalCheckpoint :=
  state.checkpoints.rows.filter (fun record => record.benchmarkResultId = resultId)

def changeCheckpoints (state : ControlPlane) (change : CheckpointChange) :
    ControlPlane :=
  { state with
    checkpoints := state.checkpoints.update change.apply change.keepsId
    checkpointsDrawn := by
      intro record mem
      obtain ⟨old, oldMem, rfl⟩ := Table.mem_update.mp mem
      rw [change.keepsId]
      exact state.checkpointsDrawn old oldMem }

def insertCheckpoint (state : ControlPlane) (record : AgentApprovalCheckpoint)
    (drawn : record.id = state.uuids) : ControlPlane where
  checkpoints := state.checkpoints.insert record (by
    intro other mem
    change other.id ≠ record.id
    rw [drawn]
    exact Nat.ne_of_lt (state.checkpointsDrawn other mem))
  results := state.results
  uuids := state.uuids + 1
  checkpointsDrawn := by
    intro other mem
    rcases Table.mem_insert.mp mem with old | rfl
    · exact Nat.lt_succ_of_lt (state.checkpointsDrawn other old)
    · exact drawn ▸ Nat.lt_succ_self _
  resultsDrawn result mem :=
    Nat.lt_succ_of_lt (state.resultsDrawn result mem)

def insertResult (state : ControlPlane) (result : BenchmarkResult)
    (drawn : result.id = state.uuids) : ControlPlane where
  checkpoints := state.checkpoints
  results := state.results.insert result (by
    intro other mem
    change other.id ≠ result.id
    rw [drawn]
    exact Nat.ne_of_lt (state.resultsDrawn other mem))
  uuids := state.uuids + 1
  checkpointsDrawn record mem :=
    Nat.lt_succ_of_lt (state.checkpointsDrawn record mem)
  resultsDrawn := by
    intro other mem
    rcases Table.mem_insert.mp mem with old | rfl
    · exact Nat.lt_succ_of_lt (state.resultsDrawn other old)
    · exact drawn ▸ Nat.lt_succ_self _

def setControlLink (state : ControlPlane) (resultId : Uuid) (link : ControlLink) : ControlPlane :=
  { state with
    results := state.results.modify resultId
      (fun result => { result with controlLink := some link }) (fun _ => rfl)
    resultsDrawn := by
      intro result mem
      rcases Table.mem_modify.mp mem with
        ⟨old, oldMem, _, rfl⟩ | ⟨untouched, _⟩
      · exact state.resultsDrawn old oldMem
      · exact state.resultsDrawn result untouched }

section Rows

variable {state : ControlPlane}

@[simp]
theorem mem_changeCheckpoints {change : CheckpointChange} {tested : AgentApprovalCheckpoint} :
    tested ∈ (state.changeCheckpoints change).checkpoints ↔
      ∃ record ∈ state.checkpoints, change.apply record = tested := by
  rw [changeCheckpoints, Table.mem_update]

@[simp]
theorem results_changeCheckpoints (change : CheckpointChange) :
    (state.changeCheckpoints change).results = state.results :=
  rfl

@[simp]
theorem mem_insertCheckpoint {record tested : AgentApprovalCheckpoint}
    (drawn : record.id = state.uuids) :
    tested ∈ (state.insertCheckpoint record drawn).checkpoints ↔
      tested ∈ state.checkpoints ∨ tested = record := by
  rw [insertCheckpoint, Table.mem_insert]

@[simp]
theorem mem_insertResult {result tested : BenchmarkResult} (drawn : result.id = state.uuids) :
    tested ∈ (state.insertResult result drawn).results ↔
      tested ∈ state.results ∨ tested = result := by
  rw [insertResult, Table.mem_insert]

theorem mem_setControlLink {resultId : Uuid} {link : ControlLink} {tested : BenchmarkResult} :
    tested ∈ (state.setControlLink resultId link).results ↔ (∃ row ∈ state.results,
        row.id = resultId ∧ { row with controlLink := some link } = tested) ∨
      (tested ∈ state.results ∧ tested.id ≠ resultId) := by
  rw [setControlLink, Table.mem_modify]
  rfl

end Rows

end ControlPlane

/-- What the control plane takes from outside: text operations, the SHA-256 of
a canonical JSON text, and the texts of ids and times. -/
structure ControlEnvironment where
  text : TextEnvironment
  hashPayload : Json → String
  uuidText : Uuid → String
  isoFormat : Time → String

/-- `SignerIdentity.to_json`. -/
def identityJson (identity : SignerIdentity) : Json :=
  .obj
    [("subject_id", .str identity.subjectId),
      ("display_name", .str identity.displayName),
      ("role", Json.optionText identity.role),
      ("identity_provider", .str identity.identityProvider),
      ("auth_source", .str identity.authSource),
      ("identity_verified", .bool identity.identityVerified),
      ("ticket_reference", Json.optionText identity.ticketReference)]

/-- `_identity_from_json` of a stored identity. -/
def identityFromJson (stored : SignerIdentity) : SignerIdentity where
  subjectId := pyOr stored.subjectId "unknown-requester"
  displayName := pyOr stored.displayName "Unknown requester"
  role := stored.role.filter (fun role => role ≠ "")
  identityProvider := pyOr stored.identityProvider "unknown"
  authSource := pyOr stored.authSource "unknown"
  identityVerified := stored.identityVerified
  ticketReference := stored.ticketReference.filter (fun text => text ≠ "")

def pendingCheckpointSteps (trace : Json) : List Json :=
  (trace.items "steps").filter (fun step =>
    Json.isText (step.get? "action") "approval_checkpoint" &&
      Json.isText (step.get? "status") "pending")

def guardedActions (text : TextEnvironment) (trace : Json) (checkpointId : String) : List Json :=
  ((trace.items "steps").filter (fun step => step.isObject &&
    Json.pyStrOrEmpty text.render
      ((step.objectOr "input").get? "requires_approval") = checkpointId)).map
        (fun step => .obj
          [("step_index", (step.get? "step_index").getD .null),
            ("action", (step.get? "action").getD .null),
            ("phase", (step.get? "phase").getD .null)])

def checkpointRequestSnapshot (env : ControlEnvironment)
    (result : BenchmarkResult) (trace step : Json) (checkpointId : String) :
    Json :=
  .obj
    [("schema_version", .str "agent-approval-request-v1"),
      ("benchmark_run_id", .str (env.uuidText result.benchmarkRunId)),
      ("benchmark_result_id", .str (env.uuidText result.id)),
      ("evaluation_case_id", Json.optionText
        (result.evaluationCase.map (fun row => env.uuidText row.id))),
      ("external_case_id", Json.optionText
        (result.evaluationCase.map EvaluationCase.externalCaseId)),
      ("sample_id", .str result.sampleId),
      ("checkpoint_id", .str checkpointId),
      ("step_index", (step.get? "step_index").getD .null),
      ("checkpoint_input", step.objectOr "input"),
      ("guarded_actions",
        .arr (guardedActions env.text trace checkpointId)),
      ("trace_versions", .obj
        (["schema_version", "runtime_version", "recovery_policy_version",
          "approval_policy_version"].map
            (fun name => (name, (trace.get? name).getD .null))))]

def decisionForRuntime (env : ControlEnvironment) (record : AgentApprovalCheckpoint) : Json :=
  .obj
    [("decision", Json.optionText
        (record.decision.map CheckpointDecision.text)),
      ("decided_by", .str
        (match record.approverIdentityJson with
        | none => ""
        | some approver => pyOr approver.displayName approver.subjectId)),
      ("reason", Json.optionText record.decisionReason),
      ("decision_source", .str "persisted_agent_control_plane"),
      ("policy_version", .str (Json.pyStrOrEmpty env.text.render
        (record.approvalPolicyJson.get? "policy_version"))),
      ("decision_hash", Json.optionText record.decisionHash),
      ("identity_verified", .bool record.identityVerified),
      ("approver_identity",
        (record.approverIdentityJson.map identityJson).getD (.obj [])),
      ("decided_at", Json.optionText
        (record.decidedAt.map env.isoFormat)),
      ("checkpoint_record_id", .str (env.uuidText record.id))]

def requestedCheckpoint (env : ControlEnvironment) (result : BenchmarkResult)
    (trace contract step : Json) (requester : SignerIdentity) (requestedAt : Time) (id : Uuid)
    (checkpointId : String) : AgentApprovalCheckpoint :=
  let policy := resolveAgentCheckpointPolicy env.text contract checkpointId
  let snapshot := checkpointRequestSnapshot env result trace step checkpointId
  { id := id
    benchmarkRunId := result.benchmarkRunId
    benchmarkResultId := result.id
    checkpointId := checkpointId
    status := .pending
    requestedBySubjectId := requester.subjectId
    requestedByIdentityJson := requester
    requestSnapshotJson := snapshot
    approvalPolicyJson := policy.toJson
    requestHash := env.hashPayload (.obj
      [("request", snapshot), ("policy", policy.toJson),
        ("requested_by", identityJson requester),
        ("requested_at", .str (env.isoFormat requestedAt))])
    expiresAt := requestedAt + policy.expiresInSeconds
    decision := none
    decisionReason := none
    decidedAt := none
    approverIdentityJson := none
    identityVerified := false
    decisionHash := none
    revokedAt := none
    revocationReason := none
    revokedByIdentityJson := none
    revocationHash := none
    resumedAt := none
    resumedByIdentityJson := none
    resumeHash := none
    transitionBenchmarkRunId := none
    transitionBenchmarkResultId := none
    version := 1 }

/-- One round of the loop of `materialize_pending_agent_checkpoints`: the
tables and the records created so far. -/
def materializeStep (env : ControlEnvironment) (result : BenchmarkResult) (trace contract : Json)
    (requester : SignerIdentity) (requestedAt : Time)
    (prog : ControlPlane × List AgentApprovalCheckpoint) (step : Json) :
    ControlPlane × List AgentApprovalCheckpoint :=
  let checkpointId := strippedMember env.text (step.objectOr "output")
    "checkpoint_id"
  if checkpointId = "" ∨ (prog.1.recordsOf result.id).any
      (fun record => record.checkpointId = checkpointId) then prog
  else
    let record := requestedCheckpoint env result trace contract step
      requester requestedAt prog.1.uuids checkpointId
    (prog.1.insertCheckpoint record rfl, prog.2 ++ [record])

def linkAfter (link : Option ControlLink) (created : List AgentApprovalCheckpoint) : ControlLink :=
  let earlier := link.getD ⟨[], [], 1⟩
  { checkpointRecordIds := (earlier.checkpointRecordIds ++
      created.map AgentApprovalCheckpoint.id).eraseDups
    requestHashes := (earlier.requestHashes ++
      created.map AgentApprovalCheckpoint.requestHash).eraseDups
    resultRevision :=
      if earlier.resultRevision = 0 then 1 else earlier.resultRevision }

def materializePendingAgentCheckpoints (env : ControlEnvironment) (state : ControlPlane)
    (result : BenchmarkResult) (trace contract : Json) (requester : SignerIdentity) (now : Time) :
    ControlPlane × List AgentApprovalCheckpoint :=
  let prog := (pendingCheckpointSteps trace).foldl
    (materializeStep env result trace contract requester now)
    (state, [])
  match prog.2 with
  | [] => prog
  | _ :: _ =>
    (prog.1.setControlLink result.id (linkAfter result.controlLink prog.2), prog.2)

def checkpointIsDue (record : AgentApprovalCheckpoint) (now : Time) : Bool :=
  (record.status = .pending || record.status = .approved) && record.expiresAt ≤ now

def markCheckpointExpired (record : AgentApprovalCheckpoint) :
    AgentApprovalCheckpoint :=
  { record with status := .expired, version := record.version + 1 }

def expireDue (now : Time) (selected : AgentApprovalCheckpoint → Bool) : CheckpointChange where
  apply record :=
    if selected record && checkpointIsDue record now then
      markCheckpointExpired record
    else record
  keepsId record := by split <;> rfl
  keepsResult record := by split <;> rfl
  keepsCheckpoint record := by split <;> rfl
  keepsPolicy record := by split <;> rfl
  keepsExpiry record := by split <;> rfl

/-- `reconcile_agent_approval_checkpoints` and the expiry of
`list_agent_approval_checkpoints`. -/
def reconcileAgentApprovalCheckpoints (state : ControlPlane) (now : Time) :
    ControlPlane :=
  state.changeCheckpoints (expireDue now (fun _ => true))

def getAgentApprovalCheckpoint (state : ControlPlane) (recordId : Uuid)
    (now : Time) : ControlPlane × Except ServiceError AgentApprovalCheckpoint :=
  match state.checkpoint? recordId with
  | none =>
    (state, .error (.domainValidation
      "agent approval checkpoint was not found"))
  | some record =>
    if checkpointIsDue record now then
      (state.changeCheckpoints (expireDue now (fun other => other.id = recordId)),
        .ok (markCheckpointExpired record))
    else (state, .ok record)

/-- Why an operation is refused, with the tables it leaves committed. -/
structure Refusal where
  state : ControlPlane
  raised : ServiceError

def cannotText : AgentCheckpointOperation → String
  | .decide => "be decided"
  | .revoke => "be revoked"
  | .resume => "resume"

def requiredStatus : AgentCheckpointOperation → CheckpointStatus
  | .decide => .pending
  | .revoke => .approved
  | .resume => .approved

/-- The checks on a locked record: `_expire_and_reject_if_due`, `_assert_expected_version`, the
status and the policy. -/
def assertOperation (env : ControlEnvironment) (state : ControlPlane)
    (record : AgentApprovalCheckpoint) (operation : AgentCheckpointOperation)
    (expectedVersion : Int) (signerIdentity : SignerIdentity) (now : Time) :
    Except Refusal AgentCheckpointPolicyEvaluation :=
  if checkpointIsDue record now then
    .error ⟨state.changeCheckpoints (expireDue now (fun other => other.id = record.id)),
      .domainValidation "agent approval checkpoint has expired"⟩
  else if record.version ≠ expectedVersion then
    .error ⟨state, .domainValidation
      ("agent approval checkpoint version conflict: expected " ++
        toString expectedVersion ++ ", current " ++ toString record.version)⟩
  else if record.status ≠ requiredStatus operation then
    .error ⟨state, .domainValidation
      ("agent approval checkpoint cannot " ++ cannotText operation ++ " from " ++
        record.status.text)⟩
  else
    match checkpointPolicyFromJson env.text record.approvalPolicyJson with
    | .error raised => .error ⟨state, raised⟩
    | .ok policy =>
      match assertAgentCheckpointOperationAllowed env.text policy
          operation signerIdentity record.requestedBySubjectId with
      | .error raised => .error ⟨state, raised⟩
      | .ok evaluation => .ok evaluation

/-- The execution of a revision: the preparation, the plan and the scoring,
which may raise.  Its result is the trace. -/
abbrev RevisionRuntime : Type :=
  BenchmarkResult → EvaluationCase → List (String × Json) → Except ServiceError Json

def revisionDecisions (env : ControlEnvironment)
    (result : BenchmarkResult) (records : List AgentApprovalCheckpoint) :
    List (String × Json) :=
  (records.filter (fun record => record.decision.isSome &&
    (record.status = .approved || record.status = .denied || record.status = .resumed))).foldl
    (fun decisions record => Json.setMember decisions record.checkpointId
      (decisionForRuntime env record))
    (approvalDecisionsFromAgentTrace env.text (result.trace.getD (.obj [])))

def nextRevision (state : ControlPlane) (result : BenchmarkResult) : Int :=
  let rootId := result.rootBenchmarkResultId.getD result.id
  let latest := ((state.results.rows.filter (fun row =>
    row.id = rootId || row.rootBenchmarkResultId = some rootId)).map
      BenchmarkResult.revisionNumber).foldl max 1
  max latest result.revisionNumber + 1

structure Revision where
  state : ControlPlane
  child : BenchmarkResult
  trace : Json
  number : Int

def revisionResult (state : ControlPlane) (result : BenchmarkResult)
    (trace : Json) : BenchmarkResult :=
  { result with
    id := state.uuids
    benchmarkRunId := state.uuids
    parentBenchmarkResultId := some result.id
    rootBenchmarkResultId := some (result.rootBenchmarkResultId.getD result.id)
    revisionNumber := nextRevision state result
    trace := some trace
    controlLink := some
      { result.controlLink.getD ⟨[], [], 1⟩ with
        resultRevision := nextRevision state result } }

def applyPersistedDecisions (env : ControlEnvironment) (runtime : RevisionRuntime)
    (state : ControlPlane) (result : BenchmarkResult) (records : List AgentApprovalCheckpoint) :
    Except ServiceError Revision :=
  match result.evaluationCase, result.deploymentConfigurationId with
  | some evalCase, some _ =>
    match runtime result evalCase (revisionDecisions env result records) with
    | .error raised => .error raised
    | .ok trace =>
      if !trace.isObject then
        .error (.domainValidation
          "agent resume did not produce an execution trace")
      else
        .ok
          { state := state.insertResult (revisionResult state result trace)
              rfl
            child := revisionResult state result trace
            trace := trace
            number := nextRevision state result }
  | _, _ =>
    .error (.domainValidation
      ("agent resume requires an evaluation case and deployment " ++
        "configuration"))

/-- The arguments of an operation on one record, with the clock it reads. -/
structure CheckpointRequest where
  checkpointRecordId : Uuid
  expectedVersion : Int
  signerIdentity : SignerIdentity
  now : Time

/-- What `decide_agent_approval_checkpoint` writes to the record. -/
def decideChange (env : ControlEnvironment) (request : CheckpointRequest)
    (decision : CheckpointDecision) (reason : String) (evaluation : AgentCheckpointPolicyEvaluation)
    (transition : Option BenchmarkResult) : CheckpointChange where
  apply record :=
    if record.id = request.checkpointRecordId then
      { record with
        status := decision.status
        decision := some decision
        decisionReason := some reason
        decidedAt := some request.now
        approverIdentityJson := some request.signerIdentity
        identityVerified := request.signerIdentity.identityVerified
        decisionHash := some (env.hashPayload (.obj
          [("checkpoint_record_id", .str (env.uuidText record.id)),
            ("checkpoint_id", .str record.checkpointId),
            ("request_hash", .str record.requestHash),
            ("decision", .str decision.text),
            ("reason", .str reason),
            ("decided_at", .str (env.isoFormat request.now)),
            ("approver_identity", identityJson request.signerIdentity),
            ("policy_evaluation", evaluation.toJson)]))
        version := record.version + 1
        transitionBenchmarkRunId :=
          (transition.map BenchmarkResult.benchmarkRunId).or record.transitionBenchmarkRunId
        transitionBenchmarkResultId :=
          (transition.map BenchmarkResult.id).or record.transitionBenchmarkResultId }
    else record
  keepsId record := by split <;> rfl
  keepsResult record := by split <;> rfl
  keepsCheckpoint record := by split <;> rfl
  keepsPolicy record := by split <;> rfl
  keepsExpiry record := by split <;> rfl

/-- `_locked_checkpoint` with the result of the record. -/
def lockedCheckpoint (state : ControlPlane) (recordId : Uuid) :
    Except ServiceError (AgentApprovalCheckpoint × BenchmarkResult) :=
  match state.checkpoint? recordId with
  | none =>
    .error (.domainValidation "agent approval checkpoint was not found")
  | some record =>
    match state.result? record.benchmarkResultId with
    | none => .error (.unexpected "benchmark result is missing")
    | some result => .ok (record, result)

def decideAgentApprovalCheckpoint (env : ControlEnvironment) (runtime : RevisionRuntime)
    (state : ControlPlane) (request : CheckpointRequest) (decision : CheckpointDecision)
    (reason : String) : ControlPlane × Except ServiceError Unit :=
  match lockedCheckpoint state request.checkpointRecordId with
  | .error raised => (state, .error raised)
  | .ok (record, result) =>
    match assertOperation env state record .decide
        request.expectedVersion request.signerIdentity request.now with
    | .error refusal => (refusal.state, .error refusal.raised)
    | .ok evaluation =>
      let decided := (decideChange env request decision reason evaluation none).apply record
      match decision with
      | .approved =>
        (state.changeCheckpoints (decideChange env request decision reason evaluation none), .ok ())
      | .denied =>
        match applyPersistedDecisions env runtime state result [decided] with
        | .error raised => (state, .error raised)
        | .ok revision =>
          (revision.state.changeCheckpoints (decideChange env
            request decision reason evaluation (some revision.child)),
            .ok ())

/-- What `revoke_agent_approval_checkpoint` writes to the record. -/
def revokeChange (env : ControlEnvironment) (request : CheckpointRequest) (reason : String)
    (evaluation : AgentCheckpointPolicyEvaluation) : CheckpointChange where
  apply record :=
    if record.id = request.checkpointRecordId then
      { record with
        status := .revoked
        revokedAt := some request.now
        revocationReason := some reason
        revokedByIdentityJson := some request.signerIdentity
        revocationHash := some (env.hashPayload (.obj
          [("checkpoint_record_id", .str (env.uuidText record.id)),
            ("decision_hash", Json.optionText record.decisionHash),
            ("reason", .str reason),
            ("revoked_at", .str (env.isoFormat request.now)),
            ("revoked_by", identityJson request.signerIdentity),
            ("policy_evaluation", evaluation.toJson)]))
        version := record.version + 1 }
    else record
  keepsId record := by split <;> rfl
  keepsResult record := by split <;> rfl
  keepsCheckpoint record := by split <;> rfl
  keepsPolicy record := by split <;> rfl
  keepsExpiry record := by split <;> rfl

def revokeAgentApprovalCheckpoint (env : ControlEnvironment)
    (state : ControlPlane) (request : CheckpointRequest) (reason : String) :
    ControlPlane × Except ServiceError Unit :=
  match lockedCheckpoint state request.checkpointRecordId with
  | .error raised => (state, .error raised)
  | .ok (record, _) =>
    match assertOperation env state record .revoke
        request.expectedVersion request.signerIdentity request.now with
    | .error refusal => (refusal.state, .error refusal.raised)
    | .ok evaluation =>
      (state.changeCheckpoints (revokeChange env request reason evaluation), .ok ())

structure AgentCheckpointResumeOutcome where
  (checkpointRecordId benchmarkRunId benchmarkResultId parentBenchmarkRunId : Uuid)
  parentBenchmarkResultId : Uuid
  resultRevision : Int
  trace : Json

def resumeOutcome (state : ControlPlane) (record : AgentApprovalCheckpoint) :
    Except ServiceError AgentCheckpointResumeOutcome :=
  match record.transitionBenchmarkRunId, record.transitionBenchmarkResultId with
  | some runId, some resultId =>
    match state.result? resultId with
    | none =>
      .error (.domainValidation
        "resumed checkpoint result revision was not found")
    | some transition =>
      match transition.trace with
      | none =>
        .error (.domainValidation
          "resumed agent result does not contain a trace")
      | some trace =>
        let revision :=
          (transition.controlLink.map ControlLink.resultRevision).getD 1
        .ok
          { checkpointRecordId := record.id
            benchmarkRunId := runId
            benchmarkResultId := resultId
            parentBenchmarkRunId := record.benchmarkRunId
            parentBenchmarkResultId := record.benchmarkResultId
            resultRevision := if revision = 0 then 1 else revision
            trace := trace }
  | _, _ =>
    .error (.domainValidation
      "resumed checkpoint is missing its result revision link")

def blocksResume (record : AgentApprovalCheckpoint) : Bool :=
  record.status = .pending || record.status = .denied ||
    record.status = .revoked || record.status = .expired

/-- What `resume_agent_approval_checkpoint` writes to every approved record of
the result. -/
def resumeChange (env : ControlEnvironment) (request : CheckpointRequest) (result : BenchmarkResult)
    (evaluation : AgentCheckpointPolicyEvaluation) (child : BenchmarkResult)
    (number : Int) : CheckpointChange where
  apply record :=
    if record.benchmarkResultId = result.id ∧ record.status = .approved then
      { record with
        status := .resumed
        resumedAt := some request.now
        resumedByIdentityJson := some request.signerIdentity
        resumeHash := some (env.hashPayload (.obj
          [("schema_version", .str "agent-resume-event-v2"),
            ("checkpoint_record_id", .str (env.uuidText record.id)),
            ("decision_hash", Json.optionText record.decisionHash),
            ("result_revision", .int number),
            ("parent_benchmark_run_id",
              .str (env.uuidText result.benchmarkRunId)),
            ("parent_benchmark_result_id",
              .str (env.uuidText result.id)),
            ("benchmark_run_id",
              .str (env.uuidText child.benchmarkRunId)),
            ("benchmark_result_id", .str (env.uuidText child.id)),
            ("resumed_at", .str (env.isoFormat request.now)),
            ("resumed_by", identityJson request.signerIdentity),
            ("policy_evaluation", evaluation.toJson)]))
        transitionBenchmarkRunId := some child.benchmarkRunId
        transitionBenchmarkResultId := some child.id
        version := record.version + 1 }
    else record
  keepsId record := by split <;> rfl
  keepsResult record := by split <;> rfl
  keepsCheckpoint record := by split <;> rfl
  keepsPolicy record := by split <;> rfl
  keepsExpiry record := by split <;> rfl

def resumedState (env : ControlEnvironment) (request : CheckpointRequest)
    (record : AgentApprovalCheckpoint) (result : BenchmarkResult)
    (evaluation : AgentCheckpointPolicyEvaluation) (revision : Revision) : ControlPlane :=
  (materializePendingAgentCheckpoints env
    (revision.state.changeCheckpoints (resumeChange env request result
      evaluation revision.child revision.number))
    revision.child revision.trace
    ((result.evaluationCase.map EvaluationCase.contract).getD (.obj []))
    (identityFromJson record.requestedByIdentityJson) request.now).1

def resumeAgentApprovalCheckpoint (env : ControlEnvironment) (runtime : RevisionRuntime)
    (state : ControlPlane) (request : CheckpointRequest) :
    ControlPlane × Except ServiceError AgentCheckpointResumeOutcome :=
  match lockedCheckpoint state request.checkpointRecordId with
  | .error raised => (state, .error raised)
  | .ok (record, result) =>
    if record.status = .resumed then (state, resumeOutcome state record)
    else
      match assertOperation env state record .resume
          request.expectedVersion request.signerIdentity request.now with
      | .error refusal => (refusal.state, .error refusal.raised)
      | .ok evaluation =>
        match (state.recordsOf result.id).find? blocksResume with
        | some blocking =>
          (state, .error (.domainValidation
            ("checkpoint " ++ blocking.checkpointId ++ " is " ++
              blocking.status.text ++ " and blocks resume")))
        | none =>
          match applyPersistedDecisions env runtime state result (state.recordsOf result.id) with
          | .error raised => (state, .error raised)
          | .ok revision =>
            (resumedState env request record result evaluation revision, .ok
                { checkpointRecordId := record.id
                  benchmarkRunId := revision.child.benchmarkRunId
                  benchmarkResultId := revision.child.id
                  parentBenchmarkRunId := result.benchmarkRunId
                  parentBenchmarkResultId := result.id
                  resultRevision := revision.number
                  trace := revision.trace })

end ModelAtlas.Approval
