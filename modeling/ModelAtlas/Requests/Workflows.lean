import ModelAtlas.Requests.SingleExecution

/-!
# Request workflows

`services/request_workflows.py`. Each function locks the row of its attempt, and
`finish` the row of the request too, so each is one step beside the steps of the
request.
-/

namespace ModelAtlas.Requests

open Foundations

/-! ## Events of a request -/

inductive RequestEventKind where
  | draftSaved
  | confirmed
  | revoked
  | proposalChecked
  | executionClaimed
  | simulatedExecution
  deriving DecidableEq

/-- An entry of `events_json`; the last three are the details of a check. -/
structure RequestEvent where
  kind : RequestEventKind
  time : Time
  revision : Nat
  contractHash : String
  actor : SignerIdentity
  checkId : Option Uuid
  (allowed successful : Option Bool)

/-- `event` without details. -/
def recordEvent (record : StructuredRequest) (kind : RequestEventKind)
    (actor : SignerIdentity) (now : Time) : RequestEvent where
  kind := kind
  time := now
  revision := record.revision
  contractHash := record.contractHash
  actor := actor
  checkId := none
  allowed := none
  successful := none

/-- `trace["successful"]`: the only step succeeded. -/
def TicketExecution.successful (exec : TicketExecution) : Bool :=
  exec.step.executionStatus = "success"

/-- The event of the request `requestId`, as the tables have it now. -/
def eventsOf (store : RequestStore) (requestId : Uuid)
    (events : StructuredRequest → List RequestEvent) :
    List (Uuid × RequestEvent) :=
  ((store.requests.find? requestId).map (fun record =>
    (events record).map (fun event => (record.id, event)))).getD []

def checkEvents (store : RequestStore) (requestId checkId : Uuid)
    (actor : SignerIdentity) (now : Time) : List (Uuid × RequestEvent) :=
  eventsOf store requestId (fun record =>
    [{ recordEvent record .proposalChecked actor now with
      checkId := some checkId
      allowed := (store.checks.find? checkId).map StructuredRequestCheck.allowed }])

def executionEvents (before store : RequestStore) (requestId checkId : Uuid)
    (actor : SignerIdentity) (now : Time) : List (Uuid × RequestEvent) :=
  if (before.checks.find? checkId).any (fun check => check.execution.isSome) then
    []
  else
    eventsOf store requestId (fun record =>
      [{ recordEvent record .executionClaimed actor now with checkId := some checkId },
        { recordEvent record .simulatedExecution actor now with
          checkId := some checkId
          successful := ((store.checks.find? checkId).bind StructuredRequestCheck.execution).map
              TicketExecution.successful }])

def callEvents (sys : RequestSystem) (call : RequestCall)
    (store : RequestStore) : List (Uuid × RequestEvent) :=
  let plain := fun requestId kind => eventsOf store requestId (fun record =>
    [recordEvent record kind call.actor call.now])
  match call.step with
  | .create _ => plain sys.store.uuids .draftSaved
  | .save requestId _ _ => plain requestId .draftSaved
  | .confirm requestId _ => plain requestId .confirmed
  | .revoke requestId _ => plain requestId .revoked
  | .addCheck requestId _ _ =>
    checkEvents store requestId sys.store.uuids call.actor call.now
  | .generate _ _ _ => []
  | .generated generation _ =>
    match sys.generating generation with
    | some (actor, requestId, _) =>
      checkEvents store requestId sys.store.uuids actor call.now
    | none => []
  | .execute requestId checkId =>
    executionEvents sys.store store requestId checkId call.actor call.now

def withEvents (events : Uuid → List RequestEvent)
    (added : List (Uuid × RequestEvent)) : Uuid → List RequestEvent :=
  fun requestId => events requestId ++
    (added.filter (fun event => event.1 = requestId)).map Prod.snd

/-- `snapshot`: the request with all its checks, newest first. -/
structure RequestSnapshot where
  id : Uuid
  revision : Nat
  status : RequestStatus
  draft : StructuredTicketInput
  contractHash : String
  confirmation : Option Confirmation
  expiresAt : Option Time
  executedCheckId : Option Uuid
  events : List RequestEvent
  checks : List StructuredRequestCheck

def snapshotOf (store : RequestStore) (events : Uuid → List RequestEvent)
    (record : StructuredRequest) : RequestSnapshot where
  id := record.id
  revision := record.revision
  status := record.status
  draft := record.draft
  contractHash := record.contractHash
  confirmation := record.confirmation
  expiresAt := record.expiresAt
  executedCheckId := record.executedCheckId
  events := events record.id
  checks := (store.checks.rows.filter (fun check =>
    check.requestId = record.id)).reverse

inductive WorkflowDecision where
  | execute
  | clarify
  deriving DecidableEq

/-- `scenario_json["expected"]`. -/
structure ExpectedOutcome where
  decision : WorkflowDecision
  query : Option String
  priority : PriorityChoice

structure WorkflowScenario where
  (taskId request packVersion packHash : String)
  expected : ExpectedOutcome

inductive WorkflowSource where
  | automatedQa
  | participantSelfReport
  deriving DecidableEq

inductive WorkflowDisposition where
  | finished
  | clarificationRequested
  | abandoned
  deriving DecidableEq

inductive WorkflowAssistance where
  | noneReported
  | received
  | notReported
  | notApplicable
  deriving DecidableEq

/-- `FinishWorkflow`, after its validation. -/
structure FinishWorkflow where
  expectedRevision : Nat
  requestStateHash : Option String
  disposition : WorkflowDisposition
  assistance : WorkflowAssistance
  difficulty : Option Nat
  note : String

inductive WorkflowVerdict where
  | abandoned
  | matchesTask
  | doesNotMatchTask
  deriving DecidableEq

structure WorkflowMetrics where
  elapsedSeconds : Int
  (savedRevisionCountAfterFirst helpRequestCount proposalCount modelProposalCount : Nat)
  (manualProposalCount blockedProposalCount executionCount : Nat)

structure WorkflowAssessment where
  disposition : WorkflowDisposition
  assessment : WorkflowVerdict
  mismatches : List String
  expected : ExpectedOutcome
  assistance : WorkflowAssistance
  difficulty : Option Nat
  note : String
  metrics : WorkflowMetrics
  unsafeExecutionIds : List Uuid
  requestSnapshot : Option RequestSnapshot
  source : WorkflowSource

structure WorkflowEvidence extends WorkflowAssessment where
  attemptId : Uuid
  ownerKey : String
  actor : SignerIdentity
  (taskId packHash : String)
  (startedAt endedAt : Time)
  helpEvents : List Time

structure WorkflowResult extends WorkflowEvidence where
  evidenceHash : String

structure WorkflowAttempt where
  id : Uuid
  ownerKey : String
  source : WorkflowSource
  scenario : WorkflowScenario
  actor : SignerIdentity
  requestId : Option Uuid
  (revision helpCount : Nat)
  helpEvents : List Time
  startedAt : Time
  endedAt : Option Time
  result : Option WorkflowResult
  submissionHash : Option String

/-- The catalog of the tasks and the digests of what `finish` hashes. -/
structure WorkflowEnvironment extends RequestEnvironment ContractContent where
  scenarioOf : String → Option WorkflowScenario
  stateDigest : RequestSnapshot → String
  submissionDigest : FinishWorkflow → String
  evidenceDigest : WorkflowEvidence → String

structure AttemptTable where
  find? : Uuid → Option WorkflowAttempt
  uuids : Uuid
  drawn : ∀ attemptId, (find? attemptId).isSome = true → attemptId < uuids

namespace AttemptTable

def empty : AttemptTable where
  find? _ := none
  uuids := 0
  drawn _ present := absurd present Bool.false_ne_true

def insert (attempts : AttemptTable) (row : WorkflowAttempt) : AttemptTable where
  find? := Function.update attempts.find? attempts.uuids (some row)
  uuids := attempts.uuids + 1
  drawn attemptId present := by
    by_cases isNew : attemptId = attempts.uuids
    · rw [isNew]
      exact Nat.lt_succ_self _
    · rw [Function.update_of_ne isNew] at present
      exact Nat.lt_succ_of_lt (attempts.drawn attemptId present)

def write (attempts : AttemptTable) (row : WorkflowAttempt) : AttemptTable where
  find? := Function.update attempts.find? row.id ((attempts.find? row.id).map (fun _ => row))
  uuids := attempts.uuids
  drawn attemptId present := by
    by_cases isRow : attemptId = row.id
    · rw [isRow, Function.update_self, Option.isSome_map] at present
      rw [isRow]
      exact attempts.drawn row.id present
    · rw [Function.update_of_ne isRow] at present
      exact attempts.drawn attemptId present

end AttemptTable

structure WorkflowSystem where
  requests : RequestSystem
  events : Uuid → List RequestEvent
  attempts : AttemptTable

def expectedArguments (expected : ExpectedOutcome) : Json :=
  .obj (("query", Json.optionText expected.query) ::
    match expected.priority with
    | .set value => [("priority", .str value.text)]
    | _ => [])

def usesExpectedArguments (expected : ExpectedOutcome) (exec : TicketExecution) : Bool :=
  Agent.pyEq exec.step.arguments (expectedArguments expected)

section Assessment

variable (row : WorkflowAttempt) (payload : FinishWorkflow)
  (request : Option RequestSnapshot)

def assessedChecks : List StructuredRequestCheck :=
  (request.map RequestSnapshot.checks).getD []

def executedChecks : List StructuredRequestCheck :=
  (assessedChecks request).filter (fun check => check.execution.isSome)

def currentExecuted : Option StructuredRequestCheck :=
  request.bind (fun snapshot => (executedChecks request).find? (fun check =>
    snapshot.executedCheckId = some check.id))

def currentSucceeded : Bool :=
  ((currentExecuted request).bind StructuredRequestCheck.execution).any TicketExecution.successful

def isUnsafe (expected : ExpectedOutcome) (check : StructuredRequestCheck) :
    Bool :=
  expected.decision ≠ .execute || !check.execution.all (usesExpectedArguments expected)

def unsafeExecutionIds (expected : ExpectedOutcome) : List Uuid :=
  ((executedChecks request).filter (isUnsafe expected)).map StructuredRequestCheck.id

def workflowMismatches : List String :=
  let expected := row.scenario.expected
  let draft := request.map RequestSnapshot.draft
  (if draft.any (fun draft =>
      draft.originalRequest ≠ row.scenario.request) then
    ["original_request"] else []) ++
  (match expected.decision with
  | .execute =>
    (if draft.all (fun draft => some draft.query ≠ expected.query) then
      ["query"] else []) ++
    (if draft.all (fun draft => draft.priority ≠ expected.priority) then
      ["priority"] else []) ++
    (if payload.disposition ≠ .finished then ["decision"] else []) ++
    (if currentSucceeded request = false then
      ["successful_current_execution"] else [])
  | .clarify =>
    if payload.disposition ≠ .clarificationRequested ∨ executedChecks request ≠ [] then
      ["clarification_without_execution"] else []) ++
  (if unsafeExecutionIds request expected ≠ [] then
    ["execution_arguments"] else [])

def workflowMetrics (endedAt : Time) : WorkflowMetrics :=
  let checks := assessedChecks request
  let saves := ((request.map RequestSnapshot.events).getD []).countP
    (fun event => event.kind = .draftSaved)
  { elapsedSeconds := max 0 (endedAt - row.startedAt)
    savedRevisionCountAfterFirst := saves - 1
    helpRequestCount := row.helpCount
    proposalCount := checks.length
    modelProposalCount :=
      checks.countP (fun check => check.source = "local_model_proposal")
    manualProposalCount :=
      checks.countP (fun check => check.source = "manual_proposal")
    blockedProposalCount := checks.countP (fun check => !check.allowed)
    executionCount := (executedChecks request).length }

def assess (endedAt : Time) : WorkflowAssessment :=
  let mismatches := workflowMismatches row payload request
  { disposition := payload.disposition
    assessment :=
      if payload.disposition = .abandoned then .abandoned
      else if mismatches = [] then .matchesTask
      else .doesNotMatchTask
    mismatches := mismatches
    expected := row.scenario.expected
    assistance := payload.assistance
    difficulty := payload.difficulty
    note := payload.note
    metrics := workflowMetrics row request endedAt
    unsafeExecutionIds := unsafeExecutionIds request row.scenario.expected
    requestSnapshot := request
    source := row.source }

end Assessment

section Operations

variable (env : WorkflowEnvironment) (sys : WorkflowSystem)
  (actor : SignerIdentity)

def owned (attemptId : Uuid) : Except RequestError WorkflowAttempt :=
  match sys.attempts.find? attemptId with
  | none => .error ⟨404, "workflow_not_found"⟩
  | some row =>
    if row.ownerKey = env.ownerKey actor then .ok row
    else .error ⟨404, "workflow_not_found"⟩

def openRow (attemptId : Uuid) (expectedRevision : Nat) : Except RequestError WorkflowAttempt :=
  match owned env sys actor attemptId with
  | .error raised => .error raised
  | .ok row =>
    if row.endedAt.isSome then .error ⟨409, "workflow_already_ended"⟩
    else if row.revision ≠ expectedRevision then
      .error ⟨409, "stale_workflow_revision"⟩
    else .ok row

def snapshot (row : WorkflowAttempt) : Except RequestError (Option RequestSnapshot) :=
  match row.requestId with
  | none => .ok none
  | some requestId =>
    match getOwned env.toRequestEnvironment sys.requests.store actor requestId with
    | .error raised => .error raised
    | .ok record =>
      .ok (some (snapshotOf sys.requests.store sys.events record))

def start (taskId : String) (source : WorkflowSource) (now : Time) :
    Except RequestError WorkflowAttempt :=
  match env.scenarioOf taskId with
  | none => .error ⟨404, "workflow_task_not_found"⟩
  | some scenario => .ok
      { id := sys.attempts.uuids
        ownerKey := env.ownerKey actor
        source := source
        scenario := scenario
        actor := actor
        requestId := none
        revision := 0
        helpCount := 0
        helpEvents := []
        startedAt := now
        endedAt := none
        result := none
        submissionHash := none }

/-- `create_draft`: the row with its request, and the tables of the
requests. -/
def createLinkedDraft (tool : Except RequestError String) (attemptId : Uuid)
    (expectedRevision : Nat) (draft : StructuredTicketInput) :
    Except RequestError (WorkflowAttempt × RequestStore) :=
  match openRow env sys actor attemptId expectedRevision with
  | .error raised => .error raised
  | .ok row =>
    if row.requestId.isSome then
      .error ⟨409, "workflow_request_already_linked"⟩
    else if draft.originalRequest ≠ row.scenario.request then
      .error ⟨422, "workflow_original_request_changed"⟩
    else
      match createDraft env.toRequestEnvironment sys.requests.store actor tool draft with
      | .error raised => .error raised
      | .ok store => .ok ({ row with
              requestId := some sys.requests.store.uuids
              revision := row.revision + 1 }, store)

def recordHelp (attemptId : Uuid) (expectedRevision : Nat) (now : Time) :
    Except RequestError WorkflowAttempt :=
  match openRow env sys actor attemptId expectedRevision with
  | .error raised => .error raised
  | .ok row =>
    if row.helpCount ≥ 100 then .error ⟨409, "workflow_help_limit"⟩
    else .ok
      { row with
        helpCount := row.helpCount + 1
        helpEvents := row.helpEvents ++ [now]
        revision := row.revision + 1 }

def endedRow (row : WorkflowAttempt) (payload : FinishWorkflow)
    (request : Option RequestSnapshot) (endedAt : Time) : WorkflowAttempt :=
  let evidence : WorkflowEvidence :=
    { assess row payload request endedAt with
      attemptId := row.id
      ownerKey := row.ownerKey
      actor := row.actor
      taskId := row.scenario.taskId
      packHash := row.scenario.packHash
      startedAt := row.startedAt
      endedAt := endedAt
      helpEvents := row.helpEvents }
  { row with
    endedAt := some endedAt
    result := some
      { evidence with evidenceHash := env.evidenceDigest evidence }
    submissionHash := some (env.submissionDigest payload)
    revision := row.revision + 1 }

/-- `finish`: the row, and whether it is replayed. -/
def finish (attemptId : Uuid) (payload : FinishWorkflow) (now : Time) :
    Except RequestError (WorkflowAttempt × Bool) :=
  match owned env sys actor attemptId with
  | .error raised => .error raised
  | .ok row =>
    if row.endedAt.isSome then
      if row.submissionHash ≠ some (env.submissionDigest payload) then
        .error ⟨409, "workflow_already_ended"⟩
      else .ok (row, true)
    else if row.revision ≠ payload.expectedRevision then
      .error ⟨409, "stale_workflow_revision"⟩
    else if ¬ (row.source = .automatedQa ↔ payload.assistance = .notApplicable) then
      .error ⟨422, "workflow_assistance_source_mismatch"⟩
    else if row.helpCount ≠ 0 ∧ payload.assistance = .noneReported then
      .error ⟨422, "workflow_help_already_reported"⟩
    else
      match snapshot env sys actor row with
      | .error raised => .error raised
      | .ok request =>
        if request.map env.stateDigest ≠ payload.requestStateHash then
          .error ⟨409, "stale_workflow_request_state"⟩
        else if payload.disposition = .finished ∧ (assessedChecks request).isEmpty then
          .error ⟨422, "workflow_proposal_check_required"⟩
        else .ok (endedRow env row payload request now, false)

end Operations

inductive WorkflowStep where
  | start (taskId : String) (source : WorkflowSource)
  | createDraft (attemptId : Uuid) (expectedRevision : Nat)
      (draft : StructuredTicketInput)
  | recordHelp (attemptId : Uuid) (expectedRevision : Nat)
  | finish (attemptId : Uuid) (payload : FinishWorkflow)
  | request (step : RequestStep)

structure WorkflowCall where
  step : WorkflowStep
  actor : SignerIdentity
  tool : Except RequestError String
  now : Time

namespace WorkflowSystem

def initial (clock : Time) : WorkflowSystem where
  requests := .initial clock
  events _ := []
  attempts := .empty

def requestCall (call : WorkflowCall) (step : RequestStep) : RequestCall :=
  ⟨step, call.actor, call.tool, call.now⟩

def writeRow (sys : WorkflowSystem) (row : WorkflowAttempt) :
    WorkflowSystem :=
  { sys with attempts := sys.attempts.write row }

def withRequests (sys : WorkflowSystem) (call : RequestCall)
    (store : RequestStore) : WorkflowSystem :=
  { sys with
    requests := { sys.requests with store := store }
    events := withEvents sys.events (callEvents sys.requests call store) }

def outcome (env : WorkflowEnvironment) (sys : WorkflowSystem)
    (call : WorkflowCall) : Except RequestError WorkflowSystem :=
  match call.step with
  | .start taskId source =>
    (start env sys call.actor taskId source call.now).map
      (fun row => { sys with attempts := sys.attempts.insert row })
  | .createDraft attemptId expectedRevision draft =>
    (createLinkedDraft env sys call.actor call.tool attemptId expectedRevision draft).map
      (fun linked => (sys.writeRow linked.1).withRequests
        (requestCall call (.create draft)) linked.2)
  | .recordHelp attemptId expectedRevision =>
    (recordHelp env sys call.actor attemptId expectedRevision call.now).map sys.writeRow
  | .finish attemptId payload =>
    (finish env sys call.actor attemptId payload call.now).map
      (fun ended => if ended.2 then sys else sys.writeRow ended.1)
  | .request step =>
    (sys.requests.outcome env.toRequestEnvironment (requestCall call step)).map
      (sys.withRequests (requestCall call step))

def next (env : WorkflowEnvironment) (sys : WorkflowSystem)
    (call : WorkflowCall) : Option WorkflowSystem :=
  if call.now < sys.requests.clock then none
  else
    let after : WorkflowSystem :=
      match sys.outcome env call with
      | .ok after => after
      | .error _ => sys
    let generating := match call.step with
      | .request step => sys.requests.generatingAfter
          env.toRequestEnvironment (requestCall call step)
      | _ => sys.requests.generating
    some { after with requests := ⟨after.requests.store, call.now, generating⟩ }

end WorkflowSystem

end ModelAtlas.Requests
