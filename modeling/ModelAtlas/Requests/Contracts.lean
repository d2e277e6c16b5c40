import ModelAtlas.Foundations.Execution
import ModelAtlas.Foundations.Table
import ModelAtlas.Requests.Tickets

/-!
# Structured requests

`services/structured_requests.py`. Each function locks the row of its request
and is one step; `generate` lets go of the row while the model answers. The
events of a request are left out.
-/

namespace ModelAtlas.Requests

open Foundations

structure RequestError where
  status : Nat
  detail : String
  deriving DecidableEq, Repr

inductive RequestStatus where
  | draft
  | confirmed
  | revoked
  deriving DecidableEq, Repr

structure Confirmation where
  contractHash : String
  revision : Nat
  authority : String
  deriving DecidableEq, Repr

structure StructuredRequest where
  id : Uuid
  ownerKey : String
  revision : Nat
  status : RequestStatus
  draft : StructuredTicketInput
  (contractHash toolContractHash : String)
  confirmation : Option Confirmation
  expiresAt : Option Time
  executedCheckId : Option Uuid

instance : Keyed StructuredRequest Uuid where
  key := StructuredRequest.id

structure TicketExecution where
  executedAt : Time
  actor : SignerIdentity
  step : TicketStep

structure StructuredRequestCheck where
  (id requestId : Uuid)
  revision : Nat
  (contractHash proposal proposalHash source : String)
  allowed : Bool
  execution : Option TicketExecution

instance : Keyed StructuredRequestCheck Uuid where
  key := StructuredRequestCheck.id

structure ContractContent where
  id : Uuid
  owner : String
  revision : Nat
  draft : StructuredTicketInput
  toolContractHash : String

/-- The tables, with the source of new ids. -/
structure RequestStore where
  requests : Table StructuredRequest
  checks : Table StructuredRequestCheck
  uuids : Uuid
  requestsDrawn : ∀ record ∈ requests, record.id < uuids
  checksDrawn : ∀ check ∈ checks, check.id < uuids

namespace RequestStore

def empty : RequestStore where
  requests := ∅
  checks := ∅
  uuids := 0
  requestsDrawn record mem := absurd mem (Table.not_mem_empty record)
  checksDrawn check mem := absurd mem (Table.not_mem_empty check)

def insertRequest (store : RequestStore) (record : StructuredRequest)
    (drawn : record.id = store.uuids) : RequestStore where
  requests := store.requests.insert record (fun other mem => by
    have older := store.requestsDrawn other mem
    rw [← drawn] at older
    exact Nat.ne_of_lt older)
  checks := store.checks
  uuids := store.uuids + 1
  requestsDrawn other mem := by
    rcases Table.mem_insert.mp mem with old | rfl
    · exact Nat.lt_succ_of_lt (store.requestsDrawn other old)
    · rw [drawn]
      exact Nat.lt_succ_self _
  checksDrawn check mem := Nat.lt_succ_of_lt (store.checksDrawn check mem)

def insertCheck (store : RequestStore) (check : StructuredRequestCheck)
    (drawn : check.id = store.uuids) : RequestStore where
  requests := store.requests
  checks := store.checks.insert check (fun other mem => by
    have older := store.checksDrawn other mem
    rw [← drawn] at older
    exact Nat.ne_of_lt older)
  uuids := store.uuids + 1
  requestsDrawn record mem :=
    Nat.lt_succ_of_lt (store.requestsDrawn record mem)
  checksDrawn other mem := by
    rcases Table.mem_insert.mp mem with old | rfl
    · exact Nat.lt_succ_of_lt (store.checksDrawn other old)
    · rw [drawn]
      exact Nat.lt_succ_self _

def modifyRequest (store : RequestStore) (requestId : Uuid)
    (change : StructuredRequest → StructuredRequest)
    (keeps : ∀ record, (change record).id = record.id) : RequestStore where
  requests := store.requests.modify requestId change keeps
  checks := store.checks
  uuids := store.uuids
  requestsDrawn record mem := by
    rcases Table.mem_modify.mp mem with ⟨old, oldMem, _, rfl⟩ | ⟨old, _⟩
    · rw [keeps]
      exact store.requestsDrawn old oldMem
    · exact store.requestsDrawn record old
  checksDrawn := store.checksDrawn

def recordExecution (store : RequestStore) (checkId : Uuid)
    (exec : TicketExecution) : RequestStore where
  requests := store.requests
  checks := store.checks.modify checkId
    (fun check => { check with execution := some exec }) (fun _ => rfl)
  uuids := store.uuids
  requestsDrawn := store.requestsDrawn
  checksDrawn check mem := by
    rcases Table.mem_modify.mp mem with ⟨old, oldMem, _, rfl⟩ | ⟨old, _⟩
    · exact store.checksDrawn old oldMem
    · exact store.checksDrawn check old

theorem mem_insertRequest {store : RequestStore}
    {record other : StructuredRequest} {drawn : record.id = store.uuids} :
    other ∈ (store.insertRequest record drawn).requests ↔
      other ∈ store.requests ∨ other = record := by
  rw [insertRequest, Table.mem_insert]

theorem mem_insertCheck {store : RequestStore}
    {check other : StructuredRequestCheck} {drawn : check.id = store.uuids} :
    other ∈ (store.insertCheck check drawn).checks ↔ other ∈ store.checks ∨ other = check := by
  rw [insertCheck, Table.mem_insert]

theorem mem_modifyRequest {store : RequestStore} {requestId : Uuid}
    {change : StructuredRequest → StructuredRequest}
    {keeps : ∀ record, (change record).id = record.id} {record : StructuredRequest} :
    record ∈ (store.modifyRequest requestId change keeps).requests ↔
      (∃ old ∈ store.requests, old.id = requestId ∧ change old = record) ∨
        (record ∈ store.requests ∧ record.id ≠ requestId) := by
  rw [modifyRequest, Table.mem_modify]
  exact Iff.rfl

theorem mem_recordExecution {store : RequestStore} {checkId : Uuid}
    {exec : TicketExecution} {check : StructuredRequestCheck} :
    check ∈ (store.recordExecution checkId exec).checks ↔ (∃ old ∈ store.checks, old.id = checkId ∧
        { old with execution := some exec } = check) ∨
      (check ∈ store.checks ∧ check.id ≠ checkId) := by
  rw [recordExecution, Table.mem_modify]
  exact Iff.rfl

end RequestStore

section Operations

variable (env : RequestEnvironment ContractContent)
  (store : RequestStore) (actor : SignerIdentity)

def contractHash (record : StructuredRequest) : String :=
  env.contractDigest
    { id := record.id
      owner := record.ownerKey
      revision := record.revision
      draft := record.draft
      toolContractHash := record.toolContractHash }

def getOwned (requestId : Uuid) : Except RequestError StructuredRequest :=
  match store.requests.find? requestId with
  | none => .error ⟨404, "request_contract_not_found"⟩
  | some record =>
    if record.ownerKey = env.ownerKey actor then .ok record
    else .error ⟨404, "request_contract_not_found"⟩

structure ContractBinding where
  expectedRevision : Nat
  expectedHash : String
  deriving DecidableEq, Repr

/-- `check_binding`: nothing where the binding holds. -/
def bindingError (record : StructuredRequest) (binding : ContractBinding) : Option RequestError :=
  if record.revision ≠ binding.expectedRevision ∨ record.contractHash ≠ binding.expectedHash then
    some ⟨409, "stale_request_contract"⟩
  else if contractHash env record ≠ record.contractHash then
    some ⟨409, "request_contract_integrity_failed"⟩
  else none

/-- `get_owned` and `check_binding`. -/
def boundRequest (requestId : Uuid) (binding : ContractBinding) :
    Except RequestError StructuredRequest :=
  match getOwned env store actor requestId with
  | .error raised => .error raised
  | .ok record =>
    match bindingError env record binding with
    | some raised => .error raised
    | none => .ok record

/-- A draft is written into a record: the confirmation, the expiry and the
execution of the revision before are reset. -/
def draftedRecord (record : StructuredRequest) (draft : StructuredTicketInput)
    (toolHash : String) : StructuredRequest :=
  let drafted : StructuredRequest :=
    { record with
      draft := draft
      toolContractHash := toolHash
      status := .draft
      confirmation := none
      expiresAt := none
      executedCheckId := none }
  { drafted with contractHash := contractHash env drafted }

/-- `save_draft` of a new request. -/
def createDraft (tool : Except RequestError String)
    (draft : StructuredTicketInput) : Except RequestError RequestStore :=
  match tool with
  | .error raised => .error raised
  | .ok toolHash => .ok (store.insertRequest (draftedRecord env
        { id := store.uuids
          ownerKey := env.ownerKey actor
          revision := 1
          status := .draft
          draft := draft
          contractHash := ""
          toolContractHash := toolHash
          confirmation := none
          expiresAt := none
          executedCheckId := none } draft toolHash) rfl)

def savedRecord (draft : StructuredTicketInput) (toolHash : String)
    (record : StructuredRequest) : StructuredRequest :=
  draftedRecord env { record with revision := record.revision + 1 } draft toolHash

def saveDraft (tool : Except RequestError String) (requestId : Uuid)
    (binding : ContractBinding) (draft : StructuredTicketInput) :
    Except RequestError RequestStore :=
  match tool with
  | .error raised => .error raised
  | .ok toolHash =>
    match boundRequest env store actor requestId binding with
    | .error raised => .error raised
    | .ok _ => .ok (store.modifyRequest requestId (savedRecord env draft toolHash) (fun _ => rfl))

/-- `CONFIRMATION_TTL`, in seconds. -/
def confirmationTtl : Time := 900

def confirmedRecord (now : Time) (record : StructuredRequest) :
    StructuredRequest :=
  { record with
    status := .confirmed
    expiresAt := some (now + confirmationTtl)
    confirmation := some
      { contractHash := record.contractHash
        revision := record.revision
        authority :=
          if actor.identityVerified then "authenticated_operator_assertion"
          else "local_unverified_assertion" } }

def confirm (tool : Except RequestError String) (requestId : Uuid)
    (binding : ContractBinding) (now : Time) :
    Except RequestError RequestStore :=
  match boundRequest env store actor requestId binding with
  | .error raised => .error raised
  | .ok record =>
    match tool with
    | .error raised => .error raised
    | .ok toolHash =>
      if toolHash ≠ record.toolContractHash then
        .error ⟨409, "local_tool_contract_changed"⟩
      else if record.status ≠ .draft then
        .error ⟨409, "only_drafts_can_be_confirmed"⟩
      else if record.draft.priority = .unresolved then
        .error ⟨422, "priority_unresolved"⟩
      else .ok (store.modifyRequest requestId (confirmedRecord actor now) (fun _ => rfl))

def revokedRecord (record : StructuredRequest) : StructuredRequest :=
  { record with status := .revoked, confirmation := none }

def revoke (requestId : Uuid) (binding : ContractBinding) : Except RequestError RequestStore :=
  match boundRequest env store actor requestId binding with
  | .error raised => .error raised
  | .ok _ => .ok (store.modifyRequest requestId revokedRecord (fun _ => rfl))

def isConfirmed (record : StructuredRequest) : Bool :=
  record.status = .confirmed && record.confirmation.any (fun confirmation =>
      confirmation.contractHash = record.contractHash && confirmation.revision = record.revision)

/-- `record.expires_at is None or record.expires_at <= utcnow()`. -/
def isExpired (record : StructuredRequest) (now : Time) : Bool :=
  record.expiresAt.all (fun expiresAt => expiresAt ≤ now)

/-- The reasons of `verdict_for`. -/
def verdictReasons (record : StructuredRequest) (proposal toolHash : String)
    (now : Time) : List String :=
  ticketReasons env record.draft proposal ++
  (if !isConfirmed record then ["request_not_confirmed"] else []) ++
  (if isExpired record now then ["confirmation_expired"] else []) ++
  (if record.executedCheckId.isSome then ["contract_already_executed"]
    else []) ++
  (if contractHash env record ≠ record.contractHash ∨ record.toolContractHash ≠ toolHash then
    ["contract_integrity_failed"] else [])

def newCheck (record : StructuredRequest) (proposal source toolHash : String)
    (now : Time) : StructuredRequestCheck where
  id := store.uuids
  requestId := record.id
  revision := record.revision
  contractHash := record.contractHash
  proposal := proposal
  proposalHash := env.sha256 proposal
  source := source
  allowed := (verdictReasons env record proposal toolHash now).isEmpty
  execution := none

def addCheck (tool : Except RequestError String) (requestId : Uuid)
    (binding : ContractBinding) (proposal source : String) (now : Time) :
    Except RequestError RequestStore :=
  match boundRequest env store actor requestId binding with
  | .error raised => .error raised
  | .ok record =>
    match tool with
    | .error raised => .error raised
    | .ok toolHash => .ok (store.insertCheck
        (newCheck env store record proposal source toolHash now) rfl)

/-- What `generate` asks before the model answers. -/
def generateError (tool : Except RequestError String) (requestId : Uuid)
    (binding : ContractBinding) (now : Time) : Option RequestError :=
  match boundRequest env store actor requestId binding with
  | .error raised => some raised
  | .ok record =>
    match tool with
    | .error raised => some raised
    | .ok toolHash =>
      if record.status ≠ .confirmed ∨ isExpired record now ∨ record.executedCheckId.isSome then
        some ⟨409, "confirmed_unused_request_required"⟩
      else if record.toolContractHash ≠ toolHash then
        some ⟨409, "local_tool_contract_changed"⟩
      else none

def execute (tool : Except RequestError String) (requestId checkId : Uuid)
    (now : Time) : Except RequestError RequestStore :=
  match getOwned env store actor requestId with
  | .error raised => .error raised
  | .ok record =>
    match store.checks.find? checkId with
    | none => .error ⟨404, "proposal_check_not_found"⟩
    | some check =>
      if check.requestId ≠ record.id then
        .error ⟨404, "proposal_check_not_found"⟩
      else if check.execution.isSome then .ok store
      else if check.revision ≠ record.revision ∨ check.contractHash ≠ record.contractHash then
        .error ⟨409, "stale_proposal_check"⟩
      else if env.sha256 check.proposal ≠ check.proposalHash then
        .error ⟨409, "proposal_integrity_failed"⟩
      else
        match tool with
        | .error raised => .error raised
        | .ok toolHash =>
          match verdictReasons env record check.proposal toolHash now, (compileBoundedToolCall env
              check.proposal).normalizedOutput with
          | [], some call => .ok ((store.modifyRequest requestId
              (fun record => { record with executedCheckId := some check.id })
              (fun _ => rfl)).recordExecution checkId
                { executedAt := now
                  actor := actor
                  step := executeTicket env (toString record.id) call })
          | _, _ => .error ⟨409, "execution_blocked"⟩

end Operations

inductive RequestStep where
  | create (draft : StructuredTicketInput)
  | save (requestId : Uuid) (binding : ContractBinding)
      (draft : StructuredTicketInput)
  | confirm (requestId : Uuid) (binding : ContractBinding)
  | revoke (requestId : Uuid) (binding : ContractBinding)
  | addCheck (requestId : Uuid) (binding : ContractBinding) (proposal : String)
  /-- `generate` up to the call of the model. -/
  | generate (call : Nat) (requestId : Uuid) (binding : ContractBinding)
  /-- The model answers, or raises. -/
  | generated (call : Nat) (answer : Option String)
  | execute (requestId checkId : Uuid)

/-- A step, its caller, its clock, and what `registry_and_hash` returns. -/
structure RequestCall where
  step : RequestStep
  actor : SignerIdentity
  tool : Except RequestError String
  now : Time

/-- The tables, the last clock reading and the calls of `generate` in flight:
their actor, request and binding. -/
structure RequestSystem where
  store : RequestStore
  clock : Time
  generating : Nat → Option (SignerIdentity × Uuid × ContractBinding)

namespace RequestSystem

def initial (clock : Time) : RequestSystem where
  store := .empty
  clock := clock
  generating _ := none

def outcome (env : RequestEnvironment ContractContent) (sys : RequestSystem) (call : RequestCall) :
    Except RequestError RequestStore :=
  let store := sys.store
  match call.step with
  | .create draft => createDraft env store call.actor call.tool draft
  | .save requestId binding draft =>
    saveDraft env store call.actor call.tool requestId binding draft
  | .confirm requestId binding =>
    confirm env store call.actor call.tool requestId binding call.now
  | .revoke requestId binding =>
    revoke env store call.actor requestId binding
  | .addCheck requestId binding proposal =>
    addCheck env store call.actor call.tool requestId binding proposal
      "manual_proposal" call.now
  | .generate _ requestId binding =>
    match generateError env store call.actor call.tool requestId binding call.now with
    | some raised => .error raised
    | none => .ok store
  | .generated generation answer =>
    match sys.generating generation, answer with
    | some (actor, requestId, binding), some proposal =>
      addCheck env store actor call.tool requestId binding proposal
        "local_model_proposal" call.now
    | _, _ => .error ⟨502, "local_proposal_generation_failed"⟩
  | .execute requestId checkId =>
    execute env store call.actor call.tool requestId checkId call.now

/-- The calls of `generate` that are in flight after a call. -/
def generatingAfter (env : RequestEnvironment ContractContent)
    (sys : RequestSystem) (call : RequestCall) :
    Nat → Option (SignerIdentity × Uuid × ContractBinding) :=
  match call.step with
  | .generate generation requestId binding =>
    if (sys.outcome env call).isOk then
      Function.update sys.generating generation (some (call.actor, requestId, binding))
    else sys.generating
  | .generated generation _ =>
    Function.update sys.generating generation none
  | _ => sys.generating

def next (env : RequestEnvironment ContractContent)
    (sys : RequestSystem) (call : RequestCall) : Option RequestSystem :=
  if call.now < sys.clock then none
  else some
    { store :=
        match sys.outcome env call with
        | .ok store => store
        | .error _ => sys.store
      clock := call.now
      generating := sys.generatingAfter env call }

end RequestSystem

end ModelAtlas.Requests
