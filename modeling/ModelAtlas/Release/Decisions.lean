import ModelAtlas.Approval.Policy
import ModelAtlas.Foundations.Execution
import ModelAtlas.Foundations.Table

/-!
# Release decisions

`services/release_decisions.py`: decisions, the append-only actions on them, and
the status that is derived from the actions. Of the readiness snapshot only the
status is read; the hashes and the lineage records are left out.
-/

namespace ModelAtlas.Release

open Foundations Approval

structure ReleaseScope where
  (deploymentConfigurationId evaluationSuiteId acceptancePolicyId : Uuid)
  deriving DecidableEq, Repr

inductive GateStatus where
  | draft
  | completed
  | failed
  | stale
  deriving DecidableEq, Repr

structure GateEvaluation where
  id : Uuid
  scope : ReleaseScope
  status : GateStatus
  evidenceRevisionHash : String
  deriving DecidableEq, Repr

instance : Keyed GateEvaluation Uuid where
  key := GateEvaluation.id

inductive ReleaseDecisionType where
  | approveRelease
  | rejectRelease
  | requestChanges
  deriving DecidableEq, Repr

structure ReleaseDecision where
  (id gateEvaluationId : Uuid)
  scope : ReleaseScope
  decision : ReleaseDecisionType
  decidedAt : Time
  replacesReleaseDecisionId : Option Uuid
  deriving DecidableEq, Repr

instance : Keyed ReleaseDecision Uuid where
  key := ReleaseDecision.id

inductive ReleaseActionType where
  | staleDetected
  | reviewRequested
  | acknowledged
  | revoked
  | replaced
  deriving DecidableEq, Repr

inductive DedupeKey where
  | stale (decisionId gateId : Uuid)
  | replacement (replacedId replacementId : Uuid)
  | manual (decisionId : Uuid) (actionType : ReleaseActionType) (drawn : Uuid)
  deriving DecidableEq, Repr

structure ReleaseDecisionAction where
  releaseDecisionId : Uuid
  actionType : ReleaseActionType
  dedupeKey : DedupeKey
  actorIdentity : SignerIdentity
  reason : String
  sourceGateEvaluationId : Uuid
  replacementReleaseDecisionId : Option Uuid
  occurredAt : Time
  deriving DecidableEq, Repr

/-- The tables, with the source of new ids.  Actions are only appended. -/
structure ReleaseStore where
  gates : Table GateEvaluation
  decisions : Table ReleaseDecision
  actions : List ReleaseDecisionAction
  uuids : Uuid
  gatesDrawn : ∀ gate ∈ gates, gate.id < uuids
  decisionsDrawn : ∀ decision ∈ decisions, decision.id < uuids

namespace ReleaseStore

def empty : ReleaseStore where
  gates := ∅
  decisions := ∅
  actions := []
  uuids := 0
  gatesDrawn gate mem := absurd mem (Table.not_mem_empty gate)
  decisionsDrawn decision mem :=
    absurd mem (Table.not_mem_empty decision)

def insertGate (store : ReleaseStore) (scope : ReleaseScope)
    (evidenceRevisionHash : String) : ReleaseStore where
  gates := store.gates.insert ⟨store.uuids, scope, .completed, evidenceRevisionHash⟩
    (fun gate mem => Nat.ne_of_lt (store.gatesDrawn gate mem))
  decisions := store.decisions
  actions := store.actions
  uuids := store.uuids + 1
  gatesDrawn gate mem := by
    rcases Table.mem_insert.mp mem with old | rfl
    · exact Nat.lt_succ_of_lt (store.gatesDrawn gate old)
    · exact Nat.lt_succ_self _
  decisionsDrawn decision mem :=
    Nat.lt_succ_of_lt (store.decisionsDrawn decision mem)

def insertDecision (store : ReleaseStore) (decision : ReleaseDecision)
    (drawn : decision.id = store.uuids) : ReleaseStore where
  gates := store.gates
  decisions := store.decisions.insert decision (fun other mem => by
    have older := store.decisionsDrawn other mem
    rw [← drawn] at older
    exact Nat.ne_of_lt older)
  actions := store.actions
  uuids := store.uuids + 1
  gatesDrawn gate mem := Nat.lt_succ_of_lt (store.gatesDrawn gate mem)
  decisionsDrawn other mem := by
    rcases Table.mem_insert.mp mem with old | rfl
    · exact Nat.lt_succ_of_lt (store.decisionsDrawn other old)
    · rw [drawn]
      exact Nat.lt_succ_self _

def appendActions (store : ReleaseStore) (added : List ReleaseDecisionAction) : ReleaseStore :=
  { store with actions := store.actions ++ added }

def markStale (store : ReleaseStore) (due : GateEvaluation → Bool) : ReleaseStore where
  gates := store.gates.update
    (fun gate => if due gate then { gate with status := .stale } else gate)
    (fun gate => by
      change GateEvaluation.id (if _ then _ else _) = gate.id
      split <;> rfl)
  decisions := store.decisions
  actions := store.actions
  uuids := store.uuids
  gatesDrawn gate mem := by
    obtain ⟨old, oldMem, rfl⟩ := Table.mem_update.mp mem
    have drawn := store.gatesDrawn old oldMem
    split
    · exact drawn
    · exact drawn
  decisionsDrawn := store.decisionsDrawn

theorem mem_insertGate {store : ReleaseStore} {scope : ReleaseScope}
    {evidenceRevisionHash : String} {gate : GateEvaluation} :
    gate ∈ (store.insertGate scope evidenceRevisionHash).gates ↔ gate ∈ store.gates ∨
        gate = ⟨store.uuids, scope, .completed, evidenceRevisionHash⟩ := by
  rw [insertGate, Table.mem_insert]

theorem mem_insertDecision {store : ReleaseStore}
    {decision other : ReleaseDecision} {drawn : decision.id = store.uuids} :
    other ∈ (store.insertDecision decision drawn).decisions ↔
      other ∈ store.decisions ∨ other = decision := by
  rw [insertDecision, Table.mem_insert]

theorem mem_markStale {store : ReleaseStore} {due : GateEvaluation → Bool} {gate : GateEvaluation} :
    gate ∈ (store.markStale due).gates ↔ ∃ old ∈ store.gates,
      (if due old then { old with status := .stale } else old) = gate := by
  rw [markStale, Table.mem_update]

def gate? (store : ReleaseStore) (gateId : Uuid) : Option GateEvaluation :=
  store.gates.find? gateId

def decision? (store : ReleaseStore) (decisionId : Uuid) : Option ReleaseDecision :=
  store.decisions.find? decisionId

/-- `list_release_decision_actions`, in the order of insertion. -/
def actionsOf (store : ReleaseStore) (decisionId : Uuid) : List ReleaseDecisionAction :=
  store.actions.filter (fun action => action.releaseDecisionId = decisionId)

end ReleaseStore

inductive OperationalStatus where
  | replaced
  | revoked
  | needsReview
  | active
  | recorded
  deriving DecidableEq, Repr

def hasAction (actions : List ReleaseDecisionAction) (actionType : ReleaseActionType) : Bool :=
  actions.any (fun action => action.actionType = actionType)

/-- `max(action.occurred_at … , default=None)` over the actions of a type. -/
def latestAt (actions : List ReleaseDecisionAction)
    (actionType : ReleaseActionType) : Option Time :=
  ((actions.filter (fun action => action.actionType = actionType)).map
    ReleaseDecisionAction.occurredAt).max?

def unresolvedReviewRequest (actions : List ReleaseDecisionAction) : Bool :=
  match latestAt actions .reviewRequested, latestAt actions .acknowledged with
  | none, _ => false
  | some _, none => true
  | some requested, some acknowledged => acknowledged < requested

def staleWarning (store : ReleaseStore) (decision : ReleaseDecision) : Bool :=
  (store.gate? decision.gateEvaluationId).any (fun gate => gate.status = .stale) ||
    hasAction (store.actionsOf decision.id) .staleDetected

/-- `operational_status` of `release_decision_read`. -/
def operationalStatus (store : ReleaseStore) (decision : ReleaseDecision) :
    OperationalStatus :=
  let actions := store.actionsOf decision.id
  if hasAction actions .replaced then .replaced
  else if hasAction actions .revoked then .revoked
  else if (decision.decision = .approveRelease ∧ staleWarning store decision) ∨
      unresolvedReviewRequest actions then .needsReview
  else if decision.decision = .approveRelease then .active
  else .recorded

def approverRoles : List String :=
  ["Release Manager", "ML Ops Lead", "Model Governance", "Admin"]

def changeRequestRoles : List String :=
  approverRoles ++ ["ML Engineer", "QA Lead", "SRE Lead"]

structure ReleaseDecisionPolicySpec where
  allowedRoles : List String
  (requiresVerifiedIdentity allowMissingRole : Bool)

def decisionPolicy : ReleaseDecisionType → ReleaseDecisionPolicySpec
  | .approveRelease => ⟨approverRoles, true, false⟩
  | .rejectRelease => ⟨approverRoles, true, false⟩
  | .requestChanges => ⟨changeRequestRoles, false, true⟩

def roleKey (text : TextEnvironment) (role : Option String) : Option String :=
  match role with
  | none => none
  | some stored =>
    let normalized := text.lower (" ".intercalate (pySplit (pyStrip stored)))
    if normalized = "" then none else some normalized

/-- `evaluate_release_decision_policy(…).allowed`. -/
def releaseDecisionAllowed (text : TextEnvironment)
    (decision : ReleaseDecisionType) (identity : SignerIdentity) : Bool :=
  let spec := decisionPolicy decision
  (!spec.requiresVerifiedIdentity || identity.identityVerified) &&
    match roleKey text identity.role with
    | none => spec.allowMissingRole
    | some role =>
      (spec.allowedRoles.map (fun allowed =>
        (roleKey text (some allowed)).getD "")).contains role

def releaseReviewRoles : List String :=
  ["release manager", "ml ops lead", "model governance", "admin", "qa lead",
    "sre lead"]

def releaseRevokeRoles : List String :=
  ["release manager", "ml ops lead", "model governance", "admin"]

def releaseOperationAllowed (text : TextEnvironment)
    (actionType : ReleaseActionType) (identity : SignerIdentity) : Bool :=
  identity.identityVerified && (if actionType = .revoked then releaseRevokeRoles
      else releaseReviewRoles).contains
        (text.lower (pyStrip (identity.role.getD "")))

/-- `_validated_replaced_decision`, where a decision is to be replaced. -/
def validatedReplacedDecision (store : ReleaseStore) (replacementId : Uuid)
    (replacementGate : GateEvaluation) : Except ServiceError ReleaseDecision :=
  match store.decision? replacementId with
  | none => .error (.domainValidation "release_decision was not found")
  | some replaced =>
    if replaced.gateEvaluationId = replacementGate.id then
      .error (.domainValidation
        "replacement release decision requires a different Gate evaluation")
    else if replaced.scope ≠ replacementGate.scope then
      .error (.domainValidation
        "replacement release decision must use the same release scope")
    else if operationalStatus store replaced = .replaced then
      .error (.domainValidation "release decision was already replaced")
    else .ok replaced

/-! ## Operations -/

/-- `ReleaseDecisionCreate`, with the status of the readiness snapshot. -/
structure ReleaseDecisionCreate where
  gateEvaluationId : Uuid
  decision : ReleaseDecisionType
  decisionReason : String
  replacesReleaseDecisionId : Option Uuid
  readinessStatus : String

def approvableReadinessStatuses : List String := ["READY", "READY_TO_PROMOTE"]

def signedDecision (store : ReleaseStore) (payload : ReleaseDecisionCreate)
    (gate : GateEvaluation) (now : Time) : ReleaseDecision where
  id := store.uuids
  gateEvaluationId := gate.id
  scope := gate.scope
  decision := payload.decision
  decidedAt := now
  replacesReleaseDecisionId := payload.replacesReleaseDecisionId

def replacedAction (payload : ReleaseDecisionCreate) (signed : ReleaseDecision)
    (identity : SignerIdentity) (replacedId : Uuid) : ReleaseDecisionAction where
  releaseDecisionId := replacedId
  actionType := .replaced
  dedupeKey := .replacement replacedId signed.id
  actorIdentity := identity
  reason := pyStrip payload.decisionReason
  sourceGateEvaluationId := signed.gateEvaluationId
  replacementReleaseDecisionId := some signed.id
  occurredAt := signed.decidedAt

/-- `create_release_decision` for a gate, after the replaced decision is
validated. -/
def signReleaseDecision (text : TextEnvironment) (store : ReleaseStore)
    (payload : ReleaseDecisionCreate) (gate : GateEvaluation)
    (identity : SignerIdentity) (now : Time) :
    Except ServiceError ReleaseStore :=
  if payload.decision = .approveRelease ∧
      ¬ approvableReadinessStatuses.contains payload.readinessStatus then
    .error (.domainValidation
      "APPROVE_RELEASE requires readiness status READY or READY_TO_PROMOTE")
  else if ¬ releaseDecisionAllowed text payload.decision identity then
    .error (.domainValidation "release decision policy rejected the signer")
  else
    let signed := signedDecision store payload gate now
    match payload.replacesReleaseDecisionId with
    | none => .ok (store.insertDecision signed rfl)
    | some replacedId =>
      if pyStrip payload.decisionReason = "" then
        .error (.domainValidation
          "release decision operation reason is required")
      else
        .ok ((store.insertDecision signed rfl).appendActions
          [replacedAction payload signed identity replacedId])

def createReleaseDecision (text : TextEnvironment) (store : ReleaseStore)
    (payload : ReleaseDecisionCreate) (identity : SignerIdentity)
    (now : Time) : Except ServiceError ReleaseStore :=
  match store.gate? payload.gateEvaluationId with
  | none => .error (.domainValidation "gate_evaluation was not found")
  | some gate =>
    match payload.replacesReleaseDecisionId with
    | none => signReleaseDecision text store payload gate identity now
    | some replacementId =>
      match validatedReplacedDecision store replacementId gate with
      | .error raised => .error raised
      | .ok _ => signReleaseDecision text store payload gate identity now

/-- The types of `ReleaseDecisionActionCreate`. -/
inductive RequestedAction where
  | reviewRequested
  | acknowledged
  | revoked
  deriving DecidableEq, Repr

def RequestedAction.actionType : RequestedAction → ReleaseActionType
  | reviewRequested => .reviewRequested
  | acknowledged => .acknowledged
  | revoked => .revoked

def actionRefusal (text : TextEnvironment) (store : ReleaseStore) (decision : ReleaseDecision)
    (requested : RequestedAction) (reason : String) (identity : SignerIdentity) : Option String :=
  let status := operationalStatus store decision
  if ¬ releaseOperationAllowed text requested.actionType identity then
    some "release decision operation requires a verified authorized operator"
  else if status = .replaced then
    some "replaced release decisions cannot receive new operations"
  else if requested = .revoked ∧ decision.decision ≠ .approveRelease then
    some "only approved release decisions can be revoked"
  else if requested = .revoked ∧ status = .revoked then
    some "release decision is already revoked"
  else if requested = .acknowledged ∧ status ≠ .needsReview then
    some "release decision does not currently require review"
  else if pyStrip reason = "" then
    some "release decision operation reason is required"
  else none

def manualAction (store : ReleaseStore) (decision : ReleaseDecision) (requested : RequestedAction)
    (reason : String) (identity : SignerIdentity) (now : Time) : ReleaseDecisionAction where
  releaseDecisionId := decision.id
  actionType := requested.actionType
  dedupeKey := .manual decision.id requested.actionType store.uuids
  actorIdentity := identity
  reason := pyStrip reason
  sourceGateEvaluationId := decision.gateEvaluationId
  replacementReleaseDecisionId := none
  occurredAt := now

def ReleaseStore.drawn (store : ReleaseStore) : ReleaseStore :=
  { store with
    uuids := store.uuids + 1
    gatesDrawn := fun gate mem =>
      Nat.lt_succ_of_lt (store.gatesDrawn gate mem)
    decisionsDrawn := fun decision mem =>
      Nat.lt_succ_of_lt (store.decisionsDrawn decision mem) }

def createReleaseDecisionAction (text : TextEnvironment) (store : ReleaseStore) (decisionId : Uuid)
    (requested : RequestedAction) (reason : String) (identity : SignerIdentity) (now : Time) :
    Except ServiceError ReleaseStore :=
  match store.decision? decisionId with
  | none => .error (.domainValidation "release_decision was not found")
  | some decision =>
    match actionRefusal text store decision requested reason identity with
    | some message => .error (.domainValidation message)
    | none => .ok (store.drawn.appendActions
        [manualAction store decision requested reason identity now])

def reconcilerIdentity : SignerIdentity where
  subjectId := "gate-staleness-reconciler"
  displayName := "Gate Staleness Reconciler"
  role := some "System Worker"
  identityProvider := "model-atlas"
  authSource := "gate_evidence_reconciliation"
  identityVerified := true
  ticketReference := none

def staleAction (reason : String) (now : Time)
    (decision : ReleaseDecision) : ReleaseDecisionAction where
  releaseDecisionId := decision.id
  actionType := .staleDetected
  dedupeKey := .stale decision.id decision.gateEvaluationId
  actorIdentity := reconcilerIdentity
  reason := pyStrip reason
  sourceGateEvaluationId := decision.gateEvaluationId
  replacementReleaseDecisionId := none
  occurredAt := now

/-- `record_stale_release_actions`: the approvals of a gate that have no
action of their dedupe key yet. -/
def staleActions (store : ReleaseStore) (reason : String) (now : Time)
    (gateId : Uuid) : List ReleaseDecisionAction :=
  ((store.decisions.rows.filter (fun decision =>
    decision.gateEvaluationId = gateId &&
      decision.decision = .approveRelease)).filter (fun decision =>
        !store.actions.any (fun action =>
          action.dedupeKey = .stale decision.id gateId))).map (staleAction reason now)

def becomesStale (configurationId suiteId : Uuid) (currentHash : String)
    (gate : GateEvaluation) : Bool :=
  gate.scope.deploymentConfigurationId = configurationId &&
    gate.scope.evaluationSuiteId = suiteId && gate.status = .completed &&
      gate.evidenceRevisionHash ≠ currentHash

/-- `mark_scope_gates_stale`; the reason of every caller is a text that is not
blank. -/
def markScopeGatesStale (store : ReleaseStore) (configurationId suiteId : Uuid)
    (currentHash reason : String) (now : Time) : ReleaseStore :=
  let stale := store.gates.rows.filter (becomesStale configurationId suiteId currentHash)
  (store.markStale (becomesStale configurationId suiteId currentHash)
    ).appendActions (stale.flatMap (fun gate =>
      staleActions store reason now gate.id))

inductive ReleaseOperation where
  | recordGate (scope : ReleaseScope) (evidenceRevisionHash : String)
  | createDecision (payload : ReleaseDecisionCreate)
      (identity : SignerIdentity)
  | createAction (decisionId : Uuid) (requested : RequestedAction)
      (reason : String) (identity : SignerIdentity)
  | reconcile (configurationId suiteId : Uuid) (currentHash reason : String)

/-- An operation at a reading of the clock, in whole seconds. -/
structure ReleaseCall where
  operation : ReleaseOperation
  now : Time

def ReleaseStore.apply (text : TextEnvironment) (store : ReleaseStore)
    (call : ReleaseCall) : Except ServiceError ReleaseStore :=
  match call.operation with
  | .recordGate scope evidenceRevisionHash =>
    .ok (store.insertGate scope evidenceRevisionHash)
  | .createDecision payload identity =>
    createReleaseDecision text store payload identity call.now
  | .createAction decisionId requested reason identity =>
    createReleaseDecisionAction text store decisionId requested reason identity call.now
  | .reconcile configurationId suiteId currentHash reason =>
    .ok (markScopeGatesStale store configurationId suiteId currentHash reason call.now)

structure ReleaseSystem where
  store : ReleaseStore
  clock : Time

/-- One step: the clock does not go back, and an operation that raises is
rolled back and so is no step. -/
def ReleaseSystem.next (text : TextEnvironment) (sys : ReleaseSystem)
    (call : ReleaseCall) : Option ReleaseSystem :=
  if call.now < sys.clock then none
  else
    match sys.store.apply text call with
    | .error _ => none
    | .ok store => some ⟨store, call.now⟩

end ModelAtlas.Release
