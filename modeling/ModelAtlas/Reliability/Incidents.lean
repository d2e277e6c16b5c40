import ModelAtlas.Approval.ControlPlane
import ModelAtlas.Foundations.AuditLog

/-!
# Operational incidents

`services/operational_reliability`: capture cycles, and operators that act on an
incident. Metric values, summaries and contexts are left out. What is read of
the audit log, where records share a time, is a parameter.
-/

namespace ModelAtlas.Reliability

open Foundations Approval

variable {observedAt : Time} {incident : OperationalAlertIncident} {settings : ReliabilitySettings}

inductive Severity where
  | warning
  | critical
  deriving DecidableEq, Repr

inductive IncidentStatus where
  | opened
  | resolved
  deriving DecidableEq, Repr

inductive IncidentSource where
  | derivedAlert
  | slo
  | test
  deriving DecidableEq, Repr

structure OperationalAlertIncident where
  id : Uuid
  activeKey : Option String
  alertKey : String
  sourceType : IncidentSource
  severity : Severity
  status : IncidentStatus
  (openedAt lastSeenAt : Time)
  (resolvedAt acknowledgedAt : Option Time)
  acknowledgedByIdentity : Option SignerIdentity
  assignedTo : Option String
  (escalationLevel occurrenceCount transitionVersion : Nat)
  deriving DecidableEq, Repr

instance : Keyed OperationalAlertIncident Uuid where
  key := OperationalAlertIncident.id

inductive TransitionType where
  | opened
  | resolved
  | test
  | escalated
  deriving DecidableEq, Repr

inductive DeliveryStatus where
  | queued
  | delivered
  | failed
  deriving DecidableEq, Repr

structure OperationalAlertDelivery where
  (id incidentId : Uuid)
  deliveryJobId : Option Uuid
  transitionType : TransitionType
  transitionVersion : Nat
  signingKeyId : String
  providerName : Option String
  status : DeliveryStatus
  requestedAt : Time
  lastAttemptAt : Option Time
  attemptCount : Nat
  responseStatus : Option Int
  (responseHash providerEventId providerReceiptId : Option String)
  providerAcceptedAt : Option Time
  errorMessage : Option String
  deliveredAt : Option Time
  deriving DecidableEq, Repr

instance : Keyed OperationalAlertDelivery Uuid where
  key := OperationalAlertDelivery.id

inductive IncidentActionType where
  | acknowledged
  | assigned
  | note
  | escalated
  deriving DecidableEq, Repr

def IncidentActionType.text : IncidentActionType → String
  | acknowledged => "acknowledged"
  | assigned => "assigned"
  | note => "note"
  | escalated => "escalated"

structure OperationalAlertIncidentAction where
  incidentId : Uuid
  actionType : IncidentActionType
  reason : String
  assignee : Option String
  actorIdentity : SignerIdentity
  identityVerified : Bool
  occurredAt : Time
  previousActionHash : Option String
  actionHash : String
  deriving DecidableEq, Repr

instance : Chained OperationalAlertIncidentAction Uuid String where
  chain := OperationalAlertIncidentAction.incidentId
  occurredAt := OperationalAlertIncidentAction.occurredAt
  previous := OperationalAlertIncidentAction.previousActionHash
  digest := OperationalAlertIncidentAction.actionHash

/-- The columns of a snapshot that a later capture reads. -/
structure OperationalMetricSnapshot where
  (bucketStartedAt expiresAt : Time)
  deriving DecidableEq, Repr

structure ReliabilityStore where
  incidents : Table OperationalAlertIncident
  deliveries : Table OperationalAlertDelivery
  actions : List OperationalAlertIncidentAction
  snapshots : List OperationalMetricSnapshot
  uuids : Uuid
  incidentsDrawn : ∀ incident ∈ incidents, incident.id < uuids
  deliveriesDrawn : ∀ delivery ∈ deliveries, delivery.id < uuids

namespace ReliabilityStore

def empty : ReliabilityStore where
  incidents := ∅
  deliveries := ∅
  actions := []
  snapshots := []
  uuids := 0
  incidentsDrawn incident mem :=
    absurd mem (Table.not_mem_empty incident)
  deliveriesDrawn delivery mem :=
    absurd mem (Table.not_mem_empty delivery)

def insertIncident (store : ReliabilityStore) (incident : OperationalAlertIncident)
    (drawn : incident.id = store.uuids) : ReliabilityStore where
  incidents := store.incidents.insert incident (fun other mem => by
    have older := store.incidentsDrawn other mem
    rw [← drawn] at older
    exact Nat.ne_of_lt older)
  deliveries := store.deliveries
  actions := store.actions
  snapshots := store.snapshots
  uuids := store.uuids + 1
  incidentsDrawn other mem := by
    rcases Table.mem_insert.mp mem with old | rfl
    · exact Nat.lt_succ_of_lt (store.incidentsDrawn other old)
    · rw [drawn]
      exact Nat.lt_succ_self _
  deliveriesDrawn delivery mem :=
    Nat.lt_succ_of_lt (store.deliveriesDrawn delivery mem)

def insertDelivery (store : ReliabilityStore) (delivery : OperationalAlertDelivery)
    (drawn : delivery.id = store.uuids) : ReliabilityStore where
  incidents := store.incidents
  deliveries := store.deliveries.insert delivery (fun other mem => by
    have older := store.deliveriesDrawn other mem
    rw [← drawn] at older
    exact Nat.ne_of_lt older)
  actions := store.actions
  snapshots := store.snapshots
  uuids := store.uuids + 1
  incidentsDrawn incident mem :=
    Nat.lt_succ_of_lt (store.incidentsDrawn incident mem)
  deliveriesDrawn other mem := by
    rcases Table.mem_insert.mp mem with old | rfl
    · exact Nat.lt_succ_of_lt (store.deliveriesDrawn other old)
    · rw [drawn]
      exact Nat.lt_succ_self _

def putIncident (store : ReliabilityStore)
    (incident : OperationalAlertIncident) : ReliabilityStore where
  incidents := store.incidents.update (fun row => if row.id = incident.id then incident else row)
    (fun row => by
      change OperationalAlertIncident.id (if _ then _ else _) = row.id
      split
      · next same => exact same.symm
      · rfl)
  deliveries := store.deliveries
  actions := store.actions
  snapshots := store.snapshots
  uuids := store.uuids
  incidentsDrawn row mem := by
    obtain ⟨old, oldMem, rfl⟩ := Table.mem_update.mp mem
    have drawn := store.incidentsDrawn old oldMem
    split
    · next same => exact same ▸ drawn
    · exact drawn
  deliveriesDrawn := store.deliveriesDrawn

def putDelivery (store : ReliabilityStore)
    (delivery : OperationalAlertDelivery) : ReliabilityStore where
  incidents := store.incidents
  deliveries := store.deliveries.update (fun row => if row.id = delivery.id then delivery else row)
    (fun row => by
      change OperationalAlertDelivery.id (if _ then _ else _) = row.id
      split
      · next same => exact same.symm
      · rfl)
  actions := store.actions
  snapshots := store.snapshots
  uuids := store.uuids
  incidentsDrawn := store.incidentsDrawn
  deliveriesDrawn row mem := by
    obtain ⟨old, oldMem, rfl⟩ := Table.mem_update.mp mem
    have drawn := store.deliveriesDrawn old oldMem
    split
    · next same => exact same ▸ drawn
    · exact drawn

theorem mem_insertIncident {store : ReliabilityStore} {other : OperationalAlertIncident}
    {drawn : incident.id = store.uuids} :
    other ∈ (store.insertIncident incident drawn).incidents ↔
      other ∈ store.incidents ∨ other = incident := by
  rw [insertIncident, Table.mem_insert]

theorem mem_insertDelivery {store : ReliabilityStore} {delivery other : OperationalAlertDelivery}
    {drawn : delivery.id = store.uuids} :
    other ∈ (store.insertDelivery delivery drawn).deliveries ↔
      other ∈ store.deliveries ∨ other = delivery := by
  rw [insertDelivery, Table.mem_insert]

theorem mem_putIncident {store : ReliabilityStore} {other : OperationalAlertIncident} :
    other ∈ (store.putIncident incident).incidents ↔
      (other ∈ store.incidents ∧ other.id ≠ incident.id) ∨
        (other = incident ∧ ∃ row ∈ store.incidents, row.id = incident.id) := by
  rw [putIncident, Table.mem_update]
  constructor
  · rintro ⟨row, mem, changed⟩
    by_cases same : row.id = incident.id
    · rw [if_pos same] at changed
      exact Or.inr ⟨changed.symm, row, mem, same⟩
    · rw [if_neg same] at changed
      subst changed
      exact Or.inl ⟨mem, same⟩
  · rintro (⟨mem, different⟩ | ⟨rfl, row, mem, same⟩)
    · exact ⟨other, mem, if_neg different⟩
    · exact ⟨row, mem, if_pos same⟩

theorem mem_putDelivery {store : ReliabilityStore} {delivery other : OperationalAlertDelivery}
    (mem : other ∈ (store.putDelivery delivery).deliveries) :
    other ∈ store.deliveries ∨ other = delivery := by
  rw [putDelivery, Table.mem_update] at mem
  obtain ⟨row, rowMem, changed⟩ := mem
  by_cases same : row.id = delivery.id
  · rw [if_pos same] at changed
    exact Or.inr changed.symm
  · rw [if_neg same] at changed
    subst changed
    exact Or.inl rowMem

end ReliabilityStore

/-- What the services take from outside: text operations, the SHA-256 of a
canonical JSON text, and the texts of ids and times. -/
structure ReliabilityEnvironment where
  text : TextEnvironment
  canonicalHash : Json → String
  uuidText : Uuid → String
  isoFormat : Time → String

/-- The settings that the incidents read; the signing key and the provider are
read by functions that may raise. -/
structure ReliabilitySettings where
  pagingEnabled : Bool
  (activePagingKeyId pagingProvider : Except String String)
  escalationSeconds : Nat
  escalationPositive : 0 < escalationSeconds
  (snapshotIntervalSeconds snapshotRetentionSeconds : Nat)

abbrev LatestActionQuery :=
  Chained.LatestQuery OperationalAlertIncidentAction

def actionPayload (env : ReliabilityEnvironment) (incidentId : Uuid)
    (actionType : IncidentActionType) (reason : String) (assignee : Option String)
    (actor : SignerIdentity) (observedAt : Time) (previousHash : Option String) : Json :=
  .obj
    [("incident_id", .str (env.uuidText incidentId)),
      ("action_type", .str actionType.text), ("reason", .str reason),
      ("assignee", Json.optionText assignee),
      ("actor_identity", identityJson actor),
      ("identity_verified", .bool actor.identityVerified),
      ("occurred_at", .str (env.isoFormat observedAt)),
      ("previous_action_hash", Json.optionText previousHash)]

def incidentAction (env : ReliabilityEnvironment) (query : LatestActionQuery)
    (store : ReliabilityStore) (incidentId : Uuid) (actionType : IncidentActionType)
    (reason : String) (assignee : Option String) (actor : SignerIdentity) (observedAt : Time) :
    OperationalAlertIncidentAction :=
  let previousHash := (query.read (Chained.chainOf store.actions incidentId)
    ).map OperationalAlertIncidentAction.actionHash
  { incidentId := incidentId
    actionType := actionType
    reason := reason
    assignee := assignee
    actorIdentity := actor
    identityVerified := actor.identityVerified
    occurredAt := observedAt
    previousActionHash := previousHash
    actionHash := env.canonicalHash (actionPayload env
      incidentId actionType reason assignee actor observedAt previousHash) }

/-- `_append_incident_action`; the hash is unique in the table. -/
def appendIncidentAction (store : ReliabilityStore) (action : OperationalAlertIncidentAction) :
    Except ServiceError ReliabilityStore :=
  if store.actions.any (fun other => other.actionHash = action.actionHash) then
    .error (.integrity "operational_alert_incident_actions.action_hash")
  else .ok { store with actions := store.actions ++ [action] }

theorem appendIncidentAction_ok {store next : ReliabilityStore}
    {action : OperationalAlertIncidentAction}
    (appended : appendIncidentAction store action = .ok next) :
    (∀ other ∈ store.actions, other.actionHash ≠ action.actionHash) ∧
      next = { store with actions := store.actions ++ [action] } := by
  rw [appendIncidentAction] at appended
  split at appended
  · cases appended
  · next unused =>
      refine ⟨fun other mem same => unused ?_, (Except.ok.inj appended).symm⟩
      exact List.any_eq_true.mpr ⟨other, mem, decide_eq_true same⟩

def queuedDelivery (store : ReliabilityStore) (incident : OperationalAlertIncident)
    (transition : TransitionType) (signingKeyId provider : String) (observedAt : Time) :
    OperationalAlertDelivery where
  id := store.uuids
  incidentId := incident.id
  deliveryJobId := none
  transitionType := transition
  transitionVersion := incident.transitionVersion
  signingKeyId := signingKeyId
  providerName := some provider
  status := .queued
  requestedAt := observedAt
  lastAttemptAt := none
  attemptCount := 0
  responseStatus := none
  responseHash := none
  providerEventId := none
  providerReceiptId := none
  providerAcceptedAt := none
  errorMessage := none
  deliveredAt := none

/-- `_create_delivery` where paging is enabled; one row for each transition of
an incident and its version. -/
def createDelivery (settings : ReliabilitySettings) (store : ReliabilityStore)
    (incident : OperationalAlertIncident) (transition : TransitionType)
    (observedAt : Time) : Except ServiceError (ReliabilityStore × List Uuid) :=
  if !settings.pagingEnabled then .ok (store, [])
  else
    match settings.activePagingKeyId, settings.pagingProvider with
    | .error message, _ => .error (.domainValidation message)
    | .ok _, .error message => .error (.domainValidation message)
    | .ok signingKeyId, .ok provider =>
      if store.deliveries.rows.any (fun other =>
          other.incidentId = incident.id && other.transitionType = transition &&
              other.transitionVersion = incident.transitionVersion) then
        .error (.integrity "uq_operational_alert_deliveries_transition")
      else
        .ok (store.insertDelivery (queuedDelivery store incident transition
          signingKeyId provider observedAt) rfl, [store.uuids])

theorem createDelivery_ok {store next : ReliabilityStore}
    {transition : TransitionType} {ids : List Uuid}
    (created : createDelivery settings store incident transition observedAt = .ok (next, ids)) :
    (settings.pagingEnabled = false ∧ next = store ∧ ids = []) ∨ ∃ signingKeyId provider,
        settings.pagingEnabled = true ∧
          (∀ other ∈ store.deliveries, ¬ (other.incidentId = incident.id ∧
            other.transitionType = transition ∧
              other.transitionVersion = incident.transitionVersion)) ∧
          next = store.insertDelivery (queuedDelivery store incident transition
            signingKeyId provider observedAt) rfl ∧
          ids = [store.uuids] := by
  rw [createDelivery] at created
  split at created
  · next disabled =>
      have same := Prod.mk.inj (Except.ok.inj created)
      exact Or.inl ⟨by simpa using disabled, same.1.symm, same.2.symm⟩
  · next enabled =>
      split at created
      · cases created
      · cases created
      · next signingKeyId provider _ _ =>
          split at created
          · cases created
          · next unused =>
              have same := Prod.mk.inj (Except.ok.inj created)
              refine Or.inr ⟨signingKeyId, provider, by simpa using enabled,
                ?_, same.1.symm, same.2.symm⟩
              rintro other mem ⟨sameIncident, sameType, sameVersion⟩
              refine unused (List.any_eq_true.mpr ⟨other, mem, ?_⟩)
              rw [decide_eq_true sameIncident, decide_eq_true sameType, decide_eq_true sameVersion]
              rfl

theorem createDelivery_frame {store next : ReliabilityStore}
    {transition : TransitionType} {ids : List Uuid}
    (created : createDelivery settings store incident transition observedAt = .ok (next, ids)) :
    next.actions = store.actions ∧ next.incidents = store.incidents := by
  rcases createDelivery_ok created with ⟨_, rfl, _⟩ | ⟨_, _, _, _, rfl, _⟩
  · exact ⟨rfl, rfl⟩
  · exact ⟨rfl, rfl⟩

def controllerIdentity : SignerIdentity where
  subjectId := "model-atlas-operational-controller"
  displayName := "Operational Reliability Controller"
  role := some "system"
  identityProvider := "model-atlas"
  authSource := "scheduled-control-loop"
  identityVerified := true
  ticketReference := none

def ageSeconds (incident : OperationalAlertIncident) (observedAt : Time) : Nat :=
  (observedAt - incident.openedAt).toNat

def targetLevel (settings : ReliabilitySettings)
    (incident : OperationalAlertIncident) (observedAt : Time) : Nat :=
  min 3 (ageSeconds incident observedAt / settings.escalationSeconds)

def escalates (settings : ReliabilitySettings)
    (incident : OperationalAlertIncident) (observedAt : Time) : Bool :=
  incident.status = .opened && incident.severity = .critical && incident.acknowledgedAt.isNone &&
      incident.escalationLevel < targetLevel settings incident observedAt

def escalatedIncident (settings : ReliabilitySettings)
    (incident : OperationalAlertIncident) (observedAt : Time) :
    OperationalAlertIncident :=
  { incident with
    escalationLevel := targetLevel settings incident observedAt
    transitionVersion := incident.transitionVersion + 1 }

def escalationReason (level age : Nat) : String :=
  "Automatically escalated to level " ++ toString level ++ " after " ++
    toString age ++ " seconds without acknowledgement."

def maybeEscalateIncident (env : ReliabilityEnvironment) (settings : ReliabilitySettings)
    (query : LatestActionQuery) (store : ReliabilityStore) (incident : OperationalAlertIncident)
    (observedAt : Time) : Except ServiceError (ReliabilityStore × List Uuid) :=
  if escalates settings incident observedAt then
    let escalated := escalatedIncident settings incident observedAt
    match appendIncidentAction (store.putIncident escalated)
        (incidentAction env query (store.putIncident escalated)
          incident.id .escalated (escalationReason escalated.escalationLevel
            (ageSeconds incident observedAt)) none controllerIdentity
            observedAt) with
    | .error raised => .error raised
    | .ok recorded =>
      createDelivery settings recorded escalated .escalated observedAt
  else .ok (store, [])

theorem maybeEscalateIncident_ok {env : ReliabilityEnvironment}
    {query : LatestActionQuery} {store next : ReliabilityStore} {ids : List Uuid}
    (done : maybeEscalateIncident env settings query store incident observedAt = .ok (next, ids)) :
    (escalates settings incident observedAt = false ∧ next = store ∧ ids = []) ∨
      (escalates settings incident observedAt = true ∧ ∃ recorded, appendIncidentAction
            (store.putIncident (escalatedIncident settings incident observedAt))
            (incidentAction env query (store.putIncident
                (escalatedIncident settings incident observedAt))
              incident.id .escalated
              (escalationReason (targetLevel settings incident observedAt)
                (ageSeconds incident observedAt)) none controllerIdentity
              observedAt) = .ok recorded ∧
          createDelivery settings recorded (escalatedIncident settings incident observedAt)
            .escalated observedAt = .ok (next, ids)) := by
  rw [maybeEscalateIncident] at done
  split at done
  · next isDue =>
      refine Or.inr ⟨isDue, ?_⟩
      simp only [] at done
      split at done
      · cases done
      · next recorded appended =>
          exact ⟨recorded, appended, done⟩
  · next notDue =>
      have same := Prod.mk.inj (Except.ok.inj done)
      exact Or.inl ⟨by simpa using notDue, same.1.symm, same.2.symm⟩

/-! ## Reconciliation -/

structure AlertState where
  alertKey : String
  sourceType : IncidentSource
  severity : Severity
  deriving DecidableEq, Repr

structure OperationalAlert where
  key : String
  severity : Severity
  deriving DecidableEq, Repr

structure OperationalSLOEvaluation where
  sloKey : String
  (breached burnCritical : Bool)
  deriving DecidableEq, Repr

/-- `current[state.alert_key] = state`. -/
def setState (current : List AlertState) (state : AlertState) : List AlertState :=
  current.filter (fun other => other.alertKey ≠ state.alertKey) ++ [state]

/-- `current`: the derived alerts and the breached SLOs. -/
def currentStates (alerts : List OperationalAlert)
    (evaluations : List OperationalSLOEvaluation) : List AlertState :=
  ((evaluations.filter OperationalSLOEvaluation.breached).map
    (fun evaluation => AlertState.mk ("slo:" ++ evaluation.sloKey) .slo
      (if evaluation.burnCritical then .critical else .warning))).foldl setState
    ((alerts.map (fun alert =>
      AlertState.mk alert.key .derivedAlert alert.severity)).foldl setState [])

def openedIncident (store : ReliabilityStore) (state : AlertState)
    (observedAt : Time) : OperationalAlertIncident where
  id := store.uuids
  activeKey := some state.alertKey
  alertKey := state.alertKey
  sourceType := state.sourceType
  severity := state.severity
  status := .opened
  openedAt := observedAt
  lastSeenAt := observedAt
  resolvedAt := none
  acknowledgedAt := none
  acknowledgedByIdentity := none
  assignedTo := none
  escalationLevel := 0
  occurrenceCount := 1
  transitionVersion := 1

def openIncident (settings : ReliabilitySettings) (store : ReliabilityStore)
    (state : AlertState) (observedAt : Time) :
    Except ServiceError (ReliabilityStore × List Uuid) :=
  if store.incidents.rows.any (fun other =>
      other.activeKey = some state.alertKey) then
    .error (.integrity "operational_alert_incidents.active_key")
  else
    createDelivery settings (store.insertIncident (openedIncident store state observedAt) rfl)
      (openedIncident store state observedAt) .opened observedAt

def seenIncident (state : AlertState) (observedAt : Time)
    (incident : OperationalAlertIncident) : OperationalAlertIncident :=
  { incident with
    lastSeenAt := observedAt
    occurrenceCount := incident.occurrenceCount + 1
    severity := state.severity }

/-- The first loop of `_reconcile_operational_incidents`, for one alert. -/
def reconcileAlert (env : ReliabilityEnvironment) (settings : ReliabilitySettings)
    (query : LatestActionQuery) (openIncidents : List OperationalAlertIncident) (observedAt : Time)
    (store : ReliabilityStore) (state : AlertState) :
    Except ServiceError (ReliabilityStore × List Uuid) :=
  match openIncidents.find? (fun incident =>
    incident.alertKey = state.alertKey) with
  | none => openIncident settings store state observedAt
  | some incident =>
    let seen := seenIncident state observedAt incident
    maybeEscalateIncident env settings query (store.putIncident seen) seen observedAt

def resolvedIncident (observedAt : Time)
    (incident : OperationalAlertIncident) : OperationalAlertIncident :=
  { incident with
    activeKey := none
    status := .resolved
    resolvedAt := some observedAt
    lastSeenAt := observedAt
    transitionVersion := incident.transitionVersion + 1 }

def resolveIncident (settings : ReliabilitySettings) (observedAt : Time)
    (store : ReliabilityStore) (incident : OperationalAlertIncident) :
    Except ServiceError (ReliabilityStore × List Uuid) :=
  createDelivery settings (store.putIncident (resolvedIncident observedAt incident))
    (resolvedIncident observedAt incident) .resolved observedAt

def forEach {Item : Type} (body : ReliabilityStore → Item →
      Except ServiceError (ReliabilityStore × List Uuid)) :
    List Item → ReliabilityStore → Except ServiceError (ReliabilityStore × List Uuid)
  | [], store => .ok (store, [])
  | item :: rest, store =>
    match body store item with
    | .error raised => .error raised
    | .ok (next, ids) =>
      match forEach body rest next with
      | .error raised => .error raised
      | .ok (last, others) => .ok (last, ids ++ others)

theorem forEach_rule {Item : Type} {body : ReliabilityStore → Item →
      Except ServiceError (ReliabilityStore × List Uuid)}
    (property : List Item → ReliabilityStore → Prop)
    (turn : ∀ item rest store next ids, property (item :: rest) store →
      body store item = .ok (next, ids) → property rest next) :
    ∀ {items : List Item} {store last : ReliabilityStore} {ids : List Uuid},
      property items store → forEach body items store = .ok (last, ids) → property [] last := by
  intro items
  induction items with
  | nil =>
    intro store last ids held done
    rw [forEach] at done
    rw [← (Prod.mk.inj (Except.ok.inj done)).1]
    exact held
  | cons item rest ih =>
    intro store last ids held done
    rw [forEach] at done
    split at done
    · cases done
    · next middle first taken =>
        split at done
        · cases done
        · next final others remaining =>
            rw [← (Prod.mk.inj (Except.ok.inj done)).1]
            exact ih (turn item rest store middle first held taken) remaining

def visibleOpen (store : ReliabilityStore) (locked : List Uuid) : List OperationalAlertIncident :=
  store.incidents.rows.filter (fun incident =>
    incident.status = .opened && !locked.contains incident.id)

/-- `_reconcile_operational_incidents`, from the open incidents that it has
locked on. -/
def reconcileOperationalIncidents (env : ReliabilityEnvironment) (settings : ReliabilitySettings)
    (query : LatestActionQuery) (openIncidents : List OperationalAlertIncident)
    (current : List AlertState) (observedAt : Time) (store : ReliabilityStore) :
    Except ServiceError (ReliabilityStore × List Uuid) :=
  match forEach (reconcileAlert env settings query openIncidents observedAt) current store with
  | .error raised => .error raised
  | .ok (fired, ids) =>
    match forEach (resolveIncident settings observedAt) (openIncidents.filter (fun incident =>
          !current.any (fun state => state.alertKey = incident.alertKey)))
        fired with
    | .error raised => .error raised
    | .ok (resolved, others) => .ok (resolved, ids ++ others)

theorem reconcileOperationalIncidents_ok {env : ReliabilityEnvironment} {query : LatestActionQuery}
    {openIncidents : List OperationalAlertIncident}
    {current : List AlertState}
    {store next : ReliabilityStore} {ids : List Uuid}
    (done : reconcileOperationalIncidents env settings query
      openIncidents current observedAt store = .ok (next, ids)) :
    ∃ fired firedIds resolvedIds, forEach (reconcileAlert env settings query openIncidents
          observedAt) current store = .ok (fired, firedIds) ∧
      forEach (resolveIncident settings observedAt) (openIncidents.filter (fun incident =>
            !current.any (fun state => state.alertKey = incident.alertKey)))
          fired = .ok (next, resolvedIds) ∧
      ids = firedIds ++ resolvedIds := by
  rw [reconcileOperationalIncidents] at done
  split at done
  · cases done
  · next fired firedIds firstDone =>
      split at done
      · cases done
      · next last resolvedIds secondDone =>
          obtain ⟨rfl, rfl⟩ := Prod.mk.inj (Except.ok.inj done)
          exact ⟨fired, firedIds, resolvedIds, firstDone, secondDone, rfl⟩

def snapshotRetentionBatchSize : Nat := 1000

structure CaptureCall where
  collectorIdentity : SignerIdentity
  alerts : List OperationalAlert
  evaluations : List OperationalSLOEvaluation
  observedAt : Time
  query : LatestActionQuery

def bucketStart (settings : ReliabilitySettings) (observedAt : Time) : Time :=
  observedAt - observedAt % settings.snapshotIntervalSeconds

def snapshotsAfter (settings : ReliabilitySettings) (observedAt : Time)
    (snapshots : List OperationalMetricSnapshot) :
    List OperationalMetricSnapshot :=
  let expired := (snapshots.filter (fun snapshot =>
    snapshot.expiresAt ≤ observedAt)).take snapshotRetentionBatchSize
  snapshots.filter (fun snapshot => !expired.contains snapshot) ++
    [⟨bucketStart settings observedAt, observedAt + settings.snapshotRetentionSeconds⟩]

/-- The capture of a bucket, once it has locked open incidents: the snapshot of a new bucket is
stored and the incidents are reconciled. -/
def captureBucket (env : ReliabilityEnvironment) (settings : ReliabilitySettings)
    (openIncidents : List OperationalAlertIncident) (store : ReliabilityStore)
    (call : CaptureCall) : Except ServiceError (ReliabilityStore × List Uuid) :=
  if store.snapshots.any (fun snapshot =>
      snapshot.bucketStartedAt = bucketStart settings call.observedAt) then
    .error (.integrity "operational_metric_snapshots.bucket_started_at")
  else
    reconcileOperationalIncidents env settings call.query openIncidents
      (currentStates call.alerts call.evaluations) call.observedAt
      { store with snapshots := snapshotsAfter settings call.observedAt store.snapshots }

/-- `capture_operational_reliability_cycle`: the ids of the deliveries it
created, and nothing new where the bucket is captured already. -/
def captureOperationalReliabilityCycle (env : ReliabilityEnvironment)
    (settings : ReliabilitySettings) (locked : List Uuid)
    (store : ReliabilityStore) (call : CaptureCall) :
    Except ServiceError (ReliabilityStore × List Uuid) :=
  if !call.collectorIdentity.identityVerified then
    .error (.domainValidation
      "operational metric capture requires a verified collector identity")
  else if store.snapshots.any (fun snapshot =>
      snapshot.bucketStartedAt = bucketStart settings call.observedAt) then
    .ok (store, [])
  else
    captureBucket env settings (visibleOpen store locked) store call

/-! ## Operator actions -/

def roleKey (text : TextEnvironment) (role : Option String) : String :=
  " ".intercalate (pySplit (text.lower (pyStrip (role.getD ""))))

def operationalAdministratorRoles : List String := ["Admin", "SRE Lead"]

/-- `operational_reliability_permissions(…).can_administer`. -/
def canAdminister (text : TextEnvironment) (identity : SignerIdentity) : Bool :=
  identity.identityVerified && (operationalAdministratorRoles.map (fun role =>
      roleKey text (some role))).contains (roleKey text identity.role)

inductive OperatorAction where
  | acknowledged
  | assigned
  | note
  deriving DecidableEq, Repr

def OperatorAction.actionType : OperatorAction → IncidentActionType
  | acknowledged => .acknowledged
  | assigned => .assigned
  | note => .note

structure IncidentActionCall where
  incidentId : Uuid
  signerIdentity : SignerIdentity
  action : OperatorAction
  reason : String
  assignee : Option String
  observedAt : Time
  query : LatestActionQuery

def actedIncident (call : IncidentActionCall)
    (incident : OperationalAlertIncident) : OperationalAlertIncident :=
  match call.action with
  | .acknowledged =>
    { incident with
      acknowledgedAt := some call.observedAt
      acknowledgedByIdentity := some call.signerIdentity }
  | .assigned => { incident with assignedTo := call.assignee }
  | .note => incident

def incidentActionRefusal (call : IncidentActionCall)
    (incident : OperationalAlertIncident) : Option String :=
  if call.action ≠ .assigned ∧ call.assignee.isSome then
    some "assignee is only valid for assigned actions"
  else if incident.status ≠ .opened ∧ call.action ≠ .note then
    some "only open incidents can be acknowledged or assigned"
  else if call.action = .acknowledged ∧ incident.acknowledgedAt.isSome then
    some "operational incident is already acknowledged"
  else if call.action = .assigned ∧ call.assignee.getD "" = "" then
    some "assignee is required for assigned actions"
  else none

def recordOperationalIncidentAction (env : ReliabilityEnvironment)
    (store : ReliabilityStore) (call : IncidentActionCall) :
    Except ServiceError ReliabilityStore :=
  if !canAdminister env.text call.signerIdentity then
    .error (.domainValidation ("operational reliability administration " ++
      "requires verified Admin or SRE Lead identity"))
  else
    match store.incidents.find? call.incidentId with
    | none => .error (.domainValidation "operational incident was not found")
    | some incident =>
      match incidentActionRefusal call incident with
      | some message => .error (.domainValidation message)
      | none =>
        appendIncidentAction (store.putIncident (actedIncident call incident))
          (incidentAction env call.query store incident.id
            call.action.actionType call.reason call.assignee
            call.signerIdentity call.observedAt)

structure TestPageCall where
  signerIdentity : SignerIdentity
  severity : Severity
  alertKey : String
  observedAt : Time

def testIncident (store : ReliabilityStore) (call : TestPageCall) : OperationalAlertIncident where
  id := store.uuids
  activeKey := none
  alertKey := call.alertKey
  sourceType := .test
  severity := call.severity
  status := .resolved
  openedAt := call.observedAt
  lastSeenAt := call.observedAt
  resolvedAt := some call.observedAt
  acknowledgedAt := none
  acknowledgedByIdentity := none
  assignedTo := none
  escalationLevel := 0
  occurrenceCount := 1
  transitionVersion := 1

def createOperationalTestDelivery (env : ReliabilityEnvironment) (settings : ReliabilitySettings)
    (store : ReliabilityStore) (call : TestPageCall) :
    Except ServiceError (ReliabilityStore × List Uuid) :=
  if !canAdminister env.text call.signerIdentity then
    .error (.domainValidation ("operational reliability administration " ++
      "requires verified Admin or SRE Lead identity"))
  else if !settings.pagingEnabled then
    .error (.domainValidation "operational paging delivery is disabled")
  else
    createDelivery settings (store.insertIncident (testIncident store call) rfl)
      (testIncident store call) .test call.observedAt

end ModelAtlas.Reliability
