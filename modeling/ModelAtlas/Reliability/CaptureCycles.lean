import ModelAtlas.Reliability.ActionChains

/-!
# Capture cycles and operator actions in flight

A capture cycle locks the open incidents that are not locked; an operator's
action waits for the lock of its incident. Each transaction commits in a later
step, or raises and changes nothing.
-/

namespace ModelAtlas.Reliability

open Foundations Approval

variable {transition : TransitionType} {level : Nat}

structure StartedCapture where
  call : CaptureCall
  openIncidents : List OperationalAlertIncident

structure ReliabilityWorld where
  store : ReliabilityStore
  captures : List StartedCapture
  actions : List IncidentActionCall

inductive ReliabilityLabel where
  | beginCapture (call : CaptureCall)
  | beginAction (call : IncidentActionCall)
  | commitCapture (position : Nat)
  | commitAction (position : Nat)

namespace ReliabilityWorld

def initial : ReliabilityWorld where
  store := .empty
  captures := []
  actions := []

def locked (world : ReliabilityWorld) : List Uuid :=
  world.captures.flatMap (fun capture =>
      capture.openIncidents.map OperationalAlertIncident.id) ++
    world.actions.map IncidentActionCall.incidentId

def captured (settings : ReliabilitySettings) (world : ReliabilityWorld)
    (call : CaptureCall) : Bool :=
  world.store.snapshots.any (fun snapshot =>
    snapshot.bucketStartedAt = bucketStart settings call.observedAt)

def committed (world : ReliabilityWorld) (captures : List StartedCapture)
    (actions : List IncidentActionCall)
    (res : Except ServiceError ReliabilityStore) : ReliabilityWorld where
  store := res.toOption.getD world.store
  captures := captures
  actions := actions

/-- One step; an action whose incident is locked waits. -/
def next (env : ReliabilityEnvironment)
    (settings : ReliabilitySettings) (world : ReliabilityWorld) :
    ReliabilityLabel → Option ReliabilityWorld
  | .beginCapture call =>
    if !call.collectorIdentity.identityVerified || world.captured settings call then some world
    else some { world with captures := world.captures ++
      [⟨call, visibleOpen world.store world.locked⟩] }
  | .beginAction call =>
    if !canAdminister env.text call.signerIdentity ||
        (world.store.incidents.find? call.incidentId).isNone then some world
    else if world.locked.contains call.incidentId then none
    else some { world with actions := world.actions ++ [call] }
  | .commitCapture position =>
    (world.captures[position]?).map (fun capture =>
      world.committed (world.captures.eraseIdx position) world.actions
        ((captureBucket env settings capture.openIncidents world.store capture.call).map Prod.fst))
  | .commitAction position =>
    (world.actions[position]?).map (fun call =>
      world.committed world.captures (world.actions.eraseIdx position)
        (recordOperationalIncidentAction env world.store call))

end ReliabilityWorld

/-- An action's hash is that of its payload, and an escalation names a level
that its incident has reached. -/
structure ActionSound (env : ReliabilityEnvironment)
    (store : ReliabilityStore) (action : OperationalAlertIncidentAction) :
    Prop where
  hashed : ∃ assignee actor observedAt previousHash,
    action.actionHash = env.canonicalHash (actionPayload env
      action.incidentId action.actionType action.reason assignee actor
      observedAt previousHash)
  reached : action.actionType = .escalated → ∃ level age,
    action.reason = escalationReason level age ∧
      ∀ incident ∈ store.incidents, incident.id = action.incidentId →
        level ≤ incident.escalationLevel

structure IncidentsSound (env : ReliabilityEnvironment)
    (store : ReliabilityStore) : Prop where
  openKey : ∀ incident ∈ store.incidents, incident.status = .opened →
    incident.activeKey = some incident.alertKey
  resolvedKey : ∀ incident ∈ store.incidents, incident.status = .resolved →
    incident.activeKey = none
  onlyOpen : ∀ left ∈ store.incidents, ∀ right ∈ store.incidents,
    left.status = .opened → right.status = .opened →
      left.alertKey = right.alertKey → left = right
  levels : ∀ incident ∈ store.incidents, incident.escalationLevel ≤ 3
  versions : ∀ delivery ∈ store.deliveries, ∃ incident ∈ store.incidents,
    incident.id = delivery.incidentId ∧
      delivery.transitionVersion ≤ incident.transitionVersion
  known : ∀ action ∈ store.actions, ∃ incident ∈ store.incidents,
    incident.id = action.incidentId
  actions : ∀ action ∈ store.actions, ActionSound env store action

theorem incidentsSound_empty {env : ReliabilityEnvironment} : IncidentsSound env .empty where
  openKey _ mem := absurd mem (Table.not_mem_empty _)
  resolvedKey _ mem := absurd mem (Table.not_mem_empty _)
  onlyOpen _ mem := absurd mem (Table.not_mem_empty _)
  levels _ mem := absurd mem (Table.not_mem_empty _)
  versions _ mem := absurd mem (Table.not_mem_empty _)
  known _ mem := absurd mem List.not_mem_nil
  actions _ mem := absurd mem List.not_mem_nil

section Writes

variable {env : ReliabilityEnvironment}
  {store next : ReliabilityStore} {incident new : OperationalAlertIncident}

structure Succeeds (incident new : OperationalAlertIncident) : Prop where
  id : new.id = incident.id
  alertKey : new.alertKey = incident.alertKey
  status : incident.status = .resolved → new.status = .resolved
  openKey : new.status = .opened → new.activeKey = incident.activeKey
  resolvedKey : new.status = .resolved →
    new.activeKey = none ∨ new.activeKey = incident.activeKey ∧
      incident.status = .resolved
  version : incident.transitionVersion ≤ new.transitionVersion
  level : incident.escalationLevel ≤ new.escalationLevel
  bound : incident.escalationLevel ≤ 3 → new.escalationLevel ≤ 3

theorem Succeeds.opened (succeeds : Succeeds incident new)
    (isOpen : new.status = .opened) : incident.status = .opened := by
  cases status : incident.status with
  | opened => rfl
  | resolved =>
    rw [succeeds.status status] at isOpen
    cases isOpen

theorem IncidentsSound.put (held : IncidentsSound env store)
    (mem : incident ∈ store.incidents) (succeeds : Succeeds incident new) :
    IncidentsSound env (store.putIncident new) := by
  have cases_ : ∀ other ∈ (store.putIncident new).incidents,
      other ∈ store.incidents ∧ other.id ≠ incident.id ∨ other = new := by
    intro other written
    rcases ReliabilityStore.mem_putIncident.mp written with
      ⟨old, apart⟩ | ⟨rfl, _⟩
    · exact Or.inl ⟨old, succeeds.id ▸ apart⟩
    · exact Or.inr rfl
  have later : ∀ other ∈ store.incidents,
      ∃ kept ∈ (store.putIncident new).incidents, kept.id = other.id ∧
        other.transitionVersion ≤ kept.transitionVersion := by
    intro other old
    by_cases same : other.id = new.id
    · have own : other = incident :=
        Table.eq_of_key_eq old mem (same.trans succeeds.id)
      refine ⟨new, ReliabilityStore.mem_putIncident.mpr
        (Or.inr ⟨rfl, other, old, same⟩), same.symm, ?_⟩
      rw [own]
      exact succeeds.version
    · exact ⟨other, ReliabilityStore.mem_putIncident.mpr (Or.inl ⟨old, same⟩),
        rfl, Nat.le_refl _⟩
  refine ⟨?_, ?_, ?_, ?_, ?_, ?_, ?_⟩
  · intro other written isOpen
    rcases cases_ other written with ⟨old, _⟩ | rfl
    · exact held.openKey other old isOpen
    · rw [succeeds.openKey isOpen, succeeds.alertKey]
      exact held.openKey incident mem (succeeds.opened isOpen)
  · intro other written isResolved
    rcases cases_ other written with ⟨old, _⟩ | rfl
    · exact held.resolvedKey other old isResolved
    · rcases succeeds.resolvedKey isResolved with none | ⟨same, before⟩
      · exact none
      · exact same.trans (held.resolvedKey incident mem before)
  · have own : ∀ other ∈ store.incidents, other.id ≠ incident.id →
        other.status = .opened → new.status = .opened → other.alertKey ≠ new.alertKey := by
      intro other old apart isOpen newOpen same
      have equal := held.onlyOpen other old incident mem isOpen
        (succeeds.opened newOpen) (same.trans succeeds.alertKey)
      exact apart (congrArg OperationalAlertIncident.id equal)
    intro left leftWritten right rightWritten leftOpen rightOpen same
    rcases cases_ left leftWritten with ⟨leftOld, leftApart⟩ | rfl
    · rcases cases_ right rightWritten with ⟨rightOld, _⟩ | rfl
      · exact held.onlyOpen left leftOld right rightOld leftOpen rightOpen same
      · exact absurd same (own left leftOld leftApart leftOpen rightOpen)
    · rcases cases_ right rightWritten with ⟨rightOld, rightApart⟩ | rfl
      · exact absurd same.symm (own right rightOld rightApart rightOpen leftOpen)
      · rfl
  · intro other written
    rcases cases_ other written with ⟨old, _⟩ | rfl
    · exact held.levels other old
    · exact succeeds.bound (held.levels incident mem)
  · intro delivery stored
    obtain ⟨other, old, named, version⟩ := held.versions delivery stored
    obtain ⟨kept, written, same, notLess⟩ := later other old
    exact ⟨kept, written, same.trans named, Nat.le_trans version notLess⟩
  · intro action stored
    obtain ⟨other, old, named⟩ := held.known action stored
    obtain ⟨kept, written, same, _⟩ := later other old
    exact ⟨kept, written, same.trans named⟩
  · intro action stored
    have sound := held.actions action stored
    refine ⟨sound.hashed, fun isEscalation => ?_⟩
    obtain ⟨level, age, reason, reached⟩ := sound.reached isEscalation
    refine ⟨level, age, reason, fun other written named => ?_⟩
    rcases cases_ other written with ⟨old, _⟩ | rfl
    · exact reached other old named
    · exact Nat.le_trans (reached incident mem (succeeds.id.symm.trans named)) succeeds.level

theorem IncidentsSound.insert (held : IncidentsSound env store)
    (drawn : new.id = store.uuids) (isOpen : new.status = .opened)
    (key : new.activeKey = some new.alertKey)
    (unused : ∀ other ∈ store.incidents, other.activeKey ≠ some new.alertKey)
    (level : new.escalationLevel ≤ 3) :
    IncidentsSound env (store.insertIncident new drawn) := by
  have cases_ : ∀ other ∈ (store.insertIncident new drawn).incidents,
      other ∈ store.incidents ∨ other = new :=
    fun other => ReliabilityStore.mem_insertIncident.mp
  have kept : ∀ other ∈ store.incidents, other ∈ (store.insertIncident new drawn).incidents :=
    fun other old => ReliabilityStore.mem_insertIncident.mpr (Or.inl old)
  have apart : ∀ other ∈ store.incidents, other.status = .opened →
      other.alertKey ≠ new.alertKey := by
    intro other old otherOpen same
    refine unused other old ?_
    rw [held.openKey other old otherOpen, same]
  refine ⟨?_, ?_, ?_, ?_, ?_, ?_, ?_⟩
  · intro other written otherOpen
    rcases cases_ other written with old | rfl
    · exact held.openKey other old otherOpen
    · exact key
  · intro other written isResolved
    rcases cases_ other written with old | rfl
    · exact held.resolvedKey other old isResolved
    · rw [isOpen] at isResolved
      cases isResolved
  · intro left leftWritten right rightWritten leftOpen rightOpen same
    rcases cases_ left leftWritten with leftOld | rfl
    · rcases cases_ right rightWritten with rightOld | rfl
      · exact held.onlyOpen left leftOld right rightOld leftOpen rightOpen same
      · exact absurd same (apart left leftOld leftOpen)
    · rcases cases_ right rightWritten with rightOld | rfl
      · exact absurd same.symm (apart right rightOld rightOpen)
      · rfl
  · intro other written
    rcases cases_ other written with old | rfl
    · exact held.levels other old
    · exact level
  · intro delivery stored
    obtain ⟨other, old, rest⟩ := held.versions delivery stored
    exact ⟨other, kept other old, rest⟩
  · intro action stored
    obtain ⟨other, old, named⟩ := held.known action stored
    exact ⟨other, kept other old, named⟩
  · intro action stored
    have sound := held.actions action stored
    refine ⟨sound.hashed, fun isEscalation => ?_⟩
    obtain ⟨reachedLevel, age, reason, reached⟩ := sound.reached isEscalation
    refine ⟨reachedLevel, age, reason, fun other written named => ?_⟩
    rcases cases_ other written with old | rfl
    · exact reached other old named
    · -- the action's incident is an older one
      obtain ⟨older, olderMem, olderNamed⟩ := held.known action stored
      have drawnEarlier := store.incidentsDrawn older olderMem
      rw [olderNamed, ← named, drawn] at drawnEarlier
      exact absurd drawnEarlier (Nat.lt_irrefl _)

theorem IncidentsSound.append {action : OperationalAlertIncidentAction}
    (held : IncidentsSound env store) (mem : incident ∈ store.incidents)
    (named : incident.id = action.incidentId) (sound : ActionSound env store action) :
    IncidentsSound env
      { store with actions := store.actions ++ [action] } where
  openKey := held.openKey
  resolvedKey := held.resolvedKey
  onlyOpen := held.onlyOpen
  levels := held.levels
  versions := held.versions
  known other stored := by
    rcases List.mem_append.mp stored with old | new
    · exact held.known other old
    · rw [List.mem_singleton.mp new]
      exact ⟨incident, mem, named⟩
  actions other stored := by
    rcases List.mem_append.mp stored with old | new
    · have otherSound := held.actions other old
      exact ⟨otherSound.hashed, otherSound.reached⟩
    · rw [List.mem_singleton.mp new]
      exact ⟨sound.hashed, sound.reached⟩

theorem appendIncidentAction_succeeds {action : OperationalAlertIncidentAction}
    (unrecorded : ∀ other ∈ store.actions, other.actionHash ≠ action.actionHash) :
    appendIncidentAction store action =
      .ok { store with actions := store.actions ++ [action] } := by
  rw [appendIncidentAction, if_neg]
  intro found
  obtain ⟨other, mem, same⟩ := List.any_eq_true.mp found
  exact unrecorded other mem (of_decide_eq_true same)

def OperationalAlertDelivery.Pages (incidentId : Uuid) (transition : TransitionType) (version : Nat)
    (delivery : OperationalAlertDelivery) : Prop :=
  delivery.incidentId = incidentId ∧ delivery.transitionType = transition ∧
    delivery.transitionVersion = version

structure Delivers (settings : ReliabilitySettings) (incidentId : Uuid)
    (transition : TransitionType) (version : Nat)
    (store next : ReliabilityStore) : Prop where
  incidents : next.incidents = store.incidents
  actions : next.actions = store.actions
  snapshots : next.snapshots = store.snapshots
  kept : ∀ delivery ∈ store.deliveries, delivery ∈ next.deliveries
  own : ∀ delivery ∈ next.deliveries, delivery ∈ store.deliveries ∨
    delivery.Pages incidentId transition version
  delivered : settings.pagingEnabled = true →
    (∀ delivery ∈ store.deliveries,
      ¬ delivery.Pages incidentId transition version) ∧
    ∃! delivery, delivery ∈ next.deliveries ∧
      delivery.Pages incidentId transition version

def ReliabilitySettings.PagesConfigured (settings : ReliabilitySettings) :
    Prop :=
  settings.pagingEnabled = true → (∃ keyId, settings.activePagingKeyId = .ok keyId) ∧
      ∃ provider, settings.pagingProvider = .ok provider

theorem createDelivery_succeeds {settings : ReliabilitySettings} {observedAt : Time}
    (configured : settings.PagesConfigured) (unused : ∀ delivery ∈ store.deliveries,
      ¬ delivery.Pages incident.id transition incident.transitionVersion) :
    ∃ next ids, createDelivery settings store incident transition observedAt = .ok (next, ids) ∧
      Delivers settings incident.id transition incident.transitionVersion store next := by
  rw [createDelivery]
  by_cases enabled : settings.pagingEnabled = true
  · obtain ⟨⟨keyId, hasKey⟩, provider, hasProvider⟩ := configured enabled
    rw [if_neg (by rw [enabled]; decide), hasKey, hasProvider]
    have noOther : ¬ store.deliveries.rows.any (fun other =>
        other.incidentId = incident.id && other.transitionType = transition &&
          other.transitionVersion = incident.transitionVersion) = true := by
      intro found
      obtain ⟨other, mem, same⟩ := List.any_eq_true.mp found
      simp only [Bool.and_eq_true, decide_eq_true_eq] at same
      exact unused other mem ⟨same.1.1, same.1.2, same.2⟩
    simp only [if_neg noOther]
    refine ⟨_, _, rfl, rfl, rfl, rfl, ?_, ?_, fun _ => ⟨unused, ?_⟩⟩
    · exact fun delivery mem =>
        ReliabilityStore.mem_insertDelivery.mpr (Or.inl mem)
    · intro delivery mem
      rcases ReliabilityStore.mem_insertDelivery.mp mem with old | rfl
      · exact Or.inl old
      · exact Or.inr ⟨rfl, rfl, rfl⟩
    · refine ⟨_, ⟨ReliabilityStore.mem_insertDelivery.mpr (Or.inr rfl), rfl,
        rfl, rfl⟩, ?_⟩
      rintro delivery ⟨mem, pages⟩
      rcases ReliabilityStore.mem_insertDelivery.mp mem with old | same
      · exact absurd pages (unused delivery old)
      · exact same
  · rw [if_pos (by simpa using enabled)]
    exact ⟨store, [], rfl, rfl, rfl, rfl, fun _ mem => mem,
      fun _ mem => Or.inl mem, fun isEnabled => absurd isEnabled enabled⟩

theorem IncidentsSound.deliver {settings : ReliabilitySettings} (held : IncidentsSound env store)
    (mem : incident ∈ store.incidents)
    (delivers : Delivers settings incident.id transition incident.transitionVersion store next) :
    IncidentsSound env next where
  openKey := delivers.incidents ▸ held.openKey
  resolvedKey := delivers.incidents ▸ held.resolvedKey
  onlyOpen := delivers.incidents ▸ held.onlyOpen
  levels := delivers.incidents ▸ held.levels
  versions delivery stored := by
    rw [delivers.incidents]
    rcases delivers.own delivery stored with old | ⟨named, _, version⟩
    · exact held.versions delivery old
    · exact ⟨incident, mem, named.symm, version.le⟩
  known := by
    rw [delivers.actions, delivers.incidents]
    exact held.known
  actions action stored := by
    rw [delivers.actions] at stored
    have sound := held.actions action stored
    refine ⟨sound.hashed, ?_⟩
    rw [delivers.incidents]
    exact sound.reached

theorem IncidentsSound.unused (held : IncidentsSound env store) {version : Nat}
    (mem : incident ∈ store.incidents) (later : incident.transitionVersion < version) :
    ∀ delivery ∈ store.deliveries, ¬ delivery.Pages incident.id transition version := by
  rintro delivery stored ⟨named, _, same⟩
  obtain ⟨other, old, otherNamed, bound⟩ := held.versions delivery stored
  have own : other = incident :=
    Table.eq_of_key_eq old mem (otherNamed.trans named)
  subst own
  omega

def ReliabilityEnvironment.SeparatesActions (env : ReliabilityEnvironment) : Prop :=
  ∀ (incidentId otherId : Uuid) (actionType otherType : IncidentActionType)
    (reason otherReason : String) (assignee otherAssignee : Option String)
    (actor otherActor : SignerIdentity) (observedAt otherAt : Time)
    (previousHash otherHash : Option String),
    env.canonicalHash (actionPayload env incidentId actionType
        reason assignee actor observedAt previousHash) =
      env.canonicalHash (actionPayload env otherId otherType
        otherReason otherAssignee otherActor otherAt otherHash) →
    incidentId = otherId ∧ actionType = otherType ∧ reason = otherReason

theorem level_of_text {other : Nat} (bound : level ≤ 3) (otherBound : other ≤ 3)
    {before after otherAfter : String} (same : before ++ (toString level ++ after) =
      before ++ (toString other ++ otherAfter)) : level = other := by
  have digit : ∀ level : Nat, level ≤ 3 → (toString level).toList = [Nat.digitChar level] := by
    intro level bound
    change (Nat.repr level).toList = _
    rw [Nat.toList_repr, Nat.toDigits_of_lt_base (by omega)]
  have apart : ∀ level ≤ 3, ∀ other ≤ 3,
      Nat.digitChar level = Nat.digitChar other → level = other := by
    decide
  have chars := congrArg String.toList same
  rw [String.toList_append, String.toList_append, String.toList_append,
    String.toList_append, digit level bound, digit other otherBound] at chars
  exact apart level bound other otherBound (List.cons.inj (List.append_cancel_left chars)).1

theorem level_of_escalationReason {other age otherAge : Nat} (bound : level ≤ 3)
    (otherBound : other ≤ 3) (same : escalationReason level age = escalationReason other otherAge) :
    level = other := by
  unfold escalationReason at same
  simp only [String.append_assoc] at same
  exact level_of_text bound otherBound same

theorem IncidentsSound.unrecorded (held : IncidentsSound env store)
    (separates : env.SeparatesActions)
    (mem : incident ∈ store.incidents)
    (higher : incident.escalationLevel < level) (bound : level ≤ 3)
    (age : Nat) (assignee : Option String) (actor : SignerIdentity)
    (observedAt : Time) (previousHash : Option String) :
    ∀ action ∈ store.actions, action.actionHash ≠ env.canonicalHash (actionPayload env incident.id
        .escalated (escalationReason level age) assignee actor observedAt
        previousHash) := by
  intro action stored same
  have sound := held.actions action stored
  obtain ⟨itsAssignee, itsActor, itsTime, itsPrevious, hashed⟩ := sound.hashed
  obtain ⟨named, isEscalation, reason⟩ :=
    separates action.incidentId incident.id action.actionType .escalated
      action.reason (escalationReason level age) itsAssignee assignee itsActor
      actor itsTime observedAt itsPrevious previousHash
      (hashed.symm.trans same)
  obtain ⟨reachedLevel, reachedAge, itsReason, reached⟩ :=
    sound.reached isEscalation
  have notHigher := reached incident mem named.symm
  have itsBound := held.levels incident mem
  have sameLevel : reachedLevel = level := level_of_escalationReason
    (Nat.le_trans notHigher itsBound) bound (itsReason.symm.trans reason)
  omega

end Writes

end ModelAtlas.Reliability
