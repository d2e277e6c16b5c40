import ModelAtlas.Reliability.Reconciliation

/-!
# Open incidents follow the alerts that fire

A capture cycle that begins alone commits, and leaves one open incident for each
alert key that fires.
-/

namespace ModelAtlas.Reliability

open Foundations Approval

variable {call : IncidentActionCall}

/-- One open incident for each key that fires, and no other open incident. -/
structure Follows (call : CaptureCall) (store : ReliabilityStore) : Prop where
  oneOpen : ∀ alertKey, call.Fires alertKey → ∃! incident,
    incident ∈ store.incidents ∧ incident.status = .opened ∧
      incident.alertKey = alertKey
  fires : ∀ incident ∈ store.incidents, incident.status = .opened →
    call.Fires incident.alertKey

structure Tracked (settings : ReliabilitySettings)
    (before after : ReliabilityStore) : Prop where
  transits : ∀ incident ∈ before.incidents, ∃ new ∈ after.incidents,
    new.id = incident.id ∧ Transits settings before after incident new
  opens : ∀ new ∈ after.incidents,
    (∀ incident ∈ before.incidents, incident.id ≠ new.id) →
      Opens settings before after new
  bounded : ∀ incident ∈ after.incidents, incident.escalationLevel ≤ 3

/-- The incidents move one transition at a time, and a capture cycle that
finishes has committed and follows the alerts that fire. -/
structure TracksAlerts (env : ReliabilityEnvironment)
    (settings : ReliabilitySettings) (before : ReliabilityWorld)
    (label : ReliabilityLabel) (after : ReliabilityWorld) : Prop where
  tracked : Tracked settings before.store after.store
  commits : ∀ position capture, label = .commitCapture position →
    before.captures[position]? = some capture →
      (∃ ids, captureBucket env settings capture.openIncidents
        before.store capture.call = .ok (after.store, ids)) ∧
      Follows capture.call after.store

/-- A capture cycle begins while no other one is in flight and no operator
holds the lock of an open incident. -/
def CapturesAlone (world : ReliabilityWorld) (label : ReliabilityLabel) :
    Prop :=
  ∀ call, label = .beginCapture call → world.captures = [] ∧
    ∀ action ∈ world.actions, ∀ incident ∈ world.store.incidents,
      incident.id = action.incidentId → incident.status ≠ .opened

section Steps

variable {env : ReliabilityEnvironment}
  {settings : ReliabilitySettings} {store next : ReliabilityStore}
  {world after : ReliabilityWorld} {label : ReliabilityLabel}

theorem Tracked.refl (sound : IncidentsSound env store) : Tracked settings store store where
  transits incident mem := ⟨incident, mem, rfl, .stays rfl rfl rfl⟩
  opens new mem fresh := absurd rfl (fresh new mem)
  bounded := sound.levels

theorem Tracked.of_same {before : ReliabilityStore} (held : Tracked settings before next)
    (incidents : before.incidents = store.incidents)
    (deliveries : before.deliveries = store.deliveries) :
    Tracked settings store next := by
  have once : ∀ {incidentId transition version},
      DeliveredOnce settings before next incidentId transition version →
        DeliveredOnce settings store next incidentId transition version := by
    intro incidentId transition version delivered enabled
    rw [← deliveries]
    exact delivered enabled
  refine ⟨?_, ?_, held.bounded⟩
  · intro incident mem
    rw [← incidents] at mem
    obtain ⟨new, newMem, named, transits⟩ := held.transits incident mem
    refine ⟨new, newMem, named, ?_⟩
    cases transits with
    | stays status level version =>
      exact .stays status level version
    | escalates wasOpen isOpen level unacknowledged critical version delivered =>
      exact .escalates wasOpen isOpen level unacknowledged critical version (once delivered)
    | resolves wasOpen isResolved level version delivered =>
      exact .resolves wasOpen isResolved level version (once delivered)
  · intro new mem fresh
    rw [← incidents] at fresh
    have opens := held.opens new mem fresh
    exact ⟨opens.isOpen, opens.level, opens.version, once opens.delivered⟩

theorem recordOperationalIncidentAction_ok
    (done : recordOperationalIncidentAction env store call = .ok next) :
    ∃ incident ∈ store.incidents, incident.id = call.incidentId ∧
      incidentActionRefusal call incident = none ∧
      appendIncidentAction (store.putIncident (actedIncident call incident))
        (incidentAction env call.query store incident.id
          call.action.actionType call.reason call.assignee call.signerIdentity
          call.observedAt) = .ok next := by
  rw [recordOperationalIncidentAction] at done
  split at done
  · cases done
  · split at done
    · cases done
    · next incident found =>
        obtain ⟨mem, named⟩ := Table.find?_eq_some_iff.mp found
        split at done
        · cases done
        · next accepted =>
            exact ⟨incident, mem, named, accepted, done⟩

theorem succeeds_actedIncident (call : IncidentActionCall) (incident : OperationalAlertIncident) :
    Succeeds incident (actedIncident call incident) ∧
      (actedIncident call incident).status = incident.status ∧
      (actedIncident call incident).escalationLevel = incident.escalationLevel ∧
      (actedIncident call incident).transitionVersion =
        incident.transitionVersion := by
  rw [actedIncident]
  cases call.action <;>
    exact ⟨⟨rfl, rfl, id, fun _ => rfl, fun resolved => Or.inr ⟨rfl, resolved⟩,
      Nat.le_refl _, Nat.le_refl _, id⟩, rfl, rfl, rfl⟩

theorem IncidentsSound.act (sound : IncidentsSound env store)
    (done : recordOperationalIncidentAction env store call = .ok next) :
    IncidentsSound env next ∧ Tracked settings store next := by
  obtain ⟨incident, mem, named, accepted, appended⟩ :=
    recordOperationalIncidentAction_ok done
  obtain ⟨_, rfl⟩ := appendIncidentAction_ok appended
  obtain ⟨succeeds, status, level, version⟩ :=
    succeeds_actedIncident call incident
  have actedMem : actedIncident call incident ∈
      (store.putIncident (actedIncident call incident)).incidents :=
    ReliabilityStore.mem_putIncident.mpr (Or.inr ⟨rfl, incident, mem, succeeds.id.symm⟩)
  have putSound := sound.put mem succeeds
  refine ⟨putSound.append actedMem succeeds.id ⟨⟨_, _, _, _, rfl⟩, ?_⟩, ?_, ?_, putSound.levels⟩
  · intro isEscalation
    change call.action.actionType = .escalated at isEscalation
    cases action : call.action with
    | acknowledged | assigned | note =>
      rw [action] at isEscalation
      cases isEscalation
  · intro other otherMem
    by_cases same : other.id = (actedIncident call incident).id
    · have own : other = incident :=
        Table.eq_of_key_eq otherMem mem (same.trans succeeds.id)
      subst own
      exact ⟨_, actedMem, same.symm, .stays status level version⟩
    · exact ⟨other, ReliabilityStore.mem_putIncident.mpr
        (Or.inl ⟨otherMem, same⟩), rfl, .stays rfl rfl rfl⟩
  · intro new written fresh
    rcases ReliabilityStore.mem_putIncident.mp written with
      ⟨old, _⟩ | ⟨rfl, row, rowMem, same⟩
    · exact absurd rfl (fresh new old)
    · exact absurd same (fresh row rowMem)

theorem captureBucket_follows (configured : settings.PagesConfigured)
    (separates : env.SeparatesActions) (sound : IncidentsSound env store)
    {openIncidents : List OperationalAlertIncident} {call : CaptureCall}
    (reads : ReadsOpen openIncidents store) (newBucket : store.snapshots.any (fun snapshot =>
      snapshot.bucketStartedAt = bucketStart settings call.observedAt) = false) :
    ∃ next ids, captureBucket env settings openIncidents store call = .ok (next, ids) ∧
      IncidentsSound env next ∧ Tracked settings store next ∧ Follows call next := by
  have snapshotSound : IncidentsSound env { store with
      snapshots := snapshotsAfter settings call.observedAt store.snapshots } :=
    ⟨sound.openKey, sound.resolvedKey, sound.onlyOpen, sound.levels,
      sound.versions, sound.known, fun action stored =>
        ⟨(sound.actions action stored).hashed, (sound.actions action stored).reached⟩⟩
  obtain ⟨next, ids, done, handled, held, firesHandled, openHandled⟩ :=
    reconcile_succeeds configured separates snapshotSound ⟨reads.mem, reads.nodup⟩
      (keys_currentStates call.alerts call.evaluations)
  have isHandled : ∀ incident ∈ next.incidents, incident.status = .opened →
      incident.alertKey ∈ handled := by
    intro incident mem isOpen
    by_contra notHandled
    exact notHandled (openHandled incident (held.unhandled incident mem isOpen notHandled) isOpen)
  have tracked : Tracked settings { store with
      snapshots := snapshotsAfter settings call.observedAt store.snapshots }
      next := ⟨held.transits, held.opens, held.sound.levels⟩
  refine ⟨next, ids, ?_, held.sound, tracked.of_same rfl rfl, ?_, ?_⟩
  · rw [captureBucket, newBucket]
    exact done
  · intro alertKey fires
    have isCurrent := mem_keys_currentStates.mpr fires
    obtain ⟨incident, mem, isOpen, key⟩ :=
      held.present alertKey (firesHandled alertKey isCurrent) isCurrent
    refine ⟨incident, ⟨mem, isOpen, key⟩, ?_⟩
    rintro other ⟨otherMem, otherOpen, otherKey⟩
    exact held.sound.onlyOpen other otherMem incident mem otherOpen isOpen (otherKey.trans key.symm)
  · intro incident mem isOpen
    exact mem_keys_currentStates.mp
      (held.firing incident mem isOpen (isHandled incident mem isOpen))

/-! ## Transactions in flight -/

structure CaptureSound (settings : ReliabilitySettings)
    (world : ReliabilityWorld) (capture : StartedCapture) : Prop where
  reads : ReadsOpen capture.openIncidents world.store
  newBucket : world.captured settings capture.call = false
  unlocked : ∀ action ∈ world.actions, ∀ incident ∈ capture.openIncidents,
    incident.id ≠ action.incidentId

structure WorldSound (env : ReliabilityEnvironment)
    (settings : ReliabilitySettings) (world : ReliabilityWorld) : Prop where
  store : IncidentsSound env world.store
  single : world.captures.length ≤ 1
  captures : ∀ capture ∈ world.captures, CaptureSound settings world capture

theorem worldSound_initial : WorldSound env settings .initial where
  store := incidentsSound_empty
  single := Nat.zero_le 1
  captures _ mem := absurd mem List.not_mem_nil

theorem readsOpen_visibleOpen {locked : List Uuid}
    (free : ∀ incident ∈ store.incidents, incident.status = .opened →
      incident.id ∉ locked) : ReadsOpen (visibleOpen store locked) store where
  mem incident := by
    rw [visibleOpen, List.mem_filter]
    constructor
    · rintro ⟨mem, visible⟩
      rw [Bool.and_eq_true] at visible
      exact ⟨mem, of_decide_eq_true visible.1⟩
    · rintro ⟨mem, isOpen⟩
      refine ⟨mem, ?_⟩
      rw [Bool.and_eq_true, Bool.not_eq_true', List.contains_eq_mem, decide_eq_false_iff_not]
      exact ⟨decide_eq_true isOpen, free incident mem isOpen⟩
  nodup := (List.Nodup.of_map _ store.incidents.keysNodup).filter _

theorem ReadsOpen.act {openIncidents : List OperationalAlertIncident}
    (reads : ReadsOpen openIncidents store)
    (unlocked : ∀ incident ∈ openIncidents, incident.id ≠ call.incidentId)
    (done : recordOperationalIncidentAction env store call =
      .ok next) : ReadsOpen openIncidents next := by
  obtain ⟨incident, mem, named, accepted, appended⟩ :=
    recordOperationalIncidentAction_ok done
  obtain ⟨_, rfl⟩ := appendIncidentAction_ok appended
  obtain ⟨succeeds, status, _, _⟩ := succeeds_actedIncident call incident
  refine ⟨fun other => ?_, reads.nodup⟩
  constructor
  · intro isRead
    obtain ⟨old, isOpen⟩ := (reads.mem other).mp isRead
    refine ⟨ReliabilityStore.mem_putIncident.mpr (Or.inl ⟨old, ?_⟩), isOpen⟩
    rw [succeeds.id, named]
    exact unlocked other isRead
  · rintro ⟨written, isOpen⟩
    rcases ReliabilityStore.mem_putIncident.mp written with
      ⟨old, _⟩ | ⟨rfl, _⟩
    · exact (reads.mem other).mpr ⟨old, isOpen⟩
    · -- the action's incident is locked by no capture, so it is not open
      rw [status] at isOpen
      have isRead := (reads.mem incident).mpr ⟨mem, isOpen⟩
      exact absurd named (unlocked incident isRead)

theorem snapshots_act (done : recordOperationalIncidentAction env store call =
      .ok next) : next.snapshots = store.snapshots := by
  obtain ⟨_, _, _, _, appended⟩ := recordOperationalIncidentAction_ok done
  rw [(appendIncidentAction_ok appended).2]
  rfl

theorem WorldSound.beginCapture (sound : WorldSound env settings world)
    {call : CaptureCall} (alone : CapturesAlone world (.beginCapture call))
    (newBucket : world.captured settings call = false) :
    WorldSound env settings { world with captures :=
      world.captures ++ [⟨call, visibleOpen world.store world.locked⟩] } := by
  obtain ⟨noCapture, unlocked⟩ := alone call rfl
  have lockedBy : world.locked = world.actions.map IncidentActionCall.incidentId := by
    rw [ReliabilityWorld.locked, noCapture]
    rfl
  have reads : ReadsOpen (visibleOpen world.store world.locked) world.store := by
    refine readsOpen_visibleOpen (fun incident mem isOpen isLocked => ?_)
    rw [lockedBy] at isLocked
    obtain ⟨action, actionMem, same⟩ := List.mem_map.mp isLocked
    exact unlocked action actionMem incident mem same.symm isOpen
  refine ⟨sound.store, ?_, ?_⟩
  · rw [noCapture]
    exact Nat.le_refl 1
  · intro capture mem
    rw [noCapture, List.nil_append, List.mem_singleton] at mem
    subst mem
    refine ⟨reads, newBucket, fun action actionMem incident isRead same => ?_⟩
    obtain ⟨stored, isOpen⟩ := (reads.mem incident).mp isRead
    exact unlocked action actionMem incident stored same isOpen

theorem WorldSound.beginAction (sound : WorldSound env settings world)
    (free : world.locked.contains call.incidentId = false) :
    WorldSound env settings
      { world with actions := world.actions ++ [call] } := by
  refine ⟨sound.store, sound.single, fun capture mem => ?_⟩
  have captureSound := sound.captures capture mem
  refine ⟨captureSound.reads, captureSound.newBucket, ?_⟩
  intro action actionMem incident isRead same
  rcases List.mem_append.mp actionMem with old | new
  · exact captureSound.unlocked action old incident isRead same
  · rw [List.mem_singleton.mp new] at same
    have isLocked : call.incidentId ∈ world.locked := by
      refine List.mem_append_left _ (List.mem_flatMap.mpr ⟨capture, mem, ?_⟩)
      rw [← same]
      exact List.mem_map_of_mem isRead
    rw [List.contains_eq_mem, decide_eq_false_iff_not] at free
    exact free isLocked

theorem captures_erased (single : world.captures.length ≤ 1) {position : Nat}
    {capture : StartedCapture} (found : world.captures[position]? = some capture) :
    world.captures.eraseIdx position = [] := by
  obtain ⟨inside, _⟩ := List.getElem?_eq_some_iff.mp found
  rw [List.eq_nil_iff_length_eq_zero, List.length_eraseIdx_of_lt inside]
  omega

/-- The step lemma: what captures in flight rely on is kept, and the step
tracks the alerts. -/
theorem WorldSound.step (configured : settings.PagesConfigured) (separates : env.SeparatesActions)
    (sound : WorldSound env settings world) (alone : CapturesAlone world label)
    (taken : stepsOf (ReliabilityWorld.next env settings) world label after) :
    WorldSound env settings after ∧ TracksAlerts env settings world label after := by
  rw [stepsOf] at taken
  cases label with
  | beginCapture call =>
    rw [ReliabilityWorld.next] at taken
    split at taken
    · rw [← Option.some.inj taken]
      exact ⟨sound, .refl sound.store, fun _ _ same => by cases same⟩
    · next starts =>
        rw [← Option.some.inj taken]
        rw [Bool.or_eq_true, not_or, Bool.not_eq_true, Bool.not_eq_true] at starts
        exact ⟨sound.beginCapture alone starts.2, .refl sound.store, fun _ _ same => by cases same⟩
  | beginAction call =>
    rw [ReliabilityWorld.next] at taken
    split at taken
    · rw [← Option.some.inj taken]
      exact ⟨sound, .refl sound.store, fun _ _ same => by cases same⟩
    · split at taken
      · cases taken
      · next free =>
          rw [← Option.some.inj taken]
          exact ⟨sound.beginAction (Bool.not_eq_true _ ▸ free),
            .refl sound.store, fun _ _ same => by cases same⟩
  | commitCapture position =>
    rw [ReliabilityWorld.next, Option.map_eq_some_iff] at taken
    obtain ⟨capture, found, rfl⟩ := taken
    have captureSound :=
      sound.captures capture (List.mem_of_getElem? found)
    obtain ⟨next, ids, done, nextSound, tracked, follows⟩ :=
      captureBucket_follows configured separates sound.store
        captureSound.reads captureSound.newBucket
    rw [done, captures_erased sound.single found]
    refine ⟨⟨nextSound, Nat.zero_le 1, fun _ mem => absurd mem List.not_mem_nil⟩, tracked, ?_⟩
    intro other otherCapture same otherFound
    cases same
    rw [found] at otherFound
    cases otherFound
    exact ⟨⟨ids, done⟩, follows⟩
  | commitAction position =>
    rw [ReliabilityWorld.next, Option.map_eq_some_iff] at taken
    obtain ⟨call, found, rfl⟩ := taken
    have isMem := List.mem_of_getElem? found
    cases done : recordOperationalIncidentAction env world.store call with
    | error raised =>
      refine ⟨⟨sound.store, sound.single, fun capture mem => ?_⟩,
        .refl sound.store, fun _ _ same => by cases same⟩
      have captureSound := sound.captures capture mem
      exact ⟨captureSound.reads, captureSound.newBucket,
        fun action actionMem => captureSound.unlocked action (List.mem_of_mem_eraseIdx actionMem)⟩
    | ok next =>
      obtain ⟨nextSound, tracked⟩ := sound.store.act done
      refine ⟨⟨nextSound, sound.single, fun capture mem => ?_⟩, tracked,
        fun _ _ same => by cases same⟩
      have captureSound := sound.captures capture mem
      refine ⟨captureSound.reads.act (captureSound.unlocked call isMem) done, ?_,
        fun action actionMem => captureSound.unlocked action (List.mem_of_mem_eraseIdx actionMem)⟩
      have newBucket := captureSound.newBucket
      rw [ReliabilityWorld.captured] at newBucket ⊢
      rw [← newBucket]
      change next.snapshots.any _ = world.store.snapshots.any _
      rw [snapshots_act done]

end Steps

/-- In every run whose captures begin alone each one commits and follows the alerts, and a step
makes at most one transition of an incident, counted and delivered once. -/
theorem incidents_trackAlerts (env : ReliabilityEnvironment)
    (settings : ReliabilitySettings) (configured : settings.PagesConfigured)
    (separates : env.SeparatesActions)
    {labels : List ReliabilityLabel} {world : ReliabilityWorld}
    (exec : Execution (Guarded CapturesAlone
      (stepsOf (ReliabilityWorld.next env settings))) .initial labels world) :
    ∀ label after, Guarded CapturesAlone (stepsOf (ReliabilityWorld.next env settings)) world label
          after → TracksAlerts env settings world label after := by
  have sound : WorldSound env settings world :=
    exec.invariant (WorldSound env settings) worldSound_initial (fun _ _ _ held taken =>
        (held.step configured separates taken.1 taken.2).1)
  intro label after taken
  exact (sound.step configured separates taken.1 taken.2).2

def memberText (payload : Json) (name : String) : List Char :=
  (Json.pyStrOrEmpty (fun _ => "") (payload.get? name)).toList

def actionText (payload : Json) : String :=
  String.ofList (List.replicate (memberText payload "incident_id").length 'i' ++
    '.' :: (List.replicate (memberText payload "action_type").length 't' ++
      '.' :: memberText payload "reason"))

def unaryReliability : ReliabilityEnvironment where
  text := { lower := fun text => text, render := fun _ => "" }
  canonicalHash := actionText
  uuidText id := String.ofList (List.replicate id 'i')
  isoFormat _ := ""

theorem replicate_append_cons_inj {count other : Nat} {tail otherTail : List Char} {mark : Char}
    (apart : mark ≠ '.') (same : List.replicate count mark ++ '.' :: tail =
      List.replicate other mark ++ '.' :: otherTail) :
    count = other ∧ tail = otherTail := by
  induction count generalizing other with
  | zero =>
    cases other with
    | zero =>
      exact ⟨rfl, (List.cons.inj same).2⟩
    | succ other =>
      exact absurd (List.cons.inj same).1.symm apart
  | succ count ih =>
    cases other with
    | zero =>
      exact absurd (List.cons.inj same).1 apart
    | succ other =>
      obtain ⟨rfl, tails⟩ := ih (List.cons.inj same).2
      exact ⟨rfl, tails⟩

theorem memberText_actionPayload (incidentId : Uuid) (actionType : IncidentActionType)
    (reason : String) (assignee : Option String) (actor : SignerIdentity) (observedAt : Time)
    (previousHash : Option String) :
    let payload := actionPayload unaryReliability incidentId actionType reason
      assignee actor observedAt previousHash
    memberText payload "incident_id" = List.replicate incidentId 'i' ∧
      memberText payload "action_type" = actionType.text.toList ∧
      memberText payload "reason" = reason.toList := by
  simp [memberText, actionPayload, Json.get?, unaryReliability]

theorem unaryReliability_separates : unaryReliability.SeparatesActions := by
  intro incidentId otherId actionType otherType reason otherReason assignee
    otherAssignee actor otherActor observedAt otherAt previousHash otherHash
    same
  have lists := String.ofList_injective same
  obtain ⟨ids, rest⟩ := replicate_append_cons_inj (by decide) lists
  obtain ⟨types, reasons⟩ := replicate_append_cons_inj (by decide) rest
  obtain ⟨named, typed, reasoned⟩ := memberText_actionPayload incidentId
    actionType reason assignee actor observedAt previousHash
  obtain ⟨otherNamed, otherTyped, otherReasoned⟩ := memberText_actionPayload
    otherId otherType otherReason otherAssignee otherActor otherAt otherHash
  rw [named, otherNamed, List.length_replicate, List.length_replicate] at ids
  rw [typed, otherTyped] at types
  rw [reasoned, otherReasoned] at reasons
  refine ⟨ids, ?_, String.toList_inj.mp reasons⟩
  cases actionType <;> cases otherType <;> first | rfl | cases types

def operatorIdentity : SignerIdentity where
  subjectId := "operator"
  displayName := "Operator"
  role := some "Admin"
  identityProvider := "provider"
  authSource := "oidc"
  identityVerified := true
  ticketReference := none

def minuteSettings : ReliabilitySettings where
  pagingEnabled := true
  activePagingKeyId := .ok "key"
  pagingProvider := .ok "provider"
  escalationSeconds := 60
  escalationPositive := by decide
  snapshotIntervalSeconds := 60
  snapshotRetentionSeconds := 86400

def captureAt (alerts : List OperationalAlert) (now : Time) : CaptureCall :=
  ⟨operatorIdentity, alerts, [], now, Chained.firstLatest⟩

def acknowledgement : IncidentActionCall :=
  ⟨0, operatorIdentity, .acknowledged, "seen", none, 150, Chained.firstLatest⟩

def opensQueue : List ReliabilityLabel :=
  [.beginCapture (captureAt [⟨"queue", .critical⟩] 0), .commitCapture 0]

def afterTransactions (labels : List ReliabilityLabel) : Option ReliabilityWorld :=
  perform (ReliabilityWorld.next unaryReliability minuteSettings) .initial labels

def beginsAlone (world : ReliabilityWorld) : ReliabilityLabel → Bool
  | .beginCapture _ => world.captures.isEmpty && world.actions.isEmpty
  | _ => true

theorem beginsAlone_sound (world : ReliabilityWorld) (label : ReliabilityLabel)
    (checked : beginsAlone world label = true) : CapturesAlone world label := by
  rintro call rfl
  rw [beginsAlone, Bool.and_eq_true, List.isEmpty_iff, List.isEmpty_iff] at checked
  refine ⟨checked.1, fun action mem => ?_⟩
  rw [checked.2] at mem
  cases mem

theorem incidents_trackAlerts_queue : ∃ world after, afterTransactions (opensQueue ++
        [.beginCapture (captureAt [⟨"queue", .critical⟩] 120),
          .commitCapture 0, .beginAction acknowledgement, .commitAction 0,
          .beginCapture (captureAt [] 240)]) = some world ∧
      world.next unaryReliability minuteSettings (.commitCapture 0) = some after ∧
      after.store.incidents.rows.map (fun incident => (incident.status,
        incident.escalationLevel, incident.transitionVersion)) = [(.resolved, 2, 3)] ∧
      TracksAlerts unaryReliability minuteSettings world (.commitCapture 0)
        after := by
  let labels : List ReliabilityLabel := opensQueue ++
    [.beginCapture (captureAt [⟨"queue", .critical⟩] 120), .commitCapture 0,
      .beginAction acknowledgement, .commitAction 0,
      .beginCapture (captureAt [] 240)]
  set_option maxRecDepth 8000 in
  have performed : (afterTransactions labels).any (fun world =>
      (world.next unaryReliability minuteSettings (.commitCapture 0)).any
        (fun after => after.store.incidents.rows.map (fun incident =>
          (incident.status, incident.escalationLevel,
            incident.transitionVersion)) = [(.resolved, 2, 3)])) = true := by
    decide
  obtain ⟨world, reached, rest⟩ := (Option.any_eq_true _ _).mp performed
  obtain ⟨after, taken, rows⟩ := (Option.any_eq_true _ _).mp rest
  have guarded : MeetsGuard CapturesAlone
      (ReliabilityWorld.next unaryReliability minuteSettings) .initial
      labels := by
    refine MeetsGuard.of_checks beginsAlone beginsAlone_sound ?_
    set_option maxRecDepth 8000 in
    decide
  exact ⟨world, after, reached, taken, of_decide_eq_true rows,
    incidents_trackAlerts unaryReliability minuteSettings
      (fun _ => ⟨⟨"key", rfl⟩, "provider", rfl⟩) unaryReliability_separates
      (Execution.of_perform_guarded reached guarded) (.commitCapture 0) after
      ⟨fun _ same => (by cases same), taken⟩⟩

/-- An operator holds the lock when the cycle begins: it raises where the alert still fires, and
leaves the incident open where it has stopped. -/
theorem captures_skipLocked : (∃ world capture, afterTransactions (opensQueue ++
          [.beginAction acknowledgement,
            .beginCapture (captureAt [⟨"queue", .critical⟩] 180)]) =
        some world ∧ world.captures[0]? = some capture ∧
      ∀ next ids, captureBucket unaryReliability minuteSettings
        capture.openIncidents world.store capture.call ≠ .ok (next, ids)) ∧
    ∃ world, afterTransactions (opensQueue ++
          [.beginAction acknowledgement, .beginCapture (captureAt [] 180),
            .commitCapture 0]) = some world ∧
      ¬ Follows (captureAt [] 180) world.store := by
  constructor
  · set_option maxRecDepth 8000 in
    have performed : (afterTransactions (opensQueue ++ [.beginAction acknowledgement,
          .beginCapture (captureAt [⟨"queue", .critical⟩] 180)])).any
        (fun world => (world.captures[0]?).any (fun capture =>
          !(captureBucket unaryReliability minuteSettings
            capture.openIncidents world.store capture.call).isOk)) = true := by
      decide
    obtain ⟨world, reached, rest⟩ := (Option.any_eq_true _ _).mp performed
    obtain ⟨capture, found, raises⟩ := (Option.any_eq_true _ _).mp rest
    refine ⟨world, capture, reached, found, fun next ids done => ?_⟩
    rw [done] at raises
    cases raises
  · set_option maxRecDepth 8000 in
    have performed : (afterTransactions (opensQueue ++
        [.beginAction acknowledgement, .beginCapture (captureAt [] 180),
          .commitCapture 0])).any (fun world =>
        world.store.incidents.rows.any (fun incident =>
          incident.status = .opened)) = true := by
      decide
    obtain ⟨world, reached, stays⟩ := (Option.any_eq_true _ _).mp performed
    refine ⟨world, reached, fun follows => ?_⟩
    obtain ⟨incident, mem, isOpen⟩ := List.any_eq_true.mp stays
    rcases follows.fires incident mem (of_decide_eq_true isOpen) with
      ⟨_, absent, _⟩ | ⟨_, absent, _⟩
    · cases absent
    · cases absent

end ModelAtlas.Reliability
