import ModelAtlas.Reliability.CaptureCycles

/-!
# The reconciliation of every open incident

Where a capture cycle has read every open incident, each key that fires has one
open incident in the end, and each transition is counted and delivered once.
-/

namespace ModelAtlas.Reliability

open Foundations Approval

variable {state : AlertState} {alertKey : String}

def CaptureCall.Fires (call : CaptureCall) (alertKey : String) : Prop :=
  (∃ alert ∈ call.alerts, alert.key = alertKey) ∨
    ∃ evaluation ∈ call.evaluations, evaluation.breached = true ∧
      "slo:" ++ evaluation.sloKey = alertKey

theorem mem_keys_setState {current : List AlertState} :
    alertKey ∈ (setState current state).map AlertState.alertKey ↔
      alertKey ∈ current.map AlertState.alertKey ∨ state.alertKey = alertKey := by
  rw [setState, List.map_append, List.mem_append, List.map_singleton, List.mem_singleton]
  constructor
  · rintro (kept | rfl)
    · obtain ⟨other, mem, rfl⟩ := List.mem_map.mp kept
      exact Or.inl (List.mem_map_of_mem (List.mem_of_mem_filter mem))
    · exact Or.inr rfl
  · rintro (old | rfl)
    · by_cases same : alertKey = state.alertKey
      · exact Or.inr same
      · obtain ⟨other, mem, rfl⟩ := List.mem_map.mp old
        exact Or.inl (List.mem_map_of_mem (List.mem_filter.mpr ⟨mem, decide_eq_true same⟩))
    · exact Or.inr rfl

theorem mem_keys_foldl {states current : List AlertState} :
    alertKey ∈ (states.foldl setState current).map AlertState.alertKey ↔
      alertKey ∈ current.map AlertState.alertKey ∨ alertKey ∈ states.map AlertState.alertKey := by
  induction states generalizing current with
  | nil =>
    simp
  | cons state rest ih =>
    rw [List.foldl_cons, ih, mem_keys_setState, or_assoc, List.map_cons, List.mem_cons, eq_comm]

theorem mem_keys_currentStates {call : CaptureCall} :
    alertKey ∈ (currentStates call.alerts call.evaluations).map
        AlertState.alertKey ↔ call.Fires alertKey := by
  rw [currentStates, mem_keys_foldl, mem_keys_foldl, CaptureCall.Fires]
  simp only [List.map_nil, List.not_mem_nil, false_or, List.mem_map, exists_exists_and_eq_and]
  simp only [List.mem_filter, and_assoc]

def DeliveredOnce (settings : ReliabilitySettings) (before after : ReliabilityStore)
    (incidentId : Uuid) (transition : TransitionType) (version : Nat) : Prop :=
  settings.pagingEnabled = true → (∀ delivery ∈ before.deliveries,
      ¬ delivery.Pages incidentId transition version) ∧
    ∃! delivery, delivery ∈ after.deliveries ∧ delivery.Pages incidentId transition version

inductive Transits (settings : ReliabilitySettings)
    (before after : ReliabilityStore)
    (incident new : OperationalAlertIncident) : Prop
  | stays (status : new.status = incident.status)
      (level : new.escalationLevel = incident.escalationLevel)
      (version : new.transitionVersion = incident.transitionVersion)
  | escalates (wasOpen : incident.status = .opened)
      (isOpen : new.status = .opened)
      (level : incident.escalationLevel < new.escalationLevel)
      (unacknowledged : incident.acknowledgedAt = none)
      (critical : new.severity = .critical)
      (version : new.transitionVersion = incident.transitionVersion + 1)
      (delivered : DeliveredOnce settings before after incident.id .escalated
        new.transitionVersion)
  | resolves (wasOpen : incident.status = .opened)
      (isResolved : new.status = .resolved)
      (level : new.escalationLevel = incident.escalationLevel)
      (version : new.transitionVersion = incident.transitionVersion + 1)
      (delivered : DeliveredOnce settings before after incident.id .resolved
        new.transitionVersion)

structure Opens (settings : ReliabilitySettings)
    (before after : ReliabilityStore) (new : OperationalAlertIncident) :
    Prop where
  isOpen : new.status = .opened
  level : new.escalationLevel = 0
  version : new.transitionVersion = 1
  delivered : DeliveredOnce settings before after new.id .opened
    new.transitionVersion

section Transitions

variable {settings : ReliabilitySettings}
  {start store next : ReliabilityStore}
  {incident new : OperationalAlertIncident} {incidentId : Uuid}
  {transition : TransitionType} {version : Nat}

theorem DeliveredOnce.later
    (held : DeliveredOnce settings start store incidentId transition version)
    (kept : ∀ delivery ∈ store.deliveries, delivery ∈ next.deliveries)
    (own : ∀ delivery ∈ next.deliveries, delivery ∈ store.deliveries ∨
      delivery.incidentId = new.id) (apart : incidentId ≠ new.id) :
    DeliveredOnce settings start next incidentId transition version := by
  intro enabled
  obtain ⟨unused, delivery, ⟨mem, pages⟩, only⟩ := held enabled
  refine ⟨unused, delivery, ⟨kept delivery mem, pages⟩, ?_⟩
  rintro other ⟨otherMem, otherPages⟩
  rcases own other otherMem with old | named
  · exact only other ⟨old, otherPages⟩
  · exact absurd (otherPages.1.symm.trans named) apart

theorem Delivers.once (delivers : Delivers settings incidentId transition version store next)
    (older : ∀ delivery ∈ start.deliveries, delivery ∈ store.deliveries) :
    DeliveredOnce settings start next incidentId transition version := by
  intro enabled
  obtain ⟨unused, once⟩ := delivers.delivered enabled
  exact ⟨fun delivery mem => unused delivery (older delivery mem), once⟩

theorem Transits.later (held : Transits settings start store incident new)
    {written : OperationalAlertIncident}
    (kept : ∀ delivery ∈ store.deliveries, delivery ∈ next.deliveries)
    (own : ∀ delivery ∈ next.deliveries, delivery ∈ store.deliveries ∨
      delivery.incidentId = written.id) (apart : incident.id ≠ written.id) :
    Transits settings start next incident new := by
  cases held with
  | stays status level version =>
    exact .stays status level version
  | escalates wasOpen isOpen level unacknowledged critical version delivered =>
    exact .escalates wasOpen isOpen level unacknowledged critical version
      (delivered.later kept own apart)
  | resolves wasOpen isResolved level version delivered =>
    exact .resolves wasOpen isResolved level version (delivered.later kept own apart)

theorem Opens.later (held : Opens settings start store new) {written : OperationalAlertIncident}
    (kept : ∀ delivery ∈ store.deliveries, delivery ∈ next.deliveries)
    (own : ∀ delivery ∈ next.deliveries, delivery ∈ store.deliveries ∨
      delivery.incidentId = written.id) (apart : new.id ≠ written.id) :
    Opens settings start next new where
  isOpen := held.isOpen
  level := held.level
  version := held.version
  delivered := held.delivered.later kept own apart

end Transitions

/-- The store while the alert keys are handled one after the other: the
incidents of the others are as they were at the start. -/
structure Reconciling (env : ReliabilityEnvironment)
    (settings : ReliabilitySettings) (current : List AlertState)
    (start : ReliabilityStore) (handled : List String)
    (store : ReliabilityStore) : Prop where
  sound : IncidentsSound env store
  deliveries : ∀ delivery ∈ start.deliveries, delivery ∈ store.deliveries
  untouched : ∀ incident ∈ start.incidents,
    (incident.status = .opened → incident.alertKey ∉ handled) →
      incident ∈ store.incidents
  unhandled : ∀ incident ∈ store.incidents, incident.status = .opened →
    incident.alertKey ∉ handled → incident ∈ start.incidents
  transits : ∀ incident ∈ start.incidents, ∃ new ∈ store.incidents,
    new.id = incident.id ∧ Transits settings start store incident new
  opens : ∀ new ∈ store.incidents,
    (∀ incident ∈ start.incidents, incident.id ≠ new.id) →
      Opens settings start store new
  firing : ∀ incident ∈ store.incidents, incident.status = .opened →
    incident.alertKey ∈ handled →
      incident.alertKey ∈ current.map AlertState.alertKey
  present : ∀ alertKey ∈ handled,
    alertKey ∈ current.map AlertState.alertKey →
      ∃ incident ∈ store.incidents, incident.status = .opened ∧
        incident.alertKey = alertKey

section Reconciliation

variable {env : ReliabilityEnvironment}
  {settings : ReliabilitySettings} {query : LatestActionQuery}
  {current : List AlertState} {observedAt : Time}
  {start store next : ReliabilityStore} {handled : List String}
  {openIncidents : List OperationalAlertIncident}
  {incident new : OperationalAlertIncident}

theorem reconciling_start (sound : IncidentsSound env start) :
    Reconciling env settings current start [] start where
  sound := sound
  deliveries _ mem := mem
  untouched _ mem _ := mem
  unhandled _ mem _ _ := mem
  transits incident mem := ⟨incident, mem, rfl, .stays rfl rfl rfl⟩
  opens new mem fresh := absurd rfl (fresh new mem)
  firing _ _ _ isHandled := absurd isHandled List.not_mem_nil
  present _ isHandled := absurd isHandled List.not_mem_nil

/-- The incident that a turn writes is the open one of its key, or a new
one. -/
inductive Writes (settings : ReliabilitySettings)
    (start store next : ReliabilityStore) (new : OperationalAlertIncident) :
    Prop
  | stored (incident : OperationalAlertIncident)
      (mem : incident ∈ start.incidents)
      (isOpen : incident.status = .opened) (named : new.id = incident.id)
      (key : new.alertKey = incident.alertKey)
      (transits : Transits settings start next incident new)
  | fresh (unnamed : ∀ other ∈ store.incidents, other.id ≠ new.id)
      (opens : Opens settings start next new)

theorem Reconciling.write (new : OperationalAlertIncident) (startSound : IncidentsSound env start)
    (held : Reconciling env settings current start handled store) (sound : IncidentsSound env next)
    (written : ∀ other, other ∈ next.incidents ↔
      (other ∈ store.incidents ∧ other.id ≠ new.id) ∨ other = new)
    (kept : ∀ delivery ∈ store.deliveries, delivery ∈ next.deliveries)
    (own : ∀ delivery ∈ next.deliveries, delivery ∈ store.deliveries ∨ delivery.incidentId = new.id)
    (notHandled : new.alertKey ∉ handled)
    (fires : new.status = .opened ↔ new.alertKey ∈ current.map AlertState.alertKey)
    (writes : Writes settings start store next new) :
    Reconciling env settings current start (handled ++ [new.alertKey])
      next := by
  have isWritten : new ∈ next.incidents := (written new).mpr (Or.inr rfl)
  have older : ∀ other ∈ start.incidents, ∃ row ∈ store.incidents, row.id = other.id := by
    intro other mem
    obtain ⟨row, rowMem, named, _⟩ := held.transits other mem
    exact ⟨row, rowMem, named⟩
  refine ⟨sound, ?_, ?_, ?_, ?_, ?_, ?_, ?_⟩
  · exact fun delivery mem => kept delivery (held.deliveries delivery mem)
  · intro other mem apart
    have inStore := held.untouched other mem (fun isOpen isHandled =>
      apart isOpen (List.mem_append_left _ isHandled))
    refine (written other).mpr (Or.inl ⟨inStore, fun same => ?_⟩)
    cases writes with
    | stored incident incidentMem isOpen named key _ =>
      have equal : other = incident := Table.eq_of_key_eq mem incidentMem (same.trans named)
      subst equal
      refine apart isOpen ?_
      rw [key]
      exact List.mem_append_right _ (List.mem_singleton_self _)
    | fresh unnamed _ =>
      exact unnamed other inStore same
  · intro other mem isOpen apart
    rw [List.mem_append, List.mem_singleton, not_or] at apart
    rcases (written other).mp mem with ⟨inStore, _⟩ | rfl
    · exact held.unhandled other inStore isOpen apart.1
    · exact absurd rfl apart.2
  · intro other mem
    by_cases same : other.id = new.id
    · cases writes with
      | stored incident incidentMem _ named _ transits =>
        have equal : other = incident := Table.eq_of_key_eq mem incidentMem (same.trans named)
        subst equal
        exact ⟨new, isWritten, same.symm, transits⟩
      | fresh unnamed _ =>
        obtain ⟨row, rowMem, named⟩ := older other mem
        exact absurd (named.trans same) (unnamed row rowMem)
    · obtain ⟨row, rowMem, named, transits⟩ := held.transits other mem
      exact ⟨row, (written row).mpr (Or.inl ⟨rowMem, named ▸ same⟩), named,
        transits.later kept own same⟩
  · intro other mem fresh
    rcases (written other).mp mem with ⟨inStore, apart⟩ | rfl
    · exact (held.opens other inStore fresh).later kept own apart
    · cases writes with
      | stored incident incidentMem _ named _ _ =>
        exact absurd named.symm (fresh incident incidentMem)
      | fresh _ opens =>
        exact opens
  · intro other mem isOpen isHandled
    rcases (written other).mp mem with ⟨inStore, apart⟩ | rfl
    · rcases List.mem_append.mp isHandled with old | last
      · exact held.firing other inStore isOpen old
      · have same := List.mem_singleton.mp last
        rw [same]
        refine fires.mp ?_
        cases writes with
        | fresh _ opens =>
          exact opens.isOpen
        | stored incident incidentMem wasOpen named key _ =>
          -- the open incident of this key is the one that was written
          have inStart := held.unhandled other inStore isOpen (same ▸ notHandled)
          have equal := startSound.onlyOpen other inStart incident
            incidentMem isOpen wasOpen (same.trans key)
          exact absurd (equal ▸ named.symm) apart
    · exact fires.mp isOpen
  · intro alertKey isHandled isCurrent
    rcases List.mem_append.mp isHandled with old | last
    · obtain ⟨other, inStore, isOpen, key⟩ :=
        held.present alertKey old isCurrent
      refine ⟨other, (written other).mpr (Or.inl ⟨inStore, fun same => ?_⟩), isOpen, key⟩
      cases writes with
      | stored incident incidentMem _ named sameKey _ =>
        have kept := held.untouched incident incidentMem (fun _ => sameKey ▸ notHandled)
        have equal : other = incident :=
          Table.eq_of_key_eq inStore kept (same.trans named)
        subst equal
        rw [sameKey, key] at notHandled
        exact notHandled old
      | fresh unnamed _ =>
        exact unnamed other inStore same
    · have same := List.mem_singleton.mp last
      rw [same] at isCurrent ⊢
      exact ⟨new, isWritten, fires.mpr isCurrent, rfl⟩

theorem Reconciling.open (configured : settings.PagesConfigured)
    (startSound : IncidentsSound env start)
    (held : Reconciling env settings current start handled store) (isCurrent : state ∈ current)
    (notHandled : state.alertKey ∉ handled)
    (noneOpen : ∀ other ∈ start.incidents, other.status = .opened →
      other.alertKey ≠ state.alertKey) :
    ∃ next ids, openIncident settings store state observedAt = .ok (next, ids) ∧
      Reconciling env settings current start (handled ++ [state.alertKey]) next := by
  have unused : ∀ other ∈ store.incidents, other.activeKey ≠ some state.alertKey := by
    intro other mem same
    cases status : other.status with
    | opened =>
      have key := held.sound.openKey other mem status
      have sameKey : other.alertKey = state.alertKey :=
        Option.some.inj (key.symm.trans same)
      have inStart := held.unhandled other mem status (sameKey ▸ notHandled)
      exact noneOpen other inStart status sameKey
    | resolved =>
      rw [held.sound.resolvedKey other mem status] at same
      cases same
  have unnamed : ∀ other ∈ store.incidents, other.id ≠ store.uuids :=
    fun other mem => Nat.ne_of_lt (store.incidentsDrawn other mem)
  have inserted : IncidentsSound env
      (store.insertIncident (openedIncident store state observedAt) rfl) :=
    held.sound.insert rfl rfl rfl unused (Nat.zero_le 3)
  have isMem : openedIncident store state observedAt ∈
      (store.insertIncident (openedIncident store state observedAt)
        rfl).incidents :=
    ReliabilityStore.mem_insertIncident.mpr (Or.inr rfl)
  have undelivered : ∀ delivery ∈ store.deliveries, ¬ delivery.Pages store.uuids .opened 1 := by
    rintro delivery mem ⟨named, _⟩
    obtain ⟨other, otherMem, otherNamed, _⟩ :=
      held.sound.versions delivery mem
    exact unnamed other otherMem (otherNamed.trans named)
  obtain ⟨next, ids, created, delivers⟩ : ∃ next ids, createDelivery settings
          (store.insertIncident (openedIncident store state observedAt) rfl)
          (openedIncident store state observedAt) .opened observedAt =
        .ok (next, ids) ∧
      Delivers settings store.uuids .opened 1
        (store.insertIncident (openedIncident store state observedAt) rfl)
        next :=
    createDelivery_succeeds configured undelivered
  refine ⟨next, ids, ?_, ?_⟩
  · rw [openIncident, if_neg, created]
    intro found
    obtain ⟨other, mem, same⟩ := List.any_eq_true.mp found
    exact unused other mem (of_decide_eq_true same)
  · refine Reconciling.write (openedIncident store state observedAt)
      startSound held (inserted.deliver isMem delivers) ?_ delivers.kept ?_ notHandled ?_ ?_
    · intro other
      rw [delivers.incidents]
      refine ReliabilityStore.mem_insertIncident.trans ⟨?_, ?_⟩
      · rintro (old | rfl)
        · exact Or.inl ⟨old, unnamed other old⟩
        · exact Or.inr rfl
      · rintro (⟨old, _⟩ | rfl)
        · exact Or.inl old
        · exact Or.inr rfl
    · intro delivery mem
      exact (delivers.own delivery mem).imp id (fun pages => pages.1)
    · exact ⟨fun _ => List.mem_map_of_mem isCurrent, fun _ => rfl⟩
    · exact .fresh unnamed ⟨rfl, rfl, rfl, delivers.once held.deliveries⟩

theorem maybeEscalateIncident_succeeds (configured : settings.PagesConfigured)
    (separates : env.SeparatesActions) (sound : IncidentsSound env store)
    (mem : incident ∈ store.incidents) (isDue : escalates settings incident observedAt = true) :
    ∃ next ids, maybeEscalateIncident env settings query store incident
          observedAt = .ok (next, ids) ∧
      IncidentsSound env next ∧
      ∃ recorded : ReliabilityStore, recorded.incidents = (store.putIncident
          (escalatedIncident settings incident observedAt)).incidents ∧
        recorded.deliveries = store.deliveries ∧
        Delivers settings incident.id .escalated
          (incident.transitionVersion + 1) recorded next := by
  have higher : incident.escalationLevel < targetLevel settings incident observedAt := by
    rw [escalates, Bool.and_eq_true] at isDue
    exact of_decide_eq_true isDue.2
  have bound : targetLevel settings incident observedAt ≤ 3 :=
    Nat.min_le_left _ _
  have escalatedMem : escalatedIncident settings incident observedAt ∈ (store.putIncident
        (escalatedIncident settings incident observedAt)).incidents :=
    ReliabilityStore.mem_putIncident.mpr (Or.inr ⟨rfl, incident, mem, rfl⟩)
  have escalatedSound : IncidentsSound env
      (store.putIncident (escalatedIncident settings incident observedAt)) :=
    sound.put mem
      ⟨rfl, rfl, id, fun _ => rfl, fun resolved => Or.inr ⟨rfl, resolved⟩,
        Nat.le_succ _, Nat.le_of_lt higher, fun _ => bound⟩
  obtain ⟨action, isAction⟩ : ∃ action, action = incidentAction env
      query (store.putIncident (escalatedIncident settings incident observedAt))
      incident.id .escalated
      (escalationReason (targetLevel settings incident observedAt)
        (ageSeconds incident observedAt)) none controllerIdentity observedAt :=
    ⟨_, rfl⟩
  have actionSound : ActionSound env
      (store.putIncident (escalatedIncident settings incident observedAt))
      action := by
    subst isAction
    refine ⟨⟨_, _, _, _, rfl⟩, fun _ => ⟨_, _, rfl, ?_⟩⟩
    intro other written named
    have own : other = escalatedIncident settings incident observedAt :=
      Table.eq_of_key_eq written escalatedMem named
    rw [own]
    exact Nat.le_refl _
  have named : action.incidentId = incident.id := by
    rw [isAction]
    rfl
  have recordedSound :=
    escalatedSound.append escalatedMem named.symm actionSound
  have unrecorded : ∀ other ∈ store.actions, other.actionHash ≠ action.actionHash := by
    rw [isAction]
    exact sound.unrecorded separates mem higher bound _ _ _ _ _
  obtain ⟨recorded, isRecorded⟩ : ∃ recorded : ReliabilityStore, recorded =
      { store.putIncident (escalatedIncident settings incident observedAt) with
        actions := store.actions ++ [action] } := ⟨_, rfl⟩
  have appended : appendIncidentAction
      (store.putIncident (escalatedIncident settings incident observedAt))
      action = .ok recorded := by
    rw [isRecorded]
    exact appendIncidentAction_succeeds unrecorded
  have undelivered : ∀ delivery ∈ recorded.deliveries, ¬ delivery.Pages incident.id .escalated
        (incident.transitionVersion + 1) := by
    rw [isRecorded]
    exact sound.unused mem (Nat.lt_succ_self _)
  obtain ⟨next, ids, created, delivers⟩ : ∃ next ids, createDelivery settings recorded
          (escalatedIncident settings incident observedAt) .escalated
          observedAt = .ok (next, ids) ∧
        Delivers settings incident.id .escalated (incident.transitionVersion + 1) recorded next :=
    createDelivery_succeeds configured undelivered
  refine ⟨next, ids, ?_, ?_, recorded, ?_, ?_, delivers⟩
  · rw [maybeEscalateIncident, if_pos isDue]
    rw [isAction] at appended
    simp only []
    rw [show (escalatedIncident settings incident observedAt).escalationLevel =
      targetLevel settings incident observedAt from rfl, appended]
    exact created
  · have isMem : escalatedIncident settings incident observedAt ∈
        recorded.incidents := by
      rw [isRecorded]
      exact escalatedMem
    have sound : IncidentsSound env recorded := by
      rw [isRecorded]
      exact recordedSound
    exact sound.deliver isMem delivers
  · rw [isRecorded]
  · rw [isRecorded]
    rfl

theorem Reconciling.see (configured : settings.PagesConfigured) (separates : env.SeparatesActions)
    (startSound : IncidentsSound env start)
    (held : Reconciling env settings current start handled store) (isCurrent : state ∈ current)
    (notHandled : state.alertKey ∉ handled) (mem : incident ∈ start.incidents)
    (isOpen : incident.status = .opened) (key : incident.alertKey = state.alertKey) :
    ∃ next ids, maybeEscalateIncident env settings query
          (store.putIncident (seenIncident state observedAt incident))
          (seenIncident state observedAt incident) observedAt =
        .ok (next, ids) ∧
      Reconciling env settings current start (handled ++ [state.alertKey]) next := by
  have inStore : incident ∈ store.incidents :=
    held.untouched incident mem (fun _ => key ▸ notHandled)
  have fires : (seenIncident state observedAt incident).status = .opened ↔
      incident.alertKey ∈ current.map AlertState.alertKey :=
    ⟨fun _ => key ▸ List.mem_map_of_mem isCurrent, fun _ => isOpen⟩
  have seenSound : IncidentsSound env
      (store.putIncident (seenIncident state observedAt incident)) :=
    held.sound.put inStore
      ⟨rfl, rfl, id, fun _ => rfl, fun resolved => Or.inr ⟨rfl, resolved⟩,
        Nat.le_refl _, Nat.le_refl _, id⟩
  have seenMem : seenIncident state observedAt incident ∈
      (store.putIncident (seenIncident state observedAt incident)).incidents :=
    ReliabilityStore.mem_putIncident.mpr (Or.inr ⟨rfl, incident, inStore, rfl⟩)
  rw [← key]
  rw [← key] at notHandled
  by_cases isDue : escalates settings (seenIncident state observedAt incident) observedAt = true
  · obtain ⟨next, ids, done, sound, recorded, rows, sameDeliveries, delivers⟩ :=
      maybeEscalateIncident_succeeds configured separates seenSound seenMem isDue
    have kept : ∀ delivery ∈ store.deliveries, delivery ∈ next.deliveries := by
      intro delivery stored
      exact delivers.kept delivery (sameDeliveries ▸ stored)
    refine ⟨next, ids, done, Reconciling.write
      (escalatedIncident settings (seenIncident state observedAt incident)
        observedAt) startSound held sound ?_ kept ?_ notHandled fires ?_⟩
    · intro other
      rw [delivers.incidents, rows]
      refine ReliabilityStore.mem_putIncident.trans ⟨?_, ?_⟩
      · rintro (⟨seen, apart⟩ | ⟨rfl, _⟩)
        · rcases ReliabilityStore.mem_putIncident.mp seen with
            ⟨old, _⟩ | ⟨rfl, _⟩
          · exact Or.inl ⟨old, apart⟩
          · exact absurd rfl apart
        · exact Or.inr rfl
      · rintro (⟨old, apart⟩ | rfl)
        · exact Or.inl ⟨ReliabilityStore.mem_putIncident.mpr (Or.inl ⟨old, apart⟩), apart⟩
        · exact Or.inr ⟨rfl, _, seenMem, rfl⟩
    · intro delivery stored
      rcases delivers.own delivery stored with old | pages
      · rw [sameDeliveries] at old
        exact Or.inl old
      · exact Or.inr pages.1
    · have once : DeliveredOnce settings start next incident.id .escalated
          (incident.transitionVersion + 1) :=
        delivers.once (fun delivery stored =>
          sameDeliveries ▸ held.deliveries delivery stored)
      rw [escalates, Bool.and_eq_true, Bool.and_eq_true, Bool.and_eq_true] at isDue
      exact .stored incident mem isOpen rfl rfl
        (.escalates isOpen isOpen (of_decide_eq_true isDue.2)
          (Option.isNone_iff_eq_none.mp isDue.1.2)
          (of_decide_eq_true isDue.1.1.2) rfl once)
  · rw [maybeEscalateIncident, if_neg isDue]
    refine ⟨_, _, rfl, Reconciling.write
      (seenIncident state observedAt incident) startSound held seenSound ?_
      (fun _ stored => stored) (fun _ stored => Or.inl stored) notHandled fires
      (.stored incident mem isOpen rfl rfl (.stays rfl rfl rfl))⟩
    intro other
    refine ReliabilityStore.mem_putIncident.trans ?_
    exact or_congr_right ⟨fun own => own.1, fun own =>
      ⟨own, incident, inStore, rfl⟩⟩

theorem Reconciling.resolve (configured : settings.PagesConfigured)
    (startSound : IncidentsSound env start)
    (held : Reconciling env settings current start handled store)
    (stopped : incident.alertKey ∉ current.map AlertState.alertKey)
    (notHandled : incident.alertKey ∉ handled)
    (mem : incident ∈ start.incidents)
    (isOpen : incident.status = .opened) :
    ∃ next ids, resolveIncident settings observedAt store incident = .ok (next, ids) ∧
      Reconciling env settings current start (handled ++ [incident.alertKey]) next := by
  have inStore : incident ∈ store.incidents :=
    held.untouched incident mem (fun _ => notHandled)
  have resolvedSound : IncidentsSound env
      (store.putIncident (resolvedIncident observedAt incident)) :=
    held.sound.put inStore
      ⟨rfl, rfl, fun _ => rfl, fun opened => (by cases opened),
        fun _ => Or.inl rfl, Nat.le_succ _, Nat.le_refl _, id⟩
  have resolvedMem : resolvedIncident observedAt incident ∈
      (store.putIncident (resolvedIncident observedAt incident)).incidents :=
    ReliabilityStore.mem_putIncident.mpr (Or.inr ⟨rfl, incident, inStore, rfl⟩)
  have undelivered : ∀ delivery ∈ store.deliveries,
      ¬ delivery.Pages incident.id .resolved (incident.transitionVersion + 1) :=
    held.sound.unused inStore (Nat.lt_succ_self _)
  obtain ⟨next, ids, created, delivers⟩ : ∃ next ids, createDelivery settings
          (store.putIncident (resolvedIncident observedAt incident))
          (resolvedIncident observedAt incident) .resolved observedAt =
        .ok (next, ids) ∧
      Delivers settings incident.id .resolved (incident.transitionVersion + 1)
        (store.putIncident (resolvedIncident observedAt incident)) next :=
    createDelivery_succeeds configured undelivered
  refine ⟨next, ids, created, Reconciling.write
    (resolvedIncident observedAt incident) startSound held
    (resolvedSound.deliver resolvedMem delivers) ?_ delivers.kept ?_
    notHandled ?_ ?_⟩
  · intro other
    rw [delivers.incidents]
    refine ReliabilityStore.mem_putIncident.trans ?_
    exact or_congr_right ⟨fun own => own.1, fun own =>
      ⟨own, incident, inStore, rfl⟩⟩
  · intro delivery stored
    exact (delivers.own delivery stored).imp id (fun pages => pages.1)
  · exact ⟨fun opened => (by cases opened), fun fires => absurd fires stopped⟩
  · have once : DeliveredOnce settings start next incident.id .resolved
        (incident.transitionVersion + 1) := delivers.once held.deliveries
    exact .stored incident mem isOpen rfl rfl (.resolves isOpen rfl rfl rfl once)

theorem forEach_succeeds {Item : Type} {body : ReliabilityStore → Item →
      Except ServiceError (ReliabilityStore × List Uuid)}
    (property : List Item → ReliabilityStore → Prop) (items : List Item)
    (turn : ∀ done item rest store, items = done ++ item :: rest →
      property done store → ∃ next ids, body store item = .ok (next, ids) ∧
        property (done ++ [item]) next) :
    ∀ (rest done : List Item) (store : ReliabilityStore),
      items = done ++ rest → property done store →
        ∃ last ids, forEach body rest store = .ok (last, ids) ∧ property items last := by
  intro rest
  induction rest with
  | nil =>
    intro done store whole held
    rw [List.append_nil] at whole
    exact ⟨store, [], rfl, whole ▸ held⟩
  | cons item rest ih =>
    intro done store whole held
    obtain ⟨next, ids, taken, kept⟩ := turn done item rest store whole held
    obtain ⟨last, others, remaining, finished⟩ := ih
      (done ++ [item]) next (by rw [whole, List.append_assoc]; rfl) kept
    refine ⟨last, ids ++ others, ?_, finished⟩
    rw [forEach, taken]
    simp only [remaining]

structure ReadsOpen (openIncidents : List OperationalAlertIncident)
    (start : ReliabilityStore) : Prop where
  mem : ∀ incident, incident ∈ openIncidents ↔
    incident ∈ start.incidents ∧ incident.status = .opened
  nodup : openIncidents.Nodup

theorem alerts_succeed (configured : settings.PagesConfigured) (separates : env.SeparatesActions)
    (startSound : IncidentsSound env start) (reads : ReadsOpen openIncidents start)
    (keys : (current.map AlertState.alertKey).Nodup) :
    ∃ next ids, forEach (reconcileAlert env settings query
          openIncidents observedAt) current start = .ok (next, ids) ∧
      Reconciling env settings current start (current.map AlertState.alertKey) next := by
  refine forEach_succeeds (fun done store => Reconciling env settings
    current start (done.map AlertState.alertKey) store) current ?_ current []
    start rfl (reconciling_start startSound)
  intro done state rest store whole held
  have isCurrent : state ∈ current := by
    rw [whole]
    exact List.mem_append_right _ List.mem_cons_self
  have notHandled : state.alertKey ∉ done.map AlertState.alertKey := by
    rw [whole, List.map_append, List.map_cons] at keys
    intro isHandled
    exact (List.nodup_append.mp keys).2.2 _ isHandled _ List.mem_cons_self rfl
  rw [reconcileAlert, List.map_append]
  cases found : openIncidents.find? (fun incident =>
    incident.alertKey = state.alertKey) with
  | none =>
    refine held.open configured startSound isCurrent notHandled ?_
    intro other mem isOpen same
    have isRead := (reads.mem other).mpr ⟨mem, isOpen⟩
    exact List.find?_eq_none.mp found other isRead (decide_eq_true same)
  | some incident =>
    obtain ⟨mem, isOpen⟩ :=
      (reads.mem incident).mp (List.mem_of_find?_eq_some found)
    have key : incident.alertKey = state.alertKey := by
      simpa using List.find?_some found
    exact held.see configured separates startSound isCurrent notHandled mem isOpen key

theorem resolutions_succeed (configured : settings.PagesConfigured)
    (startSound : IncidentsSound env start)
    (reads : ReadsOpen openIncidents start)
    (held : Reconciling env settings current start (current.map AlertState.alertKey) store)
    {stopped : List OperationalAlertIncident}
    (isStopped : stopped = openIncidents.filter (fun incident =>
      !current.any (fun state => state.alertKey = incident.alertKey))) :
    ∃ next ids, forEach (resolveIncident settings observedAt) stopped store = .ok (next, ids) ∧
      Reconciling env settings current start (current.map AlertState.alertKey ++
          stopped.map OperationalAlertIncident.alertKey) next := by
  refine forEach_succeeds (fun done store => Reconciling env settings
    current start (current.map AlertState.alertKey ++
      done.map OperationalAlertIncident.alertKey) store) stopped ?_ stopped []
    store rfl (by simpa using held)
  intro done incident rest store whole held
  have unresolved : ∀ row ∈ stopped, row ∈ openIncidents ∧
      row.alertKey ∉ current.map AlertState.alertKey := by
    intro row mem
    rw [isStopped] at mem
    obtain ⟨isRead, notFiring⟩ := List.mem_filter.mp mem
    refine ⟨isRead, fun fires => ?_⟩
    obtain ⟨state, stateMem, same⟩ := List.mem_map.mp fires
    rw [Bool.not_eq_true', List.any_eq_false] at notFiring
    exact notFiring state stateMem (decide_eq_true same)
  have isMem : incident ∈ stopped := by
    rw [whole]
    exact List.mem_append_right _ List.mem_cons_self
  obtain ⟨isRead, notFiring⟩ := unresolved incident isMem
  obtain ⟨mem, isOpen⟩ := (reads.mem incident).mp isRead
  have notDone : incident.alertKey ∉ done.map OperationalAlertIncident.alertKey := by
    intro isDone
    obtain ⟨other, otherDone, same⟩ := List.mem_map.mp isDone
    have otherStopped : other ∈ stopped := by
      rw [whole]
      exact List.mem_append_left _ otherDone
    obtain ⟨otherMem, otherOpen⟩ :=
      (reads.mem other).mp (unresolved other otherStopped).1
    have equal := startSound.onlyOpen other otherMem incident mem otherOpen isOpen same
    have nodup : stopped.Nodup := isStopped ▸ reads.nodup.filter _
    rw [whole] at nodup
    exact (List.nodup_append.mp nodup).2.2 other otherDone incident List.mem_cons_self equal
  rw [List.map_append, ← List.append_assoc]
  refine held.resolve configured startSound notFiring ?_ mem isOpen
  rw [List.mem_append, not_or]
  exact ⟨notFiring, notDone⟩

theorem reconcile_succeeds (configured : settings.PagesConfigured)
    (separates : env.SeparatesActions) (startSound : IncidentsSound env start)
    (reads : ReadsOpen openIncidents start) (keys : (current.map AlertState.alertKey).Nodup) :
    ∃ next ids, reconcileOperationalIncidents env settings query
          openIncidents current observedAt start = .ok (next, ids) ∧
      ∃ handled, Reconciling env settings current start handled next ∧
        (∀ alertKey ∈ current.map AlertState.alertKey, alertKey ∈ handled) ∧
        ∀ incident ∈ start.incidents, incident.status = .opened → incident.alertKey ∈ handled := by
  obtain ⟨fired, firedIds, firedDone, firedHeld⟩ : ∃ next ids,
      forEach (reconcileAlert env settings query openIncidents
          observedAt) current start = .ok (next, ids) ∧
        Reconciling env settings current start (current.map AlertState.alertKey) next :=
    alerts_succeed configured separates startSound reads keys
  obtain ⟨last, resolvedIds, resolvedDone, resolvedHeld⟩ : ∃ next ids,
      forEach (resolveIncident settings observedAt) (openIncidents.filter (fun incident =>
            !current.any (fun state => state.alertKey = incident.alertKey)))
          fired = .ok (next, ids) ∧ _ :=
    resolutions_succeed configured startSound reads firedHeld rfl
  refine ⟨last, firedIds ++ resolvedIds, ?_, _, resolvedHeld,
    fun alertKey fires => List.mem_append_left _ fires, ?_⟩
  · rw [reconcileOperationalIncidents, firedDone]
    simp only [resolvedDone]
  · intro incident mem isOpen
    rw [List.mem_append]
    by_cases fires : incident.alertKey ∈ current.map AlertState.alertKey
    · exact Or.inl fires
    · right
      refine List.mem_map_of_mem (List.mem_filter.mpr ⟨(reads.mem incident).mpr ⟨mem, isOpen⟩, ?_⟩)
      rw [Bool.not_eq_true', List.any_eq_false]
      intro state stateMem same
      refine fires (List.mem_map.mpr ⟨state, stateMem, ?_⟩)
      exact of_decide_eq_true same

end Reconciliation

end ModelAtlas.Reliability
