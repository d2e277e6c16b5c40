import ModelAtlas.Reliability.Incidents

/-!
# The action chain of an incident

A call that appends to the chain of an incident reads one record that sorts
last, or it may read another one and the chain forks.
-/

namespace ModelAtlas.Reliability

open Foundations Approval Chained

variable {current : List AlertState} {before : ReliabilitySystem}

theorem keys_setState {state : AlertState} (distinct : (current.map AlertState.alertKey).Nodup) :
    ((setState current state).map AlertState.alertKey).Nodup := by
  rw [setState, List.map_append, List.nodup_append]
  refine ⟨distinct.sublist (List.filter_sublist.map _), List.nodup_singleton _, ?_⟩
  rintro _ kept _ new same
  obtain ⟨other, mem, rfl⟩ := List.mem_map.mp kept
  rw [List.map_singleton, List.mem_singleton] at new
  have differs := of_decide_eq_true (List.mem_filter.mp mem).2
  exact differs (same.trans new)

theorem keys_foldl_setState {states : List AlertState}
    (distinct : (current.map AlertState.alertKey).Nodup) :
    ((states.foldl setState current).map AlertState.alertKey).Nodup := by
  induction states generalizing current with
  | nil =>
    exact distinct
  | cons state rest ih =>
    rw [List.foldl_cons]
    exact ih (keys_setState distinct)

theorem keys_currentStates (alerts : List OperationalAlert)
    (evaluations : List OperationalSLOEvaluation) :
    ((currentStates alerts evaluations).map AlertState.alertKey).Nodup := by
  rw [currentStates]
  exact keys_foldl_setState (keys_foldl_setState List.nodup_nil)

def EscalatedBy (settings : ReliabilitySettings) (openIncidents : List OperationalAlertIncident)
    (observedAt : Time) (states : List AlertState) (incidentId : Uuid) : Prop :=
  ∃ state ∈ states, ∃ incident,
    openIncidents.find? (fun other => other.alertKey = state.alertKey) = some incident ∧
      incident.id = incidentId ∧
      escalates settings (seenIncident state observedAt incident) observedAt = true

theorem appends_incidentAction {env : ReliabilityEnvironment} {query : LatestActionQuery}
    {store next : ReliabilityStore} {incidentId : Uuid} {actionType : IncidentActionType}
    {reason : String} {assignee : Option String} {actor : SignerIdentity} {observedAt : Time}
    {base : ReliabilityStore} {log : List OperationalAlertIncidentAction}
    (appended : appendIncidentAction store
      (incidentAction env query base incidentId actionType reason
        assignee actor observedAt) = .ok next)
    (stored : store.actions = log) (based : base.actions = log)
    (earlier : ∀ action ∈ log, action.occurredAt ≤ observedAt) :
    ∃ action : OperationalAlertIncidentAction,
      next.actions = log ++ [action] ∧ action.incidentId = incidentId ∧
        action.occurredAt = observedAt ∧
        Appends log (query.read (chainOf log incidentId)) action := by
  subst stored
  obtain ⟨unused, rfl⟩ := appendIncidentAction_ok appended
  refine ⟨_, rfl, rfl, rfl, ?_, ?_, ?_, ?_⟩
  · exact query.reads store.actions incidentId
  · rw [← based]
    rfl
  · intro mem
    obtain ⟨other, otherMem, same⟩ := List.mem_map.mp mem
    exact unused other otherMem same
  · exact earlier

/-- The chains while the alerts are reconciled: they are linear, and those
that are still to be appended to have one latest record. -/
structure CapturedChains (settings : ReliabilitySettings)
    (openIncidents : List OperationalAlertIncident) (observedAt : Time)
    (states : List AlertState) (store : ReliabilityStore) : Prop where
  linear : ∀ incidentId, LinearLog store.actions incidentId
  earlier : ∀ action ∈ store.actions, action.occurredAt ≤ observedAt
  latest : ∀ incidentId,
    EscalatedBy settings openIncidents observedAt states incidentId →
      OneLatest store.actions incidentId

section Capture

variable {env : ReliabilityEnvironment}
  {settings : ReliabilitySettings} {query : LatestActionQuery}
  {openIncidents : List OperationalAlertIncident} {observedAt : Time}
  {state : AlertState} {states : List AlertState}
  {store next : ReliabilityStore} {ids : List Uuid}

theorem openIncident_actions (opened : openIncident settings store state observedAt =
      .ok (next, ids)) : next.actions = store.actions := by
  rw [openIncident] at opened
  split at opened
  · cases opened
  · rw [(createDelivery_frame opened).1]
    rfl

theorem resolveIncident_actions {incident : OperationalAlertIncident}
    (resolved : resolveIncident settings observedAt store incident =
      .ok (next, ids)) : next.actions = store.actions := by
  rw [resolveIncident] at resolved
  rw [(createDelivery_frame resolved).1]
  rfl

theorem CapturedChains.rest (held : CapturedChains settings openIncidents observedAt
      (state :: states) store)
    (same : next.actions = store.actions) :
    CapturedChains settings openIncidents observedAt states next where
  linear incidentId := same ▸ held.linear incidentId
  earlier := same ▸ held.earlier
  latest incidentId escalated := by
    rw [same]
    obtain ⟨other, mem, rest⟩ := escalated
    exact held.latest incidentId ⟨other, List.mem_cons_of_mem state mem, rest⟩

theorem CapturedChains.turn (keys : ((state :: states).map AlertState.alertKey).Nodup)
    (onlyRow : ∀ left ∈ openIncidents, ∀ right ∈ openIncidents, left.id = right.id → left = right)
    (held : CapturedChains settings openIncidents observedAt (state :: states) store)
    (done : reconcileAlert env settings query openIncidents observedAt
      store state = .ok (next, ids)) :
    CapturedChains settings openIncidents observedAt states next := by
  rw [reconcileAlert] at done
  split at done
  · exact held.rest (openIncident_actions done)
  · next incident found =>
      simp only [] at done
      rcases maybeEscalateIncident_ok done with
        ⟨_, rfl, _⟩ | ⟨isDue, recorded, appended, delivered⟩
      · exact held.rest rfl
      · obtain ⟨action, actions, named, timed, appends⟩ :=
          appends_incidentAction appended rfl rfl held.earlier
        have final : next.actions = store.actions ++ [action] :=
          (createDelivery_frame delivered).1.trans actions
        have escalated : EscalatedBy settings openIncidents observedAt
            (state :: states) incident.id :=
          ⟨state, List.mem_cons_self, incident, found, rfl, isDue⟩
        refine ⟨?_, ?_, ?_⟩
        · intro incidentId
          rw [final]
          refine (held.linear incidentId).append appends ?_
          intro own
          have same : incident.id = incidentId := named.symm.trans own
          exact same ▸ held.latest incident.id escalated
        · intro other mem
          rw [final] at mem
          rcases List.mem_append.mp mem with old | new
          · exact held.earlier other old
          · rw [List.mem_singleton.mp new, timed]
        · rintro incidentId ⟨other, mem, row, rowFound, rfl, rowDue⟩
          have apart : incident.id ≠ row.id := by
            intro same
            have sameRow := onlyRow incident (List.mem_of_find?_eq_some found)
              row (List.mem_of_find?_eq_some rowFound) same
            have stateKey : incident.alertKey = state.alertKey := by
              simpa using List.find?_some found
            have otherKey : row.alertKey = other.alertKey := by
              simpa using List.find?_some rowFound
            rw [List.map_cons, List.nodup_cons] at keys
            refine keys.1 ?_
            rw [← stateKey, sameRow, otherKey]
            exact List.mem_map_of_mem mem
          have unchanged : chainOf next.actions row.id = chainOf store.actions row.id := by
            rw [final]
            exact chainOf_append_other (fun own => apart (named ▸ own))
          refine OneLatest.congr (held.latest row.id ?_) unchanged
          exact ⟨other, List.mem_cons_of_mem state mem, row, rowFound, rfl, rowDue⟩

theorem linear_of_reconcile (keys : (current.map AlertState.alertKey).Nodup)
    (onlyRow : ∀ left ∈ openIncidents, ∀ right ∈ openIncidents, left.id = right.id → left = right)
    (done : reconcileOperationalIncidents env settings query
      openIncidents current observedAt store = .ok (next, ids))
    (held : CapturedChains settings openIncidents observedAt current store) :
    (∀ incidentId, LinearLog next.actions incidentId) ∧
      ∀ action ∈ next.actions, action.occurredAt ≤ observedAt := by
  obtain ⟨fired, firedIds, resolvedIds, alertsDone, restDone, _⟩ :=
    reconcileOperationalIncidents_ok done
  have after := forEach_rule
    (fun states store => (states.map AlertState.alertKey).Nodup ∧
      CapturedChains settings openIncidents observedAt states store) ?_
    ⟨keys, held⟩ alertsDone
  · have same := forEach_rule (fun _ store => store.actions = fired.actions)
      (fun _ _ _ _ _ kept taken => (resolveIncident_actions taken).trans kept)
      rfl restDone
    rw [same]
    exact ⟨after.2.linear, after.2.earlier⟩
  · rintro state rest middle last _ ⟨distinct, chains⟩ taken
    exact ⟨(List.nodup_cons.mp distinct).2, chains.turn distinct onlyRow taken⟩

end Capture

structure ReliabilitySystem where
  store : ReliabilityStore
  clock : Time

inductive ReliabilityCall where
  | capture (call : CaptureCall)
  | act (call : IncidentActionCall)

namespace ReliabilityCall

def observedAt : ReliabilityCall → Time
  | capture call => call.observedAt
  | act call => call.observedAt

def apply (env : ReliabilityEnvironment)
    (settings : ReliabilitySettings) (store : ReliabilityStore) :
    ReliabilityCall → Except ServiceError ReliabilityStore
  | capture call => (captureOperationalReliabilityCycle env settings [] store call).map Prod.fst
  | act call => recordOperationalIncidentAction env store call

def Acts (settings : ReliabilitySettings) (store : ReliabilityStore)
    (incidentId : Uuid) : ReliabilityCall → Prop
  | capture call => EscalatedBy settings (visibleOpen store [])
      call.observedAt (currentStates call.alerts call.evaluations) incidentId
  | act call => call.incidentId = incidentId

end ReliabilityCall

def ReliabilitySystem.next (env : ReliabilityEnvironment) (settings : ReliabilitySettings)
    (sys : ReliabilitySystem) (call : ReliabilityCall) : Option ReliabilitySystem :=
  if call.observedAt < sys.clock then none
  else
    match call.apply env settings sys.store with
    | .error _ => some { sys with clock := call.observedAt }
    | .ok store => some ⟨store, call.observedAt⟩

def ActsOnOneLatest (settings : ReliabilitySettings)
    (sys : ReliabilitySystem) (call : ReliabilityCall) : Prop :=
  ∀ incidentId, call.Acts settings sys.store incidentId → OneLatest sys.store.actions incidentId

structure LinearActions (sys : ReliabilitySystem) : Prop where
  linear : ∀ incidentId, LinearLog sys.store.actions incidentId
  earlier : ∀ action ∈ sys.store.actions, action.occurredAt ≤ sys.clock

section Runs

variable {env : ReliabilityEnvironment}
  {settings : ReliabilitySettings}

theorem LinearActions.act {call : IncidentActionCall} {store : ReliabilityStore}
    (held : LinearActions before) (later : before.clock ≤ call.observedAt)
    (one : OneLatest before.store.actions call.incidentId)
    (done : recordOperationalIncidentAction env before.store call =
      .ok store) : LinearActions ⟨store, call.observedAt⟩ := by
  rw [recordOperationalIncidentAction] at done
  split at done
  · cases done
  · split at done
    · cases done
    · next incident found =>
        have named : incident.id = call.incidentId :=
          (Table.find?_eq_some_iff.mp found).2
        split at done
        · cases done
        · obtain ⟨action, actions, own, timed, appends⟩ :=
            appends_incidentAction done rfl rfl
              (fun action mem => le_trans (held.earlier action mem) later)
          refine ⟨?_, ?_⟩
          · intro incidentId
            rw [actions]
            refine (held.linear incidentId).append appends ?_
            intro chain
            have same : call.incidentId = incidentId :=
              named.symm.trans (own.symm.trans chain)
            exact same ▸ one
          · intro other mem
            rw [actions] at mem
            rcases List.mem_append.mp mem with old | new
            · exact le_trans (held.earlier other old) later
            · rw [List.mem_singleton.mp new, timed]

theorem LinearActions.capture {call : CaptureCall} {store : ReliabilityStore} {ids : List Uuid}
    (held : LinearActions before) (later : before.clock ≤ call.observedAt)
    (one : ∀ incidentId, EscalatedBy settings (visibleOpen before.store [])
      call.observedAt (currentStates call.alerts call.evaluations) incidentId →
        OneLatest before.store.actions incidentId)
    (done : captureOperationalReliabilityCycle env settings []
      before.store call = .ok (store, ids)) :
    LinearActions ⟨store, call.observedAt⟩ := by
  have earlier : ∀ action ∈ before.store.actions, action.occurredAt ≤ call.observedAt :=
    fun action mem => le_trans (held.earlier action mem) later
  rw [captureOperationalReliabilityCycle] at done
  split at done
  · cases done
  · split at done
    · rw [← (Prod.mk.inj (Except.ok.inj done)).1]
      exact ⟨held.linear, earlier⟩
    · rw [captureBucket] at done
      split at done
      · cases done
      · have onlyRow : ∀ left ∈ visibleOpen before.store [],
            ∀ right ∈ visibleOpen before.store [], left.id = right.id → left = right :=
          fun left leftMem right rightMem same => Table.eq_of_key_eq
            (List.mem_of_mem_filter leftMem)
            (List.mem_of_mem_filter rightMem) same
        obtain ⟨linear, bound⟩ := linear_of_reconcile
          (keys_currentStates call.alerts call.evaluations) onlyRow done
          ⟨held.linear, earlier, one⟩
        exact ⟨linear, bound⟩

theorem LinearActions.step {after : ReliabilitySystem} {call : ReliabilityCall}
    (held : LinearActions before) (one : ActsOnOneLatest settings before call)
    (taken : stepsOf (ReliabilitySystem.next env settings) before call
      after) : LinearActions after := by
  rw [stepsOf, ReliabilitySystem.next] at taken
  split at taken
  · cases taken
  · next notEarlier =>
      have later : before.clock ≤ call.observedAt := Int.not_lt.mp notEarlier
      split at taken
      · rw [← Option.some.inj taken]
        exact ⟨held.linear, fun action mem =>
          le_trans (held.earlier action mem) later⟩
      · next store applied =>
          rw [← Option.some.inj taken]
          cases call with
          | act call =>
            exact held.act later (one call.incidentId rfl) applied
          | capture call =>
            rw [ReliabilityCall.apply] at applied
            cases done : captureOperationalReliabilityCycle env settings [] before.store call with
            | error raised =>
              rw [done] at applied
              cases applied
            | ok res =>
              rw [done] at applied
              have same : res.1 = store := Except.ok.inj applied
              subst same
              exact held.capture later one done

theorem singleChain_of_run {clock : Time} {calls : List ReliabilityCall}
    {finish : ReliabilitySystem} (run : Execution (Guarded (ActsOnOneLatest settings)
      (stepsOf (ReliabilitySystem.next env settings)))
        ⟨.empty, clock⟩ calls finish) (incidentId : Uuid) :
    SingleChain (chainOf finish.store.actions incidentId) := by
  have held : LinearActions finish := run.invariant LinearActions
    ⟨fun _ => linearLog_nil _, fun _ mem => absurd mem List.not_mem_nil⟩
    (fun _ _ _ held taken => held.step taken.1 taken.2)
  exact (held.linear incidentId).singleChain

end Runs

end ModelAtlas.Reliability
