import ModelAtlas.Reliability.ActionChains
import ModelAtlas.Sessions.BrowserSessions

/-!
# The event chain of a browser session

Issue, logout, administrative revocation, token purge and retention deletion
append to the events of a session, one transaction after the other.
-/

namespace ModelAtlas.Sessions

open Foundations Approval Chained

/-- The chains during a transaction: they are linear, and those that are still
to be appended to have one latest event. -/
structure ChangedChains (occurredAt : Time) (changes : List SessionChange)
    (store : SessionStore) : Prop where
  linear : ∀ sessionId, LinearLog store.events sessionId
  earlier : ∀ event ∈ store.events, event.occurredAt ≤ occurredAt
  latest : ∀ change ∈ changes, OneLatest store.events change.row.id

section Changes

variable {env : SessionEnvironment} {query : LatestEventQuery}
  {actor : SignerIdentity} {occurredAt : Time} {store next : SessionStore}

theorem appends_sessionEvent {row : BrowserSession} {eventType : SessionEventType}
    {reason : Option String} {metadata : Json} {base : SessionStore}
    {log : List BrowserSessionEvent} (appended : appendBrowserSessionEvent store
      (browserSessionEvent env query base row eventType reason actor
        metadata occurredAt) = .ok next)
    (stored : store.events = log) (based : base.events = log)
    (earlier : ∀ event ∈ log, event.occurredAt ≤ occurredAt) :
    ∃ event : BrowserSessionEvent,
      next.events = log ++ [event] ∧ event.sessionId = row.id ∧ event.occurredAt = occurredAt ∧
        Appends log (query.read (chainOf log row.id)) event ∧
        next.sessions = store.sessions := by
  subst stored
  rw [appendBrowserSessionEvent] at appended
  split at appended
  · cases appended
  · next unused =>
      split at appended
      · rw [← Except.ok.inj appended]
        refine ⟨_, rfl, rfl, rfl, ⟨?_, ?_, ?_, earlier⟩, rfl⟩
        · exact query.reads store.events row.id
        · rw [← based]
          rfl
        · intro mem
          obtain ⟨other, otherMem, same⟩ := List.mem_map.mp mem
          exact unused (List.any_eq_true.mpr ⟨other, otherMem, decide_eq_true same⟩)
      · cases appended

theorem linear_of_appends {log : List BrowserSessionEvent} {event : BrowserSessionEvent}
    {read : Option BrowserSessionEvent} (linear : ∀ sessionId, LinearLog log sessionId)
    (appends : Appends log read event) (one : OneLatest log event.sessionId) (sessionId : Uuid) :
    LinearLog (log ++ [event]) sessionId := by
  refine (linear sessionId).append appends ?_
  intro own
  have same : event.sessionId = sessionId := own
  exact same ▸ one

theorem ChangedChains.turn {change : SessionChange} {rest : List SessionChange}
    (distinct : (changedIds (change :: rest)).Nodup)
    (held : ChangedChains occurredAt (change :: rest) store)
    (applied : applyChange env query actor occurredAt store change =
      .ok next) : ChangedChains occurredAt rest next := by
  rw [applyChange] at applied
  split at applied
  · cases applied
  · obtain ⟨event, events, named, timed, appends, _⟩ :=
      appends_sessionEvent applied rfl rfl held.earlier
    refine ⟨?_, ?_, ?_⟩
    · intro sessionId
      rw [events]
      refine linear_of_appends held.linear appends ?_ sessionId
      rw [named]
      exact held.latest change List.mem_cons_self
    · intro other mem
      rw [events] at mem
      rcases List.mem_append.mp mem with old | new
      · exact held.earlier other old
      · rw [List.mem_singleton.mp new, timed]
    · intro other mem
      have apart : event.sessionId ≠ other.row.id := by
        intro same
        rw [changedIds, List.map_cons, List.nodup_cons] at distinct
        refine distinct.1 ?_
        rw [← named, same]
        exact List.mem_map_of_mem (f := fun change => change.row.id) mem
      refine OneLatest.congr (held.latest other (List.mem_cons_of_mem change mem)) ?_
      rw [events]
      exact chainOf_append_other apart

theorem ChangedChains.run {changes : List SessionChange} :
    ∀ {store next : SessionStore}, (changedIds changes).Nodup →
      ChangedChains occurredAt changes store →
        applyChanges env query actor occurredAt changes store =
          .ok next → ChangedChains occurredAt [] next := by
  induction changes with
  | nil =>
    intro store next _ held applied
    rw [← Except.ok.inj applied]
    exact held
  | cons change rest ih =>
    intro store next distinct held applied
    rw [applyChanges] at applied
    split at applied
    · cases applied
    · next middle taken =>
        exact ih (List.nodup_cons.mp distinct).2 (held.turn distinct taken) applied

end Changes

structure SessionSystem where
  store : SessionStore
  clock : Time

inductive SessionOperation where
  | issue (ttlSeconds : Nat) (req : IssueRequest)
  | resolve (sessionToken : String)
  | logout (req : LogoutRequest)
  | revoke (target : RevocationTarget) (req : RevocationRequest)
  | cleanup (req : CleanupRequest)

structure SessionCall where
  operation : SessionOperation
  query : LatestEventQuery
  now : Time

namespace SessionCall

def apply (env : SessionEnvironment) (store : SessionStore)
    (call : SessionCall) : Except ServiceError SessionStore :=
  match call.operation with
  | .issue ttlSeconds req =>
    issue env call.query ttlSeconds store req call.now
  | .resolve sessionToken =>
    .ok (resolve env store sessionToken call.now).1
  | .logout req => logout env call.query store req call.now
  | .revoke target req =>
    match revocationRows env store [] target req with
    | .error raised => .error raised
    | .ok rows =>
      (revokeRows env call.query store req call.now rows).map Prod.fst
  | .cleanup req =>
    cleanupBrowserSessions env call.query store [] req call.now

def changes (env : SessionEnvironment) (store : SessionStore)
    (call : SessionCall) : List SessionChange :=
  match call.operation with
  | .issue _ _ | .resolve _ => []
  | .logout req =>
    ((sessionOfToken env store req.sessionToken).bind (logoutChange env req call.now)).toList
  | .revoke target req =>
    match revocationRows env store [] target req with
    | .error _ => []
    | .ok rows => rows.filterMap (revokeChange req call.now)
  | .cleanup req => cleanupChanges store [] req call.now

end SessionCall

def SessionSystem.next (env : SessionEnvironment)
    (sys : SessionSystem) (call : SessionCall) : Option SessionSystem :=
  if call.now < sys.clock then none
  else
    match call.apply env sys.store with
    | .error _ => some { sys with clock := call.now }
    | .ok store => some ⟨store, call.now⟩

def ChangesOneLatest (env : SessionEnvironment) (sys : SessionSystem) (call : SessionCall) : Prop :=
  ∀ change ∈ call.changes env sys.store, OneLatest sys.store.events change.row.id

/-- The chains are linear, and their events are not later than the clock. -/
structure LinearEvents (sys : SessionSystem) : Prop where
  linear : ∀ sessionId, LinearLog sys.store.events sessionId
  earlier : ∀ event ∈ sys.store.events, event.occurredAt ≤ sys.clock

section Runs

variable {env : SessionEnvironment} {before : SessionSystem}
  {call : SessionCall} {store : SessionStore}

theorem oneLatest_new (store : SessionStore) : OneLatest store.events store.uuids := by
  have none : chainOf store.events store.uuids = [] := by
    refine List.filter_eq_nil_iff.mpr ?_
    intro event mem own
    have same : event.sessionId = store.uuids := of_decide_eq_true own
    have drawn := store.eventsDrawn event mem
    rw [same] at drawn
    exact absurd drawn (Nat.lt_irrefl _)
  refine oneLatest_of_length ?_
  rw [none]
  exact Nat.zero_le 1

theorem LinearEvents.issued {query : LatestEventQuery} {now : Time} {ttlSeconds : Nat}
    {req : IssueRequest} (held : LinearEvents before) (later : before.clock ≤ now)
    (done : issue env query ttlSeconds before.store req now =
      .ok store) : LinearEvents ⟨store, now⟩ := by
  rw [issue] at done
  split at done
  · cases done
  · have earlier : ∀ event ∈ before.store.events, event.occurredAt ≤ now :=
      fun event mem => le_trans (held.earlier event mem) later
    obtain ⟨event, events, named, timed, appends, _⟩ :=
      appends_sessionEvent done rfl rfl earlier
    refine ⟨?_, ?_⟩
    · intro sessionId
      rw [events]
      refine linear_of_appends held.linear appends ?_ sessionId
      rw [named]
      exact oneLatest_new before.store
    · intro other mem
      rw [events] at mem
      rcases List.mem_append.mp mem with old | new
      · exact earlier other old
      · rw [List.mem_singleton.mp new, timed]

theorem LinearEvents.changed {query : LatestEventQuery}
    {actor : SignerIdentity} {now : Time} {changes : List SessionChange}
    (held : LinearEvents before) (later : before.clock ≤ now)
    (distinct : (changedIds changes).Nodup)
    (one : ∀ change ∈ changes, OneLatest before.store.events change.row.id)
    (done : applyChanges env query actor now changes before.store =
      .ok store) : LinearEvents ⟨store, now⟩ := by
  have chains : ChangedChains now changes before.store :=
    ⟨held.linear, fun event mem => le_trans (held.earlier event mem) later, one⟩
  have final := chains.run distinct done
  exact ⟨final.linear, final.earlier⟩

theorem LinearEvents.apply (held : LinearEvents before) (later : before.clock ≤ call.now)
    (one : ChangesOneLatest env before call) (done : call.apply env before.store = .ok store) :
    LinearEvents ⟨store, call.now⟩ := by
  obtain ⟨op, query, now⟩ := call
  have unchanged : ∀ events, events = before.store.events →
      store.events = events → LinearEvents ⟨store, now⟩ := by
    rintro _ rfl same
    refine ⟨fun sessionId => ?_, fun event mem => ?_⟩
    · exact same ▸ held.linear sessionId
    · rw [same] at mem
      exact le_trans (held.earlier event mem) later
  cases op with
  | issue ttlSeconds req =>
    exact held.issued later done
  | resolve sessionToken =>
    refine unchanged _ rfl ?_
    rw [← Except.ok.inj done, resolve]
    split
    · rfl
    · split
      · rfl
      · split
        · rfl
        · rfl
  | logout req =>
    simp only [SessionCall.apply, logout] at done
    split at done
    · have same := Except.ok.inj done
      exact unchanged _ rfl (same ▸ rfl)
    · next row found =>
        refine held.changed later ?_ ?_ done
        · cases logoutChange env req now row with
          | none => exact List.nodup_nil
          | some change => exact List.nodup_singleton _
        · intro change mem
          refine one change ?_
          simp only [SessionCall.changes, found, Option.bind_some]
          exact mem
  | revoke target req =>
    simp only [SessionCall.apply] at done
    split at done
    · cases done
    · next rows selected =>
        rw [revokeRows] at done
        split at done
        · cases done
        · next revoked applied =>
            have same : revoked = store := Except.ok.inj done
            subst same
            refine held.changed later
              (nodup_revokeChanges (nodup_revocationRows selected)) ?_ applied
            intro change mem
            refine one change ?_
            simp only [SessionCall.changes, selected]
            exact mem
  | cleanup req =>
    simp only [SessionCall.apply, cleanupBrowserSessions] at done
    split at done
    · cases done
    · exact held.changed later (nodup_cleanupChanges ..) one done

theorem LinearEvents.step {after : SessionSystem} (held : LinearEvents before)
    (one : ChangesOneLatest env before call)
    (taken : stepsOf (SessionSystem.next env) before call after) :
    LinearEvents after := by
  rw [stepsOf, SessionSystem.next] at taken
  split at taken
  · cases taken
  · next notEarlier =>
      have later : before.clock ≤ call.now := Int.not_lt.mp notEarlier
      split at taken
      · rw [← Option.some.inj taken]
        exact ⟨held.linear, fun event mem =>
          le_trans (held.earlier event mem) later⟩
      · next applied =>
          rw [← Option.some.inj taken]
          exact held.apply later one applied

theorem singleChain_of_run {clock : Time} {calls : List SessionCall} {finish : SessionSystem}
    (run : Execution (Guarded (ChangesOneLatest env)
      (stepsOf (SessionSystem.next env))) ⟨.empty, clock⟩ calls finish)
    (sessionId : Uuid) :
    SingleChain (chainOf finish.store.events sessionId) := by
  have held : LinearEvents finish := run.invariant LinearEvents
    ⟨fun _ => linearLog_nil _, fun _ mem => absurd mem List.not_mem_nil⟩
    (fun _ _ _ held taken => held.step taken.1 taken.2)
  exact (held.linear sessionId).singleChain

end Runs

open Reliability

/-- In every run of the incidents and of the sessions whose calls append to chains with one
latest record, chains are single. -/
theorem auditChains_single (reliability : ReliabilityEnvironment) (settings : ReliabilitySettings)
    (sessions : SessionEnvironment) (clock : Time) :
    (∀ (calls : List ReliabilityCall) (finish : ReliabilitySystem),
      Execution (Guarded (ActsOnOneLatest settings)
          (stepsOf (ReliabilitySystem.next reliability settings)))
        ⟨.empty, clock⟩ calls finish →
          ∀ incidentId, SingleChain (chainOf finish.store.actions incidentId)) ∧
      ∀ (calls : List SessionCall) (finish : SessionSystem),
        Execution (Guarded (ChangesOneLatest sessions) (stepsOf (SessionSystem.next sessions)))
          ⟨.empty, clock⟩ calls finish →
            ∀ sessionId, SingleChain (chainOf finish.store.events sessionId) :=
  ⟨fun _ _ run incidentId => Reliability.singleChain_of_run run incidentId,
    fun _ _ run sessionId => singleChain_of_run run sessionId⟩

def plainText : TextEnvironment where
  lower text := text
  render _ := ""

def administrator : SignerIdentity where
  subjectId := "operator"
  displayName := "Operator"
  role := some "Admin"
  identityProvider := "provider"
  authSource := "oidc"
  identityVerified := true
  ticketReference := none

def plainReliability : ReliabilityEnvironment where
  text := plainText
  canonicalHash payload := Json.pyStrOrEmpty plainText.render
    (payload.get? "reason")
  uuidText _ := ""
  isoFormat _ := ""

theorem quietEscalation_positive : 0 < 900 := by decide

def quietSettings : ReliabilitySettings where
  pagingEnabled := false
  activePagingKeyId := .error "no key"
  pagingProvider := .error "no provider"
  escalationSeconds := 900
  escalationPositive := quietEscalation_positive
  snapshotIntervalSeconds := 300
  snapshotRetentionSeconds := 86400

def plainSessions : SessionEnvironment where
  text := plainText
  secretHash text := text
  sessionHash token _ _ := token
  canonicalHash payload := Json.pyStrOrEmpty plainText.render
    (payload.get? "id")
  encrypt text := text
  decrypt text := some text
  uuidText id := String.ofList (List.replicate id 'i')
  isoFormat _ := ""

def firingCall : ReliabilityCall :=
  .capture ⟨administrator, [⟨"queue", .warning⟩], [], 0, firstLatest⟩

def noteCall (reason : String) (observedAt : Time) : ReliabilityCall :=
  .act ⟨0, administrator, .note, reason, none, observedAt, firstLatest⟩

def afterIncidentCalls (calls : List ReliabilityCall) : Option ReliabilitySystem :=
  perform (ReliabilitySystem.next plainReliability quietSettings) ⟨.empty, 0⟩ calls

def issueCall : SessionCall :=
  ⟨.issue 300 ⟨"token", "subject", "Subject", none, "provider", none, none,
    none⟩, firstLatest, 0⟩

def logoutCall : SessionCall :=
  ⟨.logout ⟨"token", "logout", none⟩, firstLatest, 1⟩

def afterSessionCalls (calls : List SessionCall) : Option SessionSystem :=
  perform (SessionSystem.next plainSessions) ⟨.empty, 0⟩ calls

theorem auditChains_single_notes : ∃ (incidents : ReliabilitySystem) (sessions : SessionSystem),
      afterIncidentCalls [firingCall, noteCall "first" 5, noteCall "second" 6] =
          some incidents ∧
        afterSessionCalls [issueCall, logoutCall] = some sessions ∧
        SingleChain (chainOf incidents.store.actions 0) ∧
        SingleChain (chainOf sessions.store.events 0) := by
  set_option maxRecDepth 8000 in
  have performed : (afterIncidentCalls [firingCall, noteCall "first" 5,
      noteCall "second" 6]).isSome = true := by decide
  set_option maxRecDepth 8000 in
  have issued : (afterSessionCalls [issueCall, logoutCall]).isSome = true := by
    decide
  obtain ⟨incidents, incidentsReached⟩ := Option.isSome_iff_exists.mp performed
  obtain ⟨sessions, sessionsReached⟩ := Option.isSome_iff_exists.mp issued
  have incidentGuards : MeetsGuard (ActsOnOneLatest quietSettings)
      (ReliabilitySystem.next plainReliability quietSettings) ⟨.empty, 0⟩
      [firingCall, noteCall "first" 5, noteCall "second" 6] := by
    refine MeetsGuard.of_checks (fun sys _ => decide (sys.store.actions.length ≤ 1))
      (fun _ _ checked incidentId _ =>
        oneLatest_of_short incidentId (of_decide_eq_true checked)) ?_
    set_option maxRecDepth 8000 in
    decide
  have sessionGuards : MeetsGuard (ChangesOneLatest plainSessions)
      (SessionSystem.next plainSessions) ⟨.empty, 0⟩ [issueCall, logoutCall] := by
    refine MeetsGuard.of_checks (fun sys _ => decide (sys.store.events.length ≤ 1))
      (fun _ _ checked _ _ =>
        oneLatest_of_short _ (of_decide_eq_true checked)) ?_
    set_option maxRecDepth 8000 in
    decide
  have single :=
    auditChains_single plainReliability quietSettings plainSessions 0
  exact ⟨incidents, sessions, incidentsReached, sessionsReached, single.1 _ incidents
      (Execution.of_perform_guarded incidentsReached incidentGuards) 0,
    single.2 _ sessions (Execution.of_perform_guarded sessionsReached sessionGuards) 0⟩

/-- The third note of a second reads the first one, so two notes have the same
predecessor. -/
theorem auditChains_fork : ¬ ∀ (calls : List ReliabilityCall) (finish : ReliabilitySystem),
      Execution (stepsOf (ReliabilitySystem.next plainReliability
          quietSettings)) ⟨.empty, 0⟩ calls finish →
        ∀ incidentId, SingleChain (chainOf finish.store.actions incidentId) := by
  intro always
  let calls := [firingCall, noteCall "first" 5, noteCall "second" 5,
    noteCall "third" 5]
  set_option maxRecDepth 8000 in
  have checked : (afterIncidentCalls calls).any (fun sys =>
      (chainOf sys.store.actions 0).map previous =
        [none, some "first", some "first"]) = true := by
    decide
  obtain ⟨finish, reached, facts⟩ := (Option.any_eq_true _ _).mp checked
  have predecessors := of_decide_eq_true facts
  have single := always calls finish (Execution.of_perform reached) 0
  have stored : ∀ index : Nat, ((chainOf finish.store.actions 0)[index]?).map
      previous = [none, some "first", some "first"][index]? := by
    intro index
    rw [← List.getElem?_map, predecessors]
  obtain ⟨second, secondStored, secondPrevious⟩ :=
    Option.map_eq_some_iff.mp (stored 1)
  obtain ⟨third, thirdStored, thirdPrevious⟩ :=
    Option.map_eq_some_iff.mp (stored 2)
  have same := single.2 1 2 second third secondStored thirdStored
    (secondPrevious.trans thirdPrevious.symm)
  cases same

end ModelAtlas.Sessions
