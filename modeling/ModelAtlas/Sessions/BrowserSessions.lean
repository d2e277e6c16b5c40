import Mathlib.Data.List.Sort
import ModelAtlas.Approval.ControlPlane
import ModelAtlas.Foundations.AuditLog

/-!
# Browser sessions

`services/oidc_state.py` and `services/oidc_session_administration.py`. A
transaction is given as its changes, one for each session it writes, with the
audit event. Instants are microseconds. CSRF tokens and client fingerprints are
left out.
-/

namespace ModelAtlas.Sessions

open Foundations Approval

variable {row : BrowserSession} {store : SessionStore} {req : RevocationRequest}
  {observedAt : Time}

structure BrowserSession where
  id : Uuid
  (tokenHash sessionHash subjectId displayName : String)
  role : Option String
  identityProvider : String
  (providerSessionId providerSessionHash providerIdTokenCiphertext : Option String)
  providerTokenPurgedAt : Option Time
  (authenticatedAt expiresAt lastSeenAt : Time)
  revokedAt : Option Time
  revocationReason : Option String
  logoutInitiatedAt : Option Time
  deriving DecidableEq, Repr

instance : Keyed BrowserSession Uuid where
  key := BrowserSession.id

inductive SessionEventType where
  | issued
  | revoked
  | providerTokenPurged
  | retentionDeleted
  deriving DecidableEq, Repr

def SessionEventType.text : SessionEventType → String
  | issued => "issued"
  | revoked => "revoked"
  | providerTokenPurged => "provider_token_purged"
  | retentionDeleted => "retention_deleted"

structure BrowserSessionEvent where
  (id sessionId : Uuid)
  eventType : SessionEventType
  reason : Option String
  actorIdentity : SignerIdentity
  metadata : Json
  previousEventHash : Option String
  eventHash : String
  occurredAt : Time

instance : Chained BrowserSessionEvent Uuid String where
  chain := BrowserSessionEvent.sessionId
  occurredAt := BrowserSessionEvent.occurredAt
  previous := BrowserSessionEvent.previousEventHash
  digest := BrowserSessionEvent.eventHash

abbrev LatestEventQuery := Chained.LatestQuery BrowserSessionEvent

inductive RowWrite where
  | purge (observedAt : Time)
  | revoke (observedAt : Time) (reason : String) (hadToken : Bool)
  | logout (observedAt : Time) (reason : String) (hadToken : Bool)
  | delete
  deriving DecidableEq, Repr

def RowWrite.apply (write : RowWrite) (row : BrowserSession) : Option BrowserSession :=
  match write with
  | .purge observedAt => some { row with
      providerIdTokenCiphertext := none
      providerSessionId := none
      providerTokenPurgedAt := some observedAt }
  | .revoke observedAt reason hadToken => some { row with
      revokedAt := some observedAt
      revocationReason := some reason
      providerIdTokenCiphertext := none
      providerSessionId := none
      providerTokenPurgedAt := if hadToken then some observedAt else none }
  | .logout observedAt reason hadToken => some { row with
      revokedAt := some observedAt
      revocationReason := some reason
      logoutInitiatedAt := some observedAt
      providerIdTokenCiphertext := none
      providerSessionId := none
      providerTokenPurgedAt :=
        if hadToken then some observedAt else row.providerTokenPurgedAt }
  | .delete => none

theorem RowWrite.apply_id {write : RowWrite} {new : BrowserSession}
    (applied : write.apply row = some new) : new.id = row.id := by
  cases write with
  | delete =>
    cases applied
  | purge observedAt =>
    rw [← Option.some.inj applied]
  | revoke observedAt reason hadToken =>
    rw [← Option.some.inj applied]
  | logout observedAt reason hadToken =>
    rw [← Option.some.inj applied]

/-- A change of one session: its row as it was read, the write, and what the
event says. -/
structure SessionChange where
  row : BrowserSession
  write : RowWrite
  eventType : SessionEventType
  reason : Option String
  metadata : Json

/-! ## Store -/

structure SessionStore where
  sessions : Table BrowserSession
  events : List BrowserSessionEvent
  uuids : Uuid
  sessionsDrawn : ∀ session ∈ sessions, session.id < uuids
  eventsDrawn : ∀ event ∈ events, event.sessionId < uuids

namespace SessionStore

def empty : SessionStore where
  sessions := ∅
  events := []
  uuids := 0
  sessionsDrawn session mem := absurd mem (Table.not_mem_empty session)
  eventsDrawn _ mem := absurd mem List.not_mem_nil

def insertSession (store : SessionStore) (session : BrowserSession)
    (drawn : session.id = store.uuids) : SessionStore where
  sessions := store.sessions.insert session (fun other mem => by
    have older := store.sessionsDrawn other mem
    rw [← drawn] at older
    exact Nat.ne_of_lt older)
  events := store.events
  uuids := store.uuids + 1
  sessionsDrawn other mem := by
    rcases Table.mem_insert.mp mem with old | rfl
    · exact Nat.lt_succ_of_lt (store.sessionsDrawn other old)
    · rw [drawn]
      exact Nat.lt_succ_self _
  eventsDrawn event mem := Nat.lt_succ_of_lt (store.eventsDrawn event mem)

def writeRow (store : SessionStore) (sessionId : Uuid) (write : RowWrite) : SessionStore where
  sessions := store.sessions.rewrite
    (fun row => if row.id = sessionId then write.apply row else some row)
    (fun row new changed => by
      split at changed
      · exact RowWrite.apply_id changed
      · rw [Option.some.inj changed])
  events := store.events
  uuids := store.uuids
  sessionsDrawn row mem := by
    obtain ⟨old, oldMem, changed⟩ := Table.mem_rewrite.mp mem
    have drawn := store.sessionsDrawn old oldMem
    split at changed
    · rw [RowWrite.apply_id changed]
      exact drawn
    · rw [← Option.some.inj changed]
      exact drawn
  eventsDrawn := store.eventsDrawn

def touch (store : SessionStore) (sessionId : Uuid) (seenAt : Time) : SessionStore where
  sessions := store.sessions.modify sessionId
    (fun row => { row with lastSeenAt := seenAt }) (fun _ => rfl)
  events := store.events
  uuids := store.uuids
  sessionsDrawn row mem := by
    rcases Table.mem_modify.mp mem with
      ⟨old, oldMem, _, rfl⟩ | ⟨oldMem, _⟩
    · exact store.sessionsDrawn old oldMem
    · exact store.sessionsDrawn row oldMem
  eventsDrawn := store.eventsDrawn

def appendEvent (store : SessionStore) (event : BrowserSessionEvent)
    (known : event.sessionId < store.uuids) : SessionStore where
  sessions := store.sessions
  events := store.events ++ [event]
  uuids := store.uuids + 1
  sessionsDrawn session mem :=
    Nat.lt_succ_of_lt (store.sessionsDrawn session mem)
  eventsDrawn other mem := by
    rcases List.mem_append.mp mem with old | new
    · exact Nat.lt_succ_of_lt (store.eventsDrawn other old)
    · rw [List.mem_singleton.mp new]
      exact Nat.lt_succ_of_lt known

theorem mem_insertSession {session other : BrowserSession} {drawn : session.id = store.uuids} :
    other ∈ (store.insertSession session drawn).sessions ↔
      other ∈ store.sessions ∨ other = session := by
  rw [insertSession, Table.mem_insert]

theorem mem_writeRow {sessionId : Uuid} {write : RowWrite} :
    row ∈ (store.writeRow sessionId write).sessions ↔ (row ∈ store.sessions ∧ row.id ≠ sessionId) ∨
        ∃ old ∈ store.sessions, old.id = sessionId ∧ write.apply old = some row := by
  rw [writeRow, Table.mem_rewrite]
  constructor
  · rintro ⟨old, mem, changed⟩
    by_cases same : old.id = sessionId
    · rw [if_pos same] at changed
      exact Or.inr ⟨old, mem, same, changed⟩
    · rw [if_neg same] at changed
      have unchanged := Option.some.inj changed
      subst unchanged
      exact Or.inl ⟨mem, same⟩
  · rintro (⟨mem, different⟩ | ⟨old, mem, same, changed⟩)
    · exact ⟨row, mem, if_neg different⟩
    · exact ⟨old, mem, (if_pos same).trans changed⟩

theorem mem_touch {sessionId : Uuid} {seenAt : Time} :
    row ∈ (store.touch sessionId seenAt).sessions ↔ (∃ old ∈ store.sessions, old.id = sessionId ∧
        { old with lastSeenAt := seenAt } = row) ∨ (row ∈ store.sessions ∧ row.id ≠ sessionId) := by
  rw [touch, Table.mem_modify]
  rfl

end SessionStore

/-- What the services take from outside: text operations, SHA-256 of secrets, sessions and JSON,
the token cipher, and the texts of ids and times. -/
structure SessionEnvironment where
  text : TextEnvironment
  secretHash : String → String
  sessionHash : String → String → Time → String
  canonicalHash : Json → String
  encrypt : String → String
  decrypt : String → Option String
  uuidText : Uuid → String
  isoFormat : Time → String

def second : Time := 1000000

/-- `if text` of an optional text. -/
def truthy (text : Option String) : Option String :=
  text.filter (fun value => value ≠ "")

/-- `bool(row.provider_id_token_ciphertext)`. -/
def hadProviderToken (row : BrowserSession) : Bool :=
  (truthy row.providerIdTokenCiphertext).isSome

def eventPayload (env : SessionEnvironment) (eventId : Uuid) (row : BrowserSession)
    (eventType : SessionEventType) (reason : Option String) (actor : SignerIdentity)
    (metadata : Json) (previous : Option String) (occurredAt : Time) : Json :=
  .obj
    [("id", .str (env.uuidText eventId)),
      ("session_id", .str (env.uuidText row.id)),
      ("session_hash", .str row.sessionHash),
      ("subject_id", .str row.subjectId),
      ("identity_provider", .str row.identityProvider),
      ("provider_session_hash", Json.optionText row.providerSessionHash),
      ("event_type", .str eventType.text),
      ("reason", Json.optionText reason),
      ("actor_identity_json", identityJson actor),
      ("identity_verified", .bool actor.identityVerified),
      ("metadata_json", metadata),
      ("previous_event_hash", Json.optionText previous),
      ("occurred_at", .str (env.isoFormat occurredAt))]

/-- The row that `append_browser_session_event` adds. -/
def browserSessionEvent (env : SessionEnvironment) (query : LatestEventQuery) (store : SessionStore)
    (row : BrowserSession) (eventType : SessionEventType) (reason : Option String)
    (actor : SignerIdentity) (metadata : Json) (occurredAt : Time) :
    BrowserSessionEvent :=
  let previous := (query.read (Chained.chainOf store.events row.id)
    ).map BrowserSessionEvent.eventHash
  { id := store.uuids
    sessionId := row.id
    eventType := eventType
    reason := reason
    actorIdentity := actor
    metadata := metadata
    previousEventHash := previous
    eventHash := env.canonicalHash (eventPayload env
      store.uuids row eventType reason actor metadata previous occurredAt)
    occurredAt := occurredAt }

/-- `append_browser_session_event`; the hash is unique in the table. -/
def appendBrowserSessionEvent (store : SessionStore)
    (event : BrowserSessionEvent) : Except ServiceError SessionStore :=
  if store.events.any (fun other => other.eventHash = event.eventHash) then
    .error (.integrity "oidc_browser_session_events.event_hash")
  else if known : event.sessionId < store.uuids then
    .ok (store.appendEvent event known)
  else .error (.unexpected "the session of the event was not stored")

/-- One change of a transaction: the row is written and its event appended. A row that another
transaction deleted is stale. -/
def applyChange (env : SessionEnvironment) (query : LatestEventQuery)
    (actor : SignerIdentity) (occurredAt : Time) (store : SessionStore)
    (change : SessionChange) : Except ServiceError SessionStore :=
  if (store.sessions.find? change.row.id).isNone then
    .error (.unexpected "StaleDataError")
  else
    appendBrowserSessionEvent (store.writeRow change.row.id change.write)
      (browserSessionEvent env query store change.row change.eventType
        change.reason actor change.metadata occurredAt)

def applyChanges (env : SessionEnvironment) (query : LatestEventQuery)
    (actor : SignerIdentity) (occurredAt : Time) :
    List SessionChange → SessionStore → Except ServiceError SessionStore
  | [], store => .ok store
  | change :: rest, store =>
    match applyChange env query actor occurredAt store change with
    | .error raised => .error raised
    | .ok next =>
      applyChanges env query actor occurredAt rest next

/-- The arguments of `issue`, with the session token that it draws. -/
structure IssueRequest where
  (sessionToken subjectId displayName : String)
  role : Option String
  identityProvider : String
  (providerSessionId providerIdToken clientDescriptor : Option String)

def sessionIdentity (subjectId displayName : String) (role : Option String)
    (identityProvider : String) : SignerIdentity where
  subjectId := subjectId
  displayName := displayName
  role := role
  identityProvider := identityProvider
  authSource := "oidc_browser_session"
  identityVerified := true
  ticketReference := none

def issuedSession (env : SessionEnvironment) (ttlSeconds : Nat)
    (store : SessionStore) (req : IssueRequest) (issuedAt : Time) :
    BrowserSession where
  id := store.uuids
  tokenHash := env.secretHash req.sessionToken
  sessionHash := env.sessionHash (env.secretHash req.sessionToken) req.subjectId issuedAt
  subjectId := req.subjectId
  displayName := req.displayName
  role := req.role
  identityProvider := req.identityProvider
  providerSessionId := req.providerSessionId
  providerSessionHash :=
    (truthy req.providerSessionId).map env.secretHash
  providerIdTokenCiphertext :=
    (truthy req.providerIdToken).map env.encrypt
  providerTokenPurgedAt := none
  authenticatedAt := issuedAt
  expiresAt := issuedAt + (max 300 ttlSeconds : Nat) * second
  lastSeenAt := issuedAt
  revokedAt := none
  revocationReason := none
  logoutInitiatedAt := none

def issuedMetadata (req : IssueRequest) : Json :=
  .obj
    [("provider_session_present", .bool (truthy req.providerSessionId).isSome),
      ("provider_id_token_retained", .bool (truthy req.providerIdToken).isSome),
      ("client_fingerprint_present",
        .bool (truthy req.clientDescriptor).isSome)]

/-- `DatabaseBrowserSessionStore.issue`; token and session hashes are unique. -/
def issue (env : SessionEnvironment) (query : LatestEventQuery)
    (ttlSeconds : Nat) (store : SessionStore) (req : IssueRequest)
    (issuedAt : Time) : Except ServiceError SessionStore :=
  let row := issuedSession env ttlSeconds store req issuedAt
  if store.sessions.rows.any (fun other =>
      other.tokenHash = row.tokenHash || other.sessionHash = row.sessionHash) then
    .error (.integrity "oidc_browser_sessions.token_hash")
  else
    let stored := store.insertSession row rfl
    appendBrowserSessionEvent stored (browserSessionEvent env query stored row .issued
        (some "oidc_login_completed")
        (sessionIdentity req.subjectId req.displayName req.role req.identityProvider)
        (issuedMetadata req) issuedAt)

/-! ## Resolve and logout -/

/-- `SELECT … WHERE token_hash = …`. -/
def sessionOfToken (env : SessionEnvironment) (store : SessionStore)
    (sessionToken : String) : Option BrowserSession :=
  store.sessions.rows.find? (fun row =>
    row.tokenHash = env.secretHash sessionToken)

def isActive (row : BrowserSession) (now : Time) : Bool :=
  row.revokedAt.isNone && now < row.expiresAt

/-- The last use is old enough for `resolve` to write it. -/
def needsTouch (row : BrowserSession) (now : Time) : Bool :=
  row.lastSeenAt ≤ now - 300 * second

/-- `DatabaseBrowserSessionStore.resolve`: the session it returns. -/
def resolve (env : SessionEnvironment) (store : SessionStore) (sessionToken : String) (now : Time) :
    SessionStore × Option BrowserSession :=
  match sessionOfToken env store sessionToken with
  | none => (store, none)
  | some row =>
    if !isActive row now then (store, none)
    else if needsTouch row now then
      (store.touch row.id now, some { row with lastSeenAt := now })
    else (store, some row)

structure LogoutRequest where
  (sessionToken reason : String)
  actorIdentity : Option SignerIdentity

def logoutToken (env : SessionEnvironment) (row : BrowserSession) : Option String :=
  (truthy row.providerIdTokenCiphertext).bind env.decrypt

def logoutChange (env : SessionEnvironment) (req : LogoutRequest)
    (now : Time) (row : BrowserSession) : Option SessionChange :=
  if row.revokedAt.isSome then none
  else some
    { row := row
      write := .logout now (pyClip 80 req.reason) (hadProviderToken row)
      eventType := .revoked
      reason := some (pyClip 160 req.reason)
      metadata := .obj
        [("scope", .str "current_session"),
          ("provider_logout_available",
            .bool (truthy (logoutToken env row)).isSome),
          ("provider_token_purged", .bool (hadProviderToken row))] }

def logoutActor (req : LogoutRequest) (row : BrowserSession) :
    SignerIdentity :=
  req.actorIdentity.getD (sessionIdentity row.subjectId row.displayName row.role
      row.identityProvider)

/-- `DatabaseBrowserSessionStore.revoke`, from the row that it has read on. -/
def logoutRow (env : SessionEnvironment) (query : LatestEventQuery) (store : SessionStore)
    (req : LogoutRequest) (now : Time) (row : BrowserSession) : Except ServiceError SessionStore :=
  applyChanges env query (logoutActor req row) now (logoutChange env req now row).toList store

/-- `DatabaseBrowserSessionStore.revoke`. -/
def logout (env : SessionEnvironment) (query : LatestEventQuery)
    (store : SessionStore) (req : LogoutRequest) (now : Time) :
    Except ServiceError SessionStore :=
  match sessionOfToken env store req.sessionToken with
  | none => .ok store
  | some row => logoutRow env query store req now row

/-! ## Administration -/

def roleKey (text : TextEnvironment) (role : Option String) : String :=
  text.lower (" ".intercalate (pySplit (pyStrip (role.getD ""))))

def sessionAdministratorRoles : List String := ["Admin", "SRE Lead"]

/-- `session_administration_permissions(…).can_administer`. -/
def canAdminister (text : TextEnvironment) (identity : SignerIdentity) : Bool :=
  identity.identityVerified &&
    (sessionAdministratorRoles.map (fun role => roleKey text (some role))
      ).contains (roleKey text identity.role)

/-- `_assert_can_administer`. -/
def administratorRequired : ServiceError :=
  .domainValidation
    "browser session administration requires a verified Admin or SRE Lead"

inductive RevocationScope where
  | session
  | subject
  | providerSession
  deriving DecidableEq, Repr

def RevocationScope.text : RevocationScope → String
  | session => "session"
  | subject => "subject"
  | providerSession => "provider_session"

def maxBulkSessionAction : Nat := 1000

/-- What an administrator's call passes to `_revoke_rows`. -/
structure RevocationRequest where
  scope : RevocationScope
  reason : String
  signerIdentity : SignerIdentity
  currentSessionId : Option Uuid

def revokeChange (req : RevocationRequest) (observedAt : Time)
    (row : BrowserSession) : Option SessionChange :=
  if req.currentSessionId = some row.id then none
  else if !isActive row observedAt then
    if hadProviderToken row then some
      { row := row
        write := .purge observedAt
        eventType := .providerTokenPurged
        reason := some "administrative_inactive_session_action"
        metadata := .obj
          [("scope", .str req.scope.text),
            ("operator_reason", .str req.reason)] }
    else none
  else some
    { row := row
      write := .revoke observedAt
        (pyClip 80 ("administrator_" ++ req.scope.text ++ "_revocation"))
        (hadProviderToken row)
      eventType := .revoked
      reason := some req.reason
      metadata := .obj
        [("scope", .str req.scope.text),
          ("provider_token_purged", .bool (hadProviderToken row))] }

/-- `BrowserSessionBulkActionRead`, without the event ids. -/
structure BulkAction where
  action : RevocationScope
  (matchedCount revokedCount alreadyInactiveCount : Nat)
  currentSessionPreserved : Bool
  deriving DecidableEq, Repr

def bulkAction (req : RevocationRequest) (observedAt : Time)
    (rows : List BrowserSession) : BulkAction :=
  let others := rows.filter (fun row =>
    req.currentSessionId ≠ some row.id)
  { action := req.scope
    matchedCount := rows.length
    revokedCount := (others.filter (isActive · observedAt)).length
    alreadyInactiveCount := (others.filter (!isActive · observedAt)).length
    currentSessionPreserved := rows.any (fun row =>
      req.currentSessionId = some row.id) }

def revokeRows (env : SessionEnvironment) (query : LatestEventQuery) (store : SessionStore)
    (req : RevocationRequest) (observedAt : Time) (rows : List BrowserSession) :
    Except ServiceError (SessionStore × BulkAction) :=
  match applyChanges env query req.signerIdentity observedAt
      (rows.filterMap (revokeChange req observedAt)) store with
  | .error raised => .error raised
  | .ok revoked => .ok (revoked, bulkAction req observedAt rows)

/-- `ORDER BY last_seen_at DESC LIMIT … FOR UPDATE SKIP LOCKED`. -/
def selectForRevocation (store : SessionStore) (locked : List Uuid)
    (wanted : BrowserSession → Bool) : List BrowserSession :=
  ((store.sessions.rows.filter (fun row =>
      wanted row && !locked.contains row.id)).insertionSort
    (fun left right => right.lastSeenAt ≤ left.lastSeenAt)).take maxBulkSessionAction

inductive RevocationTarget where
  | session (sessionId : Uuid)
  | subject (subjectId : String)
  | providerSession (providerSessionHash : String)
  deriving DecidableEq, Repr

def RevocationTarget.scope : RevocationTarget → RevocationScope
  | session _ => .session
  | subject _ => .subject
  | providerSession _ => .providerSession

def RevocationTarget.matches (text : TextEnvironment) : RevocationTarget → BrowserSession → Bool
  | session sessionId, row => row.id = sessionId
  | subject subjectId, row => row.subjectId = pyStrip subjectId
  | providerSession wanted, row =>
    row.providerSessionHash = some (text.lower (pyStrip wanted))

def RevocationTarget.refusal (text : TextEnvironment) : RevocationTarget → Option String
  | session _ => none
  | subject subjectId =>
    if pyStrip subjectId = "" then
      some "browser session subject_id is required"
    else none
  | providerSession wanted =>
    if isHexDigest (text.lower (pyStrip wanted)) then none
    else some "provider session hash must be 64 hexadecimal characters"

/-- The rows that the three revocations lock. A bulk revocation skips locked rows. -/
def revocationRows (env : SessionEnvironment) (store : SessionStore)
    (locked : List Uuid) (target : RevocationTarget)
    (req : RevocationRequest) : Except ServiceError (List BrowserSession) :=
  if !canAdminister env.text req.signerIdentity then
    .error administratorRequired
  else
    match target.refusal env.text with
    | some message => .error (.domainValidation message)
    | none =>
      match target with
      | .session sessionId =>
        match store.sessions.find? sessionId with
        | none => .error (.domainValidation "browser session was not found")
        | some row =>
          if req.currentSessionId = some row.id then
            .error (.domainValidation
              "Use browser logout for the current browser session")
          else .ok [row]
      | .subject _ | .providerSession _ =>
        .ok (selectForRevocation store locked (target.matches env.text))

structure CleanupRequest where
  signerIdentity : SignerIdentity
  (retentionDays batchSize : Int)
  reason : String

def retentionCutoff (req : CleanupRequest) (observedAt : Time) : Time :=
  observedAt - max 1 (min req.retentionDays 3650) * 86400 * second

def boundedBatch (req : CleanupRequest) : Nat :=
  (max 1 (min req.batchSize 1000)).toNat

def retentionDue (cutoff : Time) (row : BrowserSession) : Bool :=
  match row.revokedAt with
  | some revokedAt => revokedAt ≤ cutoff
  | none => row.expiresAt ≤ cutoff

/-- `revoked_at ASC, expires_at ASC`, with nulls last. -/
def retentionOrder (left right : BrowserSession) : Prop :=
  match left.revokedAt, right.revokedAt with
  | some first, some second =>
    first < second ∨ (first = second ∧ left.expiresAt ≤ right.expiresAt)
  | some _, none => True
  | none, some _ => False
  | none, none => left.expiresAt ≤ right.expiresAt

instance : DecidableRel retentionOrder := fun left right => by
  unfold retentionOrder
  exact match left.revokedAt, right.revokedAt with
    | some _, some _ => inferInstance
    | some _, none => inferInstance
    | none, some _ => inferInstance
    | none, none => inferInstance

def sessionStatus (row : BrowserSession) (observedAt : Time) : String :=
  if row.revokedAt.isSome then "revoked"
  else if row.expiresAt ≤ observedAt then "expired"
  else "active"

def deletedRows (store : SessionStore) (locked : List Uuid)
    (req : CleanupRequest) (observedAt : Time) : List BrowserSession :=
  ((store.sessions.rows.filter (fun row =>
      retentionDue (retentionCutoff req observedAt) row &&
        !locked.contains row.id)).insertionSort retentionOrder).take
    (boundedBatch req)

/-- `purged_rows`, none of which is deleted. -/
def purgedRows (store : SessionStore) (locked deleted : List Uuid)
    (req : CleanupRequest) (observedAt : Time) : List BrowserSession :=
  ((store.sessions.rows.filter (fun row =>
      row.providerIdTokenCiphertext.isSome && !isActive row observedAt &&
        !deleted.contains row.id && !locked.contains row.id)).insertionSort
    (fun left right => left.expiresAt ≤ right.expiresAt)).take (boundedBatch req)

def deleteChange (req : CleanupRequest) (observedAt : Time)
    (row : BrowserSession) : SessionChange where
  row := row
  write := .delete
  eventType := .retentionDeleted
  reason := some req.reason
  metadata := .obj
    [("retention_days", .int (max 1 (min req.retentionDays 3650))),
      ("provider_token_purged", .bool (hadProviderToken row)),
      ("status_before_delete", .str (sessionStatus row observedAt))]

def purgeChange (req : CleanupRequest) (observedAt : Time)
    (row : BrowserSession) : SessionChange where
  row := row
  write := .purge observedAt
  eventType := .providerTokenPurged
  reason := some "inactive_session_cleanup"
  metadata := .obj [("cleanup_reason", .str req.reason)]

def canCleanup (text : TextEnvironment) (identity : SignerIdentity) : Bool :=
  (identity.identityVerified && identity.role = some "System Worker") ||
    canAdminister text identity

def rowsChanges (req : CleanupRequest) (observedAt : Time)
    (deleted purged : List BrowserSession) : List SessionChange :=
  deleted.map (deleteChange req observedAt) ++ purged.map (purgeChange req observedAt)

def cleanupChanges (store : SessionStore) (locked : List Uuid)
    (req : CleanupRequest) (observedAt : Time) : List SessionChange :=
  let deleted := deletedRows store locked req observedAt
  rowsChanges req observedAt deleted
    (purgedRows store locked (deleted.map BrowserSession.id) req observedAt)

def cleanupBrowserSessions (env : SessionEnvironment) (query : LatestEventQuery)
    (store : SessionStore) (locked : List Uuid) (req : CleanupRequest) (observedAt : Time) :
    Except ServiceError SessionStore :=
  if !canCleanup env.text req.signerIdentity then
    .error (.domainValidation ("browser session cleanup requires a verified " ++
      "System Worker or session administrator"))
  else
    applyChanges env query req.signerIdentity observedAt
      (cleanupChanges store locked req observedAt) store

/-! ## The changes of a transaction -/

def changedIds (changes : List SessionChange) : List Uuid :=
  changes.map (fun change => change.row.id)

theorem nodup_rows (table : Table BrowserSession) (selects : BrowserSession → Bool)
    (order : BrowserSession → BrowserSession → Prop) [DecidableRel order] (limit : Nat) :
    ((((table.rows.filter selects).insertionSort order).take limit).map
      BrowserSession.id).Nodup := by
  have filtered : ((table.rows.filter selects).map BrowserSession.id).Nodup :=
    table.keysNodup.sublist (List.filter_sublist.map _)
  have sorted := ((List.perm_insertionSort order
    (table.rows.filter selects)).map BrowserSession.id).nodup_iff.mpr filtered
  exact sorted.sublist ((List.take_sublist _ _).map _)

theorem revokeChange_row {change : SessionChange}
    (changed : revokeChange req observedAt row = some change) :
    change.row = row := by
  rw [revokeChange] at changed
  split at changed
  · cases changed
  · split at changed
    · split at changed
      · rw [← Option.some.inj changed]
      · cases changed
    · rw [← Option.some.inj changed]

theorem logoutChange_row {env : SessionEnvironment} {req : LogoutRequest} {now : Time}
    {change : SessionChange} (changed : logoutChange env req now row = some change) :
    change.row = row := by
  rw [logoutChange] at changed
  split at changed
  · cases changed
  · rw [← Option.some.inj changed]

theorem nodup_revocationRows {env : SessionEnvironment} {locked : List Uuid}
    {target : RevocationTarget} {rows : List BrowserSession}
    (selected : revocationRows env store locked target req =
      .ok rows) : (rows.map BrowserSession.id).Nodup := by
  unfold revocationRows at selected
  split at selected
  · cases selected
  · split at selected
    · cases selected
    · split at selected
      · split at selected
        · cases selected
        · split at selected
          · cases selected
          · rw [← Except.ok.inj selected]
            exact List.nodup_singleton _
      · rw [← Except.ok.inj selected]
        exact nodup_rows ..
      · rw [← Except.ok.inj selected]
        exact nodup_rows ..

theorem nodup_revokeChanges {rows : List BrowserSession}
    (distinct : (rows.map BrowserSession.id).Nodup) :
    (changedIds (rows.filterMap (revokeChange req observedAt))).Nodup :=
  distinct.sublist (sublist_map_filterMap
    (fun _ _ changed => congrArg BrowserSession.id (revokeChange_row changed))
    rows)

theorem not_deleted_of_purged {locked deleted : List Uuid} {req : CleanupRequest}
    (mem : row ∈ purgedRows store locked deleted req observedAt) :
    row.id ∉ deleted := by
  have kept := List.mem_of_mem_take mem
  rw [List.mem_insertionSort, List.mem_filter] at kept
  have tests := kept.2
  simp only [Bool.and_eq_true, Bool.not_eq_true', List.contains_eq_mem,
    decide_eq_false_iff_not] at tests
  exact tests.1.2

theorem nodup_rowsChanges {req : CleanupRequest} {deleted purged : List BrowserSession}
    (deletedDistinct : (deleted.map BrowserSession.id).Nodup)
    (purgedDistinct : (purged.map BrowserSession.id).Nodup)
    (apart : ∀ row ∈ purged, row.id ∉ deleted.map BrowserSession.id) :
    (changedIds (rowsChanges req observedAt deleted purged)).Nodup := by
  rw [changedIds, rowsChanges, List.map_append, List.map_map, List.map_map, List.nodup_append]
  refine ⟨deletedDistinct, purgedDistinct, ?_⟩
  rintro _ isDeleted _ isPurged same
  obtain ⟨row, rowMem, rfl⟩ := List.mem_map.mp isPurged
  subst same
  exact apart row rowMem isDeleted

theorem nodup_cleanupChanges (store : SessionStore) (locked : List Uuid)
    (req : CleanupRequest) (observedAt : Time) :
    (changedIds (cleanupChanges store locked req observedAt)).Nodup :=
  nodup_rowsChanges (nodup_rows ..) (nodup_rows ..) (fun _ mem => not_deleted_of_purged mem)

end ModelAtlas.Sessions
