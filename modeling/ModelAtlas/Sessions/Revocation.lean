import ModelAtlas.Sessions.BrowserSessions

/-!
# Concurrent calls on browser sessions

A call is a transaction of several steps. `resolve` and logout read a row
without a lock and write it later; a revocation locks its rows when it selects
them, and a bulk revocation and the cleanup skip locked rows. A call reads the
clock with its first query, and a revocation with its commit.
-/

namespace ModelAtlas.Sessions

open Foundations Approval

variable {new row : BrowserSession} {ids written : List Uuid} {sessionId : Uuid}
  {changes : List SessionChange} {req : CleanupRequest} {rows : List BrowserSession}
  {target : RevocationTarget} {now : Time} {label : SessionLabel}

/-! ## Calls in flight -/

inductive CallPhase where
  | idle
  /-- `resolve` has read this row and is to write its last use. -/
  | touching (row : BrowserSession) (now : Time)
  | touched (row : BrowserSession) (now : Time)
  | refreshing (row : BrowserSession)
  | loggingOut (req : LogoutRequest) (row : BrowserSession) (now : Time)
  | loggedOut (req : LogoutRequest) (row : BrowserSession) (now : Time)
  /-- A revocation has locked these rows; sessions issued before it have ids
  below `issuedBefore`. -/
  | revoking (target : RevocationTarget) (req : RevocationRequest)
      (rows : List BrowserSession) (issuedBefore : Uuid)
  | cleaning (req : CleanupRequest) (now : Time)
      (deleted : List BrowserSession)
  | purging (req : CleanupRequest) (now : Time)
      (deleted purged : List BrowserSession)

namespace CallPhase

def read? : CallPhase → Option BrowserSession
  | touching row _ | touched row _ | refreshing row => some row
  | loggingOut _ row _ | loggedOut _ row _ => some row
  | idle | revoking .. | cleaning .. | purging .. => none

def lockedRows : CallPhase → List BrowserSession
  | revoking _ _ rows _ => rows
  | cleaning _ _ deleted => deleted
  | purging _ _ deleted purged => deleted ++ purged
  | idle | touching .. | touched .. | refreshing .. | loggingOut ..
  | loggedOut .. => []

/-- The row that a `resolve` in flight is to return. -/
def resolving? : CallPhase → Option BrowserSession
  | touching row _ | touched row _ | refreshing row => some row
  | idle | loggingOut .. | loggedOut .. | revoking .. | cleaning ..
  | purging .. => none

def revokedRows : CallPhase → List BrowserSession
  | loggedOut _ row _ => [row]
  | revoking _ req rows _ => rows.filter (fun row =>
    req.currentSessionId ≠ some row.id)
  | idle | touching .. | touched .. | refreshing .. | loggingOut ..
  | cleaning .. | purging .. => []

def held : CallPhase → List Uuid
  | touched row _ => [row.id]
  | loggedOut _ row _ => [row.id]
  | phase => phase.lockedRows.map BrowserSession.id

end CallPhase

structure SessionCommit where
  actor : SignerIdentity
  occurredAt : Time
  changes : List SessionChange

def CallPhase.commit? (env : SessionEnvironment) (now : Time) : CallPhase → Option SessionCommit
  | loggedOut req row readAt => some ⟨logoutActor req row, readAt,
        (logoutChange env req readAt row).toList⟩
  | revoking _ req rows _ => some ⟨req.signerIdentity, now, rows.filterMap (revokeChange req now)⟩
  | purging req readAt deleted purged => some ⟨req.signerIdentity, readAt,
        rowsChanges req readAt deleted purged⟩
  | idle | touching .. | touched .. | refreshing .. | loggingOut ..
  | cleaning .. => none

structure SessionWorld where
  store : SessionStore
  clock : Time
  phase : Nat → CallPhase
  lockedBy : Uuid → Option Nat

inductive SessionStep where
  | issue (query : LatestEventQuery) (ttlSeconds : Nat) (req : IssueRequest)
  | resolve (call : Nat) (sessionToken : String)
  | touch (call : Nat)
  | commitTouch (call : Nat)
  | refresh (call : Nat)
  | logout (call : Nat) (req : LogoutRequest)
  | writeLogout (call : Nat)
  | revoke (call : Nat) (target : RevocationTarget)
      (req : RevocationRequest)
  | cleanup (call : Nat) (req : CleanupRequest)
  | purge (call : Nat)
  | commit (call : Nat) (query : LatestEventQuery)
  | abort (call : Nat)

structure SessionLabel where
  step : SessionStep
  now : Time

namespace SessionWorld

def initial (clock : Time) : SessionWorld where
  store := .empty
  clock := clock
  phase _ := .idle
  lockedBy _ := none

def setPhase (world : SessionWorld) (call : Nat) (phase : CallPhase) :
    SessionWorld :=
  { world with phase := Function.update world.phase call phase }

def lock (world : SessionWorld) (call : Nat) (ids : List Uuid) :
    SessionWorld :=
  { world with
    lockedBy := fun sessionId =>
      if ids.contains sessionId then some call else world.lockedBy sessionId }

def release (world : SessionWorld) (call : Nat) : SessionWorld :=
  { world with
    lockedBy := fun sessionId =>
      if world.lockedBy sessionId = some call then none
      else world.lockedBy sessionId }

def locked (world : SessionWorld) : List Uuid :=
  (world.store.sessions.rows.map BrowserSession.id).filter
    (fun sessionId => (world.lockedBy sessionId).isSome)

def endCall (world : SessionWorld) (call : Nat) : SessionWorld :=
  (world.release call).setPhase call .idle

def writeRead (world : SessionWorld) (call : Nat) (row : BrowserSession)
    (written : CallPhase) : Option SessionWorld :=
  if (world.store.sessions.find? row.id).isNone then some (world.endCall call)
  else if (world.lockedBy row.id).isNone then
    some ((world.lock call [row.id]).setPhase call written)
  else none

def stepAt (env : SessionEnvironment) (world : SessionWorld)
    (now : Time) : SessionStep → Option SessionWorld
  | .issue query ttlSeconds req =>
    match issue env query ttlSeconds world.store req now with
    | .error _ => some world
    | .ok store => some { world with store := store }
  | .resolve call sessionToken =>
    match world.phase call with
    | .idle =>
      match sessionOfToken env world.store sessionToken with
      | none => some world
      | some row =>
        if isActive row now && needsTouch row now then
          some (world.setPhase call (.touching row now))
        else some world
    | _ => none
  | .touch call =>
    match world.phase call with
    | .touching row readAt =>
      world.writeRead call row (.touched row readAt)
    | _ => none
  | .commitTouch call =>
    match world.phase call with
    | .touched row readAt =>
      some (({ world with store := world.store.touch row.id readAt
        }.release call).setPhase call (.refreshing row))
    | _ => none
  | .refresh call =>
    match world.phase call with
    | .refreshing _ => some (world.endCall call)
    | _ => none
  | .logout call req =>
    match world.phase call with
    | .idle =>
      match sessionOfToken env world.store req.sessionToken with
      | none => some world
      | some row =>
        if row.revokedAt.isNone then
          some (world.setPhase call (.loggingOut req row now))
        else some world
    | _ => none
  | .writeLogout call =>
    match world.phase call with
    | .loggingOut req row readAt =>
      world.writeRead call row (.loggedOut req row readAt)
    | _ => none
  | .revoke call target req =>
    match world.phase call with
    | .idle =>
      match revocationRows env world.store world.locked target req with
      | .error _ => some world
      | .ok rows =>
        -- A single revocation waits for the lock of its row.
        if rows.all (fun row => (world.lockedBy row.id).isNone) then
          some ((world.lock call (rows.map BrowserSession.id)).setPhase
            call (.revoking target req rows world.store.uuids))
        else none
    | _ => none
  | .cleanup call req =>
    match world.phase call with
    | .idle =>
      if canCleanup env.text req.signerIdentity then
        let deleted := deletedRows world.store world.locked req now
        some ((world.lock call (deleted.map BrowserSession.id)).setPhase
          call (.cleaning req now deleted))
      else some world
    | _ => none
  | .purge call =>
    match world.phase call with
    | .cleaning req readAt deleted =>
      let purged := purgedRows world.store world.locked (deleted.map BrowserSession.id) req readAt
      some ((world.lock call (purged.map BrowserSession.id)).setPhase call
        (.purging req readAt deleted purged))
    | _ => none
  | .commit call query =>
    match (world.phase call).commit? env now with
    | none => none
    | some commit =>
      match applyChanges env query commit.actor commit.occurredAt commit.changes world.store with
      | .error _ => some (world.endCall call)
      | .ok store => some ({ world with store := store }.endCall call)
  | .abort call => some (world.endCall call)

def next (env : SessionEnvironment) (world : SessionWorld)
    (label : SessionLabel) : Option SessionWorld :=
  if label.now < world.clock then none
  else ({ world with clock := label.now }).stepAt env label.now label.step

/-- The session that `resolve` returns with this step. -/
def resolved (env : SessionEnvironment) (world : SessionWorld)
    (label : SessionLabel) : Option BrowserSession :=
  match label.step with
  | .resolve call sessionToken =>
    match world.phase call with
    | .idle =>
      (sessionOfToken env world.store sessionToken).filter
        (fun row => isActive row label.now && !needsTouch row label.now)
    | _ => none
  | .refresh call =>
    match world.phase call with
    | .refreshing row => world.store.sessions.find? row.id
    | _ => none
  | _ => none

end SessionWorld

/-- What no transaction changes of a session, and the token material that it
does not bring back. -/
structure Keeps (row new : BrowserSession) : Prop where
  id : new.id = row.id
  subjectId : new.subjectId = row.subjectId
  providerSessionHash : new.providerSessionHash = row.providerSessionHash
  expiresAt : new.expiresAt = row.expiresAt
  ciphertext : row.providerIdTokenCiphertext = none →
    new.providerIdTokenCiphertext = none
  providerSessionId : row.providerSessionId = none →
    new.providerSessionId = none

theorem Keeps.refl (row : BrowserSession) : Keeps row row :=
  ⟨rfl, rfl, rfl, rfl, fun absent => absent, fun absent => absent⟩

def RowWrite.revokes : RowWrite → Bool
  | .revoke .. | .logout .. => true
  | .purge _ | .delete => false

theorem RowWrite.keeps {write : RowWrite}
    (applied : write.apply row = some new) : Keeps row new := by
  cases write with
  | delete =>
    cases applied
  | purge observedAt =>
    rw [← Option.some.inj applied]
    exact ⟨rfl, rfl, rfl, rfl, fun _ => rfl, fun _ => rfl⟩
  | revoke observedAt reason hadToken =>
    rw [← Option.some.inj applied]
    exact ⟨rfl, rfl, rfl, rfl, fun _ => rfl, fun _ => rfl⟩
  | logout observedAt reason hadToken =>
    rw [← Option.some.inj applied]
    exact ⟨rfl, rfl, rfl, rfl, fun _ => rfl, fun _ => rfl⟩

theorem RowWrite.revokedAt {write : RowWrite}
    (notRevokes : write.revokes = false) (applied : write.apply row = some new) :
    new.revokedAt = row.revokedAt := by
  cases write with
  | delete =>
    cases applied
  | purge observedAt =>
    rw [← Option.some.inj applied]
  | revoke observedAt reason hadToken =>
    cases notRevokes
  | logout observedAt reason hadToken =>
    cases notRevokes

theorem appendBrowserSessionEvent_ok {store next : SessionStore} {event : BrowserSessionEvent}
    (appended : appendBrowserSessionEvent store event = .ok next) :
    next.sessions = store.sessions ∧ next.uuids = store.uuids + 1 := by
  rw [appendBrowserSessionEvent] at appended
  split at appended
  · cases appended
  · split at appended
    · rw [← Except.ok.inj appended]
      exact ⟨rfl, rfl⟩
    · cases appended

/-- The rows after a step: as they were, or written with what `Keeps` says kept, or new. -/
structure StoreStep (before after : SessionStore) (written : List Uuid) :
    Prop where
  kept : ∀ row ∈ before.sessions, row.id ∉ written → row ∈ after.sessions
  source : ∀ new ∈ after.sessions,
    (new ∈ before.sessions ∧ new.id ∉ written) ∨
      (∃ old ∈ before.sessions, old.id ∈ written ∧ Keeps old new) ∨
        (before.uuids ≤ new.id ∧ new.revokedAt = none)
  uuids : before.uuids ≤ after.uuids

theorem StoreStep.refl (store : SessionStore) : StoreStep store store [] where
  kept _ mem _ := mem
  source _ mem := Or.inl ⟨mem, List.not_mem_nil⟩
  uuids := Nat.le_refl _

theorem StoreStep.old {before after : SessionStore} (step : StoreStep before after written)
    (mem : new ∈ after.sessions) (drawn : new.id < before.uuids) :
    ∃ old ∈ before.sessions, Keeps old new := by
  rcases step.source new mem with
    ⟨same, _⟩ | ⟨old, oldMem, _, keeps⟩ | issued
  · exact ⟨new, same, Keeps.refl new⟩
  · exact ⟨old, oldMem, keeps⟩
  · exact absurd (Nat.lt_of_lt_of_le drawn issued.1) (Nat.lt_irrefl _)

section Rows

variable {env : SessionEnvironment} {query : LatestEventQuery}
  {actor : SignerIdentity} {occurredAt : Time} {store next : SessionStore}

theorem mem_applyChange {change : SessionChange}
    (applied : applyChange env query actor occurredAt store change =
      .ok next) (row : BrowserSession) :
    row ∈ next.sessions ↔ (row ∈ store.sessions ∧ row.id ≠ change.row.id) ∨
        ∃ old ∈ store.sessions, old.id = change.row.id ∧ change.write.apply old = some row := by
  rw [applyChange] at applied
  split at applied
  · cases applied
  · rw [(appendBrowserSessionEvent_ok applied).1]
    exact SessionStore.mem_writeRow

theorem uuids_applyChanges : ∀ {store next : SessionStore},
      applyChanges env query actor occurredAt changes store =
        .ok next → store.uuids ≤ next.uuids := by
  induction changes with
  | nil =>
    intro store next applied
    rw [Except.ok.inj applied]
  | cons change rest ih =>
    intro store next applied
    rw [applyChanges] at applied
    split at applied
    · cases applied
    · next middle taken =>
        rw [applyChange] at taken
        split at taken
        · cases taken
        · have grows := (appendBrowserSessionEvent_ok taken).2
          have later := ih applied
          rw [grows] at later
          exact Nat.le_of_succ_le later

theorem mem_applyChanges : ∀ {store next : SessionStore}, (changedIds changes).Nodup →
      applyChanges env query actor occurredAt changes store =
        .ok next → ∀ row, row ∈ next.sessions ↔
          (row ∈ store.sessions ∧ row.id ∉ changedIds changes) ∨
            ∃ change ∈ changes, ∃ old ∈ store.sessions,
              old.id = change.row.id ∧ change.write.apply old = some row := by
  induction changes with
  | nil =>
    intro store next _ applied row
    rw [Except.ok.inj applied]
    constructor
    · exact fun mem => Or.inl ⟨mem, List.not_mem_nil⟩
    · rintro (⟨mem, _⟩ | ⟨change, inNil, _⟩)
      · exact mem
      · exact absurd inNil List.not_mem_nil
  | cons change rest ih =>
    intro store next distinct applied row
    rw [applyChanges] at applied
    split at applied
    · cases applied
    · next middle taken =>
        rw [changedIds, List.map_cons, List.nodup_cons] at distinct
        have ofRest := ih distinct.2 applied
        have ofFirst := mem_applyChange taken
        rw [ofRest]
        constructor
        · rintro (⟨mem, unwritten⟩ | ⟨other, otherMem, old, mem, same, written⟩)
          · rcases (ofFirst row).mp mem with
              ⟨stored, apart⟩ | ⟨old, oldMem, same, written⟩
            · refine Or.inl ⟨stored, ?_⟩
              rw [changedIds, List.map_cons, List.mem_cons]
              rintro (own | later)
              · exact apart own
              · exact unwritten later
            · exact Or.inr ⟨change, List.mem_cons_self, old, oldMem, same, written⟩
          · rcases (ofFirst old).mp mem with
              ⟨stored, _⟩ | ⟨first, _, firstId, firstWritten⟩
            · exact Or.inr ⟨other, List.mem_cons_of_mem change otherMem, old, stored, same, written⟩
            · have oldId : old.id = change.row.id :=
                (RowWrite.apply_id firstWritten).trans firstId
              refine absurd ?_ distinct.1
              rw [← oldId, same]
              exact List.mem_map_of_mem otherMem
        · rintro (⟨stored, unwritten⟩ | ⟨other, otherMem, old, stored, same, written⟩)
          · rw [changedIds, List.map_cons, List.mem_cons] at unwritten
            refine Or.inl ⟨(ofFirst row).mpr (Or.inl ⟨stored, ?_⟩), ?_⟩
            · exact fun own => unwritten (Or.inl own)
            · exact fun later => unwritten (Or.inr later)
          · rcases List.mem_cons.mp otherMem with rfl | inRest
            · have rowId : row.id = other.row.id :=
                (RowWrite.apply_id written).trans same
              refine Or.inl ⟨(ofFirst row).mpr (Or.inr ⟨old, stored, same, written⟩), ?_⟩
              rw [rowId]
              exact distinct.1
            · refine Or.inr ⟨other, inRest, old,
                (ofFirst old).mpr (Or.inl ⟨stored, ?_⟩), same, written⟩
              intro own
              refine distinct.1 ?_
              rw [← own, same]
              exact List.mem_map_of_mem inRest

theorem storeStep_applyChanges (distinct : (changedIds changes).Nodup)
    (applied : applyChanges env query actor occurredAt changes store =
      .ok next) : StoreStep store next (changedIds changes) where
  kept row mem unwritten :=
    (mem_applyChanges distinct applied row).mpr (Or.inl ⟨mem, unwritten⟩)
  source new mem := by
    rcases (mem_applyChanges distinct applied new).mp mem with
      same | ⟨change, inChanges, old, oldMem, named, written⟩
    · exact Or.inl same
    · refine Or.inr (Or.inl ⟨old, oldMem, ?_, RowWrite.keeps written⟩)
      rw [named]
      exact List.mem_map_of_mem inChanges
  uuids := uuids_applyChanges applied

theorem storeStep_touch (sessionId : Uuid) (seenAt : Time) :
    StoreStep store (store.touch sessionId seenAt) [sessionId] where
  kept row mem unwritten := by
    rw [List.mem_singleton] at unwritten
    exact SessionStore.mem_touch.mpr (Or.inr ⟨mem, unwritten⟩)
  source new mem := by
    rcases SessionStore.mem_touch.mp mem with
      ⟨old, oldMem, named, rfl⟩ | ⟨same, apart⟩
    · refine Or.inr (Or.inl ⟨old, oldMem, ?_, ?_⟩)
      · exact List.mem_singleton.mpr named
      · exact ⟨rfl, rfl, rfl, rfl, fun absent => absent, fun absent => absent⟩
    · exact Or.inl ⟨same, fun inside => apart (List.mem_singleton.mp inside)⟩
  uuids := Nat.le_refl _

theorem storeStep_issue {ttlSeconds : Nat} {req : IssueRequest} {issuedAt : Time}
    (issued : issue env query ttlSeconds store req issuedAt =
      .ok next) : StoreStep store next [] := by
  rw [issue] at issued
  split at issued
  · cases issued
  · obtain ⟨sessions, uuids⟩ := appendBrowserSessionEvent_ok issued
    refine ⟨?_, ?_, ?_⟩
    · intro row mem _
      rw [sessions]
      exact SessionStore.mem_insertSession.mpr (Or.inl mem)
    · intro new mem
      rw [sessions] at mem
      rcases SessionStore.mem_insertSession.mp mem with old | rfl
      · exact Or.inl ⟨old, List.not_mem_nil⟩
      · exact Or.inr (Or.inr ⟨Nat.le_refl _, rfl⟩)
    · rw [uuids]
      exact Nat.le_trans (Nat.le_succ _) (Nat.le_succ _)

end Rows

/-! ## What a call in flight relies on -/

structure CallSound (env : SessionEnvironment) (store : SessionStore)
    (lockedBy : Uuid → Option Nat) (call : Nat) (phase : CallPhase) :
    Prop where
  held : ∀ sessionId ∈ phase.held, lockedBy sessionId = some call
  rows : ∀ row ∈ phase.lockedRows, row ∈ store.sessions
  distinct : (phase.lockedRows.map BrowserSession.id).Nodup
  unrevoked : ∀ row, phase.read? = some row → ∀ current ∈ store.sessions,
    current.id = row.id → current.revokedAt = none
  drawn : ∀ target req rows issuedBefore,
    phase = .revoking target req rows issuedBefore →
      issuedBefore ≤ store.uuids
  cover : ∀ target req rows issuedBefore,
    phase = .revoking target req rows issuedBefore →
      rows.length < maxBulkSessionAction →
        ∀ current ∈ store.sessions, current.id < issuedBefore →
          target.matches env.text current = true →
            current.id ∈ rows.map BrowserSession.id

def WorldSound (env : SessionEnvironment) (world : SessionWorld) :
    Prop :=
  ∀ call, CallSound env world.store world.lockedBy call (world.phase call)

section Calls

variable {env : SessionEnvironment} {store : SessionStore}
  {lockedBy : Uuid → Option Nat} {call : Nat} {phase : CallPhase}

theorem callSound_idle : CallSound env store lockedBy call .idle where
  held _ mem := absurd mem List.not_mem_nil
  rows _ mem := absurd mem List.not_mem_nil
  distinct := List.nodup_nil
  unrevoked _ read := by cases read
  drawn _ _ _ _ same := by cases same
  cover _ _ _ _ same := by cases same

theorem callSound_read (read : phase.read? = some row) (noRows : phase.lockedRows = [])
    (locks : ∀ sessionId ∈ phase.held, lockedBy sessionId = some call)
    (notRevoking : ∀ target req rows issuedBefore, phase ≠ .revoking target req rows issuedBefore)
    (unrevoked : ∀ current ∈ store.sessions, current.id = row.id → current.revokedAt = none) :
    CallSound env store lockedBy call phase where
  held := locks
  rows locked mem := by
    rw [noRows] at mem
    exact absurd mem List.not_mem_nil
  distinct := by
    rw [noRows]
    exact List.nodup_nil
  unrevoked other same := by
    rw [read] at same
    rw [← Option.some.inj same]
    exact unrevoked
  drawn target req rows issuedBefore same :=
    absurd same (notRevoking target req rows issuedBefore)
  cover target req rows issuedBefore same :=
    absurd same (notRevoking target req rows issuedBefore)

theorem matches_keeps {text : TextEnvironment} (keeps : Keeps row new) :
    target.matches text new = target.matches text row := by
  cases target with
  | session sessionId =>
    simp only [RevocationTarget.matches, keeps.id]
  | subject subjectId =>
    simp only [RevocationTarget.matches, keeps.subjectId]
  | providerSession wanted =>
    simp only [RevocationTarget.matches, keeps.providerSessionHash]

theorem CallSound.afterStep {after : SessionStore}
    (sound : CallSound env store lockedBy call phase) (step : StoreStep store after written)
    (others : ∀ sessionId ∈ written, lockedBy sessionId ≠ some call)
    (unrevoked : ∀ row, phase.read? = some row → ∀ current ∈ after.sessions, current.id = row.id →
        current.revokedAt = none) :
    CallSound env after lockedBy call phase where
  held := sound.held
  rows row mem := by
    refine step.kept row (sound.rows row mem) ?_
    intro isWritten
    refine others row.id isWritten (sound.held row.id ?_)
    cases phase with
    | idle | touching | touched | refreshing | loggingOut | loggedOut =>
      exact absurd mem List.not_mem_nil
    | revoking | cleaning | purging =>
      exact List.mem_map_of_mem mem
  distinct := sound.distinct
  unrevoked := unrevoked
  drawn target req rows issuedBefore same :=
    Nat.le_trans (sound.drawn target req rows issuedBefore same) step.uuids
  cover target req rows issuedBefore same short current mem early
      matched := by
    have drawn := sound.drawn target req rows issuedBefore same
    obtain ⟨old, oldMem, keeps⟩ :=
      step.old mem (Nat.lt_of_lt_of_le early drawn)
    rw [keeps.id]
    rw [keeps.id] at early
    rw [matches_keeps keeps] at matched
    exact sound.cover target req rows issuedBefore same short old oldMem early matched

theorem CallSound.locks {others : Uuid → Option Nat}
    (sound : CallSound env store lockedBy call phase)
    (kept : ∀ sessionId, lockedBy sessionId = some call → others sessionId = some call) :
    CallSound env store others call phase :=
  { sound with
    held := fun sessionId mem => kept sessionId (sound.held sessionId mem) }

end Calls

section Worlds

variable {env : SessionEnvironment} {world : SessionWorld}
  {call : Nat}

theorem WorldSound.setPhase {phase : CallPhase}
    (others : ∀ other, other ≠ call → CallSound env world.store
      world.lockedBy other (world.phase other))
    (own : CallSound env world.store world.lockedBy call phase) :
    WorldSound env (world.setPhase call phase) := by
  intro other
  by_cases same : other = call
  · subst same
    have phaseOf : (world.setPhase other phase).phase other = phase :=
      Function.update_self ..
    rw [phaseOf]
    exact own
  · have phaseOf : (world.setPhase call phase).phase other =
        world.phase other := Function.update_of_ne same ..
    rw [phaseOf]
    exact others other same

theorem lockedBy_lock_of_other (free : ∀ sessionId ∈ ids, world.lockedBy sessionId = none)
    {other : Nat}
    (holds : world.lockedBy sessionId = some other) :
    (world.lock call ids).lockedBy sessionId = some other := by
  have notOwn : ids.contains sessionId = false := by
    rw [List.contains_eq_mem, decide_eq_false_iff_not]
    intro mem
    rw [free sessionId mem] at holds
    cases holds
  exact (if_neg (by rw [notOwn]; exact Bool.false_ne_true)).trans holds

theorem lockedBy_lock_own (mem : sessionId ∈ ids) :
    (world.lock call ids).lockedBy sessionId = some call :=
  if_pos (List.contains_iff_mem.mpr mem)

theorem lockedBy_release_of_other {other : Nat} (apart : other ≠ call)
    (holds : world.lockedBy sessionId = some other) :
    (world.release call).lockedBy sessionId = some other := by
  refine (if_neg ?_).trans holds
  intro own
  rw [holds] at own
  exact apart (Option.some.inj own)

theorem WorldSound.committed {store : SessionStore}
    {phase : CallPhase} (sound : WorldSound env world)
    (step : StoreStep world.store store written)
    (locked : ∀ sessionId ∈ written, world.lockedBy sessionId = some call)
    (unrevoked : ∀ other, other ≠ call → ∀ row,
      (world.phase other).read? = some row → ∀ current ∈ store.sessions,
        current.id = row.id → current.revokedAt = none)
    (own : CallSound env store (world.release call).lockedBy call phase) :
    WorldSound env (({ world with store := store }.release call).setPhase call phase) := by
  refine WorldSound.setPhase ?_ own
  intro other apart
  have kept := (sound other).afterStep step
    (fun sessionId mem same => apart (Option.some.inj (same.symm.trans (locked sessionId mem))))
    (unrevoked other apart)
  exact kept.locks (fun sessionId holds =>
    lockedBy_release_of_other apart holds)

theorem WorldSound.aborted (sound : WorldSound env world) (call : Nat) :
    WorldSound env (world.endCall call) :=
  sound.committed (StoreStep.refl world.store) (fun _ mem => absurd mem List.not_mem_nil)
    (fun other _ row read => (sound other).unrevoked row read) callSound_idle

theorem WorldSound.lock {phase : CallPhase} (sound : WorldSound env world)
    (free : ∀ sessionId ∈ ids, world.lockedBy sessionId = none)
    (own : CallSound env world.store (world.lock call ids).lockedBy call phase) :
    WorldSound env ((world.lock call ids).setPhase call phase) := by
  refine WorldSound.setPhase ?_ own
  intro other _
  exact (sound other).locks (fun sessionId holds =>
    lockedBy_lock_of_other free holds)

theorem WorldSound.writeRead {written : CallPhase} {after : SessionWorld}
    (sound : WorldSound env world) (read : (world.phase call).read? = some row)
    (writtenRead : written.read? = some row) (writtenHeld : written.held = [row.id])
    (noRows : written.lockedRows = []) (taken : world.writeRead call row written = some after) :
    WorldSound env after := by
  rw [SessionWorld.writeRead] at taken
  split at taken
  · rw [← Option.some.inj taken]
    exact sound.aborted call
  · split at taken
    · next free =>
        rw [← Option.some.inj taken]
        refine sound.lock ?_ (callSound_read writtenRead noRows ?_ ?_
          ((sound call).unrevoked row read))
        · intro sessionId mem
          rw [List.mem_singleton.mp mem]
          exact Option.isNone_iff_eq_none.mp free
        · intro sessionId mem
          rw [writtenHeld] at mem
          exact lockedBy_lock_own mem
        · rintro target req rows issuedBefore rfl
          cases writtenRead
    · cases taken

/-! ### Commits -/

theorem CallSound.commit {store : SessionStore} {lockedBy : Uuid → Option Nat} {phase : CallPhase}
    {commit : SessionCommit} (sound : CallSound env store lockedBy call phase)
    (committed : phase.commit? env now = some commit) :
    (changedIds commit.changes).Nodup ∧ (∀ sessionId ∈ changedIds commit.changes,
        lockedBy sessionId = some call) ∧
      ∀ change ∈ commit.changes, change.write.revokes = true →
        ∀ old ∈ store.sessions, old.id = change.row.id → old.revokedAt = none := by
  cases phase with
  | idle | touching | touched | refreshing | loggingOut | cleaning =>
    cases committed
  | loggedOut req row readAt =>
    rw [← Option.some.inj committed]
    have ofRow : ∀ change ∈ (logoutChange env req readAt row).toList, change.row = row :=
      fun change mem => logoutChange_row (Option.mem_toList.mp mem)
    refine ⟨?_, ?_, ?_⟩
    · cases logoutChange env req readAt row with
      | none => exact List.nodup_nil
      | some change => exact List.nodup_singleton _
    · intro sessionId mem
      obtain ⟨change, inChanges, rfl⟩ := List.mem_map.mp mem
      rw [ofRow change inChanges]
      exact sound.held row.id (List.mem_singleton_self _)
    · intro change inChanges _ old oldMem named
      rw [ofRow change inChanges] at named
      exact sound.unrevoked row rfl old oldMem named
  | revoking target req rows issuedBefore =>
    rw [← Option.some.inj committed]
    refine ⟨nodup_revokeChanges sound.distinct, ?_, ?_⟩
    · intro sessionId mem
      have inRows := (sublist_map_filterMap
        (fun _ _ changed => congrArg BrowserSession.id (revokeChange_row changed)) rows).subset mem
      exact sound.held sessionId inRows
    · intro change inChanges revokes old oldMem named
      obtain ⟨row, rowMem, changed⟩ := List.mem_filterMap.mp inChanges
      have ofRow := revokeChange_row changed
      rw [ofRow] at named
      have same : old = row :=
        Table.eq_of_key_eq oldMem (sound.rows row rowMem) named
      rw [revokeChange] at changed
      split at changed
      · cases changed
      · split at changed
        · split at changed
          · rw [← Option.some.inj changed] at revokes
            cases revokes
          · cases changed
        · next active =>
            rw [Bool.not_eq_true', Bool.not_eq_false, isActive,
              Bool.and_eq_true, Option.isNone_iff_eq_none] at active
            rw [same]
            exact active.1
  | purging req readAt deleted purged =>
    rw [← Option.some.inj committed]
    have ids : changedIds (rowsChanges req readAt deleted purged) =
        (deleted ++ purged).map BrowserSession.id := by
      rw [changedIds, rowsChanges, List.map_append, List.map_append, List.map_map, List.map_map]
      rfl
    refine ⟨?_, ?_, ?_⟩
    · rw [ids]
      exact sound.distinct
    · intro sessionId mem
      rw [ids] at mem
      exact sound.held sessionId mem
    · intro change inChanges revokes
      rcases List.mem_append.mp inChanges with isDeleted | isPurged
      · obtain ⟨row, _, rfl⟩ := List.mem_map.mp isDeleted
        cases revokes
      · obtain ⟨row, _, rfl⟩ := List.mem_map.mp isPurged
        cases revokes

theorem mem_revokedRows {phase : CallPhase} {commit : SessionCommit}
    {change : SessionChange} (committed : phase.commit? env now = some commit)
    (inChanges : change ∈ commit.changes) (revokes : change.write.revokes = true) :
    change.row ∈ phase.revokedRows := by
  cases phase with
  | idle | touching | touched | refreshing | loggingOut | cleaning =>
    cases committed
  | loggedOut req row readAt =>
    rw [← Option.some.inj committed] at inChanges
    rw [logoutChange_row (Option.mem_toList.mp inChanges)]
    exact List.mem_singleton_self row
  | revoking target req rows issuedBefore =>
    rw [← Option.some.inj committed] at inChanges
    obtain ⟨row, rowMem, changed⟩ := List.mem_filterMap.mp inChanges
    rw [revokeChange_row changed]
    refine List.mem_filter.mpr ⟨rowMem, decide_eq_true ?_⟩
    intro current
    rw [revokeChange, if_pos current] at changed
    cases changed
  | purging req readAt deleted purged =>
    rw [← Option.some.inj committed] at inChanges
    rcases List.mem_append.mp inChanges with isDeleted | isPurged
    · obtain ⟨row, _, rfl⟩ := List.mem_map.mp isDeleted
      cases revokes
    · obtain ⟨row, _, rfl⟩ := List.mem_map.mp isPurged
      cases revokes

end Worlds

/-- When a bulk revocation selects its rows, none that it matches is locked. -/
def SelectsUnlocked (env : SessionEnvironment) (world : SessionWorld)
    (label : SessionLabel) : Prop :=
  ∀ call target req, label.step = .revoke call target req →
    target.scope ≠ .session → ∀ row ∈ world.store.sessions, target.matches env.text row = true →
        world.lockedBy row.id = none

/-- When a call revokes sessions, no other `resolve` or logout that has read
one of them is in flight. -/
def RevokesUnread (world : SessionWorld) (label : SessionLabel) : Prop :=
  ∀ call query, label.step = .commit call query →
    ∀ revoked ∈ (world.phase call).revokedRows, ∀ other, other ≠ call →
      ∀ row, (world.phase other).read? = some row → row.id ≠ revoked.id

def Undisturbed (env : SessionEnvironment) (world : SessionWorld) (label : SessionLabel) : Prop :=
  SelectsUnlocked env world label ∧ RevokesUnread world label

section Selection

variable {env : SessionEnvironment} {world : SessionWorld}

theorem locked_contains_iff (mem : row ∈ world.store.sessions) :
    world.locked.contains row.id = (world.lockedBy row.id).isSome := by
  have inIds : row.id ∈ world.store.sessions.rows.map BrowserSession.id :=
    List.mem_map_of_mem mem
  cases held : (world.lockedBy row.id).isSome with
  | true =>
    rw [List.contains_iff_mem]
    exact List.mem_filter.mpr ⟨inIds, held⟩
  | false =>
    rw [List.contains_eq_mem, decide_eq_false_iff_not]
    intro inLocked
    have isHeld := (List.mem_filter.mp inLocked).2
    rw [held] at isHeld
    cases isHeld

theorem mem_selectForRevocation {store : SessionStore} {locked : List Uuid}
    {wanted : BrowserSession → Bool}
    (mem : row ∈ selectForRevocation store locked wanted) :
    row ∈ store.sessions := by
  have sorted := List.mem_of_mem_take mem
  rw [List.mem_insertionSort] at sorted
  exact List.mem_of_mem_filter sorted

theorem selectForRevocation_complete {store : SessionStore}
    {locked : List Uuid} {wanted : BrowserSession → Bool}
    (short : (selectForRevocation store locked wanted).length < maxBulkSessionAction)
    (mem : row ∈ store.sessions)
    (isWanted : wanted row = true) (free : locked.contains row.id = false) :
    row ∈ selectForRevocation store locked wanted := by
  rw [selectForRevocation, List.length_take] at short
  have whole : ((store.sessions.rows.filter (fun row =>
      wanted row && !locked.contains row.id)).insertionSort
        (fun left right => right.lastSeenAt ≤ left.lastSeenAt)).length ≤
          maxBulkSessionAction := by
    omega
  rw [selectForRevocation, List.take_of_length_le whole,
    List.mem_insertionSort, List.mem_filter, isWanted, free]
  exact ⟨mem, rfl⟩

theorem mem_revocationRows {store : SessionStore} {locked : List Uuid} {req : RevocationRequest}
    (selected : revocationRows env store locked target req =
      .ok rows) : ∀ row ∈ rows, row ∈ store.sessions := by
  intro row mem
  unfold revocationRows at selected
  split at selected
  · cases selected
  · split at selected
    · cases selected
    · split at selected
      · split at selected
        · cases selected
        · next found foundRow =>
            split at selected
            · cases selected
            · rw [← Except.ok.inj selected, List.mem_singleton] at mem
              rw [mem]
              exact (Table.find?_eq_some_iff.mp foundRow).1
      · rw [← Except.ok.inj selected] at mem
        exact mem_selectForRevocation mem
      · rw [← Except.ok.inj selected] at mem
        exact mem_selectForRevocation mem

theorem revocationRows_complete {store : SessionStore} {locked : List Uuid}
    {req : RevocationRequest}
    (selected : revocationRows env store locked target req =
      .ok rows) (short : rows.length < maxBulkSessionAction)
    (free : target.scope ≠ .session → ∀ row ∈ store.sessions, target.matches env.text row = true →
        locked.contains row.id = false) :
    ∀ row ∈ store.sessions, target.matches env.text row = true →
      row.id ∈ rows.map BrowserSession.id := by
  intro row mem isMatched
  unfold revocationRows at selected
  split at selected
  · cases selected
  · split at selected
    · cases selected
    · split at selected
      · next sessionId _ =>
          split at selected
          · cases selected
          · next found foundRow =>
              split at selected
              · cases selected
              · have named : found.id = sessionId :=
                  (Table.find?_eq_some_iff.mp foundRow).2
                have same : row.id = sessionId := of_decide_eq_true isMatched
                rw [← Except.ok.inj selected, same, ← named]
                exact List.mem_singleton_self _
      · rw [← Except.ok.inj selected] at short ⊢
        exact List.mem_map_of_mem (selectForRevocation_complete short mem
          isMatched (free (fun same => by cases same) row mem isMatched))
      · rw [← Except.ok.inj selected] at short ⊢
        exact List.mem_map_of_mem (selectForRevocation_complete short mem
          isMatched (free (fun same => by cases same) row mem isMatched))

theorem mem_deletedRows {store : SessionStore} {locked : List Uuid}
    (mem : row ∈ deletedRows store locked req now) :
    row ∈ store.sessions ∧ locked.contains row.id = false := by
  have sorted := List.mem_of_mem_take mem
  rw [List.mem_insertionSort, List.mem_filter, Bool.and_eq_true, Bool.not_eq_true'] at sorted
  exact ⟨sorted.1, sorted.2.2⟩

theorem mem_purgedRows {store : SessionStore} {locked deleted : List Uuid}
    (mem : row ∈ purgedRows store locked deleted req now) :
    row ∈ store.sessions ∧ locked.contains row.id = false := by
  have sorted := List.mem_of_mem_take mem
  rw [List.mem_insertionSort, List.mem_filter, Bool.and_eq_true, Bool.not_eq_true'] at sorted
  exact ⟨sorted.1, sorted.2.2⟩

theorem free_of_selected
    (selected : ∀ row ∈ rows, row ∈ world.store.sessions ∧ world.locked.contains row.id = false) :
    ∀ sessionId ∈ rows.map BrowserSession.id, world.lockedBy sessionId = none := by
  intro sessionId mem
  obtain ⟨row, rowMem, rfl⟩ := List.mem_map.mp mem
  obtain ⟨stored, unlocked⟩ := selected row rowMem
  rw [locked_contains_iff stored] at unlocked
  exact Option.not_isSome_iff_eq_none.mp (by rw [unlocked]; exact Bool.false_ne_true)

theorem sessionOfToken_mem {store : SessionStore} {sessionToken : String}
    (found : sessionOfToken env store sessionToken = some row) :
    row ∈ store.sessions :=
  List.mem_of_find?_eq_some found

end Selection

section Steps

variable {env : SessionEnvironment} {world after : SessionWorld}

theorem WorldSound.issued {query : LatestEventQuery} {ttlSeconds : Nat} {req : IssueRequest}
    {store : SessionStore} (sound : WorldSound env world)
    (done : issue env query ttlSeconds world.store req now =
      .ok store) : WorldSound env { world with store := store } := by
  have step := storeStep_issue done
  intro call
  refine (sound call).afterStep step (fun _ mem => absurd mem List.not_mem_nil) ?_
  intro row read current mem named
  rcases step.source current mem with
    ⟨old, _⟩ | ⟨_, _, inNil, _⟩ | ⟨_, unrevoked⟩
  · exact (sound call).unrevoked row read current old named
  · exact absurd inNil List.not_mem_nil
  · exact unrevoked

theorem WorldSound.reads {call : Nat} {phase : CallPhase} (sound : WorldSound env world)
    (read : phase.read? = some row) (noRows : phase.lockedRows = [])
    (noLocks : phase.held = [])
    (mem : row ∈ world.store.sessions) (unrevoked : row.revokedAt = none) :
    WorldSound env (world.setPhase call phase) := by
  refine WorldSound.setPhase (fun other _ => sound other) (callSound_read read noRows ?_ ?_ ?_)
  · intro sessionId inHeld
    rw [noLocks] at inHeld
    exact absurd inHeld List.not_mem_nil
  · rintro target req rows issuedBefore rfl
    cases read
  · intro current currentMem named
    rw [Table.eq_of_key_eq currentMem mem named]
    exact unrevoked

theorem WorldSound.touched {call : Nat} {readAt : Time}
    (sound : WorldSound env world) (phase : world.phase call = .touched row readAt) :
    WorldSound env (({ world with
      store := world.store.touch row.id readAt }.release call).setPhase call
        (.refreshing row)) := by
  have own := sound call
  rw [phase] at own
  have unrevoked : ∀ other read, (world.phase other).read? = some read →
      ∀ current ∈ (world.store.touch row.id readAt).sessions,
        current.id = read.id → current.revokedAt = none := by
    intro other read isRead current mem named
    rcases SessionStore.mem_touch.mp mem with ⟨old, oldMem, _, rfl⟩ | same
    · exact (sound other).unrevoked read isRead old oldMem named
    · exact (sound other).unrevoked read isRead current same.1 named
  refine sound.committed (storeStep_touch row.id readAt) ?_ (fun other _ => unrevoked other) ?_
  · intro sessionId mem
    rw [List.mem_singleton.mp mem]
    exact own.held row.id (List.mem_singleton_self _)
  · refine callSound_read rfl rfl ?_ ?_ ?_
    · exact fun _ mem => absurd mem List.not_mem_nil
    · intro _ _ _ _ same
      cases same
    · exact unrevoked call row (by rw [phase]; rfl)

theorem WorldSound.revokes {call : Nat} {req : RevocationRequest} (sound : WorldSound env world)
    (selected : revocationRows env world.store world.locked target req = .ok rows)
    (free : rows.all (fun row => (world.lockedBy row.id).isNone) = true)
    (unlocked : target.scope ≠ .session → ∀ row ∈ world.store.sessions,
      target.matches env.text row = true → world.lockedBy row.id = none) :
    WorldSound env ((world.lock call (rows.map BrowserSession.id)
      ).setPhase call (.revoking target req rows world.store.uuids)) := by
  refine sound.lock ?_ ⟨?_, ?_, ?_, ?_, ?_, ?_⟩
  · intro sessionId mem
    obtain ⟨row, rowMem, rfl⟩ := List.mem_map.mp mem
    exact Option.isNone_iff_eq_none.mp (List.all_eq_true.mp free row rowMem)
  · exact fun _ mem => lockedBy_lock_own mem
  · exact mem_revocationRows selected
  · exact nodup_revocationRows selected
  · intro row read
    cases read
  · intro _ _ _ issuedBefore same
    obtain ⟨_, _, _, rfl⟩ := CallPhase.revoking.inj same
    exact Nat.le_refl _
  · intro _ _ _ issuedBefore same short current mem _ isMatched
    obtain ⟨rfl, rfl, rfl, rfl⟩ := CallPhase.revoking.inj same
    refine revocationRows_complete selected short ?_ current mem isMatched
    intro bulk row rowMem rowMatched
    rw [locked_contains_iff rowMem, unlocked bulk row rowMem rowMatched]
    rfl

theorem WorldSound.cleans {call : Nat} (sound : WorldSound env world) :
    WorldSound env ((world.lock call
      ((deletedRows world.store world.locked req now).map BrowserSession.id)
        ).setPhase call (.cleaning req now (deletedRows world.store world.locked req now))) := by
  refine sound.lock (free_of_selected (fun _ mem => mem_deletedRows mem)) ⟨?_, ?_, ?_, ?_, ?_, ?_⟩
  · exact fun _ mem => lockedBy_lock_own mem
  · exact fun _ mem => (mem_deletedRows mem).1
  · exact nodup_rows ..
  · intro row read
    cases read
  · intro _ _ _ _ same
    cases same
  · intro _ _ _ _ same
    cases same

theorem WorldSound.purges {call : Nat} {readAt : Time}
    {deleted : List BrowserSession} (sound : WorldSound env world)
    (phase : world.phase call = .cleaning req readAt deleted) :
    WorldSound env ((world.lock call
      ((purgedRows world.store world.locked (deleted.map BrowserSession.id)
        req readAt).map BrowserSession.id)).setPhase call
          (.purging req readAt deleted (purgedRows world.store world.locked
            (deleted.map BrowserSession.id) req readAt))) := by
  have own := sound call
  rw [phase] at own
  have free : ∀ sessionId ∈ (purgedRows world.store world.locked
      (deleted.map BrowserSession.id) req readAt).map BrowserSession.id,
        world.lockedBy sessionId = none :=
    free_of_selected (fun _ mem => mem_purgedRows mem)
  refine sound.lock free ⟨?_, ?_, ?_, ?_, ?_, ?_⟩
  · intro sessionId mem
    change sessionId ∈ (deleted ++ _).map BrowserSession.id at mem
    rw [List.map_append] at mem
    rcases List.mem_append.mp mem with isDeleted | isPurged
    · exact lockedBy_lock_of_other free (own.held sessionId isDeleted)
    · exact lockedBy_lock_own isPurged
  · intro row mem
    rcases List.mem_append.mp mem with isDeleted | isPurged
    · exact own.rows row isDeleted
    · exact (mem_purgedRows isPurged).1
  · change ((deleted ++ _).map BrowserSession.id).Nodup
    rw [List.map_append, List.nodup_append]
    refine ⟨own.distinct, nodup_rows .., ?_⟩
    rintro sessionId isDeleted _ isPurged rfl
    obtain ⟨row, rowMem, rfl⟩ := List.mem_map.mp isPurged
    exact not_deleted_of_purged rowMem isDeleted
  · intro row read
    cases read
  · intro _ _ _ _ same
    cases same
  · intro _ _ _ _ same
    cases same

theorem WorldSound.commits {call : Nat} {query : LatestEventQuery}
    {commit : SessionCommit} {store : SessionStore} (sound : WorldSound env world)
    (committed : (world.phase call).commit? env now = some commit)
    (unread : ∀ revoked ∈ (world.phase call).revokedRows, ∀ other,
      other ≠ call → ∀ row, (world.phase other).read? = some row → row.id ≠ revoked.id)
    (applied : applyChanges env query commit.actor commit.occurredAt
      commit.changes world.store = .ok store) :
    WorldSound env ({ world with store := store }.endCall call) := by
  obtain ⟨distinct, locks, _⟩ := (sound call).commit committed
  refine sound.committed (storeStep_applyChanges distinct applied) locks ?_ callSound_idle
  intro other apart row read current mem named
  rcases (mem_applyChanges distinct applied current).mp mem with
    ⟨old, _⟩ | ⟨change, inChanges, old, oldMem, oldId, written⟩
  · exact (sound other).unrevoked row read current old named
  · have sameId : old.id = row.id :=
      (RowWrite.apply_id written).symm.trans named
    have notRevokes : change.write.revokes = false := by
      cases revokes : change.write.revokes with
      | false => rfl
      | true =>
        have distinctIds :=
          unread change.row (mem_revokedRows committed inChanges revokes) other apart row read
        exact absurd (sameId.symm.trans oldId) distinctIds
    rw [RowWrite.revokedAt notRevokes written]
    exact (sound other).unrevoked row read old oldMem sameId

theorem WorldSound.step (sound : WorldSound env world) (undisturbed : Undisturbed env world label)
    (taken : stepsOf (SessionWorld.next env) world label after) :
    WorldSound env after := by
  obtain ⟨unlocked, unread⟩ := undisturbed
  rw [stepsOf, SessionWorld.next] at taken
  split at taken
  · cases taken
  · obtain ⟨step, now⟩ := label
    have ticked : WorldSound env { world with clock := now } := sound
    cases step with
    | issue query ttlSeconds req =>
      simp only [SessionWorld.stepAt] at taken
      split at taken
      · rw [← Option.some.inj taken]
        exact ticked
      · next store done =>
          rw [← Option.some.inj taken]
          exact ticked.issued done
    | resolve call sessionToken =>
      simp only [SessionWorld.stepAt] at taken
      split at taken
      · split at taken
        · rw [← Option.some.inj taken]
          exact ticked
        · next row found =>
            split at taken
            · next active =>
                rw [Bool.and_eq_true, isActive, Bool.and_eq_true,
                  Option.isNone_iff_eq_none] at active
                rw [← Option.some.inj taken]
                exact ticked.reads rfl rfl rfl (sessionOfToken_mem found) active.1.1
            · rw [← Option.some.inj taken]
              exact ticked
      · cases taken
    | touch call =>
      simp only [SessionWorld.stepAt] at taken
      split at taken
      · next row readAt phase =>
          exact ticked.writeRead (by rw [phase]; rfl) rfl rfl rfl taken
      · cases taken
    | commitTouch call =>
      simp only [SessionWorld.stepAt] at taken
      split at taken
      · next row readAt phase =>
          rw [← Option.some.inj taken]
          exact ticked.touched phase
      · cases taken
    | refresh call =>
      simp only [SessionWorld.stepAt] at taken
      split at taken
      · rw [← Option.some.inj taken]
        exact ticked.aborted call
      · cases taken
    | logout call req =>
      simp only [SessionWorld.stepAt] at taken
      split at taken
      · split at taken
        · rw [← Option.some.inj taken]
          exact ticked
        · next row found =>
            split at taken
            · next active =>
                rw [← Option.some.inj taken]
                exact ticked.reads rfl rfl rfl (sessionOfToken_mem found)
                  (Option.isNone_iff_eq_none.mp active)
            · rw [← Option.some.inj taken]
              exact ticked
      · cases taken
    | writeLogout call =>
      simp only [SessionWorld.stepAt] at taken
      split at taken
      · next req row readAt phase =>
          exact ticked.writeRead (by rw [phase]; rfl) rfl rfl rfl taken
      · cases taken
    | revoke call target req =>
      simp only [SessionWorld.stepAt] at taken
      split at taken
      · split at taken
        · rw [← Option.some.inj taken]
          exact ticked
        · next rows selected =>
            split at taken
            · next free =>
                rw [← Option.some.inj taken]
                exact ticked.revokes selected free (unlocked call target req rfl)
            · cases taken
      · cases taken
    | cleanup call req =>
      simp only [SessionWorld.stepAt] at taken
      split at taken
      · split at taken
        · rw [← Option.some.inj taken]
          exact ticked.cleans
        · rw [← Option.some.inj taken]
          exact ticked
      · cases taken
    | purge call =>
      simp only [SessionWorld.stepAt] at taken
      split at taken
      · next req readAt deleted phase =>
          rw [← Option.some.inj taken]
          exact ticked.purges phase
      · cases taken
    | commit call query =>
      simp only [SessionWorld.stepAt] at taken
      split at taken
      · cases taken
      · next commit committed =>
          split at taken
          · rw [← Option.some.inj taken]
            exact ticked.aborted call
          · next store applied =>
              rw [← Option.some.inj taken]
              exact ticked.commits committed (unread call query rfl) applied
    | abort call =>
      simp only [SessionWorld.stepAt] at taken
      rw [← Option.some.inj taken]
      exact ticked.aborted call

theorem store_of_step (taken : stepsOf (SessionWorld.next env) world label after) :
    after.store = world.store ∨
    (∃ query ttlSeconds req, issue env query ttlSeconds world.store
      req label.now = .ok after.store) ∨
    (∃ sessionId seenAt, after.store = world.store.touch sessionId seenAt) ∨
    ∃ call query commit, label.step = .commit call query ∧
      (world.phase call).commit? env label.now = some commit ∧
      applyChanges env query commit.actor commit.occurredAt
        commit.changes world.store = .ok after.store := by
  rw [stepsOf, SessionWorld.next] at taken
  split at taken
  · cases taken
  · obtain ⟨step, now⟩ := label
    cases step with
    | issue query ttlSeconds req =>
      simp only [SessionWorld.stepAt] at taken
      split at taken
      · rw [← Option.some.inj taken]
        exact Or.inl rfl
      · next store done =>
          rw [← Option.some.inj taken]
          exact Or.inr (Or.inl ⟨query, ttlSeconds, req, done⟩)
    | commitTouch call =>
      simp only [SessionWorld.stepAt] at taken
      split at taken
      · next row readAt _ =>
          rw [← Option.some.inj taken]
          exact Or.inr (Or.inr (Or.inl ⟨row.id, readAt, rfl⟩))
      · cases taken
    | commit call query =>
      simp only [SessionWorld.stepAt] at taken
      split at taken
      · cases taken
      · next commit committed =>
          split at taken
          · rw [← Option.some.inj taken]
            exact Or.inl rfl
          · next store applied =>
              rw [← Option.some.inj taken]
              exact Or.inr (Or.inr (Or.inr ⟨call, query, commit, rfl, committed, applied⟩))
    | resolve | touch | refresh | logout | writeLogout | revoke | cleanup
    | purge | abort =>
      refine Or.inl ?_
      simp only [SessionWorld.stepAt, SessionWorld.writeRead] at taken
      repeat' split at taken
      all_goals first
        | (rw [← Option.some.inj taken]; rfl)
        | (cases taken; rfl)
        | cases taken

theorem storeStep_of_step (sound : WorldSound env world)
    (taken : stepsOf (SessionWorld.next env) world label after) :
    ∃ written, StoreStep world.store after.store written := by
  rcases store_of_step taken with
    same | ⟨query, ttlSeconds, req, issued⟩ | ⟨sessionId, seenAt, touched⟩ |
      ⟨call, query, commit, _, committed, applied⟩
  · rw [same]
    exact ⟨[], StoreStep.refl world.store⟩
  · exact ⟨[], storeStep_issue issued⟩
  · rw [touched]
    exact ⟨[sessionId], storeStep_touch sessionId seenAt⟩
  · exact ⟨_, storeStep_applyChanges ((sound call).commit committed).1 applied⟩

theorem session_of_step (sound : WorldSound env world)
    (taken : stepsOf (SessionWorld.next env) world label after) (mem : row ∈ world.store.sessions)
    (newMem : new ∈ after.store.sessions) (named : new.id = row.id) :
    Keeps row new ∧ ∀ revokedAt, row.revokedAt = some revokedAt →
        new.revokedAt = some revokedAt := by
  have unchanged : new ∈ world.store.sessions → Keeps row new ∧
      ∀ revokedAt, row.revokedAt = some revokedAt → new.revokedAt = some revokedAt := by
    intro old
    rw [Table.eq_of_key_eq old mem named]
    exact ⟨Keeps.refl row, fun _ same => same⟩
  rcases store_of_step taken with
    same | ⟨query, ttlSeconds, req, issued⟩ | ⟨sessionId, seenAt, touched⟩ |
      ⟨call, query, commit, _, committed, applied⟩
  · rw [same] at newMem
    exact unchanged newMem
  · rcases (storeStep_issue issued).source new newMem with
      ⟨old, _⟩ | ⟨_, _, inNil, _⟩ | ⟨drawn, _⟩
    · exact unchanged old
    · exact absurd inNil List.not_mem_nil
    · rw [named] at drawn
      exact absurd (world.store.sessionsDrawn row mem) (Nat.not_lt.mpr drawn)
  · rw [touched] at newMem
    rcases SessionStore.mem_touch.mp newMem with
      ⟨old, oldMem, _, rfl⟩ | ⟨old, _⟩
    · rw [Table.eq_of_key_eq mem oldMem named.symm]
      exact ⟨⟨rfl, rfl, rfl, rfl, fun absent => absent, fun absent => absent⟩, fun _ same => same⟩
    · exact unchanged old
  · obtain ⟨distinct, _, onlyUnrevoked⟩ := (sound call).commit committed
    rcases (mem_applyChanges distinct applied new).mp newMem with
      ⟨old, _⟩ | ⟨change, inChanges, old, oldMem, oldId, written⟩
    · exact unchanged old
    · have same : old = row := Table.eq_of_key_eq oldMem mem
        ((RowWrite.apply_id written).symm.trans named)
      subst same
      refine ⟨RowWrite.keeps written, fun revokedAt revoked => ?_⟩
      cases revokes : change.write.revokes with
      | false => rw [RowWrite.revokedAt revokes written, revoked]
      | true =>
        have none := onlyUnrevoked change inChanges revokes old oldMem oldId
        rw [revoked] at none
        cases none

theorem clock_of_step (taken : stepsOf (SessionWorld.next env) world label after) :
    world.clock ≤ label.now ∧ after.clock = label.now := by
  rw [stepsOf, SessionWorld.next] at taken
  split at taken
  · cases taken
  · next notEarlier =>
      refine ⟨Int.not_lt.mp notEarlier, ?_⟩
      obtain ⟨step, now⟩ := label
      cases step with
      | issue | commitTouch | commit | resolve | touch | refresh | logout
      | writeLogout | revoke | cleanup | purge | abort =>
        simp only [SessionWorld.stepAt, SessionWorld.writeRead] at taken
        repeat' split at taken
        all_goals first
          | (rw [← Option.some.inj taken]; rfl)
          | (cases taken; rfl)
          | cases taken

end Steps

end ModelAtlas.Sessions
