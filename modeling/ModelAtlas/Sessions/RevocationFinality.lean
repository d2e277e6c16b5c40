import ModelAtlas.Sessions.EventChains
import ModelAtlas.Sessions.Revocation

/-!
# Revocation of browser sessions is final

In every run whose steps are undisturbed, a revoked session stays revoked, and a
bulk revocation below its limit leaves no session that it covers.
-/

namespace ModelAtlas.Sessions

open Foundations Approval

variable {new row read : BrowserSession} {phase : CallPhase}

/-- An administrative revocation; the sessions issued before it have ids below
`issuedBefore`. -/
structure Revocation where
  target : RevocationTarget
  request : RevocationRequest
  issuedBefore : Uuid

/-- A session of the target that was issued before the revocation, and is not
the caller's current one. -/
def Revocation.Covers (text : TextEnvironment) (revocation : Revocation)
    (row : BrowserSession) : Prop :=
  row.id < revocation.issuedBefore ∧ revocation.target.matches text row = true ∧
      revocation.request.currentSessionId ≠ some row.id

def SessionWorld.revoked (env : SessionEnvironment) (world : SessionWorld) (label : SessionLabel) :
    Option (Revocation × BulkAction) :=
  match label.step with
  | .commit call query =>
    match world.phase call with
    | .revoking target req rows issuedBefore =>
      match revokeRows env query world.store req label.now rows with
      | .error _ => none
      | .ok (_, action) => some (⟨target, req, issuedBefore⟩, action)
    | _ => none
  | _ => none

structure StaysRevoked (env : SessionEnvironment)
    (world later : SessionWorld) : Prop where
  revokedAt : ∀ row ∈ world.store.sessions, ∀ new ∈ later.store.sessions,
    new.id = row.id → ∀ revokedAt, row.revokedAt = some revokedAt →
      new.revokedAt = some revokedAt
  material : ∀ row ∈ world.store.sessions, ∀ new ∈ later.store.sessions,
    new.id = row.id →
      (row.providerIdTokenCiphertext = none →
        new.providerIdTokenCiphertext = none) ∧
      (row.providerSessionId = none → new.providerSessionId = none)
  unresolved : ∀ label after, stepsOf (SessionWorld.next env) later
    label after → ∀ new, later.resolved env label = some new →
      ∀ row ∈ world.store.sessions, row.id = new.id → row.revokedAt = none

def Revocation.Complete (env : SessionEnvironment)
    (revocation : Revocation) (later : SessionWorld) : Prop :=
  ∀ label after, stepsOf (SessionWorld.next env) later label after →
    ∀ row, later.resolved env label = some row → ¬ revocation.Covers env.text row

/-- What `step` makes of the sessions: revoked ones stay so, and a revocation below its limit is
complete. -/
structure RevocationsFinal (env : SessionEnvironment)
    (step : SessionWorld → SessionLabel → SessionWorld → Prop)
    (world : SessionWorld) : Prop where
  stays : ∀ rest later, Execution step world rest later →
    StaysRevoked env world later
  complete : ∀ label after revocation action rest later,
    step world label after →
      world.revoked env label = some (revocation, action) →
        action.matchedCount < maxBulkSessionAction →
          Execution step after rest later →
            revocation.Complete env later

theorem Keeps.trans {first second third : BrowserSession}
    (left : Keeps first second) (right : Keeps second third) :
    Keeps first third where
  id := right.id.trans left.id
  subjectId := right.subjectId.trans left.subjectId
  providerSessionHash :=
    right.providerSessionHash.trans left.providerSessionHash
  expiresAt := right.expiresAt.trans left.expiresAt
  ciphertext absent := right.ciphertext (left.ciphertext absent)
  providerSessionId absent :=
    right.providerSessionId (left.providerSessionId absent)

structure SessionsPersist (world later : SessionWorld) : Prop where
  uuids : world.store.uuids ≤ later.store.uuids
  old : ∀ new ∈ later.store.sessions, new.id < world.store.uuids →
    ∃ row ∈ world.store.sessions, Keeps row new ∧
      ∀ revokedAt, row.revokedAt = some revokedAt →
        new.revokedAt = some revokedAt

section Persistence

variable {env : SessionEnvironment} {world later after : SessionWorld}
  {label : SessionLabel}

theorem SessionsPersist.refl (world : SessionWorld) : SessionsPersist world world where
  uuids := Nat.le_refl _
  old row mem _ := ⟨row, mem, Keeps.refl row, fun _ same => same⟩

theorem SessionsPersist.step (persist : SessionsPersist world later) (sound : WorldSound env later)
    (taken : stepsOf (SessionWorld.next env) later label after) :
    SessionsPersist world after := by
  obtain ⟨written, step⟩ := storeStep_of_step sound taken
  refine ⟨Nat.le_trans persist.uuids step.uuids, ?_⟩
  intro new mem drawn
  obtain ⟨middle, middleMem, middleKeeps⟩ :=
    step.old mem (Nat.lt_of_lt_of_le drawn persist.uuids)
  have kept := session_of_step sound taken middleMem mem middleKeeps.id
  rw [middleKeeps.id] at drawn
  obtain ⟨row, rowMem, rowKeeps, revoked⟩ :=
    persist.old middle middleMem drawn
  exact ⟨row, rowMem, rowKeeps.trans middleKeeps,
    fun revokedAt same => kept.2 revokedAt (revoked revokedAt same)⟩

theorem SessionsPersist.session (persist : SessionsPersist world later)
    (mem : row ∈ world.store.sessions)
    (newMem : new ∈ later.store.sessions) (named : new.id = row.id) :
    Keeps row new ∧ ∀ revokedAt, row.revokedAt = some revokedAt →
      new.revokedAt = some revokedAt := by
  have drawn : new.id < world.store.uuids := by
    rw [named]
    exact world.store.sessionsDrawn row mem
  obtain ⟨old, oldMem, keeps, revoked⟩ := persist.old new newMem drawn
  have same : old = row := Table.eq_of_key_eq oldMem mem (keeps.id.symm.trans named)
  rw [← same]
  exact ⟨keeps, revoked⟩

theorem CallPhase.read_of_resolving
    (resolving : phase.resolving? = some row) : phase.read? = some row := by
  cases phase with
  | touching | touched | refreshing =>
    exact resolving
  | idle | loggingOut | loggedOut | revoking | cleaning | purging =>
    cases resolving

theorem resolved_cases (sound : WorldSound env later)
    (taken : stepsOf (SessionWorld.next env) later label after)
    (resolved : later.resolved env label = some row) :
    row ∈ later.store.sessions ∧ row.revokedAt = none ∧
      ((later.clock ≤ label.now ∧ isActive row label.now = true) ∨
        ∃ call read, (later.phase call).resolving? = some read ∧ row.id = read.id) := by
  have notEarlier := (clock_of_step taken).1
  rw [SessionWorld.resolved] at resolved
  split at resolved
  · split at resolved
    · obtain ⟨found, active⟩ := Option.filter_eq_some_iff.mp resolved
      have isActiveRow := (Bool.and_eq_true _ _ ▸ active).1
      have unrevoked := isActiveRow
      rw [isActive, Bool.and_eq_true, Option.isNone_iff_eq_none] at unrevoked
      exact ⟨sessionOfToken_mem found, unrevoked.1, Or.inl ⟨notEarlier, isActiveRow⟩⟩
    · cases resolved
  · next call _ =>
      split at resolved
      · next read phase =>
          obtain ⟨mem, named⟩ := Table.find?_eq_some_iff.mp resolved
          have isRead : (later.phase call).read? = some read := by
            rw [phase]
            rfl
          refine ⟨mem, (sound call).unrevoked read isRead row mem named,
            Or.inr ⟨call, read, ?_, named⟩⟩
          rw [phase]
          rfl
      · cases resolved
  · cases resolved

theorem SessionsPersist.staysRevoked (persist : SessionsPersist world later)
    (sound : WorldSound env later) :
    StaysRevoked env world later where
  revokedAt row mem new newMem named :=
    (persist.session mem newMem named).2
  material row mem new newMem named := by
    have keeps := (persist.session mem newMem named).1
    exact ⟨keeps.ciphertext, keeps.providerSessionId⟩
  unresolved label after taken new resolved row mem named := by
    obtain ⟨newMem, unrevoked, _⟩ := resolved_cases sound taken resolved
    have kept := (persist.session mem newMem named.symm).2
    cases revoked : row.revokedAt with
    | none => rfl
    | some revokedAt =>
      rw [kept revokedAt revoked] at unrevoked
      cases unrevoked

end Persistence

/-- Every session that the revocation covers is inactive, and no `resolve` in
flight has read one. -/
structure Revocation.Closed (env : SessionEnvironment)
    (revocation : Revocation) (world : SessionWorld) : Prop where
  drawn : revocation.issuedBefore ≤ world.store.uuids
  inactive : ∀ row ∈ world.store.sessions,
    revocation.Covers env.text row →
      isActive row world.clock = false
  unread : ∀ call read, (world.phase call).resolving? = some read →
    ∀ row ∈ world.store.sessions, row.id = read.id →
      ¬ revocation.Covers env.text row

section Completion

variable {env : SessionEnvironment} {revocation : Revocation}
  {world after : SessionWorld} {label : SessionLabel}

theorem covers_keeps {text : TextEnvironment} (keeps : Keeps row new) :
    revocation.Covers text new ↔ revocation.Covers text row := by
  rw [Revocation.Covers, Revocation.Covers, keeps.id, matches_keeps keeps]

theorem isActive_later {now later : Time} (expiresAt : new.expiresAt = row.expiresAt)
    (revoked : ∀ revokedAt, row.revokedAt = some revokedAt → new.revokedAt = some revokedAt)
    (notEarlier : now ≤ later) (inactive : isActive row now = false) :
    isActive new later = false := by
  rw [isActive, Bool.and_eq_false_iff] at inactive ⊢
  rcases inactive with isRevoked | expired
  · left
    cases revokedAt : row.revokedAt with
    | none =>
      rw [revokedAt] at isRevoked
      cases isRevoked
    | some instant =>
      rw [revoked instant revokedAt]
      rfl
  · right
    have reached := of_decide_eq_false expired
    rw [expiresAt]
    refine decide_eq_false ?_
    exact fun notYet => reached (Int.lt_of_le_of_lt notEarlier notYet)

theorem resolving_setPhase {call other : Nat}
    (resolving : ((world.setPhase call phase).phase other).resolving? = some read) :
    (world.phase other).resolving? = some read ∨ (other = call ∧ phase.resolving? = some read) := by
  by_cases same : other = call
  · subst same
    have phaseOf : (world.setPhase other phase).phase other = phase :=
      Function.update_self ..
    rw [phaseOf] at resolving
    exact Or.inr ⟨rfl, resolving⟩
  · have phaseOf : (world.setPhase call phase).phase other =
        world.phase other := Function.update_of_ne same ..
    rw [phaseOf] at resolving
    exact Or.inl resolving

theorem resolving_endCall {call other : Nat}
    (resolving : ((world.endCall call).phase other).resolving? = some read) :
    (world.phase other).resolving? = some read := by
  rcases resolving_setPhase resolving with before | ⟨_, idle⟩
  · exact before
  · cases idle

theorem resolving_writeRead {call other : Nat} {written : CallPhase}
    (same : written.resolving? = (world.phase call).resolving?)
    (taken : world.writeRead call row written = some after)
    (resolving : (after.phase other).resolving? = some read) :
    (world.phase other).resolving? = some read := by
  rw [SessionWorld.writeRead] at taken
  split at taken
  · rw [← Option.some.inj taken] at resolving
    exact resolving_endCall resolving
  · split at taken
    · rw [← Option.some.inj taken] at resolving
      rcases resolving_setPhase resolving with before | ⟨rfl, own⟩
      · exact before
      · exact same.symm.trans own
    · cases taken

theorem resolving_unchanged {middle : SessionWorld} {call other : Nat}
    (same : some (middle.setPhase call phase) = some after)
    (phases : middle.phase = world.phase) (noRead : phase.resolving? = none)
    (resolving : (after.phase other).resolving? = some read) :
    (world.phase other).resolving? = some read := by
  rw [← Option.some.inj same] at resolving
  rcases resolving_setPhase resolving with before | ⟨_, own⟩
  · rw [← phases]
    exact before
  · rw [noRead] at own
    cases own

/-- A `resolve` in flight after a step was in flight before it, or has just
read an active session. -/
theorem resolving_of_stepAt {now : Time} {step : SessionStep}
    (taken : world.stepAt env now step = some after) {other : Nat}
    (resolving : (after.phase other).resolving? = some read) :
    (world.phase other).resolving? = some read ∨
      (read ∈ world.store.sessions ∧ isActive read now = true) := by
  cases step with
  | issue query ttlSeconds req =>
    left
    simp only [SessionWorld.stepAt] at taken
    split at taken
    · rw [← Option.some.inj taken] at resolving
      exact resolving
    · rw [← Option.some.inj taken] at resolving
      exact resolving
  | resolve call sessionToken =>
    simp only [SessionWorld.stepAt] at taken
    split at taken
    · split at taken
      · rw [← Option.some.inj taken] at resolving
        exact Or.inl resolving
      · next row found =>
          split at taken
          · next active =>
              rw [← Option.some.inj taken] at resolving
              rcases resolving_setPhase resolving with before | ⟨_, own⟩
              · exact Or.inl before
              · rw [Bool.and_eq_true] at active
                rw [← Option.some.inj own]
                exact Or.inr ⟨sessionOfToken_mem found, active.1⟩
          · rw [← Option.some.inj taken] at resolving
            exact Or.inl resolving
    · cases taken
  | touch call =>
    left
    simp only [SessionWorld.stepAt] at taken
    split at taken
    · next row readAt phase =>
        refine resolving_writeRead ?_ taken resolving
        rw [phase]
        rfl
    · cases taken
  | commitTouch call =>
    left
    simp only [SessionWorld.stepAt] at taken
    split at taken
    · next row readAt phase =>
        rw [← Option.some.inj taken] at resolving
        rcases resolving_setPhase resolving with before | ⟨rfl, own⟩
        · exact before
        · rw [phase]
          exact own
    · cases taken
  | refresh call =>
    left
    simp only [SessionWorld.stepAt] at taken
    split at taken
    · exact resolving_unchanged taken rfl rfl resolving
    · cases taken
  | logout call req =>
    left
    simp only [SessionWorld.stepAt] at taken
    split at taken
    · split at taken
      · rw [← Option.some.inj taken] at resolving
        exact resolving
      · split at taken
        · exact resolving_unchanged taken rfl rfl resolving
        · rw [← Option.some.inj taken] at resolving
          exact resolving
    · cases taken
  | writeLogout call =>
    left
    simp only [SessionWorld.stepAt] at taken
    split at taken
    · next req row readAt phase =>
        refine resolving_writeRead ?_ taken resolving
        rw [phase]
        rfl
    · cases taken
  | revoke call target req =>
    left
    simp only [SessionWorld.stepAt] at taken
    split at taken
    · split at taken
      · rw [← Option.some.inj taken] at resolving
        exact resolving
      · split at taken
        · exact resolving_unchanged taken rfl rfl resolving
        · cases taken
    · cases taken
  | cleanup call req =>
    left
    simp only [SessionWorld.stepAt] at taken
    split at taken
    · split at taken
      · exact resolving_unchanged taken rfl rfl resolving
      · rw [← Option.some.inj taken] at resolving
        exact resolving
    · cases taken
  | purge call =>
    left
    simp only [SessionWorld.stepAt] at taken
    split at taken
    · exact resolving_unchanged taken rfl rfl resolving
    · cases taken
  | commit call query =>
    left
    simp only [SessionWorld.stepAt] at taken
    split at taken
    · cases taken
    · split at taken
      · exact resolving_unchanged taken rfl rfl resolving
      · exact resolving_unchanged taken rfl rfl resolving
  | abort call =>
    left
    simp only [SessionWorld.stepAt] at taken
    exact resolving_unchanged taken rfl rfl resolving

theorem resolving_of_step (taken : stepsOf (SessionWorld.next env) world label after) {other : Nat}
    (resolving : (after.phase other).resolving? = some read) :
    (world.phase other).resolving? = some read ∨
      (read ∈ world.store.sessions ∧ isActive read label.now = true) := by
  rw [stepsOf, SessionWorld.next] at taken
  split at taken
  · cases taken
  · exact resolving_of_stepAt taken resolving

theorem Revocation.Closed.step (closed : revocation.Closed env world) (sound : WorldSound env world)
    (taken : stepsOf (SessionWorld.next env) world label after) :
    revocation.Closed env after := by
  obtain ⟨written, step⟩ := storeStep_of_step sound taken
  obtain ⟨notEarlier, clock⟩ := clock_of_step taken
  -- A covered session was stored, and covered, before the step.
  have before : ∀ new ∈ after.store.sessions, revocation.Covers env.text new →
        ∃ row ∈ world.store.sessions, Keeps row new ∧ revocation.Covers env.text row := by
    intro new mem covers
    obtain ⟨row, rowMem, keeps⟩ :=
      step.old mem (Nat.lt_of_lt_of_le covers.1 closed.drawn)
    exact ⟨row, rowMem, keeps, (covers_keeps keeps).mp covers⟩
  refine ⟨Nat.le_trans closed.drawn step.uuids, ?_, ?_⟩
  · intro new mem covers
    obtain ⟨row, rowMem, keeps, rowCovers⟩ := before new mem covers
    have kept := session_of_step sound taken rowMem mem keeps.id
    refine isActive_later keeps.expiresAt kept.2 ?_ (closed.inactive row rowMem rowCovers)
    rw [clock]
    exact notEarlier
  · intro call read resolving new mem named covers
    obtain ⟨row, rowMem, keeps, rowCovers⟩ := before new mem covers
    have rowNamed : row.id = read.id := keeps.id.symm.trans named
    rcases resolving_of_step taken resolving with
      inFlight | ⟨readMem, active⟩
    · exact closed.unread call read inFlight row rowMem rowNamed rowCovers
    · have same : row = read :=
        Table.eq_of_key_eq rowMem readMem rowNamed
      rw [same] at rowCovers
      have inactive := isActive_later rfl (fun _ revoked => revoked) notEarlier
        (closed.inactive read readMem rowCovers)
      rw [inactive] at active
      cases active

theorem Revocation.Closed.complete (closed : revocation.Closed env world)
    (sound : WorldSound env world) :
    revocation.Complete env world := by
  intro label after taken row resolved covers
  obtain ⟨mem, _, active | ⟨call, read, resolving, named⟩⟩ :=
    resolved_cases sound taken resolved
  · have inactive := isActive_later rfl (fun _ revoked => revoked) active.1
      (closed.inactive row mem covers)
    rw [inactive] at active
    cases active.2
  · exact closed.unread call read resolving row mem named covers

theorem inactive_of_unchanged {req : RevocationRequest} {now : Time}
    (apart : req.currentSessionId ≠ some row.id) (unchanged : revokeChange req now row = none) :
    isActive row now = false := by
  rw [revokeChange, if_neg apart] at unchanged
  split at unchanged
  · next inactive =>
      rwa [Bool.not_eq_true'] at inactive
  · cases unchanged

theorem inactive_of_changed {req : RevocationRequest} {now : Time}
    {change : SessionChange} (changed : revokeChange req now row = some change)
    (written : change.write.apply row = some new) :
    isActive new now = false := by
  rw [revokeChange] at changed
  split at changed
  · cases changed
  · split at changed
    · next inactive =>
        rw [Bool.not_eq_true'] at inactive
        split at changed
        · rw [← Option.some.inj changed] at written
          rw [← Option.some.inj written]
          exact inactive
        · cases changed
    · rw [← Option.some.inj changed] at written
      rw [← Option.some.inj written]
      rfl

theorem revoked_cases {action : BulkAction}
    (taken : stepsOf (SessionWorld.next env) world label after)
    (revoked : world.revoked env label = some (revocation, action)) :
    ∃ call query rows store, label.step = .commit call query ∧
      world.phase call = .revoking revocation.target revocation.request rows
        revocation.issuedBefore ∧
      applyChanges env query revocation.request.signerIdentity label.now
        (rows.filterMap (revokeChange revocation.request label.now)) world.store = .ok store ∧
      action.matchedCount = rows.length ∧
      after = ({ world with clock := label.now, store := store }).endCall
        call := by
  obtain ⟨step, now⟩ := label
  rw [SessionWorld.revoked] at revoked
  split at revoked
  · next call query isCommit =>
      change step = .commit call query at isCommit
      subst isCommit
      split at revoked
      · next target req rows issuedBefore phase =>
          split at revoked
          · cases revoked
          · next store returned done =>
              obtain ⟨rfl, rfl⟩ := Prod.mk.inj (Option.some.inj revoked)
              rw [revokeRows] at done
              split at done
              · cases done
              · next res applied =>
                  obtain ⟨rfl, rfl⟩ := Prod.mk.inj (Except.ok.inj done)
                  refine ⟨call, query, rows, res, rfl, phase, applied, rfl, ?_⟩
                  rw [stepsOf, SessionWorld.next] at taken
                  split at taken
                  · cases taken
                  · simp only [SessionWorld.stepAt, phase, CallPhase.commit?,
                      applied, Option.some.injEq] at taken
                    exact taken.symm
      · cases revoked
  · cases revoked

theorem Revocation.Closed.of_revoked {action : BulkAction} (sound : WorldSound env world)
    (unread : RevokesUnread world label) (taken : stepsOf (SessionWorld.next env) world label after)
    (revoked : world.revoked env label = some (revocation, action))
    (short : action.matchedCount < maxBulkSessionAction) :
    revocation.Closed env after := by
  obtain ⟨call, query, rows, store, isCommit, phase, applied, matched, rfl⟩ :=
    revoked_cases taken revoked
  rw [matched] at short
  have own := sound call
  rw [phase] at own
  have distinct : (changedIds (rows.filterMap (revokeChange revocation.request label.now))).Nodup :=
    nodup_revokeChanges own.distinct
  have step := storeStep_applyChanges distinct applied
  have drawn := own.drawn _ _ _ _ rfl
  -- A covered session is one of the rows, as the call has locked it.
  have isRow : ∀ row ∈ world.store.sessions, revocation.Covers env.text row → row ∈ rows := by
    intro row mem covers
    obtain ⟨found, inRows, named⟩ := List.mem_map.mp
      (own.cover _ _ _ _ rfl short row mem covers.1 covers.2.1)
    have same : found = row :=
      Table.eq_of_key_eq (own.rows found inRows) mem named
    rw [← same]
    exact inRows
  refine ⟨Nat.le_trans drawn step.uuids, ?_, ?_⟩
  · intro new mem covers
    change isActive new label.now = false
    rcases (mem_applyChanges distinct applied new).mp mem with
      ⟨old, unwritten⟩ | ⟨change, inChanges, old, oldMem, oldId, written⟩
    · refine inactive_of_unchanged covers.2.2 ?_
      cases changed : revokeChange revocation.request label.now new with
      | none => rfl
      | some change =>
        have inChanges := List.mem_filterMap.mpr ⟨new, isRow new old covers, changed⟩
        refine absurd ?_ unwritten
        rw [← revokeChange_row changed]
        exact List.mem_map_of_mem inChanges
    · obtain ⟨row, inRows, changed⟩ := List.mem_filterMap.mp inChanges
      rw [revokeChange_row changed] at oldId
      rw [Table.eq_of_key_eq oldMem (own.rows row inRows) oldId] at written
      exact inactive_of_changed changed written
  · intro other read resolving new mem named covers
    obtain ⟨row, rowMem, keeps⟩ :=
      step.old mem (Nat.lt_of_lt_of_le covers.1 drawn)
    have rowCovers := (covers_keeps keeps).mp covers
    by_cases same : other = call
    · subst same
      have idle : (({ world with clock := label.now, store := store }).endCall
          other).phase other = .idle := Function.update_self ..
      rw [idle] at resolving
      cases resolving
    · have inFlight := resolving_endCall resolving
      have revokedRow : row ∈ (world.phase call).revokedRows := by
        rw [phase]
        exact List.mem_filter.mpr ⟨isRow row rowMem rowCovers, decide_eq_true rowCovers.2.2⟩
      exact unread call query isCommit row revokedRow other same read
        (CallPhase.read_of_resolving inFlight) (named.symm.trans keeps.id)

end Completion

/-- Revocations are final where no row that a bulk revocation matches is locked when it selects,
and no call that has read a session is in flight when its revocation commits. -/
theorem sessions_stayRevoked (env : SessionEnvironment) (clock : Time) {labels : List SessionLabel}
    {world : SessionWorld} (exec : Execution (Guarded (Undisturbed env)
      (stepsOf (SessionWorld.next env))) (.initial clock) labels world) :
    RevocationsFinal env (Guarded (Undisturbed env) (stepsOf (SessionWorld.next env))) world := by
  have sound : WorldSound env world :=
    exec.invariant (WorldSound env) (fun _ => callSound_idle)
      (fun _ _ _ held taken => held.step taken.1 taken.2)
  constructor
  · intro rest later continued
    obtain ⟨laterSound, persist⟩ := continued.invariant
      (fun later => WorldSound env later ∧ SessionsPersist world later)
      ⟨sound, SessionsPersist.refl world⟩
      (fun _ _ _ held taken =>
        ⟨held.1.step taken.1 taken.2, held.2.step held.1 taken.2⟩)
    exact persist.staysRevoked laterSound
  · intro label after revocation action rest later taken revoked short continued
    have closed := Revocation.Closed.of_revoked sound taken.1.2 taken.2 revoked short
    obtain ⟨laterSound, laterClosed⟩ := continued.invariant
      (fun later => WorldSound env later ∧ revocation.Closed env later)
      ⟨sound.step taken.1 taken.2, closed⟩
      (fun _ _ _ held taken =>
        ⟨held.1.step taken.1 taken.2, held.2.step held.1 taken.2⟩)
    exact laterClosed.complete laterSound

def SessionStep.call? : SessionStep → Option Nat
  | .issue .. => none
  | .resolve call _ | .touch call | .commitTouch call | .refresh call
  | .logout call _ | .writeLogout call | .revoke call _ _ | .cleanup call _
  | .purge call | .commit call _ | .abort call => some call

theorem phase_of_step {env : SessionEnvironment} {world after : SessionWorld} {label : SessionLabel}
    (taken : stepsOf (SessionWorld.next env) world label after)
    {other : Nat} (apart : label.step.call? ≠ some other) :
    after.phase other = world.phase other := by
  rw [stepsOf, SessionWorld.next] at taken
  split at taken
  · cases taken
  · obtain ⟨step, now⟩ := label
    cases step with
    | issue =>
      simp only [SessionWorld.stepAt] at taken
      split at taken
      · rw [← Option.some.inj taken]
      · rw [← Option.some.inj taken]
    | resolve call | touch call | commitTouch call | refresh call
    | logout call | writeLogout call | revoke call | cleanup call | purge call
    | commit call | abort call =>
      have different : other ≠ call := fun same => apart (by rw [same]; rfl)
      simp only [SessionWorld.stepAt, SessionWorld.writeRead] at taken
      repeat' split at taken
      all_goals first
        | (rw [← Option.some.inj taken]
           exact Function.update_of_ne different ..)
        | (rw [← Option.some.inj taken])
        | cases taken

theorem idle_of_execution {env : SessionEnvironment} {clock : Time}
    {labels : List SessionLabel} {world : SessionWorld}
    (exec : Execution (stepsOf (SessionWorld.next env)) (.initial clock) labels world) {call : Nat}
    (apart : ∀ label ∈ labels, label.step.call? ≠ some call) :
    world.phase call = .idle := by
  refine exec.invariant_of_labels
    (fun labels world => (∀ label ∈ labels, label.step.call? ≠ some call) →
      world.phase call = .idle) (fun _ => rfl) ?_ apart
  intro performed before label after held taken notOwn
  rw [phase_of_step taken (notOwn label (List.mem_append_right performed
    (List.mem_singleton_self label)))]
  exact held (fun other mem =>
    notOwn other (List.mem_append_left [label] mem))

def issueLabel : SessionLabel :=
  ⟨.issue Chained.firstLatest 3600 ⟨"token", "subject", "Subject", none, "provider",
    none, none, none⟩, 0⟩

def subjectRevocation : RevocationRequest where
  scope := .subject
  reason := "reported"
  signerIdentity := administrator
  currentSessionId := none

def afterSessionSteps (labels : List SessionLabel) : Option SessionWorld :=
  perform (SessionWorld.next plainSessions) (.initial 0) labels

def selectsFree (world : SessionWorld) (label : SessionLabel) : Bool :=
  match label.step with
  | .commit .. => false
  | .revoke .. => world.store.sessions.rows.all (fun row =>
    (world.lockedBy row.id).isNone)
  | _ => true

theorem selectsFree_sound (world : SessionWorld) (label : SessionLabel)
    (checked : selectsFree world label = true) :
    Undisturbed plainSessions world label := by
  constructor
  · intro call target req isRevoke _ row mem _
    rw [selectsFree, isRevoke] at checked
    exact Option.isNone_iff_eq_none.mp (List.all_eq_true.mp checked row mem)
  · intro call query isCommit
    rw [selectsFree, isCommit] at checked
    cases checked

theorem sessions_stayRevoked_subject :
    ∃ (world after later : SessionWorld) (revocation : Revocation) (action : BulkAction),
      afterSessionSteps [issueLabel,
          ⟨.revoke 0 (.subject "subject") subjectRevocation, 1⟩] = some world ∧
        world.revoked plainSessions ⟨.commit 0 Chained.firstLatest, 1⟩ = some (revocation, action) ∧
        action.revokedCount = 1 ∧
        SessionWorld.next plainSessions after ⟨.resolve 1 "token", 2⟩ =
          some later ∧
        revocation.Complete plainSessions later ∧
        StaysRevoked plainSessions world after := by
  let commitLabel : SessionLabel := ⟨.commit 0 Chained.firstLatest, 1⟩
  set_option maxRecDepth 8000 in
  have performed : (afterSessionSteps [issueLabel,
      ⟨.revoke 0 (.subject "subject") subjectRevocation, 1⟩]).any (fun world =>
        ((SessionWorld.next plainSessions world commitLabel).any (fun after =>
          (SessionWorld.next plainSessions after
            ⟨.resolve 1 "token", 2⟩).isSome)) &&
        ((world.revoked plainSessions commitLabel).any (fun returned =>
          returned.2.revokedCount = 1 && returned.2.matchedCount = 1))) =
            true := by
    decide
  obtain ⟨world, reached, facts⟩ := (Option.any_eq_true _ _).mp performed
  rw [Bool.and_eq_true] at facts
  obtain ⟨after, committed, resolves⟩ := (Option.any_eq_true _ _).mp facts.1
  obtain ⟨later, resolved⟩ := Option.isSome_iff_exists.mp resolves
  obtain ⟨⟨revocation, action⟩, revoked, counts⟩ :=
    (Option.any_eq_true _ _).mp facts.2
  rw [Bool.and_eq_true, decide_eq_true_eq, decide_eq_true_eq] at counts
  have guarded : MeetsGuard (Undisturbed plainSessions)
      (SessionWorld.next plainSessions) (.initial 0) [issueLabel,
        ⟨.revoke 0 (.subject "subject") subjectRevocation, 1⟩] := by
    refine MeetsGuard.of_checks selectsFree selectsFree_sound ?_
    set_option maxRecDepth 8000 in
    decide
  have exec := Execution.of_perform_guarded reached guarded
  have undisturbed : Undisturbed plainSessions world commitLabel := by
    refine ⟨fun _ _ _ isRevoke => (by cases isRevoke), ?_⟩
    intro call query isCommit _ _ other apart row read
    obtain ⟨rfl, _⟩ := SessionStep.commit.inj isCommit
    have idle : world.phase other = .idle := by
      refine idle_of_execution exec.of_guarded (fun label mem own => ?_)
      rcases List.mem_cons.mp mem with rfl | isRevoke
      · cases own
      · rw [List.mem_singleton.mp isRevoke] at own
        exact apart (Option.some.inj own).symm
    rw [idle] at read
    cases read
  have final := sessions_stayRevoked plainSessions 0 exec
  refine ⟨world, after, later, revocation, action, reached, revoked, counts.1, resolved, ?_, ?_⟩
  · refine final.complete commitLabel after revocation action
      [⟨.resolve 1 "token", 2⟩] later ⟨undisturbed, committed⟩ revoked ?_ ?_
    · rw [counts.2]
      decide
    · refine Execution.refl.snoc ⟨selectsFree_sound after _ rfl, resolved⟩
  · exact final.stays [commitLabel] after (Execution.refl.snoc ⟨undisturbed, committed⟩)

/-- A `resolve` has the session locked, so a revocation of its subject skips it, and the session
resolves from then on. -/
theorem sessions_skipLocked : ¬ ∀ (labels : List SessionLabel) (world : SessionWorld),
      Execution (stepsOf (SessionWorld.next plainSessions)) (.initial 0) labels world →
        RevocationsFinal plainSessions (stepsOf (SessionWorld.next plainSessions)) world := by
  intro always
  let labels : List SessionLabel := [issueLabel,
    ⟨.resolve 0 "token", 301 * second⟩, ⟨.touch 0, 301 * second⟩,
    ⟨.revoke 1 (.subject "subject") subjectRevocation, 301 * second⟩]
  let commitLabel : SessionLabel :=
    ⟨.commit 1 Chained.firstLatest, 301 * second⟩
  let touchLabel : SessionLabel := ⟨.commitTouch 0, 301 * second⟩
  let resolveLabel : SessionLabel := ⟨.resolve 2 "token", 302 * second⟩
  set_option maxRecDepth 8000 in
  have checked : (afterSessionSteps labels).any (fun world =>
      ((SessionWorld.next plainSessions world commitLabel).any (fun after =>
        (SessionWorld.next plainSessions after touchLabel).any (fun later =>
          (SessionWorld.next plainSessions later resolveLabel).isSome &&
            (later.resolved plainSessions resolveLabel).any (fun row =>
              row.id = 0 && row.subjectId = "subject")))) &&
      ((world.revoked plainSessions commitLabel).any (fun returned =>
        returned.2.matchedCount = 0 && returned.1.issuedBefore = 2 &&
          returned.1.target = .subject "subject" &&
            returned.1.request.currentSessionId = none))) = true := by
    decide
  obtain ⟨world, reached, facts⟩ := (Option.any_eq_true _ _).mp checked
  rw [Bool.and_eq_true] at facts
  obtain ⟨after, committed, afterFacts⟩ := (Option.any_eq_true _ _).mp facts.1
  obtain ⟨later, touched, laterFacts⟩ := (Option.any_eq_true _ _).mp afterFacts
  rw [Bool.and_eq_true] at laterFacts
  obtain ⟨finish, resolves⟩ := Option.isSome_iff_exists.mp laterFacts.1
  obtain ⟨row, resolved, rowFacts⟩ := (Option.any_eq_true _ _).mp laterFacts.2
  obtain ⟨⟨revocation, action⟩, revoked, counts⟩ :=
    (Option.any_eq_true _ _).mp facts.2
  simp only [Bool.and_eq_true, decide_eq_true_eq] at counts rowFacts
  obtain ⟨⟨⟨matched, issuedBefore⟩, target⟩, current⟩ := counts
  have complete := (always labels world (Execution.of_perform reached)).complete
    commitLabel after revocation action [touchLabel] later committed revoked
    (by rw [matched]; decide) (Execution.refl.snoc touched)
  refine complete resolveLabel finish resolves row resolved ⟨?_, ?_, ?_⟩
  · rw [rowFacts.1, issuedBefore]
    decide
  · rw [target]
    simp only [RevocationTarget.matches, rowFacts.2]
    decide
  · rw [current]
    exact fun same => by cases same

end ModelAtlas.Sessions
