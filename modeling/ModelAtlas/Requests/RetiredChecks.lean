import ModelAtlas.Requests.SingleExecution

/-!
# Retired checks

A check whose revision is over, whose request is revoked or whose confirmation
has expired is dead: no later call executes it, and none revives it.
-/

namespace ModelAtlas.Requests

open Foundations

variable {store : RequestStore} {now : Time} {requestId : Uuid}

section Retirement

variable {env : RequestEnvironment ContractContent}
  {sys after final : RequestSystem} {call : RequestCall}
  {check : StructuredRequestCheck}

def Dead (store : RequestStore) (now : Time) (check : StructuredRequestCheck) :
    Prop :=
  ∃ record ∈ store.requests, record.id = check.requestId ∧
    (check.revision < record.revision ∨ record.status = .revoked ∨ (record.status ≠ .draft ∧
        ∃ expiresAt, record.expiresAt = some expiresAt ∧ expiresAt ≤ now))

theorem Dead.later {later : Time} (dead : Dead store now check) (le : now ≤ later) :
    Dead store later check := by
  obtain ⟨record, mem, owns, revision | revoked | ⟨notDraft, expired⟩⟩ := dead
  · exact ⟨record, mem, owns, Or.inl revision⟩
  · exact ⟨record, mem, owns, Or.inr (Or.inl revoked)⟩
  · obtain ⟨expiresAt, present, past⟩ := expired
    exact ⟨record, mem, owns, Or.inr (Or.inr ⟨notDraft, expiresAt, present, Int.le_trans past le⟩)⟩

theorem Dead.not_executable {arguments : Json} (dead : Dead store now check) :
    ¬ExecutableAt env store now check arguments := by
  rintro ⟨record, mem, owns, revision, _, confirmed, _, unexpired, _⟩
  obtain ⟨other, otherMem, otherOwns, cause⟩ := dead
  have sameRecord : other = record :=
    Table.eq_of_key_eq otherMem mem (otherOwns.trans owns.symm)
  rw [sameRecord] at cause
  rcases cause with older | revoked | ⟨_, expiresAt, present, past⟩
  · rw [revision] at older
    exact absurd older (Nat.lt_irrefl _)
  · rw [confirmed] at revoked
    cases revoked
  · obtain ⟨expiry, isExpiry, later⟩ := unexpired
    rw [present] at isExpiry
    rw [← Option.some.inj isExpiry] at later
    exact absurd past (Int.not_le.mpr later)

theorem exists_modified {change : StructuredRequest → StructuredRequest}
    {keeps : ∀ record, (change record).id = record.id} {record : StructuredRequest}
    (mem : record ∈ store.requests) (named : record.id = requestId) :
    change record ∈ (store.modifyRequest requestId change keeps).requests :=
  RequestStore.mem_modifyRequest.mpr (Or.inl ⟨record, mem, named, rfl⟩)

theorem Dead.modifyRequest {change : StructuredRequest → StructuredRequest}
    {keeps : ∀ record, (change record).id = record.id} (dead : Dead store now check)
    (kept : ∀ record ∈ store.requests, record.id = requestId → record.id = check.requestId →
      (check.revision < record.revision ∨ record.status = .revoked ∨
        (record.status ≠ .draft ∧ ∃ expiresAt,
          record.expiresAt = some expiresAt ∧ expiresAt ≤ now)) →
      (check.revision < (change record).revision ∨ (change record).status = .revoked ∨
        ((change record).status ≠ .draft ∧ ∃ expiresAt,
          (change record).expiresAt = some expiresAt ∧ expiresAt ≤ now))) :
    Dead (store.modifyRequest requestId change keeps) now check := by
  obtain ⟨record, mem, owns, cause⟩ := dead
  by_cases named : record.id = requestId
  · exact ⟨change record, exists_modified mem named,
      (keeps record).trans owns, kept record mem named owns cause⟩
  · have unmodified : record ∈ (store.modifyRequest requestId change keeps).requests :=
      RequestStore.mem_modifyRequest.mpr (Or.inr ⟨mem, named⟩)
    exact ⟨record, unmodified, owns, cause⟩

theorem Dead.next (books : RequestBooks sys.store) (mem : check ∈ sys.store.checks)
    (dead : Dead sys.store call.now check)
    (taken : stepsOf (RequestSystem.next env) sys call after) :
    Dead after.store call.now check := by
  cases (requestChange_of_step taken).1 with
  | same store =>
    rw [store]
    exact dead
  | created _ store =>
    rw [store]
    obtain ⟨record, recordMem, cause⟩ := dead
    exact ⟨record, RequestStore.mem_insertRequest.mpr (Or.inl recordMem), cause⟩
  | saved store =>
    rw [store]
    refine dead.modifyRequest (fun record recordMem _ owns _ => Or.inl ?_)
    obtain ⟨owner, ownerMem, ownerOwns, bounded⟩ := books.owned check mem
    have sameOwner : owner = record := Table.eq_of_key_eq ownerMem
      recordMem (ownerOwns.trans owns.symm)
    rw [sameOwner] at bounded
    exact Nat.lt_succ_of_le bounded
  | @confirmed confirmedRecord actor keeps confirmedMem isDraft store =>
    rw [store]
    refine dead.modifyRequest (fun record recordMem named _ cause => ?_)
    have sameRecord : record = confirmedRecord :=
      Table.eq_of_key_eq recordMem confirmedMem named
    rw [sameRecord, isDraft] at cause
    rw [sameRecord]
    rcases cause with older | revoked | ⟨notDraft, _⟩
    · exact Or.inl older
    · cases revoked
    · exact absurd rfl notDraft
  | revoked store =>
    rw [store]
    exact dead.modifyRequest (fun _ _ _ _ _ => Or.inr (Or.inl rfl))
  | checked _ _ _ _ store =>
    rw [store]
    exact dead
  | @executed record other _ _ _ keeps _ _ _ _ _ _ _ _ _ store =>
    rw [store]
    have marked : Dead (sys.store.modifyRequest record.id
        (fun record => { record with executedCheckId := some other.id })
        keeps) call.now check :=
      dead.modifyRequest (fun _ _ _ _ cause => cause)
    exact marked

theorem Dead.kept (mem : check ∈ sys.store.checks) (dead : Dead sys.store call.now check)
    (taken : stepsOf (RequestSystem.next env) sys call after) :
    check ∈ after.store.checks := by
  rcases check_kept_or_executed taken mem with
    kept | ⟨_, arguments, executable⟩
  · exact kept
  · exact absurd executable dead.not_executable

/-- A call retires the checks of a request: it saves a draft, it revokes, or
the confirmation has expired at its clock. -/
inductive Retires (env : RequestEnvironment ContractContent)
    (sys : RequestSystem) (call : RequestCall) (requestId : Uuid) : Prop
  | saved {binding : ContractBinding} {draft : StructuredTicketInput}
      (isSave : call.step = .save requestId binding draft)
      (accepted : (sys.outcome env call).isOk = true)
  | revoked {binding : ContractBinding}
      (isRevoke : call.step = .revoke requestId binding)
      (accepted : (sys.outcome env call).isOk = true)
  | expired {record : StructuredRequest} {expiresAt : Time}
      (mem : record ∈ sys.store.requests) (named : record.id = requestId)
      (present : record.expiresAt = some expiresAt)
      (past : expiresAt ≤ call.now)

theorem store_of_isOk (taken : stepsOf (RequestSystem.next env) sys call after)
    (accepted : (sys.outcome env call).isOk = true) :
    sys.outcome env call = .ok after.store := by
  rw [stepsOf, RequestSystem.next] at taken
  split at taken
  · cases taken
  · rw [← Option.some.inj taken]
    cases outcome : sys.outcome env call with
    | error raised =>
      rw [outcome] at accepted
      cases accepted
    | ok store =>
      rfl

theorem saved_store {binding : ContractBinding} {draft : StructuredTicketInput}
    (isSave : call.step = .save requestId binding draft)
    (accepted : (sys.outcome env call).isOk = true)
    (taken : stepsOf (RequestSystem.next env) sys call after) :
    ∃ toolHash keeps, after.store = sys.store.modifyRequest requestId
      (savedRecord env draft toolHash) keeps := by
  have outcome := store_of_isOk taken accepted
  rw [RequestSystem.outcome] at outcome
  simp only [isSave, saveDraft] at outcome
  split at outcome
  · cases outcome
  · split at outcome
    · cases outcome
    · exact ⟨_, _, (Except.ok.inj outcome).symm⟩

theorem revoked_store {binding : ContractBinding} (isRevoke : call.step = .revoke requestId binding)
    (accepted : (sys.outcome env call).isOk = true)
    (taken : stepsOf (RequestSystem.next env) sys call after) :
    ∃ keeps, after.store = sys.store.modifyRequest requestId revokedRecord keeps := by
  have outcome := store_of_isOk taken accepted
  rw [RequestSystem.outcome] at outcome
  simp only [isRevoke, revoke] at outcome
  split at outcome
  · cases outcome
  · exact ⟨_, (Except.ok.inj outcome).symm⟩

theorem dead_of_expired (books : RequestBooks sys.store) {record : StructuredRequest}
    {expiresAt : Time} (mem : record ∈ sys.store.requests) (owns : record.id = check.requestId)
    (present : record.expiresAt = some expiresAt) (past : expiresAt ≤ call.now) :
    Dead sys.store call.now check := by
  have notDraft : record.status ≠ .draft := books.expiring record mem (by
    rw [present]
    rfl)
  exact ⟨record, mem, owns, Or.inr (Or.inr ⟨notDraft, expiresAt, present, past⟩)⟩

theorem retired (books : RequestBooks sys.store) (mem : check ∈ sys.store.checks)
    (retires : Retires env sys call check.requestId)
    (taken : stepsOf (RequestSystem.next env) sys call after) :
    check ∈ after.store.checks ∧ Dead after.store call.now check := by
  obtain ⟨owner, ownerMem, owns, bounded⟩ := books.owned check mem
  cases retires with
  | saved isSave accepted =>
    obtain ⟨toolHash, keeps, store⟩ := saved_store isSave accepted taken
    rw [store]
    exact ⟨mem, _, exists_modified ownerMem owns, owns, Or.inl (Nat.lt_succ_of_le bounded)⟩
  | revoked isRevoke accepted =>
    obtain ⟨keeps, store⟩ := revoked_store isRevoke accepted taken
    rw [store]
    exact ⟨mem, _, exists_modified ownerMem owns, owns, Or.inr (Or.inl rfl)⟩
  | expired recordMem named present past =>
    have dead := dead_of_expired books recordMem named present past
    exact ⟨dead.kept mem taken, dead.next books mem taken⟩

theorem Dead.forever (books : RequestBooks sys.store) (mem : check ∈ sys.store.checks)
    (dead : Dead sys.store sys.clock check) {calls : List RequestCall}
    (exec : Execution (stepsOf (RequestSystem.next env)) sys calls final) :
    check ∈ final.store.checks := by
  have stays := exec.invariant
    (fun state => RequestBooks state.store ∧ check ∈ state.store.checks ∧
      Dead state.store state.clock check)
    ⟨books, mem, dead⟩
    (fun before label next held taken => by
      obtain ⟨heldBooks, heldMem, heldDead⟩ := held
      obtain ⟨_, inOrder, clock⟩ := requestChange_of_step taken
      have deadNow : Dead before.store label.now check := heldDead.later inOrder
      refine ⟨heldBooks.next taken, deadNow.kept heldMem taken, ?_⟩
      rw [clock]
      exact deadNow.next heldBooks heldMem taken)
  exact stays.2.1

end Retirement

theorem requestBooks_of_execution {env : RequestEnvironment ContractContent} {clock : Time}
    {calls : List RequestCall} {sys : RequestSystem}
    (exec : Execution (stepsOf (RequestSystem.next env)) (.initial clock) calls sys) :
    RequestBooks sys.store :=
  exec.invariant (fun state => RequestBooks state.store)
    RequestBooks.empty (fun _ _ _ books taken => books.next taken)

theorem execute_executed {env : RequestEnvironment ContractContent} {sys after : RequestSystem}
    {call : RequestCall} {check : StructuredRequestCheck} (mem : check ∈ sys.store.checks)
    (executed : check.execution.isSome = true) (isExecute : call.step = .execute requestId check.id)
    (taken : stepsOf (RequestSystem.next env) sys call after) :
    after.store = sys.store := by
  rw [stepsOf, RequestSystem.next] at taken
  split at taken
  · cases taken
  · rw [← Option.some.inj taken]
    have found : sys.store.checks.find? check.id = some check :=
      Table.find?_eq_some_iff.mpr ⟨mem, rfl⟩
    simp only [RequestSystem.outcome, isExecute, execute, found]
    cases getOwned env sys.store call.actor requestId with
    | error raised =>
      rfl
    | ok record =>
      by_cases sameRequest : check.requestId = record.id
      · simp only [sameRequest, executed, ne_eq, not_true, if_false, if_true]
      · simp only [sameRequest, ne_eq, not_false_iff, if_true]

/-- In every state a revision has at most one executed check. A check is executed where its
request is confirmed for it, unexpired and unexecuted; an executed check stays, and a retired
one stays unexecuted. -/
theorem executedOnce (env : RequestEnvironment ContractContent)
    {clock : Time} {calls : List RequestCall} {sys : RequestSystem}
    (exec : Execution (stepsOf (RequestSystem.next env)) (.initial clock) calls sys) :
    (∀ left ∈ sys.store.checks, ∀ right ∈ sys.store.checks,
      left.execution.isSome = true → right.execution.isSome = true →
        left.requestId = right.requestId → left.revision = right.revision → left = right) ∧
    ∀ call after, stepsOf (RequestSystem.next env) sys call after →
        (∀ check ∈ after.store.checks, CheckOrigin env sys.store call.now check) ∧
        (∀ check ∈ sys.store.checks, check.execution.isSome = true → check ∈ after.store.checks ∧
            ∀ requestId, call.step = .execute requestId check.id → after.store = sys.store) ∧
        ∀ check ∈ sys.store.checks, check.execution = none →
          Retires env sys call check.requestId → ∀ rest final,
              Execution (stepsOf (RequestSystem.next env)) after rest
                final → check ∈ final.store.checks := by
  have books := requestBooks_of_execution exec
  refine ⟨books.one, fun call after taken => ⟨?_, ?_, ?_⟩⟩
  · exact fun check mem => checkOrigin_of_step taken mem
  · intro check mem executed
    refine ⟨?_, fun requestId isExecute =>
      execute_executed mem executed isExecute taken⟩
    rcases check_kept_or_executed taken mem with kept | ⟨unexecuted, _⟩
    · exact kept
    · rw [unexecuted] at executed
      cases executed
  · intro check mem _ retires rest final later
    obtain ⟨kept, dead⟩ := retired books mem retires taken
    rw [← (requestChange_of_step taken).2.2] at dead
    exact dead.forever (books.next taken) kept later

def ticketEnvironment : RequestEnvironment ContractContent where
  text := ⟨fun text => text, fun _ => ""⟩
  readJson text :=
    if text = "reset" then
      some (.obj [("name", .str "create_ticket"),
        ("arguments", .obj [("query", .str "reset the password")])])
    else none
  sha256 text := text
  contractDigest _ := "contract"
  ownerKey actor := actor.subjectId

def ticketOwner : SignerIdentity :=
  ⟨"owner", "Owner", none, "provider", "oidc", true, none⟩

def ticketCalls : List RequestCall :=
  let call := fun step now => RequestCall.mk step ticketOwner (.ok "tool") now
  [call (.create ⟨"please reset", "reset the password", .omit⟩) 10,
    call (.confirm 0 ⟨1, "contract"⟩) 20,
    call (.addCheck 0 ⟨1, "contract"⟩ "reset") 30,
    call (.execute 0 1) 40]

set_option maxRecDepth 8000 in
theorem executedOnce_ticket : ∃ sys, Execution (stepsOf (RequestSystem.next ticketEnvironment))
    (.initial 0) ticketCalls sys ∧ (sys.store.checks.find? 1).any (·.execution.isSome) = true ∧
    ∀ check ∈ sys.store.checks, check.execution.isSome = true → ∀ call after,
        stepsOf (RequestSystem.next ticketEnvironment) sys call after →
          check ∈ after.store.checks := by
  have executed : (perform (RequestSystem.next ticketEnvironment) (.initial 0)
      ticketCalls).any (fun sys =>
        (sys.store.checks.find? 1).any (·.execution.isSome)) = true := by
    decide +kernel
  obtain ⟨sys, performed, isExecuted⟩ := (Option.any_eq_true _ _).mp executed
  have run := Execution.of_perform performed
  refine ⟨sys, run, isExecuted, ?_⟩
  intro check mem isSome call after taken
  exact (((executedOnce ticketEnvironment run).2 call after taken).2.1 check mem isSome).1

end ModelAtlas.Requests
