import ModelAtlas.Requests.Contracts

/-!
# One confirmation, one execution

A check is executed while its request is confirmed for its revision, and each
revision has at most one check with an execution.
-/

namespace ModelAtlas.Requests

open Foundations

variable {actor : SignerIdentity} {requestId : Uuid} {finish : RequestStore}
  {check : StructuredRequestCheck}

/-! ## What a call does -/

inductive RequestChange (env : RequestEnvironment ContractContent)
    (sys : RequestSystem) (call : RequestCall) (after : RequestStore) : Prop
  | same (store : after = sys.store)
  | created {record : StructuredRequest} {drawn : record.id = sys.store.uuids}
      (expiresAt : record.expiresAt = none)
      (store : after = sys.store.insertRequest record drawn)
  | saved {requestId : Uuid} {draft : StructuredTicketInput} {toolHash : String}
      {keeps : ∀ record,
        (savedRecord env draft toolHash record).id = record.id}
      (store : after = sys.store.modifyRequest requestId
        (savedRecord env draft toolHash) keeps)
  | confirmed {record : StructuredRequest} {actor : SignerIdentity}
      {keeps : ∀ record, (confirmedRecord actor call.now record).id = record.id}
      (mem : record ∈ sys.store.requests) (isDraft : record.status = .draft)
      (store : after = sys.store.modifyRequest record.id
        (confirmedRecord actor call.now) keeps)
  | revoked {requestId : Uuid}
      {keeps : ∀ record, (revokedRecord record).id = record.id}
      (store : after =
        sys.store.modifyRequest requestId revokedRecord keeps)
  | checked {record : StructuredRequest} {check : StructuredRequestCheck}
      {drawn : check.id = sys.store.uuids}
      (mem : record ∈ sys.store.requests)
      (requestId : check.requestId = record.id)
      (revision : check.revision = record.revision)
      (unexecuted : check.execution = none)
      (store : after = sys.store.insertCheck check drawn)
  | executed {record : StructuredRequest} {check : StructuredRequestCheck}
      {toolHash : String} {ticket : String × Json} {exec : TicketExecution}
      {keeps : ∀ record : StructuredRequest,
        ({ record with executedCheckId := some check.id } :
          StructuredRequest).id = record.id}
      (mem : record ∈ sys.store.requests)
      (checkMem : check ∈ sys.store.checks)
      (requestId : check.requestId = record.id)
      (unexecuted : check.execution = none)
      (revision : check.revision = record.revision)
      (contractHash : check.contractHash = record.contractHash)
      (noReasons : verdictReasons env record check.proposal toolHash
        call.now = [])
      (compiled : (compileBoundedToolCall env
        check.proposal).normalizedOutput = some ticket)
      (step : exec.step = executeTicket env (toString record.id)
        ticket)
      (store : after = (sys.store.modifyRequest record.id
        (fun record => { record with executedCheckId := some check.id })
        keeps).recordExecution check.id exec)

section Changes

variable {env : RequestEnvironment ContractContent}
  {sys after : RequestSystem} {call : RequestCall} {store : RequestStore}

theorem getOwned_ok {record : StructuredRequest}
    (owned : getOwned env store actor requestId = .ok record) :
    record ∈ store.requests ∧ record.id = requestId := by
  rw [getOwned] at owned
  split at owned
  · cases owned
  · next found isFound =>
      split at owned
      · rw [Except.ok.inj owned] at isFound
        exact Table.find?_eq_some_iff.mp isFound
      · cases owned

theorem boundRequest_ok {binding : ContractBinding} {record : StructuredRequest}
    (bound : boundRequest env store actor requestId binding = .ok record) :
    record ∈ store.requests ∧ record.id = requestId := by
  rw [boundRequest] at bound
  split at bound
  · cases bound
  · next owned =>
      split at bound
      · cases bound
      · rw [Except.ok.inj bound] at owned
        exact getOwned_ok owned

theorem requestChange_of_addCheck {tool : Except RequestError String}
    {binding : ContractBinding} {proposal source : String} {now : Time}
    (done : addCheck env sys.store actor tool requestId binding proposal source now = .ok finish) :
    RequestChange env sys call finish := by
  rw [addCheck] at done
  split at done
  · cases done
  · next record bound =>
      split at done
      · cases done
      · exact .checked (boundRequest_ok bound).1 rfl rfl rfl (Except.ok.inj done).symm

theorem requestChange_of_execute {tool : Except RequestError String} {checkId : Uuid}
    (done : execute env sys.store actor tool requestId checkId call.now = .ok finish) :
    RequestChange env sys call finish := by
  rw [execute] at done
  split at done
  · cases done
  · next record owned =>
      obtain ⟨mem, rfl⟩ := getOwned_ok owned
      split at done
      · cases done
      · next check found =>
          obtain ⟨checkMem, named⟩ := Table.find?_eq_some_iff.mp found
          change check.id = checkId at named
          subst named
          split at done
          · cases done
          · next sameRequest =>
              split at done
              · exact .same (Except.ok.inj done).symm
              · next unexecuted =>
                  split at done
                  · cases done
                  · next current =>
                      rw [not_or, Decidable.not_not, Decidable.not_not] at current
                      split at done
                      · cases done
                      · split at done
                        · cases done
                        · split at done
                          · next noReasons compiled =>
                              exact .executed mem checkMem (Decidable.not_not.mp sameRequest)
                                (Option.not_isSome_iff_eq_none.mp unexecuted)
                                current.1 current.2 noReasons compiled rfl (Except.ok.inj done).symm
                          · cases done

theorem requestChange_of_outcome (done : sys.outcome env call = .ok finish) :
    RequestChange env sys call finish := by
  rw [RequestSystem.outcome] at done
  cases isStep : call.step with
  | create draft =>
    simp only [isStep, createDraft] at done
    split at done
    · cases done
    · exact .created rfl (Except.ok.inj done).symm
  | save requestId binding draft =>
    simp only [isStep, saveDraft] at done
    split at done
    · cases done
    · split at done
      · cases done
      · exact .saved (Except.ok.inj done).symm
  | confirm requestId binding =>
    simp only [isStep, confirm] at done
    split at done
    · cases done
    · next record bound =>
        obtain ⟨mem, rfl⟩ := boundRequest_ok bound
        split at done
        · cases done
        · split at done
          · cases done
          · split at done
            · cases done
            · next isDraft =>
                split at done
                · cases done
                · exact .confirmed mem (Decidable.not_not.mp isDraft) (Except.ok.inj done).symm
  | revoke requestId binding =>
    simp only [isStep, revoke] at done
    split at done
    · cases done
    · exact .revoked (Except.ok.inj done).symm
  | addCheck requestId binding proposal =>
    simp only [isStep] at done
    exact requestChange_of_addCheck done
  | generate generation requestId binding =>
    simp only [isStep] at done
    split at done
    · cases done
    · exact .same (Except.ok.inj done).symm
  | generated generation answer =>
    simp only [isStep] at done
    split at done
    · exact requestChange_of_addCheck done
    · cases done
  | execute requestId checkId =>
    simp only [isStep] at done
    exact requestChange_of_execute done

theorem requestChange_of_step (taken : stepsOf (RequestSystem.next env) sys call after) :
    RequestChange env sys call after.store ∧ sys.clock ≤ call.now ∧ after.clock = call.now := by
  rw [stepsOf, RequestSystem.next] at taken
  split at taken
  · cases taken
  · next inOrder =>
      rw [← Option.some.inj taken]
      refine ⟨?_, Int.not_lt.mp inOrder, rfl⟩
      dsimp only
      split
      · next done => exact requestChange_of_outcome done
      · exact .same rfl

end Changes

section Books

variable {env : RequestEnvironment ContractContent}
  {sys after : RequestSystem} {call : RequestCall}
  {before store : RequestStore}

structure RequestBooks (store : RequestStore) : Prop where
  owned : ∀ check ∈ store.checks, ∃ record ∈ store.requests,
    record.id = check.requestId ∧ check.revision ≤ record.revision
  unexecuted : ∀ record ∈ store.requests, record.executedCheckId = none →
    ∀ check ∈ store.checks, check.requestId = record.id →
      check.revision = record.revision → check.execution = none
  one : ∀ left ∈ store.checks, ∀ right ∈ store.checks,
    left.execution.isSome = true → right.execution.isSome = true →
      left.requestId = right.requestId → left.revision = right.revision →
        left = right
  expiring : ∀ record ∈ store.requests, record.expiresAt.isSome = true →
    record.status ≠ .draft

theorem RequestBooks.empty : RequestBooks .empty where
  owned check mem := absurd mem (Table.not_mem_empty check)
  unexecuted record mem := absurd mem (Table.not_mem_empty record)
  one left mem := absurd mem (Table.not_mem_empty left)
  expiring record mem := absurd mem (Table.not_mem_empty record)

structure LaterRecord (old new : StructuredRequest) : Prop where
  id : new.id = old.id
  revision : old.revision ≤ new.revision
  unexecuted : new.executedCheckId = none →
    old.revision < new.revision ∨ old.executedCheckId = none
  expiring : new.expiresAt.isSome = true →
    new.status ≠ .draft ∨ (old.expiresAt.isSome = true ∧
      new.status = old.status)

theorem laterRecord_saved (draft : StructuredTicketInput) (toolHash : String)
    (record : StructuredRequest) :
    LaterRecord record (savedRecord env draft toolHash record) where
  id := rfl
  revision := Nat.le_succ _
  unexecuted _ := Or.inl (Nat.lt_succ_self _)
  expiring isSome := absurd isSome Bool.false_ne_true

theorem laterRecord_confirmed (actor : SignerIdentity) (now : Time) (record : StructuredRequest) :
    LaterRecord record (confirmedRecord actor now record) where
  id := rfl
  revision := Nat.le_refl _
  unexecuted := Or.inr
  expiring _ := Or.inl (fun isDraft => by cases isDraft)

theorem laterRecord_revoked (record : StructuredRequest) :
    LaterRecord record (revokedRecord record) where
  id := rfl
  revision := Nat.le_refl _
  unexecuted := Or.inr
  expiring _ := Or.inl (fun isDraft => by cases isDraft)

theorem RequestBooks.modifyRequest (books : RequestBooks store)
    {change : StructuredRequest → StructuredRequest}
    {keeps : ∀ record, (change record).id = record.id}
    (later : ∀ record, LaterRecord record (change record)) :
    RequestBooks (store.modifyRequest requestId change keeps) where
  owned check mem := by
    obtain ⟨record, recordMem, owns, revision⟩ := books.owned check mem
    by_cases named : record.id = requestId
    · exact ⟨change record, RequestStore.mem_modifyRequest.mpr
        (Or.inl ⟨record, recordMem, named, rfl⟩),
        (later record).id.trans owns,
        Nat.le_trans revision (later record).revision⟩
    · exact ⟨record, RequestStore.mem_modifyRequest.mpr (Or.inr ⟨recordMem, named⟩), owns, revision⟩
  unexecuted record mem unmarked check checkMem owns revision := by
    rcases RequestStore.mem_modifyRequest.mp mem with
      ⟨old, oldMem, _, rfl⟩ | ⟨kept, _⟩
    · have oldOwns := owns.trans (later old).id
      rcases (later old).unexecuted unmarked with newer | was
      · -- The checks of a request are of its revisions so far.
        obtain ⟨owner, ownerMem, ownerOwns, bounded⟩ :=
          books.owned check checkMem
        have sameOwner : owner = old := Table.eq_of_key_eq ownerMem oldMem (ownerOwns.trans oldOwns)
        rw [sameOwner, revision] at bounded
        exact absurd newer (Nat.not_lt.mpr bounded)
      · obtain ⟨owner, ownerMem, ownerOwns, bounded⟩ :=
          books.owned check checkMem
        have sameOwner : owner = old := Table.eq_of_key_eq ownerMem oldMem (ownerOwns.trans oldOwns)
        rw [sameOwner] at bounded
        have sameRevision : check.revision = old.revision :=
          Nat.le_antisymm bounded (revision ▸ (later old).revision)
        exact books.unexecuted old oldMem was check checkMem oldOwns sameRevision
    · exact books.unexecuted record kept unmarked check checkMem owns revision
  one := books.one
  expiring record mem isSome := by
    rcases RequestStore.mem_modifyRequest.mp mem with
      ⟨old, oldMem, _, rfl⟩ | ⟨kept, _⟩
    · rcases (later old).expiring isSome with notDraft | ⟨was, sameStatus⟩
      · exact notDraft
      · rw [sameStatus]
        exact books.expiring old oldMem was
    · exact books.expiring record kept isSome

theorem RequestBooks.insertCheck (books : RequestBooks store) {drawn : check.id = store.uuids}
    {record : StructuredRequest} (mem : record ∈ store.requests)
    (requestId : check.requestId = record.id)
    (revision : check.revision = record.revision)
    (unexecuted : check.execution = none) :
    RequestBooks (store.insertCheck check drawn) where
  owned other otherMem := by
    rcases RequestStore.mem_insertCheck.mp otherMem with old | rfl
    · exact books.owned other old
    · exact ⟨record, mem, requestId.symm, Nat.le_of_eq revision⟩
  unexecuted owner ownerMem unmarked other otherMem owns sameRevision := by
    rcases RequestStore.mem_insertCheck.mp otherMem with old | rfl
    · exact books.unexecuted owner ownerMem unmarked other old owns sameRevision
    · exact unexecuted
  one left leftMem right rightMem leftExecuted rightExecuted sameRequest
      sameRevision := by
    rcases RequestStore.mem_insertCheck.mp leftMem with leftOld | rfl
    · rcases RequestStore.mem_insertCheck.mp rightMem with rightOld | rfl
      · exact books.one left leftOld right rightOld leftExecuted rightExecuted
          sameRequest sameRevision
      · rw [unexecuted] at rightExecuted
        cases rightExecuted
    · rw [unexecuted] at leftExecuted
      cases leftExecuted
  expiring := books.expiring

theorem RequestBooks.insertRequest (books : RequestBooks store) {record : StructuredRequest}
    {drawn : record.id = store.uuids} (expiresAt : record.expiresAt = none) :
    RequestBooks (store.insertRequest record drawn) where
  owned check mem := by
    obtain ⟨owner, ownerMem, owns, revision⟩ := books.owned check mem
    exact ⟨owner, RequestStore.mem_insertRequest.mpr (Or.inl ownerMem), owns, revision⟩
  unexecuted owner ownerMem unmarked check checkMem owns revision := by
    rcases RequestStore.mem_insertRequest.mp ownerMem with old | rfl
    · exact books.unexecuted owner old unmarked check checkMem owns revision
    · -- The request of a check was drawn before.
      obtain ⟨other, otherMem, otherOwns, _⟩ := books.owned check checkMem
      have older := store.requestsDrawn other otherMem
      rw [otherOwns, owns, drawn] at older
      exact absurd older (Nat.lt_irrefl _)
  one := books.one
  expiring owner ownerMem isSome := by
    rcases RequestStore.mem_insertRequest.mp ownerMem with old | rfl
    · exact books.expiring owner old isSome
    · rw [expiresAt] at isSome
      cases isSome

theorem RequestBooks.execute (books : RequestBooks store) {record : StructuredRequest}
    {exec : TicketExecution}
    {keeps : ∀ record : StructuredRequest, ({ record with executedCheckId := some check.id } :
        StructuredRequest).id = record.id}
    (mem : record ∈ store.requests) (checkMem : check ∈ store.checks)
    (requestId : check.requestId = record.id)
    (revision : check.revision = record.revision)
    (unmarked : record.executedCheckId = none) :
    RequestBooks ((store.modifyRequest record.id
      (fun record => { record with executedCheckId := some check.id })
      keeps).recordExecution check.id exec) := by
  have oldCheck : ∀ new ∈ ((store.modifyRequest record.id
      (fun record => { record with executedCheckId := some check.id })
      keeps).recordExecution check.id exec).checks,
        (new.requestId = record.id ∧ new.revision = record.revision ∧
          new = { check with execution := some exec }) ∨
        (new ∈ store.checks ∧ new.id ≠ check.id) := by
    intro new newMem
    rcases RequestStore.mem_recordExecution.mp newMem with
      ⟨old, oldMem, named, rfl⟩ | kept
    · have sameCheck : old = check :=
        Table.eq_of_key_eq oldMem checkMem named
      rw [sameCheck]
      exact Or.inl ⟨requestId, revision, rfl⟩
    · exact Or.inr kept
  have oldRecord : ∀ new ∈ (store.modifyRequest record.id
      (fun record => { record with executedCheckId := some check.id })
      keeps).requests, (∃ old ∈ store.requests, old.id = record.id ∧
          { old with executedCheckId := some check.id } = new) ∨
        (new ∈ store.requests ∧ new.id ≠ record.id) :=
    fun new newMem => RequestStore.mem_modifyRequest.mp newMem
  -- Before, no check of this revision was executed.
  have fresh : ∀ other ∈ store.checks, other.requestId = record.id →
      other.revision = record.revision → other.execution = none :=
    books.unexecuted record mem unmarked
  constructor
  · intro new newMem
    have kept : ∃ owner ∈ store.requests, owner.id = new.requestId ∧
        new.revision ≤ owner.revision := by
      rcases oldCheck new newMem with ⟨owns, isRevision, _⟩ | ⟨old, _⟩
      · exact ⟨record, mem, owns.symm, Nat.le_of_eq isRevision⟩
      · exact books.owned new old
    obtain ⟨owner, ownerMem, owns, bounded⟩ := kept
    by_cases named : owner.id = record.id
    · have modified : ({ owner with executedCheckId := some check.id } :
          StructuredRequest) ∈ (store.modifyRequest record.id
            (fun record => { record with executedCheckId := some check.id })
            keeps).requests :=
        RequestStore.mem_modifyRequest.mpr (Or.inl ⟨owner, ownerMem, named, rfl⟩)
      exact ⟨_, modified, owns, bounded⟩
    · have kept : owner ∈ (store.modifyRequest record.id
            (fun record => { record with executedCheckId := some check.id })
            keeps).requests :=
        RequestStore.mem_modifyRequest.mpr (Or.inr ⟨ownerMem, named⟩)
      exact ⟨owner, kept, owns, bounded⟩
  · intro owner ownerMem ownerUnmarked new newMem owns isRevision
    rcases oldRecord owner ownerMem with
      ⟨old, _, _, rfl⟩ | ⟨kept, apart⟩
    · cases ownerUnmarked
    · rcases oldCheck new newMem with ⟨isRecord, _, _⟩ | ⟨old, _⟩
      · exact absurd (owns.symm.trans isRecord) apart
      · exact books.unexecuted owner kept ownerUnmarked new old owns isRevision
  · intro left leftMem right rightMem leftExecuted rightExecuted sameRequest sameRevision
    rcases oldCheck left leftMem with
      ⟨leftOwns, leftRevision, leftEq⟩ | ⟨leftOld, _⟩
    · rcases oldCheck right rightMem with
        ⟨_, _, rightEq⟩ | ⟨rightOld, _⟩
      · rw [leftEq, rightEq]
      · rw [fresh right rightOld (sameRequest.symm.trans leftOwns)
          (sameRevision.symm.trans leftRevision)] at rightExecuted
        cases rightExecuted
    · rcases oldCheck right rightMem with
        ⟨rightOwns, rightRevision, _⟩ | ⟨rightOld, _⟩
      · rw [fresh left leftOld (sameRequest.trans rightOwns)
          (sameRevision.trans rightRevision)] at leftExecuted
        cases leftExecuted
      · exact books.one left leftOld right rightOld leftExecuted rightExecuted
          sameRequest sameRevision
  · intro owner ownerMem isSome
    rcases oldRecord owner ownerMem with
      ⟨old, oldMem, _, rfl⟩ | ⟨kept, _⟩
    · exact books.expiring old oldMem isSome
    · exact books.expiring owner kept isSome

theorem verdict_allowed {record : StructuredRequest} {proposal toolHash : String} {now : Time}
    (noReasons : verdictReasons env record proposal toolHash now = []) :
    ticketReasons env record.draft proposal = [] ∧
      isConfirmed record = true ∧ isExpired record now = false ∧ record.executedCheckId = none := by
  simp only [verdictReasons, List.append_eq_nil_iff] at noReasons
  obtain ⟨⟨⟨⟨noTicket, confirmed⟩, unexpired⟩, unexecuted⟩, _⟩ := noReasons
  refine ⟨noTicket, ?_, ?_, ?_⟩
  · by_contra notConfirmed
    rw [Bool.not_eq_true] at notConfirmed
    simp [notConfirmed] at confirmed
  · by_contra expired
    rw [Bool.not_eq_false] at expired
    simp [expired] at unexpired
  · by_contra executed
    rw [← ne_eq, Option.ne_none_iff_isSome] at executed
    simp [executed] at unexecuted

theorem RequestBooks.next (books : RequestBooks sys.store)
    (taken : stepsOf (RequestSystem.next env) sys call after) :
    RequestBooks after.store := by
  cases (requestChange_of_step taken).1 with
  | same store =>
    rw [store]
    exact books
  | created expiresAt store =>
    rw [store]
    exact books.insertRequest expiresAt
  | saved store =>
    rw [store]
    exact books.modifyRequest (laterRecord_saved _ _)
  | confirmed _ _ store =>
    rw [store]
    exact books.modifyRequest (laterRecord_confirmed _ _)
  | revoked store =>
    rw [store]
    exact books.modifyRequest laterRecord_revoked
  | checked mem requestId revision unexecuted store =>
    rw [store]
    exact books.insertCheck mem requestId revision unexecuted
  | executed mem checkMem requestId _ revision _ noReasons _ _ store =>
    rw [store]
    exact books.execute mem checkMem requestId revision (verdict_allowed noReasons).2.2.2

end Books

/-- Where a check is executed, its request is confirmed for its revision and hash, unexpired and
unexecuted, and the arguments are those of the stored proposal. -/
def ExecutableAt (env : RequestEnvironment ContractContent) (store : RequestStore) (now : Time)
    (check : StructuredRequestCheck) (arguments : Json) : Prop :=
  ∃ record ∈ store.requests, record.id = check.requestId ∧ record.revision = check.revision ∧
    record.contractHash = check.contractHash ∧ record.status = .confirmed ∧
    (∃ confirmation, record.confirmation = some confirmation ∧
      confirmation.contractHash = check.contractHash ∧
      confirmation.revision = check.revision) ∧
    (∃ expiresAt, record.expiresAt = some expiresAt ∧ now < expiresAt) ∧
    record.executedCheckId = none ∧
    proposalArguments env check.proposal = some arguments ∧
    SatisfiesDraft record.draft arguments

section Verdicts

variable {env : RequestEnvironment ContractContent}
  {sys after : RequestSystem} {call : RequestCall} {store : RequestStore}
  {record : StructuredRequest} {now : Time}

theorem confirmation_of_isConfirmed (confirmed : isConfirmed record = true) :
    record.status = .confirmed ∧ ∃ confirmation, record.confirmation = some confirmation ∧
        confirmation.contractHash = record.contractHash ∧
        confirmation.revision = record.revision := by
  rw [isConfirmed, Bool.and_eq_true, decide_eq_true_eq, Option.any_eq_true] at confirmed
  obtain ⟨isStatus, confirmation, present, matching⟩ := confirmed
  rw [Bool.and_eq_true, decide_eq_true_eq, decide_eq_true_eq] at matching
  exact ⟨isStatus, confirmation, present, matching⟩

theorem expiresAt_of_not_isExpired (unexpired : isExpired record now = false) :
    ∃ expiresAt, record.expiresAt = some expiresAt ∧ now < expiresAt := by
  rw [isExpired, Option.all_eq_false] at unexpired
  obtain ⟨expiresAt, present, later⟩ := unexpired
  exact ⟨expiresAt, present, Int.not_le.mp (of_decide_eq_false later)⟩

theorem executableAt_of_noReasons
    {toolHash : String} {ticket : String × Json} (mem : record ∈ store.requests)
    (requestId : check.requestId = record.id)
    (revision : check.revision = record.revision)
    (contractHash : check.contractHash = record.contractHash)
    (noReasons : verdictReasons env record check.proposal toolHash now = [])
    (compiled : (compileBoundedToolCall env check.proposal).normalizedOutput = some ticket) :
    ExecutableAt env store now check ticket.2 := by
  obtain ⟨noTicketReasons, confirmed, unexpired, unexecuted⟩ :=
    verdict_allowed noReasons
  obtain ⟨isStatus, confirmation, present, sameHash, sameRevision⟩ :=
    confirmation_of_isConfirmed confirmed
  obtain ⟨allowed, isCall, satisfied⟩ :=
    satisfiesDraft_of_noReasons env noTicketReasons
  have sameCall : allowed = ticket :=
    Option.some.inj (isCall.symm.trans compiled)
  rw [sameCall] at satisfied
  exact ⟨record, mem, requestId.symm, revision.symm, contractHash.symm,
    isStatus, ⟨confirmation, present, sameHash.trans contractHash.symm,
      sameRevision.trans revision.symm⟩,
    expiresAt_of_not_isExpired unexpired, unexecuted,
    compiled_arguments env compiled, satisfied⟩

/-- Where a check of a later state comes from. -/
inductive CheckOrigin (env : RequestEnvironment ContractContent)
    (before : RequestStore) (now : Time) (check : StructuredRequestCheck) :
    Prop
  | kept (mem : check ∈ before.checks)
  | added (unexecuted : check.execution = none)
  | executed {old : StructuredRequestCheck} {exec : TicketExecution}
      (mem : old ∈ before.checks) (unexecuted : old.execution = none)
      (executed : check = { old with execution := some exec })
      (executable : ExecutableAt env before now old
        exec.step.arguments)

theorem checkOrigin_of_step (taken : stepsOf (RequestSystem.next env) sys call after)
    (mem : check ∈ after.store.checks) :
    CheckOrigin env sys.store call.now check := by
  cases (requestChange_of_step taken).1 with
  | same store =>
    rw [store] at mem
    exact .kept mem
  | created _ store =>
    rw [store] at mem
    exact .kept mem
  | saved store =>
    rw [store] at mem
    exact .kept mem
  | confirmed _ _ store =>
    rw [store] at mem
    exact .kept mem
  | revoked store =>
    rw [store] at mem
    exact .kept mem
  | checked _ _ _ unexecuted store =>
    rw [store] at mem
    rcases RequestStore.mem_insertCheck.mp mem with old | rfl
    · exact .kept old
    · exact .added unexecuted
  | executed recordMem checkMem requestId unexecuted revision contractHash
      noReasons compiled step store =>
      rw [store] at mem
      rcases RequestStore.mem_recordExecution.mp mem with
        ⟨old, oldMem, named, rfl⟩ | ⟨kept, _⟩
      · have sameCheck := Table.eq_of_key_eq oldMem checkMem named
        rw [sameCheck]
        refine .executed checkMem unexecuted rfl ?_
        rw [step, executeTicket_arguments]
        exact executableAt_of_noReasons recordMem requestId revision contractHash noReasons compiled
      · exact .kept kept

theorem check_kept_or_executed (taken : stepsOf (RequestSystem.next env) sys call after)
    (mem : check ∈ sys.store.checks) :
    check ∈ after.store.checks ∨ check.execution = none ∧ ∃ arguments,
        ExecutableAt env sys.store call.now check arguments := by
  cases (requestChange_of_step taken).1 with
  | same store =>
    rw [store]
    exact Or.inl mem
  | created _ store =>
    rw [store]
    exact Or.inl mem
  | saved store =>
    rw [store]
    exact Or.inl mem
  | confirmed _ _ store =>
    rw [store]
    exact Or.inl mem
  | revoked store =>
    rw [store]
    exact Or.inl mem
  | checked _ _ _ _ store =>
    rw [store]
    exact Or.inl (RequestStore.mem_insertCheck.mpr (Or.inl mem))
  | @executed record other toolHash ticket exec keeps recordMem
      checkMem requestId unexecuted revision contractHash noReasons compiled
      _ store =>
      by_cases named : check.id = other.id
      · have sameCheck := Table.eq_of_key_eq mem checkMem named
        rw [sameCheck]
        exact Or.inr ⟨unexecuted, ticket.2, executableAt_of_noReasons
          recordMem requestId revision contractHash noReasons compiled⟩
      · rw [store]
        exact Or.inl (RequestStore.mem_recordExecution.mpr (Or.inr ⟨mem, named⟩))

end Verdicts

end ModelAtlas.Requests
