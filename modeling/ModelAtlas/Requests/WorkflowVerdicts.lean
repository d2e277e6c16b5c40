import ModelAtlas.Requests.RetiredChecks
import ModelAtlas.Requests.Workflows
import ModelAtlas.Foundations.Outcomes

/-!
# Workflow verdicts

An attempt that has ended keeps its row, whose result is what one `finish` made
of the state before it.
-/

namespace ModelAtlas.Requests

open Foundations

variable {actor : SignerIdentity} {now : Time}

namespace AttemptTable

variable {attempts : AttemptTable} {new row : WorkflowAttempt}
  {attemptId : Uuid}

theorem insert_find? : (attempts.insert new).find? =
    Function.update attempts.find? attempts.uuids (some new) := rfl

theorem write_find? : (attempts.write new).find? = Function.update attempts.find? new.id
      ((attempts.find? new.id).map (fun _ => new)) := rfl

theorem find?_insert_of_some (found : attempts.find? attemptId = some row) :
    (attempts.insert new).find? attemptId = some row := by
  have older : attemptId < attempts.uuids :=
    attempts.drawn attemptId (by rw [found, Option.isSome_some])
  have apart : attemptId ≠ attempts.uuids := Nat.ne_of_lt older
  rw [insert_find?, Function.update_of_ne apart, found]

theorem find?_insert (found : (attempts.insert new).find? attemptId = some row) :
    attempts.find? attemptId = some row ∨ (attemptId = attempts.uuids ∧ row = new) := by
  by_cases isNew : attemptId = attempts.uuids
  · rw [insert_find?, isNew, Function.update_self] at found
    exact Or.inr ⟨isNew, (Option.some.inj found).symm⟩
  · rw [insert_find?, Function.update_of_ne isNew] at found
    exact Or.inl found

theorem find?_write_of_ne (apart : attemptId ≠ new.id) :
    (attempts.write new).find? attemptId = attempts.find? attemptId := by
  rw [write_find?, Function.update_of_ne apart]

theorem find?_write (found : (attempts.write new).find? attemptId = some row) :
    (attemptId = new.id ∧ row = new) ∨
      (attemptId ≠ new.id ∧ attempts.find? attemptId = some row) := by
  by_cases isRow : attemptId = new.id
  · rw [write_find?, isRow, Function.update_self, Option.map_eq_some_iff] at found
    obtain ⟨_, _, isNew⟩ := found
    exact Or.inl ⟨isRow, isNew.symm⟩
  · rw [find?_write_of_ne isRow] at found
    exact Or.inr ⟨isRow, found⟩

end AttemptTable

section Changes

variable {env : WorkflowEnvironment} {sys after : WorkflowSystem}
  {call : WorkflowCall}

theorem owned_ok {attemptId : Uuid} {row : WorkflowAttempt}
    (isOwned : owned env sys actor attemptId = .ok row) :
    sys.attempts.find? attemptId = some row ∧ row.ownerKey = env.ownerKey actor := by
  rw [owned] at isOwned
  split at isOwned
  · cases isOwned
  · next found isFound =>
      split at isOwned
      · next sameOwner =>
          rw [Except.ok.inj isOwned] at isFound sameOwner
          exact ⟨isFound, sameOwner⟩
      · cases isOwned

theorem openRow_ok {attemptId : Uuid} {expectedRevision : Nat} {row : WorkflowAttempt}
    (isOpen : openRow env sys actor attemptId expectedRevision = .ok row) :
    sys.attempts.find? attemptId = some row ∧ row.endedAt = none := by
  rw [openRow] at isOpen
  split at isOpen
  · cases isOpen
  · next found isOwned =>
      split at isOpen
      · cases isOpen
      · next notEnded =>
          split at isOpen
          · cases isOpen
          · rw [Except.ok.inj isOpen] at isOwned notEnded
            exact ⟨(owned_ok isOwned).1, Option.not_isSome_iff_eq_none.mp notEnded⟩

def FinishedBy (env : WorkflowEnvironment) (before : WorkflowSystem)
    (call : WorkflowCall) (payload : FinishWorkflow) (row : WorkflowAttempt) :
    Prop :=
  call.step = .finish row.id payload ∧
    ∃ opened request, before.attempts.find? row.id = some opened ∧ opened.endedAt = none ∧
      snapshot env before call.actor opened = .ok request ∧
      row = endedRow env opened payload request call.now

theorem finish_ok {attemptId : Uuid} {payload : FinishWorkflow} {row : WorkflowAttempt}
    {replayed : Bool} (ended : finish env sys actor attemptId payload now = .ok (row, replayed)) :
    (replayed = true ∧ sys.attempts.find? attemptId = some row ∧ row.endedAt.isSome = true ∧
      row.submissionHash = some (env.submissionDigest payload)) ∨
    (replayed = false ∧ ∃ opened request,
      sys.attempts.find? attemptId = some opened ∧ opened.endedAt = none ∧
      snapshot env sys actor opened = .ok request ∧
      request.map env.stateDigest = payload.requestStateHash ∧
      row = endedRow env opened payload request now) := by
  rw [finish] at ended
  split at ended
  · cases ended
  · next opened isOwned =>
      have found := (owned_ok isOwned).1
      split at ended
      · next isEnded =>
          split at ended
          · cases ended
          · next sameSubmission =>
              have isRow := Except.ok.inj ended
              rw [Prod.mk.injEq] at isRow
              rw [isRow.1] at found isEnded sameSubmission
              exact Or.inl ⟨isRow.2.symm, found, isEnded, Decidable.not_not.mp sameSubmission⟩
      · next notEnded =>
          split at ended
          · cases ended
          · split at ended
            · cases ended
            · split at ended
              · cases ended
              · split at ended
                · cases ended
                · next request isSnapshot =>
                    split at ended
                    · cases ended
                    · next sameState =>
                        split at ended
                        · cases ended
                        · have isRow := Except.ok.inj ended
                          rw [Prod.mk.injEq] at isRow
                          exact Or.inr ⟨isRow.2.symm, opened, request, found,
                            Option.not_isSome_iff_eq_none.mp notEnded,
                            isSnapshot, Decidable.not_not.mp sameState,
                            isRow.1.symm⟩

inductive AttemptChange (env : WorkflowEnvironment)
    (sys : WorkflowSystem) (call : WorkflowCall) (after : AttemptTable) :
    Prop
  | same (attempts : after = sys.attempts)
  | started {row : WorkflowAttempt} (drawn : row.id = sys.attempts.uuids)
      (notEnded : row.endedAt = none) (noResult : row.result = none)
      (attempts : after = sys.attempts.insert row)
  | continued {attemptId : Uuid} {old row : WorkflowAttempt}
      (found : sys.attempts.find? attemptId = some old)
      (wasOpen : old.endedAt = none) (sameId : row.id = old.id)
      (notEnded : row.endedAt = none) (sameResult : row.result = old.result)
      (attempts : after = sys.attempts.write row)
  | finished {attemptId : Uuid} {payload : FinishWorkflow}
      {opened : WorkflowAttempt} {request : Option RequestSnapshot}
      (isFinish : call.step = .finish attemptId payload)
      (found : sys.attempts.find? attemptId = some opened)
      (wasOpen : opened.endedAt = none)
      (isSnapshot : snapshot env sys call.actor opened =
        .ok request)
      (attempts : after = sys.attempts.write
        (endedRow env opened payload request call.now))

theorem changes_of_outcome {reached : WorkflowSystem} (done : sys.outcome env call = .ok reached) :
    AttemptChange env sys call reached.attempts ∧
      ∃ requestCall, RequestChange env.toRequestEnvironment
        sys.requests requestCall reached.requests.store := by
  have noCall : ∀ {store : RequestStore}, store = sys.requests.store →
      ∃ requestCall, RequestChange env.toRequestEnvironment sys.requests requestCall store :=
    fun same => ⟨WorkflowSystem.requestCall call (.create ⟨"", "", .omit⟩),
      .same same⟩
  rw [WorkflowSystem.outcome] at done
  cases isStep : call.step with
  | start taskId source =>
    simp only [isStep] at done
    obtain ⟨row, started, rfl⟩ := ok_of_map_ok done
    refine ⟨?_, noCall rfl⟩
    rw [start] at started
    split at started
    · cases started
    · rw [← Except.ok.inj started]
      exact .started rfl rfl rfl rfl
  | createDraft attemptId expectedRevision draft =>
    simp only [isStep] at done
    obtain ⟨linked, created, rfl⟩ := ok_of_map_ok done
    rw [createLinkedDraft] at created
    split at created
    · cases created
    · next row isOpen =>
        obtain ⟨found, wasOpen⟩ := openRow_ok isOpen
        split at created
        · cases created
        · split at created
          · cases created
          · split at created
            · cases created
            · next store isCreated =>
                rw [← Except.ok.inj created]
                refine ⟨.continued found wasOpen ?_ ?_ ?_ rfl,
                  WorkflowSystem.requestCall call (.create draft),
                  requestChange_of_outcome isCreated⟩
                · rfl
                · exact wasOpen
                · rfl
  | recordHelp attemptId expectedRevision =>
    simp only [isStep] at done
    obtain ⟨row, recorded, rfl⟩ := ok_of_map_ok done
    refine ⟨?_, noCall rfl⟩
    rw [recordHelp] at recorded
    split at recorded
    · cases recorded
    · next opened isOpen =>
        obtain ⟨found, wasOpen⟩ := openRow_ok isOpen
        split at recorded
        · cases recorded
        · rw [← Except.ok.inj recorded]
          refine .continued found wasOpen ?_ ?_ ?_ rfl
          · rfl
          · exact wasOpen
          · rfl
  | finish attemptId payload =>
    simp only [isStep] at done
    obtain ⟨⟨row, replayed⟩, ended, rfl⟩ := ok_of_map_ok done
    rcases finish_ok ended with ⟨isReplayed, _⟩ |
      ⟨isReplayed, opened, request, found, wasOpen, isSnapshot, _, isRow⟩
    · rw [isReplayed]
      exact ⟨.same rfl, noCall rfl⟩
    · rw [isReplayed, isRow]
      exact ⟨.finished isStep found wasOpen isSnapshot rfl, noCall rfl⟩
  | request step =>
    simp only [isStep] at done
    obtain ⟨store, called, rfl⟩ := ok_of_map_ok done
    exact ⟨.same rfl, WorkflowSystem.requestCall call step, requestChange_of_outcome called⟩

theorem tables_of_next (taken : stepsOf (WorkflowSystem.next env) sys call after) :
    (∃ reached, sys.outcome env call = .ok reached ∧
      after.attempts = reached.attempts ∧ after.events = reached.events ∧
      after.requests.store = reached.requests.store) ∨
    ((∃ raised, sys.outcome env call = .error raised) ∧
      after.attempts = sys.attempts ∧ after.events = sys.events ∧
      after.requests.store = sys.requests.store) := by
  rw [stepsOf, WorkflowSystem.next] at taken
  split at taken
  · cases taken
  · rw [← Option.some.inj taken]
    cases isOutcome : sys.outcome env call with
    | ok reached => exact Or.inl ⟨reached, rfl, rfl, rfl, rfl⟩
    | error raised => exact Or.inr ⟨⟨raised, rfl⟩, rfl, rfl, rfl⟩

theorem changes_of_next (taken : stepsOf (WorkflowSystem.next env) sys call after) :
    AttemptChange env sys call after.attempts ∧
      ∃ requestCall, RequestChange env.toRequestEnvironment
        sys.requests requestCall after.requests.store := by
  rcases tables_of_next taken with
    ⟨reached, done, attempts, _, store⟩ | ⟨_, attempts, _, store⟩
  · rw [attempts, store]
    exact changes_of_outcome done
  · refine ⟨.same attempts,
      WorkflowSystem.requestCall call (.create ⟨"", "", .omit⟩), ?_⟩
    exact .same store

end Changes

def KeptCheck (old new : StructuredRequestCheck) : Prop :=
  new = old ∨ old.execution = none ∧ ∃ exec, new = { old with execution := some exec }

theorem KeptCheck.trans {first second third : StructuredRequestCheck}
    (earlier : KeptCheck first second) (later : KeptCheck second third) :
    KeptCheck first third := by
  rcases earlier with rfl | ⟨unexecuted, exec, rfl⟩
  · exact later
  · rcases later with rfl | ⟨wasUnexecuted, _⟩
    · exact Or.inr ⟨unexecuted, exec, rfl⟩
    · cases wasUnexecuted

theorem KeptCheck.requestId {old new : StructuredRequestCheck}
    (kept : KeptCheck old new) : new.requestId = old.requestId := by
  rcases kept with rfl | ⟨_, _, rfl⟩
  · rfl
  · rfl

theorem KeptCheck.executed {old new : StructuredRequestCheck} (kept : KeptCheck old new)
    {exec : TicketExecution} (executed : old.execution = some exec) : new = old := by
  rcases kept with same | ⟨unexecuted, _⟩
  · exact same
  · rw [unexecuted] at executed
    cases executed

def ChecksKept (before after : RequestStore) : Prop :=
  ∀ check ∈ before.checks, ∃ kept ∈ after.checks, KeptCheck check kept

section Runs

variable {env : WorkflowEnvironment} {sys after final : WorkflowSystem}
  {call : WorkflowCall} {calls : List WorkflowCall}

theorem checksKept_of_change {requestEnvironment : RequestEnvironment ContractContent}
    {requests : RequestSystem} {requestCall : RequestCall} {store : RequestStore}
    (change : RequestChange requestEnvironment requests requestCall store) :
    ChecksKept requests.store store := by
  intro check mem
  cases change with
  | same isStore =>
    rw [isStore]
    exact ⟨check, mem, Or.inl rfl⟩
  | created _ isStore =>
    rw [isStore]
    exact ⟨check, mem, Or.inl rfl⟩
  | saved isStore =>
    rw [isStore]
    exact ⟨check, mem, Or.inl rfl⟩
  | confirmed _ _ isStore =>
    rw [isStore]
    exact ⟨check, mem, Or.inl rfl⟩
  | revoked isStore =>
    rw [isStore]
    exact ⟨check, mem, Or.inl rfl⟩
  | checked _ _ _ _ isStore =>
    rw [isStore]
    refine ⟨check, ?_, Or.inl rfl⟩
    exact RequestStore.mem_insertCheck.mpr (Or.inl mem)
  | @executed _ other _ _ exec _ _ checkMem _ unexecuted _ _ _ _ _ isStore =>
      rw [isStore]
      by_cases named : check.id = other.id
      · have sameCheck : check = other :=
          Table.eq_of_key_eq mem checkMem named
        refine ⟨{ check with execution := some exec }, ?_, ?_⟩
        · exact RequestStore.mem_recordExecution.mpr (Or.inl ⟨check, mem, named, rfl⟩)
        · rw [← sameCheck] at unexecuted
          exact Or.inr ⟨unexecuted, exec, rfl⟩
      · refine ⟨check, ?_, Or.inl rfl⟩
        exact RequestStore.mem_recordExecution.mpr (Or.inr ⟨mem, named⟩)

theorem checksKept_of_execution (run : Execution (stepsOf (WorkflowSystem.next env)) sys calls
      final) :
    ChecksKept sys.requests.store final.requests.store := by
  induction run with
  | refl => exact fun check mem => ⟨check, mem, Or.inl rfl⟩
  | snoc _ taken earlier =>
    intro check mem
    obtain ⟨kept, keptMem, isKept⟩ := earlier check mem
    obtain ⟨_, change⟩ := (changes_of_next taken).2
    obtain ⟨later, laterMem, isLater⟩ :=
      checksKept_of_change change kept keptMem
    exact ⟨later, laterMem, isKept.trans isLater⟩

def RowsNamed (sys : WorkflowSystem) : Prop :=
  ∀ attemptId row, sys.attempts.find? attemptId = some row →
    row.id = attemptId ∧ (row.result.isSome = true → row.endedAt.isSome = true)

theorem RowsNamed.next (named : RowsNamed sys)
    (taken : stepsOf (WorkflowSystem.next env) sys call after) :
    RowsNamed after := by
  intro attemptId row found
  cases (changes_of_next taken).1 with
  | same attempts =>
    rw [attempts] at found
    exact named attemptId row found
  | started drawn _ noResult attempts =>
    rw [attempts] at found
    rcases AttemptTable.find?_insert found with old | ⟨isNew, rfl⟩
    · exact named attemptId row old
    · refine ⟨drawn.trans isNew.symm, fun present => ?_⟩
      rw [noResult] at present
      cases present
  | continued wasFound wasOpen sameId notEnded sameResult attempts =>
    rw [attempts] at found
    rcases AttemptTable.find?_write found with ⟨isRow, rfl⟩ | ⟨_, old⟩
    · refine ⟨isRow.symm, fun present => ?_⟩
      rw [sameResult] at present
      have ended := (named _ _ wasFound).2 present
      rw [wasOpen] at ended
      cases ended
    · exact named attemptId row old
  | finished _ _ _ _ attempts =>
    rw [attempts] at found
    rcases AttemptTable.find?_write found with ⟨isRow, rfl⟩ | ⟨_, old⟩
    · exact ⟨isRow.symm, fun _ => rfl⟩
    · exact named attemptId row old

theorem rowsNamed_of_execution {clock : Time} (run : Execution (stepsOf (WorkflowSystem.next env))
      (.initial clock) calls sys) : RowsNamed sys := by
  refine Execution.invariant RowsNamed ?_ ?_ run
  · intro attemptId row found
    cases found
  · intro before label after named taken
    exact named.next taken

theorem row_kept_of_ended (named : RowsNamed sys) {attemptId : Uuid} {row : WorkflowAttempt}
    (found : sys.attempts.find? attemptId = some row) (ended : row.endedAt.isSome = true)
    (taken : stepsOf (WorkflowSystem.next env) sys call after) :
    after.attempts.find? attemptId = some row := by
  -- An open row is that of another attempt.
  have apart : ∀ {otherId : Uuid} {other : WorkflowAttempt},
      sys.attempts.find? otherId = some other → other.endedAt = none → attemptId ≠ other.id := by
    intro otherId other otherFound isOpen same
    have otherNamed := (named otherId other otherFound).1
    rw [same, otherNamed, otherFound, Option.some.injEq] at found
    rw [← found, isOpen] at ended
    cases ended
  cases (changes_of_next taken).1 with
  | same attempts =>
    rw [attempts]
    exact found
  | started _ _ _ attempts =>
    rw [attempts]
    exact AttemptTable.find?_insert_of_some found
  | continued wasFound wasOpen sameId _ _ attempts =>
    rw [attempts, AttemptTable.find?_write_of_ne]
    · exact found
    · rw [sameId]
      exact apart wasFound wasOpen
  | finished _ wasFound wasOpen _ attempts =>
    rw [attempts, AttemptTable.find?_write_of_ne]
    · exact found
    · have differs := apart wasFound wasOpen
      exact differs

theorem row_kept_of_execution (named : RowsNamed sys) {attemptId : Uuid} {row : WorkflowAttempt}
    (found : sys.attempts.find? attemptId = some row) (ended : row.endedAt.isSome = true)
    (run : Execution (stepsOf (WorkflowSystem.next env)) sys calls
      final) : final.attempts.find? attemptId = some row := by
  have kept := Execution.invariant
    (fun reached => RowsNamed reached ∧ reached.attempts.find? attemptId = some row)
    ⟨named, found⟩
    (fun before label after earlier taken => ⟨earlier.1.next taken,
      row_kept_of_ended earlier.1 earlier.2 ended taken⟩) run
  exact kept.2

theorem finishedBy_of_execution {clock : Time} (run : Execution (stepsOf (WorkflowSystem.next env))
      (.initial clock) calls sys) :
    ∀ attemptId row, sys.attempts.find? attemptId = some row →
      row.endedAt.isSome = true → ∃ payload,
        Happened (stepsOf (WorkflowSystem.next env)) (.initial clock)
          (fun before call => FinishedBy env before call payload row)
          calls := by
  induction run with
  | refl =>
    intro attemptId row found
    cases found
  | @snoc done before call after reached taken earlier =>
    intro attemptId row found ended
    have kept : before.attempts.find? attemptId = some row →
        ∃ payload, Happened (stepsOf (WorkflowSystem.next env)) (.initial clock)
          (fun before call => FinishedBy env before call payload row)
          (done ++ [call]) := by
      intro old
      obtain ⟨payload, happened⟩ := earlier attemptId row old ended
      exact ⟨payload, happened.later call⟩
    cases (changes_of_next taken).1 with
    | same attempts =>
      rw [attempts] at found
      exact kept found
    | started _ notEnded _ attempts =>
      rw [attempts] at found
      rcases AttemptTable.find?_insert found with old | ⟨_, rfl⟩
      · exact kept old
      · rw [notEnded] at ended
        cases ended
    | continued _ _ _ notEnded _ attempts =>
      rw [attempts] at found
      rcases AttemptTable.find?_write found with ⟨_, rfl⟩ | ⟨_, old⟩
      · rw [notEnded] at ended
        cases ended
      · exact kept old
    | @finished ownId payload opened request isFinish wasFound wasOpen isSnapshot attempts =>
        rw [attempts] at found
        rcases AttemptTable.find?_write found with ⟨_, rfl⟩ | ⟨_, old⟩
        · have openedId : opened.id = ownId :=
            (rowsNamed_of_execution reached ownId opened wasFound).1
          rw [← openedId] at isFinish wasFound
          exact ⟨payload, .now reached taken
            ⟨isFinish, opened, request, wasFound, wasOpen, isSnapshot, rfl⟩⟩
        · exact kept old

end Runs

section Verdicts

variable {row : WorkflowAttempt} {payload : FinishWorkflow}
  {request : Option RequestSnapshot} {endedAt : Time}

theorem no_mismatches (matching : (assess row payload request endedAt).assessment = .matchesTask) :
    workflowMismatches row payload request = [] := by
  by_contra mismatching
  simp only [assess, if_neg mismatching] at matching
  split at matching
  · cases matching
  · cases matching

theorem expected_of_no_mismatches (noMismatches : workflowMismatches row payload request = [])
    {check : StructuredRequestCheck} (mem : check ∈ assessedChecks request)
    {exec : TicketExecution} (executed : check.execution = some exec) :
    row.scenario.expected.decision = .execute ∧
      usesExpectedArguments row.scenario.expected exec = true := by
  have noUnsafe : unsafeExecutionIds request row.scenario.expected = [] := by
    by_contra present
    simp only [workflowMismatches, if_pos present, List.append_eq_nil_iff] at noMismatches
    cases noMismatches.2
  have isExecuted : check ∈ executedChecks request := by
    rw [executedChecks, List.mem_filter, executed]
    exact ⟨mem, rfl⟩
  have safe : isUnsafe row.scenario.expected check = false := by
    rw [unsafeExecutionIds, List.map_eq_nil_iff, List.filter_eq_nil_iff] at noUnsafe
    exact Bool.eq_false_iff.mpr (noUnsafe check isExecuted)
  rw [isUnsafe, Bool.or_eq_false_iff, executed, Option.all_some] at safe
  refine ⟨of_not_not (of_decide_eq_false safe.1), ?_⟩
  simpa using safe.2

theorem succeeded_of_no_mismatches (noMismatches : workflowMismatches row payload request = [])
    (isExecute : row.scenario.expected.decision = .execute) :
    ∃ snapshot check exec, request = some snapshot ∧
      check ∈ snapshot.checks ∧ snapshot.executedCheckId = some check.id ∧
      check.execution = some exec ∧ exec.successful = true := by
  have succeeded : currentSucceeded request = true := by
    by_contra failed
    rw [Bool.not_eq_true] at failed
    simp [workflowMismatches, isExecute, failed] at noMismatches
  rw [currentSucceeded, Option.any_eq_true] at succeeded
  obtain ⟨exec, present, isSuccess⟩ := succeeded
  obtain ⟨check, isCurrent, executed⟩ := Option.bind_eq_some_iff.mp present
  obtain ⟨snapshot, isRequest, isFound⟩ := Option.bind_eq_some_iff.mp isCurrent
  have marked := List.find?_some isFound
  have mem := List.mem_of_find?_eq_some isFound
  rw [executedChecks, List.mem_filter, isRequest] at mem
  exact ⟨snapshot, check, exec, isRequest, mem.1, of_decide_eq_true marked, executed, isSuccess⟩

def DescribesState (state : WorkflowSystem) (row : WorkflowAttempt) (res : WorkflowResult) : Prop :=
  (row.requestId = none → res.requestSnapshot = none) ∧
  ∀ requestId, row.requestId = some requestId →
    ∃ record ∈ state.requests.store.requests, record.id = requestId ∧
      res.requestSnapshot = some (snapshotOf state.requests.store state.events record)

structure AccountsFor (row : WorkflowAttempt) (res : WorkflowResult)
    (store : RequestStore) : Prop where
  present : ∀ requestId, row.requestId = some requestId →
    ∃ snapshot, res.requestSnapshot = some snapshot ∧
      ∀ check ∈ store.checks, check.requestId = requestId →
        ∃ kept ∈ snapshot.checks, KeptCheck check kept
  expected : res.assessment = .matchesTask →
    ∀ requestId, row.requestId = some requestId →
      ∀ check ∈ store.checks, check.requestId = requestId →
        ∀ exec, check.execution = some exec →
          row.scenario.expected.decision = .execute ∧
            usesExpectedArguments row.scenario.expected exec = true

def CurrentSucceeded (row : WorkflowAttempt) (res : WorkflowResult) : Prop :=
  res.assessment = .matchesTask → row.scenario.expected.decision = .execute →
      ∃ snapshot check exec, res.requestSnapshot = some snapshot ∧
        check ∈ snapshot.checks ∧ snapshot.executedCheckId = some check.id ∧
        check.execution = some exec ∧ exec.successful = true

theorem mem_snapshotOf {store : RequestStore} {events : Uuid → List RequestEvent}
    {record : StructuredRequest} {check : StructuredRequestCheck} :
    check ∈ (snapshotOf store events record).checks ↔
      check ∈ store.checks ∧ check.requestId = record.id := by
  simp only [snapshotOf, List.mem_reverse, List.mem_filter, Table.mem_rows, decide_eq_true_eq]

theorem snapshot_ok {env : WorkflowEnvironment} {sys : WorkflowSystem}
    (isSnapshot : snapshot env sys actor row = .ok request) :
    (row.requestId = none → request = none) ∧
    ∀ requestId, row.requestId = some requestId →
      ∃ record ∈ sys.requests.store.requests, record.id = requestId ∧
        request = some (snapshotOf sys.requests.store sys.events record) := by
  rw [snapshot] at isSnapshot
  split at isSnapshot
  · next unlinked =>
      refine ⟨fun _ => (Except.ok.inj isSnapshot).symm, ?_⟩
      intro requestId linked
      rw [unlinked] at linked
      cases linked
  · next ownId linked =>
      split at isSnapshot
      · cases isSnapshot
      · next record isOwned =>
          obtain ⟨mem, isRecord⟩ := getOwned_ok isOwned
          refine ⟨fun unlinked => ?_, ?_⟩
          · rw [linked] at unlinked
            cases unlinked
          · intro requestId isLinked
            have sameId := Option.some.inj (linked.symm.trans isLinked)
            rw [sameId] at isRecord
            exact ⟨record, mem, isRecord, (Except.ok.inj isSnapshot).symm⟩

theorem FinishedBy.result {env : WorkflowEnvironment} {before : WorkflowSystem}
    {call : WorkflowCall} (finished : FinishedBy env before call payload row) :
    ∃ res, row.result = some res ∧ DescribesState before row res ∧ CurrentSucceeded row res ∧
      ∀ earlier labels, Execution (stepsOf (WorkflowSystem.next env))
        earlier labels before → AccountsFor row res earlier.requests.store := by
  obtain ⟨_, opened, request, _, _, isSnapshot, rfl⟩ := finished
  obtain ⟨unlinked, linked⟩ := snapshot_ok isSnapshot
  refine ⟨_, rfl, ⟨unlinked, linked⟩, ?_, ?_⟩
  · intro matching isExecute
    exact succeeded_of_no_mismatches (no_mismatches matching) isExecute
  · intro earlier labels run
    have keptChecks := checksKept_of_execution run
    constructor
    · intro requestId isLinked
      obtain ⟨record, _, isRecord, isRequest⟩ := linked requestId isLinked
      refine ⟨_, isRequest, fun check mem ofRequest => ?_⟩
      obtain ⟨kept, keptMem, isKept⟩ := keptChecks check mem
      refine ⟨kept, mem_snapshotOf.mpr ⟨keptMem, ?_⟩, isKept⟩
      rw [isKept.requestId, ofRequest, isRecord]
    · intro matching requestId isLinked check mem ofRequest exec executed
      obtain ⟨record, _, isRecord, isRequest⟩ := linked requestId isLinked
      obtain ⟨kept, keptMem, isKept⟩ := keptChecks check mem
      rw [isKept.executed executed] at keptMem
      have assessed : check ∈ assessedChecks request := by
        rw [isRequest]
        exact mem_snapshotOf.mpr ⟨keptMem, ofRequest.trans isRecord.symm⟩
      exact expected_of_no_mismatches (no_mismatches matching) assessed executed

end Verdicts

structure WorkflowVerdicts (env : WorkflowEnvironment) (clock : Time)
    (calls : List WorkflowCall) (sys : WorkflowSystem) : Prop where
  /-- What an ended attempt holds is what one `finish` made of the state before it; it stays,
  and the same submission returns it. -/
  accounted : ∀ attemptId row, sys.attempts.find? attemptId = some row →
    row.endedAt.isSome = true ∨ row.result.isSome = true →
      ∃ payload res, row.result = some res ∧
        Happened (stepsOf (WorkflowSystem.next env)) (.initial clock)
          (fun before call => FinishedBy env before call payload row ∧
            DescribesState before row res ∧ CurrentSucceeded row res ∧
            ∀ earlier labels,
              Execution (stepsOf (WorkflowSystem.next env)) earlier
                labels before →
                AccountsFor row res earlier.requests.store) calls ∧
        ∀ rest final,
          Execution (stepsOf (WorkflowSystem.next env)) sys rest
            final →
            final.attempts.find? attemptId = some row ∧
            ∀ actor now, env.ownerKey actor = row.ownerKey →
              finish env final actor attemptId payload now =
                .ok (row, true)
  once : ∀ attemptId row, sys.attempts.find? attemptId = some row →
    row.endedAt.isSome = true →
      ∀ actor payload now written replayed,
        finish env sys actor attemptId payload now =
          .ok (written, replayed) → written = row ∧ replayed = true
  /-- A `finish` for another state of the request raises. -/
  stale : ∀ attemptId row, sys.attempts.find? attemptId = some row →
    row.endedAt = none →
      ∀ actor payload request earlier,
        snapshot env sys actor row = .ok request →
          payload.requestStateHash = earlier.map env.stateDigest →
            (earlier.map env.stateDigest =
              request.map env.stateDigest → earlier = request) →
              earlier ≠ request →
                ∀ now, ∃ raised,
                  finish env sys actor attemptId payload now =
                    .error raised
  raising : ∀ call raised after,
    sys.outcome env call = .error raised →
      stepsOf (WorkflowSystem.next env) sys call after →
        after.attempts = sys.attempts ∧ after.events = sys.events ∧
          after.requests.store = sys.requests.store

section Replays

variable {env : WorkflowEnvironment} {sys : WorkflowSystem}
  {row : WorkflowAttempt} {attemptId : Uuid}

theorem finish_replayed {payload : FinishWorkflow} (found : sys.attempts.find? attemptId = some row)
    (ended : row.endedAt.isSome = true) (sameOwner : env.ownerKey actor = row.ownerKey)
    (submitted : row.submissionHash = some (env.submissionDigest payload)) :
    finish env sys actor attemptId payload now = .ok (row, true) := by
  have isOwned : owned env sys actor attemptId = .ok row := by
    simp only [owned, found, sameOwner, if_true]
  simp only [finish, isOwned, ended, submitted, ne_eq, not_true_eq_false, if_false, if_true]

theorem finish_of_ended (found : sys.attempts.find? attemptId = some row)
    (ended : row.endedAt.isSome = true) {payload : FinishWorkflow} {written : WorkflowAttempt}
    {replayed : Bool} (done : finish env sys actor attemptId payload now =
      .ok (written, replayed)) : written = row ∧ replayed = true := by
  rcases finish_ok done with ⟨isReplayed, isFound, _⟩ | ⟨_, opened, _, isFound, isOpen, _⟩
  · rw [found] at isFound
    exact ⟨(Option.some.inj isFound).symm, isReplayed⟩
  · rw [found] at isFound
    rw [← Option.some.inj isFound] at isOpen
    rw [isOpen] at ended
    cases ended

theorem finish_of_stale (found : sys.attempts.find? attemptId = some row)
    (isOpen : row.endedAt = none) {payload : FinishWorkflow} {request : Option RequestSnapshot}
    (isSnapshot : snapshot env sys actor row = .ok request)
    (differs : request.map env.stateDigest ≠ payload.requestStateHash) (now : Time) :
    ∃ raised, finish env sys actor attemptId payload now = .error raised := by
  cases done : finish env sys actor attemptId payload now with
  | error raised => exact ⟨raised, rfl⟩
  | ok written =>
    rcases finish_ok done with ⟨_, isFound, isEnded, _⟩ |
      ⟨_, opened, current, isFound, _, isCurrent, sameState, _⟩
    · rw [found] at isFound
      rw [← Option.some.inj isFound, isOpen] at isEnded
      cases isEnded
    · rw [found] at isFound
      rw [← Option.some.inj isFound, isSnapshot] at isCurrent
      rw [Except.ok.inj isCurrent] at differs
      exact absurd sameState differs

end Replays

/-- In every run of the calls on attempts and on their requests, a verdict
accounts for every check and execution of its request. -/
theorem workflowVerdicts_of_execution (env : WorkflowEnvironment)
    {clock : Time} {calls : List WorkflowCall} {sys : WorkflowSystem}
    (run : Execution (stepsOf (WorkflowSystem.next env)) (.initial clock) calls sys) :
    WorkflowVerdicts env clock calls sys where
  accounted attemptId row found endedOrResult := by
    have named := rowsNamed_of_execution run
    have ended : row.endedAt.isSome = true := by
      rcases endedOrResult with isEnded | present
      · exact isEnded
      · exact (named attemptId row found).2 present
    obtain ⟨payload, happened⟩ :=
      finishedBy_of_execution run attemptId row found ended
    have finished := happened
    obtain ⟨_, call, _, before, _, _, _, _, isFinish⟩ := finished
    obtain ⟨res, isResult, _⟩ := isFinish.result
    refine ⟨payload, res, isResult, ?_, ?_⟩
    · refine happened.mono (fun state label isKind => ⟨isKind, ?_⟩)
      obtain ⟨own, isOwn, described⟩ := isKind.result
      rw [isResult, Option.some.injEq] at isOwn
      rw [isOwn]
      exact described
    · intro rest final later
      have kept := row_kept_of_execution named found ended later
      refine ⟨kept, fun actor now sameOwner => ?_⟩
      obtain ⟨_, opened, request, _, _, _, isRow⟩ := isFinish
      refine finish_replayed kept ended sameOwner ?_
      rw [isRow]
      rfl
  once attemptId row found ended actor payload now written replayed done :=
    finish_of_ended found ended done
  stale attemptId row found isOpen actor payload request earlier isSnapshot
      submitted distinguished differs now := by
    refine finish_of_stale found isOpen isSnapshot ?_ now
    intro sameDigest
    rw [submitted] at sameDigest
    exact differs (distinguished sameDigest.symm)
  raising call raised after isError taken := by
    rcases tables_of_next taken with ⟨reached, done, _⟩ | ⟨_, unchanged⟩
    · rw [isError] at done
      cases done
    · exact unchanged

def workflowEnvironment : WorkflowEnvironment where
  toRequestEnvironment := ticketEnvironment
  scenarioOf taskId :=
    if taskId = "WF-01" then
      some
        { taskId := "WF-01"
          request := "please reset"
          packVersion := "request-workflow-v1"
          packHash := "pack"
          expected := ⟨.execute, some "reset the password", .omit⟩ }
    else none
  stateDigest snapshot := toString snapshot.events.length
  submissionDigest payload := payload.note
  evidenceDigest evidence := evidence.note

def workflowCalls : List WorkflowCall :=
  let call := fun step now => WorkflowCall.mk step ticketOwner (.ok "tool") now
  [call (.start "WF-01" .participantSelfReport) 10,
    call (.createDraft 0 0 ⟨"please reset", "reset the password", .omit⟩) 20,
    call (.request (.confirm 0 ⟨1, "contract"⟩)) 30,
    call (.request (.addCheck 0 ⟨1, "contract"⟩ "reset")) 40,
    call (.request (.execute 0 1)) 50,
    call (.finish 0 ⟨1, some "5", .finished, .noneReported, none, "done"⟩) 60]

set_option maxRecDepth 8000 in
theorem workflowVerdicts_matching : ∃ sys,
    Execution (stepsOf (WorkflowSystem.next workflowEnvironment)) (.initial 0) workflowCalls sys ∧
    (sys.attempts.find? 0).any (fun row => row.result.any (fun res =>
      res.assessment = .matchesTask)) = true ∧
    WorkflowVerdicts workflowEnvironment 0 workflowCalls sys := by
  have finished : (perform (WorkflowSystem.next workflowEnvironment)
      (.initial 0) workflowCalls).any (fun sys =>
        (sys.attempts.find? 0).any (fun row => row.result.any (fun res =>
          res.assessment = .matchesTask))) = true := by
    decide +kernel
  obtain ⟨sys, performed, isFinished⟩ :=
    (Option.any_eq_true _ _).mp finished
  have run := Execution.of_perform performed
  exact ⟨sys, run, isFinished, workflowVerdicts_of_execution workflowEnvironment run⟩

end ModelAtlas.Requests
