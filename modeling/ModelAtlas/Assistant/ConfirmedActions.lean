import ModelAtlas.Assistant.Approvals
import ModelAtlas.Assistant.Consistency

/-!
# What runs is what was confirmed

An approval of a review executes the action that was compiled from the fields of
the revision it names, or the move that undoes the executed change of its
parent.
-/

namespace ModelAtlas.Assistant

open Foundations

variable {planHash : String} {proposal : Proposal}

/-- With this step, a client approves the plan, and the call reads this
review. -/
def ReadBy (env : AssistantEnvironment) (planHash : String)
    (row : Review) (world : World) (label : Label) : Prop :=
  ∃ call binding, label.step = .approveReview call binding planHash ∧
    boundReview env world.store binding = .ok row

/-- The step confirms the review as this row, and derives the action from its
fields. -/
def ConfirmedAs (env : AssistantEnvironment) (row : Review)
    (action : Action) (world : World) (label : Label) : Prop :=
  ∃ binding draw stored state, label.step = .confirm binding draw ∧
    boundReview env world.store binding = .ok stored ∧
    confirmedAction env world.store stored = .ok (state, action) ∧
    row = confirmedReview draw stored ∧ row.parentId = none

/-- The step previews, for the restore review of this row, the action that
undoes the executed change of its parent. -/
def RestoredAs (row : Review) (action : Action) (world : World) (label : Label) : Prop :=
  ∃ call draw parent restoreId, label.step = .undo call draw ∧
    world.phase call = .restoring parent ∧
    Undoes world.store parent.proposalId action ∧
    row = restoreReview restoreId draw parent

def Derived (env : AssistantEnvironment) (files : Files)
    (labels : List Label) (row : Review) (action : Action) : Prop :=
  Happened (stepsOf (World.next env)) (.initial files) (ConfirmedAs env row action) labels ∨
    Happened (stepsOf (World.next env)) (.initial files) (RestoredAs row action) labels

section Origins

variable {env : AssistantEnvironment} {files : Files}
  {labels : List Label} {row : Review} {action : Action}

theorem Derived.later (derived : Derived env files labels row action) (label : Label) :
    Derived env files (labels ++ [label]) row action :=
  derived.imp (fun happened => happened.later label) (fun happened => happened.later label)

theorem Derived.confirmed (derived : Derived env files labels row action)
    (noParent : row.parentId = none) :
    Happened (stepsOf (World.next env)) (.initial files) (ConfirmedAs env row action) labels := by
  rcases derived with confirmed | ⟨_, _, _, _, _, _, _, _, isRestore⟩
  · exact confirmed
  · obtain ⟨_, _, _, _, _, _, _, rfl⟩ := isRestore
    cases noParent

theorem Derived.restored (derived : Derived env files labels row action)
    (hasParent : row.parentId.isSome = true) :
    Happened (stepsOf (World.next env)) (.initial files) (RestoredAs row action) labels := by
  rcases derived with ⟨_, _, _, _, _, _, _, _, isConfirmed⟩ | restored
  · obtain ⟨_, _, _, _, _, _, _, _, noParent⟩ := isConfirmed
    rw [noParent] at hasParent
    cases hasParent
  · exact restored

end Origins

def CallPhase.locks : CallPhase → Bool
  | .executing .. | .linked .. | .moved .. | .recovering _ => true
  | .idle | .approving .. | .cancelling .. | .restoring _ | .restored .. =>
    false

theorem CallPhase.locks_of_executing {phase : CallPhase} {row : Proposal}
    (executing : phase.executing? = some row) : phase.locks = true := by
  cases phase with
  | executing | linked | moved => rfl
  | idle | approving | cancelling | restoring | restored | recovering =>
    cases executing

/-- A call that executes or recovers has the execution lock, and a proposal
that is being executed has that status. -/
structure LockSound (world : World) : Prop where
  executor : ∀ call, (world.phase call).locks = true →
    world.executor = some call
  status : ∀ call row, (world.phase call).executing? = some row →
    ∃ stored ∈ world.store.proposals, stored.id = row.id ∧
      stored.action = row.action ∧ stored.status = .executing

section Locks

variable {env : AssistantEnvironment} {world after : World}
  {label : Label}

theorem executor_endCall {call own : Nat} (holds : world.executor = some call) :
    (world.endCall own).executor = some call ∨ (world.endCall own).phase call = .idle := by
  by_cases same : call = own
  · subst same
    exact Or.inr (endCall_idle world call)
  · left
    refine (if_neg ?_).trans holds
    rw [holds]
    exact fun isOwn => same (Option.some.inj isOwn)

theorem executor_of_step (taken : stepsOf (World.next env) world label after) {call : Nat}
    (holds : world.executor = some call) :
    after.executor = some call ∨ after.phase call = .idle := by
  obtain ⟨step, now⟩ := label
  rw [stepsOf, World.next] at taken
  have held : world.executor.isSome = true := by
    rw [holds]
    rfl
  cases step with
  | create | prepare | save | confirm =>
    rw [(phase_transact taken).2]
    exact Or.inl holds
  | cancel own =>
    simp only at taken
    split at taken
    · rcases finish_cases taken with rfl | ⟨store, _, rfl⟩
      · exact executor_endCall holds
      · exact executor_endCall holds
    · cases taken
  | storeRestore own restoreId =>
    simp only at taken
    split at taken
    · rcases finish_cases taken with rfl | ⟨store, _, rfl⟩
      · exact executor_endCall holds
      · exact executor_endCall holds
    · cases taken
  | approveReview | approveProposal | approve | link | unlink | unlinkFails
  | record | cancelReview | cancelProposal | restore | undo | recover
  | recordRecovery | crash =>
    simp only [held, if_true] at taken
    repeat' split at taken
    all_goals cases taken
    all_goals first
      | exact Or.inl holds
      | exact executor_endCall holds

theorem mem_setStatus {store : Store} {row : Proposal}
    (mem : row ∈ store.proposals) (status : ProposalStatus) :
    { row with status := status } ∈ (store.setStatus row.id status).proposals := by
  have changed : { row with status := status } ∈ store.proposals.modify row.id
      (fun row => { row with status := status }) (fun _ => rfl) :=
    Table.mem_modify.mpr (Or.inl ⟨row, mem, rfl, rfl⟩)
  exact changed

theorem LockSound.step (sound : LockSound world)
    (taken : stepsOf (World.next env) world label after) :
    LockSound after := by
  -- A call that keeps its phase keeps the lock and the status.
  have executorKept : ∀ call, (world.phase call).locks = true →
      (after.phase call).locks = true → after.executor = some call := by
    intro call locked locks
    rcases executor_of_step taken (sound.executor call locked) with
      holds | idle
    · exact holds
    · rw [idle] at locks
      cases locks
  have statusKept : ∀ call row, (world.phase call).executing? = some row →
      after.phase call ≠ .idle → ∃ stored ∈ after.store.proposals, stored.id = row.id ∧
          stored.action = row.action ∧ stored.status = .executing := by
    intro call row executing notIdle
    obtain ⟨old, mem, named, action, status⟩ :=
      sound.status call row executing
    obtain ⟨new, newMem, same⟩ := proposal_of_step taken mem
    refine ⟨new, newMem, same.id.trans named, same.action.trans action, ?_⟩
    have holds := sound.executor call (CallPhase.locks_of_executing executing)
    cases statusChange_of_step taken mem newMem same.id with
    | same isSame =>
      rw [isSame, status]
    | superseded editable _ =>
      exact absurd (editable .executing status (by decide)) id
    | decided pending =>
      rw [status] at pending
      cases pending
    | @ended other otherRow otherExecuting _ idle =>
      have otherHolds := sound.executor other (CallPhase.locks_of_executing otherExecuting)
      rw [holds] at otherHolds
      rw [Option.some.inj otherHolds] at notIdle
      exact absurd idle notIdle
    | recovered free _ =>
      rw [free] at holds
      cases holds
    | @rolledBack other phase _ =>
      have otherHolds := sound.executor other (by rw [phase]; rfl)
      rw [holds] at otherHolds
      rw [Option.some.inj otherHolds, phase] at executing
      cases executing
  constructor
  · intro call locks
    cases phaseChange_of_step taken call with
    | same phase =>
      exact executorKept call (phase ▸ locks) locks
    | starts _ _ _ executor _ =>
      exact executor
    | links executing _ executor _ =>
      rw [executor]
      exact sound.executor call (by rw [executing]; rfl)
    | unlinks linked _ executor _ =>
      rw [executor]
      exact sound.executor call (by rw [linked]; rfl)
    | recovers _ executor _ =>
      exact executor
    | ends phase | direct phase | cancels phase | restores phase
    | reads _ _ _ _ phase | undoes _ _ _ phase =>
      rw [phase] at locks
      cases locks
  · intro call row executing
    have notIdle : after.phase call ≠ .idle := by
      intro idle
      rw [idle] at executing
      cases executing
    cases phaseChange_of_step taken call with
    | same phase =>
      exact statusKept call row (phase ▸ executing) notIdle
    | @starts origin proposalId token planHash found approving _ started _ phase =>
        rw [phase] at executing
        obtain rfl := Option.some.inj executing
        rcases approve_cases env world.store proposalId token planHash
          label.now with ⟨_, other⟩ | ⟨_, other⟩ | ⟨decidedRow, mem, _, _, _, decided⟩
        · rw [other] at started
          cases started
        · rw [other] at started
          cases started
        · rw [started] at decided
          generalize isAfter : after.store = store at decided
          cases decided with
          | started _ =>
            refine ⟨{ found with status := .executing }, ?_, rfl, rfl, rfl⟩
            exact mem_setStatus mem .executing
    | @links origin found planHash change isExecuting _ _ phase =>
      rw [phase] at executing
      refine statusKept call row ?_ notIdle
      rw [isExecuting]
      exact executing
    | @unlinks origin found change isLinked _ _ phase =>
      rw [phase] at executing
      refine statusKept call row ?_ notIdle
      rw [isLinked]
      exact executing
    | ends phase | direct phase | cancels phase | restores phase
    | reads _ _ _ _ phase | undoes _ _ _ phase | recovers _ _ phase =>
      rw [phase] at executing
      cases executing

end Locks

def HasProposal (env : AssistantEnvironment) (files : Files) (labels : List Label) (world : World)
    (row : Review) (proposalId : String) : Prop :=
  ∃ proposal ∈ world.store.proposals, proposal.id = proposalId ∧
    Derived env files labels row proposal.action

/-- What the reviews and the calls in flight rely on. -/
structure BindingSound (env : AssistantEnvironment) (files : Files)
    (labels : List Label) (world : World) : Prop where
  reviews : ∀ row ∈ world.store.reviews, ∀ proposalId,
    row.proposalId = some proposalId →
      HasProposal env files labels world row proposalId
  approving : ∀ call row proposalId token planHash,
    world.phase call = .approving (some row) proposalId token planHash →
      Happened (stepsOf (World.next env)) (.initial files)
          (ReadBy env planHash row) labels ∧
        HasProposal env files labels world row proposalId
  executing : ∀ call row proposal planHash,
    world.phase call = .executing (some row) proposal planHash →
      Happened (stepsOf (World.next env)) (.initial files)
          (ReadBy env planHash row) labels ∧
        Derived env files labels row proposal.action ∧
          env.actionDigest proposal.action = planHash
  restored : ∀ call row draw, world.phase call = .restored row draw →
    ∃ proposal ∈ world.store.proposals, proposal.id = draw.proposalId ∧
      ∀ restoreId, Derived env files labels
        (restoreReview restoreId draw row) proposal.action

section Bindings

variable {env : AssistantEnvironment} {files : Files}
  {labels : List Label} {world after : World} {label : Label}

theorem HasProposal.later {row : Review} {proposalId : String}
    (has : HasProposal env files labels world row proposalId)
    (taken : stepsOf (World.next env) world label after) :
    HasProposal env files (labels ++ [label]) after row
      proposalId := by
  obtain ⟨proposal, mem, named, derived⟩ := has
  obtain ⟨new, newMem, same⟩ := proposal_of_step taken mem
  refine ⟨new, newMem, same.id.trans named, ?_⟩
  rw [same.action]
  exact derived.later label

theorem approve_row {store : Store} {proposalId token : String}
    {now : Time} {row : Proposal} {finish : Store}
    (done : approve env store proposalId token planHash now = .executed row finish ∨
      approve env store proposalId token planHash now = .started row finish) :
    row ∈ store.proposals ∧ row.id = proposalId ∧ row.status = .pending ∧
      env.actionDigest row.action = planHash := by
  rcases approve_cases env store proposalId token planHash now with
    ⟨_, other⟩ | ⟨_, other⟩ | ⟨found, mem, named, pending, digest, decided⟩
  · rw [other] at done
    rcases done with same | same <;> cases same
  · rw [other] at done
    rcases done with same | same <;> cases same
  · have sameRow : found = row := by
      rcases done with same | same
      · rw [same] at decided
        cases decided with
        | executed => rfl
      · rw [same] at decided
        generalize finish = store' at decided
        cases decided with
        | started => rfl
    rw [← sameRow]
    exact ⟨mem, named, pending, digest⟩

theorem HasProposal.action {row : Review} (has : HasProposal env files labels world row proposal.id)
    (mem : proposal ∈ world.store.proposals) :
    Derived env files labels row proposal.action := by
  obtain ⟨stored, storedMem, named, derived⟩ := has
  rw [← Table.eq_of_key_eq storedMem mem named]
  exact derived

theorem BindingSound.step (sound : BindingSound env files labels world)
    (exec : Execution (stepsOf (World.next env)) (.initial files) labels world)
    (taken : stepsOf (World.next env) world label after) :
    BindingSound env files (labels ++ [label]) after := by
  refine ⟨?_, ?_, ?_, ?_⟩
  · intro row mem proposalId isProposal
    cases reviewChange_of_step taken mem with
    | kept old =>
      exact (sound.reviews row old proposalId isProposal).later taken
    | unbound none =>
      rw [none] at isProposal
      cases isProposal
    | @confirmed binding draw stored state action step bound derived isRow noParent previewed =>
        refine ⟨_, previewed, ?_, Or.inl (Happened.now exec taken
          ⟨binding, draw, stored, state, step, bound, derived, isRow, noParent⟩)⟩
        rw [isRow] at isProposal
        exact Option.some.inj isProposal
    | @restored call restoreId parent draw phase proposals isRow =>
      obtain ⟨proposal, proposalMem, named, derived⟩ :=
        sound.restored call parent draw phase
      rw [isRow] at isProposal ⊢
      refine ⟨proposal, by rw [proposals]; exact proposalMem, ?_, (derived restoreId).later label⟩
      exact named.trans (Option.some.inj isProposal)
  · intro call row proposalId token planHash isPhase
    cases phaseChange_of_step taken call with
    | same phase =>
      rw [phase] at isPhase
      obtain ⟨read, has⟩ :=
        sound.approving call row proposalId token planHash isPhase
      exact ⟨read.later label, has.later taken⟩
    | @reads binding hash stored wanted step bound proposal store phase =>
      rw [phase] at isPhase
      obtain ⟨isRow, rfl, _, rfl⟩ := CallPhase.approving.inj isPhase
      obtain rfl := Option.some.inj isRow
      have has := sound.reviews stored (boundReview_ok bound).1 wanted proposal
      exact ⟨Happened.now exec taken ⟨call, binding, step, bound⟩, has.later taken⟩
    | ends phase | direct phase | starts _ _ _ _ phase | links _ _ _ phase
    | unlinks _ _ _ phase | cancels phase | restores phase
    | undoes _ _ _ phase | recovers _ _ phase =>
      rw [phase] at isPhase
      cases isPhase
  · intro call row proposal planHash isPhase
    cases phaseChange_of_step taken call with
    | same phase =>
      rw [phase] at isPhase
      obtain ⟨read, derived, digest⟩ :=
        sound.executing call row proposal planHash isPhase
      exact ⟨read.later label, derived.later label, digest⟩
    | @starts origin proposalId token hash found approving _ started _ phase =>
      rw [phase] at isPhase
      obtain ⟨rfl, rfl, rfl⟩ := CallPhase.executing.inj isPhase
      obtain ⟨read, has⟩ :=
        sound.approving call row proposalId token hash approving
      obtain ⟨mem, rfl, _, digest⟩ := approve_row (Or.inr started)
      exact ⟨read.later label, (has.action mem).later label, digest⟩
    | ends phase | direct phase | reads _ _ _ _ phase | links _ _ _ phase
    | unlinks _ _ _ phase | cancels phase | restores phase
    | undoes _ _ _ phase | recovers _ _ phase =>
      rw [phase] at isPhase
      cases isPhase
  · intro call row draw isPhase
    cases phaseChange_of_step taken call with
    | same phase =>
      rw [phase] at isPhase
      obtain ⟨proposal, mem, named, derived⟩ :=
        sound.restored call row draw isPhase
      obtain ⟨new, newMem, same⟩ := proposal_of_step taken mem
      refine ⟨new, newMem, same.id.trans named, fun restoreId => ?_⟩
      rw [same.action]
      exact (derived restoreId).later label
    | @undoes parent drawn step restoring done phase =>
      rw [phase] at isPhase
      obtain ⟨rfl, rfl⟩ := CallPhase.restored.inj isPhase
      obtain ⟨action, state, undoes, _, previewed⟩ := prepareUndo_ok done
      obtain ⟨_, _, _, _, members, _⟩ := preview_ok previewed
      refine ⟨_, (members _).mpr (Or.inr rfl), rfl, fun restoreId => ?_⟩
      exact Or.inr (Happened.now exec taken
        ⟨call, drawn, parent, restoreId, step, restoring, undoes, rfl⟩)
    | ends phase | direct phase | reads _ _ _ _ phase | starts _ _ _ _ phase
    | links _ _ _ phase | unlinks _ _ _ phase | cancels phase
    | restores phase | recovers _ _ phase =>
      rw [phase] at isPhase
      cases isPhase

end Bindings

def ProposalStatus.isDropped : ProposalStatus → Bool
  | .cancelled | .superseded | .stale => true
  | .pending | .executing | .executed | .failed => false

section Dropped

variable {env : AssistantEnvironment} {world after : World}
  {label : Label}

theorem dropped_of_step (sound : LockSound world)
    (taken : stepsOf (World.next env) world label after)
    {old new : Proposal} (mem : old ∈ world.store.proposals)
    (newMem : new ∈ after.store.proposals) (named : new.id = old.id)
    (dropped : old.status.isDropped = true) : new.status.isDropped = true := by
  cases statusChange_of_step taken mem newMem named with
  | same isSame =>
    rw [isSame]
    exact dropped
  | superseded _ isStatus | rolledBack _ isStatus =>
    rw [isStatus]
    rfl
  | decided pending =>
    rw [pending] at dropped
    cases dropped
  | @ended call row executing isRow _ =>
    obtain ⟨stored, storedMem, storedId, _, status⟩ :=
      sound.status call row executing
    rw [Table.eq_of_key_eq storedMem mem (storedId.trans isRow)] at status
    rw [status] at dropped
    cases dropped
  | recovered _ interrupted =>
    rcases interrupted with isStatus | isStatus
    · rw [isStatus] at dropped
      cases dropped
    · rw [isStatus] at dropped
      cases dropped

theorem executed_status (sound : LockSound world) {origin : Option Review}
    (executed : world.executed? env label = some (origin, planHash, proposal)) :
    ∃ stored ∈ world.store.proposals, stored.id = proposal.id ∧ stored.action = proposal.action ∧
        (stored.status = .pending ∨ stored.status = .executing) := by
  rw [World.executed?] at executed
  split at executed
  · split at executed
    · split at executed
      · cases executed
      · split at executed
        · next done =>
            obtain ⟨_, _, rfl⟩ := Prod.mk.injEq .. ▸ Option.some.inj executed
            obtain ⟨mem, _, pending, _⟩ := approve_row (Or.inl done)
            exact ⟨_, mem, rfl, rfl, Or.inl pending⟩
        · cases executed
    · cases executed
  · split at executed
    · next origin row planHash phase =>
        split at executed
        · obtain ⟨stored, mem, named, action, status⟩ :=
            sound.status _ row (by rw [phase]; rfl)
          cases executed
          exact ⟨stored, mem, named, action, Or.inr status⟩
        · cases executed
    · cases executed
  · cases executed

end Dropped

/-- The client has named the content of the revision and the digest of its action, which was
compiled from this content or undoes the change of the parent; the proposal is not dropped. -/
structure RunsConfirmed (env : AssistantEnvironment) (files : Files)
    (labels : List Label) (world : World) (row : Review) (planHash : String)
    (proposal : Proposal) : Prop where
  read : Happened (stepsOf (World.next env)) (.initial files)
    (ReadBy env planHash row) labels
  digest : env.actionDigest proposal.action = planHash
  confirmed : row.parentId = none →
    Happened (stepsOf (World.next env)) (.initial files)
      (ConfirmedAs env row proposal.action) labels
  restored : row.parentId.isSome = true →
    Happened (stepsOf (World.next env)) (.initial files)
      (RestoredAs row proposal.action) labels
  status : ∃ stored ∈ world.store.proposals, stored.id = proposal.id ∧
    stored.action = proposal.action ∧
      (stored.status = .pending ∨ stored.status = .executing)

theorem BindingSound.executed {env : AssistantEnvironment} {files : Files} {labels : List Label}
    {world : World} {label : Label} {row : Review} (sound : BindingSound env files labels world)
    (executed : world.executed? env label = some (some row, planHash, proposal)) :
    Happened (stepsOf (World.next env)) (.initial files) (ReadBy env planHash row) labels ∧
      Derived env files labels row proposal.action ∧
        env.actionDigest proposal.action = planHash := by
  rw [World.executed?] at executed
  split at executed
  · split at executed
    · next origin proposalId token hash phase =>
        split at executed
        · cases executed
        · split at executed
          · next done =>
              cases executed
              obtain ⟨read, has⟩ :=
                sound.approving _ row proposalId token planHash phase
              obtain ⟨mem, rfl, _, digest⟩ := approve_row (Or.inl done)
              exact ⟨read, has.action mem, digest⟩
          · cases executed
    · cases executed
  · split at executed
    · next origin found hash phase =>
        split at executed
        · cases executed
          exact sound.executing _ row proposal planHash phase
        · cases executed
    · cases executed
  · cases executed

/-- Whatever `approve_review` executes was confirmed at the revision that it names; a dropped
proposal is never executed. -/
theorem approve_runsConfirmed (env : AssistantEnvironment) (files : Files) {labels : List Label}
    {world : World} (exec : Execution (stepsOf (World.next env)) (.initial files) labels world) :
    (∀ label row planHash proposal,
      world.executed? env label = some (some row, planHash, proposal) →
        RunsConfirmed env files labels world row planHash proposal) ∧
    ∀ dropped ∈ world.store.proposals, dropped.status = .cancelled ∨ dropped.status = .superseded →
        ∀ rest later, Execution (stepsOf (World.next env)) world rest
          later → ∀ label origin planHash proposal, later.executed? env label =
              some (origin, planHash, proposal) → proposal.id ≠ dropped.id := by
  have locks : ∀ {labels : List Label} {world : World},
      Execution (stepsOf (World.next env)) (.initial files) labels world → LockSound world :=
    fun exec => exec.invariant LockSound
      ⟨fun _ locks => (by cases locks), fun _ _ executing => (by cases executing)⟩
      (fun _ _ _ held taken => held.step taken)
  have bindings : BindingSound env files labels world :=
    exec.invariant_of_past (BindingSound env files)
      ⟨fun _ mem => absurd mem (Table.not_mem_empty _), fun _ _ _ _ _ phase => (by cases phase),
        fun _ _ _ _ phase => (by cases phase),
        fun _ _ _ phase => (by cases phase)⟩
      (fun _ _ _ _ past held taken => held.step past taken)
  constructor
  · intro label row planHash proposal executed
    obtain ⟨read, derived, digest⟩ := bindings.executed executed
    exact ⟨read, digest, derived.confirmed, derived.restored, executed_status (locks exec) executed⟩
  · intro dropped mem isDropped rest later continued label origin planHash proposal executed same
    have droppedNow : dropped.status.isDropped = true := by
      rcases isDropped with status | status
      · rw [status]
        rfl
      · rw [status]
        rfl
    obtain ⟨laterLocks, new, newMem, named, stillDropped⟩ :=
      continued.invariant
        (fun later => LockSound later ∧ ∃ new ∈ later.store.proposals,
          new.id = dropped.id ∧ new.status.isDropped = true)
        ⟨locks exec, dropped, mem, rfl, droppedNow⟩
        (fun before label after held taken => by
          obtain ⟨sound, old, oldMem, oldNamed, oldDropped⟩ := held
          obtain ⟨new, newMem, sameRow⟩ := proposal_of_step taken oldMem
          exact ⟨sound.step taken, new, newMem, sameRow.id.trans oldNamed,
            dropped_of_step sound taken oldMem newMem sameRow.id oldDropped⟩)
    obtain ⟨stored, storedMem, storedId, _, status⟩ :=
      executed_status laterLocks executed
    have sameRow : stored = new := Table.eq_of_key_eq storedMem newMem
      (storedId.trans (same.trans named.symm))
    rw [← sameRow] at stillDropped
    rcases status with isStatus | isStatus
    · rw [isStatus] at stillDropped
      cases stillDropped
    · rw [isStatus] at stillDropped
      cases stillDropped

theorem approve_runsConfirmed_meeting :
    ∃ (world : World) (row : Review) (planHash : String) (proposal : Proposal),
      afterAssistantSteps (meetingSteps.take 3) = some world ∧
        world.executed? plainAssistant ⟨.approve 0, 0⟩ = some (some row, planHash, proposal) ∧
        row.parentId = none ∧
        RunsConfirmed plainAssistant ⟨[], []⟩
          ((meetingSteps.take 3).map (fun step => ⟨step, 0⟩)) world row planHash
            proposal := by
  set_option maxRecDepth 8000 in
  have performed : (afterAssistantSteps (meetingSteps.take 3)).any (fun world =>
      (world.executed? plainAssistant ⟨.approve 0, 0⟩).any (fun executed =>
        executed.1.any (fun row => row.parentId.isNone))) = true := by
    decide
  obtain ⟨world, reached, facts⟩ := (Option.any_eq_true _ _).mp performed
  obtain ⟨⟨origin, planHash, proposal⟩, executed, isOrigin⟩ :=
    (Option.any_eq_true _ _).mp facts
  obtain ⟨row, rfl, noParent⟩ := (Option.any_eq_true _ _).mp isOrigin
  exact ⟨world, row, planHash, proposal, reached, executed, Option.isNone_iff_eq_none.mp noParent,
    (approve_runsConfirmed plainAssistant ⟨[], []⟩
      (Execution.of_perform reached)).1 ⟨.approve 0, 0⟩ row planHash proposal executed⟩

/-- Digests that tell the states, actions and contents of the next run
apart. -/
def movingAssistant : AssistantEnvironment :=
  { plainAssistant with
    stateDigest := fun state =>
      String.join (state.files.map (fun file => file.path ++ ";"))
    actionDigest := fun action =>
      match action with
      | .fileMove .. => "move"
      | .fileRestore .. => "restore"
      | _ => "" }

def moveFields : Json := .obj
  [("operation", .str "files.move"), ("source", .str "a"),
    ("destination", .str "b")]

def restoreSteps : List Step :=
  [.create "review" "request" "raw" moveFields,
    .confirm ⟨"review", 1, "reviewi"⟩ ⟨"proposal", "token"⟩,
    .approveReview 0 ⟨"review", 2, "reviewii"⟩ "move", .approve 0, .link 0,
    .unlink 0, .record 0, .restore 0 ⟨"review", 2, "reviewii"⟩,
    .undo 0 ⟨"undo", "token"⟩, .storeRestore 0 "restored",
    .approveReview 0 ⟨"restored", 1, "restoredi"⟩ "restore", .approve 0]

/-- A restore executes an action that no confirm call has compiled. -/
theorem restore_runsUnconfirmed : ¬ ∀ (labels : List Label) (world : World),
      Execution (stepsOf (World.next movingAssistant))
          (.initial ⟨[], [⟨⟨.files, "a"⟩, 0, "content"⟩]⟩) labels world →
        ∀ label row planHash proposal, world.executed? movingAssistant label =
              some (some row, planHash, proposal) →
            Happened (stepsOf (World.next movingAssistant))
              (.initial ⟨[], [⟨⟨.files, "a"⟩, 0, "content"⟩]⟩)
              (ConfirmedAs movingAssistant row proposal.action) labels := by
  intro always
  let labels : List Label := restoreSteps.map (fun step => ⟨step, 0⟩)
  set_option maxRecDepth 16000 in
  have checked : (perform (World.next movingAssistant)
      (.initial ⟨[], [⟨⟨.files, "a"⟩, 0, "content"⟩]⟩) labels).any (fun world =>
        (world.executed? movingAssistant ⟨.link 0, 0⟩).any (fun executed =>
          executed.1.any (fun row => row.parentId.isSome))) = true := by
    decide
  obtain ⟨world, reached, facts⟩ := (Option.any_eq_true _ _).mp checked
  obtain ⟨⟨origin, planHash, proposal⟩, executed, isOrigin⟩ :=
    (Option.any_eq_true _ _).mp facts
  obtain ⟨row, rfl, hasParent⟩ := (Option.any_eq_true _ _).mp isOrigin
  obtain ⟨_, _, _, _, _, _, _, _, _, _, _, _, _, _, _, _, noParent⟩ := always
    labels world (Execution.of_perform reached) ⟨.link 0, 0⟩ row planHash proposal executed
  rw [noParent] at hasParent
  cases hasParent

end ModelAtlas.Assistant
