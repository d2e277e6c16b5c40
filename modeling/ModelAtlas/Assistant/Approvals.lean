import ModelAtlas.Assistant.Changes

/-!
# Calls, reviews and statuses

What a step makes of the phase of a call, of a review, and of the status of a
proposal.
-/

namespace ModelAtlas.Assistant

open Foundations

variable {finish store : Store} {row : Proposal} {call : Nat} {proposalId : String}

/-! ## Phases -/

inductive PhaseChange (env : AssistantEnvironment) (world : World)
    (label : Label) (after : World) (call : Nat) : Prop
  | same (phase : after.phase call = world.phase call)
  | ends (phase : after.phase call = .idle)
  | reads {binding : ReviewBinding} {planHash : String} {row : Review}
      {proposalId : String}
      (step : label.step = .approveReview call binding planHash)
      (bound : boundReview env world.store binding = .ok row)
      (proposal : row.proposalId = some proposalId)
      (store : after.store = world.store)
      (phase : after.phase call = .approving (some row) proposalId
        (row.approvalToken.getD "") planHash)
  | direct {proposalId token planHash : String}
      (phase : after.phase call = .approving none proposalId token planHash)
  | starts {origin : Option Review} {proposalId token planHash : String}
      {row : Proposal}
      (approving : world.phase call =
        .approving origin proposalId token planHash)
      (free : world.executor = none)
      (started : approve env world.store proposalId token planHash
        label.now = .started row after.store)
      (executor : after.executor = some call)
      (phase : after.phase call = .executing origin row planHash)
  | links {origin : Option Review} {row : Proposal} {planHash : String}
      {change : FileChange}
      (executing : world.phase call = .executing origin row planHash)
      (proposals : after.store.proposals = world.store.proposals)
      (executor : after.executor = world.executor)
      (phase : after.phase call = .linked origin row change)
  | unlinks {origin : Option Review} {row : Proposal} {change : FileChange}
      (linked : world.phase call = .linked origin row change)
      (proposals : after.store.proposals = world.store.proposals)
      (executor : after.executor = world.executor)
      (phase : after.phase call = .moved origin row change)
  | cancels {proposalId token : String}
      (phase : after.phase call = .cancelling proposalId token)
  | restores {row : Review} (phase : after.phase call = .restoring row)
  | undoes {row : Review} {draw : Draw}
      (step : label.step = .undo call draw)
      (restoring : world.phase call = .restoring row)
      (done : prepareUndo env world.store row.proposalId draw
        label.now = .ok after.store)
      (phase : after.phase call = .restored row draw)
  | recovers {proposalId : String} (free : world.executor = none)
      (executor : after.executor = some call)
      (phase : after.phase call = .recovering proposalId)

section Phases

variable {env : AssistantEnvironment} {world after : World}
  {label : Label}

theorem phase_setPhase_own (world : World) (call : Nat) (phase : CallPhase) :
    (world.setPhase call phase).phase call = phase :=
  Function.update_self ..

theorem phase_setPhase_other (world : World) {other : Nat}
    (phase : CallPhase) (apart : other ≠ call) :
    (world.setPhase call phase).phase other = world.phase other :=
  Function.update_of_ne apart ..

theorem PhaseChange.of_setPhase {middle : World} {own : Nat} {phase : CallPhase}
    (taken : some (middle.setPhase own phase) = some after) (phases : middle.phase = world.phase)
    (change : after = middle.setPhase own phase → after.phase own = phase →
      PhaseChange env world label after own) :
    PhaseChange env world label after call := by
  have stepped := (Option.some.inj taken).symm
  by_cases same : call = own
  · subst same
    refine change stepped ?_
    rw [stepped]
    exact phase_setPhase_own middle call phase
  · refine .same ?_
    rw [stepped, phase_setPhase_other middle phase same, phases]

theorem PhaseChange.of_endCall {middle : World} {own : Nat}
    (taken : some (middle.endCall own) = some after)
    (phases : middle.phase = world.phase) :
    PhaseChange env world label after call := by
  have stepped := (Option.some.inj taken).symm
  by_cases same : call = own
  · subst same
    refine .ends ?_
    rw [stepped]
    exact Function.update_self ..
  · refine .same ?_
    rw [stepped, ← phases]
    exact Function.update_of_ne same ..

theorem PhaseChange.of_same (taken : some world = some after) :
    PhaseChange env world label after call := by
  rw [← Option.some.inj taken]
  exact .same rfl

theorem phase_transact {res : Except AssistantError Store}
    (taken : world.transact res = some after) :
    after.phase = world.phase ∧ after.executor = world.executor := by
  rcases transact_cases taken with rfl | ⟨store, _, rfl⟩
  · exact ⟨rfl, rfl⟩
  · exact ⟨rfl, rfl⟩

theorem PhaseChange.of_finish {own : Nat} {res : Except AssistantError Store}
    (taken : world.finish own res = some after) :
    PhaseChange env world label after call := by
  rcases finish_cases taken with same | ⟨store, _, same⟩
  · exact .of_endCall (congrArg some same.symm) (by rfl)
  · exact .of_endCall (congrArg some same.symm) (by rfl)

theorem phaseChange_of_step (taken : stepsOf (World.next env) world label after) (call : Nat) :
    PhaseChange env world label after call := by
  obtain ⟨step, now⟩ := label
  rw [stepsOf, World.next] at taken
  cases step with
  | create | prepare | save | confirm =>
    exact .same (congrFun (phase_transact taken).1 call)
  | approveReview own binding planHash =>
    simp only at taken
    split at taken
    · exact .of_same taken
    · next row _ bound =>
        split at taken
        · next proposal =>
            exact .of_setPhase taken (by rfl) (fun same phase =>
              .reads rfl bound proposal (by rw [same]; rfl) phase)
        · exact .of_same taken
    · cases taken
  | approveProposal own proposalId token planHash =>
    simp only at taken
    split at taken
    · exact .of_setPhase taken (by rfl) (fun _ phase => .direct phase)
    · cases taken
  | approve own =>
    simp only at taken
    split at taken
    · next approving =>
        split at taken
        · exact .of_endCall taken (by rfl)
        · next free =>
            split at taken
            · cases taken
            · split at taken
              · exact .of_endCall taken (by rfl)
              · exact .of_endCall taken (by rfl)
              · exact .of_endCall taken (by rfl)
              · exact .of_endCall taken (by rfl)
              · next started =>
                  refine .of_setPhase taken (by rfl) (fun same phase =>
                    .starts approving (Option.not_isSome_iff_eq_none.mp free)
                      ?_ (by rw [same]; rfl) phase)
                  rw [congrArg World.store same]
                  exact started
    · cases taken
  | link own =>
    simp only at taken
    split at taken
    · next executing =>
        split at taken
        · cases taken
        · split at taken
          · exact .of_endCall taken (by rfl)
          · exact .of_endCall taken (by rfl)
          · exact .of_setPhase taken (by rfl) (fun same phase =>
              .links executing (by rw [same]; rfl) (by rw [same]; rfl) phase)
    · cases taken
  | unlink own =>
    simp only at taken
    split at taken
    · next linked =>
        exact .of_setPhase taken (by rfl) (fun same phase =>
          .unlinks linked (by rw [same]; rfl) (by rw [same]; rfl) phase)
    · cases taken
  | unlinkFails own =>
    simp only at taken
    split at taken
    · exact .of_endCall taken (by rfl)
    · cases taken
  | record own =>
    simp only at taken
    split at taken
    · exact .of_endCall taken (by rfl)
    · cases taken
  | cancelReview own binding =>
    simp only at taken
    split at taken
    · exact .of_same taken
    · split at taken
      · exact .of_setPhase taken (by rfl) (fun _ phase => .cancels phase)
      · exact .of_same taken
    · cases taken
  | cancelProposal own proposalId token =>
    simp only at taken
    split at taken
    · exact .of_setPhase taken (by rfl) (fun _ phase => .cancels phase)
    · cases taken
  | cancel own =>
    simp only at taken
    split at taken
    · exact .of_finish taken
    · cases taken
  | restore own binding =>
    simp only at taken
    split at taken
    · exact .of_same taken
    · split at taken
      · exact .of_same taken
      · exact .of_setPhase taken (by rfl) (fun _ phase => .restores phase)
    · cases taken
  | undo own draw =>
    simp only at taken
    split at taken
    · next restoring =>
        split at taken
        · cases taken
        · split at taken
          · exact .of_endCall taken (by rfl)
          · next done =>
              refine .of_setPhase taken (by rfl) (fun same phase =>
                .undoes rfl restoring ?_ phase)
              rw [congrArg World.store same]
              exact done
    · cases taken
  | storeRestore own restoreId =>
    simp only at taken
    split at taken
    · exact .of_finish taken
    · cases taken
  | recover own binding =>
    simp only at taken
    split at taken
    · split at taken
      · exact .of_same taken
      · next free =>
          split at taken
          · cases taken
          · split at taken
            · exact .of_same taken
            · rw [← Option.some.inj taken]
              exact .same rfl
            · rw [← Option.some.inj taken]
              exact .same rfl
            · exact .of_setPhase taken (by rfl) (fun same phase =>
                .recovers (Option.not_isSome_iff_eq_none.mp free) (by rw [same]; rfl) phase)
    · cases taken
  | recordRecovery own =>
    simp only at taken
    split at taken
    · exact .of_endCall taken (by rfl)
    · cases taken
  | crash own =>
    exact .of_endCall taken (by rfl)

end Phases

inductive ReviewChange (env : AssistantEnvironment) (world : World)
    (label : Label) (after : World) (row : Review) : Prop
  | kept (mem : row ∈ world.store.reviews)
  | unbound (proposal : row.proposalId = none)
  | confirmed {binding : ReviewBinding} {draw : Draw} {stored : Review}
      {state : WorkspaceState} {action : Action}
      (step : label.step = .confirm binding draw)
      (bound : boundReview env world.store binding = .ok stored)
      (derived : confirmedAction env world.store stored =
        .ok (state, action))
      (isRow : row = confirmedReview draw stored)
      (noParent : row.parentId = none)
      (previewed : previewRow env draw action state label.now ∈
        after.store.proposals)
  | restored {call : Nat} {restoreId : String} {parent : Review} {draw : Draw}
      (phase : world.phase call = .restored parent draw)
      (proposals : after.store.proposals = world.store.proposals)
      (isRow : row = restoreReview restoreId draw parent)

section Reviews

variable {env : AssistantEnvironment} {world after : World}
  {label : Label}

theorem reviews_failedApproval
    {raised : AssistantError} (done : failedApproval store proposalId raised = .ended finish) :
    finish.reviews = store.reviews := by
  cases raised with
  | guard reason =>
    rw [← Approval.ended.inj done]
    rfl
  | raised exception =>
    cases done

theorem reviews_approve {token planHash : String} {now : Time} :
    (∀ finish, approve env store proposalId token planHash now =
      .ended finish → finish.reviews = store.reviews) ∧
    (∀ row finish, approve env store proposalId token planHash now =
      .executed row finish → finish.reviews = store.reviews) ∧
    ∀ row finish, approve env store proposalId token planHash now =
      .started row finish → finish.reviews = store.reviews := by
  refine ⟨?_, ?_, ?_⟩
  · intro finish done
    unfold approve at done
    repeat' split at done
    all_goals first
      | (rw [← Approval.ended.inj done]; rfl)
      | exact reviews_failedApproval done
      | cases done
  · intro row finish done
    obtain ⟨_, _, _, _, _, _, _, middle, _, _, _, executed, recorded⟩ :=
      approve_executed done
    rw [recorded]
    exact (executeRow_cases executed).2.1
  · intro row finish done
    unfold approve at done
    repeat' split at done
    all_goals first
      | (rw [← (Approval.started.inj done).2]; rfl)
      | exact absurd done (failedApproval_ne_started _ _ _ _ _)
      | cases done

theorem reviews_supersede (store : Store) (proposal : Option Proposal) :
    (supersede store proposal).reviews = store.reviews := by
  cases proposal with
  | none => rfl
  | some row => rfl

theorem reviewChange_of_step (taken : stepsOf (World.next env) world label after)
    {row : Review} (mem : row ∈ after.store.reviews) :
    ReviewChange env world label after row := by
  obtain ⟨step, now⟩ := label
  rw [stepsOf, World.next] at taken
  have same : after.store.reviews = world.store.reviews →
      ReviewChange env world ⟨step, now⟩ after row :=
    fun reviews => .kept (reviews ▸ mem)
  cases step with
  | create reviewId req raw initial =>
    rcases transact_cases taken with rfl | ⟨store, done, rfl⟩
    · exact .kept mem
    · rw [createReview] at done
      split at done
      · rw [← Except.ok.inj done] at mem
        rcases List.mem_append.mp mem with old | added
        · exact .kept old
        · rw [List.mem_singleton.mp added]
          exact .unbound rfl
      · cases done
  | prepare confirmedFields rawPlan draw =>
    rcases transact_cases taken with rfl | ⟨store, done, rfl⟩
    · exact .kept mem
    · obtain ⟨_, _, _, _, _, _, previewed⟩ := prepare_ok done
      exact same (preview_ok previewed).2.2.1
  | save binding fields =>
    rcases transact_cases taken with rfl | ⟨store, done, rfl⟩
    · exact .kept mem
    · rw [save] at done
      split at done
      · cases done
      · split at done
        · cases done
        · next stored _ =>
            split at done
            · cases done
            · rw [← Except.ok.inj done] at mem
              have modified : row ∈ (supersede world.store
                  (proposalOf world.store stored)).reviews.modify stored.id
                    (savedReview fields) (fun _ => rfl) := mem
              rw [reviews_supersede] at modified
              rcases Table.mem_modify.mp modified with
                ⟨_, _, _, rfl⟩ | ⟨old, _⟩
              · exact .unbound rfl
              · exact .kept old
  | confirm binding draw =>
    rcases transact_cases taken with rfl | ⟨store, done, rfl⟩
    · exact .kept mem
    · obtain ⟨stored, action, state, previewed, bound, noParent, _, derived,
        isPreviewed, rfl⟩ := confirm_ok done
      obtain ⟨_, _, reviews, _, members, _⟩ := preview_ok isPreviewed
      have modified : row ∈ previewed.reviews.modify stored.id
          (confirmedReview draw) (fun _ => rfl) := mem
      rcases Table.mem_modify.mp modified with
        ⟨old, oldMem, named, rfl⟩ | ⟨old, _⟩
      · rw [reviews, reviews_supersede] at oldMem
        have sameRow : old = stored :=
          Table.eq_of_key_eq oldMem (boundReview_ok bound).1 named
        subst sameRow
        exact .confirmed rfl bound derived rfl noParent ((members _).mpr (Or.inr rfl))
      · rw [reviews, reviews_supersede] at old
        exact .kept old
  | approve call =>
    refine same ?_
    simp only at taken
    repeat' split at taken
    all_goals cases taken
    · rfl
    · rfl
    · rfl
    · next done => exact reviews_approve.1 _ done
    · next done => exact reviews_approve.2.1 _ _ done
    · next done => exact reviews_approve.2.2 _ _ done
  | link call =>
    refine same ?_
    simp only at taken
    repeat' split at taken
    all_goals cases taken
    · rfl
    · next done =>
        unfold approveFile at done
        repeat' split at done
        all_goals first
          | (rw [← FileApproval.ended.inj done]; rfl)
          | cases done
    · rfl
  | cancel call =>
    refine same ?_
    simp only at taken
    split at taken
    · rcases finish_cases taken with rfl | ⟨store, done, rfl⟩
      · rfl
      · rw [cancel] at done
        repeat' split at done
        all_goals first
          | (rw [← Except.ok.inj done]; rfl)
          | cases done
    · cases taken
  | undo call draw =>
    refine same ?_
    simp only at taken
    repeat' split at taken
    all_goals cases taken
    · rfl
    · next done =>
        obtain ⟨_, _, _, _, previewed⟩ := prepareUndo_ok done
        exact (preview_ok previewed).2.2.1
  | storeRestore call restoreId =>
    simp only at taken
    split at taken
    · next parent draw phase =>
        rcases finish_cases taken with rfl | ⟨store, done, rfl⟩
        · exact .kept mem
        · rw [storeRestore] at done
          split at done
          · split at done
            · cases done
            · rw [← Except.ok.inj done] at mem ⊢
              rcases List.mem_append.mp mem with old | added
              · exact .kept old
              · exact .restored phase rfl (List.mem_singleton.mp added)
          · cases done
    · cases taken
  | approveReview | approveProposal | unlink | unlinkFails | record
  | cancelReview | cancelProposal | restore | recover | recordRecovery
  | crash =>
    refine same ?_
    simp only at taken
    repeat' split at taken
    all_goals first
      | exact (congrArg (fun world => world.store.reviews) (Option.some.inj taken)).symm
      | cases taken

end Reviews

def CallPhase.executing? : CallPhase → Option Proposal
  | .executing _ row _ | .linked _ row _ | .moved _ row _ => some row
  | .idle | .approving .. | .cancelling .. | .restoring _ | .restored ..
  | .recovering _ => none

inductive StatusChange (world after : World) (old : Proposal)
    (status : ProposalStatus) : Prop
  | same (same : status = old.status)
  | superseded (editable : ∀ completed,
        old.status = completed → completed ∈ [ProposalStatus.executed,
          .executing, .failed] → False)
      (isStatus : status = .superseded)
  | decided (pending : old.status = .pending)
  | ended {call : Nat} {row : Proposal}
      (executing : (world.phase call).executing? = some row)
      (named : row.id = old.id) (idle : after.phase call = .idle)
  | recovered (free : world.executor = none)
      (interrupted : old.status = .executing ∨ old.status = .failed)
  | rolledBack {call : Nat} (phase : world.phase call = .recovering old.id)
      (isStatus : status = .cancelled)

section Statuses

variable {env : AssistantEnvironment} {world after : World}
  {label : Label} {old new : Proposal}

theorem status_modify {proposals : Table Proposal}
    (change : Proposal → Proposal) (keeps : ∀ row, (change row).id = row.id)
    {status : ProposalStatus} (changes : ∀ row, (change row).status = status)
    (mem : old ∈ proposals)
    (newMem : new ∈ proposals.modify proposalId change keeps)
    (named : new.id = old.id) :
    new.status = old.status ∨ (old.id = proposalId ∧ new.status = status) := by
  rcases Table.mem_modify.mp newMem with
    ⟨row, rowMem, isNamed, rfl⟩ | ⟨kept, _⟩
  · right
    refine ⟨?_, changes row⟩
    rw [← named, keeps]
    exact isNamed
  · left
    rw [Table.eq_of_key_eq kept mem named]

theorem status_setStatus {status : ProposalStatus}
    (mem : old ∈ store.proposals) (newMem : new ∈ (store.setStatus proposalId status).proposals)
    (named : new.id = old.id) :
    new.status = old.status ∨ (old.id = proposalId ∧ new.status = status) :=
  status_modify (fun row => { row with status := status }) (fun _ => rfl)
    (fun _ => rfl) mem newMem named

theorem status_recordReceipt {receipt : Receipt} (mem : old ∈ store.proposals)
    (newMem : new ∈ (store.recordReceipt receipt).proposals) (named : new.id = old.id) :
    new.status = old.status ∨ (old.id = receipt.proposalId ∧ new.status = .executed) :=
  status_modify (fun row => { row with status := .executed, receipt := some receipt })
    (fun _ => rfl) (fun _ => rfl) mem newMem named

theorem StatusChange.of_eq (proposals : after.store.proposals =
      world.store.proposals) (mem : old ∈ world.store.proposals)
    (newMem : new ∈ after.store.proposals) (named : new.id = old.id) :
    StatusChange world after old new.status := by
  rw [proposals] at newMem
  rw [Table.eq_of_key_eq newMem mem named]
  exact .same rfl

theorem StatusChange.of_supersede {proposal : Option Proposal}
    (editable : isCompleted proposal = false)
    (found : ∀ row, proposal = some row → row ∈ store.proposals) (mem : old ∈ store.proposals)
    (newMem : new ∈ (supersede store proposal).proposals) (named : new.id = old.id) :
    StatusChange world after old new.status := by
  cases proposal with
  | none =>
    rw [Table.eq_of_key_eq newMem mem named]
    exact .same rfl
  | some row =>
    rcases status_setStatus mem newMem named with
      same | ⟨isRow, isStatus⟩
    · exact .same same
    · have sameRow : old = row :=
        Table.eq_of_key_eq mem (found row rfl) isRow
      refine .superseded ?_ isStatus
      intro completed status isIn
      have isOpen := editable
      rw [isCompleted, Option.any_some, ← sameRow, status, List.contains_iff_mem.mpr isIn] at isOpen
      cases isOpen

theorem proposalOf_mem {review : Review} (found : proposalOf store review = some row) :
    row ∈ store.proposals ∧ review.proposalId = some row.id := by
  obtain ⟨proposalId, isId, foundRow⟩ := Option.bind_eq_some_iff.mp found
  obtain ⟨mem, named⟩ := Table.find?_eq_some_iff.mp foundRow
  exact ⟨mem, isId.trans (congrArg some named.symm)⟩

theorem status_preview {draw : Draw} {action : Action} {state : WorkspaceState} {now : Time}
    (done : preview env store draw action state now = .ok finish) (mem : old ∈ store.proposals)
    (newMem : new ∈ finish.proposals) (named : new.id = old.id) : new ∈ store.proposals := by
  obtain ⟨_, _, _, _, members, fresh⟩ := preview_ok done
  rcases (members new).mp newMem with kept | rfl
  · exact kept
  · exact absurd named.symm (fresh old mem)

inductive Decided (store : Store) (row : Proposal) : Approval → Prop
  | ended (status : ProposalStatus) :
      Decided store row (.ended (store.setStatus row.id status))
  | executed (middle : Store) (effect : Effect)
      (proposals : middle.proposals = store.proposals) :
      Decided store row (.executed row
        (middle.recordReceipt (executedReceipt row.id effect)))
  | started (isFileTool : row.action.isFileTool = true) :
      Decided store row (.started row (store.setStatus row.id .executing))

theorem approve_cases (env : AssistantEnvironment) (store : Store)
    (proposalId token planHash : String) (now : Time) :
    (∃ raised, approve env store proposalId token planHash now = .rejected raised) ∨
    (∃ receipt, approve env store proposalId token planHash now = .replayed receipt) ∨
    ∃ row ∈ store.proposals, row.id = proposalId ∧ row.status = .pending ∧
      env.actionDigest row.action = planHash ∧ Decided store row
          (approve env store proposalId token planHash now) := by
  rw [approve]
  split
  · exact Or.inl ⟨_, rfl⟩
  · next row found =>
      obtain ⟨mem, rfl⟩ := authorized_ok found
      split
      · exact Or.inl ⟨_, rfl⟩
      · next digest =>
          split
          · split
            · exact Or.inl ⟨_, rfl⟩
            · exact Or.inr (Or.inl ⟨_, rfl⟩)
          · split
            · exact Or.inl ⟨_, rfl⟩
            · next pending =>
                have decided : ∀ {res : Approval}, Decided store row res →
                      ∃ found ∈ store.proposals, found.id = row.id ∧ found.status = .pending ∧
                          env.actionDigest found.action = planHash ∧ Decided store found res :=
                  fun decided => ⟨row, mem, rfl,
                    Decidable.not_not.mp pending, Decidable.not_not.mp digest,
                    decided⟩
                split
                · exact Or.inl ⟨_, rfl⟩
                · exact Or.inr (Or.inr (decided (.ended .stale)))
                · split
                  · next isFileTool =>
                      exact Or.inr (Or.inr (decided (.started isFileTool)))
                  · split
                    · next raised _ =>
                        cases raised with
                        | guard reason =>
                          exact Or.inr (Or.inr (decided (.ended .failed)))
                        | raised exception =>
                          exact Or.inl ⟨_, rfl⟩
                    · next middle effect done =>
                        exact Or.inr (Or.inr (decided (.executed middle effect
                          (executeRow_cases done).1)))

theorem Decided.status {res : Approval} (decided : Decided store row res)
    (pending : row.status = .pending) (rowMem : row ∈ store.proposals)
    (isFinish : res = .ended finish ∨ (∃ found, res = .executed found finish) ∨
        ∃ found, res = .started found finish)
    (mem : old ∈ store.proposals) (newMem : new ∈ finish.proposals)
    (named : new.id = old.id) :
    new.status = old.status ∨ old.status = .pending := by
  have ofRow : old.id = row.id → old.status = .pending := fun same => by
    rw [Table.eq_of_key_eq mem rowMem same]
    exact pending
  cases decided with
  | ended status =>
    rcases isFinish with same | ⟨_, same⟩ | ⟨_, same⟩
    · rw [← Approval.ended.inj same] at newMem
      exact (status_setStatus mem newMem named).imp_right (fun isRow => ofRow isRow.1)
    · cases same
    · cases same
  | executed middle effect proposals =>
    rcases isFinish with same | ⟨_, same⟩ | ⟨_, same⟩
    · cases same
    · rw [← (Approval.executed.inj same).2] at newMem
      rw [← proposals] at mem
      exact (status_recordReceipt mem newMem named).imp_right (fun isRow => ofRow isRow.1)
    · cases same
  | started isFileTool =>
    rcases isFinish with same | ⟨_, same⟩ | ⟨_, same⟩
    · cases same
    · cases same
    · rw [← (Approval.started.inj same).2] at newMem
      exact (status_setStatus mem newMem named).imp_right (fun isRow => ofRow isRow.1)

theorem StatusChange.of_approve {token planHash : String} {now : Time}
    (isFinish : approve env world.store proposalId token planHash now = .ended finish ∨
      (∃ found, approve env world.store proposalId token planHash now = .executed found finish) ∨
      ∃ found, approve env world.store proposalId token planHash now = .started found finish)
    (mem : old ∈ world.store.proposals) (newMem : new ∈ finish.proposals)
    (named : new.id = old.id) :
    StatusChange world after old new.status := by
  rcases approve_cases env world.store proposalId token planHash now with
    ⟨_, rejected⟩ | ⟨_, replayed⟩ | ⟨row, rowMem, _, pending, _, decided⟩
  · rw [rejected] at isFinish
    rcases isFinish with same | ⟨_, same⟩ | ⟨_, same⟩ <;> cases same
  · rw [replayed] at isFinish
    rcases isFinish with same | ⟨_, same⟩ | ⟨_, same⟩ <;> cases same
  · rcases decided.status pending rowMem isFinish mem newMem named with
      same | isPending
    · exact .same same
    · exact .decided isPending

theorem StatusChange.of_ends {status : ProposalStatus}
    (executing : (world.phase call).executing? = some row) (idle : after.phase call = .idle)
    (changed : new.status = old.status ∨ (old.id = row.id ∧ new.status = status)) :
    StatusChange world after old new.status := by
  rcases changed with same | ⟨isRow, _⟩
  · exact .same same
  · exact .ended executing isRow.symm idle

theorem endCall_idle (world : World) (call : Nat) : (world.endCall call).phase call = .idle :=
  Function.update_self ..

theorem recover_ok {binding : ReviewBinding} {found : Recovery}
    (done : recover env store binding = .ok (row, found)) :
    row ∈ store.proposals ∧ (row.status = .executing ∨ row.status = .failed) ∧
        ∀ receipt, found = .completed receipt → receipt.proposalId = row.id := by
  rw [recover] at done
  split at done
  · cases done
  · split at done
    · cases done
    · next stored isStored =>
        split at done
        · cases done
        · next interrupted =>
            split at done
            · cases done
            · split at done
              · cases done
              · next recovery reconciled =>
                  obtain ⟨rfl, rfl⟩ := Prod.mk.inj (Except.ok.inj done)
                  refine ⟨(proposalOf_mem isStored).1, ?_, ?_⟩
                  · rw [Bool.not_eq_true', Bool.not_eq_false, List.contains_iff_mem] at interrupted
                    rcases List.mem_cons.mp interrupted with first | second
                    · exact Or.inl first
                    · exact Or.inr (List.mem_singleton.mp second)
                  · rintro receipt rfl
                    unfold reconcileFile at reconciled
                    repeat' split at reconciled
                    all_goals first
                      | (rw [← Recovery.completed.inj (Except.ok.inj reconciled)])
                      | cases reconciled

theorem statusChange_of_step (taken : stepsOf (World.next env) world label after)
    (mem : old ∈ world.store.proposals)
    (newMem : new ∈ after.store.proposals) (named : new.id = old.id) :
    StatusChange world after old new.status := by
  obtain ⟨step, now⟩ := label
  rw [stepsOf, World.next] at taken
  cases step with
  | create reviewId req raw initial =>
    rcases transact_cases taken with rfl | ⟨store, done, rfl⟩
    · exact .of_eq rfl mem newMem named
    · refine .of_eq ?_ mem newMem named
      rw [createReview] at done
      split at done
      · rw [← Except.ok.inj done]
      · cases done
  | prepare confirmedFields rawPlan draw =>
    rcases transact_cases taken with rfl | ⟨store, done, rfl⟩
    · exact .of_eq rfl mem newMem named
    · obtain ⟨_, _, _, _, _, _, previewed⟩ := prepare_ok done
      have kept := status_preview previewed mem newMem named
      rw [Table.eq_of_key_eq kept mem named]
      exact .same rfl
  | save binding fields =>
    rcases transact_cases taken with rfl | ⟨store, done, rfl⟩
    · exact .of_eq rfl mem newMem named
    · rw [save] at done
      split at done
      · cases done
      · split at done
        · cases done
        · split at done
          · cases done
          · next editable =>
              rw [← Except.ok.inj done] at newMem
              rw [Bool.or_eq_true, not_or, Bool.not_eq_true, Bool.not_eq_true] at editable
              exact .of_supersede editable.2 (fun _ found => (proposalOf_mem found).1) mem newMem
                named
  | confirm binding draw =>
    rcases transact_cases taken with rfl | ⟨store, done, rfl⟩
    · exact .of_eq rfl mem newMem named
    · obtain ⟨stored, action, state, previewed, _, _, editable, _,
        isPreviewed, rfl⟩ := confirm_ok done
      obtain ⟨middle, middleMem, sameMiddle⟩ := (sameProposals_supersede
        world.store (proposalOf world.store stored)).kept old mem
      have kept := status_preview isPreviewed middleMem newMem (named.trans sameMiddle.id.symm)
      exact .of_supersede editable (fun _ found => (proposalOf_mem found).1) mem kept named
  | approve call =>
    simp only at taken
    repeat' split at taken
    all_goals cases taken
    · exact .of_eq rfl mem newMem named
    · exact .of_eq rfl mem newMem named
    · exact .of_eq rfl mem newMem named
    · next done =>
        exact .of_approve (Or.inl done) mem newMem named
    · next done =>
        exact .of_approve (Or.inr (Or.inl ⟨_, done⟩)) mem newMem named
    · next done =>
        exact .of_approve (Or.inr (Or.inr ⟨_, done⟩)) mem newMem named
  | link call =>
    simp only at taken
    split at taken
    · next origin row planHash phase =>
        have executing : (world.phase call).executing? = some row := by
          rw [phase]
          rfl
        split at taken
        · cases taken
        · split at taken
          · cases taken
            exact .of_eq rfl mem newMem named
          · next done =>
              cases taken
              unfold approveFile at done
              repeat' split at done
              all_goals cases done
              · exact .of_ends executing (endCall_idle ..) (status_setStatus mem newMem named)
              · exact .of_ends executing (endCall_idle ..) (status_setStatus mem newMem named)
              · exact .of_ends executing (endCall_idle ..) (status_setStatus mem newMem named)
          · cases taken
            exact .of_eq rfl mem newMem named
    · cases taken
  | unlinkFails call =>
    simp only at taken
    split at taken
    · next origin row change phase =>
        cases taken
        exact .of_ends (by rw [phase]; rfl) (endCall_idle ..) (status_setStatus mem newMem named)
    · cases taken
  | record call =>
    simp only at taken
    split at taken
    · next origin row change phase =>
        cases taken
        exact .of_ends (by rw [phase]; rfl) (endCall_idle ..)
          (status_recordReceipt mem newMem named)
    · cases taken
  | cancel call =>
    simp only at taken
    split at taken
    · rcases finish_cases taken with rfl | ⟨store, done, rfl⟩
      · exact .of_eq rfl mem newMem named
      · rw [cancel] at done
        split at done
        · cases done
        · next row found =>
            split at done
            · cases done
            · next pending =>
                rw [← Except.ok.inj done] at newMem
                obtain ⟨rowMem, isId⟩ := authorized_ok found
                rcases status_setStatus mem newMem named with
                  same | ⟨isRow, _⟩
                · exact .same same
                · have sameRow : old = row := Table.eq_of_key_eq mem rowMem (isRow.trans isId.symm)
                  rw [sameRow]
                  exact .decided (Decidable.not_not.mp pending)
    · cases taken
  | undo call draw =>
    simp only at taken
    repeat' split at taken
    all_goals cases taken
    · exact .of_eq rfl mem newMem named
    · next done =>
        obtain ⟨_, _, _, _, previewed⟩ := prepareUndo_ok done
        have kept := status_preview previewed mem newMem named
        rw [Table.eq_of_key_eq kept mem named]
        exact .same rfl
  | storeRestore call restoreId =>
    simp only at taken
    split at taken
    · rcases finish_cases taken with rfl | ⟨store, done, rfl⟩
      · exact .of_eq rfl mem newMem named
      · refine .of_eq ?_ mem newMem named
        rw [storeRestore] at done
        split at done
        · split at done
          · cases done
          · rw [← Except.ok.inj done]
            rfl
        · cases done
    · cases taken
  | recover call binding =>
    simp only at taken
    split at taken
    · split at taken
      · rw [← Option.some.inj taken] at newMem
        rw [Table.eq_of_key_eq newMem mem named]
        exact .same rfl
      · next free =>
          have noExecutor := Option.not_isSome_iff_eq_none.mp free
          split at taken
          · cases taken
          · split at taken
            · rw [← Option.some.inj taken] at newMem
              rw [Table.eq_of_key_eq newMem mem named]
              exact .same rfl
            · next row done =>
                cases taken
                obtain ⟨rowMem, interrupted, _⟩ := recover_ok done
                rcases status_setStatus mem newMem named with
                  same | ⟨isRow, _⟩
                · exact .same same
                · have sameRow := Table.eq_of_key_eq mem rowMem isRow
                  rw [← sameRow] at interrupted
                  exact .recovered noExecutor interrupted
            · next row receipt done =>
                cases taken
                obtain ⟨rowMem, interrupted, isReceipt⟩ := recover_ok done
                rcases status_recordReceipt mem newMem named with
                  same | ⟨isRow, _⟩
                · exact .same same
                · rw [isReceipt receipt rfl] at isRow
                  have sameRow := Table.eq_of_key_eq mem rowMem isRow
                  rw [← sameRow] at interrupted
                  exact .recovered noExecutor interrupted
            · cases taken
              exact .of_eq rfl mem newMem named
    · cases taken
  | recordRecovery call =>
    simp only at taken
    split at taken
    · next proposalId phase =>
        cases taken
        rcases status_setStatus mem newMem named with
          same | ⟨isRow, isStatus⟩
        · exact .same same
        · exact .rolledBack (by rw [isRow]; exact phase) isStatus
    · cases taken
  | approveReview | approveProposal | unlink | cancelReview | cancelProposal
  | restore | crash =>
    have same : after.store.proposals = world.store.proposals := by
      simp only at taken
      repeat' split at taken
      all_goals first
        | exact (congrArg (fun world => world.store.proposals) (Option.some.inj taken)).symm
        | cases taken
    exact .of_eq same mem newMem named

end Statuses

end ModelAtlas.Assistant
