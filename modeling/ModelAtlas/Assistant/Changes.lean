import ModelAtlas.Assistant.Calls

/-!
# What a step changes

Every step keeps the events, the tasks and the proposals up to their status,
or adds the proposal of a preview, or executes a proposal in the state of its
fingerprint.
-/

namespace ModelAtlas.Assistant

open Foundations

variable {proposalId token : String} {draw : Draw} {action : Action} {state : WorkspaceState}
  {now : Time} {binding : ReviewBinding} {row : Proposal} {res : Except AssistantError Store}

structure SameProposal (old new : Proposal) : Prop where
  id : new.id = old.id
  action : new.action = old.action
  fingerprint : new.fingerprint = old.fingerprint

theorem SameProposal.refl (row : Proposal) : SameProposal row row :=
  ⟨rfl, rfl, rfl⟩

theorem SameProposal.trans {first second third : Proposal}
    (left : SameProposal first second) (right : SameProposal second third) :
    SameProposal first third :=
  ⟨right.id.trans left.id, right.action.trans left.action, right.fingerprint.trans left.fingerprint⟩

structure SameProposals (before after : Store) : Prop where
  old : ∀ new ∈ after.proposals, ∃ row ∈ before.proposals, SameProposal row new
  kept : ∀ row ∈ before.proposals, ∃ new ∈ after.proposals, SameProposal row new

theorem SameProposals.refl (store : Store) : SameProposals store store where
  old row mem := ⟨row, mem, SameProposal.refl row⟩
  kept row mem := ⟨row, mem, SameProposal.refl row⟩

theorem SameProposals.of_eq {before after : Store}
    (same : after.proposals = before.proposals) : SameProposals before after where
  old row mem := ⟨row, same ▸ mem, SameProposal.refl row⟩
  kept row mem := ⟨row, same.symm ▸ mem, SameProposal.refl row⟩

theorem SameProposals.trans {first second third : Store}
    (left : SameProposals first second) (right : SameProposals second third) :
    SameProposals first third where
  old new mem := by
    obtain ⟨middle, middleMem, middleSame⟩ := right.old new mem
    obtain ⟨row, rowMem, rowSame⟩ := left.old middle middleMem
    exact ⟨row, rowMem, rowSame.trans middleSame⟩
  kept row mem := by
    obtain ⟨middle, middleMem, middleSame⟩ := left.kept row mem
    obtain ⟨new, newMem, newSame⟩ := right.kept middle middleMem
    exact ⟨new, newMem, middleSame.trans newSame⟩

theorem sameProposals_modify {before after : Store}
    (change : Proposal → Proposal) (same : ∀ row, SameProposal row (change row))
    (modified : after.proposals = before.proposals.modify proposalId change
      (fun row => (same row).id)) :
    SameProposals before after where
  old new mem := by
    rw [modified] at mem
    rcases Table.mem_modify.mp mem with ⟨row, rowMem, _, rfl⟩ | ⟨kept, _⟩
    · exact ⟨row, rowMem, same row⟩
    · exact ⟨new, kept, SameProposal.refl new⟩
  kept row mem := by
    rw [modified]
    by_cases named : row.id = proposalId
    · exact ⟨change row, Table.mem_modify.mpr (Or.inl ⟨row, mem, named, rfl⟩), same row⟩
    · exact ⟨row, Table.mem_modify.mpr (Or.inr ⟨mem, named⟩), SameProposal.refl row⟩

theorem sameProposals_setStatus (store : Store) (proposalId : String) (status : ProposalStatus) :
    SameProposals store (store.setStatus proposalId status) :=
  sameProposals_modify (fun row => { row with status := status }) (fun _ => ⟨rfl, rfl, rfl⟩) rfl

theorem sameProposals_recordReceipt (store : Store) (receipt : Receipt) :
    SameProposals store (store.recordReceipt receipt) :=
  sameProposals_modify (fun row => { row with status := .executed, receipt := some receipt })
    (fun _ => ⟨rfl, rfl, rfl⟩) rfl

theorem sameProposals_supersede (store : Store) (proposal : Option Proposal) :
    SameProposals store (supersede store proposal) := by
  cases proposal with
  | none => exact SameProposals.refl store
  | some row => exact sameProposals_setStatus store row.id .superseded

/-- The rows of a workspace, the proposals up to their status. -/
structure Kept (before after : Store) : Prop where
  events : after.events = before.events
  tasks : after.tasks = before.tasks
  proposals : SameProposals before after

theorem Kept.refl (store : Store) : Kept store store :=
  ⟨rfl, rfl, SameProposals.refl store⟩

theorem kept_setStatus (store : Store) (proposalId : String)
    (status : ProposalStatus) : Kept store (store.setStatus proposalId status) :=
  ⟨rfl, rfl, sameProposals_setStatus store proposalId status⟩

theorem kept_recordReceipt (store : Store) (receipt : Receipt) :
    Kept store (store.recordReceipt receipt) :=
  ⟨rfl, rfl, sameProposals_recordReceipt store receipt⟩

theorem kept_supersede (store : Store) (proposal : Option Proposal) :
    Kept store (supersede store proposal) := by
  refine ⟨?_, ?_, sameProposals_supersede store proposal⟩
  · cases proposal with
    | none => rfl
    | some row => rfl
  · cases proposal with
    | none => rfl
    | some row => rfl

def Undoes (store : Store) (proposalId : Option String) (action : Action) :
    Prop :=
  ∃ original ∈ store.proposals, proposalId = some original.id ∧
    original.status = .executed ∧ original.action.isUndoable = true ∧
      ∃ change, original.receipt.map Receipt.effect = some (.fileChange change) ∧
        action = .fileRestore change.destination change.destinationArea change.source

inductive Previews (env : AssistantEnvironment) (world : World)
    (label : Label) (draw : Draw) (action : Action) (state : WorkspaceState) :
    Prop
  | prepared {confirmedFields : Json} {rawPlan : String} {intent : Intent}
      (step : label.step = .prepare confirmedFields rawPlan draw)
      (valid : validateIntent confirmedFields = some intent)
      (compiled : compileAction env.toPlanningEnvironment intent state
        world.store.files = .ok action)
  | confirmed {binding : ReviewBinding} {row : Review}
      (step : label.step = .confirm binding draw)
      (bound : boundReview env world.store binding = .ok row)
      (derived : confirmedAction env world.store row =
        .ok (state, action))
  | undone {call : Nat} {row : Review}
      (step : label.step = .undo call draw)
      (phase : world.phase call = .restoring row)
      (undoes : Undoes world.store row.proposalId action)

inductive Change (env : AssistantEnvironment) (world : World)
    (label : Label) (after : Store) : Prop
  | kept (rows : Kept world.store after)
  | previewed {draw : Draw} {action : Action} {state : WorkspaceState}
      (source : Previews env world label draw action state)
      (readState : workspaceState env world.store = .ok state)
      (events : after.events = world.store.events)
      (tasks : after.tasks = world.store.tasks)
      (old : ∀ new ∈ after.proposals,
        (∃ row ∈ world.store.proposals, SameProposal row new) ∨
          new = previewRow env draw action state label.now)
      (kept : ∀ row ∈ world.store.proposals,
        ∃ new ∈ after.proposals, SameProposal row new)
      (added : previewRow env draw action state label.now ∈
        after.proposals)
  | executed {row : Proposal} {state : WorkspaceState} {middle : Store}
      {effect : Effect} (mem : row ∈ world.store.proposals)
      (readState : workspaceState env world.store = .ok state)
      (fingerprint : env.stateDigest state = row.fingerprint)
      (done : executeRow world.store row.id row.action = .ok (middle, effect))
      (recorded : after = middle.recordReceipt (executedReceipt row.id effect))

section Operations

variable {env : AssistantEnvironment} {store after : Store}

theorem preview_ok (done : preview env store draw action state now = .ok after) :
    after.events = store.events ∧ after.tasks = store.tasks ∧ after.reviews = store.reviews ∧
      after.evidence = store.evidence ∧ (∀ new, new ∈ after.proposals ↔ new ∈ store.proposals ∨
        new = previewRow env draw action state now) ∧
      ∀ row ∈ store.proposals, row.id ≠ draw.proposalId := by
  rw [preview] at done
  split at done
  · next fresh =>
      rw [← Except.ok.inj done]
      refine ⟨rfl, rfl, rfl, rfl, fun new => ?_, fresh⟩
      change new ∈ store.proposals.rows ++ [_] ↔ _
      rw [List.mem_append, List.mem_singleton]
      exact Iff.rfl
  · cases done

theorem boundReview_ok {row : Review} (bound : boundReview env store binding = .ok row) :
    row ∈ store.reviews ∧ row.id = binding.reviewId ∧ row.revision = binding.revision ∧
        reviewHash env row = binding.contentHash := by
  rw [boundReview] at bound
  split at bound
  · cases bound
  · next found foundRow =>
      split at bound
      · cases bound
      · next same =>
          rw [Except.ok.inj bound] at foundRow same
          rw [not_or, Decidable.not_not, Decidable.not_not] at same
          obtain ⟨mem, named⟩ := Table.find?_eq_some_iff.mp foundRow
          exact ⟨mem, named, same.1, same.2⟩

theorem authorized_ok (found : authorized env store proposalId token = .ok row) :
    row ∈ store.proposals ∧ row.id = proposalId := by
  rw [authorized] at found
  split at found
  · cases found
  · next stored foundRow =>
      split at found
      · rw [Except.ok.inj found] at foundRow
        exact Table.find?_eq_some_iff.mp foundRow
      · cases found

theorem createReview_ok {reviewId req raw : String} {initial : Json}
    (done : createReview store reviewId req raw initial = .ok after) :
    Kept store after := by
  rw [createReview] at done
  split at done
  · rw [← Except.ok.inj done]
    exact ⟨rfl, rfl, SameProposals.of_eq rfl⟩
  · cases done

theorem save_ok {fields : Json} (done : save env store binding fields = .ok after) :
    Kept store after := by
  rw [save] at done
  split at done
  · cases done
  · split at done
    · cases done
    · split at done
      · cases done
      · next row _ _ =>
          have kept := kept_supersede store (proposalOf store row)
          rw [← Except.ok.inj done]
          exact ⟨kept.events, kept.tasks, kept.proposals.old, kept.proposals.kept⟩

theorem cancel_ok (done : cancel env store proposalId token = .ok after) : Kept store after := by
  rw [cancel] at done
  split at done
  · cases done
  · split at done
    · cases done
    · rw [← Except.ok.inj done]
      exact kept_setStatus ..

theorem storeRestore_ok {restoreId : String} {row : Review}
    (done : storeRestore env store restoreId draw row = .ok after) :
    Kept store after := by
  rw [storeRestore] at done
  split at done
  · split at done
    · cases done
    · rw [← Except.ok.inj done]
      exact ⟨rfl, rfl, SameProposals.of_eq rfl⟩
  · cases done

theorem prepareUndo_change {proposalId : Option String}
    (done : prepareUndo env store proposalId draw now = .ok after) :
    ∃ original ∈ store.proposals, proposalId = some original.id ∧
      original.status = .executed ∧ original.action.isUndoable = true ∧
      ∃ change moved state, original.receipt.map Receipt.effect = some (.fileChange change) ∧
        checkMove store.files change.destination change.source change.destinationArea = .ok moved ∧
        workspaceState env store = .ok state ∧
        preview env store draw (.fileRestore change.destination
          change.destinationArea change.source) state now = .ok after := by
  rw [prepareUndo] at done
  split at done
  · cases done
  · next original found =>
      obtain ⟨wanted, rfl, foundRow⟩ := Option.bind_eq_some_iff.mp found
      obtain ⟨mem, named⟩ := Table.find?_eq_some_iff.mp foundRow
      split at done
      · cases done
      · next isExecuted =>
          split at done
          · cases done
          · next undoable =>
              rw [Bool.not_eq_true', Bool.not_eq_false] at undoable
              split at done
              · next change effect =>
                  split at done
                  · cases done
                  · next checked =>
                      split at done
                      · cases done
                      · split at done
                        · cases done
                        · next state readState =>
                            exact ⟨original, mem, congrArg some named.symm,
                              Decidable.not_not.mp isExecuted, undoable,
                              change, _, state, effect, checked, readState,
                              done⟩
              · cases done

theorem prepareUndo_ok {proposalId : Option String}
    (done : prepareUndo env store proposalId draw now = .ok after) :
    ∃ action state, Undoes store proposalId action ∧ workspaceState env store = .ok state ∧
        preview env store draw action state now = .ok after := by
  obtain ⟨original, mem, named, isExecuted, undoable, change, _, state,
    effect, -, readState, previewed⟩ := prepareUndo_change done
  exact ⟨_, state, ⟨original, mem, named, isExecuted, undoable, change,
    effect, rfl⟩, readState, previewed⟩

theorem prepare_ok {confirmedFields : Json} {rawPlan : String}
    (done : prepare env store confirmedFields rawPlan draw now = .ok after) :
    ∃ intent action state, validateIntent confirmedFields = some intent ∧
      workspaceState env store = .ok state ∧
      compileAction env.toPlanningEnvironment intent state store.files = .ok action ∧
      preview env store draw action state now = .ok after := by
  rw [prepare] at done
  split at done
  · cases done
  · next intent valid =>
      split at done
      · cases done
      · next state readState =>
          split at done
          · cases done
          · next action compiled =>
              split at done
              · cases done
              · exact ⟨intent, action, state, valid, readState, compiled, done⟩

theorem confirmedAction_ok {row : Review}
    (derived : confirmedAction env store row = .ok (state, action)) :
    ∃ intent, validateIntent row.fields = some intent ∧ workspaceState env store = .ok state ∧
      compileAction env.toPlanningEnvironment intent state store.files = .ok action := by
  rw [confirmedAction] at derived
  split at derived
  · cases derived
  · next intent valid =>
      split at derived
      · cases derived
      · next readState isRead =>
          split at derived
          · cases derived
          · next compiledAction compiled =>
              obtain ⟨rfl, rfl⟩ := Prod.mk.inj (Except.ok.inj derived)
              exact ⟨intent, valid, isRead, compiled⟩

theorem confirm_ok (done : confirm env store binding draw now = .ok after) :
    ∃ row action state previewed, boundReview env store binding = .ok row ∧ row.parentId = none ∧
      isCompleted (proposalOf store row) = false ∧
      confirmedAction env store row = .ok (state, action) ∧
      preview env (supersede store (proposalOf store row)) draw action state now = .ok previewed ∧
      after = { previewed with
        reviews := previewed.reviews.modify row.id (confirmedReview draw) (fun _ => rfl)
        evidence := previewed.evidence ++ [⟨row.id, state.files⟩] } := by
  rw [confirm] at done
  split at done
  · cases done
  · next row bound =>
      split at done
      · cases done
      · next noParent =>
          split at done
          · cases done
          · next open_ =>
              split at done
              · cases done
              · next state action derived =>
                  split at done
                  · cases done
                  · next previewed isPreviewed =>
                      refine ⟨row, action, state, previewed, bound, ?_, ?_,
                        derived, isPreviewed, (Except.ok.inj done).symm⟩
                      · exact Option.not_isSome_iff_eq_none.mp noParent
                      · exact Bool.not_eq_true _ ▸ open_

theorem kept_failedApproval {raised : AssistantError}
    (done : failedApproval store proposalId raised = .ended after) :
    Kept store after := by
  cases raised with
  | guard reason =>
    rw [← Approval.ended.inj done]
    exact kept_setStatus ..
  | raised exception =>
    cases done

theorem failedApproval_ne_started (store : Store) (proposalId : String)
    (raised : AssistantError) (row : Proposal) (after : Store) :
    failedApproval store proposalId raised ≠ .started row after := by
  cases raised with
  | guard reason => exact fun same => by cases same
  | raised exception => exact fun same => by cases same

theorem isStale_false (fresh : isStale env store row now = .ok false) :
    now ≤ row.expires ∧ ∃ state, workspaceState env store = .ok state ∧
      env.stateDigest state = row.fingerprint := by
  rw [isStale] at fresh
  split at fresh
  · cases fresh
  · next notExpired =>
      split at fresh
      · cases fresh
      · next state readState =>
          refine ⟨Int.not_lt.mp notExpired, state, readState, ?_⟩
          have same := of_decide_eq_false (Except.ok.inj fresh)
          exact Decidable.not_not.mp same

theorem approve_executed {planHash : String}
    (done : approve env store proposalId token planHash now = .executed row after) :
    row ∈ store.proposals ∧ row.id = proposalId ∧ row.status = .pending ∧
      env.actionDigest row.action = planHash ∧ row.action.isFileTool = false ∧ now ≤ row.expires ∧
      ∃ state middle effect, workspaceState env store = .ok state ∧
        env.stateDigest state = row.fingerprint ∧
        executeRow store row.id row.action = .ok (middle, effect) ∧
        after = middle.recordReceipt (executedReceipt row.id effect) := by
  rw [approve] at done
  split at done
  · cases done
  · next found isFound =>
      obtain ⟨mem, named⟩ := authorized_ok isFound
      split at done
      · cases done
      · next digest =>
          split at done
          · split at done
            · cases done
            · cases done
          · split at done
            · cases done
            · next isPending =>
                split at done
                · cases done
                · cases done
                · next fresh =>
                    split at done
                    · cases done
                    · next rowTool =>
                        split at done
                        · next raised _ =>
                            cases raised with
                            | guard => cases done
                            | raised => cases done
                        · next middle effect executed =>
                            obtain ⟨rfl, rfl⟩ := Approval.executed.inj done
                            obtain ⟨notExpired, state, readState, same⟩ :=
                              isStale_false fresh
                            rw [named] at *
                            refine ⟨mem, rfl, Decidable.not_not.mp isPending,
                              Decidable.not_not.mp digest, ?_, notExpired,
                              state, middle, effect, readState, same, executed,
                              rfl⟩
                            exact Bool.not_eq_true _ ▸ rowTool

theorem executeRow_cases {store middle : Store} {effect : Effect}
    (done : executeRow store proposalId action = .ok (middle, effect)) :
    middle.proposals = store.proposals ∧ middle.reviews = store.reviews ∧
      ((∃ title startAt endAt, action = .calendarCreate title startAt endAt ∧
        middle.tasks = store.tasks ∧ ∀ event, event ∈ middle.events ↔
          event ∈ store.events ∨ event = ⟨proposalId, title, startAt, endAt⟩) ∨
      (∃ title dueAt priority, action = .todoCreate title dueAt priority ∧
        middle.events = store.events ∧ ∀ task, task ∈ middle.tasks ↔ task ∈ store.tasks ∨
            task = ⟨proposalId, title, .open, dueAt, priority⟩) ∨
      ∃ taskId, action = .todoComplete taskId ∧
        middle.events = store.events ∧ ∀ task, task ∈ middle.tasks ↔
          (∃ old ∈ store.tasks, old.taskId = taskId ∧
            { old with status := .complete } = task) ∨
          (task ∈ store.tasks ∧ task.taskId ≠ taskId)) := by
  cases action with
  | calendarCreate title startAt endAt =>
    simp only [executeRow] at done
    split at done
    · rw [← (Prod.mk.inj (Except.ok.inj done)).1]
      refine ⟨rfl, rfl, Or.inl ⟨title, startAt, endAt, rfl, rfl, fun event => ?_⟩⟩
      change event ∈ store.events.rows ++ [_] ↔ _
      rw [List.mem_append, List.mem_singleton]
      exact Iff.rfl
    · cases done
  | todoCreate title dueAt priority =>
    simp only [executeRow] at done
    split at done
    · rw [← (Prod.mk.inj (Except.ok.inj done)).1]
      refine ⟨rfl, rfl, Or.inr (Or.inl ⟨title, dueAt, priority, rfl, rfl, fun task => ?_⟩)⟩
      change task ∈ store.tasks.rows ++ [_] ↔ _
      rw [List.mem_append, List.mem_singleton]
      exact Iff.rfl
    · cases done
  | todoComplete taskId =>
    simp only [executeRow] at done
    split at done
    · cases done
    · rw [← (Prod.mk.inj (Except.ok.inj done)).1]
      refine ⟨rfl, rfl, Or.inr (Or.inr ⟨taskId, rfl, rfl, fun task => ?_⟩)⟩
      change task ∈ store.tasks.modify taskId
        (fun task => { task with status := .complete }) (fun _ => rfl) ↔ _
      rw [Table.mem_modify]
      exact Iff.rfl
  | fileMove | fileTrash | fileRestore =>
    cases done

end Operations

section Steps

variable {env : AssistantEnvironment} {world after : World}
  {label : Label}

theorem transact_cases (taken : world.transact res = some after) :
    after = world ∨ ∃ store, res = .ok store ∧ after = { world with store := store } := by
  unfold World.transact at taken
  split at taken
  · cases taken
  · split at taken
    · exact Or.inl (Option.some.inj taken).symm
    · exact Or.inr ⟨_, rfl, (Option.some.inj taken).symm⟩

theorem finish_cases {call : Nat} (taken : world.finish call res = some after) :
    after = world.endCall call ∨ ∃ store, res = .ok store ∧
        after = { world with store := store }.endCall call := by
  obtain ⟨middle, done, rfl⟩ := Option.map_eq_some_iff.mp taken
  rcases transact_cases done with rfl | ⟨store, ok, rfl⟩
  · exact Or.inl rfl
  · exact Or.inr ⟨store, ok, rfl⟩

theorem Change.of_preview {base store : Store} (source : Previews env world label draw action state)
    (readState : workspaceState env world.store = .ok state) (kept : Kept world.store base)
    (done : preview env base draw action state label.now =
      .ok store) {finish : Store} (events : finish.events = store.events)
    (tasks : finish.tasks = store.tasks)
    (proposals : finish.proposals = store.proposals) :
    Change env world label finish := by
  obtain ⟨sameEvents, sameTasks, _, _, members, _⟩ := preview_ok done
  refine .previewed source readState ?_ ?_ ?_ ?_ ?_
  · rw [events, sameEvents, kept.events]
  · rw [tasks, sameTasks, kept.tasks]
  · intro new mem
    rw [proposals, members] at mem
    rcases mem with old | added
    · exact Or.inl (kept.proposals.old new old)
    · exact Or.inr added
  · intro row mem
    obtain ⟨new, newMem, same⟩ := kept.proposals.kept row mem
    exact ⟨new, proposals ▸ (members new).mpr (Or.inl newMem), same⟩
  · rw [proposals]
    exact (members _).mpr (Or.inr rfl)

theorem Change.same (sameStore : after.store = world.store) :
    Change env world label after.store := by
  rw [sameStore]
  exact .kept (Kept.refl world.store)

theorem Change.of_transact (taken : world.transact res = some after)
    (change : ∀ store, res = .ok store → Change env world label store) :
    Change env world label after.store := by
  rcases transact_cases taken with rfl | ⟨store, ok, rfl⟩
  · exact Change.same rfl
  · exact change store ok

theorem Change.of_finish {call : Nat} (taken : world.finish call res = some after)
    (change : ∀ store, res = .ok store → Change env world label store) :
    Change env world label after.store := by
  rcases finish_cases taken with rfl | ⟨store, ok, rfl⟩
  · exact Change.same rfl
  · exact change store ok

theorem Change.of_approve {planHash : String} :
    (∀ store, approve env world.store proposalId token planHash now =
      .ended store → Change env world label store) ∧
    (∀ row store, approve env world.store proposalId token planHash
      now = .executed row store → Change env world label store) ∧
    (∀ row store, approve env world.store proposalId token planHash
      now = .started row store → Change env world label store) := by
  refine ⟨?_, ?_, ?_⟩
  · intro store done
    refine .kept ?_
    unfold approve at done
    repeat' split at done
    all_goals first
      | (rw [← Approval.ended.inj done]; exact kept_setStatus ..)
      | exact kept_failedApproval done
      | cases done
  · intro row store done
    obtain ⟨mem, _, _, _, _, _, state, middle, effect, readState, same,
      executed, recorded⟩ := approve_executed done
    exact .executed mem readState same executed recorded
  · intro row store done
    refine .kept ?_
    unfold approve at done
    repeat' split at done
    all_goals first
      | (rw [← (Approval.started.inj done).2]; exact kept_setStatus ..)
      | exact absurd done (failedApproval_ne_started _ _ _ _ _)
      | cases done

theorem Change.of_approveFile {store : Store}
    (done : approveFile env world.store row = .ended store) :
    Change env world label store := by
  refine .kept ?_
  rw [approveFile] at done
  repeat' split at done
  all_goals first
    | (rw [← FileApproval.ended.inj done]; exact kept_setStatus ..)
    | cases done

theorem change_of_step (taken : stepsOf (World.next env) world label after) :
    Change env world label after.store := by
  obtain ⟨step, now⟩ := label
  rw [stepsOf, World.next] at taken
  cases step with
  | create reviewId req raw initial =>
    exact Change.of_transact taken (fun store done => .kept (createReview_ok done))
  | prepare confirmedFields rawPlan draw =>
    refine Change.of_transact taken (fun store done => ?_)
    obtain ⟨intent, action, state, valid, readState, compiled, previewed⟩ :=
      prepare_ok done
    exact Change.of_preview (.prepared rfl valid compiled) readState
      (Kept.refl world.store) previewed rfl rfl rfl
  | save binding fields =>
    exact Change.of_transact taken (fun store done => .kept (save_ok done))
  | confirm binding draw =>
    refine Change.of_transact taken (fun store done => ?_)
    obtain ⟨row, action, state, previewed, bound, _, _, derived, isPreviewed,
      rfl⟩ := confirm_ok done
    obtain ⟨_, _, readState, _⟩ := confirmedAction_ok derived
    exact Change.of_preview (.confirmed rfl bound derived) readState
      (kept_supersede world.store _) isPreviewed rfl rfl rfl
  | approveReview | approveProposal | cancelReview | cancelProposal
  | restore =>
    refine Change.same ?_
    simp only at taken
    repeat' split at taken
    all_goals first
      | exact (congrArg World.store (Option.some.inj taken)).symm
      | cases taken
  | approve call =>
    simp only at taken
    split at taken
    · split at taken
      · rw [← Option.some.inj taken]
        exact Change.same rfl
      · split at taken
        · cases taken
        · split at taken
          · rw [← Option.some.inj taken]
            exact Change.same rfl
          · rw [← Option.some.inj taken]
            exact Change.same rfl
          · next done =>
              rw [← Option.some.inj taken]
              exact Change.of_approve.1 _ done
          · next done =>
              rw [← Option.some.inj taken]
              exact Change.of_approve.2.1 _ _ done
          · next done =>
              rw [← Option.some.inj taken]
              exact Change.of_approve.2.2 _ _ done
    · cases taken
  | link call =>
    simp only at taken
    split at taken
    · split at taken
      · cases taken
      · split at taken
        · rw [← Option.some.inj taken]
          exact Change.same rfl
        · next done =>
            rw [← Option.some.inj taken]
            exact Change.of_approveFile done
        · rw [← Option.some.inj taken]
          exact .kept ⟨rfl, rfl, SameProposals.of_eq rfl⟩
    · cases taken
  | unlink call =>
    simp only at taken
    split at taken
    · rw [← Option.some.inj taken]
      exact .kept ⟨rfl, rfl, SameProposals.of_eq rfl⟩
    · cases taken
  | unlinkFails call =>
    simp only at taken
    split at taken
    · rw [← Option.some.inj taken]
      exact .kept ⟨rfl, rfl, sameProposals_modify (fun row => { row with status := .failed })
        (fun _ => ⟨rfl, rfl, rfl⟩) rfl⟩
    · cases taken
  | record call =>
    simp only at taken
    split at taken
    · rw [← Option.some.inj taken]
      exact .kept (kept_recordReceipt ..)
    · cases taken
  | cancel call =>
    simp only at taken
    split at taken
    · exact Change.of_finish taken (fun store done => .kept (cancel_ok done))
    · cases taken
  | undo call draw =>
    simp only at taken
    split at taken
    · next row phase =>
        split at taken
        · cases taken
        · split at taken
          · rw [← Option.some.inj taken]
            exact Change.same rfl
          · next store done =>
              obtain ⟨action, state, undoes, readState, previewed⟩ :=
                prepareUndo_ok done
              rw [← Option.some.inj taken]
              exact Change.of_preview (.undone rfl phase undoes) readState
                (Kept.refl world.store) previewed rfl rfl rfl
    · cases taken
  | storeRestore call restoreId =>
    simp only at taken
    split at taken
    · exact Change.of_finish taken (fun store done => .kept (storeRestore_ok done))
    · cases taken
  | recover call binding =>
    simp only at taken
    split at taken
    · split at taken
      · rw [← Option.some.inj taken]
        exact Change.same rfl
      · split at taken
        · cases taken
        · split at taken
          · rw [← Option.some.inj taken]
            exact Change.same rfl
          · rw [← Option.some.inj taken]
            exact .kept (kept_setStatus ..)
          · rw [← Option.some.inj taken]
            exact .kept (kept_recordReceipt ..)
          · rw [← Option.some.inj taken]
            exact .kept ⟨rfl, rfl, SameProposals.of_eq rfl⟩
    · cases taken
  | recordRecovery call =>
    simp only at taken
    split at taken
    · rw [← Option.some.inj taken]
      exact .kept (kept_setStatus ..)
    · cases taken
  | crash call =>
    rw [← Option.some.inj taken]
    exact Change.same rfl

theorem proposal_of_step (taken : stepsOf (World.next env) world label after)
    (mem : row ∈ world.store.proposals) :
    ∃ new ∈ after.store.proposals, SameProposal row new := by
  cases change_of_step taken with
  | kept rows =>
    exact rows.proposals.kept row mem
  | previewed source readState events tasks old kept added =>
    exact kept row mem
  | @executed executedRow state middle effect rowMem readState fingerprint done recorded =>
      have same := (SameProposals.of_eq (executeRow_cases done).1).trans
        (sameProposals_recordReceipt middle (executedReceipt executedRow.id effect))
      rw [recorded]
      exact same.kept row mem

end Steps

end ModelAtlas.Assistant
