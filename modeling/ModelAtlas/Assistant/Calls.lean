import ModelAtlas.Assistant.Reviews
import ModelAtlas.Foundations.Execution

/-!
# Calls on one workspace

A call of `services/personal_assistant/` is made of several transactions and
file system steps. Any number of calls are in flight, and a call can crash
between any two steps.
-/

namespace ModelAtlas.Assistant

open Foundations

inductive CallPhase where
  | idle
  /-- `approve` is to begin; `approve_review` has read this row. -/
  | approving (origin : Option Review) (proposalId token planHash : String)
  | executing (origin : Option Review) (row : Proposal) (planHash : String)
  | linked (origin : Option Review) (row : Proposal) (change : FileChange)
  /-- The source is unlinked. -/
  | moved (origin : Option Review) (row : Proposal) (change : FileChange)
  | cancelling (proposalId token : String)
  /-- `restore_preview` has read this row. -/
  | restoring (row : Review)
  | restored (row : Review) (draw : Draw)
  /-- A recovery has unlinked the destination of this proposal. -/
  | recovering (proposalId : String)

structure World where
  store : Store
  phase : Nat → CallPhase
  writer : Option Nat
  /-- The call that holds the execution lock. -/
  executor : Option Nat

inductive Step where
  | create (reviewId req raw : String) (initial : Json)
  | prepare (confirmedFields : Json) (rawPlan : String) (draw : Draw)
  | save (binding : ReviewBinding) (fields : Json)
  | confirm (binding : ReviewBinding) (draw : Draw)
  | approveReview (call : Nat) (binding : ReviewBinding) (planHash : String)
  | approveProposal (call : Nat) (proposalId token planHash : String)
  | approve (call : Nat)
  | link (call : Nat)
  | unlink (call : Nat)
  /-- `source.unlink()` raises, and `destination.unlink()` does not. -/
  | unlinkFails (call : Nat)
  | record (call : Nat)
  | cancelReview (call : Nat) (binding : ReviewBinding)
  | cancelProposal (call : Nat) (proposalId token : String)
  | cancel (call : Nat)
  | restore (call : Nat) (binding : ReviewBinding)
  | undo (call : Nat) (draw : Draw)
  | storeRestore (call : Nat) (restoreId : String)
  | recover (call : Nat) (binding : ReviewBinding)
  | recordRecovery (call : Nat)
  | crash (call : Nat)

/-- A step and its `time.time()`. -/
structure Label where
  step : Step
  now : Time

namespace World

def initial (files : Files) : World where
  store := .initial files
  phase _ := .idle
  writer := none
  executor := none

def setPhase (world : World) (call : Nat) (phase : CallPhase) : World :=
  { world with phase := Function.update world.phase call phase }

def endCall (world : World) (call : Nat) : World :=
  { world with
    phase := Function.update world.phase call .idle
    writer := if world.writer = some call then none else world.writer
    executor := if world.executor = some call then none else world.executor }

def transact (world : World) (res : Except AssistantError Store) : Option World :=
  if world.writer.isSome then none
  else
    match res with
    | .error _ => some world
    | .ok store => some { world with store := store }

def finish (world : World) (call : Nat) (res : Except AssistantError Store) : Option World :=
  (world.transact res).map (endCall · call)

def next (env : AssistantEnvironment) (world : World) (label : Label) : Option World :=
  let store := world.store
  match label.step with
  | .create reviewId req raw initial =>
    world.transact (createReview store reviewId req raw initial)
  | .prepare confirmedFields rawPlan draw =>
    world.transact (prepare env store confirmedFields rawPlan draw label.now)
  | .save binding fields => world.transact (save env store binding fields)
  | .confirm binding draw =>
    world.transact (confirm env store binding draw label.now)
  | .approveReview call binding planHash =>
    match world.phase call, boundReview env store binding with
    | .idle, .error _ => some world
    | .idle, .ok row =>
      match row.phase, row.proposalId with
      | .confirmed, some proposalId => some (world.setPhase call
          (.approving (some row) proposalId (row.approvalToken.getD "")
            planHash))
      | _, _ => some world
    | _, _ => none
  | .approveProposal call proposalId token planHash =>
    match world.phase call with
    | .idle => some (world.setPhase call (.approving none proposalId token planHash))
    | _ => none
  | .approve call =>
    match world.phase call with
    | .approving origin proposalId token planHash =>
      if world.executor.isSome then some (world.endCall call)
      else if world.writer.isSome then none
      else
        match approve env store proposalId token planHash label.now with
        | .rejected _ | .replayed _ => some (world.endCall call)
        | .ended after | .executed _ after =>
          some ({ world with store := after }.endCall call)
        | .started row after => some ({ world with
            store := after
            executor := some call }.setPhase call (.executing origin row planHash))
    | _ => none
  | .link call =>
    match world.phase call with
    | .executing origin row _ =>
      if world.writer.isSome then none
      else
        match approveFile env store row with
        | .rejected _ => some (world.endCall call)
        | .ended after => some ({ world with store := after }.endCall call)
        | .linked files change => some ({ world with
            store := { store with files := files }
            writer := some call }.setPhase call (.linked origin row change))
    | _ => none
  | .unlink call =>
    match world.phase call with
    | .linked origin row change => some ({ world with
        store := { store with
          files := store.files.unlink change.sourceName } }.setPhase call
            (.moved origin row change))
    | _ => none
  | .unlinkFails call =>
    match world.phase call with
    | .linked _ row change => some ({ world with
        store := { store with
          files := store.files.unlink change.destinationName
          }.setStatus row.id .failed }.endCall call)
    | _ => none
  | .record call =>
    match world.phase call with
    | .moved _ row change => some ({ world with
        store := store.recordReceipt (executedReceipt row.id (.fileChange change)) }.endCall call)
    | _ => none
  | .cancelReview call binding =>
    match world.phase call, boundReview env store binding with
    | .idle, .error _ => some world
    | .idle, .ok row =>
      match row.proposalId with
      | some proposalId => some (world.setPhase call
          (.cancelling proposalId (row.approvalToken.getD "")))
      | none => some world
    | _, _ => none
  | .cancelProposal call proposalId token =>
    match world.phase call with
    | .idle => some (world.setPhase call (.cancelling proposalId token))
    | _ => none
  | .cancel call =>
    match world.phase call with
    | .cancelling proposalId token =>
      world.finish call (cancel env store proposalId token)
    | _ => none
  | .restore call binding =>
    match world.phase call, boundReview env store binding with
    | .idle, .error _ => some world
    | .idle, .ok row =>
      if row.parentId.isSome then some world
      else some (world.setPhase call (.restoring row))
    | _, _ => none
  | .undo call draw =>
    match world.phase call with
    | .restoring row =>
      if world.writer.isSome then none
      else
        match prepareUndo env store row.proposalId draw label.now with
        | .error _ => some (world.endCall call)
        | .ok after => some ({ world with store := after }.setPhase call (.restored row draw))
    | _ => none
  | .storeRestore call restoreId =>
    match world.phase call with
    | .restored row draw =>
      world.finish call (storeRestore env store restoreId draw row)
    | _ => none
  | .recover call binding =>
    match world.phase call with
    | .idle =>
      if world.executor.isSome then some world
      else if world.writer.isSome then none
      else
        match recover env store binding with
        | .error _ => some world
        | .ok (proposal, .noEffect) => some { world with
            store := store.setStatus proposal.id .cancelled }
        | .ok (_, .completed receipt) => some { world with
            store := store.recordReceipt receipt }
        | .ok (proposal, .rolledBack dest) => some ({ world with
            store := { store with files := store.files.unlink dest }
            writer := some call
            executor := some call }.setPhase call (.recovering proposal.id))
    | _ => none
  | .recordRecovery call =>
    match world.phase call with
    | .recovering proposalId => some ({ world with
        store := store.setStatus proposalId .cancelled }.endCall call)
    | _ => none
  | .crash call => some (world.endCall call)

/-- The action that a step executes, with the review and the plan hash of its call: a row in the
first transaction of `approve`, a move with the link. -/
def executed? (env : AssistantEnvironment) (world : World)
    (label : Label) : Option (Option Review × String × Proposal) :=
  match label.step with
  | .approve call =>
    match world.phase call with
    | .approving origin proposalId token planHash =>
      if world.executor.isSome then none
      else
        match approve env world.store proposalId token planHash label.now with
        | .executed row _ => some (origin, planHash, row)
        | _ => none
    | _ => none
  | .link call =>
    match world.phase call with
    | .executing origin row planHash =>
      match approveFile env world.store row with
      | .linked .. => some (origin, planHash, row)
      | _ => none
    | _ => none
  | _ => none

end World

end ModelAtlas.Assistant
