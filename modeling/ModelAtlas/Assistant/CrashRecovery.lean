import ModelAtlas.Assistant.Changes
import ModelAtlas.Assistant.FileMoves

/-!
# Interrupted file operations

The second transaction of a file tool's approval can stop before the link, after
it and after the unlink. `recover` takes the move back or records it.
-/

namespace ModelAtlas.Assistant

open Foundations

inductive Fault where
  | crashBeforeLink
  /-- `os.link`, or a call before it, raises. -/
  | linkFails
  | crashAfterLink
  /-- `source.unlink()` raises, and `destination.unlink()` does not. -/
  | unlinkFails
  | bothUnlinksFail
  /-- The receipt is not committed. -/
  | crashAfterUnlink
  deriving DecidableEq, Repr

/-- What is left of the second transaction of `approve`: an `OSError` fails the
proposal, and a crash rolls the database back. -/
def interrupted (env : AssistantEnvironment) (store : Store)
    (row : Proposal) (fault : Fault) : Store :=
  match approveFile env store row with
  | .rejected _ => store
  | .ended after => after
  | .linked files change =>
    match fault with
    | .crashBeforeLink => store
    | .linkFails => store.setStatus row.id .failed
    | .crashAfterLink => { store with files := files }
    | .unlinkFails => { store with
        files := files.unlink change.destinationName }.setStatus row.id .failed
    | .bothUnlinksFail => { store with files := files }.setStatus row.id .failed
    | .crashAfterUnlink =>
      { store with files := files.unlink change.sourceName }

/-- The second transaction of `approve` without a fault. -/
def moved (env : AssistantEnvironment) (store : Store) (row : Proposal) : Store :=
  match approveFile env store row with
  | .rejected _ => store
  | .ended after => after
  | .linked files change => { store with files := files.unlink change.sourceName }.recordReceipt
        (executedReceipt row.id (.fileChange change))

/-- The writes of `_recover`. -/
def recovered (store : Store) : Proposal × Recovery → Store
  | (proposal, .rolledBack dest) => { store with
      files := store.files.unlink dest }.setStatus proposal.id .cancelled
  | (proposal, .noEffect) => store.setStatus proposal.id .cancelled
  | (_, .completed receipt) => store.recordReceipt receipt

def bindingOf (env : AssistantEnvironment) (row : Review) : ReviewBinding where
  reviewId := row.id
  revision := row.revision
  contentHash := reviewHash env row

def MovePaths.sourceName (paths : MovePaths) : FileName :=
  ⟨paths.sourceArea, paths.source⟩

def MovePaths.destinationName (paths : MovePaths) : FileName :=
  ⟨paths.destinationArea, paths.destination⟩

section Rows

variable {env : AssistantEnvironment} {store : Store}

theorem find?_setStatus {row : Proposal} {status next : ProposalStatus}
    (stored : store.proposals.find? row.id = some { row with status := status }) :
    (store.setStatus row.id next).proposals.find? row.id = some { row with status := next } := by
  rw [Store.setStatus, Table.find?_modify, if_pos rfl, stored]
  rfl

theorem find?_recordReceipt {row : Proposal} {status : ProposalStatus}
    {receipt : Receipt} (isReceipt : receipt.proposalId = row.id)
    (stored : store.proposals.find? row.id = some { row with status := status }) :
    (store.recordReceipt receipt).proposals.find? row.id =
      some { row with status := .executed, receipt := some receipt } := by
  rw [Store.recordReceipt, isReceipt, Table.find?_modify, if_pos rfl, stored]
  rfl

theorem boundReview_bindingOf {review : Review}
    (stored : store.reviews.find? review.id = some review) :
    boundReview env store (bindingOf env review) = .ok review := by
  have found : store.reviews.find? (bindingOf env review).reviewId = some review := stored
  rw [boundReview, found]
  exact if_neg (by simp [bindingOf])

theorem recover_eq {review : Review} {row : Proposal} {event : ReviewEvidence} {found : Recovery}
    (reviewed : store.reviews.find? review.id = some review)
    (proposed : review.proposalId = some row.id)
    (stored : store.proposals.find? row.id = some row)
    (interrupted : row.status = .executing ∨ row.status = .failed)
    (recorded : (store.evidence.filter (fun event =>
      event.reviewId = review.id)).getLast? = some event)
    (reconciled : reconcileFile env store.files row event.beforeFiles = .ok found) :
    recover env store (bindingOf env review) = .ok (row, found) := by
  have isProposal : proposalOf store review = some row := by
    rw [proposalOf, proposed]
    exact stored
  have isInterrupted : [ProposalStatus.executing, .failed].contains row.status =
      true := by
    rcases interrupted with same | same <;> rw [same] <;> rfl
  rw [recover, boundReview_bindingOf reviewed]
  dsimp only
  rw [isProposal]
  dsimp only
  rw [isInterrupted, Bool.not_true, if_neg Bool.false_ne_true, recorded]
  dsimp only
  rw [reconciled]

theorem approve_started {after : Store} {proposalId token planHash : String} {now : Time}
    {row : Proposal} (done : approve env store proposalId token planHash now = .started row after) :
    store.proposals.find? proposalId = some row ∧ row.id = proposalId ∧
      row.action.isFileTool = true ∧ after = store.setStatus proposalId .executing ∧ ∃ state,
      workspaceState env store = .ok state ∧ env.stateDigest state = row.fingerprint := by
  rw [approve] at done
  cases allowed : authorized env store proposalId token with
  | error raised =>
    rw [allowed] at done
    cases done
  | ok found =>
    obtain ⟨mem, named⟩ := authorized_ok allowed
    rw [allowed] at done
    dsimp only at done
    split at done
    · cases done
    · split at done
      · split at done <;> cases done
      · split at done
        · cases done
        · split at done
          · cases done
          · cases done
          · next fresh =>
              split at done
              · next isFileTool =>
                  obtain ⟨rfl, rfl⟩ := Approval.started.inj done
                  exact ⟨Table.find?_eq_some_iff.mpr ⟨mem, named⟩, named,
                    isFileTool, rfl, (isStale_false fresh).2⟩
              · split at done
                · exact absurd done (failedApproval_ne_started _ _ _ _ _)
                · cases done

end Rows

/-! ## A started operation -/

structure Executing (env : AssistantEnvironment) (store : Store)
    (row : Proposal) (paths : MovePaths) (entry : FileEntry) : Prop where
  stored : store.proposals.find? row.id =
    some { row with status := .executing }
  fingerprint : ∃ state, workspaceState env store = .ok state ∧
    env.stateDigest state = row.fingerprint
  isMove : movePaths row.id row.action = some paths
  isSource : entry.name = paths.sourceName
  movable : Movable store.files entry paths.destinationName

structure Started (env : AssistantEnvironment) (store : Store)
    (review : Review) (row : Proposal) (paths : MovePaths)
    (entry : FileEntry) : Prop
    extends Executing env store row paths entry where
  reviewed : store.reviews.find? review.id = some review
  proposed : review.proposalId = some row.id
  recorded : (store.evidence.filter (fun event =>
    event.reviewId = review.id)).getLast? =
      some ⟨review.id, fileStates env.sha256 store.files⟩

structure Finished (env : AssistantEnvironment) (started : Store)
    (row : Proposal) (paths : MovePaths) (entry : FileEntry) (after : Store) :
    Prop where
  files : after.files = started.files.move entry paths.destinationName
  stored : ∃ receipt : Receipt, receipt.effect =
      .fileChange (paths.change (env.sha256 entry.content)) ∧
    after.proposals.find? row.id = some
      { row with status := .executed, receipt := some receipt }

inductive Settled (env : AssistantEnvironment) (started : Store)
    (row : Proposal) (paths : MovePaths) (entry : FileEntry) (after : Store) :
    Prop
  | cancelled (files : after.files = started.files)
      (stored : after.proposals.find? row.id =
        some { row with status := .cancelled })
  | executed (finished : Finished env started row paths entry after)

namespace Executing

variable {env : AssistantEnvironment} {store : Store} {row : Proposal}
  {paths : MovePaths} {entry : FileEntry}

theorem approveFile_eq (started : Executing env store row paths entry) : approveFile env store row =
      .linked (store.files.link entry paths.destinationName)
        (paths.change (env.sha256 entry.content)) := by
  obtain ⟨state, readState, digest⟩ := started.fingerprint
  have movable := started.movable
  have isSource := started.isSource
  have source : filePath store.files paths.source true paths.sourceArea = .ok entry.name :=
    movable.filePath_source isSource
  have dest : filePath store.files paths.destination false
      paths.destinationArea = .ok paths.destinationName :=
    movable.filePath_destination rfl
  have linked : linkMove env store.files paths = .ok (store.files.link entry paths.destinationName,
        paths.change (env.sha256 entry.content)) := by
    rw [linkMove, source]
    dsimp only
    rw [dest]
    dsimp only
    rw [movable.absent, if_neg Bool.false_ne_true, movable.found]
    rfl
  rw [approveFile, readState]
  dsimp only
  rw [if_neg (fun changed => changed digest), started.isMove]
  dsimp only
  rw [linked]

theorem moves (started : Executing env store row paths entry) : Finished env store row paths entry
      (moved env store row) := by
  have isMoved : (store.files.link entry paths.destinationName).unlink
      (paths.change (env.sha256 entry.content)).sourceName =
        store.files.move entry paths.destinationName :=
    congrArg _ started.isSource.symm
  rw [moved, started.approveFile_eq]
  exact ⟨isMoved, _, rfl, find?_recordReceipt rfl started.stored⟩

section Steps

variable {world : World} {call : Nat} {origin : Option Review}
  {planHash : String}

end Steps

end Executing

namespace Started

variable {env : AssistantEnvironment} {store : Store} {review : Review}
  {row : Proposal} {paths : MovePaths} {entry : FileEntry}

theorem recover_left (started : Started env store review row paths entry)
    {left : Store} {status : ProposalStatus} {found : Recovery}
    (reviews : left.reviews = store.reviews)
    (evidence : left.evidence = store.evidence)
    (stored : left.proposals.find? row.id = some { row with status := status })
    (isInterrupted : status = .executing ∨ status = .failed)
    (reconciled : reconcileFile env left.files
      { row with status := status } (fileStates env.sha256 store.files) = .ok found) :
    recover env left (bindingOf env review) = .ok ({ row with status := status }, found) :=
  recover_eq (by rw [reviews]; exact started.reviewed) started.proposed stored
    isInterrupted (by rw [evidence]; exact started.recorded) reconciled

/-- Every fault is recovered from: a link that is left is taken back, and a
finished move is recorded. -/
theorem recovers (started : Started env store review row paths entry) (fault : Fault) :
    ∃ found, recover env (interrupted env store row fault) (bindingOf env review) = .ok found ∧
      Settled env store row paths entry (recovered (interrupted env store row fault) found) := by
  have movable := started.movable
  have takenBack : (store.files.link entry paths.destinationName).unlink
      paths.destinationName = store.files :=
    Files.unlink_link movable.isFree
  have stored := started.stored
  have failed : ∀ files, ({ store with files := files }.setStatus row.id
      .failed).proposals.find? row.id = some { row with status := .failed } :=
    fun files => find?_setStatus stored
  rw [interrupted, started.approveFile_eq]
  cases fault with
  | crashBeforeLink =>
    exact ⟨_, started.recover_left rfl rfl stored (.inl rfl)
      (movable.reconcileFile_source started.isMove started.isSource rfl),
      .cancelled rfl (find?_setStatus stored)⟩
  | linkFails =>
    exact ⟨_, started.recover_left rfl rfl (failed _) (.inr rfl)
      (movable.reconcileFile_source started.isMove started.isSource rfl),
      .cancelled rfl (find?_setStatus (failed _))⟩
  | crashAfterLink =>
    exact ⟨_, started.recover_left rfl rfl stored (.inl rfl)
      (movable.reconcileFile_linked started.isMove started.isSource rfl),
      .cancelled takenBack (find?_setStatus stored)⟩
  | unlinkFails =>
    have noEffect : reconcileFile env ((store.files.link entry
        paths.destinationName).unlink paths.destinationName)
          { row with status := .failed } (fileStates env.sha256 store.files) = .ok .noEffect := by
      rw [takenBack]
      exact movable.reconcileFile_source started.isMove started.isSource rfl
    exact ⟨_, started.recover_left rfl rfl (failed _) (.inr rfl) noEffect,
      .cancelled takenBack (find?_setStatus (failed _))⟩
  | bothUnlinksFail =>
    exact ⟨_, started.recover_left rfl rfl (failed _) (.inr rfl)
      (movable.reconcileFile_linked started.isMove started.isSource rfl),
      .cancelled takenBack (find?_setStatus (failed _))⟩
  | crashAfterUnlink =>
    have isMoved : (store.files.link entry paths.destinationName).unlink
        (paths.change (env.sha256 entry.content)).sourceName =
          store.files.move entry paths.destinationName :=
      congrArg _ started.isSource.symm
    have completed : reconcileFile env (store.files.move entry paths.destinationName)
          { row with status := .executing } (fileStates env.sha256 store.files) =
          .ok (.completed _) :=
      movable.reconcileFile_moved started.isMove started.isSource rfl
    rw [← isMoved] at completed
    exact ⟨_, started.recover_left rfl rfl stored (.inl rfl) completed,
      .executed ⟨isMoved, _, rfl, find?_recordReceipt rfl stored⟩⟩

end Started

/-- The file is at one of its two names and nothing else has changed; the
proposal says at which. -/
structure OneName (env : AssistantEnvironment) (before : Files)
    (after : Store) (source dest : FileName) (entry : FileEntry)
    (proposalId : String) : Prop where
  one : (after.files.entry? source = some entry ∧
      after.files.isPresent dest = false) ∨
    (after.files.isPresent source = false ∧
      after.files.entry? dest = some { entry with name := dest })
  executed : (after.proposals.find? proposalId).map Proposal.status =
      some .executed ↔ after.files.isFile dest = true
  cancelled : (after.proposals.find? proposalId).map Proposal.status =
      some .cancelled ↔ after.files.isFile source = true
  others : ∀ name, name ≠ source → name ≠ dest →
    after.files.entry? name = before.entry? name
  directories : after.files.directories = before.directories
  readable : ∃ state, workspaceState env after = .ok state

theorem workspaceState_ok {env : AssistantEnvironment} {store : Store}
    (wellNamed : store.files.WellNamed) (readable : store.files.Readable) :
    ∃ state, workspaceState env store = .ok state := by
  rw [workspaceState, (filesSnapshot_ok_iff wellNamed).mpr ⟨readable, rfl⟩]
  exact ⟨_, rfl⟩

theorem Settled.oneName {env : AssistantEnvironment}
    {store after : Store} {row : Proposal} {paths : MovePaths}
    {entry : FileEntry}
    (settled : Settled env store row paths entry after)
    (isSource : entry.name = paths.sourceName)
    (movable : Movable store.files entry paths.destinationName) :
    OneName env store.files after paths.sourceName paths.destinationName entry row.id := by
  have found := movable.found
  have isFree := movable.isFree
  rw [isSource] at found
  cases settled with
  | cancelled files stored =>
    refine ⟨.inl ?_, ?_, ?_, ?_, ?_, ?_⟩
    · rw [files]
      exact ⟨found, movable.absent⟩
    · rw [stored, files, Files.isFile, isFree]
      simp
    · rw [stored, files, Files.isFile, found]
      simp
    · intro name _ _
      rw [files]
    · rw [files]
    · refine workspaceState_ok ?_ ?_
      · rw [files]
        exact movable.wellNamed
      · rw [files]
        exact movable.readable
  | executed finished =>
    obtain ⟨files, receipt, -, stored⟩ := finished
    have back := movable.back
    have target := back.found
    have gone := back.absent
    have vacated := back.isFree
    rw [isSource] at gone vacated
    refine ⟨.inr ?_, ?_, ?_, ?_, ?_, ?_⟩
    · rw [files]
      exact ⟨gone, target⟩
    · rw [stored, files, Files.isFile, target]
      simp
    · rw [stored, files, Files.isFile, vacated]
      simp
    · intro name notSource notDestination
      rw [files, Files.entry?_move isFree, isSource, if_neg notSource, if_neg notDestination]
    · rw [files]
      rfl
    · refine workspaceState_ok ?_ ?_
      · rw [files]
        exact back.wellNamed
      · rw [files]
        exact back.readable

end ModelAtlas.Assistant
