import ModelAtlas.Approval.Operations

/-!
# The state machine of a checkpoint record

Whatever operations are performed, a record only moves along six arrows, its
version counts the moves, and it has a child revision exactly when it is denied
or resumed.
-/

namespace ModelAtlas.Approval

open Foundations Agent

variable {change : CheckpointChange} {res : BenchmarkResult} {runtime : RevisionRuntime}

variable {env : ControlEnvironment}

/-! ## Moves of one record -/

inductive StatusMove : CheckpointStatus → CheckpointStatus → Prop
  | approve : StatusMove .pending .approved
  | deny : StatusMove .pending .denied
  | expirePending : StatusMove .pending .expired
  | revoke : StatusMove .approved .revoked
  | resume : StatusMove .approved .resumed
  | expireApproved : StatusMove .approved .expired

def HasRevision (status : CheckpointStatus) : Prop :=
  status = .denied ∨ status = .resumed

instance (status : CheckpointStatus) : Decidable (HasRevision status) :=
  inferInstanceAs (Decidable (_ ∨ _))

theorem not_hasRevision_of_move {old new : CheckpointStatus} (move : StatusMove old new) :
    ¬ HasRevision old := by
  cases move <;> decide

def StatusStep (old new : AgentApprovalCheckpoint) : Prop :=
  (new.status = old.status ∧ new.version = old.version) ∨
    (StatusMove old.status new.status ∧ new.version = old.version + 1)

structure SameRequest (old new : AgentApprovalCheckpoint) : Prop where
  id : new.id = old.id
  result : new.benchmarkResultId = old.benchmarkResultId
  checkpoint : new.checkpointId = old.checkpointId
  policy : new.approvalPolicyJson = old.approvalPolicyJson
  expiry : new.expiresAt = old.expiresAt

theorem SameRequest.refl (record : AgentApprovalCheckpoint) : SameRequest record record where
  id := rfl
  result := rfl
  checkpoint := rfl
  policy := rfl
  expiry := rfl

theorem CheckpointChange.sameRequest
    (change : CheckpointChange) (record : AgentApprovalCheckpoint) :
    SameRequest record (change.apply record) where
  id := change.keepsId record
  result := change.keepsResult record
  checkpoint := change.keepsCheckpoint record
  policy := change.keepsPolicy record
  expiry := change.keepsExpiry record

structure Moved (created : Option BenchmarkResult)
    (old new : AgentApprovalCheckpoint) : Prop where
  move : StatusMove old.status new.status
  version : new.version = old.version + 1
  linked : HasRevision new.status → ∃ child, created = some child ∧
    new.transitionBenchmarkResultId = some child.id ∧
    child.parentBenchmarkResultId = some old.benchmarkResultId
  unlinked : ¬ HasRevision new.status →
    new.transitionBenchmarkResultId = old.transitionBenchmarkResultId

structure Succeeds (created : Option BenchmarkResult)
    (old new : AgentApprovalCheckpoint) : Prop where
  request : SameRequest old new
  moved : new = old ∨ Moved created old new

theorem Succeeds.statusStep {created : Option BenchmarkResult} {old new : AgentApprovalCheckpoint}
    (succeeds : Succeeds created old new) :
    StatusStep old new := by
  rcases succeeds.moved with rfl | moved
  · exact Or.inl ⟨rfl, rfl⟩
  · exact Or.inr ⟨moved.move, moved.version⟩

structure Effect (created : Option BenchmarkResult)
    (before after : ControlPlane) : Prop where
  recordKept : ∀ old ∈ before.checkpoints,
    ∃ new ∈ after.checkpoints, Succeeds created old new
  recordOrigin : ∀ new ∈ after.checkpoints,
    (∃ old ∈ before.checkpoints, Succeeds created old new) ∨
      (new.status = .pending ∧ new.version = 1 ∧
        new.transitionBenchmarkResultId = none)
  resultKept : ∀ row, (row ∈ before.results ∨ created = some row) →
    ∃ next ∈ after.results, SameRevision row next
  resultOrigin : ∀ next ∈ after.results, ∃ row,
    (row ∈ before.results ∨ created = some row) ∧ SameRevision row next
  owner : ∀ child parent, created = some child →
    child.parentBenchmarkResultId = some parent →
    ∃ record ∈ after.checkpoints, record.benchmarkResultId = parent ∧
      record.transitionBenchmarkResultId = some child.id

namespace Effect

variable {created : Option BenchmarkResult} {before middle after : ControlPlane}

theorem of_change (records : ∀ tested, tested ∈ after.checkpoints ↔
      ∃ record ∈ before.checkpoints, change.apply record = tested)
    (results : ∀ tested, tested ∈ after.results ↔ tested ∈ before.results ∨ created = some tested)
    (moves : ∀ record ∈ before.checkpoints, change.apply record = record ∨
        Moved created record (change.apply record))
    (owner : ∀ child parent, created = some child → child.parentBenchmarkResultId = some parent →
      ∃ record ∈ before.checkpoints, record.benchmarkResultId = parent ∧
        (change.apply record).transitionBenchmarkResultId = some child.id) :
    Effect created before after where
  recordKept record mem :=
    ⟨change.apply record, (records _).mpr ⟨record, mem, rfl⟩,
      { request := change.sameRequest record, moved := moves record mem }⟩
  recordOrigin new mem := by
    obtain ⟨record, recordMem, rfl⟩ := (records new).mp mem
    exact Or.inl ⟨record, recordMem,
      { request := change.sameRequest record, moved := moves record recordMem }⟩
  resultKept row mem :=
    ⟨row, (results row).mpr mem, SameRevision.refl row⟩
  resultOrigin row mem :=
    ⟨row, (results row).mp mem, SameRevision.refl row⟩
  owner child parent isCreated isChild := by
    obtain ⟨record, mem, ofParent, linked⟩ :=
      owner child parent isCreated isChild
    refine ⟨change.apply record, (records _).mpr ⟨record, mem, rfl⟩, ?_, linked⟩
    rw [change.keepsResult, ofParent]

theorem of_records (moves : ∀ record ∈ before.checkpoints,
      change.apply record = record ∨ Moved none record (change.apply record)) :
    Effect none before (before.changeCheckpoints change) :=
  of_change (fun _ => ControlPlane.mem_changeCheckpoints) (by simp) moves (by simp)

theorem refl (state : ControlPlane) : Effect none state state where
  recordKept old mem :=
    ⟨old, mem, { request := SameRequest.refl old, moved := Or.inl rfl }⟩
  recordOrigin new mem :=
    Or.inl ⟨new, mem, { request := SameRequest.refl new, moved := Or.inl rfl }⟩
  resultKept row mem :=
    ⟨row, mem.resolve_right nofun, SameRevision.refl row⟩
  resultOrigin row mem := ⟨row, Or.inl mem, SameRevision.refl row⟩
  owner := by simp

theorem gains {trace : Json} (effect : Effect created before middle)
    (gained : Gains env res trace middle after) :
    Effect created before after where
  recordKept old mem := by
    obtain ⟨new, newMem, succeeds⟩ := effect.recordKept old mem
    exact ⟨new, gained.recordKept new newMem, succeeds⟩
  recordOrigin new mem := by
    rcases gained.recordOrigin new mem with earlier | requested
    · exact effect.recordOrigin new earlier
    · exact Or.inr ⟨requested.pending, requested.version, requested.unlinked⟩
  resultKept row mem := by
    obtain ⟨next, nextMem, same⟩ := effect.resultKept row mem
    obtain ⟨last, lastMem, lastSame⟩ := gained.resultKept next nextMem
    exact ⟨last, lastMem, same.trans lastSame⟩
  resultOrigin last mem := by
    obtain ⟨next, nextMem, lastSame⟩ := gained.resultOrigin last mem
    obtain ⟨row, rowMem, same⟩ := effect.resultOrigin next nextMem
    exact ⟨row, rowMem, same.trans lastSame⟩
  owner child parent isCreated isChild := by
    obtain ⟨record, mem, linked⟩ :=
      effect.owner child parent isCreated isChild
    exact ⟨record, gained.recordKept record mem, linked⟩

end Effect

section Changes

variable {before : ControlPlane} {record other : AgentApprovalCheckpoint}
  {req : CheckpointRequest} {reason : String}
  {evaluation : AgentCheckpointPolicyEvaluation}

theorem expireDue_moves (now : Time) (selected : AgentApprovalCheckpoint → Bool)
    (record : AgentApprovalCheckpoint) :
    (expireDue now selected).apply record = record ∨ (checkpointIsDue record now = true ∧
        (expireDue now selected).apply record = markCheckpointExpired record) := by
  by_cases picked : (selected record && checkpointIsDue record now) = true
  · have due : checkpointIsDue record now = true :=
      (Bool.and_eq_true_iff.mp picked).2
    exact Or.inr ⟨due, if_pos picked⟩
  · exact Or.inl (if_neg picked)

theorem expireDue_none (now : Time) (record : AgentApprovalCheckpoint) :
    (expireDue now (fun _ => false)).apply record = record :=
  rfl

theorem moved_of_due {now : Time} (due : checkpointIsDue record now = true) :
    Moved none record (markCheckpointExpired record) where
  move := by
    have live : record.status = .pending ∨ record.status = .approved := by
      simp only [checkpointIsDue, Bool.and_eq_true, Bool.or_eq_true, decide_eq_true_eq] at due
      exact due.1
    rcases live with pending | approved
    · rw [pending]
      exact StatusMove.expirePending
    · rw [approved]
      exact StatusMove.expireApproved
  version := rfl
  linked expired := by
    simp [HasRevision, markCheckpointExpired] at expired
  unlinked _ := rfl

theorem eq_of_accepted {kind : AgentCheckpointOperation}
    (accepted : Accepted env before kind req record evaluation) (mem : other ∈ before.checkpoints)
    (named : other.id = req.checkpointRecordId) :
    other = record :=
  Table.eq_of_key_eq mem accepted.mem (named.trans accepted.recordId.symm)

theorem decideChange_moves {decision : CheckpointDecision} {transition : Option BenchmarkResult}
    (accepted : Accepted env before .decide req record evaluation)
    (executed : decision = .denied → ∃ child, transition = some child ∧
      child.parentBenchmarkResultId = some record.benchmarkResultId)
    (kept : decision = .approved → transition = none)
    (mem : other ∈ before.checkpoints) :
    (decideChange env req decision reason evaluation transition).apply other = other ∨
      Moved transition other ((decideChange env req decision reason
        evaluation transition).apply other) := by
  by_cases named : other.id = req.checkpointRecordId
  · right
    obtain rfl := eq_of_accepted accepted mem named
    have pending : other.status = .pending := accepted.status
    simp only [decideChange, if_pos named]
    cases decision with
    | approved =>
      obtain rfl := kept rfl
      exact
        { move := pending ▸ StatusMove.approve
          version := rfl
          linked := by simp [HasRevision, CheckpointDecision.status]
          unlinked := fun _ => rfl }
    | denied =>
      obtain ⟨child, rfl, isChild⟩ := executed rfl
      exact
        { move := pending ▸ StatusMove.deny
          version := rfl
          linked := fun _ => ⟨child, rfl, rfl, isChild⟩
          unlinked := by simp [HasRevision, CheckpointDecision.status] }
  · exact Or.inl (if_neg named)

theorem revokeChange_moves (accepted : Accepted env before .revoke req record evaluation)
    (mem : other ∈ before.checkpoints) :
    (revokeChange env req reason evaluation).apply other = other ∨ Moved none other
        ((revokeChange env req reason evaluation).apply other) := by
  by_cases named : other.id = req.checkpointRecordId
  · right
    obtain rfl := eq_of_accepted accepted mem named
    have approved : other.status = .approved := accepted.status
    simp only [revokeChange, if_pos named]
    exact
      { move := approved ▸ StatusMove.revoke
        version := rfl
        linked := by simp [HasRevision]
        unlinked := fun _ => rfl }
  · exact Or.inl (if_neg named)

theorem resumeChange_moves {child : BenchmarkResult} (number : Int)
    (isChild : child.parentBenchmarkResultId = some res.id) (other : AgentApprovalCheckpoint) :
    (resumeChange env req res evaluation child number).apply other = other ∨
      Moved (some child) other ((resumeChange env req res
        evaluation child number).apply other) := by
  by_cases consumed : other.benchmarkResultId = res.id ∧ other.status = .approved
  · right
    simp only [resumeChange, if_pos consumed]
    exact
      { move := consumed.2 ▸ StatusMove.resume
        version := rfl
        linked := fun _ => ⟨child, rfl, rfl, by rw [isChild, consumed.1]⟩
        unlinked := by simp [HasRevision] }
  · exact Or.inl (if_neg consumed)

theorem applyPersistedDecisions_eq_ok {records : List AgentApprovalCheckpoint} {revision : Revision}
    (revised : applyPersistedDecisions env runtime before res records = .ok revision) :
    ∃ evalCase, runtime res evalCase (revisionDecisions env res records) = .ok revision.trace ∧
        revision.child = revisionResult before res revision.trace ∧
        (∀ tested, tested ∈ revision.state.results ↔
          tested ∈ before.results ∨ tested = revision.child) ∧
        revision.state.checkpoints = before.checkpoints := by
  rw [applyPersistedDecisions] at revised
  split at revised
  · next evalCase configuration hasCase hasConfiguration =>
      split at revised
      · cases revised
      · next trace ran =>
          split at revised
          · cases revised
          · obtain rfl := Except.ok.inj revised
            exact ⟨evalCase, ran, rfl, fun _ => ControlPlane.mem_insertResult rfl, rfl⟩
  · cases revised

end Changes

section Operations

variable {before after : ControlPlane} {op : Operation}
  {answer : Except ServiceError Unit}

theorem effect_of_executeCase (res : BenchmarkResult) (contract : Option Json)
    (requester : SignerIdentity) (now : Time) :
    Effect (some (executedResult before res)) before
      (executeCase env before res contract requester now) := by
  have inserted : Effect (some (executedResult before res)) before
      (before.insertResult (executedResult before res) rfl) := by
    have unchanged := expireDue_none now
    refine Effect.of_change (fun tested => ?_) (fun tested => ?_)
      (fun record _ => Or.inl (unchanged record)) ?_
    · change tested ∈ before.checkpoints ↔ _
      simp [unchanged]
    · rw [ControlPlane.mem_insertResult rfl]
      simp [eq_comm]
    · intro child parent isCreated isChild
      obtain rfl := Option.some.inj isCreated
      cases isChild
  simp only [executeCase]
  split
  · split
    · exact inserted.gains (Gains.of_materialize _ _ _ _)
    · exact inserted
  · exact inserted

theorem effect_of_revision
    {records : List AgentApprovalCheckpoint} {revision : Revision}
    {record : AgentApprovalCheckpoint}
    (revised : applyPersistedDecisions env runtime before res records = .ok revision)
    (moves : ∀ other ∈ before.checkpoints, change.apply other = other ∨
        Moved (some revision.child) other (change.apply other))
    (mem : record ∈ before.checkpoints)
    (ofResult : record.benchmarkResultId = res.id)
    (linked : (change.apply record).transitionBenchmarkResultId = some revision.child.id) :
    Effect (some revision.child) before (revision.state.changeCheckpoints change) := by
  obtain ⟨_, _, isChild, results, checkpoints⟩ :=
    applyPersistedDecisions_eq_ok revised
  refine Effect.of_change (fun tested => ?_) (fun tested => ?_) moves ?_
  · rw [ControlPlane.mem_changeCheckpoints, checkpoints]
  · rw [ControlPlane.results_changeCheckpoints, results]
    simp [eq_comm]
  · intro child parent isCreated ofParent
    obtain rfl := Option.some.inj isCreated
    have parentIsResult : parent = res.id := by
      rw [isChild] at ofParent
      exact (Option.some.inj ofParent).symm
    exact ⟨record, mem, ofResult.trans parentIsResult.symm, linked⟩

theorem effect_of_outcome (outcome : Outcome env before op after answer) :
    ∃ created, Effect created before after := by
  cases outcome with
  | unchanged =>
    exact ⟨none, Effect.refl before⟩
  | expired _ selected =>
    refine ⟨none, Effect.of_records (fun record _ => ?_)⟩
    rcases expireDue_moves op.now selected record with
      same | ⟨due, expired⟩
    · exact Or.inl same
    · rw [expired]
      exact Or.inr (moved_of_due due)
  | executed res contract requester now =>
    exact ⟨_, effect_of_executeCase res contract requester now⟩
  | materialized trace contract requester now mem =>
    exact ⟨none, (Effect.refl before).gains (Gains.of_materialize _ _ _ _)⟩
  | approved runtime req reason accepted =>
    exact ⟨none, Effect.of_records (fun other mem =>
      decideChange_moves accepted nofun (fun _ => rfl) mem)⟩
  | @denied record res evaluation revision runtime req reason accepted ofResult revised =>
      obtain ⟨_, _, isRevision, _⟩ := applyPersistedDecisions_eq_ok revised
      have isChild : revision.child.parentBenchmarkResultId = some record.benchmarkResultId := by
        rw [isRevision, ofResult]
        rfl
      refine ⟨some revision.child, effect_of_revision revised
        (fun other mem => decideChange_moves accepted
          (fun _ => ⟨revision.child, rfl, isChild⟩) nofun mem)
        accepted.mem ofResult ?_⟩
      simp only [decideChange, if_pos accepted.recordId]
      rfl
  | revoked req reason accepted =>
    exact ⟨none, Effect.of_records (fun other mem =>
      revokeChange_moves accepted mem)⟩
  | @resumed record res evaluation revision runtime req accepted ofResult unblocked revised =>
      obtain ⟨_, _, isRevision, _⟩ := applyPersistedDecisions_eq_ok revised
      have isChild : revision.child.parentBenchmarkResultId = some res.id := by
        rw [isRevision]
        rfl
      have changed : Effect (some revision.child) before
          (revision.state.changeCheckpoints (resumeChange env req
            res evaluation revision.child revision.number)) := by
        have consumed : record.benchmarkResultId = res.id ∧ record.status = .approved :=
          ⟨ofResult, accepted.status⟩
        refine effect_of_revision revised
          (fun other _ => resumeChange_moves revision.number isChild other)
          accepted.mem ofResult ?_
        simp only [resumeChange, if_pos consumed]
      exact ⟨_, changed.gains (Gains.of_materialize _ _ _ _)⟩

/-- An operation that raises changes nothing but due records, which expire. -/
structure KeptByRaise (now : Time) (before after : ControlPlane) : Prop where
  recordKept : ∀ record ∈ before.checkpoints,
    record ∈ after.checkpoints ∨ (checkpointIsDue record now = true ∧
      markCheckpointExpired record ∈ after.checkpoints)
  recordOrigin : ∀ next ∈ after.checkpoints,
    next ∈ before.checkpoints ∨ ∃ record ∈ before.checkpoints,
      checkpointIsDue record now = true ∧ next = markCheckpointExpired record
  results : after.results = before.results

theorem keptByRaise_of_outcome {raised : ServiceError}
    (outcome : Outcome env before op after (.error raised)) :
    KeptByRaise op.now before after := by
  cases outcome with
  | unchanged =>
    exact
      { recordKept := fun _ mem => Or.inl mem
        recordOrigin := fun _ mem => Or.inl mem
        results := rfl }
  | expired _ selected =>
    refine
      { recordKept := ?_, recordOrigin := ?_, results := rfl }
    · intro record mem
      have changed : (expireDue op.now selected).apply record ∈ (before.changeCheckpoints
            (expireDue op.now selected)).checkpoints :=
        ControlPlane.mem_changeCheckpoints.mpr ⟨record, mem, rfl⟩
      rcases expireDue_moves op.now selected record with
        same | ⟨due, expired⟩
      · exact Or.inl (same ▸ changed)
      · exact Or.inr ⟨due, expired ▸ changed⟩
    · intro next mem
      obtain ⟨record, recordMem, rfl⟩ :=
        ControlPlane.mem_changeCheckpoints.mp mem
      rcases expireDue_moves op.now selected record with
        same | ⟨due, expired⟩
      · exact Or.inl (same.symm ▸ recordMem)
      · exact Or.inr ⟨record, recordMem, due, expired⟩

theorem resume_of_resumed {req : CheckpointRequest} {record : AgentApprovalCheckpoint}
    (mem : record ∈ before.checkpoints) (named : record.id = req.checkpointRecordId)
    (resumed : record.status = .resumed) :
    (resumeAgentApprovalCheckpoint env runtime before req).1 =
      before := by
  rw [resumeAgentApprovalCheckpoint]
  split
  · rfl
  · next stored res locked =>
      obtain ⟨storedMem, storedNamed, _⟩ := lockedCheckpoint_eq_ok locked
      obtain rfl : stored = record :=
        Table.eq_of_key_eq storedMem mem (storedNamed.trans named.symm)
      rw [if_pos resumed]

end Operations

structure ControlInvariant (state : ControlPlane) : Prop where
  linked : ∀ record ∈ state.checkpoints, HasRevision record.status →
    ∃ child ∈ state.results,
      record.transitionBenchmarkResultId = some child.id ∧
        child.parentBenchmarkResultId = some record.benchmarkResultId
  unlinked : ∀ record ∈ state.checkpoints, ¬ HasRevision record.status →
    record.transitionBenchmarkResultId = none
  owned : ∀ child ∈ state.results, ∀ parent,
    child.parentBenchmarkResultId = some parent →
    ∃ record ∈ state.checkpoints, record.benchmarkResultId = parent ∧
      record.transitionBenchmarkResultId = some child.id

theorem controlInvariant_empty : ControlInvariant ControlPlane.empty where
  linked := by simp [ControlPlane.empty]
  unlinked := by simp [ControlPlane.empty]
  owned := by simp [ControlPlane.empty]

theorem controlInvariant_of_effect {created : Option BenchmarkResult} {before after : ControlPlane}
    (inv : ControlInvariant before) (effect : Effect created before after) :
    ControlInvariant after where
  linked new mem revised := by
    have carried : ∀ child parent, (child ∈ before.results ∨ created = some child) →
        new.transitionBenchmarkResultId = some child.id →
        child.parentBenchmarkResultId = some parent →
        ∃ next ∈ after.results, new.transitionBenchmarkResultId = some next.id ∧
            next.parentBenchmarkResultId = some parent := by
      intro child parent isRow link isChild
      obtain ⟨next, nextMem, same⟩ := effect.resultKept child isRow
      obtain ⟨sameId, sameParent, _⟩ := same.fields
      exact ⟨next, nextMem, sameId ▸ link, sameParent.trans isChild⟩
    rcases effect.recordOrigin new mem with
      ⟨old, oldMem, succeeds⟩ | ⟨pending, _, _⟩
    · rw [succeeds.request.result]
      rcases succeeds.moved with rfl | moved
      · obtain ⟨child, childMem, link, isChild⟩ :=
          inv.linked new oldMem revised
        exact carried child _ (Or.inl childMem) link isChild
      · obtain ⟨child, isCreated, link, isChild⟩ := moved.linked revised
        exact carried child _ (Or.inr isCreated) link isChild
    · rw [pending] at revised
      simp [HasRevision] at revised
  unlinked new mem unrevised := by
    rcases effect.recordOrigin new mem with
      ⟨old, oldMem, succeeds⟩ | ⟨_, _, link⟩
    · rcases succeeds.moved with rfl | moved
      · exact inv.unlinked new oldMem unrevised
      · have oldUnrevised := not_hasRevision_of_move moved.move
        rw [moved.unlinked unrevised]
        exact inv.unlinked old oldMem oldUnrevised
    · exact link
  owned next mem parent isChild := by
    obtain ⟨child, isRow, same⟩ := effect.resultOrigin next mem
    obtain ⟨sameId, sameParent, _⟩ := same.fields
    rw [sameId]
    rw [sameParent] at isChild
    rcases isRow with earlier | isCreated
    · obtain ⟨old, oldMem, ofParent, link⟩ :=
        inv.owned child earlier parent isChild
      obtain ⟨new, newMem, succeeds⟩ := effect.recordKept old oldMem
      refine ⟨new, newMem, succeeds.request.result.trans ofParent, ?_⟩
      rcases succeeds.moved with rfl | moved
      · exact link
      · -- a linked record has a revision, so it does not move again
        have none := inv.unlinked old oldMem (not_hasRevision_of_move moved.move)
        rw [none] at link
        cases link
    · exact effect.owner child parent isCreated isChild

theorem controlInvariant_of_execution {operations : List Operation} {state : ControlPlane}
    (exec : Execution (Step env) ControlPlane.empty operations state) :
    ControlInvariant state := by
  refine exec.invariant ControlInvariant controlInvariant_empty ?_
  intro before op after inv taken
  obtain ⟨created, effect⟩ := effect_of_outcome (outcome_of_step taken)
  exact controlInvariant_of_effect inv effect

/-- `child` is the revision that executed the decisions of `record`. -/
def RevisionOf (record : AgentApprovalCheckpoint) (child : BenchmarkResult) :
    Prop :=
  child.parentBenchmarkResultId = some record.benchmarkResultId ∧
    record.transitionBenchmarkResultId = some child.id

/-- A record has exactly one revision when it is denied or resumed and none
otherwise, and no result is a revision of no record. -/
structure RevisionsAgree (state : ControlPlane) : Prop where
  revised : ∀ record ∈ state.checkpoints, HasRevision record.status →
    ∃! child, child ∈ state.results ∧ RevisionOf record child
  unrevised : ∀ record ∈ state.checkpoints, ¬ HasRevision record.status →
    ∀ child ∈ state.results, ¬ RevisionOf record child
  owned : ∀ child ∈ state.results, child.parentBenchmarkResultId ≠ none →
    ∃ record ∈ state.checkpoints,
      HasRevision record.status ∧ RevisionOf record child

theorem revisionsAgree_of_invariant {state : ControlPlane} (inv : ControlInvariant state) :
    RevisionsAgree state where
  revised record mem revised := by
    obtain ⟨child, childMem, link, isChild⟩ :=
      inv.linked record mem revised
    refine ⟨child, ⟨childMem, isChild, link⟩, ?_⟩
    intro other ⟨otherMem, _, otherLink⟩
    have sameId : other.id = child.id :=
      Option.some.inj (otherLink.symm.trans link)
    exact Table.eq_of_key_eq otherMem childMem sameId
  unrevised record mem unrevised child _ isRevision := by
    have unlinked := inv.unlinked record mem unrevised
    rw [isRevision.2] at unlinked
    cases unlinked
  owned child mem isChild := by
    obtain ⟨parent, ofParent⟩ := Option.ne_none_iff_exists'.mp isChild
    obtain ⟨record, recordMem, ofResult, link⟩ :=
      inv.owned child mem parent ofParent
    refine ⟨record, recordMem, ?_, ?_, link⟩
    · by_contra unrevised
      rw [inv.unlinked record recordMem unrevised] at link
      cases link
    · rw [ofParent, ofResult]

/-- In every run records move along the arrows with their versions, new ones are pending with
version 1, an operation that raises changes due records only, and the revisions agree with the
statuses. -/
theorem stateMachine_of_execution {operations : List Operation} {before after : ControlPlane}
    {op : Operation} (exec : Execution (Step env) ControlPlane.empty operations before)
    (taken : Step env before op after) :
    (∀ record ∈ before.checkpoints, ∃ next ∈ after.checkpoints,
      next.id = record.id ∧ StatusStep record next) ∧
    (∀ next ∈ after.checkpoints, (∃ record ∈ before.checkpoints, record.id = next.id) ∨
        (next.status = .pending ∧ next.version = 1)) ∧
    (∀ raised, (operate env before op).2 = .error raised → KeptByRaise op.now before after) ∧
    RevisionsAgree after ∧
    (∀ runtime req, op = .resume runtime req →
      ∀ record ∈ before.checkpoints, record.id = req.checkpointRecordId →
        record.status = .resumed → after = before) := by
  have outcome := outcome_of_step taken
  obtain ⟨created, effect⟩ := effect_of_outcome outcome
  refine ⟨?_, ?_, ?_, ?_, ?_⟩
  · intro record mem
    obtain ⟨next, nextMem, succeeds⟩ := effect.recordKept record mem
    exact ⟨next, nextMem, succeeds.request.id, succeeds.statusStep⟩
  · intro next mem
    rcases effect.recordOrigin next mem with
      ⟨record, recordMem, succeeds⟩ | ⟨pending, version, _⟩
    · exact Or.inl ⟨record, recordMem, succeeds.request.id.symm⟩
    · exact Or.inr ⟨pending, version⟩
  · intro raised isRaised
    rw [isRaised] at outcome
    exact keptByRaise_of_outcome outcome
  · have inv := controlInvariant_of_execution (exec.snoc taken)
    exact revisionsAgree_of_invariant inv
  · intro runtime req isResume record mem named resumed
    subst isResume
    rw [← step_iff.mp taken]
    exact resume_of_resumed mem named resumed

/-! ## A resumed checkpoint -/

def plainEnvironment : ControlEnvironment where
  text := { lower := id, render := fun _ => "" }
  hashPayload _ := "hash"
  uuidText id := toString id
  isoFormat time := toString time

/-- An operator with the role `ops`. -/
def opsIdentity (subjectId : String) : SignerIdentity where
  subjectId := subjectId
  displayName := subjectId
  role := some "ops"
  identityProvider := "idp"
  authSource := "header"
  identityVerified := true
  ticketReference := none

/-- A case whose plan waits for the checkpoint `gate`. -/
def waitingResult : BenchmarkResult where
  id := 0
  benchmarkRunId := 0
  sampleId := "sample"
  evaluationCase := some ⟨0, "case", .obj []⟩
  deploymentConfigurationId := some 0
  parentBenchmarkResultId := none
  rootBenchmarkResultId := none
  revisionNumber := 1
  trace := some (.obj [("steps", .arr [.obj
    [("action", .str "approval_checkpoint"), ("status", .str "pending"),
      ("output", .obj [("checkpoint_id", .str "gate")])]])])
  controlLink := none

/-- A contract that lets the role `ops` decide and resume. -/
def opsContract : Json :=
  .obj [("approval_policy", .obj
    [("allowed_roles", .arr [.str "ops"]),
      ("resume_roles", .arr [.str "ops"])])]

def gateRequest (expectedVersion : Int) : CheckpointRequest where
  checkpointRecordId := 1
  expectedVersion := expectedVersion
  signerIdentity := opsIdentity "approver"
  now := 60

def approvingOperations : List Operation :=
  [.execute waitingResult (some opsContract) (opsIdentity "requester") 0,
    .decide (fun _ _ _ => .ok (.obj [])) (gateRequest 1) .approved "reviewed"]

def approvedPlane : ControlPlane :=
  (perform (nextControlPlane plainEnvironment) .empty approvingOperations).get (by rfl)

def resumeGate : Operation :=
  .resume (fun _ _ _ => .ok (.obj [])) (gateRequest 2)

def resumedPlane : ControlPlane :=
  (operate plainEnvironment approvedPlane resumeGate).1

theorem approvedPlane_execution : Execution (Step plainEnvironment) .empty approvingOperations
      approvedPlane :=
  Execution.of_perform (Option.some_get _).symm

theorem stateMachine_of_execution_resumed : resumedPlane.checkpoints.rows.map
        (fun record => (record.status, record.version)) =
      [(.resumed, 3)] ∧
    (∀ record ∈ approvedPlane.checkpoints, ∃ next ∈ resumedPlane.checkpoints,
        next.id = record.id ∧ StatusStep record next) ∧
    RevisionsAgree resumedPlane := by
  have run := stateMachine_of_execution approvedPlane_execution
    (step_iff.mpr (rfl : _ = resumedPlane))
  exact ⟨rfl, run.1, run.2.2.2.1⟩

end ModelAtlas.Approval
