import ModelAtlas.Approval.RevisionHistory

/-!
# Transitions in flight

A transition in flight holds the only record of its result, so the result is the
last of its lineage until the transition commits, and its number is still above
the others then.
-/

namespace ModelAtlas.Approval

open Foundations Agent

variable {record : AgentApprovalCheckpoint}

structure PlainContexts (env : ControlEnvironment)
    (contextOf : Uuid → RevisionContext) : Prop where
  text : ∀ rootId, (contextOf rootId).env.text = env.text
  plain : ∀ rootId,
    PlainTexts (contextOf rootId).env.toAgentEnvironment

theorem PlainContexts.lower {env : ControlEnvironment} {contextOf : Uuid → RevisionContext}
    (contexts : PlainContexts env contextOf) :
    LowerDecisions env.text := by
  intro decision
  have plainText : isPlainText decision.text = true := by
    cases decision <;> decide
  have lowered := (contexts.plain 0).lower decision.text plainText
  have sameText : (contextOf 0).env.toAgentEnvironment.text =
      env.text := contexts.text 0
  rw [sameText] at lowered
  exact lowered

def revisionDecision (denial : Option String) : CheckpointDecision :=
  if denial.isSome then .denied else .approved

structure InFlight (env : ControlEnvironment)
    (contextOf : Uuid → RevisionContext) (state : ControlPlane)
    (transition : RevisionTransition) : Prop where
  mem : transition.record ∈ state.checkpoints
  named : transition.record.id = transition.request.checkpointRecordId
  ofResult : transition.record.benchmarkResultId = transition.result.id
  status : transition.record.status =
    requiredStatus (revisionKind transition.denial)
  stored : transition.result.version ∈ state.versions
  above : ∀ version ∈ state.versions,
    version.rootId = transition.result.rootId →
      version.number < transition.number
  executed : ∃ decisions,
    (contextOf transition.result.rootId).traceUnder decisions =
      some transition.trace
  keeps : KeepsDecisions env.text transition.result.trace
    (some transition.trace)
  reasoned : ∀ reason, transition.denial = some reason →
    GivesDecision reason transition.request.signerIdentity
  carries : ∃ recorded, CarriesDecision env.text transition.trace
      transition.record.checkpointId recorded ∧
    recorded.get? "decision" =
      some (.str (revisionDecision transition.denial).text)

section Transitions

variable {env : ControlEnvironment} {contextOf : Uuid → RevisionContext}
  {state after : ControlPlane} {res : BenchmarkResult}
  {transition other : RevisionTransition}

theorem InFlight.noRevision (inFlight : InFlight env contextOf state transition) :
    ¬ HasRevision transition.record.status := by
  rw [inFlight.status, revisionKind]
  split
  · exact (by decide : ¬ HasRevision .pending)
  · exact (by decide : ¬ HasRevision .approved)

theorem InFlight.childless (books : RevisionBooks env contextOf state)
    (inFlight : InFlight env contextOf state transition) :
    Childless state.versions transition.result.version :=
  books.childless inFlight.mem inFlight.noRevision inFlight.ofResult.symm

theorem InFlight.sameRecord (books : RevisionBooks env contextOf state)
    (inFlight : InFlight env contextOf state transition)
    (otherFlight : InFlight env contextOf state other)
    (sameRoot : transition.result.rootId = other.result.rootId) :
    transition.record = other.record := by
  have lineage := books.lineage
  have otherLe := lineage.childlessLast transition.result.version
    inFlight.stored (inFlight.childless books) other.result.version
    otherFlight.stored sameRoot.symm
  have le := lineage.childlessLast other.result.version otherFlight.stored
    (otherFlight.childless books) transition.result.version inFlight.stored
    sameRoot
  have sameVersion := lineage.numbers transition.result.version inFlight.stored
    other.result.version otherFlight.stored sameRoot (le_antisymm le otherLe)
  have sameId : transition.result.id = other.result.id :=
    congrArg Version.id sameVersion
  apply books.oneRecord inFlight.mem otherFlight.mem
  rw [inFlight.ofResult, otherFlight.ofResult, sameId]

theorem le_foldl_max {numbers : List Int} {start number : Int}
    (reached : number ≤ start ∨ number ∈ numbers) :
    number ≤ numbers.foldl max start := by
  induction numbers generalizing start with
  | nil =>
    rcases reached with le | mem
    · exact le
    · cases mem
  | cons head rest ih =>
    rw [List.foldl_cons]
    apply ih
    rcases reached with le | mem
    · exact Or.inl (le_max_of_le_left le)
    · rcases List.mem_cons.mp mem with rfl | later
      · exact Or.inl (le_max_right _ _)
      · exact Or.inr later

theorem lt_nextRevision {version : Version (Option Json)} (mem : version ∈ state.versions)
    (sameRoot : version.rootId = res.rootId) :
    version.number < nextRevision state res := by
  obtain ⟨row, rowMem, rfl⟩ := mem
  have ofLineage : row.id = res.rootId ∨ row.rootBenchmarkResultId = some res.rootId := by
    have isRoot : row.rootBenchmarkResultId.getD row.id = res.rootId :=
      sameRoot
    cases root : row.rootBenchmarkResultId with
    | none =>
      rw [root, Option.getD_none] at isRoot
      exact Or.inl isRoot
    | some rootId =>
      rw [root, Option.getD_some] at isRoot
      exact Or.inr (congrArg some isRoot)
  have counted : row.revisionNumber ∈ (state.results.rows.filter (fun other =>
      other.id = res.rootId || other.rootBenchmarkResultId =
        some res.rootId)).map BenchmarkResult.revisionNumber := by
    refine List.mem_map.mpr ⟨row, List.mem_filter.mpr ⟨rowMem, ?_⟩, rfl⟩
    rw [Bool.or_eq_true, decide_eq_true_eq, decide_eq_true_eq]
    exact ofLineage
  have bounded : row.revisionNumber ≤ ((state.results.rows.filter (fun other =>
      other.id = res.rootId || other.rootBenchmarkResultId =
        some res.rootId)).map BenchmarkResult.revisionNumber).foldl max 1 :=
    le_foldl_max (Or.inr counted)
  show row.revisionNumber < max _ _ + 1
  exact Int.lt_add_one_of_le (le_max_of_le_left bounded)

theorem RevisionBooks.recordsOf_eq (books : RevisionBooks env contextOf state)
    (mem : record ∈ state.checkpoints) :
    state.recordsOf record.benchmarkResultId = [record] := by
  have all : ∀ other ∈ state.recordsOf record.benchmarkResultId, other = record := by
    intro other isOther
    obtain ⟨otherMem, owns⟩ := List.mem_filter.mp isOther
    exact books.oneRecord otherMem mem (of_decide_eq_true owns)
  have here : record ∈ state.recordsOf record.benchmarkResultId :=
    List.mem_filter.mpr ⟨mem, decide_eq_true rfl⟩
  have nodup : (state.recordsOf record.benchmarkResultId).Nodup :=
    (List.Nodup.of_map _ state.checkpoints.keysNodup).filter _
  cases listed : state.recordsOf record.benchmarkResultId with
  | nil =>
    rw [listed] at here
    cases here
  | cons first rest =>
    rw [listed] at all nodup
    have isFirst := all first List.mem_cons_self
    cases rest with
    | nil => rw [isFirst]
    | cons second others =>
      have isSecond := all second (by simp)
      rw [isFirst, isSecond] at nodup
      simp at nodup

theorem revisionDecisions_singleton {decision : CheckpointDecision} {trace : Json}
    (decided : record.decision = some decision)
    (status : record.status = .approved ∨ record.status = .denied)
    (stored : res.trace = some trace) :
    revisionDecisions env res [record] =
      Json.setMember (approvalDecisionsFromAgentTrace env.text trace)
        record.checkpointId (decisionForRuntime env record) := by
  have selected : (record.decision.isSome && (record.status = .approved ||
      record.status = .denied || record.status = .resumed)) = true := by
    rw [decided, Option.isSome_some, Bool.true_and]
    rcases status with isStatus | isStatus
    · rw [isStatus]
      decide
    · rw [isStatus]
      decide
  rw [revisionDecisions, List.filter_cons, if_pos selected, List.filter_nil, stored]
  rfl

theorem decisionRecords_eq (lower : LowerDecisions env.text)
    (books : RevisionBooks env contextOf state)
    {req : CheckpointRequest} {denial : Option String}
    {evaluation : AgentCheckpointPolicyEvaluation}
    (accepted : Accepted env state (revisionKind denial) req record evaluation)
    (ofResult : record.benchmarkResultId = res.id)
    (given : ∀ reason, denial = some reason → GivesDecision reason req.signerIdentity) :
    ∃ decided, decisionRecords env state req denial record res evaluation = [decided] ∧
      decided.checkpointId = record.checkpointId ∧
      DecisionGiven env decided (revisionDecision denial) ∧
      (decided.status = .approved ∨ decided.status = .denied) := by
  cases denial with
  | none =>
    have approved : record.status = .approved := accepted.status
    refine ⟨record, ?_, rfl, (books.decided record accepted.mem).1 (Or.inl approved),
      Or.inl approved⟩
    rw [decisionRecords, ← ofResult]
    exact books.recordsOf_eq accepted.mem
  | some reason =>
    refine ⟨(decideChange env req .denied reason evaluation
      none).apply record, rfl, (decideChange env req .denied reason
        evaluation none).keepsCheckpoint record, ?_, ?_⟩
    · simp only [decideChange, if_pos accepted.recordId]
      exact decisionGiven_of_reason lower rfl rfl rfl (given reason rfl)
    · simp only [decideChange, if_pos accepted.recordId]
      exact Or.inr rfl

theorem carries_of_executed (contexts : PlainContexts env contextOf)
    {rootId : Uuid} {trace next waiting raw normalized : Json}
    {decisions : Option Json} {checkpointId : String}
    {decision : CheckpointDecision}
    (executed : (contextOf rootId).traceUnder decisions = some trace)
    (revised : (contextOf rootId).traceUnder (some (.obj (Json.setMember
      (approvalDecisionsFromAgentTrace env.text trace) checkpointId
      raw))) = some next)
    (pending : waiting ∈ pendingCheckpointSteps trace)
    (isWaiting : checkpointId = strippedMember env.text
      (waiting.objectOr "output") "checkpoint_id")
    (given : normalizeApprovalDecision env.text raw = some normalized)
    (isDecision : normalized.get? "decision" = some (.str decision.text)) :
    KeepsDecisions env.text (some trace) (some next) ∧
      ∃ recorded, CarriesDecision env.text next checkpointId recorded ∧
        recorded.get? "decision" = some (.str decision.text) := by
  have sameText := contexts.text rootId
  rw [← sameText] at revised isWaiting given
  obtain ⟨kept, carried⟩ := RevisionContext.carries (contexts.plain rootId)
    executed revised pending isWaiting given
  rw [sameText] at kept carried
  refine ⟨?_, _, carried, recordedDecision_decision isDecision⟩
  intro own isOwn name recorded carries
  rw [← Option.some.inj isOwn] at carries
  exact ⟨next, rfl, kept name recorded carries⟩

theorem inFlight_of_begun (contexts : PlainContexts env contextOf)
    {sys : RevisionSystem} {runtime : RevisionRuntime}
    {req : CheckpointRequest} {denial : Option String}
    (books : RevisionBooks env contextOf sys.plane)
    (keeps : KeepsContext contextOf sys (.begin runtime req denial))
    (begun : Begun env runtime sys.plane req denial transition) :
    InFlight env contextOf sys.plane transition := by
  obtain ⟨reasoned, inContext⟩ := keeps
  have accepted := begun.accepted
  obtain ⟨row, rowMem, rowId, trace, decisions, stored, executed, waiting,
    pending, isWaiting⟩ := books.requested transition.record accepted.mem
  have isResult : row = transition.result :=
    Table.eq_of_key_eq rowMem begun.stored (rowId.trans begun.ofResult)
  rw [isResult] at stored executed
  obtain ⟨decided, isRecords, sameCheckpoint, ⟨isDecision, normalized, given,
    recordedDecision⟩, status⟩ := decisionRecords_eq contexts.lower books accepted
      begun.ofResult reasoned
  obtain ⟨revision, revised, sameTrace, sameNumber⟩ := begun.revised
  rw [isRecords] at revised
  obtain ⟨evalCase, ran, _⟩ := applyPersistedDecisions_eq_ok revised
  rw [revisionDecisions_singleton isDecision status stored, sameCheckpoint, sameTrace] at ran
  have revisedIn := inContext _ _ _ _ ran
  obtain ⟨kept, carried⟩ := carries_of_executed contexts executed revisedIn pending
    isWaiting given recordedDecision
  have number : transition.number = nextRevision sys.plane transition.result := by
    rw [← sameNumber, revision_eq revised]
  constructor
  · exact accepted.mem
  · rw [begun.ofRequest]
    exact accepted.recordId
  · exact begun.ofResult
  · rw [begun.ofDenial]
    exact accepted.status
  · exact version_mem begun.stored
  · intro version mem sameRoot
    rw [number]
    exact lt_nextRevision mem sameRoot
  · exact ⟨_, revisedIn⟩
  · rw [stored]
    exact kept
  · rw [begun.ofDenial, begun.ofRequest]
    exact reasoned
  · rw [begun.ofDenial]
    exact carried

structure ExecutesRecord (env : ControlEnvironment)
    (record : AgentApprovalCheckpoint) (child : BenchmarkResult)
    (change : CheckpointChange) : Prop where
  executes : HasRevision (change.apply record).status
  decided : RecordDecided env (change.apply record)
  carried : ∃ decision trace recorded,
    (change.apply record).decision = some decision ∧ child.trace = some trace ∧
      CarriesDecision env.text trace record.checkpointId recorded ∧
      recorded.get? "decision" = some (.str decision.text)

theorem RevisionBooks.insertChild (books : RevisionBooks env contextOf state)
    (inFlight : InFlight env contextOf state transition)
    {change : CheckpointChange} (drawn : (transition.child state).id = state.uuids)
    (executes : ExecutesRecord env transition.record (transition.child state) change)
    (others : ∀ record ∈ state.checkpoints, record ≠ transition.record →
      change.apply record = record) :
    RevisionBooks env contextOf
      ((state.insertResult (transition.child state) drawn).changeCheckpoints change) := by
  have mem := inFlight.mem
  have childTrace : (transition.child state).trace = some transition.trace := rfl
  have isParent : (transition.child state).version.parent = some transition.result.version.id := rfl
  have sameRoot : (transition.child state).version.rootId =
      transition.result.version.rootId := rfl
  have ownResult : (change.apply transition.record).benchmarkResultId =
      transition.result.id :=
    (change.keepsResult transition.record).trans inFlight.ofResult
  have ownMem : change.apply transition.record ∈ ((state.insertResult
      (transition.child state) drawn).changeCheckpoints change).checkpoints :=
    ControlPlane.mem_changeCheckpoints.mpr ⟨transition.record, mem, rfl⟩
  have childMem : transition.child state ∈ ((state.insertResult
      (transition.child state) drawn).changeCheckpoints change).results :=
    (ControlPlane.mem_insertResult drawn).mpr (Or.inr rfl)
  constructor
  · have chained : Lineage (KeepsDecisions env.text)
        (insert (transition.child state).version state.versions) (state.uuids + 1) :=
      books.lineage.insertChild (KeepsDecisions.refl env.text) (KeepsDecisions.trans env.text)
        inFlight.stored (inFlight.childless books)
        drawn isParent sameRoot (fun version versionMem ofRoot =>
          inFlight.above version versionMem ofRoot) inFlight.keeps
    rw [← versions_insertResult drawn] at chained
    exact chained
  · intro version versionMem
    have inserted : version ∈ insert (transition.child state).version
        state.versions := by
      rw [← versions_insertResult drawn]
      exact versionMem
    rcases inserted with rfl | old
    · have parentPositive := books.positive _ inFlight.stored
      have parentBelow := inFlight.above _ inFlight.stored rfl
      exact le_trans parentPositive (le_of_lt parentBelow)
    · exact books.positive version old
  · exact (planInvariant_change change (planInvariant_insertResult drawn
      books.planInvariant)).distinct
  · intro new newMem
    obtain ⟨old, oldMem, rfl⟩ := ControlPlane.mem_changeCheckpoints.mp newMem
    exact ((books.requested old oldMem).insertResult drawn).change change
  · intro new newMem
    obtain ⟨old, oldMem, rfl⟩ := ControlPlane.mem_changeCheckpoints.mp newMem
    by_cases own : old = transition.record
    · rw [own]
      exact executes.decided
    · rw [others old oldMem own]
      exact books.decided old oldMem
  · intro version versionMem parentId ofParent
    have inserted : version ∈ insert (transition.child state).version
        state.versions := by
      rw [← versions_insertResult drawn]
      exact versionMem
    rcases inserted with rfl | old
    · have isResult : transition.result.id = parentId :=
        Option.some.inj (isParent.symm.trans ofParent)
      exact ⟨_, ownMem, ownResult.trans isResult, executes.executes⟩
    · obtain ⟨record, recordMem, owns, revised⟩ :=
        books.executed version old parentId ofParent
      have apart : record ≠ transition.record := by
        intro own
        rw [own] at revised
        exact inFlight.noRevision revised
      exact ⟨record, ControlPlane.mem_changeCheckpoints.mpr ⟨record,
        recordMem, others record recordMem apart⟩, owns, revised⟩
  · intro new newMem revised
    obtain ⟨old, oldMem, rfl⟩ := ControlPlane.mem_changeCheckpoints.mp newMem
    by_cases own : old = transition.record
    · obtain ⟨decision, trace, recorded, isDecision, isTrace, carries⟩ :=
        executes.carried
      rw [own]
      refine ⟨transition.child state, childMem, ?_, decision, trace, recorded,
        isDecision, isTrace, ?_⟩
      · rw [ownResult]
        rfl
      · rw [change.keepsCheckpoint]
        exact carries
    · rw [others old oldMem own] at revised ⊢
      exact (books.carried old oldMem revised).insertResult drawn

theorem executesRecord_denial (lower : LowerDecisions env.text)
    (inFlight : InFlight env contextOf state transition) {reason : String}
    (isDenial : transition.denial = some reason) (child : Option BenchmarkResult) :
    ExecutesRecord env transition.record (transition.child state)
      (decideChange env transition.request .denied reason transition.evaluation child) := by
  have named := inFlight.named
  obtain ⟨recorded, carries, isDecision⟩ := inFlight.carries
  rw [isDenial] at isDecision
  constructor
  · simp only [decideChange, if_pos named]
    exact (by decide : HasRevision .denied)
  · simp only [decideChange, if_pos named]
    constructor
    · rintro (isStatus | isStatus)
      · cases isStatus
      · cases isStatus
    · exact fun _ => decisionGiven_of_reason lower rfl rfl rfl (inFlight.reasoned reason isDenial)
  · refine ⟨.denied, transition.trace, recorded, ?_, rfl, carries, isDecision⟩
    simp only [decideChange, if_pos named]

theorem executesRecord_resume (books : RevisionBooks env contextOf state)
    (inFlight : InFlight env contextOf state transition) (isResume : transition.denial = none) :
    ExecutesRecord env transition.record (transition.child state)
      (resumeChange env transition.request transition.result
        transition.evaluation (transition.child state) transition.number) := by
  have approved : transition.record.status = .approved := by
    rw [inFlight.status, isResume]
    rfl
  have consumed : transition.record.benchmarkResultId = transition.result.id ∧
      transition.record.status = .approved := ⟨inFlight.ofResult, approved⟩
  have given : DecisionGiven env transition.record .approved :=
    (books.decided _ inFlight.mem).1 (Or.inl approved)
  obtain ⟨recorded, carries, isDecision⟩ := inFlight.carries
  rw [isResume] at isDecision
  constructor
  · simp only [resumeChange, if_pos consumed]
    exact (by decide : HasRevision .resumed)
  · simp only [resumeChange, if_pos consumed]
    constructor
    · exact fun _ => given
    · intro isStatus
      cases isStatus
  · refine ⟨.approved, transition.trace, recorded, ?_, rfl, carries, isDecision⟩
    simp only [resumeChange, if_pos consumed]
    exact given.1

theorem decideChange_other (inFlight : InFlight env contextOf state transition)
    {reason : String} {child : Option BenchmarkResult} (mem : record ∈ state.checkpoints)
    (apart : record ≠ transition.record) :
    (decideChange env transition.request .denied reason
      transition.evaluation child).apply record = record := by
  apply if_neg
  intro named
  apply apart
  exact Table.eq_of_key_eq mem inFlight.mem (named.trans inFlight.named.symm)

theorem resumeChange_other (books : RevisionBooks env contextOf state)
    (inFlight : InFlight env contextOf state transition) {child : BenchmarkResult} {number : Int}
    (mem : record ∈ state.checkpoints) (apart : record ≠ transition.record) :
    (resumeChange env transition.request transition.result
      transition.evaluation child number).apply record = record := by
  apply if_neg
  intro consumed
  apply apart
  exact books.oneRecord mem inFlight.mem (consumed.1.trans inFlight.ofResult.symm)

structure Commits (env : ControlEnvironment)
    (contextOf : Uuid → RevisionContext) (before after : ControlPlane)
    (transition : RevisionTransition) : Prop where
  books : RevisionBooks env contextOf after
  versions : after.versions =
    insert (transition.child before).version before.versions
  others : ∀ record ∈ before.checkpoints, record ≠ transition.record →
    record ∈ after.checkpoints

theorem commits_of_inFlight (lower : LowerDecisions env.text)
    (books : RevisionBooks env contextOf state)
    (inFlight : InFlight env contextOf state transition) :
    Commits env contextOf state (commitRevision env state transition) transition := by
  have inserted := @versions_insertResult state (transition.child state) rfl
  cases isDenial : transition.denial with
  | some reason =>
    have isState : commitRevision env state transition =
        (state.insertResult (transition.child state) rfl).changeCheckpoints
          (decideChange env transition.request .denied reason
            transition.evaluation (some (transition.child state))) := by
      rw [commitRevision, isDenial]
    rw [isState]
    refine ⟨?_, inserted, ?_⟩
    · exact books.insertChild inFlight rfl (executesRecord_denial lower inFlight isDenial _)
        (fun record mem apart => decideChange_other inFlight mem apart)
    · intro record mem apart
      exact ControlPlane.mem_changeCheckpoints.mpr ⟨record, mem,
        decideChange_other inFlight mem apart⟩
  | none =>
    have isState : commitRevision env state transition = (materializePendingAgentCheckpoints env
          ((state.insertResult (transition.child state) rfl).changeCheckpoints
            (resumeChange env transition.request transition.result
              transition.evaluation (transition.child state)
              transition.number))
          (transition.child state) transition.trace
          ((transition.result.evaluationCase.map EvaluationCase.contract).getD (.obj []))
          (identityFromJson transition.record.requestedByIdentityJson)
          transition.request.now).1 := by
      rw [commitRevision, isDenial]
      rfl
    have revised : RevisionBooks env contextOf
        ((state.insertResult (transition.child state) rfl).changeCheckpoints
          (resumeChange env transition.request transition.result
            transition.evaluation (transition.child state)
            transition.number)) :=
      books.insertChild inFlight rfl (executesRecord_resume books inFlight isDenial)
        (fun record mem apart =>
          resumeChange_other books inFlight mem apart)
    obtain ⟨decisions, executed⟩ := inFlight.executed
    have childMem : transition.child state ∈ ((state.insertResult
        (transition.child state) rfl).changeCheckpoints (resumeChange
          env transition.request transition.result
          transition.evaluation (transition.child state)
          transition.number)).results :=
      (ControlPlane.mem_insertResult rfl).mpr (Or.inr rfl)
    have executedChild : (contextOf (transition.child state).rootId).traceUnder
        decisions = some transition.trace := executed
    rw [isState]
    refine ⟨revised.materialize childMem rfl executedChild, ?_, ?_⟩
    · rw [versions_of_gains (Gains.of_materialize _ _ _ _)]
      exact inserted
    · intro record mem apart
      have kept : record ∈ ((state.insertResult (transition.child state)
          rfl).changeCheckpoints (resumeChange env transition.request
            transition.result transition.evaluation (transition.child state)
            transition.number)).checkpoints :=
        ControlPlane.mem_changeCheckpoints.mpr ⟨record, mem,
          resumeChange_other books inFlight mem apart⟩
      exact (Gains.of_materialize _ _ _ _).recordKept record kept

/-- A transition in flight is left as it is by a step that keeps its record and
adds revisions of other lineages only. -/
theorem InFlight.beside (inFlight : InFlight env contextOf state transition)
    (mem : transition.record ∈ after.checkpoints) (kept : state.versions ⊆ after.versions)
    (added : ∀ version ∈ after.versions, version ∈ state.versions ∨
      version.rootId ≠ transition.result.rootId) :
    InFlight env contextOf after transition :=
  { inFlight with
    mem := mem
    stored := kept inFlight.stored
    above := by
      intro version versionMem sameRoot
      rcases added version versionMem with old | apart
      · exact inFlight.above version old sameRoot
      · exact absurd sameRoot apart }

theorem InFlight.besideCall (books : RevisionBooks env contextOf state)
    (inFlight : InFlight env contextOf state transition)
    (keeps : CallKeeps env contextOf state after)
    (unlocked : after.checkpoint? transition.record.id = state.checkpoint? transition.record.id) :
    InFlight env contextOf after transition := by
  refine inFlight.beside ?_ keeps.kept ?_
  · have found : state.checkpoint? transition.record.id = some transition.record :=
      Table.find?_eq_some_iff.mpr ⟨inFlight.mem, rfl⟩
    rw [← unlocked] at found
    exact (Table.find?_eq_some_iff.mp found).1
  · intro version mem
    rcases keeps.added version mem with old | fresh
    · exact Or.inl old
    · right
      have drawn : transition.result.rootId < state.uuids :=
        (books.lineage.drawn _ inFlight.stored).2
      rw [fresh]
      exact Nat.ne_of_gt drawn

theorem InFlight.besideCommit (books : RevisionBooks env contextOf state)
    (inFlight : InFlight env contextOf state transition)
    (committed : InFlight env contextOf state other)
    (apart : transition.record.id ≠ other.record.id)
    (commits : Commits env contextOf state after other) :
    InFlight env contextOf after transition := by
  refine inFlight.beside ?_ ?_ ?_
  · apply commits.others transition.record inFlight.mem
    intro same
    exact apart (congrArg AgentApprovalCheckpoint.id same)
  · rw [commits.versions]
    exact Set.subset_insert _ _
  · intro version mem
    rw [commits.versions] at mem
    rcases mem with rfl | old
    · right
      intro sameRoot
      have same := inFlight.sameRecord books committed sameRoot.symm
      exact apart (congrArg AgentApprovalCheckpoint.id same)
    · exact Or.inl old

end Transitions

end ModelAtlas.Approval
