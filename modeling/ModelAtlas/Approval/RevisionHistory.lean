import ModelAtlas.Approval.Revisions

/-!
# The history of revisions

A result has one checkpoint record at most, so its revisions form a chain. Each
carries the decisions of those before where they are executed in one context.
-/

namespace ModelAtlas.Approval

open Foundations Agent

variable {trace contract : Json} {requester : SignerIdentity} {now : Time}
  {record : AgentApprovalCheckpoint} {reason : String}

/-! ## Versions of a result -/

def KeepsDecisions (text : TextEnvironment) (earlier later : Option Json) :
    Prop :=
  ∀ trace, earlier = some trace → ∀ name recorded, CarriesDecision text trace name recorded →
      ∃ next, later = some next ∧ CarriesDecision text next name recorded

theorem KeepsDecisions.refl (text : TextEnvironment) (trace : Option Json) :
    KeepsDecisions text trace trace :=
  fun own isOwn _ _ carries => ⟨own, isOwn, carries⟩

theorem KeepsDecisions.trans (text : TextEnvironment) (first second third : Option Json)
    (earlier : KeepsDecisions text first second) (later : KeepsDecisions text second third) :
    KeepsDecisions text first third := by
  intro trace isTrace name recorded carries
  obtain ⟨next, isNext, nextCarries⟩ := earlier trace isTrace name recorded carries
  exact later next isNext name recorded nextCarries

/-- `result.root_benchmark_result_id or result.id`. -/
def BenchmarkResult.rootId (res : BenchmarkResult) : Uuid :=
  res.rootBenchmarkResultId.getD res.id

def BenchmarkResult.version (res : BenchmarkResult) : Version (Option Json) where
  id := res.id
  parent := res.parentBenchmarkResultId
  rootId := res.rootId
  number := res.revisionNumber
  content := res.trace

def ControlPlane.versions (state : ControlPlane) : Set (Version (Option Json)) :=
  {version | ∃ res ∈ state.results, res.version = version}

section Versions

variable {env : ControlEnvironment} {before after state : ControlPlane}
  {res : BenchmarkResult}

theorem version_mem (mem : res ∈ state.results) : res.version ∈ state.versions :=
  ⟨res, mem, rfl⟩

theorem SameRevision.version {old new : BenchmarkResult}
    (same : SameRevision old new) : new.version = old.version := by
  have equal : { new with controlLink := old.controlLink } = old := same
  have sameVersion := congrArg BenchmarkResult.version equal
  exact sameVersion

theorem versions_of_gains (gained : Gains env res trace before after) :
    after.versions = before.versions := by
  ext version
  constructor
  · rintro ⟨next, mem, rfl⟩
    obtain ⟨row, rowMem, same⟩ := gained.resultOrigin next mem
    exact ⟨row, rowMem, same.version.symm⟩
  · rintro ⟨row, mem, rfl⟩
    obtain ⟨next, nextMem, same⟩ := gained.resultKept row mem
    exact ⟨next, nextMem, same.version⟩

theorem versions_insertResult (drawn : res.id = state.uuids) :
    (state.insertResult res drawn).versions = insert res.version state.versions := by
  ext version
  constructor
  · rintro ⟨row, mem, rfl⟩
    rcases (ControlPlane.mem_insertResult drawn).mp mem with old | rfl
    · exact Set.mem_insert_of_mem _ ⟨row, old, rfl⟩
    · exact Set.mem_insert _ _
  · rintro (rfl | ⟨row, mem, rfl⟩)
    · exact ⟨res, (ControlPlane.mem_insertResult drawn).mpr (Or.inr rfl), rfl⟩
    · exact ⟨row, (ControlPlane.mem_insertResult drawn).mpr (Or.inl mem), rfl⟩

theorem uuids_materializeStep {step : Json} (prog : ControlPlane × List AgentApprovalCheckpoint) :
    prog.1.uuids ≤ (materializeStep env res trace contract requester now prog step).1.uuids := by
  rw [materializeStep]
  split
  · exact Nat.le_refl _
  · exact Nat.le_succ _

theorem uuids_materialize : before.uuids ≤ (materializePendingAgentCheckpoints env before res
      trace contract requester now).1.uuids := by
  have looped : ∀ (steps : List Json) (prog : ControlPlane × List AgentApprovalCheckpoint),
      prog.1.uuids ≤ (steps.foldl (materializeStep env res trace
        contract requester now) prog).1.uuids := by
    intro steps
    induction steps with
    | nil => exact fun prog => Nat.le_refl _
    | cons step rest ih =>
      intro prog
      exact Nat.le_trans (uuids_materializeStep prog) (ih _)
  simp only [materializePendingAgentCheckpoints]
  split
  · exact looped _ (before, [])
  · exact looped _ (before, [])

end Versions

/-- The reason of a decision and the name that it is recorded under are not
blank, so that `_normalize_approval_decisions` keeps it. -/
def GivesDecision (reason : String) (signerIdentity : SignerIdentity) : Prop :=
  pyStrip reason ≠ "" ∧
    pyStrip (pyOr signerIdentity.displayName signerIdentity.subjectId) ≠ ""

def DecisionGiven (env : ControlEnvironment)
    (record : AgentApprovalCheckpoint) (decision : CheckpointDecision) : Prop :=
  record.decision = some decision ∧ ∃ normalized, normalizeApprovalDecision env.text
        (decisionForRuntime env record) = some normalized ∧
      normalized.get? "decision" = some (.str decision.text)

/-- `str.lower` keeps the texts of the decisions. -/
def LowerDecisions (text : TextEnvironment) : Prop :=
  ∀ decision : CheckpointDecision, text.lower decision.text = decision.text

theorem decisionGiven_of_reason {env : ControlEnvironment} (lower : LowerDecisions env.text)
    {decision : CheckpointDecision} {signerIdentity : SignerIdentity}
    (decided : record.decision = some decision) (reasoned : record.decisionReason = some reason)
    (signed : record.approverIdentityJson = some signerIdentity)
    (given : GivesDecision reason signerIdentity) :
    DecisionGiven env record decision := by
  obtain ⟨reasonGiven, nameGiven⟩ := given
  refine ⟨decided, ?_⟩
  have isDecision : rawDecision env.text (decisionForRuntime env record) = decision.text := by
    have stored : (decisionForRuntime env record).get? "decision" =
        some (.str decision.text) := by
      simp [decisionForRuntime, decided, Json.get?, Json.optionText]
    have stripped : pyStrip decision.text = decision.text := by
      cases decision <;> decide
    rw [rawDecision, stored, Json.pyStrOrEmpty_str, stripped, lower decision]
  have isName : pyStrip (Json.pyStrOrEmpty env.text.render
      ((decisionForRuntime env record).get? "decided_by")) ≠ "" := by
    have stored : (decisionForRuntime env record).get? "decided_by" =
        some (.str (pyOr signerIdentity.displayName signerIdentity.subjectId)) := by
      simp [decisionForRuntime, signed, Json.get?]
    rw [stored, Json.pyStrOrEmpty_str]
    exact nameGiven
  have isReason : pyStrip (Json.pyStrOrEmpty env.text.render
      ((decisionForRuntime env record).get? "reason")) ≠ "" := by
    have stored : (decisionForRuntime env record).get? "reason" =
        some (.str reason) := by
      simp [decisionForRuntime, reasoned, Json.get?, Json.optionText]
    rw [stored, Json.pyStrOrEmpty_str]
    exact reasonGiven
  have known : ["approved", "denied"].contains decision.text = true := by
    cases decision <;> decide
  have isObject : (decisionForRuntime env record).isObject = true := rfl
  refine ⟨.obj ([("decision", .str decision.text),
    ("decided_by", .str (pyStrip (Json.pyStrOrEmpty env.text.render
      ((decisionForRuntime env record).get? "decided_by")))),
    ("reason", .str (pyStrip (Json.pyStrOrEmpty env.text.render
      ((decisionForRuntime env record).get? "reason"))))] ++
    keptDecisionMembers.filterMap (decisionMember (decisionForRuntime env record))), ?_, rfl⟩
  simp only [normalizeApprovalDecision, isDecision, known, isObject, isName,
    isReason, decide_false, Bool.not_true, Bool.or_false]
  rfl

/-- A record that allows a resume, or was executed, has a decision that the
runtime is given. -/
def RecordDecided (env : ControlEnvironment) (record : AgentApprovalCheckpoint) : Prop :=
  (record.status = .approved ∨ record.status = .resumed → DecisionGiven env record .approved) ∧
  (record.status = .denied → DecisionGiven env record .denied)

/-- The record was requested by the trace of its result, which was executed in
the context of its root. -/
def RequestedIn (env : ControlEnvironment) (contextOf : Uuid → RevisionContext)
    (state : ControlPlane) (record : AgentApprovalCheckpoint) : Prop :=
  ∃ res ∈ state.results, res.id = record.benchmarkResultId ∧
    ∃ trace decisions, res.trace = some trace ∧
      (contextOf res.rootId).traceUnder decisions = some trace ∧
      ∃ step ∈ pendingCheckpointSteps trace, record.checkpointId = strippedMember env.text
          (step.objectOr "output") "checkpoint_id"

def CarriedByChild (env : ControlEnvironment) (state : ControlPlane)
    (record : AgentApprovalCheckpoint) : Prop :=
  ∃ child ∈ state.results, child.parentBenchmarkResultId = some record.benchmarkResultId ∧
    ∃ decision trace recorded, record.decision = some decision ∧ child.trace = some trace ∧
      CarriesDecision env.text trace record.checkpointId recorded ∧
      recorded.get? "decision" = some (.str decision.text)

structure RevisionBooks (env : ControlEnvironment)
    (contextOf : Uuid → RevisionContext) (state : ControlPlane) : Prop where
  lineage : Lineage (KeepsDecisions env.text) state.versions state.uuids
  positive : ∀ version ∈ state.versions, 1 ≤ version.number
  distinct : DistinctCheckpoints state
  requested : ∀ record ∈ state.checkpoints,
    RequestedIn env contextOf state record
  decided : ∀ record ∈ state.checkpoints, RecordDecided env record
  executed : ∀ version ∈ state.versions, ∀ parentId,
    version.parent = some parentId → ∃ record ∈ state.checkpoints,
      record.benchmarkResultId = parentId ∧ HasRevision record.status
  carried : ∀ record ∈ state.checkpoints, HasRevision record.status →
    CarriedByChild env state record

section Books

variable {env : ControlEnvironment} {contextOf : Uuid → RevisionContext}
  {before after state : ControlPlane} {res : BenchmarkResult}

theorem RevisionBooks.empty : RevisionBooks env contextOf .empty where
  lineage := by
    have noVersions : ControlPlane.empty.versions = ∅ := by
      ext version
      simp [ControlPlane.versions, ControlPlane.empty]
    rw [noVersions]
    exact Lineage.empty
  positive := by simp [ControlPlane.versions, ControlPlane.empty]
  distinct := by simp [DistinctCheckpoints, ControlPlane.empty]
  requested := by simp [ControlPlane.empty]
  decided := by simp [ControlPlane.empty]
  executed := by simp [ControlPlane.versions, ControlPlane.empty]
  carried := by simp [ControlPlane.empty]

theorem RevisionBooks.planInvariant (books : RevisionBooks env contextOf state) :
    PlanInvariant env state where
  requested record mem := by
    obtain ⟨res, resultMem, ofResult, trace, decisions, stored, executed,
      step⟩ := books.requested record mem
    exact ⟨res, resultMem, ofResult, trace, stored, RevisionContext.planTrace executed, step⟩
  distinct := books.distinct

theorem RevisionBooks.oneRecord (books : RevisionBooks env contextOf state)
    {left right : AgentApprovalCheckpoint} (leftMem : left ∈ state.checkpoints)
    (rightMem : right ∈ state.checkpoints)
    (sameResult : left.benchmarkResultId = right.benchmarkResultId) :
    left = right :=
  eq_of_sameResult books.planInvariant leftMem rightMem sameResult

theorem RevisionBooks.childless (books : RevisionBooks env contextOf state)
    (mem : record ∈ state.checkpoints)
    (noRevision : ¬ HasRevision record.status) {version : Version (Option Json)}
    (ofResult : version.id = record.benchmarkResultId) :
    Childless state.versions version := by
  intro other otherMem isChild
  obtain ⟨owner, ownerMem, owns, revised⟩ :=
    books.executed other otherMem _ isChild
  have same := books.oneRecord ownerMem mem (owns.trans ofResult)
  rw [same] at revised
  exact noRevision revised

structure CalmChange (env : ControlEnvironment) (state : ControlPlane)
    (change : CheckpointChange) : Prop where
  kept : ∀ record ∈ state.checkpoints, HasRevision record.status →
    change.apply record = record
  none : ∀ record ∈ state.checkpoints, ¬ HasRevision record.status →
    ¬ HasRevision (change.apply record).status
  decided : ∀ record ∈ state.checkpoints, RecordDecided env record →
    RecordDecided env (change.apply record)

theorem RequestedIn.change (requested : RequestedIn env contextOf state record)
    (change : CheckpointChange) :
    RequestedIn env contextOf state (change.apply record) := by
  rw [RequestedIn, change.keepsResult, change.keepsCheckpoint]
  exact requested

theorem RevisionBooks.change (books : RevisionBooks env contextOf state)
    {change : CheckpointChange} (calm : CalmChange env state change) :
    RevisionBooks env contextOf (state.changeCheckpoints change) where
  lineage := books.lineage
  positive := books.positive
  distinct := (planInvariant_change change books.planInvariant).distinct
  requested new mem := by
    obtain ⟨old, oldMem, rfl⟩ := ControlPlane.mem_changeCheckpoints.mp mem
    exact (books.requested old oldMem).change change
  decided new mem := by
    obtain ⟨old, oldMem, rfl⟩ := ControlPlane.mem_changeCheckpoints.mp mem
    exact calm.decided old oldMem (books.decided old oldMem)
  executed version mem parentId isParent := by
    obtain ⟨record, recordMem, owns, revised⟩ :=
      books.executed version mem parentId isParent
    have same := calm.kept record recordMem revised
    exact ⟨record, ControlPlane.mem_changeCheckpoints.mpr ⟨record, recordMem, same⟩, owns, revised⟩
  carried new mem revised := by
    obtain ⟨old, oldMem, rfl⟩ := ControlPlane.mem_changeCheckpoints.mp mem
    have wasRevised : HasRevision old.status := by
      by_contra notRevised
      exact calm.none old oldMem notRevised revised
    rw [calm.kept old oldMem wasRevised]
    exact books.carried old oldMem wasRevised

theorem RequestedIn.of_gains {other : BenchmarkResult} (gained : Gains env other trace before after)
    (requested : RequestedIn env contextOf before record) :
    RequestedIn env contextOf after record := by
  obtain ⟨row, mem, ofResult, own, decisions, stored, executed, step⟩ :=
    requested
  obtain ⟨next, nextMem, same⟩ := gained.resultKept row mem
  have sameVersion := same.version
  have sameRoot : next.rootId = row.rootId := congrArg Version.rootId sameVersion
  have sameTrace : next.trace = row.trace := congrArg Version.content sameVersion
  have sameId : next.id = row.id := congrArg Version.id sameVersion
  refine ⟨next, nextMem, sameId.trans ofResult, own, decisions, sameTrace.trans stored, ?_, step⟩
  rw [sameRoot]
  exact executed

theorem RevisionBooks.materialize (books : RevisionBooks env contextOf state)
    {decisions : Option Json} (mem : res ∈ state.results) (stored : res.trace = some trace)
    (executed : (contextOf res.rootId).traceUnder decisions = some trace) :
    RevisionBooks env contextOf (materializePendingAgentCheckpoints
      env state res trace contract requester now).1 := by
  have gained : Gains env res trace state
      (materializePendingAgentCheckpoints env state res trace contract requester now).1 :=
    Gains.of_materialize state contract requester now
  have sameVersions := versions_of_gains gained
  have inv : PlanInvariant env (materializePendingAgentCheckpoints
      env state res trace contract requester now).1 :=
    planInvariant_materialize books.planInvariant mem stored (RevisionContext.planTrace executed)
  constructor
  · rw [sameVersions]
    exact books.lineage.later uuids_materialize
  · rw [sameVersions]
    exact books.positive
  · exact inv.distinct
  · intro record recordMem
    rcases gained.recordOrigin record recordMem with old | requested
    · exact (books.requested record old).of_gains gained
    · obtain ⟨step, pending, checkpoint⟩ := requested.ofStep
      have here : RequestedIn env contextOf state record :=
        ⟨res, mem, requested.ofResult.symm, trace, decisions, stored,
          executed, step, pending, checkpoint⟩
      exact here.of_gains gained
  · intro record recordMem
    rcases gained.recordOrigin record recordMem with old | requested
    · exact books.decided record old
    · constructor
      · intro isStatus
        rw [requested.pending] at isStatus
        rcases isStatus with isStatus | isStatus
        · cases isStatus
        · cases isStatus
      · intro isStatus
        rw [requested.pending] at isStatus
        cases isStatus
  · intro version versionMem parentId isParent
    rw [sameVersions] at versionMem
    obtain ⟨record, recordMem, owns⟩ :=
      books.executed version versionMem parentId isParent
    exact ⟨record, gained.recordKept record recordMem, owns⟩
  · intro record recordMem revised
    rcases gained.recordOrigin record recordMem with old | requested
    · obtain ⟨child, childMem, isChild, decision, own, recorded, decided,
        childTrace, carries⟩ := books.carried record old revised
      obtain ⟨next, nextMem, same⟩ := gained.resultKept child childMem
      have sameVersion := same.version
      have sameParent : next.parentBenchmarkResultId =
          child.parentBenchmarkResultId := congrArg Version.parent sameVersion
      have sameTrace : next.trace = child.trace :=
        congrArg Version.content sameVersion
      exact ⟨next, nextMem, sameParent.trans isChild, decision, own, recorded,
        decided, sameTrace.trans childTrace, carries⟩
    · rw [requested.pending] at revised
      rcases revised with isStatus | isStatus
      · cases isStatus
      · cases isStatus

theorem RequestedIn.insertResult (requested : RequestedIn env contextOf state record)
    (drawn : res.id = state.uuids) :
    RequestedIn env contextOf (state.insertResult res drawn)
      record := by
  obtain ⟨row, mem, found⟩ := requested
  exact ⟨row, (ControlPlane.mem_insertResult drawn).mpr (Or.inl mem), found⟩

theorem CarriedByChild.insertResult (carried : CarriedByChild env state record)
    (drawn : res.id = state.uuids) :
    CarriedByChild env (state.insertResult res drawn) record := by
  obtain ⟨child, mem, found⟩ := carried
  exact ⟨child, (ControlPlane.mem_insertResult drawn).mpr (Or.inl mem), found⟩

theorem RevisionBooks.insertRoot (books : RevisionBooks env contextOf state)
    (drawn : res.id = state.uuids) (noParent : res.parentBenchmarkResultId = none)
    (noRoot : res.rootBenchmarkResultId = none) (first : res.revisionNumber = 1) :
    RevisionBooks env contextOf (state.insertResult res drawn) where
  lineage := by
    rw [versions_insertResult]
    refine books.lineage.insertRoot (KeepsDecisions.refl env.text) drawn ?_ noParent
    show res.rootBenchmarkResultId.getD res.id = state.uuids
    rw [noRoot]
    exact drawn
  positive version mem := by
    rw [versions_insertResult] at mem
    rcases mem with rfl | old
    · exact le_of_eq first.symm
    · exact books.positive version old
  distinct := books.distinct
  requested record mem := (books.requested record mem).insertResult drawn
  decided := books.decided
  executed version mem parentId isParent := by
    rw [versions_insertResult] at mem
    rcases mem with rfl | old
    · have none : res.parentBenchmarkResultId = some parentId := isParent
      rw [noParent] at none
      cases none
    · exact books.executed version old parentId isParent
  carried record mem revised :=
    (books.carried record mem revised).insertResult drawn

structure CallKeeps (env : ControlEnvironment)
    (contextOf : Uuid → RevisionContext) (before after : ControlPlane) :
    Prop where
  books : RevisionBooks env contextOf after
  kept : before.versions ⊆ after.versions
  added : ∀ version ∈ after.versions, version ∈ before.versions ∨
    version.rootId = before.uuids

theorem CallKeeps.of_versions {before after : ControlPlane}
    (books : RevisionBooks env contextOf after) (same : after.versions = before.versions) :
    CallKeeps env contextOf before after where
  books := books
  kept := by rw [same]
  added version mem := by
    rw [same] at mem
    exact Or.inl mem

theorem calmChange_of_moves {change : CheckpointChange}
    (moves : ∀ record ∈ state.checkpoints, change.apply record = record ∨
      ¬ HasRevision record.status ∧ ¬ HasRevision (change.apply record).status ∧
        RecordDecided env (change.apply record)) :
    CalmChange env state change where
  kept record mem revised := (moves record mem).resolve_right fun moved => moved.1 revised
  none record mem notRevised := by
    rcases moves record mem with same | moved
    · rw [same]
      exact notRevised
    · exact moved.2.1
  decided record mem decided := by
    rcases moves record mem with same | moved
    · rw [same]
      exact decided
    · exact moved.2.2

theorem recordDecided_of_status (status : CheckpointStatus) (isStatus : record.status = status)
    (undecided : status ∉ [.approved, .resumed, .denied]) : RecordDecided env record := by
  subst isStatus
  simp only [List.mem_cons, List.not_mem_nil, or_false, not_or] at undecided
  exact ⟨fun decided => (decided.elim undecided.1 undecided.2.1).elim,
    fun denied => absurd denied undecided.2.2⟩

theorem calmChange_expireDue (now : Time) (selected : AgentApprovalCheckpoint → Bool) :
    CalmChange env state (expireDue now selected) :=
  calmChange_of_moves fun record _ => by
    rcases expireDue_moves now selected record with same | ⟨due, expired⟩
    · exact Or.inl same
    · refine Or.inr ⟨not_hasRevision_of_move (moved_of_due due).move, ?_⟩
      rw [expired]
      exact ⟨(by decide : ¬ HasRevision .expired), recordDecided_of_status .expired rfl (by decide)⟩

theorem calmChange_approve (lower : LowerDecisions env.text) {req : CheckpointRequest}
    {evaluation : AgentCheckpointPolicyEvaluation}
    (accepted : Accepted env state .decide req record evaluation)
    (given : GivesDecision reason req.signerIdentity) :
    CalmChange env state (decideChange env req .approved reason evaluation none) :=
  calmChange_of_moves fun other mem => by
    by_cases named : other.id = req.checkpointRecordId
    · have pending : other.status = .pending := by
        rw [eq_of_accepted accepted mem named]
        exact accepted.status
      refine Or.inr ⟨by rw [pending]; decide, ?_⟩
      simp only [decideChange, if_pos named]
      exact ⟨(by decide : ¬ HasRevision .approved),
        fun _ => decisionGiven_of_reason lower rfl rfl rfl given, fun isStatus => by cases isStatus⟩
    · exact Or.inl (if_neg named)

theorem calmChange_revoke {req : CheckpointRequest} {evaluation : AgentCheckpointPolicyEvaluation}
    (accepted : Accepted env state .revoke req record evaluation) :
    CalmChange env state (revokeChange env req reason evaluation) :=
  calmChange_of_moves fun other mem => by
    by_cases named : other.id = req.checkpointRecordId
    · have approved : other.status = .approved := by
        rw [eq_of_accepted accepted mem named]
        exact accepted.status
      refine Or.inr ⟨by rw [approved]; decide, ?_⟩
      simp only [revokeChange, if_pos named]
      exact ⟨(by decide : ¬ HasRevision .revoked), recordDecided_of_status .revoked rfl (by decide)⟩
    · exact Or.inl (if_neg named)

theorem callKeeps_executeCase (books : RevisionBooks env contextOf state) {contract : Option Json}
    (runs : contract ≠ none → ∀ trace, res.trace = some trace →
      ∃ decisions, (contextOf state.uuids).traceUnder decisions = some trace) :
    CallKeeps env contextOf state (executeCase env state res contract requester now) := by
  have inserted : RevisionBooks env contextOf (state.insertResult (executedResult state res) rfl) :=
    books.insertRoot rfl rfl rfl rfl
  have insertedVersions : (state.insertResult (executedResult state res)
      rfl).versions = insert (executedResult state res).version
        state.versions := versions_insertResult rfl
  have keeps : ∀ after : ControlPlane, RevisionBooks env contextOf after →
      after.versions = (state.insertResult (executedResult state res)
        rfl).versions → CallKeeps env contextOf state after := by
    intro after afterBooks same
    rw [insertedVersions] at same
    refine ⟨afterBooks, ?_, ?_⟩
    · rw [same]
      exact Set.subset_insert _ _
    · intro version mem
      rw [same] at mem
      rcases mem with rfl | old
      · exact Or.inr rfl
      · exact Or.inl old
  simp only [executeCase]
  split
  · next trace contract stored =>
      split
      · obtain ⟨decisions, executed⟩ :=
          runs (Option.some_ne_none contract) trace stored
        have mem : executedResult state res ∈ (state.insertResult
            (executedResult state res) rfl).results :=
          (ControlPlane.mem_insertResult rfl).mpr (Or.inr rfl)
        have ownTrace : (executedResult state res).trace = some trace := stored
        have ownContext : (contextOf (executedResult state
            res).rootId).traceUnder decisions = some trace := executed
        exact keeps _ (inserted.materialize mem ownTrace ownContext)
          (versions_of_gains (Gains.of_materialize _ _ _ _))
      · exact keeps _ inserted rfl
  · exact keeps _ inserted rfl

/-- Every result and its revisions are executed in the context of the root, and a decision has a
reason and a name that are not blank. -/
def KeepsContext (contextOf : Uuid → RevisionContext) (sys : RevisionSystem) : RevisionLabel → Prop
  | .call (.execute res contract _ _) => contract ≠ none →
      ∀ trace, res.trace = some trace → ∃ decisions,
        (contextOf sys.plane.uuids).traceUnder decisions = some trace
  | .call (.materialize resultId trace _ _ _) =>
    ∃ res ∈ sys.plane.results, res.id = resultId ∧ res.trace = some trace ∧ ∃ decisions,
        (contextOf res.rootId).traceUnder decisions = some trace
  | .call (.decide _ req _ reason) =>
    GivesDecision reason req.signerIdentity
  | .begin runtime req denial =>
    (∀ reason, denial = some reason → GivesDecision reason req.signerIdentity) ∧
    ∀ res evalCase decisions trace, runtime res evalCase decisions = .ok trace →
        (contextOf res.rootId).traceUnder (some (.obj decisions)) = some trace
  | _ => True

theorem callKeeps_of_call (lower : LowerDecisions env.text) {sys : RevisionSystem} {op : Operation}
    (books : RevisionBooks env contextOf sys.plane) (other : buildsRevision op = false)
    (keeps : KeepsContext contextOf sys (.call op)) :
    CallKeeps env contextOf sys.plane (operate env sys.plane op).1 := by
  have outcome : Outcome env sys.plane op (operate env sys.plane op).1
      (operate env sys.plane op).2 :=
    outcome_of_operate op
  generalize (operate env sys.plane op).1 = after at outcome ⊢
  generalize (operate env sys.plane op).2 = answer at outcome
  cases outcome with
  | unchanged => exact .of_versions books rfl
  | expired _ selected =>
    exact .of_versions (books.change (calmChange_expireDue _ selected)) rfl
  | executed => exact callKeeps_executeCase books keeps
  | @materialized res trace contract requester now mem =>
    obtain ⟨stored, storedMem, sameId, ownTrace, decisions, executed⟩ :=
      keeps
    have same : stored = res :=
      Table.eq_of_key_eq storedMem mem sameId
    rw [same] at ownTrace executed
    exact .of_versions (books.materialize mem ownTrace executed)
      (versions_of_gains (Gains.of_materialize _ _ _ _))
  | approved _ _ _ accepted =>
    exact .of_versions (books.change (calmChange_approve lower accepted keeps))
      rfl
  | denied => cases other
  | revoked _ _ accepted =>
    exact .of_versions (books.change (calmChange_revoke accepted)) rfl
  | resumed => cases other

end Books

end ModelAtlas.Approval
