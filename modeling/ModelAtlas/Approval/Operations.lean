import ModelAtlas.Approval.ControlPlane
import ModelAtlas.Foundations.Execution

/-!
# Operations of the agent control plane

The entry points that write checkpoint records, as the labels of one step
function, and the inversion of a step, from which the invariants are proved.
-/

namespace ModelAtlas.Approval

open Foundations Agent

variable {env : ControlEnvironment}

def executedResult (state : ControlPlane) (result : BenchmarkResult) :
    BenchmarkResult :=
  { result with
    id := state.uuids
    parentBenchmarkResultId := none
    rootBenchmarkResultId := none
    revisionNumber := 1 }

/-- One case of `execute_evaluation_suite_benchmark`; `contract` is that of the
agent preparation, if the case has one. -/
def executeCase (env : ControlEnvironment) (state : ControlPlane) (result : BenchmarkResult)
    (contract : Option Json) (requester : SignerIdentity) (now : Time) : ControlPlane :=
  let inserted := state.insertResult (executedResult state result) rfl
  match result.trace, contract with
  | some trace, some contract =>
    if trace.isObject then
      (materializePendingAgentCheckpoints env inserted
        (executedResult state result) trace contract requester now).1
    else inserted
  | _, _ => inserted

/-- The calls that write checkpoint records or results, with their clock and what the execution
of a revision gives. -/
inductive Operation where
  | execute (result : BenchmarkResult) (contract : Option Json)
      (requester : SignerIdentity) (now : Time)
  | materialize (benchmarkResultId : Uuid) (trace contract : Json)
      (requester : SignerIdentity) (now : Time)
  | decide (runtime : RevisionRuntime) (request : CheckpointRequest)
      (decision : CheckpointDecision) (reason : String)
  | revoke (request : CheckpointRequest) (reason : String)
  | resume (runtime : RevisionRuntime) (request : CheckpointRequest)
  | get (checkpointRecordId : Uuid) (now : Time)
  | list (now : Time)
  | reconcile (now : Time)

def Operation.now : Operation → Time
  | .execute _ _ _ now => now
  | .materialize _ _ _ _ now => now
  | .decide _ request _ _ => request.now
  | .revoke request _ => request.now
  | .resume _ request => request.now
  | .get _ now => now
  | .list now => now
  | .reconcile now => now

def operate (env : ControlEnvironment) (state : ControlPlane) :
    Operation → ControlPlane × Except ServiceError Unit
  | .execute result contract requester now =>
    (executeCase env state result contract requester now, .ok ())
  | .materialize benchmarkResultId trace contract requester now =>
    match state.result? benchmarkResultId with
    | none => (state, .error (.unexpected "benchmark result is missing"))
    | some result =>
      ((materializePendingAgentCheckpoints env state result trace contract requester now).1, .ok ())
  | .decide runtime request decision reason =>
    decideAgentApprovalCheckpoint env runtime state request decision reason
  | .revoke request reason =>
    revokeAgentApprovalCheckpoint env state request reason
  | .resume runtime request =>
    let outcome :=
      resumeAgentApprovalCheckpoint env runtime state request
    (outcome.1, outcome.2.map (fun _ => ()))
  | .get checkpointRecordId now =>
    let outcome := getAgentApprovalCheckpoint state checkpointRecordId now
    (outcome.1, outcome.2.map (fun _ => ()))
  | .list now => (reconcileAgentApprovalCheckpoints state now, .ok ())
  | .reconcile now => (reconcileAgentApprovalCheckpoints state now, .ok ())

def nextControlPlane (env : ControlEnvironment) (state : ControlPlane)
    (operation : Operation) : Option ControlPlane :=
  some (operate env state operation).1

abbrev Step (env : ControlEnvironment) : ControlPlane → Operation → ControlPlane → Prop :=
  stepsOf (nextControlPlane env)

theorem step_iff {before after : ControlPlane} {operation : Operation} :
    Step env before operation after ↔ (operate env before operation).1 = after :=
  Option.some_inj

def SameRevision (old new : BenchmarkResult) : Prop :=
  { new with controlLink := old.controlLink } = old

theorem SameRevision.refl (result : BenchmarkResult) : SameRevision result result :=
  rfl

theorem SameRevision.trans {first second third : BenchmarkResult}
    (left : SameRevision first second) (right : SameRevision second third) :
    SameRevision first third := by
  cases first
  cases second
  cases third
  simp_all [SameRevision]

theorem SameRevision.fields {old new : BenchmarkResult} (same : SameRevision old new) :
    new.id = old.id ∧ new.parentBenchmarkResultId = old.parentBenchmarkResultId ∧
      new.trace = old.trace := by
  have equal : { new with controlLink := old.controlLink } = old := same
  have sameId := congrArg BenchmarkResult.id equal
  have sameParent := congrArg BenchmarkResult.parentBenchmarkResultId equal
  have sameTrace := congrArg BenchmarkResult.trace equal
  exact ⟨sameId, sameParent, sameTrace⟩

/-- A record as `materialize_pending_agent_checkpoints` creates it for a
result. -/
structure Requested (env : ControlEnvironment)
    (result : BenchmarkResult) (trace : Json)
    (record : AgentApprovalCheckpoint) : Prop where
  ofResult : record.benchmarkResultId = result.id
  ofStep : ∃ step ∈ pendingCheckpointSteps trace,
    record.checkpointId =
      strippedMember env.text (step.objectOr "output") "checkpoint_id"
  pending : record.status = .pending
  version : record.version = 1
  unlinked : record.transitionBenchmarkResultId = none

structure Gains (env : ControlEnvironment) (result : BenchmarkResult)
    (trace : Json) (before after : ControlPlane) : Prop where
  recordKept : ∀ record ∈ before.checkpoints, record ∈ after.checkpoints
  recordOrigin : ∀ record ∈ after.checkpoints,
    record ∈ before.checkpoints ∨ Requested env result trace record
  resultKept : ∀ row ∈ before.results,
    ∃ next ∈ after.results, SameRevision row next
  resultOrigin : ∀ next ∈ after.results,
    ∃ row ∈ before.results, SameRevision row next

namespace Gains

variable {result : BenchmarkResult} {trace : Json}

theorem refl (state : ControlPlane) : Gains env result trace state state where
  recordKept _ mem := mem
  recordOrigin _ mem := Or.inl mem
  resultKept row mem := ⟨row, mem, SameRevision.refl row⟩
  resultOrigin row mem := ⟨row, mem, SameRevision.refl row⟩

theorem trans {first second third : ControlPlane} (left : Gains env result trace first second)
    (right : Gains env result trace second third) :
    Gains env result trace first third where
  recordKept record mem :=
    right.recordKept record (left.recordKept record mem)
  recordOrigin record mem := by
    rcases right.recordOrigin record mem with earlier | requested
    · exact left.recordOrigin record earlier
    · exact Or.inr requested
  resultKept row mem := by
    obtain ⟨middle, middleMem, leftSame⟩ := left.resultKept row mem
    obtain ⟨next, nextMem, rightSame⟩ :=
      right.resultKept middle middleMem
    exact ⟨next, nextMem, leftSame.trans rightSame⟩
  resultOrigin next mem := by
    obtain ⟨middle, middleMem, rightSame⟩ := right.resultOrigin next mem
    obtain ⟨row, rowMem, leftSame⟩ := left.resultOrigin middle middleMem
    exact ⟨row, rowMem, leftSame.trans rightSame⟩

theorem of_materializeStep {contract step : Json} {requester : SignerIdentity} {now : Time}
    (pending : step ∈ pendingCheckpointSteps trace)
    (prog : ControlPlane × List AgentApprovalCheckpoint) :
    Gains env result trace prog.1
      (materializeStep env result trace contract requester now prog step).1 := by
  rw [materializeStep]
  split
  · exact refl prog.1
  · refine
      { recordKept := ?_, recordOrigin := ?_,
        resultKept := fun row mem => ⟨row, mem, SameRevision.refl row⟩,
        resultOrigin := fun row mem =>
          ⟨row, mem, SameRevision.refl row⟩ }
    · intro record mem
      exact (ControlPlane.mem_insertCheckpoint rfl).mpr (Or.inl mem)
    · intro record mem
      rcases (ControlPlane.mem_insertCheckpoint rfl).mp mem with earlier | rfl
      · exact Or.inl earlier
      · exact Or.inr
          { ofResult := rfl
            ofStep := ⟨step, pending, rfl⟩
            pending := rfl
            version := rfl
            unlinked := rfl }

theorem of_materializeSteps {contract : Json} {requester : SignerIdentity} {now : Time}
    {steps : List Json} (pending : ∀ step ∈ steps, step ∈ pendingCheckpointSteps trace)
    (prog : ControlPlane × List AgentApprovalCheckpoint) :
    Gains env result trace prog.1
      (steps.foldl (materializeStep env result trace contract requester now) prog).1 := by
  induction steps generalizing prog with
  | nil =>
    exact refl prog.1
  | cons step rest ih =>
    have head : Gains env result trace prog.1
        (materializeStep env result trace contract requester now prog step).1 :=
      of_materializeStep (pending step List.mem_cons_self) prog
    have later : ∀ other ∈ rest, other ∈ pendingCheckpointSteps trace :=
      fun other mem => pending other (List.mem_cons_of_mem step mem)
    exact head.trans (ih later _)

theorem of_setControlLink (state : ControlPlane) (resultId : Uuid) (link : ControlLink) :
    Gains env result trace state (state.setControlLink resultId link)
    where
  recordKept _ mem := mem
  recordOrigin _ mem := Or.inl mem
  resultKept row mem := by
    by_cases linked : row.id = resultId
    · exact ⟨{ row with controlLink := some link }, ControlPlane.mem_setControlLink.mpr
          (Or.inl ⟨row, mem, linked, rfl⟩), rfl⟩
    · exact ⟨row, ControlPlane.mem_setControlLink.mpr (Or.inr ⟨mem, linked⟩), rfl⟩
  resultOrigin next mem := by
    rcases ControlPlane.mem_setControlLink.mp mem with
      ⟨row, rowMem, _, rfl⟩ | ⟨untouched, _⟩
    · exact ⟨row, rowMem, rfl⟩
    · exact ⟨next, untouched, rfl⟩

theorem of_materialize (state : ControlPlane) (contract : Json) (requester : SignerIdentity)
    (now : Time) :
    Gains env result trace state (materializePendingAgentCheckpoints env state result trace
        contract requester now).1 := by
  have looped : Gains env result trace state
      ((pendingCheckpointSteps trace).foldl (materializeStep env result
        trace contract requester now) (state, [])).1 :=
    of_materializeSteps (fun _ mem => mem) (state, [])
  simp only [materializePendingAgentCheckpoints]
  split
  · exact looped
  · exact looped.trans (of_setControlLink _ _ _)

end Gains

structure Accepted (env : ControlEnvironment) (state : ControlPlane)
    (operation : AgentCheckpointOperation) (request : CheckpointRequest)
    (record : AgentApprovalCheckpoint)
    (evaluation : AgentCheckpointPolicyEvaluation) : Prop where
  mem : record ∈ state.checkpoints
  recordId : record.id = request.checkpointRecordId
  live : checkpointIsDue record request.now = false
  version : record.version = request.expectedVersion
  status : record.status = requiredStatus operation
  allowed : ∃ policy,
    checkpointPolicyFromJson env.text record.approvalPolicyJson =
        .ok policy ∧
      assertAgentCheckpointOperationAllowed env.text policy operation
        request.signerIdentity record.requestedBySubjectId = .ok evaluation

/-- What an operation does to the tables, with the checks it made before. -/
inductive Outcome (env : ControlEnvironment) (before : ControlPlane) :
    Operation → ControlPlane → Except ServiceError Unit → Prop
  | unchanged (operation : Operation) (answer : Except ServiceError Unit) :
      Outcome env before operation before answer
  | expired (operation : Operation) (selected : AgentApprovalCheckpoint → Bool)
      (answer : Except ServiceError Unit) :
      Outcome env before operation
        (before.changeCheckpoints (expireDue operation.now selected)) answer
  | executed (result : BenchmarkResult) (contract : Option Json)
      (requester : SignerIdentity) (now : Time) :
      Outcome env before (.execute result contract requester now)
        (executeCase env before result contract requester now) (.ok ())
  | materialized {result : BenchmarkResult} (trace contract : Json)
      (requester : SignerIdentity) (now : Time)
      (mem : result ∈ before.results) :
      Outcome env before
        (.materialize result.id trace contract requester now)
        (materializePendingAgentCheckpoints env before result trace
          contract requester now).1 (.ok ())
  | approved {record : AgentApprovalCheckpoint}
      {evaluation : AgentCheckpointPolicyEvaluation}
      (runtime : RevisionRuntime) (request : CheckpointRequest)
      (reason : String)
      (accepted :
        Accepted env before .decide request record evaluation) :
      Outcome env before (.decide runtime request .approved reason)
        (before.changeCheckpoints (decideChange env request .approved
          reason evaluation none)) (.ok ())
  | denied {record : AgentApprovalCheckpoint} {result : BenchmarkResult}
      {evaluation : AgentCheckpointPolicyEvaluation} {revision : Revision}
      (runtime : RevisionRuntime) (request : CheckpointRequest)
      (reason : String)
      (accepted : Accepted env before .decide request record evaluation)
      (ofResult : record.benchmarkResultId = result.id)
      (revised : applyPersistedDecisions env runtime before result
        [(decideChange env request .denied reason evaluation
          none).apply record] = .ok revision) :
      Outcome env before (.decide runtime request .denied reason)
        (revision.state.changeCheckpoints (decideChange env request
          .denied reason evaluation (some revision.child))) (.ok ())
  | revoked {record : AgentApprovalCheckpoint}
      {evaluation : AgentCheckpointPolicyEvaluation}
      (request : CheckpointRequest) (reason : String)
      (accepted :
        Accepted env before .revoke request record evaluation) :
      Outcome env before (.revoke request reason)
        (before.changeCheckpoints
          (revokeChange env request reason evaluation)) (.ok ())
  | resumed {record : AgentApprovalCheckpoint} {result : BenchmarkResult}
      {evaluation : AgentCheckpointPolicyEvaluation} {revision : Revision}
      (runtime : RevisionRuntime) (request : CheckpointRequest)
      (accepted : Accepted env before .resume request record evaluation)
      (ofResult : record.benchmarkResultId = result.id)
      (unblocked : ∀ other ∈ before.recordsOf result.id,
        blocksResume other = false)
      (revised : applyPersistedDecisions env runtime before result
        (before.recordsOf result.id) = .ok revision) :
      Outcome env before (.resume runtime request)
        (resumedState env request record result evaluation revision)
        (.ok ())

section Inversion

variable {before : ControlPlane} {record : AgentApprovalCheckpoint}
  {result : BenchmarkResult}

theorem lockedCheckpoint_eq_ok {recordId : Uuid}
    (locked : lockedCheckpoint before recordId = .ok (record, result)) :
    record ∈ before.checkpoints ∧ record.id = recordId ∧ record.benchmarkResultId = result.id := by
  rw [lockedCheckpoint] at locked
  cases found : before.checkpoint? recordId with
  | none =>
    simp [found] at locked
  | some stored =>
    simp only [found] at locked
    cases foundResult : before.result? stored.benchmarkResultId with
    | none =>
      simp [foundResult] at locked
    | some storedResult =>
      simp only [foundResult, Except.ok.injEq, Prod.mk.injEq] at locked
      obtain ⟨rfl, rfl⟩ := locked
      have stored := Table.find?_eq_some_iff.mp found
      have storedResult := Table.find?_eq_some_iff.mp foundResult
      exact ⟨stored.1, stored.2, storedResult.2.symm⟩

theorem assertOperation_eq_ok {operation : AgentCheckpointOperation} {request : CheckpointRequest}
    {evaluation : AgentCheckpointPolicyEvaluation}
    (mem : record ∈ before.checkpoints)
    (recordId : record.id = request.checkpointRecordId)
    (asserted : assertOperation env before record operation
      request.expectedVersion request.signerIdentity request.now = .ok evaluation) :
    Accepted env before operation request record evaluation := by
  rw [assertOperation] at asserted
  by_cases due : checkpointIsDue record request.now = true
  · simp [due] at asserted
  rw [if_neg due] at asserted
  by_cases conflict : record.version ≠ request.expectedVersion
  · simp [conflict] at asserted
  rw [if_neg conflict] at asserted
  by_cases wrongStatus : record.status ≠ requiredStatus operation
  · simp [wrongStatus] at asserted
  rw [if_neg wrongStatus] at asserted
  cases parsed : checkpointPolicyFromJson env.text record.approvalPolicyJson with
  | error raised =>
    simp [parsed] at asserted
  | ok policy =>
    simp only [parsed] at asserted
    cases evaluated : assertAgentCheckpointOperationAllowed env.text
        policy operation request.signerIdentity record.requestedBySubjectId
      with
    | error raised =>
      simp [evaluated] at asserted
    | ok allowed =>
      simp only [evaluated, Except.ok.injEq] at asserted
      subst asserted
      exact
        { mem := mem
          recordId := recordId
          live := by simpa using due
          version := not_not.mp conflict
          status := not_not.mp wrongStatus
          allowed := ⟨policy, parsed, evaluated⟩ }

theorem assertOperation_eq_error {operation : AgentCheckpointOperation} {expectedVersion : Int}
    {signerIdentity : SignerIdentity} {now : Time} {refusal : Refusal}
    (refused : assertOperation env before record operation
      expectedVersion signerIdentity now = .error refusal) :
    refusal.state = before ∨ refusal.state = before.changeCheckpoints
        (expireDue now (fun other => other.id = record.id)) := by
  rw [assertOperation] at refused
  split at refused
  · obtain rfl := Except.error.inj refused
    exact Or.inr rfl
  left
  split at refused
  · obtain rfl := Except.error.inj refused
    rfl
  split at refused
  · obtain rfl := Except.error.inj refused
    rfl
  split at refused
  · obtain rfl := Except.error.inj refused
    rfl
  split at refused
  · obtain rfl := Except.error.inj refused
    rfl
  · cases refused

theorem outcome_of_refusal {kind : AgentCheckpointOperation} {expectedVersion : Int}
    {signerIdentity : SignerIdentity} {refusal : Refusal} (operation : Operation)
    (refused : assertOperation env before record kind expectedVersion
      signerIdentity operation.now = .error refusal)
    (answer : Except ServiceError Unit) :
    Outcome env before operation refusal.state answer := by
  rcases assertOperation_eq_error refused with same | expired
  · rw [same]
    exact Outcome.unchanged operation answer
  · rw [expired]
    exact Outcome.expired operation _ answer

theorem outcome_of_decide (runtime : RevisionRuntime) (request : CheckpointRequest)
    (decision : CheckpointDecision) (reason : String) :
    Outcome env before (.decide runtime request decision reason)
      (decideAgentApprovalCheckpoint env runtime before request decision reason).1
      (decideAgentApprovalCheckpoint env runtime before request decision reason).2 := by
  rw [decideAgentApprovalCheckpoint]
  split
  · exact Outcome.unchanged _ _
  · next record result locked =>
      obtain ⟨mem, recordId, ofResult⟩ := lockedCheckpoint_eq_ok locked
      split
      · next refusal refused =>
          exact outcome_of_refusal (.decide runtime request decision reason) refused _
      · next evaluation asserted =>
          have accepted := assertOperation_eq_ok mem recordId asserted
          cases decision with
          | approved =>
            exact Outcome.approved runtime request reason accepted
          | denied =>
            simp only
            split
            · exact Outcome.unchanged _ _
            · next revision revised =>
                exact Outcome.denied runtime request reason accepted ofResult revised

theorem outcome_of_revoke (request : CheckpointRequest) (reason : String) :
    Outcome env before (.revoke request reason)
      (revokeAgentApprovalCheckpoint env before request reason).1
      (revokeAgentApprovalCheckpoint env before request reason).2 := by
  rw [revokeAgentApprovalCheckpoint]
  split
  · exact Outcome.unchanged _ _
  · next record result locked =>
      obtain ⟨mem, recordId, _⟩ := lockedCheckpoint_eq_ok locked
      split
      · next refusal refused =>
          exact outcome_of_refusal (.revoke request reason) refused _
      · next evaluation asserted =>
          have accepted := assertOperation_eq_ok mem recordId asserted
          exact Outcome.revoked request reason accepted

theorem outcome_of_resume (runtime : RevisionRuntime) (request : CheckpointRequest) :
    Outcome env before (.resume runtime request)
      (resumeAgentApprovalCheckpoint env runtime before request).1
      ((resumeAgentApprovalCheckpoint env runtime before request).2.map (fun _ => ())) := by
  rw [resumeAgentApprovalCheckpoint]
  split
  · exact Outcome.unchanged _ _
  · next record result locked =>
      obtain ⟨mem, recordId, ofResult⟩ := lockedCheckpoint_eq_ok locked
      split
      · exact Outcome.unchanged _ _
      split
      · next refusal refused =>
          exact outcome_of_refusal (.resume runtime request) refused _
      · next evaluation asserted =>
          have accepted := assertOperation_eq_ok mem recordId asserted
          split
          · exact Outcome.unchanged _ _
          · next unblocked =>
              split
              · exact Outcome.unchanged _ _
              · next revision revised =>
                  have passed : ∀ other ∈ before.recordsOf result.id,
                      blocksResume other = false := by
                    simpa using List.find?_eq_none.mp unblocked
                  exact Outcome.resumed runtime request accepted ofResult passed revised

theorem outcome_of_operate (operation : Operation) : Outcome env before operation
      (operate env before operation).1
      (operate env before operation).2 := by
  cases operation with
  | execute result contract requester now =>
    exact Outcome.executed result contract requester now
  | materialize benchmarkResultId trace contract requester now =>
    simp only [operate]
    split
    · exact Outcome.unchanged _ _
    · next result found =>
        obtain ⟨mem, rfl⟩ := Table.find?_eq_some_iff.mp found
        exact Outcome.materialized trace contract requester now mem
  | decide runtime request decision reason =>
    exact outcome_of_decide runtime request decision reason
  | revoke request reason =>
    exact outcome_of_revoke request reason
  | resume runtime request =>
    exact outcome_of_resume runtime request
  | get checkpointRecordId now =>
    simp only [operate, getAgentApprovalCheckpoint]
    split
    · exact Outcome.unchanged _ _
    split
    · exact Outcome.expired (.get checkpointRecordId now) _ _
    · exact Outcome.unchanged _ _
  | list now =>
    exact Outcome.expired (.list now) _ _
  | reconcile now =>
    exact Outcome.expired (.reconcile now) _ _

theorem outcome_of_step {after : ControlPlane} {operation : Operation}
    (taken : Step env before operation after) :
    Outcome env before operation after (operate env before operation).2 :=
  step_iff.mp taken ▸ outcome_of_operate operation

end Inversion

end ModelAtlas.Approval
