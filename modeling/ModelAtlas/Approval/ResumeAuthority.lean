import ModelAtlas.Agent.PendingCheckpoints
import ModelAtlas.Approval.StateMachine

/-!
# Authority of a resume

A resume checks the record it names and moves every approved record of the same
result, which is that one alone: a trace has one pending step at most.
-/

namespace ModelAtlas.Approval

open Foundations Agent

variable {state : ControlPlane} {record : AgentApprovalCheckpoint} {res : BenchmarkResult}
  {trace contract : Json} {requester : SignerIdentity} {now : Time}

variable {env : ControlEnvironment}

def ExecutesPlans (runtime : RevisionRuntime) : Prop :=
  ∀ res evalCase decisions trace, runtime res evalCase decisions = .ok trace → PlanTrace trace

/-- Agent cases and revisions have traces of executed plans, and the trace that is materialized
for a result is its own. -/
def RunsPlans (state : ControlPlane) : Operation → Prop
  | .execute res contract _ _ =>
    contract ≠ none → ∀ trace, res.trace = some trace → PlanTrace trace
  | .materialize benchmarkResultId trace _ _ _ =>
    PlanTrace trace ∧ ∃ res ∈ state.results, res.id = benchmarkResultId ∧ res.trace = some trace
  | .decide runtime _ _ _ => ExecutesPlans runtime
  | .resume runtime _ => ExecutesPlans runtime
  | .revoke _ _ => True
  | .get _ _ => True
  | .list _ => True
  | .reconcile _ => True

def RequestedByTrace (env : ControlEnvironment) (state : ControlPlane)
    (record : AgentApprovalCheckpoint) : Prop :=
  ∃ res ∈ state.results, res.id = record.benchmarkResultId ∧
    ∃ trace, res.trace = some trace ∧ PlanTrace trace ∧ ∃ step ∈ pendingCheckpointSteps trace,
        record.checkpointId = strippedMember env.text
          (step.objectOr "output") "checkpoint_id"

def DistinctCheckpoints (state : ControlPlane) : Prop :=
  ∀ left ∈ state.checkpoints, ∀ right ∈ state.checkpoints,
    left.benchmarkResultId = right.benchmarkResultId →
      left.checkpointId = right.checkpointId → left = right

structure PlanInvariant (env : ControlEnvironment)
    (state : ControlPlane) : Prop where
  requested : ∀ record ∈ state.checkpoints,
    RequestedByTrace env state record
  distinct : DistinctCheckpoints state

theorem eq_of_sameResult (inv : PlanInvariant env state) {left right : AgentApprovalCheckpoint}
    (leftMem : left ∈ state.checkpoints) (rightMem : right ∈ state.checkpoints)
    (sameResult : left.benchmarkResultId = right.benchmarkResultId) :
    left = right := by
  obtain ⟨leftResult, leftResultMem, leftId, leftTrace, leftStored, executed,
    leftStep, leftPending, leftCheckpoint⟩ := inv.requested left leftMem
  obtain ⟨rightResult, rightResultMem, rightId, rightTrace, rightStored, _,
    rightStep, rightPending, rightCheckpoint⟩ :=
      inv.requested right rightMem
  have oneResult : leftResult = rightResult :=
    Table.eq_of_key_eq leftResultMem rightResultMem (leftId.trans (sameResult.trans rightId.symm))
  have oneTrace : leftTrace = rightTrace := by
    rw [oneResult, rightStored] at leftStored
    exact (Option.some.inj leftStored).symm
  have oneStep : leftStep = rightStep := by
    rw [← oneTrace] at rightPending
    exact eq_of_pendingCheckpointSteps executed leftPending rightPending
  apply inv.distinct left leftMem right rightMem sameResult
  rw [leftCheckpoint, rightCheckpoint, oneStep]

section Preservation

variable {before after : ControlPlane}

theorem requestedByTrace_of_resultKept
    (kept : ∀ row ∈ before.results, ∃ next ∈ after.results, SameRevision row next)
    (requested : RequestedByTrace env before record) :
    RequestedByTrace env after record := by
  obtain ⟨res, mem, ofResult, trace, stored, step⟩ := requested
  obtain ⟨next, nextMem, same⟩ := kept res mem
  obtain ⟨sameId, _, sameTrace⟩ := same.fields
  exact ⟨next, nextMem, sameId.trans ofResult, trace, sameTrace.trans stored, step⟩

theorem planInvariant_change (change : CheckpointChange) (inv : PlanInvariant env before) :
    PlanInvariant env (before.changeCheckpoints change) where
  requested new mem := by
    obtain ⟨old, oldMem, rfl⟩ := ControlPlane.mem_changeCheckpoints.mp mem
    obtain ⟨res, resultMem, ofResult, trace, stored, executed, step,
      pending, checkpoint⟩ := inv.requested old oldMem
    refine ⟨res, resultMem, ?_, trace, stored, executed, step, pending, ?_⟩
    · rw [change.keepsResult, ofResult]
    · rw [change.keepsCheckpoint, checkpoint]
  distinct left leftMem right rightMem sameResult sameCheckpoint := by
    obtain ⟨oldLeft, oldLeftMem, rfl⟩ :=
      ControlPlane.mem_changeCheckpoints.mp leftMem
    obtain ⟨oldRight, oldRightMem, rfl⟩ :=
      ControlPlane.mem_changeCheckpoints.mp rightMem
    rw [change.keepsResult, change.keepsResult] at sameResult
    rw [change.keepsCheckpoint, change.keepsCheckpoint] at sameCheckpoint
    rw [inv.distinct oldLeft oldLeftMem oldRight oldRightMem sameResult sameCheckpoint]

theorem planInvariant_insertResult (drawn : res.id = before.uuids)
    (inv : PlanInvariant env before) :
    PlanInvariant env (before.insertResult res drawn) where
  requested record mem :=
    requestedByTrace_of_resultKept
      (fun row rowMem => ⟨row, (ControlPlane.mem_insertResult drawn).mpr (Or.inl rowMem), rfl⟩)
      (inv.requested record mem)
  distinct := inv.distinct

theorem distinctCheckpoints_materializeStep {step : Json}
    {prog : ControlPlane × List AgentApprovalCheckpoint} (distinct : DistinctCheckpoints prog.1) :
    DistinctCheckpoints (materializeStep env res trace contract requester now prog step).1 := by
  simp only [materializeStep]
  split
  · exact distinct
  · next fresh =>
      have unused : ∀ record ∈ prog.1.checkpoints, record.benchmarkResultId = res.id →
          record.checkpointId ≠ strippedMember env.text
            (step.objectOr "output") "checkpoint_id" := by
        intro record mem ofResult same
        apply fresh
        right
        rw [List.any_eq_true]
        refine ⟨record, ?_, by simpa using same⟩
        exact List.mem_filter.mpr ⟨mem, by simpa using ofResult⟩
      intro left leftMem right rightMem sameResult sameCheckpoint
      rcases (ControlPlane.mem_insertCheckpoint rfl).mp leftMem with
        leftOld | rfl
      · rcases (ControlPlane.mem_insertCheckpoint rfl).mp rightMem with
          rightOld | rfl
        · exact distinct left leftOld right rightOld sameResult sameCheckpoint
        · exact absurd sameCheckpoint (unused left leftOld sameResult)
      · rcases (ControlPlane.mem_insertCheckpoint rfl).mp rightMem with
          rightOld | rfl
        · exact absurd sameCheckpoint.symm (unused right rightOld sameResult.symm)
        · rfl

theorem distinctCheckpoints_materializeSteps (steps : List Json)
    (prog : ControlPlane × List AgentApprovalCheckpoint) (distinct : DistinctCheckpoints prog.1) :
    DistinctCheckpoints (steps.foldl (materializeStep env res trace
      contract requester now) prog).1 := by
  induction steps generalizing prog with
  | nil =>
    exact distinct
  | cons step rest ih =>
    exact ih _ (distinctCheckpoints_materializeStep distinct)

theorem planInvariant_materialize (inv : PlanInvariant env before) (mem : res ∈ before.results)
    (stored : res.trace = some trace) (executed : PlanTrace trace) :
    PlanInvariant env (materializePendingAgentCheckpoints env
      before res trace contract requester now).1 where
  requested record recordMem := by
    have gained : Gains env res trace before
        (materializePendingAgentCheckpoints env before res trace contract requester now).1 :=
      Gains.of_materialize before contract requester now
    apply requestedByTrace_of_resultKept gained.resultKept
    rcases gained.recordOrigin record recordMem with earlier | requested
    · exact inv.requested record earlier
    · obtain ⟨step, pending, checkpoint⟩ := requested.ofStep
      exact ⟨res, mem, requested.ofResult.symm, trace, stored, executed, step, pending, checkpoint⟩
  distinct := by
    have looped : DistinctCheckpoints ((pendingCheckpointSteps trace).foldl
        (materializeStep env res trace contract requester now)
        (before, [])).1 :=
      distinctCheckpoints_materializeSteps _ _ inv.distinct
    simp only [materializePendingAgentCheckpoints]
    split
    · exact looped
    · exact looped

theorem planInvariant_executeCase {contract : Option Json} (inv : PlanInvariant env before)
    (runs : contract ≠ none → ∀ trace, res.trace = some trace → PlanTrace trace) :
    PlanInvariant env (executeCase env before res contract requester now) := by
  have inserted : PlanInvariant env (before.insertResult (executedResult before res) rfl) :=
    planInvariant_insertResult rfl inv
  simp only [executeCase]
  split
  · next trace contract stored =>
      split
      · refine planInvariant_materialize inserted ?_ stored
          (runs (Option.some_ne_none contract) trace stored)
        exact (ControlPlane.mem_insertResult rfl).mpr (Or.inr rfl)
      · exact inserted
  · exact inserted

theorem planInvariant_revision {runtime : RevisionRuntime} {records : List AgentApprovalCheckpoint}
    {revision : Revision} (inv : PlanInvariant env before) (runs : ExecutesPlans runtime)
    (revised : applyPersistedDecisions env runtime before res records = .ok revision) :
    PlanInvariant env revision.state ∧ revision.child ∈ revision.state.results ∧
      revision.child.trace = some revision.trace ∧ PlanTrace revision.trace := by
  rw [applyPersistedDecisions] at revised
  split at revised
  · next evalCase configuration hasCase hasConfiguration =>
      split at revised
      · cases revised
      · next trace ran =>
          split at revised
          · cases revised
          · obtain rfl := Except.ok.inj revised
            have inserted : PlanInvariant env (before.insertResult
                (revisionResult before res trace) rfl) :=
              planInvariant_insertResult rfl inv
            exact ⟨inserted, (ControlPlane.mem_insertResult rfl).mpr (Or.inr rfl), rfl,
              runs _ _ _ _ ran⟩
  · cases revised

theorem planInvariant_of_outcome {op : Operation} {answer : Except ServiceError Unit}
    (inv : PlanInvariant env before) (runs : RunsPlans before op)
    (outcome : Outcome env before op after answer) :
    PlanInvariant env after := by
  cases outcome with
  | unchanged =>
    exact inv
  | expired =>
    exact planInvariant_change _ inv
  | executed =>
    exact planInvariant_executeCase inv runs
  | @materialized res trace contract requester now mem =>
    obtain ⟨executed, stored, storedMem, sameId, storedTrace⟩ := runs
    obtain rfl : stored = res :=
      Table.eq_of_key_eq storedMem mem sameId
    exact planInvariant_materialize inv mem storedTrace executed
  | approved =>
    exact planInvariant_change _ inv
  | denied runtime req reason accepted ofResult revised =>
    exact planInvariant_change _ (planInvariant_revision inv runs revised).1
  | revoked =>
    exact planInvariant_change _ inv
  | resumed runtime req accepted ofResult unblocked revised =>
    obtain ⟨kept, mem, stored, executed⟩ :=
      planInvariant_revision inv runs revised
    exact planInvariant_materialize (planInvariant_change _ kept) mem stored executed

end Preservation

theorem planInvariant_empty : PlanInvariant env ControlPlane.empty where
  requested := by simp [ControlPlane.empty]
  distinct := by simp [DistinctCheckpoints, ControlPlane.empty]

theorem planInvariant_of_execution {operations : List Operation}
    (exec : Execution (Guarded RunsPlans (Step env)) ControlPlane.empty operations state) :
    PlanInvariant env state := by
  refine exec.invariant (PlanInvariant env) planInvariant_empty ?_
  intro before op after inv taken
  exact planInvariant_of_outcome inv taken.1 (outcome_of_step taken.2)

structure AuthorisesResume (env : ControlEnvironment)
    (req : CheckpointRequest) (record : AgentApprovalCheckpoint) : Prop where
  approved : record.status = .approved
  live : req.now < record.expiresAt
  allowed : ∃ policy,
    checkpointPolicyFromJson env.text record.approvalPolicyJson =
        .ok policy ∧
      (evaluateAgentCheckpointPolicy env.text policy .resume
        req.signerIdentity record.requestedBySubjectId).allowed = true

theorem authorisesResume_of_accepted {req : CheckpointRequest}
    {evaluation : AgentCheckpointPolicyEvaluation}
    (accepted : Accepted env state .resume req record evaluation) :
    AuthorisesResume env req record where
  approved := accepted.status
  live := by
    have approved : record.status = .approved := accepted.status
    have notDue := accepted.live
    simpa [checkpointIsDue, approved] using notDue
  allowed := by
    obtain ⟨policy, parsed, asserted⟩ := accepted.allowed
    obtain ⟨rfl, allowed⟩ :=
      assertAgentCheckpointOperationAllowed_eq_ok asserted
    exact ⟨policy, parsed, allowed⟩

theorem accepted_of_resumed {before after : ControlPlane} {runtime : RevisionRuntime}
    {req : CheckpointRequest} {answer : Except ServiceError Unit}
    (outcome : Outcome env before (.resume runtime req) after answer)
    {next : AgentApprovalCheckpoint}
    (mem : record ∈ before.checkpoints)
    (nextMem : next ∈ after.checkpoints) (same : next.id = record.id)
    (moved : record.status ≠ .resumed) (resumed : next.status = .resumed) :
    ∃ checked evaluation, Accepted env before .resume req checked evaluation ∧
        record.benchmarkResultId = checked.benchmarkResultId := by
  cases outcome with
  | unchanged =>
    have unchanged : next = record := Table.eq_of_key_eq nextMem mem same
    exact absurd (unchanged ▸ resumed) moved
  | expired _ selected =>
    obtain ⟨old, oldMem, rfl⟩ :=
      ControlPlane.mem_changeCheckpoints.mp nextMem
    have sameId : old.id = record.id :=
      ((expireDue req.now selected).keepsId old).symm.trans same
    obtain rfl : old = record := Table.eq_of_key_eq oldMem mem sameId
    rcases expireDue_moves req.now selected old with
      unchanged | ⟨_, expired⟩
    · exact absurd (unchanged ▸ resumed) moved
    · have isExpired : (markCheckpointExpired old).status = .resumed :=
        expired ▸ resumed
      cases isExpired
  | @resumed checked res evaluation revision _ _ accepted ofResult _ revised =>
      refine ⟨checked, evaluation, accepted, ?_⟩
      obtain ⟨_, _, _, _, checkpoints⟩ := applyPersistedDecisions_eq_ok revised
      have gained : Gains env revision.child revision.trace
          (revision.state.changeCheckpoints (resumeChange env req
            res evaluation revision.child revision.number))
          (resumedState env req checked res evaluation revision) :=
        Gains.of_materialize _ _ _ _
      rcases gained.recordOrigin next nextMem with changed | requested
      · obtain ⟨old, oldMem, rfl⟩ :=
          ControlPlane.mem_changeCheckpoints.mp changed
        rw [checkpoints] at oldMem
        rw [CheckpointChange.keepsId] at same
        obtain rfl : old = record := Table.eq_of_key_eq oldMem mem same
        by_cases consumed : old.benchmarkResultId = res.id ∧ old.status = .approved
        · exact consumed.1.trans ofResult.symm
        · simp only [resumeChange, if_neg consumed] at resumed
          exact absurd resumed moved
      · rw [requested.pending] at resumed
        cases resumed

/-- Every record that a resume moves was approved, had not expired, and its own policy lets the
caller resume it. -/
theorem resumeAuthorised_of_execution {operations : List Operation} {before after : ControlPlane}
    {runtime : RevisionRuntime} {req : CheckpointRequest}
    (exec : Execution (Guarded RunsPlans (Step env)) ControlPlane.empty operations before)
    (taken : Step env before (.resume runtime req) after) :
    ∀ record ∈ before.checkpoints, ∀ next ∈ after.checkpoints,
      next.id = record.id → record.status ≠ .resumed →
        next.status = .resumed → AuthorisesResume env req record := by
  intro record mem next nextMem same moved resumed
  have inv := planInvariant_of_execution exec
  obtain ⟨checked, evaluation, accepted, sameResult⟩ :=
    accepted_of_resumed (outcome_of_step taken) mem nextMem same moved resumed
  -- the record that was checked is the only one of its result
  obtain rfl : record = checked :=
    eq_of_sameResult inv mem accepted.mem sameResult
  exact authorisesResume_of_accepted accepted

/-! ## A plan that waits for its gate -/

def plainAgent : AgentEnvironment where
  text := plainEnvironment.text
  hashPayload _ := "hash"
  sha256 _ := "hash"
  memoryRegistryVersion := "memory"
  corpusVersion := "corpus"
  retrieverVersion := "retriever"
  memory _ := none
  retrieve _ _ := ⟨"empty", false, .null⟩
  executeRegisteredToolCall _ := ⟨"failed", none, none, false, 0, .null⟩

def gatePreparation (decisions : List (String × Json)) : AgentPreparation where
  contract := opsContract
  agentContext :=
    { stepLimit := 2
      executionStepLimit := 2
      replanLimit := 0
      recoveryStepLimit := 0
      recoveryBranchLimit := 3
      approvalCheckpointLimit := 1
      toolCallLimit := 1
      retrievalLimit := 1
      memoryReadLimit := 1
      memoryWriteLimit := 1
      allowedActions := ["approval_checkpoint", "respond"]
      allowedMemoryIds := []
      allowedTools := []
      allowedCheckpointIds := []
      allowMemoryWrite := false
      allowLiveReplanning := false }
  approvalDecisions := decisions

/-- A plan that asks for the checkpoint `gate` and responds. -/
def gatePlan : Json :=
  .obj [("steps", .arr
    [.obj [("action", .str "approval_checkpoint"),
        ("checkpoint_id", .str "gate")],
      .obj [("action", .str "respond"), ("content", .str "done")]])]

def gateTrace (decisions : List (String × Json)) : Json :=
  (executeAgentPlan plainAgent "case" (some gatePlan)
    (gatePreparation decisions) none).toJson plainAgent

theorem gateTrace_planTrace (decisions : List (String × Json)) : PlanTrace (gateTrace decisions) :=
  ⟨plainAgent, "case", some gatePlan, gatePreparation decisions, none, rfl⟩

def gateRuntime : RevisionRuntime :=
  fun _ _ decisions => .ok (gateTrace decisions)

theorem gateRuntime_executesPlans : ExecutesPlans gateRuntime := by
  intro res evalCase decisions trace ran
  obtain rfl := Except.ok.inj ran
  exact gateTrace_planTrace decisions

def gateResult : BenchmarkResult :=
  { waitingResult with trace := some (gateTrace []) }

def gateOperations : List Operation :=
  [.execute gateResult (some opsContract) (opsIdentity "requester") 0,
    .decide gateRuntime (gateRequest 1) .approved "reviewed"]

def openedPlane : ControlPlane :=
  (perform (nextControlPlane plainEnvironment) .empty gateOperations).get (by rfl)

theorem openedPlane_execution :
    Execution (Guarded RunsPlans (Step plainEnvironment)) .empty gateOperations
      openedPlane := by
  apply Execution.of_perform_guarded (Option.some_get _).symm
  refine ⟨?_, fun _ _ => ⟨gateRuntime_executesPlans, fun _ _ => trivial⟩⟩
  intro _ trace stored
  obtain rfl := Option.some.inj stored
  exact gateTrace_planTrace []

def resumedGatePlane : ControlPlane :=
  (operate plainEnvironment openedPlane (.resume gateRuntime (gateRequest 2))).1

theorem resumeAuthorised_of_execution_gate :
    resumedGatePlane.checkpoints.rows.map AgentApprovalCheckpoint.status = [.resumed] ∧
    ∀ record ∈ openedPlane.checkpoints, ∀ next ∈ resumedGatePlane.checkpoints,
      next.id = record.id → record.status ≠ .resumed →
        next.status = .resumed → AuthorisesResume plainEnvironment (gateRequest 2) record :=
  ⟨rfl, resumeAuthorised_of_execution openedPlane_execution
    (step_iff.mpr (rfl : _ = resumedGatePlane))⟩

end ModelAtlas.Approval
