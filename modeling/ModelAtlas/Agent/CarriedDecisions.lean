import ModelAtlas.Agent.PendingCheckpoints
import ModelAtlas.Agent.Resumption

/-!
# Decisions that a resumed execution carries

A resumed execution is given the decisions that are read back from the paused
trace and that of the checkpoint that waits. It extends the paused one, and
carries all of them.
-/

namespace ModelAtlas.Agent

open Foundations Approval

section ReadBack

variable {env : AgentEnvironment} {externalCaseId : String}
  {payload : Option Json} {prep : AgentPreparation}
  {callback : Option AgentLiveReplanCallback} {decisions : Option Json}

def tracedDecisions (env : AgentEnvironment) (trace : AgentExecutionTrace) : List (String × Json) :=
  approvalDecisionsFromAgentTrace env.text (trace.toJson env)

theorem recordsRun_of_executed (normalized : prep.approvalDecisions =
      normalizeApprovalDecisions env.text decisions) :
    RecordsRun env externalCaseId prep
      (executeAgentPlan env externalCaseId payload prep callback).steps
      ((executeAgentPlan env externalCaseId payload prep callback).toJson env) := by
  refine ⟨rfl, ?_, fun _ _ => normalDecision_of_decisionFor normalized⟩
  intro step mem
  obtain ⟨before, after, split⟩ := List.append_of_mem mem
  have recorded : EachStep (Recorded env externalCaseId prep)
      (executeAgentPlan env externalCaseId payload prep callback).steps := executeAgentPlan_recorded
  exact ⟨_, (recorded before step after split).executed⟩

theorem runPlan_readBack {plan : ParsedPlan} (plain : PlainTexts env)
    (normalized : prep.approvalDecisions = normalizeApprovalDecisions env.text decisions)
    (replanLimitLe : prep.agentContext.replanLimit ≤ 1) :
    let ctx := planContext env externalCaseId prep plan callback
    let prog := runPlan ctx plan.steps 0 PlanProgress.initial
    runPlan (ctx.replaying (normalizeApprovalDecisions env.text (some (.obj (tracedDecisions env
          (runTrace ctx plan prog))))) callback) plan.steps 0
        PlanProgress.initial = prog := by
  intro ctx prog
  have readBack : normalizeApprovalDecisions env.text (replayDecisions env.text
        ((runTrace ctx plan prog).toJson env) none) =
        normalizeApprovalDecisions env.text (some (.obj (tracedDecisions env
            (runTrace ctx plan prog)))) := by
    rw [replayDecisions, tracedDecisions]
    split
    · next noDecision =>
        rw [List.isEmpty_iff.mp noDecision]
        rfl
    · rfl
  have agrees : AgreesThrough ctx (normalizeApprovalDecisions env.text (replayDecisions env.text
        ((runTrace ctx plan prog).toJson env) none)) prog :=
    agreesThrough_replayDecisions plain normalized (fun _ => Or.inr rfl)
  rw [readBack] at agrees
  generalize normalizeApprovalDecisions env.text (some (.obj (tracedDecisions env
      (runTrace ctx plan prog)))) = given at agrees ⊢
  rcases runPlan_simulates plan.steps 0 PlanProgress.initial agrees with
    quiet | ⟨call, makes⟩
  · exact quiet.same callback rfl
  · obtain ⟨asked, asking, answered⟩ := makes.answered
    have isAsked : callback = some asked := asking
    have answeredSame : prog = call.finish ctx (asked (call.request ctx)) := answered
    rw [isAsked]
    refine (makes.replayed asked).trans ?_
    rw [answeredSame] at agrees
    exact (LiveCall.finish_simulates makes.made replanLimitLe agrees).trans answeredSame.symm

theorem executeAgentPlan_readBack (plain : PlainTexts env)
    (normalized : prep.approvalDecisions = normalizeApprovalDecisions env.text decisions)
    (replanLimitLe : prep.agentContext.replanLimit ≤ 1) :
    let trace := executeAgentPlan env externalCaseId payload prep callback
    executeAgentPlan env externalCaseId payload
        { prep with
          approvalDecisions := normalizeApprovalDecisions env.text
            (some (.obj (tracedDecisions env trace))) } callback =
      trace := by
  intro trace
  rcases executeAgentPlan_shared (normalizeApprovalDecisions env.text
      (some (.obj (tracedDecisions env trace)))) callback callback with
    ⟨same, _⟩ | ⟨plan, own, again⟩
  · exact same
  · have isTrace : trace = runTrace (planContext env externalCaseId
        prep plan callback) plan (runPlan (planContext env
          externalCaseId prep plan callback) plan.steps 0 PlanProgress.initial) := own
    rw [again, isTrace]
    exact congrArg (runTrace _ plan) (runPlan_readBack plain normalized replanLimitLe)

end ReadBack

section More

variable {text : TextEnvironment} {members : List (String × Json)}
  {checkpointId name : String} {raw decision : Json}

theorem normalize_setMember : normalizeApprovalDecisions text
        (some (.obj (Json.setMember members checkpointId raw))) =
      (normalizeApprovalDecisions text (some (.obj members))).filter
          (fun mem => mem.1 ≠ checkpointId) ++
        ((normalizeApprovalDecision text raw).map
          (fun decision => (checkpointId, decision))).toList := by
  simp only [normalizeApprovalDecisions, Json.setMember, List.filterMap_append,
    List.filterMap_filter, List.filter_filterMap]
  congr 1
  apply List.filterMap_congr
  intro mem _
  by_cases other : mem.1 = checkpointId
  · cases normalizeApprovalDecision text mem.2 <;>
      simp [other, Option.filter]
  · cases normalizeApprovalDecision text mem.2 <;>
      simp [other, Option.filter]

theorem lookup_filter_of_ne {list : List (String × Json)} (other : name ≠ checkpointId) :
    (list.filter (fun mem => mem.1 ≠ checkpointId)).lookup name = list.lookup name := by
  induction list with
  | nil => rfl
  | cons mem rest ih =>
    obtain ⟨key, value⟩ := mem
    by_cases same : name = key
    · have kept : key ≠ checkpointId := same ▸ other
      rw [List.filter_cons, if_pos (decide_eq_true kept), same]
      simp only [List.lookup_cons_self]
    · have missed : (name == key) = false := beq_eq_false_iff_ne.mpr same
      by_cases kept : key ≠ checkpointId
      · rw [List.filter_cons, if_pos (decide_eq_true kept)]
        simp only [List.lookup_cons, missed]
        exact ih
      · rw [List.filter_cons, if_neg (by simpa using kept)]
        simp only [List.lookup_cons, missed]
        exact ih

theorem lookup_filter_self {list : List (String × Json)} :
    (list.filter (fun mem => mem.1 ≠ checkpointId)).lookup checkpointId =
      none := by
  rw [List.lookup_eq_none_iff]
  intro mem isMem
  rw [List.mem_filter, decide_eq_true_eq] at isMem
  exact bne_iff_ne.mpr isMem.2.symm

end More

section Resumed

variable {env : AgentEnvironment} {externalCaseId : String}
  {payload : Option Json} {prep : AgentPreparation}
  {callback : Option AgentLiveReplanCallback} {decisions : Option Json}
  {checkpointId : String} {raw decision : Json}

def resumedDecisions (env : AgentEnvironment)
    (trace : AgentExecutionTrace) (checkpointId : String) (raw : Json) :
    List (String × Json) :=
  normalizeApprovalDecisions env.text
    (some (.obj (Json.setMember (tracedDecisions env trace) checkpointId raw)))

theorem resumed_decisionFor (trace : AgentExecutionTrace)
    (normalized : normalizeApprovalDecision env.text raw = some decision) :
    AgentPreparation.decisionFor
        { prep with
          approvalDecisions :=
            resumedDecisions env trace checkpointId raw } checkpointId =
      some decision := by
  have own : (resumedDecisions env trace checkpointId raw).lookup checkpointId = some decision := by
    rw [resumedDecisions, normalize_setMember, List.lookup_append, lookup_filter_self, normalized]
    simp
  rw [AgentPreparation.decisionFor, own]
  rfl

theorem resumed_decidesAlike (trace : AgentExecutionTrace) (undecided : AgentPreparation.decisionFor
      { prep with
        approvalDecisions := normalizeApprovalDecisions env.text
          (some (.obj (tracedDecisions env trace))) }
      checkpointId = none) :
    DecidesAlike
      { prep with
        approvalDecisions := normalizeApprovalDecisions env.text
          (some (.obj (tracedDecisions env trace))) }
      { prep with
        approvalDecisions :=
          resumedDecisions env trace checkpointId raw } := by
  intro name given decided
  rw [AgentPreparation.decisionFor, Option.or_eq_none_iff] at undecided
  rw [AgentPreparation.decisionFor, undecided.2, Option.or_none] at decided
  have other : name ≠ checkpointId := by
    rintro rfl
    rw [undecided.1] at decided
    cases decided
  rw [AgentPreparation.decisionFor]
  simp only [resumedDecisions, normalize_setMember, List.lookup_append,
    lookup_filter_of_ne other, decided, Option.some_or]

end Resumed

section Waiting

variable {env : AgentEnvironment} {externalCaseId : String}
  {payload : Option Json} {prep : AgentPreparation}
  {callback : Option AgentLiveReplanCallback} {call : StepCall}

theorem executeAgentStep_awaits (pending : (executeAgentStep env externalCaseId prep
      call).isPendingCheckpoint = true) :
    ∃ checkpointId, checkpointId ≠ "" ∧ pyStrip checkpointId = checkpointId ∧
      prep.decisionFor checkpointId = none ∧
      executeAgentStep env externalCaseId prep call =
        checkpointStep env call checkpointId none := by
  by_cases refused : (!(stepViolations env prep call).isEmpty) = true
  · have own : executeAgentStep env externalCaseId prep call = policyViolationStep env call
          (call.plannedText env "action")
          (stepViolations env prep call) := if_pos refused
    rw [own] at pending
    cases (Bool.and_false _).symm.trans pending
  by_cases checkpoint :
      call.plannedText env "action" = "approval_checkpoint"
  · have own : executeAgentStep env externalCaseId prep call =
        executeApprovalCheckpoint env prep call :=
      (if_neg refused).trans (if_pos checkpoint)
    rw [own] at pending ⊢
    by_cases valid : checkpointViolations env prep call
        (pyStrip (call.plannedText env "checkpoint_id")) = []
    · have isStep := executeApprovalCheckpoint_valid valid
      refine ⟨_, checkpointId_ne_empty valid, pyStrip_pyStrip _, ?_⟩
      rw [isStep] at pending ⊢
      rw [checkpointStep_pending, Option.isNone_iff_eq_none] at pending
      rw [pending]
      exact ⟨rfl, rfl⟩
    · rw [executeApprovalCheckpoint_violated valid] at pending
      cases pending
  · exfalso
    have answers : AnswersCall env call
        (call.plannedText env "action")
        (executeAgentStep env externalCaseId prep call) :=
      answersCall_executeAgentStep
    have quiet : (executeAgentStep env externalCaseId prep call).isPendingCheckpoint = false := by
      apply AgentStep.not_pending_of_action
      rw [answers.action]
      exact checkpoint
    rw [quiet] at pending
    cases pending

theorem checkpointId_of_waiting {checkpointId : String} : strippedMember env.text
        (((checkpointStep env call checkpointId none).toJson
          env).objectOr "output") "checkpoint_id" =
      pyStrip checkpointId := by
  show pyStrip (Json.pyStrOrEmpty _ (some (.str checkpointId))) = _
  rw [Json.pyStrOrEmpty_str]

end Waiting

def CarriesDecision (text : TextEnvironment) (trace : Json)
    (checkpointId : String) (recorded : Json) : Prop :=
  ∃ step ∈ trace.items "steps",
    decisionOfStep text step = some (checkpointId, recorded)

section Carried

variable {env : AgentEnvironment} {externalCaseId : String}
  {payload : Option Json} {prep : AgentPreparation}
  {callback : Option AgentLiveReplanCallback} {decisions : Option Json}
  {checkpointId : String} {raw decision : Json}

theorem decisionOfStep_markedAt {text : TextEnvironment} {step : AgentStep} (marked : Option Nat) :
    decisionOfStep text ((step.markedAt marked).toJson env) =
      decisionOfStep text (step.toJson env) := by
  apply decisionOfStep_toJson
  · rw [AgentStep.markedAt]
    split
    · rfl
    · rfl
  · rw [AgentStep.markedAt]
    split
    · rfl
    · rfl

theorem executeAgentPlan_carries (plain : PlainTexts env)
    (normalized : prep.approvalDecisions = normalizeApprovalDecisions env.text decisions)
    (replanLimitLe : prep.agentContext.replanLimit ≤ 1)
    {waiting : Json}
    (mem : waiting ∈ pendingCheckpointSteps
      ((executeAgentPlan env externalCaseId payload prep callback).toJson env))
    (isWaiting : checkpointId = strippedMember env.text
      (waiting.objectOr "output") "checkpoint_id")
    (given : normalizeApprovalDecision env.text raw = some decision) :
    let trace := executeAgentPlan env externalCaseId payload prep callback
    let resumed := executeAgentPlan env externalCaseId payload
      { prep with
        approvalDecisions :=
          resumedDecisions env trace checkpointId raw } callback
    (∀ name recorded, CarriesDecision env.text (trace.toJson env) name recorded →
        CarriesDecision env.text (resumed.toJson env) name recorded) ∧
      CarriesDecision env.text (resumed.toJson env) checkpointId
        (recordedDecision env checkpointId decision) := by
  intro trace resumed
  -- With what is read back alone, the plan is executed as before.
  have again : executeAgentPlan env externalCaseId payload
      { prep with
        approvalDecisions := normalizeApprovalDecisions env.text
          (some (.obj (tracedDecisions env trace))) } callback = trace :=
    executeAgentPlan_readBack plain normalized replanLimitLe
  rw [pendingCheckpointSteps_toJson, List.mem_map] at mem
  obtain ⟨step, isStep, rfl⟩ := mem
  obtain ⟨stepMem, pending⟩ := List.mem_filter.mp isStep
  have ownMem : step ∈ (executeAgentPlan env externalCaseId payload
      { prep with
        approvalDecisions := normalizeApprovalDecisions env.text
          (some (.obj (tracedDecisions env trace))) } callback).steps := by
    rw [again]
    exact stepMem
  have records := @recordsRun_of_executed env externalCaseId payload
    { prep with
      approvalDecisions := normalizeApprovalDecisions env.text
        (some (.obj (tracedDecisions env trace))) } callback
    (some (.obj (tracedDecisions env trace))) rfl
  obtain ⟨call, executed⟩ := records.executed step ownMem
  have waits : (executeAgentStep env externalCaseId
      { prep with
        approvalDecisions := normalizeApprovalDecisions env.text
          (some (.obj (tracedDecisions env trace))) }
      call).isPendingCheckpoint = true := by
    rw [← executed]
    exact pending
  obtain ⟨ownId, named, stripped, undecided, isCheckpoint⟩ :=
    executeAgentStep_awaits waits
  have sameId : checkpointId = ownId := by
    have output : (step.toJson env).objectOr "output" =
        ((checkpointStep env call ownId none).toJson
          env).objectOr "output" := by
      rw [← isCheckpoint, ← executed]
      rfl
    rw [isWaiting, output, checkpointId_of_waiting, stripped]
  subst sameId
  have resumes : Resumes env
      { prep with
        approvalDecisions := normalizeApprovalDecisions env.text
          (some (.obj (tracedDecisions env trace))) }
      { prep with
        approvalDecisions :=
          resumedDecisions env trace checkpointId raw }
      trace.steps resumed.steps := by
    have alike := @resumed_decidesAlike env prep checkpointId raw trace undecided
    have ran := executeAgentPlan_resumesAt alike ownMem pending
    rw [again] at ran
    exact ran
  obtain ⟨earlier, own, ownId, marked, later, resumesAt⟩ := resumes
  have isPaused : step = checkpointStep env own ownId none := by
    rw [resumesAt.paused, List.mem_append, List.mem_singleton] at stepMem
    rcases stepMem with early | same
    · rw [resumesAt.quiet step early] at pending
      cases pending
    · exact same
  have sameId : ownId = checkpointId := by
    have output := congrArg (fun paused : AgentStep =>
      (paused.output.getD .null).get? "checkpoint_id")
      (executed.trans isCheckpoint)
    rw [isPaused] at output
    exact Json.str.inj (Option.some.inj output)
  subst sameId
  have decides := resumesAt.resumed
  rw [resumed_decisionFor trace given] at decides
  constructor
  · rintro name recorded ⟨item, itemMem, found⟩
    obtain ⟨old, oldMem, rfl⟩ := List.mem_map.mp itemMem
    rw [resumesAt.paused, List.mem_append, List.mem_singleton] at oldMem
    rcases oldMem with early | rfl
    · refine ⟨(old.markedAt marked).toJson env, ?_, ?_⟩
      · refine List.mem_map.mpr ⟨old.markedAt marked, ?_, rfl⟩
        rw [decides]
        exact List.mem_append_left _ (List.mem_map_of_mem early)
      · rw [decisionOfStep_markedAt]
        exact found
    · rw [decisionOfStep_pending plain] at found
      cases found
  · refine ⟨(checkpointStep env own ownId (some decision)).toJson env, ?_, ?_⟩
    · refine List.mem_map.mpr ⟨_, ?_, rfl⟩
      rw [decides]
      exact List.mem_append_right _ List.mem_cons_self
    · exact decisionOfStep_decided plain (normalDecision_of_normalized given)
        stripped named (checkpointStep_action env own ownId _) (checkpointStep_output decision)

end Carried

/-- What the executions of a result and of its revisions share: the case, the stored plan, tools
and retrieval, and the answers of the live replan. -/
structure RevisionContext where
  env : PreparationEnvironment
  evaluationCase : EvaluationCase
  payload : Option Json
  callback : Option AgentLiveReplanCallback

namespace RevisionContext

variable {ctx : RevisionContext} {decisions : Option Json} {trace : Json}

def traceUnder (ctx : RevisionContext) (decisions : Option Json) : Option Json :=
  (prepareAgentExecution ctx.env ctx.evaluationCase decisions).map (fun prep =>
      (executeAgentPlan ctx.env.toAgentEnvironment
        ctx.evaluationCase.externalCaseId ctx.payload prep
        ctx.callback).toJson ctx.env.toAgentEnvironment)

theorem planTrace (executed : ctx.traceUnder decisions = some trace) : PlanTrace trace := by
  obtain ⟨prep, _, rfl⟩ := Option.map_eq_some_iff.mp executed
  exact ⟨_, _, _, _, _, rfl⟩

theorem carries (plain : PlainTexts ctx.env.toAgentEnvironment)
    (executed : ctx.traceUnder decisions = some trace) {checkpointId : String}
    {raw decision resumed : Json} (revised : ctx.traceUnder (some (.obj (Json.setMember
      (approvalDecisionsFromAgentTrace ctx.env.text trace)
      checkpointId raw))) = some resumed)
    {waiting : Json} (mem : waiting ∈ pendingCheckpointSteps trace)
    (isWaiting : checkpointId = strippedMember ctx.env.text
      (waiting.objectOr "output") "checkpoint_id")
    (given : normalizeApprovalDecision ctx.env.text raw = some decision) :
    (∀ name recorded, CarriesDecision ctx.env.text trace name recorded →
        CarriesDecision ctx.env.text resumed name recorded) ∧
      CarriesDecision ctx.env.text resumed checkpointId
        (recordedDecision ctx.env.toAgentEnvironment checkpointId decision) := by
  obtain ⟨prep, prepared, rfl⟩ := Option.map_eq_some_iff.mp executed
  obtain ⟨other, otherPrepared, rfl⟩ := Option.map_eq_some_iff.mp revised
  have preparationEq := prepareAgentExecution_eq_some prepared
  have normalized : prep.approvalDecisions = normalizeApprovalDecisions ctx.env.text decisions := by
    rw [preparationEq]
  have replanLimitLe : prep.agentContext.replanLimit ≤ 1 := by
    rw [preparationEq]
    exact agentContext_replanLimit_le _
  rw [prepareAgentExecution_decisions _ prepared] at otherPrepared
  rw [← Option.some.inj otherPrepared]
  exact executeAgentPlan_carries plain normalized replanLimitLe mem isWaiting given

end RevisionContext

end ModelAtlas.Agent
