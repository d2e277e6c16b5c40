import ModelAtlas.Gate.StepAgreement

/-!
# The critical evaluator accepts successful runs

Every successful trace of `execute_agent_plan` is evaluated without errors,
where the evaluator reads the contract as the executor does.
-/

namespace ModelAtlas.Gate

open Foundations Approval Agent

def contractCase (contract : List (String × Json)) : Agent.EvaluationCase where
  externalCaseId := "case"
  category := "agent"
  reference := .obj [("agent", .obj contract)]

/-- Whether an execution over the default registry succeeds, and the errors
that the evaluator finds in its trace. -/
def evaluatedExecution (contract : List (String × Json)) (payload : Json) :
    Option (Bool × List String) :=
  let env := smallEnvironment.toAgentEnvironment.withDefaultTools
  (prepareAgentExecution env (contractCase contract) none).map (fun prep =>
      let trace := executeAgentPlan env.toAgentEnvironment "case"
        (some payload) prep none
      (trace.successful, agentTraceErrors env.text.render (some trace.parseValid)
        (.obj [("agent_execution",
          trace.toJson env.toAgentEnvironment)])
        (contractCase contract)))

def emptyAllowList : List (String × Json) :=
  [("expected_steps", .arr [.obj [("action", .str "respond")]]),
    ("allowed_actions", .arr [])]

def respondingPlan : Json :=
  .obj [("steps", .arr
    [.obj [("action", .str "respond"), ("content", .str "done")]])]

/-- A flag that is not `true`, but taken as such by the executor. -/
def truthyWriteFlag : List (String × Json) :=
  [("expected_steps", .arr
      [.obj [("action", .str "memory_write")],
        .obj [("action", .str "respond")]]),
    ("allowed_actions", .arr [.str "memory_write", .str "respond"]),
    ("allow_memory_write", .int 1)]

def recoveredWrite : List (String × Json) :=
  [("expected_steps", .arr
      [.obj [("action", .str "memory_write")],
        .obj [("action", .str "respond")]]),
    ("allowed_actions", .arr [.str "memory_write", .str "respond"]),
    ("allow_replanning", .bool true)]

def writingPlan (recoveries : List Json) : Json :=
  .obj [("steps", .arr
      [.obj [("action", .str "memory_write"), ("key", .str "note"),
          ("value", .str "done")],
        .obj [("action", .str "respond"), ("content", .str "done")]]),
    ("recovery_plans", .arr recoveries)]

def respondingRecovery : Json :=
  .obj [("trigger_step_index", .int 0),
    ("steps", .arr
      [.obj [("action", .str "respond"), ("content", .str "skipped")]])]

/-- Contracts that the evaluator can read, and successful traces that it does
not accept. -/
theorem evaluator_rejects_successful_traces : ((readContract (.obj emptyAllowList)).isSome ∧
      evaluatedExecution emptyAllowList respondingPlan =
        some (true, ["agent_step_policy_violation"])) ∧
    ((readContract (.obj truthyWriteFlag)).isSome ∧
      evaluatedExecution truthyWriteFlag (writingPlan []) =
        some (true, ["agent_step_policy_violation"])) ∧
    ((readContract (.obj recoveredWrite)).isSome ∧
      evaluatedExecution recoveredWrite (writingPlan [respondingRecovery]) =
        some (true, ["agent_step_policy_violation"])) := by
  refine ⟨⟨rfl, rfl⟩, ⟨rfl, rfl⟩, ⟨rfl, rfl⟩⟩

section Run

variable {env : AgentEnvironment} {externalCaseId : String}
  {prep : AgentPreparation} {plan : ParsedPlan}
  {callback : Option AgentLiveReplanCallback} {prog : PlanProgress}
  {reading : ContractReading}

theorem response_storedTrace (hashes : HashesToText env)
    (verified : VerifiedDecisions prep.approvalDecisions)
    (run : SuccessfulRun (defaultContext env externalCaseId prep plan callback) plan prog) :
    (traceSteps (storedTrace (defaultContext env externalCaseId
      prep plan callback) plan prog)).any isResponse = true := by
  obtain ⟨step, mem, final⟩ := run.response
  rw [AgentStep.isFinalResponse, Bool.and_eq_true, decide_eq_true_eq] at final
  obtain ⟨before, _, recorded⟩ := run.faithful.recorded.of_mem mem
  obtain ⟨content, members, output, notBlank⟩ :=
    (recorded.success hashes verified final.2).respond final.1
  rw [traceSteps_storedTrace, List.any_eq_true]
  refine ⟨_, List.mem_map_of_mem mem, ?_⟩
  have stored : ((step.toJson (defaultContext env externalCaseId
      prep plan callback).env).objectOr "output").get?
        "content" = some (.str content) := by
    simp only [AgentStep.toJson, output]
    rfl
  simp only [isResponse, stored, Bool.and_eq_true, decide_eq_true_eq]
  exact ⟨⟨final.1, final.2⟩, notBlank⟩

theorem contractErrors_eq_nil (hashes : HashesToText env) (prints : PrintsNoTool env)
    (verified : VerifiedDecisions prep.approvalDecisions) (shared : SharedContract prep reading)
    (executionLimit : prep.agentContext.executionStepLimit =
      prep.agentContext.stepLimit + prep.agentContext.recoveryStepLimit)
    (run : SuccessfulRun (defaultContext env externalCaseId prep plan callback) plan prog)
    (writes : ∀ step ∈ prog.executedSteps, step.action = "memory_write" →
      boolField prep.contract "allow_memory_write" = true) :
    contractErrors (storedTrace (defaultContext env externalCaseId prep plan
        callback) plan prog) env.text.render prep.contract
      reading = [] := by
  have shapes : ∀ step ∈ prog.executedSteps, StepShape step := by
    intro step mem
    obtain ⟨before, _, recorded⟩ := run.faithful.recorded.of_mem mem
    exact recorded.shape
  have noStepErrors : (traceSteps (storedTrace (defaultContext env
      externalCaseId prep plan callback) plan prog)).flatMap
        (stepErrors (storedTrace (defaultContext env externalCaseId
          prep plan callback) plan prog) env.text.render
          prep.contract reading) = [] := by
    rw [List.flatMap_eq_nil_iff, traceSteps_storedTrace]
    intro stored mem
    obtain ⟨step, stepMem, rfl⟩ := List.mem_map.mp mem
    exact stepErrors_eq_nil hashes prints verified shared run stepMem (writes step stepMem)
  simp only [contractErrors, noStepErrors, if_true, List.append_nil,
    sequenceAgrees_storedTrace run shared.reads,
    coverageAgrees_storedTrace run executionLimit,
    countersAgree_storedTrace run shapes, recoveredIndex_isSome run,
    recoveryCovered_storedTrace run, response_storedTrace hashes verified run]

end Run

theorem validFields_storedTrace {env : AgentEnvironment}
    {externalCaseId : String} {prep : AgentPreparation}
    {plan : ParsedPlan} {callback : Option AgentLiveReplanCallback}
    {prog : PlanProgress}
    (run : SuccessfulRun (defaultContext env externalCaseId prep plan callback) plan prog)
    (status : (runTrace (defaultContext env externalCaseId prep
      plan callback) plan prog).status = "success") :
    validFields traceFields (storedTrace (defaultContext env
      externalCaseId prep plan callback) plan prog) = true := by
  apply validFields_trace status
  · intro event mem
    rcases run.replanState with none | ⟨only, triggered, once⟩
    · have noEvent : prog.replanEvents = [] := none.noEvent
      have listed : event ∈ prog.replanEvents := mem
      rw [noEvent] at listed
      cases listed
    · have listed : event ∈ prog.replanEvents := mem
      rw [once.onlyEvent, List.mem_singleton] at listed
      obtain ⟨observing, step, observation⟩ := once.observed
      rw [listed]
      exact validFields_replan observation once.shape
  · intro step mem
    obtain ⟨before, _, recorded⟩ := run.faithful.recorded.of_mem mem
    exact validFields_step (run.phase_eq mem) (run.objects step mem) recorded.shape.output

theorem agentTraceErrors_of_checks {env : AgentEnvironment} {evalCase : Agent.EvaluationCase}
    {metadata : Json} {contract : List (String × Json)} {reading : ContractReading}
    {trace : AgentExecutionTrace} {render : Json → String} {jsonValid : Option Bool}
    (stored : metadata.get? "agent_execution" =
      some (trace.toJson env))
    (sameCase : trace.externalCaseId = evalCase.externalCaseId)
    (found : evalCase.reference.get? "agent" = some (.obj contract))
    (read : readContract (.obj contract) = some reading)
    (wellTyped : validFields traceFields (trace.toJson env) = true)
    (claims : claimsSuccess jsonValid (trace.toJson env) = true)
    (noErrors : contractErrors (trace.toJson env) render (.obj contract) reading = []) :
    agentTraceErrors render jsonValid metadata evalCase = [] := by
  obtain ⟨members, traceEq⟩ : ∃ members, trace.toJson env = .obj members := ⟨_, rfl⟩
  have complete : requiredMembers.any (fun name =>
    ((trace.toJson env).get? name).isNone) = false := rfl
  have supported : supportedVersions (trace.toJson env) = true := rfl
  have caseEq : textField (trace.toJson env) "external_case_id" =
      trace.externalCaseId := rfl
  rw [traceEq] at stored complete supported caseEq wellTyped claims noErrors
  simp only [agentTraceErrors, stored, complete, wellTyped, supported, caseEq,
    sameCase, found, read, claims, noErrors]
  rw [if_neg (by decide), if_neg (by decide), if_neg (by decide), if_neg (not_not_intro rfl)]
  rfl

theorem agentContract_eq {evalCase : Agent.EvaluationCase} {contract : List (String × Json)}
    (found : evalCase.reference.get? "agent" = some (.obj contract)) :
    agentContract evalCase = .obj contract := by
  rw [agentContract, Json.objectOr, found]

/-- The stored trace of a successful execution is evaluated without errors. -/
theorem agentTraceErrors_of_successful (env : AgentEnvironment) (evalCase : Agent.EvaluationCase)
    (decisions payload : Option Json) (provider : Option LiveReplanProvider) (metadata : Json)
    {contract : List (String × Json)} {reading : ContractReading} {prep : AgentPreparation}
    (hashes : HashesToText env) (prints : PrintsNoTool env)
    (found : evalCase.reference.get? "agent" = some (.obj contract))
    (read : readContract (.obj contract) = some reading)
    (named : NamesAction env (.obj contract))
    (verified : VerifiedRequest decisions)
    (prepared : prepareAgentExecution env.withDefaultTools evalCase decisions = some prep) :
    let executing := env.withDefaultTools.toAgentEnvironment
    let trace := executeAgentPlan executing evalCase.externalCaseId payload prep
      (provider.map (LiveReplanProvider.callback executing))
    trace.successful = true →
    (∀ step ∈ trace.steps, step.action = "memory_write" →
      boolField (.obj contract) "allow_memory_write" = true) →
    metadata.get? "agent_execution" = some (trace.toJson executing) →
      agentTraceErrors env.text.render (some trace.parseValid) metadata evalCase = [] := by
  intro executing trace successful writes stored
  have contractEq := agentContract_eq found
  have preparationEq := prepareAgentExecution_eq_some prepared
  have samePreparation : prep.contract = .obj contract := by
    rw [preparationEq, contractEq]
  have replanLimitLe : prep.agentContext.replanLimit ≤ 1 := by
    rw [preparationEq]
    exact agentContext_replanLimit_le _
  have executionLimit : prep.agentContext.executionStepLimit = prep.agentContext.stepLimit +
        prep.agentContext.recoveryStepLimit := by
    rw [preparationEq]
    rfl
  have decisionsVerified : VerifiedDecisions prep.approvalDecisions := by
    rw [preparationEq]
    exact verifiedDecisions_of_request verified
  have shared : SharedContract prep reading :=
    sharedContract_of_prepared prepared (contractEq ▸ read) (contractEq ▸ named)
  obtain ⟨plan, prog, run, traceEq⟩ := executeAgentPlan_successful
    (recordsObjects_callback executing provider) replanLimitLe successful
  change trace = _ at traceEq
  rw [traceEq] at successful writes stored ⊢
  have noErrors := contractErrors_eq_nil hashes prints decisionsVerified shared
    executionLimit run (fun step mem write => by
      rw [samePreparation]
      exact writes step mem write)
  rw [samePreparation] at noErrors
  have wellTyped := validFields_storedTrace run (runTrace_status run successful)
  have claims := claimsSuccess_storedTrace run successful
  exact agentTraceErrors_of_checks stored rfl found read wellTyped claims noErrors

def gatedReading : ContractReading :=
  (readContract (agentContract gatedCase)).get (by rfl)

def gatedDefaultPreparation : AgentPreparation :=
  (prepareAgentExecution smallEnvironment.toAgentEnvironment.withDefaultTools
    gatedCase (some gateApproval)).get (by rfl)

theorem agentTraceErrors_of_successful_gate :
    let executing :=
      smallEnvironment.toAgentEnvironment.withDefaultTools.toAgentEnvironment
    let trace := executeAgentPlan executing gatedCase.externalCaseId
      (some gatedPlan) gatedDefaultPreparation none
    trace.successful = true ∧ agentTraceErrors executing.text.render (some trace.parseValid)
        (.obj [("agent_execution", trace.toJson executing)]) gatedCase = [] := by
  have hashes : HashesToText smallEnvironment.toAgentEnvironment := by
    intro payload
    exact (show "hash" ≠ "" by decide)
  have prints : PrintsNoTool smallEnvironment.toAgentEnvironment :=
    fun _ _ => rfl
  have verified : VerifiedRequest (some gateApproval) := by
    intro members checkpointId raw isRequest mem
    cases isRequest
    rw [List.mem_singleton] at mem
    cases mem
    rfl
  have named : NamesAction smallEnvironment.toAgentEnvironment
      (agentContract gatedCase) := Or.inr (by decide)
  have read : readContract (agentContract gatedCase) = some gatedReading :=
    (Option.some_get _).symm
  refine ⟨by decide, ?_⟩
  exact agentTraceErrors_of_successful smallEnvironment.toAgentEnvironment
    gatedCase (some gateApproval) (some gatedPlan) none _ hashes prints rfl
    read named verified (Option.some_get _).symm (by decide) (by decide) rfl

end ModelAtlas.Gate
