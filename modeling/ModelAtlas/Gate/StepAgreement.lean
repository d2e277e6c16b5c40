import ModelAtlas.Gate.TraceAgreement

/-!
# Agreement on every step

Each step of a successful run over the default registry of tools passes the
checks that `_agent_trace_errors` makes of one step, and so the stored trace of
the run has no errors.
-/

namespace ModelAtlas.Gate

open Foundations Approval Agent

variable {storing : AgentEnvironment}

section Lookup

universe u v

variable {Key : Type u} {Value : Type v} [BEq Key] [LawfulBEq Key]

theorem lookup_zip_eq_none {keys : List Key} {values : List Value} {key : Key}
    (missing : key ∉ keys) : (keys.zip values).reverse.lookup key = none := by
  rw [List.lookup_eq_none_iff]
  intro pair mem
  have isKey : pair.1 ∈ keys :=
    (List.of_mem_zip (List.mem_reverse.mp mem)).1
  rw [bne_iff_ne]
  rintro rfl
  exact missing isKey

theorem lookup_zip_of_nodup {keys : List Key} {values : List Value} {key : Key} {position : Nat}
    (differ : keys.Nodup) (found : keys[position]? = some key) :
    (keys.zip values).reverse.lookup key = values[position]? := by
  induction keys generalizing values position with
  | nil => cases found
  | cons first rest ih =>
    obtain ⟨notLater, restDiffer⟩ := List.nodup_cons.mp differ
    cases values with
    | nil => simp
    | cons value others =>
      rw [List.zip_cons_cons, List.reverse_cons, List.lookup_append]
      cases position with
      | zero =>
        rw [List.getElem?_cons_zero, Option.some_inj] at found
        subst found
        rw [lookup_zip_eq_none notLater]
        simp
      | succ position =>
        rw [List.getElem?_cons_succ] at found
        have other : key ≠ first := by
          rintro rfl
          exact notLater (List.mem_of_getElem? found)
        rw [ih restDiffer found, List.getElem?_cons_succ]
        have noFirst : List.lookup key [(first, value)] = none := by
          rw [List.lookup_cons, beq_false_of_ne other]
          rfl
        rw [noFirst, Option.or_none]

end Lookup

/-- `expected_by_index.get(step.step_index, {})`. -/
def expectedByIndex (trace : Json) (reading : ContractReading) (step : Json) :
    Json :=
  ((((planStepsOf trace).map stepIndex).zip reading.expected).reverse.lookup
    (stepIndex step)).getD (.obj [])

section Run

variable {ctx : PlanContext} {plan : ParsedPlan} {prog : PlanProgress}

theorem stepIndices_nodup (run : SuccessfulRun ctx plan prog) :
    (prog.executedSteps.map AgentStep.stepIndex).Nodup := by
  rw [run.faithful.numbered]
  exact List.nodup_range

theorem storedPlanIndices (run : SuccessfulRun ctx plan prog) :
    (planStepsOf (storedTrace ctx plan prog)).map stepIndex =
      ((planSteps prog.executedSteps).map AgentStep.stepIndex).map
        (fun index : Nat => (index : Int)) := by
  rw [planStepsOf_storedTrace run, storedSteps, List.map_map, List.map_map]
  rfl

theorem expectedByIndex_cases {reading : ContractReading} (run : SuccessfulRun ctx plan prog)
    (reads : ReadsContract ctx.preparation.contract reading) {before after : List AgentStep}
    {step : AgentStep} (split : prog.executedSteps = before ++ step :: after) :
    expectedByIndex (storedTrace ctx plan prog) reading (step.toJson ctx.env) = .obj [] ∨
      matchingExpected ctx.preparation.contract before step.parentStepIndex =
        some (expectedByIndex (storedTrace ctx plan prog) reading (step.toJson ctx.env)) := by
  have differ : (((planSteps prog.executedSteps).map
      AgentStep.stepIndex).map (fun index : Nat => (index : Int))).Nodup :=
    ((stepIndices_nodup run).sublist (List.filter_sublist.map _)).map (fun _ _ => Int.ofNat.inj)
  have indexEq : stepIndex (step.toJson ctx.env) = (step.stepIndex : Int) := rfl
  rw [expectedByIndex, storedPlanIndices run, indexEq]
  cases parent : step.parentStepIndex with
  | none =>
    have position : (((planSteps prog.executedSteps).map
        AgentStep.stepIndex).map (fun index : Nat => (index : Int)))[
          (planSteps before).length]? = some (step.stepIndex : Int) := by
      rw [split, planSteps_append]
      simp [planSteps, parent]
    rw [lookup_zip_of_nodup differ position, matchingExpected,
      reads.expectedSteps_eq, ← planSteps_length]
    cases reading.expected[(planSteps before).length]? with
    | none => exact Or.inl rfl
    | some expected => exact Or.inr rfl
  | some trigger =>
    have missing : (step.stepIndex : Int) ∉ ((planSteps
        prog.executedSteps).map AgentStep.stepIndex).map (fun index : Nat => (index : Int)) := by
      rw [List.map_map]
      intro listed
      obtain ⟨other, otherPlanned, sameIndex⟩ := List.mem_map.mp listed
      obtain ⟨otherMem, noParent⟩ := List.mem_filter.mp otherPlanned
      have mem : step ∈ prog.executedSteps := by
        rw [split]
        exact List.mem_append_right _ List.mem_cons_self
      have same : other = step := List.inj_on_of_nodup_map
        (stepIndices_nodup run) otherMem mem (Int.ofNat.inj sameIndex)
      rw [same, parent] at noParent
      cases noParent
    rw [lookup_zip_eq_none missing]
    exact Or.inl rfl

end Run

section Names

variable {env : AgentEnvironment}

theorem text_of_registered {value : Json} (prints : PrintsNoTool env)
    (registered : (registeredTool? env (value.pyStr env.text.render)).isSome = true) :
    value = .str (value.pyStr env.text.render) := by
  by_cases isText : ∃ text, value = .str text
  · obtain ⟨text, rfl⟩ := isText
    rfl
  · have notText : ∀ text, value ≠ .str text :=
      fun text same => isText ⟨text, same⟩
    have rendered : value.pyStr env.text.render = env.text.render value := by
      cases value with
      | str text => exact absurd rfl (notText text)
      | _ => rfl
    rw [rendered, prints value notText] at registered
    cases registered

theorem some_text_of_registered {value : Option Json} (prints : PrintsNoTool env)
    (registered : (registeredTool? env (Json.pyStrOrEmpty env.text.render value)).isSome = true) :
    value = some (.str (Json.pyStrOrEmpty env.text.render value)) := by
  cases value with
  | none => cases registered
  | some present =>
    by_cases truthy : present.truthy = true
    · simp only [Json.pyStrOrEmpty, if_pos truthy] at registered ⊢
      exact congrArg some (text_of_registered prints registered)
    · simp only [Json.pyStrOrEmpty, if_neg truthy] at registered
      cases registered

theorem mem_of_textsOr {render : Json → String} {default texts : List String} {value : Option Json}
    {text : String} (read : textsOr default value = some texts)
    (mem : text ∈ Json.stringList render value) : text ∈ texts := by
  cases value with
  | none => cases mem
  | some present =>
    cases present with
    | arr items =>
      simp only [textsOr] at read
      split at read
      · next allTexts =>
          cases read
          obtain ⟨item, itemMem, itemText⟩ :=
            List.mem_map.mp (List.mem_of_mem_filter mem)
          have isText := List.all_eq_true.mp allTexts item itemMem
          cases item with
          | str stored =>
            cases itemText
            exact List.mem_filterMap.mpr ⟨_, itemMem, rfl⟩
          | _ => cases isText
      · cases read
    | _ => cases mem

end Names

section Tools

variable {env : AgentEnvironment} {prep : AgentPreparation}
  {call : StepCall} {step : AgentStep} {toolCall : ToolCall}
  {toolStep : ToolExecutionStep}

theorem expectedToolName_agrees {expected : Json} (prints : PrintsNoTool env)
    (successful : SuccessfulToolCall env toolCall toolStep)
    (isExpected : toolCall.expected = some expected)
    (named : expected.truthyMember "tool_name" = true) :
    expected.get? "tool_name" = some (.str toolCall.toolName) := by
  have selected := successful.selected
  simp only [expectedToolName, isExpected, if_pos named, Option.all_some,
    decide_eq_true_eq] at selected
  cases found : expected.get? "tool_name" with
  | none =>
    rw [Json.truthyMember, found] at named
    cases named
  | some value =>
    rw [found, Option.getD_some] at selected
    have registered := successful.registered
    rw [selected] at registered
    rw [selected]
    exact congrArg some (text_of_registered prints registered)

theorem expectedArguments_agree {expected : Json} {schema : List (String × Json)}
    (successful : SuccessfulToolCall env toolCall toolStep)
    (isExpected : toolCall.expected = some expected)
    (found : expected.get? "arguments" = some (.obj schema)) :
    validateJsonSchema env.text.render (.obj schema) toolCall.arguments
      "$" = [] := by
  have noErrors := successful.noErrors
  simp only [callErrors, isExpected, Option.bind_some, found, List.append_eq_nil_iff] at noErrors
  exact noErrors.2

theorem plannedArguments (facts : SuccessfulToolStep env call toolCall toolStep step.output) :
    ∃ members, call.planned.get? "arguments" = some (.obj members) ∧
      toolCall.arguments = .obj members := by
  obtain ⟨name, value, present⟩ := facts.successful.has_argument
  rw [facts.arguments, Json.objectOr] at present
  rw [facts.arguments, Json.objectOr]
  split at present
  · next members found => exact ⟨members, found, rfl⟩
  · cases present

theorem namedTool_agrees {expectedStep : Json} (prints : PrintsNoTool env)
    (facts : SuccessfulToolStep env call toolCall toolStep step.output)
    (isExpected : expectedStep = .obj [] ∨ call.expected = some expectedStep) :
    (!expectedStep.truthyMember "tool_name" ||
      pyEqOption (some (.str toolCall.toolName))
        (expectedStep.get? "tool_name")) = true := by
  by_cases named : expectedStep.truthyMember "tool_name" = true
  · rcases isExpected with rfl | isExpected
    · cases named
    · have found := expectedToolName_agrees prints facts.successful
        (facts.expected.trans isExpected) named
      rw [found, Bool.or_eq_true]
      exact Or.inr (pyEq_self _)
  · rw [Bool.not_eq_true] at named
    rw [named]
    rfl

theorem expectedSchema_agrees {expectedStep : Json}
    (facts : SuccessfulToolStep env call toolCall toolStep step.output)
    (isExpected : expectedStep = .obj [] ∨ call.expected = some expectedStep) :
    (match expectedStep.get? "arguments" with
      | some (.obj schema) => (validateJsonSchema env.text.render
          (.obj schema) toolCall.arguments "$").isEmpty
      | _ => true) = true := by
  split
  · next schema found =>
      rcases isExpected with rfl | isExpected
      · cases found
      · rw [expectedArguments_agree facts.successful (facts.expected.trans isExpected) found]
        rfl
  · rfl

theorem toolAgrees_of_success {trace : Json} {reading : ContractReading} (prints : PrintsNoTool env)
    (facts : SuccessfulToolStep env call toolCall toolStep step.output)
    (input : step.input = call.planned)
    (allowed : call.plannedText env "tool_name" ∈
      reading.allowedTools)
    (isExpected : expectedByIndex trace reading (step.toJson storing) = .obj [] ∨ call.expected =
        some (expectedByIndex trace reading (step.toJson storing))) :
    toolAgrees trace env.text.render reading (step.toJson storing) =
      true := by
  obtain ⟨members, plannedEq, argumentsEq⟩ := plannedArguments facts
  have output : (step.toJson storing).objectOr "output" =
      .obj [("tool_execution", toolStep.toJson)] := by
    simp only [AgentStep.toJson, facts.output]
    rfl
  have inputEq : (step.toJson storing).objectOr "input" = call.planned := by
    have found : (step.toJson storing).get? "input" = some step.input := rfl
    rw [Json.objectOr, found, input]
    cases planned : call.planned with
    | obj plannedMembers => rfl
    | _ =>
      rw [planned] at plannedEq
      cases plannedEq
  have nameEq : call.planned.get? "tool_name" =
      some (.str toolCall.toolName) := by
    have registered := facts.successful.registered
    rw [facts.toolName, StepCall.plannedText] at registered
    rw [facts.toolName, StepCall.plannedText]
    exact some_text_of_registered prints registered
  have storedName : toolStep.toJson.get? "tool_name" =
      some (.str toolCall.toolName) := by
    rw [← facts.successful.toolName]
    rfl
  have storedArguments : toolStep.toJson.get? "arguments" =
      some (.obj members) := by
    rw [← argumentsEq, ← facts.successful.arguments]
    rfl
  have noError : isNone toolStep.toJson "error_type" = true := by
    rw [isNone_optionText toolStep.errorType rfl, facts.successful.errorType]
    rfl
  have valid : ["selection_valid", "arguments_valid", "output_valid"].all
      (fun name => boolField toolStep.toJson name) = true := by
    have selection := facts.successful.selectionValid
    have arguments := facts.successful.argumentsValid
    have outputValid := facts.successful.outputValid
    simp only [List.all_cons, List.all_nil, Bool.and_true, Bool.and_eq_true]
    exact ⟨selection, arguments, outputValid⟩
  obtain ⟨toolMembers, toolEq⟩ : ∃ toolMembers, toolStep.toJson = .obj toolMembers := ⟨_, rfl⟩
  have named := namedTool_agrees prints facts isExpected
  have schema := expectedSchema_agrees facts isExpected
  rw [argumentsEq] at schema
  rw [toolEq] at output storedName storedArguments noError valid
  have found : ((step.toJson storing).objectOr "output").get?
      "tool_execution" = some (.obj toolMembers) := by
    rw [output]
    rfl
  have storedNameField : textField (.obj toolMembers) "tool_name" =
      toolCall.toolName := by
    rw [textField, storedName]
  have sameName : pyEqOption ((Json.obj toolMembers).get? "tool_name")
      (call.planned.get? "tool_name") = true := by
    rw [storedName, nameEq]
    exact pyEq_self _
  have sameArguments : pyEqOption (some (.obj members))
      (call.planned.get? "arguments") = true := by
    rw [plannedEq]
    exact pyEq_self _
  have status : textField (.obj toolMembers) "execution_status" =
      "success" := by
    rw [← toolEq]
    exact facts.status
  simp only [toolAgrees, found, inputEq, storedArguments, Bool.and_eq_true]
  refine ⟨⟨⟨⟨⟨⟨⟨valid, decide_eq_true status⟩, noError⟩, ?_⟩, ?_⟩, sameName⟩, ?_⟩,
    sameArguments, schema⟩
  · rw [storedName]
    rfl
  · rw [storedNameField, facts.toolName]
    exact List.contains_iff_mem.mpr allowed
  · rw [storedName]
    exact named

end Tools

def defaultContext (env : AgentEnvironment) (externalCaseId : String) (prep : AgentPreparation)
    (plan : ParsedPlan) (callback : Option AgentLiveReplanCallback) : PlanContext :=
  planContext env.withDefaultTools.toAgentEnvironment externalCaseId prep plan callback

/-- What the evaluator and the executor both read of the contract of a run. -/
structure SharedContract (prep : AgentPreparation)
    (reading : ContractReading) : Prop where
  reads : ReadsContract prep.contract reading
  knownActions : ∀ action ∈ prep.agentContext.allowedActions,
    action ∈ allowedAgentActions
  allowedActions : ∀ action ∈ prep.agentContext.allowedActions,
    action ∈ reading.allowedActions
  allowedTools : ∀ toolName ∈ prep.agentContext.allowedTools,
    toolName ∈ reading.allowedTools

section Steps

variable {env : AgentEnvironment} {externalCaseId : String}
  {prep : AgentPreparation} {plan : ParsedPlan}
  {callback : Option AgentLiveReplanCallback} {prog : PlanProgress}
  {reading : ContractReading}

theorem observationAgrees_of_success {step : AgentStep} (successful : step.successful = true)
    (errorType : step.errorType = none) (noViolation : step.policyViolations = []) :
    observationAgrees (step.toJson storing) = true := by
  have observed : (step.toJson storing).get? "observation" =
      some (step.observation storing) := rfl
  simp only [observationAgrees, observed, AgentStep.observation, Bool.and_eq_true]
  refine ⟨⟨⟨⟨rfl, successful⟩, ?_⟩, ?_⟩, ?_⟩
  · exact decide_eq_true rfl
  · rw [isNone_optionText step.errorType rfl, errorType]
    rfl
  · rw [noViolation]
    rfl

theorem memoryAction_of_starts {action : String} (known : action ∈ allowedAgentActions)
    (memory : "memory_".toList.isPrefixOf action.toList = true) :
    action = "memory_read" ∨ action = "memory_write" := by
  simp only [allowedAgentActions, List.mem_cons, List.not_mem_nil, or_false] at known
  rcases known with rfl | rfl | rfl | rfl | rfl | rfl
  case inr.inl => exact Or.inl rfl
  case inr.inr.inr.inr.inl => exact Or.inr rfl
  all_goals exact absurd memory (by decide)

theorem stepAllowed_of_run {step : AgentStep} (shared : SharedContract prep reading)
    (allowed : step.action ∈ prep.agentContext.allowedActions)
    (noViolation : step.policyViolations = [])
    (writes : step.action = "memory_write" →
      boolField prep.contract "allow_memory_write" = true) :
    stepAllowed prep.contract reading (step.toJson storing) = true := by
  have action : textField (step.toJson storing) "action" = step.action := rfl
  have violations : textsField (step.toJson storing) "policy_violations" =
      [] := by
    rw [← noViolation]
    exact textsField_eq rfl
  simp only [stepAllowed, action, violations, Bool.and_eq_true, List.contains_iff_mem]
  refine ⟨⟨⟨shared.knownActions _ allowed, shared.allowedActions _ allowed⟩,
    rfl⟩, ?_⟩
  by_cases write : step.action = "memory_write"
  · rw [writes write, Bool.or_true]
  · rw [decide_eq_true write, Bool.true_or]

theorem exists_split {step : AgentStep} {steps : List AgentStep}
    {property : List AgentStep → AgentStep → Prop}
    (recorded : EachStep property steps) (mem : step ∈ steps) :
    ∃ before after, steps = before ++ step :: after ∧ property before step := by
  obtain ⟨before, after, split⟩ := List.append_of_mem mem
  exact ⟨before, after, split, recorded before step after split⟩

theorem successfulStepErrors_eq_nil (hashes : HashesToText env) (prints : PrintsNoTool env)
    (verified : VerifiedDecisions prep.approvalDecisions) (shared : SharedContract prep reading)
    (run : SuccessfulRun (defaultContext env externalCaseId prep plan callback) plan prog)
    {step : AgentStep} (mem : step ∈ prog.executedSteps) (successful : step.successful = true) :
    successfulStepErrors (storedTrace (defaultContext env externalCaseId prep plan
        callback) plan prog) env.text.render reading
      (step.toJson env.withDefaultTools.toAgentEnvironment) = [] := by
  obtain ⟨before, after, split, recorded⟩ :=
    exists_split run.faithful.recorded mem
  have noViolation := (run.quiet step mem).noViolation
  have known := shared.knownActions _ (recorded.action_allowed noViolation)
  have facts := recorded.success hashes verified successful
  have status := (recorded.successfulStatus successful).status
  have action : textField (step.toJson
      env.withDefaultTools.toAgentEnvironment) "action" =
        step.action := rfl
  have storedStatus : textField (step.toJson
      env.withDefaultTools.toAgentEnvironment) "status" =
        step.status := rfl
  have noError : isNone (step.toJson
      env.withDefaultTools.toAgentEnvironment) "error_type" = true := by
    rw [isNone_errorType, facts.errorType]
    rfl
  have knownStatus : ["success", "approved"].contains step.status = true := by
    rcases status with success | approved
    · rw [success]
      decide
    · rw [approved]
      decide
  have observation : observationAgrees (step.toJson
      env.withDefaultTools.toAgentEnvironment) = true :=
    observationAgrees_of_success successful facts.errorType noViolation
  simp only [successfulStepErrors, action, storedStatus, noError, knownStatus,
    observation, List.append_eq_nil_iff]
  refine ⟨⟨⟨⟨rfl, rfl⟩, ?_⟩, ?_⟩, ?_⟩
  · by_cases tool : step.action = "tool"
    · obtain ⟨allowed, toolCall, toolStep, toolFacts⟩ := facts.tool tool
      have agrees : toolAgrees (storedTrace (defaultContext env
          externalCaseId prep plan callback) plan prog)
          env.text.render reading (step.toJson env.withDefaultTools.toAgentEnvironment) = true :=
        toolAgrees_of_success prints toolFacts rfl (shared.allowedTools _ allowed)
          (expectedByIndex_cases run shared.reads split)
      rw [agrees, Bool.not_true, Bool.and_false]
      rfl
    · rw [decide_eq_false tool]
      rfl
  · by_cases memory : "memory_".toList.isPrefixOf step.action.toList = true
    · have provenance : boolField (step.toJson env.withDefaultTools.toAgentEnvironment)
          "memory_provenance_valid" = true :=
        facts.memory (memoryAction_of_starts known memory)
      rw [provenance, Bool.not_true, Bool.and_false]
      rfl
    · rw [Bool.not_eq_true] at memory
      rw [memory]
      rfl
  · by_cases approval : step.action = "approval_checkpoint"
    · obtain ⟨approved, provenance⟩ := facts.approval approval
      have storedProvenance : boolField (step.toJson env.withDefaultTools.toAgentEnvironment)
          "approval_provenance_valid" = true := provenance
      rw [approved, storedProvenance]
      simp
    · rw [decide_eq_false approval]
      rfl

theorem stepErrors_eq_nil (hashes : HashesToText env) (prints : PrintsNoTool env)
    (verified : VerifiedDecisions prep.approvalDecisions) (shared : SharedContract prep reading)
    (run : SuccessfulRun (defaultContext env externalCaseId prep plan callback) plan prog)
    {step : AgentStep} (mem : step ∈ prog.executedSteps)
    (writes : step.action = "memory_write" →
      boolField prep.contract "allow_memory_write" = true) :
    stepErrors (storedTrace (defaultContext env externalCaseId prep plan
        callback) plan prog) env.text.render prep.contract
      reading (step.toJson env.withDefaultTools.toAgentEnvironment) = [] := by
  obtain ⟨before, after, split, recorded⟩ :=
    exists_split run.faithful.recorded mem
  have noViolation := (run.quiet step mem).noViolation
  have allowed : stepAllowed prep.contract reading (step.toJson
      env.withDefaultTools.toAgentEnvironment) = true :=
    stepAllowed_of_run shared (recorded.action_allowed noViolation) noViolation writes
  have recovered := recoveredIndices_storedTrace run mem
  have index : stepIndex (step.toJson env.withDefaultTools.toAgentEnvironment) =
        (step.stepIndex : Int) := rfl
  have rawStep : (traceSteps (storedTrace (defaultContext env
      externalCaseId prep plan callback) plan
      prog))[((step.stepIndex : Int)).toNat]? =
        some (step.toJson env.withDefaultTools.toAgentEnvironment) := by
    have position : step.stepIndex = before.length :=
      recorded.answers.stepIndex
    rw [traceSteps_storedTrace, Int.toNat_natCast, position, split, storedSteps, List.getElem?_map]
    simp
    rfl
  have complete : requiredStepMembers.all (fun name => ((step.toJson
      env.withDefaultTools.toAgentEnvironment).get? name).isSome) =
        true := rfl
  have marked : boolField (step.toJson
      env.withDefaultTools.toAgentEnvironment) "recovered_by_replan" =
        step.recoveredByReplan := rfl
  have outcome : boolField (step.toJson
      env.withDefaultTools.toAgentEnvironment) "successful" =
        step.successful := rfl
  simp only [stepErrors, index, rawStep, recovered, allowed, marked, outcome,
    Int.natCast_nonneg, if_true, Option.getD_some, complete, List.nil_append]
  cases successful : step.successful with
  | false =>
    rw [run.recovered step mem successful]
    rfl
  | true =>
    exact successfulStepErrors_eq_nil hashes prints verified shared run mem successful

end Steps

/-- The decisions of a request are of verified identities, as a decision that
does not say otherwise is. -/
def VerifiedRequest (decisions : Option Json) : Prop :=
  ∀ members checkpointId raw, decisions = some (.obj members) → (checkpointId, raw) ∈ members →
      ((raw.get? "identity_verified").getD (.bool true)).truthy = true

theorem normalizeApprovalDecision_verified {text : TextEnvironment} {raw decision : Json}
    (normalized : normalizeApprovalDecision text raw = some decision)
    (verified : ((raw.get? "identity_verified").getD (.bool true)).truthy =
      true) :
    ((decision.get? "identity_verified").getD (.bool true)).truthy = true := by
  simp only [normalizeApprovalDecision] at normalized
  split at normalized
  · cases normalized
  split at normalized
  · cases normalized
  have kept := find?_decisionMember raw
    (show "identity_verified" ∈ keptDecisionMembers by decide)
  cases normalized
  have keptEq : (Json.obj ([("decision", .str (rawDecision text raw)),
      ("decided_by", .str (pyStrip (Json.pyStrOrEmpty text.render
        (raw.get? "decided_by")))),
      ("reason", .str (pyStrip (Json.pyStrOrEmpty text.render
        (raw.get? "reason"))))] ++
      keptDecisionMembers.filterMap (decisionMember raw))).get?
        "identity_verified" =
      (decisionMember raw "identity_verified").map Prod.snd := by
    rw [← kept]
    rfl
  rw [keptEq, decisionMember]
  split
  · rfl
  · rfl
  · next value _ found =>
      rw [found] at verified
      exact verified

theorem verifiedDecisions_of_request {text : TextEnvironment}
    {decisions : Option Json} (verified : VerifiedRequest decisions) :
    VerifiedDecisions (normalizeApprovalDecisions text decisions) := by
  intro checkpointId decision mem
  simp only [normalizeApprovalDecisions] at mem
  split at mem
  · next members =>
      obtain ⟨⟨name, raw⟩, rawMem, normalizedMem⟩ :=
        List.mem_filterMap.mp mem
      obtain ⟨normalized, normalizedEq, pairEq⟩ :=
        Option.map_eq_some_iff.mp normalizedMem
      cases pairEq
      exact normalizeApprovalDecision_verified normalizedEq (verified members name raw rfl rawMem)
  · cases mem

def NamesAction (env : AgentEnvironment) (contract : Json) : Prop :=
  contract.get? "allowed_actions" = none ∨
    Json.stringList env.text.render
      (contract.get? "allowed_actions") ≠ []

theorem sharedContract_of_prepared {env : AgentEnvironment}
    {evalCase : Agent.EvaluationCase} {decisions : Option Json}
    {prep : AgentPreparation} {reading : ContractReading}
    (prepared : prepareAgentExecution env.withDefaultTools evalCase decisions = some prep)
    (read : readContract (agentContract evalCase) = some reading)
    (named : NamesAction env (agentContract evalCase)) :
    SharedContract prep reading := by
  have reads := readsContract_of_read read
  rw [prepareAgentExecution_eq_some prepared]
  refine ⟨reads, ?_, ?_, ?_⟩
  · intro action mem
    exact List.contains_iff_mem.mp (List.mem_filter.mp mem).2
  · intro action mem
    have configured := List.mem_of_mem_filter mem
    rcases named with missing | listed
    · have allowedEq := reads.allowedActions
      rw [missing] at allowedEq configured
      rw [← Option.some.inj allowedEq]
      exact configured
    · have notEmpty : (Json.stringList env.withDefaultTools.text.render
          ((agentContract evalCase).get?
            "allowed_actions")).isEmpty ≠ true :=
        fun empty => listed (List.isEmpty_iff.mp empty)
      rw [if_neg notEmpty] at configured
      exact mem_of_textsOr reads.allowedActions configured
  · intro toolName mem
    exact mem_of_textsOr reads.allowedTools (List.mem_of_mem_filter mem)

end ModelAtlas.Gate
