import ModelAtlas.Agent.DecisionReplay
import ModelAtlas.Agent.SuccessfulTraces

/-!
# Agreement of the semantic replay

The replay of a recorded trace gives the same trace exactly when what the live
callback did can be rebuilt from the event of its call.
-/

namespace ModelAtlas.Agent

open Foundations Approval

variable {replaying : LiveReplanProvider}

section Projection

variable {lefts rights : List (String × Json)}

theorem semanticMembers_eq (members : List (String × Json)) : semanticMembers members =
      (members.filter (fun mem => !volatileKeys.contains mem.1)).map
        (fun mem => (mem.1, semanticProjection mem.2)) := by
  induction members with
  | nil => rfl
  | cons mem rest ih =>
    obtain ⟨first, value⟩ := mem
    rw [semanticMembers, ih]
    by_cases isVolatile : volatileKeys.contains first = true
    · rw [if_pos isVolatile, List.filter_cons_of_neg (by simpa using isVolatile)]
    · rw [if_neg isVolatile, List.filter_cons_of_pos (by simpa using isVolatile)]
      rfl

theorem semanticItems_eq (items : List Json) :
    semanticItems items = items.map semanticProjection := by
  induction items with
  | nil => rfl
  | cons item rest ih =>
    rw [semanticItems, ih]
    rfl

theorem mem_of_pyEqMembers {name : String} {left : Json}
    (equal : pyEqMembers lefts rights = true) (mem : (name, left) ∈ lefts) :
    ∃ right, (name, right) ∈ rights ∧ pyEq left right = true := by
  induction lefts with
  | nil => cases mem
  | cons first rest ih =>
    obtain ⟨firstName, firstValue⟩ := first
    rw [pyEqMembers, Bool.and_eq_true] at equal
    rcases List.mem_cons.mp mem with same | later
    · cases same
      obtain ⟨⟨rightName, right⟩, rightMem, matched⟩ :=
        List.any_eq_true.mp equal.1
      rw [Bool.and_eq_true, decide_eq_true_eq] at matched
      obtain ⟨rfl, valuesEqual⟩ := matched
      exact ⟨right, rightMem, valuesEqual⟩
    · exact ih equal.2 later

theorem pyEq_of_projection (name : String) {left right : Json}
    (equal : pyEq (semanticProjection (.obj lefts)) (semanticProjection (.obj rights)) = true)
    (steady : volatileKeys.contains name = false) (mem : (name, left) ∈ lefts)
    (unique : rights.filter (fun mem => mem.1 = name) = [(name, right)]) :
    pyEq (semanticProjection left) (semanticProjection right) = true := by
  rw [semanticProjection, semanticProjection, pyEq, Bool.and_eq_true,
    semanticMembers_eq, semanticMembers_eq] at equal
  have projected : (name, semanticProjection left) ∈
      (lefts.filter (fun mem => !volatileKeys.contains mem.1)).map
        (fun mem => (mem.1, semanticProjection mem.2)) := by
    refine List.mem_map.mpr ⟨(name, left), List.mem_filter.mpr ⟨mem, ?_⟩,
      rfl⟩
    rw [steady]
    rfl
  obtain ⟨other, otherMem, valuesEqual⟩ :=
    mem_of_pyEqMembers equal.2 projected
  obtain ⟨⟨otherName, value⟩, kept, same⟩ := List.mem_map.mp otherMem
  cases same
  have isOnly : (otherName, value) ∈ rights.filter (fun mem =>
      mem.1 = otherName) :=
    List.mem_filter.mpr ⟨(List.mem_filter.mp kept).1, by
      rw [decide_eq_true_eq]⟩
  rw [unique, List.mem_singleton] at isOnly
  cases isOnly
  exact valuesEqual

theorem pyEqItems_length {left right : List Json}
    (equal : pyEqItems left right = true) : left.length = right.length := by
  induction left generalizing right with
  | nil =>
    cases right with
    | nil => rfl
    | cons other rest => cases equal
  | cons item rest ih =>
    cases right with
    | nil => cases equal
    | cons other others =>
      rw [pyEqItems, Bool.and_eq_true] at equal
      rw [List.length_cons, List.length_cons, ih equal.2]

theorem length_of_projection {left right : List Json} (equal : pyEq (semanticProjection (.arr left))
      (semanticProjection (.arr right)) = true) :
    left.length = right.length := by
  rw [semanticProjection, semanticProjection, pyEq] at equal
  have lengths := pyEqItems_length equal
  rwa [semanticItems_eq, semanticItems_eq, List.length_map, List.length_map] at lengths

theorem text_of_projection {left right : String} (equal : pyEq (semanticProjection (.str left))
      (semanticProjection (.str right)) = true) : left = right := by
  rw [semanticProjection, semanticProjection, pyEq] at equal
  · exact of_decide_eq_true equal
  all_goals nofun

end Projection

def NamesToolErrors (env : AgentEnvironment) : Prop :=
  ∀ call, (env.executeRegisteredToolCall call).executionStatus ≠
      "success" →
    (env.executeRegisteredToolCall call).errorType.isSome = true

theorem executeStep_errorType {env : AgentEnvironment} {call : ToolCall}
    (failed : (executeStep env call).executionStatus ≠ "success") :
    (executeStep env call).errorType.isSome = true := by
  have skipped : (skippedToolCall env call).errorType.isSome =
      true := by
    simp only [skippedToolCall]
    split
    · rfl
    · rfl
  revert failed
  simp only [executeStep]
  split
  · exact fun _ => skipped
  split
  · simp only [attemptedToolCall]
    split
    · exact fun failed => absurd rfl failed
    · exact fun _ => rfl
  · exact fun _ => skipped

theorem namesToolErrors_withDefaultTools (env : AgentEnvironment) :
    NamesToolErrors env.withDefaultTools.toAgentEnvironment := by
  intro call failed
  exact executeStep_errorType failed

theorem executeAgentStep_errorType {env : AgentEnvironment} {externalCaseId : String}
    {prep : AgentPreparation} {call : StepCall} (names : NamesToolErrors env)
    (failed : (executeAgentStep env externalCaseId prep call).successful = false) :
    (executeAgentStep env externalCaseId prep call).errorType.isSome = true := by
  revert failed
  refine executeAgentStep_cases (fun step => step.successful = false → step.errorType.isSome = true)
    ?refused ?approvalCheckpoint ?memoryRead ?memoryWrite ?retrieve ?tool ?respond ?unsupported
  case refused => exact fun _ _ => rfl
  case approvalCheckpoint =>
    intro _ _
    simp only [executeApprovalCheckpoint]
    split
    · exact fun _ => rfl
    split
    · exact fun _ => rfl
    split
    · intro failed
      cases failed
    · exact fun _ => rfl
  case memoryRead =>
    intro _ _
    rw [executeMemoryRead]
    split
    · intro failed
      cases failed
    · exact fun _ => rfl
  case memoryWrite =>
    intro _ _
    simp only [executeMemoryWrite]
    split
    · intro failed
      cases failed
    · exact fun _ => rfl
  case retrieve =>
    intro _ _
    simp only [executeRetrieval]
    split
    · intro failed
      cases failed
    · exact fun _ => rfl
  case tool =>
    intro _ _
    simp only [executeToolAction]
    split
    · exact fun _ => rfl
    · exact fun failed => names _ (of_decide_eq_false failed)
  case respond =>
    intro _ _
    simp only [executeResponse]
    split
    · intro failed
      cases failed
    · exact fun _ => rfl
  case unsupported => exact fun _ _ => rfl

theorem mapM_eq_some {Item Image : Type} {list : List Item} {read : Item → Option Image}
    {image : Item → Image} (reads : ∀ item ∈ list, read item = some (image item)) :
    list.mapM read = some (list.map image) := by
  induction list with
  | nil => rfl
  | cons item rest ih =>
    have later := ih (fun other mem => reads other (List.mem_cons_of_mem _ mem))
    rw [List.mapM_cons, reads item (List.mem_cons_self ..), later]
    rfl

section Recorded

variable {env : AgentEnvironment} {trace : AgentExecutionTrace}
  {event : ReplanEvent}

def Numbered (steps : List AgentStep) : Prop :=
  steps.map AgentStep.stepIndex = List.range steps.length

theorem Numbered.getElem? {steps : List AgentStep} (numbered : Numbered steps)
    {step : AgentStep} (mem : step ∈ steps) :
    steps[step.stepIndex]? = some step := by
  obtain ⟨position, positionLt, found⟩ := List.getElem_of_mem mem
  have indexEq : (steps.map AgentStep.stepIndex)[position]? =
      (List.range steps.length)[position]? := by
    rw [numbered]
  rw [List.getElem?_map, List.getElem?_eq_getElem positionLt, found,
    List.getElem?_range positionLt] at indexEq
  have samePosition : step.stepIndex = position := Option.some.inj indexEq
  rw [samePosition, List.getElem?_eq_getElem positionLt, found]

theorem recordedInput?_of_mem {steps : List AgentStep} (numbered : Numbered steps)
    {step added : AgentStep} (mem : step ∈ steps) (same : step.unmarked = added.unmarked)
    (object : added.input.isObject = true) :
    recordedInput? (steps.map (AgentStep.toJson env))
      (.int added.stepIndex) = some added.input := by
  have sameIndex : step.unmarked.stepIndex = added.unmarked.stepIndex := by
    rw [same]
  have sameInput : step.unmarked.input = added.unmarked.input := by
    rw [same]
  change step.stepIndex = added.stepIndex at sameIndex
  have found := numbered.getElem? mem
  rw [sameIndex] at found
  have position : (listIndex? (.int added.stepIndex)).bind (fun position =>
      (steps.map (AgentStep.toJson env))[position]?) = some (step.toJson env) := by
    rw [listIndex?, if_pos (Int.natCast_nonneg _), Option.bind_some,
      Int.toNat_natCast, List.getElem?_map, found]
    rfl
  have inputEq : (step.toJson env).get? "input" = some added.input :=
    congrArg some sameInput
  simp only [recordedInput?, position, inputEq]
  cases inputs : added.input with
  | obj members => rfl
  | _ =>
    rw [inputs] at object
    cases object

theorem recordedSteps?_eq {added : List AgentStep} (numbered : Numbered trace.steps)
    (indices : event.recoveryStepIndices = added.map AgentStep.stepIndex)
    (kept : ∀ step ∈ added, ∃ recorded ∈ trace.steps, recorded.unmarked = step.unmarked)
    (objects : ∀ step ∈ added, step.input.isObject = true) :
    recordedSteps? (trace.toJson env) event.toJson = some (added.map AgentStep.input) := by
  have stepsEq : (trace.toJson env).get? "steps" =
      some (.arr (trace.steps.map (AgentStep.toJson env))) := rfl
  have indicesEq : event.toJson.get? "recovery_step_indices" =
      some (.arr (added.map (fun step => Json.int step.stepIndex))) := by
    have stored : event.toJson.get? "recovery_step_indices" = some (.arr
        (event.recoveryStepIndices.map (fun (index : Nat) => Json.int (index : Int)))) := by
      simp only [ReplanEvent.toJson, Json.get?]
      simp [List.map_eq_flatMap, List.flatMap_assoc]
    rw [stored, indices, List.map_map]
    rfl
  simp only [recordedSteps?, stepsEq, indicesEq, List.mapM_map]
  refine mapM_eq_some ?_
  intro step mem
  obtain ⟨recorded, recordedMem, same⟩ := kept step mem
  exact recordedInput?_of_mem numbered recordedMem same (objects step mem)

theorem answersRequest_event {req : AgentLiveReplanRequest}
    (source : event.source = "live_callback")
    (index : event.triggerStepIndex = req.triggerStepIndex)
    (errorType : event.triggerErrorType = some req.triggerErrorType) :
    answersRequest req event.toJson = true := by
  have sourceEq : event.toJson.get? "source" = some (.str event.source) := rfl
  have indexEq : event.toJson.get? "trigger_step_index" =
      some (.int event.triggerStepIndex) := rfl
  have errorEq : event.toJson.get? "trigger_error_type" =
      some (Json.optionText event.triggerErrorType) := rfl
  simp only [answersRequest, isLiveEvent, sourceEq, indexEq, errorEq, source,
    index, errorType, Json.isText, Json.isIndex, Json.optionText, decide_true,
    Bool.and_true]

theorem recordedLiveReplan_eq {req : AgentLiveReplanRequest} (only : trace.replans = [event])
    (answers : answersRequest req event.toJson = true) :
    recordedLiveReplan env.text (trace.toJson env) req =
      replayEvent env.text (trace.toJson env) event.toJson := by
  have items : (trace.toJson env).items "replans" =
      trace.replans.map ReplanEvent.toJson := rfl
  rw [recordedLiveReplan, items, only, List.map_singleton, List.find?_cons, answers]

theorem replayEvent_declined
    (status : event.status = "callback_error" ∨ event.status = "no_recovery") :
    replayEvent env.text (trace.toJson env) event.toJson = .declined := by
  have statusEq : event.toJson.get? "status" = some (.str event.status) := rfl
  rw [replayEvent, statusEq, if_pos]
  rcases status with isError | isDeclined
  · rw [isError]
    rfl
  · rw [isDeclined]
    rfl

theorem replayEvent_response {added : List AgentStep} {members : List (String × Json)}
    (notError : event.status ≠ "callback_error")
    (notDeclined : event.status ≠ "no_recovery")
    (modelCall : event.modelCall = .obj members)
    (steps : recordedSteps? (trace.toJson env) event.toJson = some (added.map AgentStep.input)) :
    replayEvent env.text (trace.toJson env) event.toJson =
      if added.isEmpty then .declined
      else .responded (recordedResponse env.text (.obj members) (added.map AgentStep.input)) := by
  have statusEq : event.toJson.get? "status" = some (.str event.status) := rfl
  have modelCallEq : event.toJson.get? "model_call" = some (.obj members) :=
    congrArg some modelCall
  have answered : ¬(Json.isText (some (.str event.status)) "callback_error" ||
      Json.isText (some (.str event.status)) "no_recovery") = true := by
    simp [Json.isText, notError, notDeclined]
  rw [replayEvent, statusEq, if_neg answered, modelCallEq, steps]
  cases added with
  | nil => rfl
  | cons step rest => rfl

end Recorded

/-! ## Responses that are rebuilt -/

/-- The response and the steps that were executed of it give it back. -/
structure Rebuilds (response : AgentLiveReplanResponse)
    (added : List AgentStep) : Prop where
  someStep : added ≠ []
  allSteps : added.length = response.steps.length
  providerId : response.providerId ≠ ""
  providerVersion : response.providerVersion ≠ ""
  modelName : response.modelName ≠ ""

section Responses

variable {env : AgentEnvironment} {event : ReplanEvent}
  {response : AgentLiveReplanResponse} {added : List AgentStep}

theorem isRebuilt_response (source : event.source = "live_callback")
    (notDeclined : event.status ≠ "no_recovery")
    (modelCall : event.modelCall = response.provenance env)
    (indices : event.recoveryStepIndices = added.map AgentStep.stepIndex) :
    event.isRebuilt = true ↔ Rebuilds response added := by
  have stepsEq : (response.provenance env).items "steps" =
      response.steps := rfl
  have texts : ["provider_id", "provider_version", "model_name"].all
      (fun name => !Json.isText ((response.provenance env).get? name)
        "") = (!decide (response.providerId = "") &&
          (!decide (response.providerVersion = "") &&
            (!decide (response.modelName = "") && true))) := rfl
  simp only [ReplanEvent.isRebuilt, source, notDeclined, modelCall, indices,
    stepsEq, texts, List.isEmpty_map, List.length_map, ne_eq, not_true,
    decide_false, Bool.false_or, Bool.and_true, Bool.and_eq_true,
    Bool.not_eq_true', List.isEmpty_eq_false_iff, decide_eq_true_eq,
    decide_eq_false_iff_not]
  constructor
  · rintro ⟨⟨someStep, allSteps⟩, providerId, providerVersion, modelName⟩
    exact ⟨someStep, allSteps, providerId, providerVersion, modelName⟩
  · intro rebuilds
    exact ⟨⟨rebuilds.someStep, rebuilds.allSteps⟩, rebuilds.providerId,
      rebuilds.providerVersion, rebuilds.modelName⟩

/-- What the replay makes of a recorded response, over the steps that were
executed. -/
def rebuiltResponse (env : AgentEnvironment)
    (response : AgentLiveReplanResponse) (steps : List Json) :
    AgentLiveReplanResponse :=
  recordedResponse env.text (response.provenance env) steps

theorem rebuiltResponse_eq (steps : List Json) : rebuiltResponse env response steps =
      { steps := steps
        providerId := pyOr response.providerId "recorded-provider"
        providerVersion := pyOr response.providerVersion "recorded-provider-v1"
        modelName := pyOr response.modelName "recorded-model"
        promptTokens := max 0 (max 0 response.promptTokens)
        completionTokens := max 0 (max 0 response.completionTokens)
        estimatedCostUsd := max 0 (max 0 response.estimatedCostUsd) } := by
  have readText : ∀ name default stored, (response.provenance env).get? name = some (.str stored) →
      recordedText env.text (response.provenance env) name default = pyOr stored default := by
    intro name default stored found
    rw [recordedText, found, Json.pyStrOrEmpty_str]
  rw [rebuiltResponse, recordedResponse, readText "provider_id" _ _ rfl,
    readText "provider_version" _ _ rfl, readText "model_name" _ _ rfl]
  rfl

theorem rebuiltResponse_provenance (named : response.providerId ≠ "" ∧
      response.providerVersion ≠ "" ∧ response.modelName ≠ "") :
    (rebuiltResponse env response response.steps).provenance env = response.provenance env := by
  obtain ⟨providerId, providerVersion, modelName⟩ := named
  have payload : (rebuiltResponse env response response.steps).payload = response.payload := by
    rw [rebuiltResponse_eq]
    simp only [AgentLiveReplanResponse.payload, pyOr, if_neg providerId,
      if_neg providerVersion, if_neg modelName, le_max_left, max_eq_right]
  simp only [AgentLiveReplanResponse.provenance, payload]

theorem of_equal_provenance {steps : List Json}
    (equal : pyEq (semanticProjection (response.provenance env))
      (semanticProjection ((rebuiltResponse env response steps).provenance env)) = true) :
    response.steps.length = steps.length ∧ response.providerId ≠ "" ∧
      response.providerVersion ≠ "" ∧ response.modelName ≠ "" := by
  have unequal : ∀ text default : String, default ≠ "" →
      text = pyOr text default → text ≠ "" := by
    rintro text default isText same rfl
    rw [pyOr, if_pos rfl] at same
    exact isText same.symm
  rw [rebuiltResponse_eq] at equal
  refine ⟨?_, ?_, ?_, ?_⟩
  · exact length_of_projection (pyEq_of_projection "steps" equal
      (by decide) (by simp [AgentLiveReplanResponse.payload]) rfl)
  · exact unequal _ "recorded-provider" (by decide) (text_of_projection
      (pyEq_of_projection "provider_id" equal (by decide)
        (by simp [AgentLiveReplanResponse.payload]) rfl))
  · exact unequal _ "recorded-provider-v1" (by decide) (text_of_projection
      (pyEq_of_projection "provider_version" equal (by decide)
        (by simp [AgentLiveReplanResponse.payload]) rfl))
  · exact unequal _ "recorded-model" (by decide) (text_of_projection
      (pyEq_of_projection "model_name" equal (by decide)
        (by simp [AgentLiveReplanResponse.payload]) rfl))

end Responses

section Call

variable {ctx : PlanContext} {decisions : List (String × Json)}

theorem event_of_projection {event other : ReplanEvent}
    (equal : pyEq (semanticProjection event.toJson) (semanticProjection other.toJson) = true) :
    event.status = other.status ∧ pyEq (semanticProjection event.modelCall)
        (semanticProjection other.modelCall) = true := by
  constructor
  · exact text_of_projection (pyEq_of_projection "status" equal (by decide)
      (by simp) rfl)
  · exact pyEq_of_projection "model_call" equal (by decide) (by simp) rfl

def LiveCall.answer (ctx : PlanContext) (call : LiveCall)
    (provider : LiveReplanProvider) : LiveReplanAnswer :=
  provider.callback ctx.env (call.request ctx)

/-- The run is finished with the answer of a provider, and its trace holds its
steps and its events. -/
structure RecordsCall (ctx : PlanContext) (call : LiveCall)
    (provider : LiveReplanProvider) (trace : AgentExecutionTrace) : Prop where
  made : LiveCall.Made ctx call
  names : NamesToolErrors ctx.env
  replanLimitLe : ctx.preparation.agentContext.replanLimit ≤ 1
  replans : trace.replans =
    (call.finish ctx (call.answer ctx provider)).replanEvents
  steps : trace.steps =
    (call.finish ctx (call.answer ctx provider)).executedSteps
  numbered : Numbered trace.steps

section Recorded

variable {call : LiveCall} {provider : LiveReplanProvider}
  {trace : AgentExecutionTrace}

theorem RecordsCall.noEvents (records : RecordsCall ctx call provider trace) :
    call.progress.replanEvents = [] := by
  have room := records.made.room
  have limit := records.replanLimitLe
  apply List.length_eq_zero_iff.mp
  omega

theorem RecordsCall.only (records : RecordsCall ctx call provider trace) {event : ReplanEvent}
    {added : List AgentStep} (answered : AnsweredBy (call.answer ctx provider) call
      (replanAnswered ctx (call.answer ctx provider) call.progress
        call.index call.step) event added) :
    trace.replans = [event] := by
  have finished := LiveCall.finish_answered answered records.replanLimitLe
  rw [records.replans, finished.1, records.noEvents, List.nil_append]

theorem RecordsCall.replayed (records : RecordsCall ctx call provider trace) {event : ReplanEvent}
    {added : List AgentStep} (answered : AnsweredBy (call.answer ctx provider) call
      (replanAnswered ctx (call.answer ctx provider) call.progress
        call.index call.step) event added) :
    recordedLiveReplan ctx.env.text (trace.toJson ctx.env) (call.request ctx) =
      replayEvent ctx.env.text (trace.toJson ctx.env)
        event.toJson := by
  obtain ⟨stepCall, executed⟩ := records.made.executed
  have failed := records.made.failed
  rw [executed] at failed
  have named := executeAgentStep_errorType records.names failed
  rw [← executed] at named
  obtain ⟨errorType, errorEq⟩ := Option.isSome_iff_exists.mp named
  refine recordedLiveReplan_eq (records.only answered) (answersRequest_event
    answered.source answered.triggerStepIndex ?_)
  have requested : (call.request ctx).triggerErrorType = errorType := by
    show call.step.errorType.getD "" = errorType
    rw [errorEq]
    rfl
  rw [answered.triggerErrorType, requested, errorEq]

theorem RecordsCall.recordedSteps (records : RecordsCall ctx call provider trace)
    {event : ReplanEvent} {added : List AgentStep}
    (answered : AnsweredBy (call.answer ctx provider) call
      (replanAnswered ctx (call.answer ctx provider) call.progress
        call.index call.step) event added) :
    recordedSteps? (trace.toJson ctx.env) event.toJson = some (added.map AgentStep.input) := by
  refine recordedSteps?_eq records.numbered answered.indices ?_ answered.objects
  intro step mem
  have finished := LiveCall.finish_answered answered records.replanLimitLe
  have kept : step.unmarked ∈ (call.progress.executedSteps ++ added).map
      AgentStep.unmarked :=
    List.mem_map_of_mem (List.mem_append_right _ mem)
  obtain ⟨recorded, recordedMem, same⟩ :=
    List.mem_map.mp (finished.2.subset kept)
  rw [← records.steps] at recordedMem
  exact ⟨recorded, recordedMem, same⟩

theorem RecordsCall.other (records : RecordsCall ctx call provider trace)
    (decisions : List (String × Json))
    (callback : Option AgentLiveReplanCallback) (answer : LiveReplanAnswer) :
    ∃ other added, AnsweredBy answer call (replanAnswered (ctx.replaying decisions callback) answer
          call.progress call.index call.step) other added ∧
      (call.finish (ctx.replaying decisions callback) answer).replanEvents = [other] := by
  have room : call.progress.replanEvents.length < (ctx.replaying decisions
      callback).preparation.agentContext.replanLimit := records.made.room
  obtain ⟨other, added, answered⟩ := answeredBy_replanAnswered answer room
  have finished := LiveCall.finish_answered answered records.replanLimitLe
  exact ⟨other, added, answered, by
    rw [finished.1, records.noEvents, List.nil_append]⟩

def Replays (ctx : PlanContext) (decisions : List (String × Json)) (call : LiveCall)
    (provider replaying : LiveReplanProvider) (event : ReplanEvent) : Prop :=
  let callback := replaying.callback ctx.env
  let replayed := call.finish (ctx.replaying decisions (some callback)) (call.answer ctx replaying)
  (event.isRebuilt = true ∧ replayed = call.finish ctx (call.answer ctx provider)) ∨
    (event.isRebuilt = false ∧ ∃ other, replayed.replanEvents = [other] ∧
      pyEq (semanticProjection event.toJson) (semanticProjection other.toJson) = false)

theorem RecordsCall.replays_same (records : RecordsCall ctx call provider trace)
    {event : ReplanEvent}
    (agrees : AgreesThrough ctx decisions (call.finish ctx (call.answer ctx provider)))
    (rebuilt : event.isRebuilt = true)
    (same : call.answer ctx replaying = call.answer ctx provider) :
    Replays ctx decisions call provider replaying event := by
  left
  refine ⟨rebuilt, ?_⟩
  rw [same]
  exact LiveCall.finish_simulates records.made records.replanLimitLe agrees

theorem RecordsCall.replays_declined (records : RecordsCall ctx call provider trace)
    {event : ReplanEvent}
    (notRebuilt : event.isRebuilt = false)
    (answers : event.status ≠ "no_recovery")
    (declined : replaying (call.request ctx) = .declined) :
    Replays ctx decisions call provider replaying event := by
  right
  obtain ⟨other, added, answered, events⟩ := records.other decisions
    (some (replaying.callback ctx.env))
    (call.answer ctx replaying)
  refine ⟨notRebuilt, other, events, ?_⟩
  have noResponse : call.answer ctx replaying = .noResponse := by
    rw [LiveCall.answer, LiveReplanProvider.callback, declined]
    rfl
  apply Bool.eq_false_of_not_eq_true
  intro equal
  exact answers ((event_of_projection equal).1.trans (answered.noResponse noResponse))

theorem RecordsCall.replays_responded (records : RecordsCall ctx call provider trace)
    {event : ReplanEvent}
    {added : List AgentStep} {response : AgentLiveReplanResponse}
    (agrees : AgreesThrough ctx decisions (call.finish ctx (call.answer ctx provider)))
    (responded : provider (call.request ctx) = .responded response)
    (answered : AnsweredBy (call.answer ctx provider) call
      (replanAnswered ctx (call.answer ctx provider) call.progress
        call.index call.step) event added)
    (replays : replaying (call.request ctx) =
      if added.isEmpty then .declined
      else .responded (rebuiltResponse ctx.env response (added.map AgentStep.input))) :
    Replays ctx decisions call provider replaying event := by
  have answerEq : call.answer ctx provider = .response response.steps
      (response.provenance ctx.env) := by
    rw [LiveCall.answer, LiveReplanProvider.callback, responded]
    rfl
  obtain ⟨notError, notDeclined, modelCall, inputs⟩ :=
    answered.response _ _ answerEq
  have rebuiltIff := isRebuilt_response answered.source notDeclined modelCall answered.indices
  by_cases rebuilds : Rebuilds response added
  · have allInputs : added.map AgentStep.input = response.steps :=
      inputs.eq_of_length (by rw [List.length_map, rebuilds.allSteps])
    have some : ¬added.isEmpty = true := by
      rw [List.isEmpty_iff]
      exact rebuilds.someStep
    refine records.replays_same agrees (rebuiltIff.mpr rebuilds) ?_
    rw [if_neg some, allInputs] at replays
    rw [answerEq, LiveCall.answer, LiveReplanProvider.callback, replays]
    show LiveReplanAnswer.response _ _ = _
    rw [rebuiltResponse_provenance ⟨rebuilds.providerId,
      rebuilds.providerVersion, rebuilds.modelName⟩]
    rfl
  · have notRebuilt : event.isRebuilt = false :=
      Bool.eq_false_of_not_eq_true (fun rebuilt => rebuilds (rebuiltIff.mp rebuilt))
    by_cases noStep : added.isEmpty = true
    · rw [if_pos noStep] at replays
      exact records.replays_declined notRebuilt notDeclined replays
    · right
      rw [if_neg noStep] at replays
      have replayedEq : call.answer ctx replaying =
          .response (added.map AgentStep.input) ((rebuiltResponse ctx.env response
            (added.map AgentStep.input)).provenance ctx.env) := by
        rw [LiveCall.answer, LiveReplanProvider.callback, replays]
        rfl
      obtain ⟨other, otherAdded, otherAnswered, events⟩ := records.other decisions
        (Option.some (replaying.callback ctx.env))
        (call.answer ctx replaying)
      refine ⟨notRebuilt, other, events, ?_⟩
      apply Bool.eq_false_of_not_eq_true
      intro equal
      have callsEqual := (event_of_projection equal).2
      rw [modelCall, (otherAnswered.response _ _ replayedEq).2.2.1] at callsEqual
      obtain ⟨lengths, providerId, providerVersion, modelName⟩ :=
        of_equal_provenance callsEqual
      rw [List.length_map] at lengths
      rw [List.isEmpty_iff] at noStep
      exact rebuilds ⟨noStep, lengths.symm, providerId, providerVersion, modelName⟩

theorem RecordsCall.replays (records : RecordsCall ctx call provider trace)
    (agrees : AgreesThrough ctx decisions (call.finish ctx (call.answer ctx provider))) :
    ∃ event, trace.replans = [event] ∧ event.source = "live_callback" ∧
      Replays ctx decisions call provider (recordedLiveReplan ctx.env.text
          (trace.toJson ctx.env)) event := by
  obtain ⟨event, added, answered⟩ := answeredBy_replanAnswered
    (call.answer ctx provider) records.made.room
  refine ⟨event, records.only answered, answered.source, ?_⟩
  have replayed := records.replayed answered
  cases outcome : provider (call.request ctx) with
  | raised errorType =>
    have raised : call.answer ctx provider = .raised errorType := by
      rw [LiveCall.answer, LiveReplanProvider.callback, outcome]
      rfl
    obtain ⟨status, noStep⟩ := answered.raised errorType raised
    have indices := answered.indices
    rw [noStep] at indices
    rw [replayEvent_declined (Or.inl status)] at replayed
    refine records.replays_declined ?_ ?_ replayed
    · simp [ReplanEvent.isRebuilt, answered.source, status, indices]
    · rw [status]
      decide
  | declined =>
    have noResponse : call.answer ctx provider = .noResponse := by
      rw [LiveCall.answer, LiveReplanProvider.callback, outcome]
      rfl
    have status := answered.noResponse noResponse
    rw [replayEvent_declined (Or.inr status)] at replayed
    refine records.replays_same agrees ?_ ?_
    · simp [ReplanEvent.isRebuilt, status]
    · rw [noResponse, LiveCall.answer, LiveReplanProvider.callback, replayed]
      rfl
  | responded response =>
    have answerEq : call.answer ctx provider = .response response.steps
        (response.provenance ctx.env) := by
      rw [LiveCall.answer, LiveReplanProvider.callback, outcome]
      rfl
    obtain ⟨notError, notDeclined, modelCall, _⟩ :=
      answered.response _ _ answerEq
    rw [replayEvent_response notError notDeclined modelCall
      (records.recordedSteps answered)] at replayed
    exact records.replays_responded agrees outcome answered replayed

end Recorded

end Call

section Trace

variable {env : AgentEnvironment} {externalCaseId : String}
  {payload : Option Json} {prep : AgentPreparation}

theorem executeAgentPlan_shared (decisions : List (String × Json))
    (callback other : Option AgentLiveReplanCallback) :
    (executeAgentPlan env externalCaseId payload
          { prep with approvalDecisions := decisions } other =
        executeAgentPlan env externalCaseId payload prep callback ∧
      (executeAgentPlan env externalCaseId payload prep callback).replans = []) ∨
      ∃ plan,
        let ctx := planContext env externalCaseId prep plan callback
        executeAgentPlan env externalCaseId payload prep callback = runTrace ctx plan
            (runPlan ctx plan.steps 0 PlanProgress.initial) ∧
        executeAgentPlan env externalCaseId payload
            { prep with approvalDecisions := decisions } other =
          runTrace ctx plan (runPlan (ctx.replaying decisions other) plan.steps 0
              PlanProgress.initial) := by
  simp only [executeAgentPlan]
  cases parsed : parsePlan env.text payload with
  | error parseError => exact Or.inl ⟨rfl, rfl⟩
  | ok plan =>
    simp only
    split
    · exact Or.inl ⟨rfl, rfl⟩
    split
    · exact Or.inl ⟨rfl, rfl⟩
    split
    · exact Or.inl ⟨rfl, rfl⟩
    split
    · exact Or.inl ⟨rfl, rfl⟩
    split
    · exact Or.inl ⟨rfl, rfl⟩
    · exact Or.inr ⟨plan, rfl, rfl⟩

def Reproduces (env : AgentEnvironment) (trace replayed : AgentExecutionTrace) : Prop :=
  (trace.isRebuilt = true ∧ replayed = trace) ∨ (trace.isRebuilt = false ∧
      pyEq (semanticProjection (trace.toJson env))
        (semanticProjection (replayed.toJson env)) = false)

theorem pyEq_of_event {trace replayed : AgentExecutionTrace} {event other : ReplanEvent}
    (only : trace.replans = [event]) (otherOnly : replayed.replans = [other])
    (equal : pyEq (semanticProjection (trace.toJson env))
      (semanticProjection (replayed.toJson env)) = true) :
    pyEq (semanticProjection event.toJson) (semanticProjection other.toJson) = true := by
  have replans : pyEq (semanticProjection (.arr (trace.replans.map ReplanEvent.toJson)))
      (semanticProjection (.arr (replayed.replans.map ReplanEvent.toJson))) =
        true :=
    pyEq_of_projection "replans" equal (by decide) (by simp) rfl
  rw [only, otherOnly, List.map_singleton, List.map_singleton,
    semanticProjection, semanticProjection, pyEq, semanticItems_eq,
    semanticItems_eq, List.map_singleton, List.map_singleton, pyEqItems,
    Bool.and_eq_true] at replans
  exact replans.1

theorem runTrace_reproduces {plan : ParsedPlan} {provider rebuilt : Option LiveReplanProvider}
    {decisions : List (String × Json)}
    (names : NamesToolErrors env)
    (replanLimitLe : prep.agentContext.replanLimit ≤ 1)
    (sameMode : rebuilt.isSome = provider.isSome) :
    let ctx := planContext env externalCaseId prep plan
      (provider.map (LiveReplanProvider.callback env))
    let prog := runPlan ctx plan.steps 0 PlanProgress.initial
    let trace := runTrace ctx plan prog
    let callback := (replayCallback env.text (trace.toJson env)
      rebuilt).map (LiveReplanProvider.callback env)
    AgreesThrough ctx decisions prog → Reproduces env trace (runTrace ctx plan
        (runPlan (ctx.replaying decisions callback) plan.steps 0 PlanProgress.initial)) := by
  intro ctx prog trace callback agrees
  have replansEq : trace.replans = prog.replanEvents := rfl
  have itemsEq : (trace.toJson env).items "replans" =
      trace.replans.map ReplanEvent.toJson := rfl
  rcases runPlan_simulates plan.steps 0 PlanProgress.initial agrees with
    none | ⟨call, made⟩
  · -- Without a call there is no live event, and the callback of the mode is
    -- not called either.
    left
    have predeclared : ∀ event ∈ trace.replans,
        event.source = "predeclared_plan" := by
      intro event mem
      rcases none.onlyPredeclared event mem with initial | source
      · cases initial
      · exact source
    have noLive : ((trace.toJson env).items "replans").any
        isLiveEvent = false := by
      rw [itemsEq, List.any_map, List.any_eq_false]
      intro event mem
      have sourceEq : event.toJson.get? "source" = some (.str event.source) :=
        rfl
      simp only [Function.comp_apply, isLiveEvent, sourceEq, predeclared event mem, Json.isText]
      decide
    have callbackEq : callback = rebuilt.map (LiveReplanProvider.callback env) := by
      simp only [callback, replayCallback, noLive]
      rfl
    refine ⟨?_, ?_⟩
    · rw [AgentExecutionTrace.isRebuilt, List.all_eq_true]
      intro event mem
      simp only [ReplanEvent.isRebuilt, predeclared event mem]
      rfl
    · rw [callbackEq, none.same]
      rw [Option.isSome_map, sameMode]
      exact (Option.isSome_map ..).symm
  · obtain ⟨asked, asking, answered⟩ := made.answered
    obtain ⟨given, providerEq, rfl⟩ := Option.map_eq_some_iff.mp asking
    have course : ∃ reached, reached ≤ plan.steps.length ∧
        OnCourse ctx reached prog := planRun_onCourse plan
    obtain ⟨reached, _, onCourse⟩ := course
    have records : RecordsCall ctx call given trace :=
      { made := made.made
        names := names
        replanLimitLe := replanLimitLe
        replans := congrArg PlanProgress.replanEvents answered
        steps := congrArg PlanProgress.executedSteps answered
        numbered := onCourse.faithful.numbered }
    have callAgrees : AgreesThrough ctx decisions (call.finish ctx (call.answer ctx given)) := by
      have same : prog = call.finish ctx (call.answer ctx given) :=
        answered
      rw [← same]
      exact agrees
    obtain ⟨event, only, source, replays⟩ := records.replays callAgrees
    have live : ((trace.toJson env).items "replans").any
        isLiveEvent = true := by
      have sourceEq : event.toJson.get? "source" = some (.str event.source) :=
        rfl
      rw [itemsEq, only, List.map_singleton, List.any_cons, isLiveEvent, sourceEq, source]
      rfl
    have callbackEq : callback = some (LiveReplanProvider.callback env
        (recordedLiveReplan env.text (trace.toJson env))) := by
      simp only [callback, replayCallback, live]
      rfl
    have replayedEq := made.replayed (LiveReplanProvider.callback env
      (recordedLiveReplan env.text (trace.toJson env)))
    have rebuiltEq : trace.isRebuilt = event.isRebuilt := by
      rw [AgentExecutionTrace.isRebuilt, only, List.all_cons, List.all_nil, Bool.and_true]
    rw [callbackEq]
    simp only [replayedEq]
    rcases replays with ⟨rebuiltEvent, same⟩ | ⟨notRebuilt, other, otherOnly, unequal⟩
    · left
      refine ⟨rebuiltEq.trans rebuiltEvent, ?_⟩
      exact congrArg (runTrace ctx plan) (same.trans answered.symm)
    · right
      refine ⟨rebuiltEq.trans notRebuilt, ?_⟩
      apply Bool.eq_false_of_not_eq_true
      intro equal
      have eventsEqual := pyEq_of_event only otherOnly equal
      rw [unequal] at eventsEqual
      cases eventsEqual

theorem prepareAgentExecution_decisions {env : PreparationEnvironment} {evalCase : EvaluationCase}
    {decisions : Option Json} {prep : AgentPreparation} (other : Option Json)
    (prepared : prepareAgentExecution env evalCase decisions = some prep) :
    prepareAgentExecution env evalCase other = some { prep with
        approvalDecisions :=
          normalizeApprovalDecisions env.text other } := by
  have preparationEq := prepareAgentExecution_eq_some prepared
  rw [prepareAgentExecution] at prepared ⊢
  split at prepared
  · next agentCase => rw [if_pos agentCase, preparationEq]
  · cases prepared

theorem normalDecision_of_decisionFor {text : TextEnvironment} {decisions : Option Json}
    (normalized : prep.approvalDecisions =
      normalizeApprovalDecisions text decisions) {checkpointId : String}
    {decision : Json}
    (decided : prep.decisionFor checkpointId = some decision) :
    NormalDecision decision := by
  rw [AgentPreparation.decisionFor, normalized, Option.or_eq_some_iff] at decided
  rcases decided with own | ⟨_, any⟩
  · exact normalDecision_of_mem (mem_of_lookup_eq_some own)
  · exact normalDecision_of_mem (mem_of_lookup_eq_some any)

theorem agreesThrough_replayDecisions {plan : ParsedPlan}
    {callback : Option AgentLiveReplanCallback}
    {decisions runDecisions : Option Json} (plain : PlainTexts env)
    (normalized : prep.approvalDecisions = normalizeApprovalDecisions env.text decisions) :
    let ctx := planContext env externalCaseId prep plan callback
    let prog := runPlan ctx plan.steps 0 PlanProgress.initial
    let trace := (runTrace ctx plan prog).toJson env
    (approvalDecisionsFromAgentTrace env.text trace = [] →
      runDecisions = decisions ∨ runDecisions = none) →
    AgreesThrough ctx (normalizeApprovalDecisions env.text
      (replayDecisions env.text trace runDecisions)) prog := by
  intro ctx prog trace fallback
  have course : ∃ reached, reached ≤ plan.steps.length ∧
      OnCourse ctx reached prog := planRun_onCourse plan
  obtain ⟨reached, _, onCourse⟩ := course
  have records : RecordsRun env externalCaseId prep prog.executedSteps trace :=
    { items := rfl
      executed := by
        intro step mem
        obtain ⟨before, after, split⟩ := List.append_of_mem mem
        exact ⟨_, (onCourse.faithful.recorded before step after split).executed⟩
      normal := fun _ _ => normalDecision_of_decisionFor normalized }
  have agreesWith : ∀ readBack, readBack = normalizeApprovalDecisions env.text
        (some (.obj (approvalDecisionsFromAgentTrace env.text trace))) →
      AgreesThrough ctx readBack prog := by
    intro readBack isReadBack step mem call answered
    exact (records.executeAgentStep_eq plain isReadBack mem answered).trans answered
  by_cases noDecision : approvalDecisionsFromAgentTrace env.text trace = []
  · rw [replayDecisions, noDecision, List.isEmpty_nil, if_pos rfl]
    rcases fallback noDecision with rfl | rfl
    · rw [← normalized]
      exact fun step mem call answered => answered
    · apply agreesWith
      rw [noDecision]
      rfl
  · have someDecision : ¬(approvalDecisionsFromAgentTrace env.text trace).isEmpty = true := by
      rw [List.isEmpty_iff]
      exact noDecision
    rw [replayDecisions, if_neg someDecision]
    exact agreesWith _ rfl

end Trace

theorem deterministicMatch_self (env : AgentEnvironment)
    (trace : Json) : deterministicMatch env trace trace = true := by
  have versions : versionCompatible trace trace = true := by
    rw [versionCompatible, List.all_eq_true]
    exact fun name _ => pyEq_self _
  rw [deterministicMatch, versions, decide_eq_true rfl]
  rfl

theorem exists_replayTrace {env : AgentEnvironment} {evalCase : EvaluationCase}
    {decisions payload runDecisions : Option Json} {provider rebuilt : Option LiveReplanProvider}
    {prep : AgentPreparation} (plain : PlainTexts env)
    (prepared : prepareAgentExecution env.withDefaultTools evalCase decisions = some prep)
    (sameMode : rebuilt.isSome = provider.isSome) :
    let executing := env.withDefaultTools.toAgentEnvironment
    let trace := executeAgentPlan executing evalCase.externalCaseId
      payload prep (provider.map (LiveReplanProvider.callback executing))
    (approvalDecisionsFromAgentTrace env.text (trace.toJson executing) = [] →
      runDecisions = decisions ∨ runDecisions = none) →
    ∃ replayed, replayTrace env.withDefaultTools evalCase payload
        (trace.toJson executing) runDecisions rebuilt = some replayed ∧
      Reproduces executing trace replayed := by
  intro executing trace fallback
  have plainExecuting : PlainTexts executing := ⟨plain.lower, plain.digest⟩
  have preparationEq := prepareAgentExecution_eq_some prepared
  have replanLimitLe : prep.agentContext.replanLimit ≤ 1 := by
    rw [preparationEq]
    exact agentContext_replanLimit_le _
  have normalized : prep.approvalDecisions =
      normalizeApprovalDecisions executing.text decisions := by
    rw [preparationEq]
  have names := namesToolErrors_withDefaultTools env
  rw [replayTrace, prepareAgentExecution_decisions _ prepared, Option.map_some]
  refine ⟨_, rfl, ?_⟩
  rcases executeAgentPlan_shared (normalizeApprovalDecisions executing.text (replayDecisions
        executing.text (trace.toJson executing) runDecisions))
      (provider.map (LiveReplanProvider.callback executing))
      ((replayCallback executing.text (trace.toJson executing) rebuilt).map
        (LiveReplanProvider.callback executing)) with
    ⟨same, noReplan⟩ | ⟨plan, traceEq, replayedEq⟩
  · -- The output is rejected by both.
    left
    refine ⟨?_, same⟩
    have none : trace.replans = [] := noReplan
    rw [AgentExecutionTrace.isRebuilt, none]
    rfl
  · have traceIs : trace = runTrace _ plan _ := traceEq
    clear_value trace
    subst traceIs
    have agrees := agreesThrough_replayDecisions plainExecuting normalized fallback
    have ran := runTrace_reproduces names replanLimitLe sameMode agrees
    rw [← replayedEq] at ran
    exact ran

/-- The semantic replay of a recorded execution gives its projection exactly
where its live recovery can be rebuilt. -/
theorem replayTrace_reproduces (env : AgentEnvironment) (evalCase : EvaluationCase)
    (decisions payload runDecisions : Option Json) (provider rebuilt : Option LiveReplanProvider)
    {prep : AgentPreparation} (plain : PlainTexts env)
    (prepared : prepareAgentExecution env.withDefaultTools evalCase decisions = some prep)
    (sameMode : rebuilt.isSome = provider.isSome) :
    let executing := env.withDefaultTools.toAgentEnvironment
    let trace := executeAgentPlan executing evalCase.externalCaseId
      payload prep (provider.map (LiveReplanProvider.callback executing))
    (approvalDecisionsFromAgentTrace env.text (trace.toJson executing) = [] →
      runDecisions = decisions ∨ runDecisions = none) →
    ∃ replayed, replayTrace env.withDefaultTools evalCase payload
        (trace.toJson executing) runDecisions rebuilt = some replayed ∧
      (pyEq (semanticProjection (trace.toJson executing))
          (semanticProjection (replayed.toJson executing)) = true ↔
        trace.isRebuilt = true) ∧
      (trace.isRebuilt = true → deterministicMatch executing
        (trace.toJson executing) (replayed.toJson executing) = true) := by
  intro executing trace fallback
  obtain ⟨replayed, replayedEq, reproduced⟩ :=
    exists_replayTrace plain prepared sameMode fallback
  refine ⟨replayed, replayedEq, ?_⟩
  rcases reproduced with ⟨isRebuilt, rfl⟩ | ⟨notRebuilt, unequal⟩
  · have same : trace.isRebuilt = true := isRebuilt
    exact ⟨⟨fun _ => same, fun _ => pyEq_self _⟩, fun _ => deterministicMatch_self executing _⟩
  · have lost : trace.isRebuilt = false := notRebuilt
    have differs : pyEq (semanticProjection (trace.toJson executing))
        (semanticProjection (replayed.toJson executing)) = false := unequal
    rw [lost, differs]
    exact ⟨Iff.rfl, nofun⟩

/-! ## A recovery that is rebuilt, and one that is not -/

def digestEnvironment : AgentEnvironment :=
  { smallEnvironment.toAgentEnvironment with
    hashPayload := fun _ =>
      "0000000000000000000000000000000000000000000000000000000000000000" }

theorem plainTexts_digestEnvironment : PlainTexts digestEnvironment where
  lower _ _ := rfl
  digest _ :=
    show isHexDigest
      "0000000000000000000000000000000000000000000000000000000000000000" =
        true by decide

def recoverableDefaultPreparation : AgentPreparation :=
  (prepareAgentExecution digestEnvironment.withDefaultTools recoverableCase none).get (by rfl)

def runbookProvider : LiveReplanProvider :=
  fun _ => .responded
    { steps :=
        [.obj [("action", .str "memory_read"), ("memory_id", .str "runbook")]]
      providerId := "replanner"
      providerVersion := "v1"
      modelName := "model"
      promptTokens := 1
      completionTokens := 1
      estimatedCostUsd := 0 }

theorem replayTrace_reproduces_recovered :
    let executing := digestEnvironment.withDefaultTools.toAgentEnvironment
    let trace := executeAgentPlan executing recoverableCase.externalCaseId (some recoverablePlan)
      recoverableDefaultPreparation (some (runbookProvider.callback executing))
    trace.replans.map ReplanEvent.status = ["success"] ∧
      ∃ replayed, replayTrace digestEnvironment.withDefaultTools recoverableCase
          (some recoverablePlan) (trace.toJson executing) none
          (some runbookProvider) = some replayed ∧
        deterministicMatch executing (trace.toJson executing)
          (replayed.toJson executing) = true := by
  intro executing trace
  obtain ⟨replayed, replayedEq, _, isMatch⟩ := replayTrace_reproduces
    digestEnvironment recoverableCase none (some recoverablePlan) none
    (some runbookProvider) (some runbookProvider) plainTexts_digestEnvironment
    (Option.some_get _).symm rfl (fun _ => Or.inl rfl)
  exact ⟨by decide, replayed, replayedEq, isMatch (by decide)⟩

def failingProvider : LiveReplanProvider :=
  fun _ => .raised "TimeoutError"

def failedCallTrace : AgentExecutionTrace :=
  executeAgentPlan digestEnvironment.withDefaultTools.toAgentEnvironment
    recoverableCase.externalCaseId (some recoverablePlan)
    recoverableDefaultPreparation (some (failingProvider.callback
      digestEnvironment.withDefaultTools.toAgentEnvironment))

def failedCallReplay : Option AgentExecutionTrace :=
  replayTrace digestEnvironment.withDefaultTools recoverableCase
    (some recoverablePlan) (failedCallTrace.toJson
      digestEnvironment.withDefaultTools.toAgentEnvironment) none
    (some failingProvider)

/-- A callback that raised is replayed as one that declined. -/
theorem replayTrace_loses_callback_error :
    let executing := digestEnvironment.withDefaultTools.toAgentEnvironment
    failedCallTrace.haltReason = some "live_replan_callback_error" ∧
      ∃ replayed, failedCallReplay = some replayed ∧
        replayed.haltReason = some "live_replan_no_recovery" ∧
        pyEq (semanticProjection (failedCallTrace.toJson executing))
          (semanticProjection (replayed.toJson executing)) = false := by
  intro executing
  have recorded : failedCallTrace.haltReason =
      some "live_replan_callback_error" := by decide
  have declined : failedCallReplay.bind AgentExecutionTrace.haltReason =
      some "live_replan_no_recovery" := by decide
  obtain ⟨replayed, replayedEq, haltReason⟩ :=
    Option.bind_eq_some_iff.mp declined
  refine ⟨recorded, replayed, replayedEq, haltReason, ?_⟩
  apply Bool.eq_false_of_not_eq_true
  intro equal
  have reasons : pyEq (semanticProjection (Json.optionText failedCallTrace.haltReason))
      (semanticProjection (Json.optionText replayed.haltReason)) = true :=
    pyEq_of_projection "halt_reason" equal (by decide) (by simp) rfl
  rw [recorded, haltReason] at reasons
  exact absurd (text_of_projection reasons) (by decide)

end ModelAtlas.Agent
