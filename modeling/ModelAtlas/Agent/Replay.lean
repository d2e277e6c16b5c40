import ModelAtlas.Agent.Decisions
import ModelAtlas.Agent.JsonSchema
import ModelAtlas.Agent.LiveReplan
import ModelAtlas.Agent.Preparation

/-!
# Semantic replay

`replay_agent_result` of `services/agent_execution/replay.py`, with the recorded
callback of `callbacks.py`. What is loaded from the database is given; the paths
that changed and the signatures are left out.
-/

namespace ModelAtlas.Agent

open Foundations Approval

/-- `_non_negative_int`; `int(value)` of a float drops its fraction. -/
def nonNegativeInt (value : Option Json) : Int :=
  match value with
  | some (.int stored) => max 0 stored
  | some (.float stored) => max 0 (Int.tdiv stored.num stored.den)
  | _ => 0

def nonNegativeFloat (value : Option Json) : Rat :=
  match value with
  | some (.int stored) => max 0 stored
  | some (.float stored) => max 0 stored
  | _ => 0

def isLiveEvent (event : Json) : Bool :=
  Json.isText (event.get? "source") "live_callback"

def answersRequest (req : AgentLiveReplanRequest) (event : Json) : Bool :=
  isLiveEvent event &&
    Json.isIndex (event.get? "trigger_step_index") req.triggerStepIndex &&
    Json.isText (event.get? "trigger_error_type") req.triggerErrorType

/-- An item of `recovery_step_indices` as an index; `True` is `1`. -/
def listIndex? (index : Json) : Option Nat :=
  match index with
  | .int stored => if 0 ≤ stored then some stored.toNat else none
  | .bool stored => some stored.toNat
  | _ => none

def recordedInput? (traceSteps : List Json) (index : Json) : Option Json :=
  match (listIndex? index).bind (fun position => traceSteps[position]?) with
  | none => none
  | some step =>
    match step.get? "input" with
    | some (.obj members) => some (.obj members)
    | _ => none

def recordedSteps? (trace event : Json) : Option (List Json) :=
  match trace.get? "steps", event.get? "recovery_step_indices" with
  | some (.arr traceSteps), some (.arr indices) =>
    indices.mapM (recordedInput? traceSteps)
  | _, _ => none

/-- `str(model_call.get(name) or default)`. -/
def recordedText (text : TextEnvironment) (modelCall : Json) (name default : String) : String :=
  pyOr (Json.pyStrOrEmpty text.render (modelCall.get? name)) default

def recordedResponse (text : TextEnvironment) (modelCall : Json)
    (steps : List Json) : AgentLiveReplanResponse where
  steps := steps
  providerId := recordedText text modelCall "provider_id" "recorded-provider"
  providerVersion :=
    recordedText text modelCall "provider_version" "recorded-provider-v1"
  modelName := recordedText text modelCall "model_name" "recorded-model"
  promptTokens := nonNegativeInt (modelCall.get? "prompt_tokens")
  completionTokens := nonNegativeInt (modelCall.get? "completion_tokens")
  estimatedCostUsd := nonNegativeFloat (modelCall.get? "estimated_cost_usd")

/-- What `_RecordedLiveReplanCallback` makes of the event that it finds. -/
def replayEvent (text : TextEnvironment) (trace event : Json) :
    LiveReplanOutcome :=
  if Json.isText (event.get? "status") "callback_error" ||
      Json.isText (event.get? "status") "no_recovery" then .declined
  else
    match event.get? "model_call", recordedSteps? trace event with
    | some (.obj members), some (step :: rest) =>
      .responded (recordedResponse text (.obj members) (step :: rest))
    | _, _ => .declined

/-- `_RecordedLiveReplanCallback.__call__`. -/
def recordedLiveReplan (text : TextEnvironment) (trace : Json) :
    LiveReplanProvider := fun req =>
  match (trace.items "replans").find? (answersRequest req) with
  | none => .declined
  | some event => replayEvent text trace event

/-- `_recorded_live_replan_callback(trace) or rebuilt`. -/
def replayCallback (text : TextEnvironment) (trace : Json)
    (rebuilt : Option LiveReplanProvider) : Option LiveReplanProvider :=
  if (trace.items "replans").any isLiveEvent then
    some (recordedLiveReplan text trace)
  else rebuilt

/-- `approval_decisions` of `replay_agent_result`. -/
def replayDecisions (text : TextEnvironment) (trace : Json)
    (runDecisions : Option Json) : Option Json :=
  if (approvalDecisionsFromAgentTrace text trace).isEmpty then runDecisions
  else some (.obj (approvalDecisionsFromAgentTrace text trace))

/-- The trace of the replay of a trace; `runDecisions` are the decisions that the
run stores and `rebuilt` is the callback of its mode. -/
def replayTrace (env : PreparationEnvironment) (evalCase : EvaluationCase) (payload : Option Json)
    (trace : Json) (runDecisions : Option Json) (rebuilt : Option LiveReplanProvider) :
    Option AgentExecutionTrace :=
  (prepareAgentExecution env evalCase (replayDecisions env.text trace runDecisions)).map
    (fun prep =>
      executeAgentPlan env.toAgentEnvironment evalCase.externalCaseId payload prep
        ((replayCallback env.text trace rebuilt).map
          (LiveReplanProvider.callback env.toAgentEnvironment)))

def versionKeys : List String :=
  ["schema_version", "context_version", "runtime_version",
    "observation_schema_version", "recovery_policy_version",
    "approval_policy_version", "memory_registry_version",
    "tool_registry_version", "corpus_version", "retriever_version"]

def versionCompatible (original replayed : Json) : Bool :=
  versionKeys.all (fun name =>
    pyEqOption (original.get? name) (replayed.get? name))

def deterministicMatch (env : AgentEnvironment) (original replayed : Json) : Bool :=
  versionCompatible original replayed && env.hashPayload (semanticProjection original) =
      env.hashPayload (semanticProjection replayed)

/-- The replay can rebuild what the callback did: it declined, or each step of its response was
executed and its provider is named. -/
def ReplanEvent.isRebuilt (event : ReplanEvent) : Bool :=
  event.source ≠ "live_callback" || event.status = "no_recovery" ||
    (!event.recoveryStepIndices.isEmpty && event.recoveryStepIndices.length =
        (event.modelCall.items "steps").length &&
      ["provider_id", "provider_version", "model_name"].all (fun name =>
        !Json.isText (event.modelCall.get? name) ""))

def AgentExecutionTrace.isRebuilt (trace : AgentExecutionTrace) : Bool :=
  trace.replans.all ReplanEvent.isRebuilt

end ModelAtlas.Agent
