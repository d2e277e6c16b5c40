import Mathlib.Algebra.Order.Ring.Unbundled.Rat
import ModelAtlas.Agent.Execution

/-!
# Live replanning

`AgentLiveReplanResponse` of `services/agent_execution/contracts.py`, and how
the executor takes what a callback does: an exception, no response, or a
response with its provenance.  The latency of the model call is left out.
-/

namespace ModelAtlas.Agent

open Foundations Approval

structure AgentLiveReplanResponse where
  steps : List Json
  (providerId providerVersion modelName : String)
  (promptTokens completionTokens : Int)
  estimatedCostUsd : Rat

/-- `response_payload` of `AgentLiveReplanResponse.provenance`. -/
def AgentLiveReplanResponse.payload (response : AgentLiveReplanResponse) : List (String × Json) :=
  [("steps", .arr response.steps),
    ("provider_id", .str response.providerId),
    ("provider_version", .str response.providerVersion),
    ("model_name", .str response.modelName),
    ("prompt_tokens", .int (max 0 response.promptTokens)),
    ("completion_tokens", .int (max 0 response.completionTokens)),
    ("estimated_cost_usd", .float (max 0 response.estimatedCostUsd))]

def AgentLiveReplanResponse.provenance (env : AgentEnvironment)
    (response : AgentLiveReplanResponse) : Json :=
  .obj ([("schema_version", .str "agent-live-replan-callback-v1")] ++
    response.payload ++
    [("response_hash", .str (env.hashPayload (.obj response.payload)))])

inductive LiveReplanOutcome where
  | raised (errorType : String)
  | declined
  | responded (response : AgentLiveReplanResponse)

abbrev LiveReplanProvider : Type :=
  AgentLiveReplanRequest → LiveReplanOutcome

def LiveReplanOutcome.answer (env : AgentEnvironment) : LiveReplanOutcome → LiveReplanAnswer
  | raised errorType => .raised errorType
  | declined => .noResponse
  | responded response =>
    .response response.steps (response.provenance env)

def LiveReplanProvider.callback (env : AgentEnvironment)
    (provider : LiveReplanProvider) : AgentLiveReplanCallback :=
  fun req => (provider req).answer env

def RecordsObjects (callback : Option AgentLiveReplanCallback) : Prop :=
  ∀ answering, callback = some answering → ∀ req steps modelCall,
    answering req = .response steps modelCall → modelCall.isObject = true

theorem recordsObjects_callback (env : AgentEnvironment) (provider : Option LiveReplanProvider) :
    RecordsObjects (provider.map (LiveReplanProvider.callback env)) := by
  intro answering isCallback req steps modelCall answered
  obtain ⟨given, _, rfl⟩ := Option.map_eq_some_iff.mp isCallback
  rw [LiveReplanProvider.callback] at answered
  cases outcome : given req with
  | raised errorType =>
    rw [outcome] at answered
    cases answered
  | declined =>
    rw [outcome] at answered
    cases answered
  | responded response =>
    rw [outcome] at answered
    cases answered
    rfl

end ModelAtlas.Agent
