import ModelAtlas.Agent.Replay
import ModelAtlas.Agent.Tools

/-!
# Corpora of an agent execution

The part of `prepare_agent_execution` that reads the corpora and the input of
the adapter, `compile_bounded_agent_plan`, and the trace of
`attach_agent_execution`. The record of the compilation is left out.
-/

namespace ModelAtlas.Agent

open Foundations Approval

structure RagChunk where
  (chunkId documentId title text : String)
  deriving DecidableEq

structure RagCorpus where
  (corpusId corpusVersion corpusHash : String)
  chunks : List RagChunk
  deriving DecidableEq

structure RagCorpusRegistry where
  corpora : List (String × RagCorpus)

def RagCorpusRegistry.get (reg : RagCorpusRegistry) (corpusId : String) : Option RagCorpus :=
  reg.corpora.lookup corpusId

structure RetrievalSettings where
  topK : Nat
  minScore : Json
  (query queryStrategy : String)

/-- What the corpora and plans take from outside; a preparation replaces the corpus and the
retrieval of `agent`. -/
structure CorpusEnvironment where
  agent : AgentEnvironment
  defaultRagCorpus : RagCorpus
  retrieveFrom : RetrievalSettings → RagCorpus → String → List String →
    RetrievalTrace
  loads : String → Option Json
  dumps : Json → String

def CorpusEnvironment.defaultRagCorpusRegistry (env : CorpusEnvironment) : RagCorpusRegistry where
  corpora :=
    [(env.defaultRagCorpus.corpusId, env.defaultRagCorpus)]

structure AgentCase extends EvaluationCase where
  title : String
  inputPayload : List (String × Json)

/-- `SUPPORTED_AGENT_RETRIEVAL_QUERY_STRATEGIES`. -/
def supportedRetrievalQueryStrategies : List String :=
  ["reviewed-bilingual-retrieval-query-v1"]

/-- What a preparation holds besides the contract, the context of the executor
and the decisions. -/
structure PreparedExecution where
  preparation : AgentPreparation
  corpus : RagCorpus
  retrieval : RetrievalSettings
  adapterInput : List (String × Json)

section Preparation

variable (env : CorpusEnvironment)

/-- `corpus` of `prepare_agent_execution`; `retrieval` is
`retrieval_config_json`. -/
def resolveCorpus (reg : Option RagCorpusRegistry) (retrieval : Json) :
    RagCorpus :=
  let corpusId := pyOr (Json.pyStrOrEmpty env.agent.text.render
      (retrieval.get? "corpus_id"))
    env.defaultRagCorpus.corpusId
  ((reg.getD env.defaultRagCorpusRegistry).get corpusId).getD env.defaultRagCorpus

def retrievalSettings (retrieval : Json) (evalCase : AgentCase) :
    RetrievalSettings :=
  let render := env.agent.text.render
  let ragContract := evalCase.reference.objectOr "rag"
  let strategy := Json.pyStrOrEmpty render (ragContract.get? "query_strategy")
  { topK := boundedInt (retrieval.get? "top_k") 3 10
    minScore := (retrieval.get? "min_score").getD (.float (1 / 20))
    query :=
      if supportedRetrievalQueryStrategies.contains strategy then
        pyStrip (Json.pyStrOrEmpty render (ragContract.get? "query"))
      else ""
    queryStrategy := strategy }

/-- `adapter_input`, without the context. -/
def adapterInput (includeMockPlan : Bool) (evalCase : AgentCase) : List (String × Json) :=
  evalCase.inputPayload.filter (fun mem =>
    (includeMockPlan || mem.1 ≠ "mock_agent_plan") &&
      mem.1 ≠ "agent_approval_decisions")

/-- `prepare_agent_execution`. -/
def prepareExecution (reg : Option RagCorpusRegistry) (includeMockPlan : Bool) (retrieval : Json)
    (evalCase : AgentCase) (decisions : Option Json) : Option PreparedExecution :=
  (prepareAgentExecution env.agent.withDefaultTools evalCase.toEvaluationCase decisions).map
    (fun prep =>
      { preparation := prep
        corpus := resolveCorpus env reg retrieval
        retrieval := retrievalSettings env retrieval evalCase
        adapterInput := adapterInput includeMockPlan evalCase })

def isBoundedContract (limits : AgentContext) : Bool :=
  let actions := ["retrieve", "tool", "respond"]
  limits.allowedActions.all actions.contains && actions.all limits.allowedActions.contains &&
    limits.allowedTools.length = 1 && limits.stepLimit = 3 &&
    limits.retrievalLimit = 1 && limits.toolCallLimit = 1

def hasMockPlan (members : List (String × Json)) : Bool :=
  members.any (fun mem => mem.1 = "mock_agent_plan")

/-- `eligible` of `compile_bounded_agent_plan`. -/
def PreparedExecution.isEligible (prepared : PreparedExecution) : Bool :=
  !hasMockPlan prepared.adapterInput && isBoundedContract prepared.preparation.agentContext

def firstStep (steps : List Json) (action : String) : Option Json :=
  steps.find? (fun step => Json.isText (step.get? "action") action)

def requiredSchema (schema : Json) (required : List String) : Json :=
  let properties := schema.objectOr "properties"
  let members := match schema with
    | .obj members => members
    | _ => []
  .obj (Json.setMember
    (Json.setMember members "properties"
      (.obj (required.map (fun name =>
        (name, (properties.get? name).getD (.obj []))))))
    "additionalProperties" (.bool false))

/-- `arguments`, if all that the tool requires is there. -/
def requiredArguments (tool : RegisteredTool) (source : Json) : Option Json :=
  let render := env.agent.text.render
  let required := (tool.argumentSchema.items "required").map (Json.pyStr render)
  let arguments := Json.obj (required.filterMap (fun name =>
    (source.get? name).map (fun value => (name, value))))
  if (validateJsonSchema render (requiredSchema tool.argumentSchema required)
      arguments "$").isEmpty then some arguments
  else none

def compiledSteps (evalCase : AgentCase) (configuredQuery toolName : String)
    (arguments : Json) (steps : List Json) : List Json :=
  let render := env.agent.text.render
  let textOf := fun (value : Option Json) name =>
    pyStrip (Json.pyStrOrEmpty render (value.bind (fun step => step.get? name)))
  let payload := some (Json.obj evalCase.inputPayload)
  let requestText := pyStrip (pyOr
    (Json.pyStrOrEmpty render (payload.bind (fun value => value.get? "request")))
    (pyOr
      (Json.pyStrOrEmpty render (payload.bind (fun value => value.get? "query")))
      evalCase.title))
  let query := pyOr (pyStrip configuredQuery)
    (pyOr (textOf (firstStep steps "retrieve") "query") requestText)
  let content := pyOr (textOf (firstStep steps "respond") "content")
    ("retrieve 후 " ++ toolName ++
      " 실행, retrieve, tool, respond 순서 완료")
  [.obj [("action", .str "retrieve"), ("query", .str query)],
    .obj [("action", .str "tool"), ("tool_name", .str toolName),
      ("arguments", arguments)],
    .obj [("action", .str "respond"), ("content", .str content)]]

def compiledPlan? (evalCase : AgentCase) (prepared : PreparedExecution)
    (payload : Json) : Option Json := do
  let limits := prepared.preparation.agentContext
  let toolName ← limits.allowedTools.head?
  let steps ← match payload.get? "steps" with
    | some (.arr (step :: rest)) => some (step :: rest)
    | _ => none
  let actions := steps.map (fun step =>
    Json.pyStrOrEmpty env.agent.text.render (step.get? "action"))
  if steps.all Json.isObject && actions.all limits.allowedActions.contains then
    let toolStep ← steps.find? (fun step =>
      Json.isText (step.get? "action") "tool" &&
        Json.isText (step.get? "tool_name") toolName)
    let tool ← registeredTool? env.agent toolName
    let source ← (toolStep.get? "arguments").filter Json.isObject
    let arguments ← requiredArguments env tool source
    some (.obj [("steps", .arr (compiledSteps env evalCase
      prepared.retrieval.query toolName arguments steps))])
  else none

def compileBoundedAgentPlan (evalCase : AgentCase)
    (prepared : PreparedExecution) (normalizedOutput : String) : String :=
  if prepared.isEligible then
    match (env.loads normalizedOutput).bind (compiledPlan? env evalCase prepared) with
    | some plan => env.dumps plan
    | none => normalizedOutput
  else normalizedOutput

def CorpusEnvironment.executing (prepared : PreparedExecution) :
    AgentEnvironment :=
  { env.agent.withDefaultTools.toAgentEnvironment with
    corpusVersion := prepared.corpus.corpusVersion
    retrieve := env.retrieveFrom prepared.retrieval prepared.corpus }

/-- `execute_agent_plan(…).to_dict()`. -/
def executionTrace (evalCase : AgentCase) (prepared : PreparedExecution)
    (output : String) (provider : Option LiveReplanProvider) : Json :=
  let executing := env.executing prepared
  (executeAgentPlan executing evalCase.externalCaseId (env.loads output) prepared.preparation
    (provider.map (LiveReplanProvider.callback executing))).toJson executing

end Preparation

section Dependence

variable {env : CorpusEnvironment}

theorem resolveCorpus_none (retrieval : Json) :
    resolveCorpus env none retrieval = env.defaultRagCorpus := by
  simp only [resolveCorpus, Option.getD_none, RagCorpusRegistry.get,
    CorpusEnvironment.defaultRagCorpusRegistry]
  cases found : List.lookup _ [(env.defaultRagCorpus.corpusId, env.defaultRagCorpus)] with
  | none =>
    rfl
  | some corpus =>
    obtain ⟨before, after, split, _⟩ := List.lookup_eq_some_iff.mp found
    have mem := congrArg (fun items => corpus ∈ items.map Prod.snd) split
    simp only [List.map_append, List.map_cons, List.map_nil, List.mem_append,
      List.mem_cons, List.not_mem_nil, or_false, true_or, or_true,
      eq_iff_iff, iff_true] at mem
    exact mem

theorem prepareExecution_eq_some {reg : Option RagCorpusRegistry} {includeMockPlan : Bool}
    {retrieval : Json} {evalCase : AgentCase} {decisions : Option Json}
    {prepared : PreparedExecution} (isPrepared : prepareExecution env reg includeMockPlan retrieval
      evalCase decisions = some prepared) :
    prepared.preparation.agentContext = agentContext env.agent.withDefaultTools
          (agentContract evalCase.toEvaluationCase) ∧
      prepared.corpus = resolveCorpus env reg retrieval ∧
      prepared.retrieval = retrievalSettings env retrieval evalCase ∧
      prepared.adapterInput = adapterInput includeMockPlan evalCase := by
  obtain ⟨prep, found, rfl⟩ := Option.map_eq_some_iff.mp isPrepared
  have ctx := prepareAgentExecution_eq_some found
  refine ⟨?_, rfl, rfl, rfl⟩
  rw [ctx]

theorem hasMockPlan_adapterInput (includeMockPlan : Bool) (evalCase : AgentCase) :
    hasMockPlan (adapterInput includeMockPlan evalCase) =
      (includeMockPlan && hasMockPlan evalCase.inputPayload) := by
  rw [Bool.eq_iff_iff]
  simp only [hasMockPlan, adapterInput, List.any_eq_true, List.mem_filter,
    Bool.and_eq_true, Bool.or_eq_true, decide_eq_true_eq]
  constructor
  · rintro ⟨mem, ⟨present, keeps, _⟩, isPlan⟩
    rcases keeps with included | isOther
    · exact ⟨included, mem, present, isPlan⟩
    · exact absurd isPlan isOther
  · rintro ⟨included, mem, present, isPlan⟩
    refine ⟨mem, ⟨present, Or.inl included, ?_⟩, isPlan⟩
    rw [isPlan]
    decide

end Dependence

end ModelAtlas.Agent
