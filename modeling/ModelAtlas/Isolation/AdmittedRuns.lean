import ModelAtlas.Foundations.Execution
import ModelAtlas.Isolation.ToolHandlers

/-!
# Runs that a preflight admits

`run_benchmark_execution` under an isolation policy: the preflights, and then
the requests of its clients and the tools of its cases, in any order.
-/

namespace ModelAtlas.Isolation

open Foundations Agent

/-- What a run takes from outside; `contactedHost` is the host that a URL is
opened at, if it is opened. -/
structure RunEnvironment extends IsolationEnvironment where
  corpora : CorpusEnvironment
  contactedHost : String → Option String

/-- The payload of a run with the configuration and the variables that it reads. -/
structure BenchmarkRequest where
  policyId : String
  cases : List IsolationCase
  runtimeConfig : List (String × Json)
  (usesOpenAI replansLive isFault : Bool)
  registry : Option RagCorpusRegistry
  retrieval : Json
  (baseUrlVariable replanUrlVariable : Option String)

section Request

variable (env : RunEnvironment) (req : BenchmarkRequest)

def render (value : Json) : String :=
  value.pyStr env.corpora.agent.text.render

/-- `str(config[name])`, where it is truthy. -/
def configText? (name : String) : Option String :=
  (((Json.obj req.runtimeConfig).get? name).filter Json.truthy).map (render env)

def hasToolCases : Bool :=
  req.cases.any (isToolCase env.corpora)

def hasRagCases : Bool :=
  req.cases.any (isRagCase env.corpora)

/-- `secret_envs`: the values of the keys that end in `_env`. -/
def declaredSecrets : List String :=
  (req.runtimeConfig.filter (fun mem =>
    "_env".toList.isSuffixOf mem.1.toList && mem.2.truthy)).map
      (fun mem => render env mem.2)

def normalizeBaseUrl (value : String) : String :=
  let base := (value.toList.reverse.dropWhile (· = '/')).reverse
  if "/v1".toList.isSuffixOf base then
    String.ofList (base.take (base.length - 3))
  else String.ofList base

def defaultBaseUrls : List String :=
  ["http://ollama:11434", "http://localhost:1234", "http://127.0.0.1:1234",
    "http://localhost:11434", "http://127.0.0.1:11434",
    "http://host.docker.internal:1234", "http://host.docker.internal:11434"]

def candidateBaseUrls : List String :=
  match configText? env req "base_url" with
  | some configured => [normalizeBaseUrl configured]
  | none =>
    ((((req.baseUrlVariable.toList ++ defaultBaseUrls).filter
      (fun value => value ≠ "")).map normalizeBaseUrl).reverse.dedup).reverse

/-- `configured_env` of `_headers`, where it is a text. -/
def configuredKeyVariable? : Option String :=
  match (Json.obj req.runtimeConfig).get? "api_key_env" with
  | some (.str name) => if name = "" then none else some name
  | _ => none

/-- The variable that `_headers` reads. -/
def keyVariable : String :=
  (configuredKeyVariable? req).getD "OPENAI_COMPATIBLE_API_KEY"

/-- `base_url` of the live-replan client, where it has one and a model. -/
def replanBaseUrl? : Option String :=
  let named := fun name => configText? env req name
  let base := pyStrip (((named "agent_replan_base_url").orElse
    (fun _ => (named "resolved_base_url").orElse
      (fun _ => (named "base_url").orElse
        (fun _ => req.replanUrlVariable)))).getD "")
  let model := pyStrip (((named "agent_replan_model").orElse
    (fun _ => named "model")).getD "")
  let key := pyStrip ((named "agent_replan_api_key_env").getD
    "AGENT_REPLAN_API_KEY")
  if base = "" ∨ model = "" ∨ key ≠ "AGENT_REPLAN_API_KEY" then none
  else some (normalizeBaseUrl base)

end Request

structure RunEffects where
  (tools hosts secrets : List String)

inductive Resolution where
  | idle
  | probing (rest : List String)
  | resolved (url : String)

def Resolution.urls : Resolution → List String
  | .idle => []
  | .probing rest => rest
  | .resolved url => [url]

structure RunState where
  request : BenchmarkRequest
  resolution : Resolution
  effects : RunEffects

inductive ProbeOutcome where
  | responds
  | fails
  /-- The time of the case is over. -/
  | expires

def ProbeOutcome.resolution (url : String) (rest : List String) : ProbeOutcome → Resolution
  | .responds => .resolved url
  | .fails => .probing rest
  | .expires => .idle

inductive RequestPath where
  | models
  | completions

def RequestPath.text : RequestPath → String
  | .models => "/v1/models"
  | .completions => "/v1/chat/completions"

inductive RunStep where
  /-- A health check or a case begins to resolve its URL. -/
  | resolve
  /-- `/v1/models` of the next candidate; `redirects` is where the answers send
  the client. -/
  | probe (outcome : ProbeOutcome) (redirects : List String)
  /-- A request to the URL that responded, for its models or a completion. -/
  | send (path : RequestPath) (redirects : List String)
  | replan (redirects : List String)
  | executeTools (index : Nat) (output : String) (isBlocked : Bool)
  | executeAgent (index : Nat) (isMock : Bool) (decisions : Option Json)
      (output : String) (provider : Option LiveReplanProvider)

section Run

variable (env : RunEnvironment)

def RunEffects.contact (effects : RunEffects) (url secret : String)
    (redirects : List String) : RunEffects where
  tools := effects.tools
  hosts := effects.hosts ++ (url :: redirects).filterMap env.contactedHost
  secrets := effects.secrets ++ [secret]

def RunEffects.attempt (effects : RunEffects) (tools : List String) :
    RunEffects :=
  { effects with tools := effects.tools ++ tools }

def RunState.next (state : RunState) : RunStep → Option RunState
  | .resolve =>
    if state.request.usesOpenAI then
      some { state with
        resolution :=
          .probing (candidateBaseUrls env state.request) }
    else none
  | .probe outcome redirects =>
    match state.resolution with
    | .probing (url :: rest) => some { state with
        resolution := outcome.resolution url rest
        effects := state.effects.contact env (url ++ RequestPath.models.text)
          (keyVariable state.request) redirects }
    | _ => none
  | .send path redirects =>
    match state.resolution with
    | .resolved url => some { state with
        effects := state.effects.contact env (url ++ path.text)
          (keyVariable state.request) redirects }
    | _ => none
  | .replan redirects =>
    if state.request.replansLive && state.request.cases.any (isAgentCase env.corpora) then
      (replanBaseUrl? env state.request).map (fun url =>
        { state with
          effects := state.effects.contact env
            (url ++ RequestPath.completions.text) "AGENT_REPLAN_API_KEY"
            redirects })
    else none
  | .executeTools index output isBlocked =>
    (state.request.cases[index]?).map (fun evalCase =>
      { state with
        effects := state.effects.attempt (attemptedByCase env.corpora
          state.request.isFault isBlocked evalCase output) })
  | .executeAgent index isMock decisions output provider =>
    match state.request.cases[index]? with
    | none => none
    | some evalCase =>
      (prepareExecution env.corpora state.request.registry isMock
          state.request.retrieval evalCase.toAgentCase
          decisions).map
        (fun prepared =>
          { state with
            effects := state.effects.attempt (attemptedByAgent
              env.corpora evalCase.toAgentCase prepared output
              provider) })

end Run

structure Covered (policy : IsolationPolicy) (effects : RunEffects) : Prop where
  tools : ∀ tool ∈ effects.tools, tool ∈ policy.allowedTools
  hosts : ∀ host ∈ effects.hosts, policy.AllowsHost host
  secrets : ∀ name ∈ effects.secrets, policy.AllowsSecret name

section Declared

variable (env : RunEnvironment) (policy : IsolationPolicy)

def hasPreflight (req : BenchmarkRequest) : Bool :=
  hasToolCases env req || hasRagCases env req

/-- The host of a URL was judged by a preflight; or the configuration names no URL, and the one
tried instead is at a host of the policy. -/
def DeclaresHost (req : BenchmarkRequest) (url : String) : Prop :=
  ((configText? env req "base_url").isSome = true ∧
    hasPreflight env req = true) ∨
  (configText? env req "base_url" = none ∧
    ∀ host, env.contactedHost url = some host → policy.AllowsHost host)

def DeclaresSecret (req : BenchmarkRequest) : Prop :=
  (∃ name, configuredKeyVariable? req = some name ∧ pyStrip name = name ∧
    hasPreflight env req = true) ∨
  (configuredKeyVariable? req = none ∧
    policy.AllowsSecret "OPENAI_COMPATIBLE_API_KEY")

def DeclaresRequest (state : RunState) (path : RequestPath) (redirects : List String) : Prop :=
  redirects = [] ∧ DeclaresSecret env policy state.request ∧
    ∀ url, state.resolution.urls.head? = some url →
      DeclaresHost env policy state.request (url ++ path.text)

/-- The steps that the preflights speak for: declared requests, the tools of tool cases, and
plans whose contract allows tools of the policy. -/
def IsDeclared (state : RunState) : RunStep → Prop
  | .resolve => True
  | .probe _ redirects =>
    DeclaresRequest env policy state .models redirects
  | .send path redirects =>
    DeclaresRequest env policy state path redirects
  | .replan _ => False
  | .executeTools _ _ _ => True
  | .executeAgent index _ _ _ _ =>
    ∀ evalCase, state.request.cases[index]? = some evalCase →
      let limits := agentContext env.corpora.agent.withDefaultTools
        (agentContract evalCase.toEvaluationCase)
      "tool" ∈ limits.allowedActions →
        ∀ tool ∈ limits.allowedTools, tool ∈ policy.allowedTools

def OpensNamedHost : Prop :=
  ∀ (url : String) (path : RequestPath) (host : String),
    env.contactedHost (normalizeBaseUrl url ++ path.text) = some host →
      normalizedHost env.toIsolationEnvironment (pyStrip url) = some host

end Declared

section Books

variable {env : RunEnvironment} {policy : IsolationPolicy}
  {req : BenchmarkRequest} {state after : RunState}

structure RequestPreflighted (env : RunEnvironment)
    (policy : IsolationPolicy) (req : BenchmarkRequest) : Prop where
  tools : hasToolCases env req = true →
    .tool ∈ policy.workloadKinds
  hosts : hasPreflight env req = true →
    ∀ url, configText? env req "base_url" = some url →
      ∃ host, normalizedHost env.toIsolationEnvironment
          (pyStrip url) = some host ∧ policy.AllowsHost host
  secrets : hasPreflight env req = true →
    ∀ name ∈ declaredSecrets env req,
      policy.AllowsSecret (pyStrip name)

theorem declaredSecret_of_configured {name : String}
    (configured : configuredKeyVariable? req = some name) :
    name ∈ declaredSecrets env req := by
  rw [configuredKeyVariable?] at configured
  split at configured
  · next stored found =>
      split at configured
      · cases configured
      · next nonempty =>
          cases configured
          rw [Json.get?] at found
          obtain ⟨mem, isMem, value⟩ := Option.map_eq_some_iff.mp found
          have key : mem.1 = "api_key_env" := by
            simpa using List.find?_some isMem
          refine List.mem_map.mpr ⟨mem, List.mem_filter.mpr
            ⟨List.mem_of_find?_eq_some isMem, ?_⟩, ?_⟩
          · have isTruthy : mem.2.truthy = true := by
              rw [value]
              simpa [Json.truthy] using nonempty
            have isEnv : "_env".toList.isSuffixOf "api_key_env".toList = true := by
              decide
            rw [key, isEnv, isTruthy]
            rfl
          · rw [value]
            rfl
  · cases configured

theorem allowsSecret_of_declares (preflighted : RequestPreflighted env policy req)
    (declares : DeclaresSecret env policy req) :
    policy.AllowsSecret (keyVariable req) := by
  rcases declares with ⟨name, configured, trimmed, needed⟩ | ⟨missing, allowed⟩
  · have declared : name ∈ declaredSecrets env req :=
      declaredSecret_of_configured configured
    have allowed := preflighted.secrets needed name declared
    rw [trimmed] at allowed
    rw [keyVariable, configured]
    exact allowed
  · rw [keyVariable, missing]
    exact allowed

theorem allowsHost_of_declares (opens : OpensNamedHost env)
    (preflighted : RequestPreflighted env policy req)
    {url host : String} {path : RequestPath}
    (candidate : url ∈ candidateBaseUrls env req)
    (declares : DeclaresHost env policy req (url ++ path.text))
    (contacted : env.contactedHost (url ++ path.text) = some host) :
    policy.AllowsHost host := by
  rcases declares with ⟨configured, needed⟩ | ⟨_, allowed⟩
  · obtain ⟨base, isBase⟩ := Option.isSome_iff_exists.mp configured
    rw [candidateBaseUrls, isBase] at candidate
    rw [List.mem_singleton.mp candidate] at contacted
    obtain ⟨own, isOwn, allowed⟩ := preflighted.hosts needed base isBase
    have same := opens base path host contacted
    rw [isOwn] at same
    rw [← Option.some.inj same]
    exact allowed
  · exact allowed host contacted

structure RunBooks (env : RunEnvironment) (policy : IsolationPolicy)
    (req : BenchmarkRequest) (state : RunState) : Prop where
  sameRequest : state.request = req
  candidates : ∀ url ∈ state.resolution.urls,
    url ∈ candidateBaseUrls env req
  covered : Covered policy state.effects

theorem Covered.contact {effects : RunEffects} (covered : Covered policy effects)
    {url secret : String} (host : ∀ host, env.contactedHost url = some host →
      policy.AllowsHost host) (allowed : policy.AllowsSecret secret) :
    Covered policy (effects.contact env url secret []) where
  tools := covered.tools
  hosts own mem := by
    rcases List.mem_append.mp mem with old | new
    · exact covered.hosts own old
    · obtain ⟨other, isUrl, contacted⟩ := List.mem_filterMap.mp new
      rw [List.mem_singleton.mp isUrl] at contacted
      exact host own contacted
  secrets own mem := by
    rcases List.mem_append.mp mem with old | new
    · exact covered.secrets own old
    · rw [List.mem_singleton.mp new]
      exact allowed

theorem Covered.attempt {effects : RunEffects} (covered : Covered policy effects)
    {tools : List String} (allowed : ∀ tool ∈ tools, tool ∈ policy.allowedTools) :
    Covered policy (effects.attempt tools) where
  tools own mem := by
    rcases List.mem_append.mp mem with old | new
    · exact covered.tools own old
    · exact allowed own new
  hosts := covered.hosts
  secrets := covered.secrets

theorem localTools_of_workload (isPolicy : isolationPolicy? req.policyId = some policy)
    (forTools : .tool ∈ policy.workloadKinds) :
    policy.allowedTools = localTools := by
  have known := List.mem_of_find?_eq_some isPolicy
  have checked : ∀ own ∈ isolationPolicies, .tool ∈ own.workloadKinds →
      own.allowedTools = localTools := by
    decide
  exact checked policy known forTools

theorem RunBooks.contact (opens : OpensNamedHost env)
    (preflighted : RequestPreflighted env policy req)
    (books : RunBooks env policy req state) {url : String}
    {path : RequestPath} {redirects : List String}
    (current : state.resolution.urls.head? = some url)
    (declares : DeclaresRequest env policy state path redirects)
    {resolution : Resolution}
    (candidates : ∀ other ∈ resolution.urls, other ∈ candidateBaseUrls env req) :
    RunBooks env policy req { state with
      resolution := resolution
      effects := state.effects.contact env (url ++ path.text)
        (keyVariable state.request) redirects } := by
  obtain ⟨unredirected, secret, host⟩ := declares
  have declared := host url current
  have candidate := books.candidates url (List.mem_of_mem_head? current)
  rw [books.sameRequest] at secret declared
  refine ⟨books.sameRequest, candidates, ?_⟩
  rw [unredirected, books.sameRequest]
  exact books.covered.contact
    (fun own contacted => allowsHost_of_declares opens preflighted candidate declared contacted)
    (allowsSecret_of_declares preflighted secret)

theorem RunBooks.next (isPolicy : isolationPolicy? req.policyId = some policy)
    (opens : OpensNamedHost env)
    (preflighted : RequestPreflighted env policy req)
    (books : RunBooks env policy req state) {step : RunStep}
    (declared : IsDeclared env policy state step)
    (taken : stepsOf (RunState.next env) state step after) :
    RunBooks env policy req after := by
  rw [stepsOf] at taken
  cases step with
  | resolve =>
    simp only [RunState.next] at taken
    split at taken
    · cases taken
      refine ⟨books.sameRequest, ?_, books.covered⟩
      rw [books.sameRequest]
      exact fun url mem => mem
    · cases taken
  | probe outcome redirects =>
    simp only [RunState.next] at taken
    split at taken
    · next url rest resolution =>
        cases taken
        have candidates := books.candidates
        rw [resolution] at candidates
        refine books.contact opens preflighted (by rw [resolution]; rfl) declared ?_
        intro other mem
        cases outcome with
        | responds =>
          rw [List.mem_singleton.mp mem]
          exact candidates url List.mem_cons_self
        | fails =>
          exact candidates other (List.mem_cons_of_mem _ mem)
        | expires =>
          cases mem
    · cases taken
  | send path redirects =>
    simp only [RunState.next] at taken
    split at taken
    · next url resolution =>
        cases taken
        exact books.contact opens preflighted (by rw [resolution]; rfl) declared books.candidates
    · cases taken
  | replan redirects =>
    exact absurd declared id
  | executeTools index output isBlocked =>
    obtain ⟨evalCase, found, rfl⟩ := Option.map_eq_some_iff.mp taken
    refine ⟨books.sameRequest, books.candidates, books.covered.attempt ?_⟩
    intro tool attempted
    obtain ⟨isTool, isLocal⟩ := localTool_of_attemptedByCase attempted
    have hasTools : hasToolCases env req = true := by
      rw [← books.sameRequest]
      exact List.any_eq_true.mpr ⟨evalCase, List.mem_of_getElem? found, isTool⟩
    rw [localTools_of_workload isPolicy (preflighted.tools hasTools)]
    exact isLocal
  | executeAgent index isMock decisions output provider =>
    simp only [RunState.next] at taken
    split at taken
    · cases taken
    · next evalCase found =>
        obtain ⟨prepared, isPrepared, rfl⟩ := Option.map_eq_some_iff.mp taken
        obtain ⟨ctx, _, _, _⟩ := prepareExecution_eq_some isPrepared
        refine ⟨books.sameRequest, books.candidates, books.covered.attempt ?_⟩
        intro tool attempted
        have allowed := allowed_of_attemptedByAgent attempted
        rw [ctx] at allowed
        exact declared evalCase found allowed.1 tool allowed.2

end Books

end ModelAtlas.Isolation
