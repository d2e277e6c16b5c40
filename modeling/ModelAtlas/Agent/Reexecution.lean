import ModelAtlas.Agent.Corpora
import ModelAtlas.Foundations.Execution

/-!
# The environment of a re-execution

`_apply_persisted_decisions` and `replay_agent_result` prepare the results of
`run_benchmark_execution` again, without its registry of corpora and without the
plan of a mock.
-/

namespace ModelAtlas.Agent

open Foundations Approval

variable {reexecution : Reexecution}

structure StoredResult where
  retrieval : Json
  evaluationCase : AgentCase
  registry : Option RagCorpusRegistry
  includeMockPlan : Bool
  prepared : PreparedExecution
  normalizedOutput : String
  trace : Json
  runDecisions : Option Json

inductive ReexecutionKind where
  /-- An approval, denial or resume. -/
  | resumed
  | replayed (versionCompatible : Bool)

structure Reexecution where
  source : StoredResult
  kind : ReexecutionKind
  prepared : PreparedExecution

structure StoredExecutions where
  results : List StoredResult
  reexecutions : List Reexecution

inductive ReexecutionStep where
  /-- A trial of `run_benchmark_execution`. -/
  | execute (reg : Option RagCorpusRegistry) (isMock : Bool)
      (retrieval : Json) (evalCase : AgentCase) (decisions : Option Json)
      (output : String) (provider : Option LiveReplanProvider)
  /-- `_apply_persisted_decisions`, with what the operators decided. -/
  | resume (index : Nat) (decided : List (String × Json))
      (provider : Option LiveReplanProvider)
  /-- `replay_agent_result`. -/
  | replay (index : Nat) (rebuilt : Option LiveReplanProvider)

namespace StoredExecutions

def initial : StoredExecutions := ⟨[], []⟩

variable (env : CorpusEnvironment) (sys : StoredExecutions)

/-- `attach_agent_execution` of a new preparation. -/
def executed (reg : Option RagCorpusRegistry) (includeMockPlan : Bool) (retrieval : Json)
    (evalCase : AgentCase) (decisions runDecisions : Option Json) (output : String)
    (provider : Option LiveReplanProvider) : Option StoredResult :=
  (prepareExecution env reg includeMockPlan retrieval evalCase decisions).map (fun prepared =>
      let compiled :=
        compileBoundedAgentPlan env evalCase prepared output
      { retrieval := retrieval
        evaluationCase := evalCase
        registry := reg
        includeMockPlan := includeMockPlan
        prepared := prepared
        normalizedOutput := compiled
        trace :=
          executionTrace env evalCase prepared compiled provider
        runDecisions := runDecisions })

def persistedDecisions (source : StoredResult) (decided : List (String × Json)) :
    Json :=
  .obj (decided.foldl (fun members entry =>
      Json.setMember members entry.1 entry.2)
    (approvalDecisionsFromAgentTrace env.agent.text source.trace))

def replayed (source : StoredResult) (rebuilt : Option LiveReplanProvider) : Option Reexecution :=
  if source.normalizedOutput = "" then none
  else
    (prepareExecution env none false source.retrieval source.evaluationCase
        (replayDecisions env.agent.text source.trace source.runDecisions)).map
      (fun prepared =>
        { source := source
          kind := .replayed (versionCompatible source.trace
            (executionTrace env source.evaluationCase prepared source.normalizedOutput
              (replayCallback env.agent.text source.trace rebuilt)))
          prepared := prepared })

def next : ReexecutionStep → Option StoredExecutions
  | .execute reg isMock retrieval evalCase decisions output provider =>
      (executed env reg isMock retrieval evalCase decisions decisions output provider).map
        (fun res => { sys with results := sys.results ++ [res] })
  | .resume index decided provider =>
    match sys.results[index]? with
    | none => none
    | some source =>
      (executed env none false source.retrieval source.evaluationCase
          (some (persistedDecisions env source decided))
          source.runDecisions source.normalizedOutput provider).map
        (fun revision =>
          { results := sys.results ++ [revision]
            reexecutions := sys.reexecutions ++ [⟨source, .resumed, revision.prepared⟩] })
  | .replay index rebuilt =>
    match sys.results[index]? with
    | none => none
    | some source =>
      (replayed env source rebuilt).map (fun reexecution =>
        { sys with reexecutions := sys.reexecutions ++ [reexecution] })

end StoredExecutions

/-- The corpus, the retrieval settings, the allow-lists and the limits are the
same. -/
structure SameEnvironment (recorded used : PreparedExecution) : Prop where
  corpus : used.corpus = recorded.corpus
  retrieval : used.retrieval = recorded.retrieval
  context : used.preparation.agentContext = recorded.preparation.agentContext

/-- A re-execution uses what the execution used; a replay, which compiles no
plan, may report that it does not. -/
def Reexecution.UsesRecorded (reexecution : Reexecution) : Prop :=
  match reexecution.kind with
  | .resumed =>
    SameEnvironment reexecution.source.prepared reexecution.prepared ∧
      reexecution.prepared.isEligible = reexecution.source.prepared.isEligible
  | .replayed versionCompatible => versionCompatible = true →
      SameEnvironment reexecution.source.prepared reexecution.prepared

/-- The execution kept the plan of a mock, and a re-execution compiles what it
stored. -/
def StoredResult.losesMockPlan (env : CorpusEnvironment) (res : StoredResult) : Bool :=
  res.includeMockPlan && hasMockPlan res.evaluationCase.inputPayload &&
    isBoundedContract (agentContext env.agent.withDefaultTools
      (agentContract res.evaluationCase.toEvaluationCase))

/-- The corpus of the execution is the default one, and its plan was compiled in spite of a
mock. For a replay, another version of the corpus will do. -/
def Reexecution.IsRecoverable (env : CorpusEnvironment) (reexecution : Reexecution) : Prop :=
  let source := reexecution.source
  let corpus := resolveCorpus env source.registry source.retrieval
  match reexecution.kind with
  | .resumed => corpus = env.defaultRagCorpus ∧ source.losesMockPlan env = false
  | .replayed _ => corpus = env.defaultRagCorpus ∨
      corpus.corpusVersion ≠ env.defaultRagCorpus.corpusVersion

/-! ## What is stored -/

structure StoredExecution (env : CorpusEnvironment)
    (res : StoredResult) : Prop where
  prepared : ∃ decisions, prepareExecution env res.registry
    res.includeMockPlan res.retrieval res.evaluationCase decisions =
      some res.prepared
  traced : ∃ output provider, res.trace = executionTrace env
    res.evaluationCase res.prepared output provider

structure StoredReexecution (env : CorpusEnvironment)
    (reexecution : Reexecution) : Prop where
  source : StoredExecution env reexecution.source
  prepared : ∃ decisions, prepareExecution env none false
    reexecution.source.retrieval reexecution.source.evaluationCase decisions =
      some reexecution.prepared
  reported : ∀ compatible, reexecution.kind = .replayed compatible →
    ∃ output provider, compatible = versionCompatible reexecution.source.trace
      (executionTrace env reexecution.source.evaluationCase
        reexecution.prepared output provider)

structure ExecutionBooks (env : CorpusEnvironment)
    (sys : StoredExecutions) : Prop where
  results : ∀ res ∈ sys.results, StoredExecution env res
  reexecutions : ∀ reexecution ∈ sys.reexecutions,
    StoredReexecution env reexecution

section Books

variable {env : CorpusEnvironment} {sys after : StoredExecutions}

theorem ExecutionBooks.initial : ExecutionBooks env .initial where
  results _ mem := absurd mem List.not_mem_nil
  reexecutions _ mem := absurd mem List.not_mem_nil

theorem storedExecution_of_executed {reg : Option RagCorpusRegistry} {includeMockPlan : Bool}
    {retrieval : Json} {evalCase : AgentCase} {decisions runDecisions : Option Json}
    {output : String} {provider : Option LiveReplanProvider} {res : StoredResult}
    (executed : StoredExecutions.executed env reg includeMockPlan
      retrieval evalCase decisions runDecisions output provider =
        some res) : StoredExecution env res := by
  obtain ⟨prepared, isPrepared, rfl⟩ := Option.map_eq_some_iff.mp executed
  exact ⟨⟨decisions, isPrepared⟩, ⟨_, provider, rfl⟩⟩

theorem prepared_of_revision {source revision : StoredResult}
    {decisions : Option Json} {provider : Option LiveReplanProvider}
    (executed : StoredExecutions.executed env none false source.retrieval
      source.evaluationCase decisions source.runDecisions
        source.normalizedOutput provider = some revision) :
    prepareExecution env none false source.retrieval
      source.evaluationCase decisions = some revision.prepared := by
  obtain ⟨prepared, isPrepared, rfl⟩ := Option.map_eq_some_iff.mp executed
  exact isPrepared

theorem storedReexecution_of_replayed {source : StoredResult} {rebuilt : Option LiveReplanProvider}
    (stored : StoredExecution env source) (replayed : StoredExecutions.replayed env source rebuilt =
      some reexecution) : StoredReexecution env reexecution := by
  rw [StoredExecutions.replayed] at replayed
  by_cases planless : source.normalizedOutput = ""
  · rw [if_pos planless] at replayed
    cases replayed
  · rw [if_neg planless] at replayed
    obtain ⟨prepared, isPrepared, rfl⟩ := Option.map_eq_some_iff.mp replayed
    refine ⟨stored, ⟨_, isPrepared⟩, ?_⟩
    intro compatible same
    cases same
    exact ⟨_, _, rfl⟩

theorem ExecutionBooks.append (books : ExecutionBooks env sys) {results : List StoredResult}
    {reexecutions : List Reexecution} (stored : ∀ res ∈ results, StoredExecution env res)
    (recorded : ∀ reexecution ∈ reexecutions, StoredReexecution env reexecution) :
    ExecutionBooks env ⟨sys.results ++ results, sys.reexecutions ++ reexecutions⟩ where
  results res mem := by
    rcases List.mem_append.mp mem with old | new
    · exact books.results res old
    · exact stored res new
  reexecutions reexecution mem := by
    rcases List.mem_append.mp mem with old | new
    · exact books.reexecutions reexecution old
    · exact recorded reexecution new

theorem ExecutionBooks.next (books : ExecutionBooks env sys) {step : ReexecutionStep}
    (taken : stepsOf (StoredExecutions.next env) sys step after) :
    ExecutionBooks env after := by
  cases step with
  | execute reg isMock retrieval evalCase decisions output provider =>
    obtain ⟨res, executed, rfl⟩ := Option.map_eq_some_iff.mp taken
    have stored := storedExecution_of_executed executed
    have grown : ExecutionBooks env ⟨sys.results ++ [res], sys.reexecutions ++ []⟩ :=
      books.append (fun other mem => List.mem_singleton.mp mem ▸ stored)
        (fun _ mem => absurd mem List.not_mem_nil)
    rw [List.append_nil] at grown
    exact grown
  | resume index decided provider =>
    rw [stepsOf, StoredExecutions.next] at taken
    split at taken
    · cases taken
    · next source found =>
        obtain ⟨revision, executed, rfl⟩ := Option.map_eq_some_iff.mp taken
        have isStored := books.results source (List.mem_of_getElem? found)
        have stored := storedExecution_of_executed executed
        have isPrepared := prepared_of_revision executed
        refine books.append ?_ ?_
        · intro other mem
          rw [List.mem_singleton.mp mem]
          exact stored
        · intro other mem
          rw [List.mem_singleton.mp mem]
          refine ⟨isStored, ⟨_, isPrepared⟩, ?_⟩
          intro compatible same
          cases same
  | replay index rebuilt =>
    rw [stepsOf, StoredExecutions.next] at taken
    split at taken
    · cases taken
    · next source found =>
        obtain ⟨reexecution, replayed, rfl⟩ := Option.map_eq_some_iff.mp taken
        have isStored := books.results source (List.mem_of_getElem? found)
        have recorded := storedReexecution_of_replayed isStored replayed
        have grown : ExecutionBooks env ⟨sys.results ++ [], sys.reexecutions ++ [reexecution]⟩ :=
          books.append (fun _ mem => absurd mem List.not_mem_nil)
            (fun other mem => List.mem_singleton.mp mem ▸ recorded)
        rw [List.append_nil] at grown
        exact grown

end Books

section Recovered

variable {env : CorpusEnvironment}

theorem versionCompatible_executionTrace {leftCase rightCase : AgentCase}
    {left right : PreparedExecution} {leftOutput rightOutput : String}
    {leftProvider rightProvider : Option LiveReplanProvider} :
    versionCompatible (executionTrace env leftCase left leftOutput leftProvider)
        (executionTrace env rightCase right rightOutput rightProvider) =
      decide (left.corpus.corpusVersion = right.corpus.corpusVersion) := by
  simp [versionCompatible, versionKeys, executionTrace,
    AgentExecutionTrace.toJson, Json.get?, pyEqOption, pyEq,
    CorpusEnvironment.executing]

theorem StoredReexecution.sameEnvironment_iff (stored : StoredReexecution env reexecution) :
    SameEnvironment reexecution.source.prepared reexecution.prepared ↔
      resolveCorpus env reexecution.source.registry reexecution.source.retrieval =
        env.defaultRagCorpus := by
  obtain ⟨_, isRecorded⟩ := stored.source.prepared
  obtain ⟨_, isPrepared⟩ := stored.prepared
  obtain ⟨ctx, corpus, retrieval, _⟩ := prepareExecution_eq_some isRecorded
  obtain ⟨usedContext, usedCorpus, usedRetrieval, _⟩ :=
    prepareExecution_eq_some isPrepared
  rw [resolveCorpus_none] at usedCorpus
  constructor
  · intro same
    rw [← corpus, ← same.corpus, usedCorpus]
  · intro isDefault
    refine ⟨?_, ?_, ?_⟩
    · rw [usedCorpus, corpus, isDefault]
    · rw [usedRetrieval, retrieval]
    · rw [usedContext, ctx]

theorem StoredReexecution.isEligible_iff (stored : StoredReexecution env reexecution) :
    reexecution.prepared.isEligible = reexecution.source.prepared.isEligible ↔
      reexecution.source.losesMockPlan env = false := by
  obtain ⟨_, isRecorded⟩ := stored.source.prepared
  obtain ⟨_, isPrepared⟩ := stored.prepared
  obtain ⟨ctx, _, _, input⟩ := prepareExecution_eq_some isRecorded
  obtain ⟨usedContext, _, _, usedInput⟩ := prepareExecution_eq_some isPrepared
  rw [PreparedExecution.isEligible, PreparedExecution.isEligible, input, ctx,
    usedInput, usedContext, hasMockPlan_adapterInput, hasMockPlan_adapterInput,
    StoredResult.losesMockPlan]
  cases reexecution.source.includeMockPlan <;>
    cases hasMockPlan reexecution.source.evaluationCase.inputPayload <;>
      cases isBoundedContract (agentContext env.agent.withDefaultTools
        (agentContract reexecution.source.evaluationCase.toEvaluationCase)) <;>
        decide

theorem StoredReexecution.reported_iff (stored : StoredReexecution env reexecution)
    {compatible : Bool} (isReplay : reexecution.kind = .replayed compatible) :
    compatible = true ↔ (resolveCorpus env reexecution.source.registry
          reexecution.source.retrieval).corpusVersion =
        env.defaultRagCorpus.corpusVersion := by
  obtain ⟨_, isRecorded⟩ := stored.source.prepared
  obtain ⟨_, isPrepared⟩ := stored.prepared
  obtain ⟨_, corpus, _, _⟩ := prepareExecution_eq_some isRecorded
  obtain ⟨_, usedCorpus, _, _⟩ := prepareExecution_eq_some isPrepared
  obtain ⟨_, _, traced⟩ := stored.source.traced
  obtain ⟨_, _, reported⟩ := stored.reported compatible isReplay
  rw [reported, traced, versionCompatible_executionTrace, decide_eq_true_eq,
    corpus, usedCorpus, resolveCorpus_none]

end Recovered

/-- In every run a re-execution uses what was recorded, or its replay reports otherwise, exactly
when the condition holds of it. -/
theorem reexecutions_useRecorded_iff {env : CorpusEnvironment}
    {steps : List ReexecutionStep} {sys : StoredExecutions}
    (exec : Execution (stepsOf (StoredExecutions.next env)) .initial steps sys) :
    ∀ reexecution ∈ sys.reexecutions, reexecution.UsesRecorded ↔ reexecution.IsRecoverable env := by
  have books : ExecutionBooks env sys :=
    exec.invariant (ExecutionBooks env) .initial (fun _ _ _ books taken => books.next taken)
  intro reexecution mem
  have stored := books.reexecutions reexecution mem
  have sameEnvironment := stored.sameEnvironment_iff
  rw [Reexecution.UsesRecorded, Reexecution.IsRecoverable]
  cases kind : reexecution.kind with
  | resumed =>
    exact and_congr sameEnvironment stored.isEligible_iff
  | replayed compatible =>
    have reported := stored.reported_iff kind
    dsimp only
    rw [sameEnvironment, reported, or_comm, ← imp_iff_not_or]

def handbookEnvironment : CorpusEnvironment where
  agent := smallEnvironment.toAgentEnvironment
  defaultRagCorpus := ⟨"handbook", "v1", "hash", []⟩
  retrieveFrom _ _ _ _ := ⟨"empty", true, .null⟩
  loads _ := some (.obj [("steps", .arr [.obj [("action", .str "respond"),
    ("content", .str "done")]])])
  dumps _ := "plan"

def respondCase : AgentCase where
  externalCaseId := "case"
  category := "agent"
  reference := .obj [("agent", .obj [("max_steps", .int 1)])]
  title := "Respond"
  inputPayload := []

def runbookRegistry : RagCorpusRegistry where
  corpora :=
    [("handbook", ⟨"handbook", "v1", "hash", []⟩),
      ("runbook", ⟨"runbook", "v1", "other", []⟩)]

def reexecutedSteps (corpusId : String) : List ReexecutionStep :=
  [.execute (some runbookRegistry) false (.obj [("corpus_id", .str corpusId)])
      respondCase none "plan" none,
    .resume 0 [] none, .replay 0 none]

def afterReexecution (corpusId : String) : Option StoredExecutions :=
  perform (StoredExecutions.next handbookEnvironment) .initial (reexecutedSteps corpusId)

def ReexecutionKind.isResumed : ReexecutionKind → Bool
  | .resumed => true
  | .replayed _ => false

def ReexecutionKind.isCompatible : ReexecutionKind → Bool
  | .resumed => false
  | .replayed compatible => compatible

set_option maxRecDepth 8000 in
theorem reexecutions_useRecorded_handbook :
    ∃ sys reexecution, afterReexecution "handbook" = some sys ∧
      reexecution ∈ sys.reexecutions ∧ reexecution.UsesRecorded := by
  have performed : (afterReexecution "handbook").any (fun sys =>
      sys.reexecutions.any (fun reexecution =>
        reexecution.kind.isResumed && (resolveCorpus handbookEnvironment reexecution.source.registry
                reexecution.source.retrieval =
              handbookEnvironment.defaultRagCorpus &&
            !reexecution.source.losesMockPlan handbookEnvironment))) =
        true := by
    decide
  obtain ⟨sys, reached, found⟩ := (Option.any_eq_true _ _).mp performed
  obtain ⟨reexecution, mem, recoverable⟩ := List.any_eq_true.mp found
  refine ⟨sys, reexecution, reached, mem,
    (reexecutions_useRecorded_iff (Execution.of_perform reached) reexecution mem).mpr ?_⟩
  rw [Bool.and_eq_true, Bool.and_eq_true, decide_eq_true_eq, Bool.not_eq_true'] at recoverable
  obtain ⟨isResumed, isDefault, keepsPlan⟩ := recoverable
  rw [Reexecution.IsRecoverable]
  cases kind : reexecution.kind with
  | resumed =>
    exact ⟨isDefault, keepsPlan⟩
  | replayed compatible =>
    rw [kind] at isResumed
    cases isResumed

set_option maxRecDepth 8000 in
/-- A run on the runbook is replayed on the handbook, and the versions are
reported to be compatible. -/
theorem replay_usesOther : ¬ ∀ (env : CorpusEnvironment) (steps : List ReexecutionStep)
      (sys : StoredExecutions), Execution (stepsOf (StoredExecutions.next env)) .initial steps sys →
      ∀ reexecution ∈ sys.reexecutions, reexecution.UsesRecorded := by
  intro claim
  have performed : (afterReexecution "runbook").any (fun sys =>
      sys.reexecutions.any (fun reexecution =>
        reexecution.kind.isCompatible && decide (reexecution.prepared.corpus ≠
            reexecution.source.prepared.corpus))) = true := by
    decide
  obtain ⟨sys, reached, found⟩ := (Option.any_eq_true _ _).mp performed
  obtain ⟨reexecution, mem, differs⟩ := List.any_eq_true.mp found
  have uses := claim handbookEnvironment (reexecutedSteps "runbook") sys
    (Execution.of_perform reached) reexecution mem
  rw [Bool.and_eq_true, decide_eq_true_eq] at differs
  obtain ⟨isCompatible, isOther⟩ := differs
  rw [Reexecution.UsesRecorded] at uses
  cases kind : reexecution.kind with
  | resumed =>
    rw [kind] at isCompatible
    cases isCompatible
  | replayed compatible =>
    rw [kind] at uses isCompatible
    exact isOther (uses isCompatible).corpus

end ModelAtlas.Agent
