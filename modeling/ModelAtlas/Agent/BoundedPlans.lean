import ModelAtlas.Agent.Corpora
import ModelAtlas.Foundations.JsonTexts

/-!
# Bounded plans

`compile_bounded_agent_plan` narrows the plan of a model to one retrieval, the
allowed tool and an answer, and leaves a plan that it made as it is.
-/

namespace ModelAtlas.Agent

open Foundations Approval

variable {output : String}

section Arguments

variable {env : CorpusEnvironment}

def requiredNames (env : CorpusEnvironment) (tool : RegisteredTool) : List String :=
  (tool.argumentSchema.items "required").map
    (Json.pyStr env.agent.text.render)

def namedMembers (source : Json) (names : List String) : List (String × Json) :=
  names.filterMap (fun name =>
    (source.get? name).map (fun value => (name, value)))

theorem get?_namedMembers (source : Json) {names : List String} {name : String}
    (mem : name ∈ names) :
    (Json.obj (namedMembers source names)).get? name = source.get? name := by
  induction names with
  | nil => cases mem
  | cons head rest ih =>
    rw [Json.get?, namedMembers]
    by_cases same : head = name
    · cases found : source.get? head with
      | some value =>
        rw [List.filterMap_cons_some (by rw [found]; rfl)]
        rw [← same, found]
        simp
      | none =>
        rw [List.filterMap_cons_none (by rw [found]; rfl), ← same, found]
        rw [Option.map_eq_none_iff, List.find?_eq_none]
        intro entry isEntry
        obtain ⟨other, -, isOther⟩ := List.mem_filterMap.mp isEntry
        obtain ⟨value, present, rfl⟩ := Option.map_eq_some_iff.mp isOther
        intro isHead
        have sameName : other = head := of_decide_eq_true isHead
        rw [sameName, found] at present
        cases present
    · have inRest : name ∈ rest := by
        rcases List.mem_cons.mp mem with first | later
        · exact absurd first.symm same
        · exact later
      have ofRest := ih inRest
      rw [Json.get?, namedMembers] at ofRest
      cases found : source.get? head with
      | some value =>
        rw [List.filterMap_cons_some (by rw [found]; rfl), List.find?_cons]
        simp only [same, decide_false]
        exact ofRest
      | none =>
        rw [List.filterMap_cons_none (by rw [found]; rfl)]
        exact ofRest

theorem namedMembers_idempotent (source : Json) (names : List String) :
    namedMembers (.obj (namedMembers source names)) names = namedMembers source names := by
  apply List.filterMap_congr
  intro name mem
  rw [get?_namedMembers source mem]

theorem requiredArguments_eq_some {tool : RegisteredTool} {source arguments : Json} :
    requiredArguments env tool source = some arguments ↔
      arguments = .obj (namedMembers source (requiredNames env tool)) ∧
        validateJsonSchema env.agent.text.render
          (requiredSchema tool.argumentSchema (requiredNames env tool))
          arguments "$" = [] := by
  rw [requiredArguments]
  change (if (validateJsonSchema env.agent.text.render
      (requiredSchema tool.argumentSchema (requiredNames env tool))
      (.obj (namedMembers source (requiredNames env tool))) "$").isEmpty
    then some (Json.obj (namedMembers source (requiredNames env tool)))
    else none) = some arguments ↔ _
  constructor
  · intro chosen
    split at chosen
    · next valid =>
        rw [← Option.some.inj chosen]
        exact ⟨rfl, List.isEmpty_iff.mp valid⟩
    · cases chosen
  · rintro ⟨rfl, valid⟩
    rw [if_pos (List.isEmpty_iff.mpr valid)]

theorem requiredArguments_idempotent {tool : RegisteredTool} {source arguments : Json}
    (compiled : requiredArguments env tool source = some arguments) :
    requiredArguments env tool arguments = some arguments := by
  obtain ⟨isArguments, valid⟩ := requiredArguments_eq_some.mp compiled
  apply requiredArguments_eq_some.mpr
  refine ⟨?_, valid⟩
  rw [isArguments, namedMembers_idempotent]

end Arguments

section Schemas

variable {render : Json → String}

def closedSchema (required : List Json) (properties : List (String × Json)) :
    Json :=
  .obj [("type", .str "object"), ("required", .arr required),
    ("properties", .obj properties), ("additionalProperties", .bool false)]

theorem validate_closedSchema (required : List Json)
    (properties members : List (String × Json)) (path : String) :
    validateJsonSchema render (closedSchema required properties) (.obj members) path =
      requiredErrors render (closedSchema required properties) (.obj members) path ++
        childrenErrors render properties (.obj members) path ++
        additionalErrors (closedSchema required properties) (.obj members)
          path := by
  have isObject : mismatchedType render (closedSchema required properties)
      (.obj members) = none := by
    rfl
  have noValue : valueErrors render (closedSchema required properties)
      (.obj members) path = [] := by
    rfl
  rw [closedSchema] at isObject noValue ⊢
  rw [validateJsonSchema, isObject]
  dsimp only
  rw [noValue]
  simp [propertyErrors, childErrors, itemErrors]

theorem childrenErrors_absent {name : String} {value : Json} {path : String} :
    ∀ {others : List (String × Json)}, (∀ mem ∈ others, mem.1 ≠ name) →
      childrenErrors render others (.obj [(name, value)]) path = []
  | [], _ => by rw [childrenErrors]
  | (other, schema) :: rest, distinct => by
    have differs : ¬ name = other := by
      intro same
      exact distinct _ List.mem_cons_self same.symm
    have absent : (Json.obj [(name, value)]).get? other = none := by
      simp [Json.get?, differs]
    rw [childrenErrors, absent, childrenErrors_absent
      (fun mem isMem => distinct mem (List.mem_cons_of_mem _ isMem))]
    rfl

theorem validate_narrowed {name : String} {schema : Json} {others : List (String × Json)}
    {source : Json} (distinct : ∀ mem ∈ others, mem.1 ≠ name)
    (valid : validateJsonSchema render (closedSchema [.str name] [(name, schema)])
      (.obj (namedMembers source [name])) "$" = []) :
    validateJsonSchema render (closedSchema [.str name] ((name, schema) :: others))
      (.obj (namedMembers source [name])) "$" = [] := by
  rw [validate_closedSchema] at valid ⊢
  rw [List.append_eq_nil_iff, List.append_eq_nil_iff] at valid ⊢
  obtain ⟨⟨noMissing, children⟩, -⟩ := valid
  refine ⟨⟨noMissing, ?_⟩, ?_⟩
  · cases found : source.get? name with
    | none =>
      have missing : namedMembers source [name] = [] := by
        simp [namedMembers, found]
      rw [missing] at noMissing
      simp [requiredErrors, closedSchema, Json.items, Json.get?] at noMissing
    | some value =>
      have single : namedMembers source [name] = [(name, value)] := by
        simp [namedMembers, found]
      rw [single] at children ⊢
      rw [childrenErrors] at children ⊢
      rw [childrenErrors_absent distinct]
      rw [childrenErrors] at children
      exact children
  · have known : ∀ mem ∈ namedMembers source [name], mem.1 = name := by
      intro mem isMem
      obtain ⟨other, isName, isOther⟩ := List.mem_filterMap.mp isMem
      obtain ⟨value, -, rfl⟩ := Option.map_eq_some_iff.mp isOther
      exact List.mem_singleton.mp isName
    have noOther : ((namedMembers source [name]).map Prod.fst).filter
        (fun other => !(((name, schema) :: others).map Prod.fst).contains other) = [] := by
      rw [List.filter_eq_nil_iff]
      intro other isOther
      obtain ⟨mem, isMem, rfl⟩ := List.mem_map.mp isOther
      rw [known mem isMem]
      simp
    have properties : schemaProperties (closedSchema [.str name] ((name, schema) :: others)) =
          some ((name, schema) :: others) := by
      rfl
    have closed : (closedSchema [.str name] ((name, schema) :: others)).get?
        "additionalProperties" = some (.bool false) := by
      rfl
    rw [additionalErrors.eq_def, properties, closed]
    dsimp only
    rw [noOther]
    rfl

theorem text_of_valid {limit : Int} {value : Json} {path : String}
    (valid : validateJsonSchema render (textSchema limit) value path = []) :
    ∃ text, value = .str text := by
  rw [textSchema] at valid
  cases value with
  | str text => exact ⟨text, rfl⟩
  | _ =>
    rw [validateJsonSchema] at valid
    cases valid

theorem argument_of_required {env : CorpusEnvironment}
    {tool : RegisteredTool} {name : String} {limit : Int}
    {others : List (String × Json)} {source arguments : Json}
    (isSchema : tool.argumentSchema = closedSchema [.str name] ((name, textSchema limit) :: others))
    (distinct : ∀ mem ∈ others, mem.1 ≠ name)
    (compiled : requiredArguments env tool source = some arguments) :
    requiredNames env tool = [name] ∧ ∃ text, source.get? name = some (.str text) ∧
        arguments = .obj [(name, .str text)] ∧
        validateJsonSchema env.agent.text.render tool.argumentSchema
          arguments "$" = [] := by
  obtain ⟨isArguments, valid⟩ := requiredArguments_eq_some.mp compiled
  have names : requiredNames env tool = [name] := by
    rw [requiredNames, isSchema]
    rfl
  have required : requiredSchema tool.argumentSchema [name] =
      closedSchema [.str name] [(name, textSchema limit)] := by
    rw [isSchema]
    unfold requiredSchema
    simp [closedSchema, Json.objectOr, Json.get?, Json.setMember]
  rw [isArguments] at valid ⊢
  rw [names] at valid ⊢
  rw [required] at valid
  have narrowed := validate_narrowed distinct valid
  refine ⟨rfl, ?_⟩
  rw [validate_closedSchema, List.append_eq_nil_iff, List.append_eq_nil_iff] at valid
  obtain ⟨⟨noMissing, children⟩, -⟩ := valid
  cases found : source.get? name with
  | none =>
    have missing : namedMembers source [name] = [] := by
      simp [namedMembers, found]
    rw [missing] at noMissing
    simp [requiredErrors, closedSchema, Json.items, Json.get?] at noMissing
  | some value =>
    have single : namedMembers source [name] = [(name, value)] := by
      simp [namedMembers, found]
    rw [single] at children narrowed ⊢
    have present : (Json.obj [(name, value)]).get? name = some value := by
      simp [Json.get?]
    rw [childrenErrors, childrenErrors, List.append_nil, present] at children
    obtain ⟨text, isText⟩ := text_of_valid children
    rw [isText] at narrowed ⊢
    refine ⟨text, rfl, rfl, ?_⟩
    rw [isSchema]
    exact narrowed

theorem argument_of_registered {env : CorpusEnvironment} {toolName : String} {tool : RegisteredTool}
    {source arguments : Json} (registered : registeredTool? env.agent toolName = some tool)
    (compiled : requiredArguments env tool source = some arguments) :
    ∃ name text, requiredNames env tool = [name] ∧ source.get? name = some (.str text) ∧
      arguments = .obj [(name, .str text)] ∧
      validateJsonSchema env.agent.text.render tool.argumentSchema
        arguments "$" = [] := by
  have document : tool.argumentSchema = documentSchema →
      ∃ name text, requiredNames env tool = [name] ∧ source.get? name = some (.str text) ∧
        arguments = .obj [(name, .str text)] ∧
        validateJsonSchema env.agent.text.render tool.argumentSchema
          arguments "$" = [] := by
    intro isSchema
    obtain ⟨names, text, argument⟩ := @argument_of_required env tool
      "document_id" 160 [("simulate_failure", simulateFailureSchema)] source
      arguments isSchema (by simp) compiled
    exact ⟨"document_id", text, names, argument⟩
  have query : ∀ extra, tool.argumentSchema = querySchema extra →
      (∀ mem ∈ extra, mem.1 ≠ "query") →
      ∃ name text, requiredNames env tool = [name] ∧ source.get? name = some (.str text) ∧
        arguments = .obj [(name, .str text)] ∧
        validateJsonSchema env.agent.text.render tool.argumentSchema
          arguments "$" = [] := by
    intro extra isSchema distinct
    obtain ⟨names, text, argument⟩ := @argument_of_required env tool
      "query" 500 (("simulate_failure", simulateFailureSchema) :: extra) source
      arguments isSchema (by
        intro mem isMem
        rcases List.mem_cons.mp isMem with first | later
        · rw [first]
          simp
        · exact distinct mem later) compiled
    exact ⟨"query", text, names, argument⟩
  have mem := List.mem_of_find?_eq_some registered
  simp only [defaultToolRegistry, List.mem_cons, List.not_mem_nil, or_false] at mem
  rcases mem with isTool | isTool | isTool | isTool | isTool | isTool
  · exact document (by rw [isTool])
  · exact query [] (by rw [isTool]) (by simp)
  · exact query [] (by rw [isTool]) (by simp)
  · exact query _ (by rw [isTool]) (by simp)
  · exact query [] (by rw [isTool]) (by simp)
  · exact query [] (by rw [isTool]) (by simp)

end Schemas

theorem pyStrip_of_ends {text : String} {first last : Char}
    {middle : List Char} (isText : text.toList = first :: middle ++ [last])
    (solidFirst : isPySpace first = false) (solidLast : isPySpace last = false) :
    pyStrip text = text := by
  have front : (first :: middle ++ [last]).dropWhile isPySpace =
      first :: middle ++ [last] := by
    simp [solidFirst]
  have back : ((first :: middle ++ [last]).reverse).dropWhile isPySpace =
      (first :: middle ++ [last]).reverse := by
    simp [solidLast]
  rw [pyStrip, isText, front, back, List.reverse_reverse, ← isText, String.ofList_toList]

def defaultContent (toolName : String) : String :=
  "retrieve 후 " ++ toolName ++ " 실행, retrieve, tool, respond 순서 완료"

theorem defaultContent_ends (toolName : String) :
    ∃ middle, (defaultContent toolName).toList = 'r' :: middle ++ ['료'] := by
  have start : "retrieve 후 ".toList = 'r' :: "etrieve 후 ".toList := by
    decide +kernel
  have finish : " 실행, retrieve, tool, respond 순서 완료".toList =
      " 실행, retrieve, tool, respond 순서 완".toList ++ ['료'] := by
    decide +kernel
  refine ⟨"etrieve 후 ".toList ++ toolName.toList ++
    " 실행, retrieve, tool, respond 순서 완".toList, ?_⟩
  rw [defaultContent, String.toList_append, String.toList_append, start, finish]
  simp

theorem pyStrip_defaultContent (toolName : String) :
    pyStrip (defaultContent toolName) = defaultContent toolName := by
  obtain ⟨middle, isText⟩ := defaultContent_ends toolName
  exact pyStrip_of_ends isText (by decide) (by decide)

theorem defaultContent_ne_empty (toolName : String) :
    defaultContent toolName ≠ "" := by
  obtain ⟨middle, isText⟩ := defaultContent_ends toolName
  intro empty
  rw [empty] at isText
  cases isText

theorem pyOr_idempotent (configured own fallback : String) :
    pyOr configured (pyOr (pyOr configured (pyOr own fallback)) fallback) =
      pyOr configured (pyOr own fallback) := by
  by_cases isConfigured : configured = ""
  · by_cases isOwn : own = ""
    · by_cases isFallback : fallback = ""
      · simp [pyOr, isConfigured, isOwn, isFallback]
      · simp [pyOr, isConfigured, isOwn, isFallback]
    · simp [pyOr, isConfigured, isOwn]
  · simp [pyOr, isConfigured]

theorem pyStrip_pyOr {text fallback : String} (isText : pyStrip text = text)
    (isFallback : pyStrip fallback = fallback) :
    pyStrip (pyOr text fallback) = pyOr text fallback := by
  by_cases empty : text = ""
  · simp [pyOr, empty, isFallback]
  · simp [pyOr, empty, isText]

def boundedSteps (query toolName : String) (arguments : Json) (content : String) : List Json :=
  [.obj [("action", .str "retrieve"), ("query", .str query)],
    .obj [("action", .str "tool"), ("tool_name", .str toolName),
      ("arguments", arguments)],
    .obj [("action", .str "respond"), ("content", .str content)]]

def boundedPlan (query toolName : String) (arguments : Json) (content : String) : Json :=
  .obj [("steps", .arr (boundedSteps query toolName arguments content))]

section Plans

variable {env : CorpusEnvironment} {evalCase : AgentCase}
  {prepared : PreparedExecution}

/-- What the request asks, where neither the contract nor the plan has a query. -/
def requestText (env : CorpusEnvironment) (evalCase : AgentCase) : String :=
  let render := env.agent.text.render
  let payload := some (Json.obj evalCase.inputPayload)
  pyStrip (pyOr
    (Json.pyStrOrEmpty render (payload.bind (fun value => value.get? "request")))
    (pyOr
      (Json.pyStrOrEmpty render (payload.bind (fun value => value.get? "query")))
      evalCase.title))

def stepText (env : CorpusEnvironment) (steps : List Json) (action name : String) : String :=
  pyStrip (Json.pyStrOrEmpty env.agent.text.render
    ((firstStep steps action).bind (fun step => step.get? name)))

def planQuery (env : CorpusEnvironment) (evalCase : AgentCase)
    (configured : String) (steps : List Json) : String :=
  pyOr (pyStrip configured) (pyOr (stepText env steps "retrieve" "query")
    (requestText env evalCase))

def planContent (env : CorpusEnvironment) (toolName : String) (steps : List Json) : String :=
  pyOr (stepText env steps "respond" "content") (defaultContent toolName)

theorem compiledSteps_eq (configured toolName : String) (arguments : Json) (steps : List Json) :
    Json.obj [("steps", .arr (compiledSteps env evalCase configured
      toolName arguments steps))] =
      boundedPlan (planQuery env evalCase configured steps) toolName
        arguments (planContent env toolName steps) := by
  rfl

theorem pyStrip_planQuery (configured : String) (steps : List Json) :
    pyStrip (planQuery env evalCase configured steps) =
      planQuery env evalCase configured steps := by
  exact pyStrip_pyOr (pyStrip_pyStrip _) (pyStrip_pyOr (pyStrip_pyStrip _) (pyStrip_pyStrip _))

theorem pyStrip_planContent (toolName : String) (steps : List Json) :
    pyStrip (planContent env toolName steps) = planContent env toolName steps :=
  pyStrip_pyOr (pyStrip_pyStrip _) (pyStrip_defaultContent toolName)

theorem planContent_ne_empty (toolName : String) (steps : List Json) :
    planContent env toolName steps ≠ "" := by
  rw [planContent, pyOr]
  split
  · exact defaultContent_ne_empty toolName
  · next nonempty => exact nonempty

theorem stepText_boundedSteps (query toolName : String) (arguments : Json) (content : String) :
    stepText env (boundedSteps query toolName arguments content)
        "retrieve" "query" = pyStrip query ∧
      stepText env (boundedSteps query toolName arguments content)
        "respond" "content" = pyStrip content := by
  simp [stepText, firstStep, boundedSteps, Json.isText, Json.get?]

theorem find?_boundedSteps (query toolName : String) (arguments : Json) (content : String) :
    (boundedSteps query toolName arguments content).find? (fun step =>
        Json.isText (step.get? "action") "tool" &&
          Json.isText (step.get? "tool_name") toolName) =
      some (.obj [("action", .str "tool"), ("tool_name", .str toolName),
        ("arguments", arguments)]) := by
  simp [boundedSteps, Json.isText, Json.get?]

theorem actions_boundedSteps (query toolName : String) (arguments : Json) (content : String) :
    (boundedSteps query toolName arguments content).all Json.isObject = true ∧
      (boundedSteps query toolName arguments content).map (fun step =>
        Json.pyStrOrEmpty env.agent.text.render (step.get? "action")) =
          ["retrieve", "tool", "respond"] := by
  simp [boundedSteps, Json.isObject, Json.get?]

/-- What a plan is compiled from: a step that calls the allowed tool with the
argument that it requires. -/
structure CompiledFrom (env : CorpusEnvironment)
    (prepared : PreparedExecution) (payload : Json)
    (toolName name argument : String) : Prop where
  allowed : prepared.preparation.agentContext.allowedTools.head? = some toolName
  called : ∃ step ∈ payload.items "steps",
    Json.isText (step.get? "action") "tool" = true ∧
      Json.isText (step.get? "tool_name") toolName = true ∧
      ∃ source, step.get? "arguments" = some source ∧
        source.get? name = some (.str argument)
  valid : ∃ tool, registeredTool? env.agent toolName = some tool ∧
    requiredNames env tool = [name] ∧
    validateJsonSchema env.agent.text.render tool.argumentSchema
      (.obj [(name, .str argument)]) "$" = []

def Recompiles (env : CorpusEnvironment) (toolName : String) (arguments : Json) : Prop :=
  ∃ tool, registeredTool? env.agent toolName = some tool ∧
    requiredArguments env tool arguments = some arguments

theorem compiledPlan_bounded {payload plan : Json}
    (compiled : compiledPlan? env evalCase prepared payload = some plan) :
    ∃ toolName name argument steps, CompiledFrom env prepared payload toolName name argument ∧
        Recompiles env toolName (.obj [(name, .str argument)]) ∧
        plan = boundedPlan (planQuery env evalCase
          prepared.retrieval.query steps) toolName (.obj [(name, .str argument)])
          (planContent env toolName steps) := by
  rw [compiledPlan?] at compiled
  obtain ⟨toolName, allowed, compiled⟩ := Option.bind_eq_some_iff.mp compiled
  dsimp only at compiled
  split at compiled
  · next first rest isSteps =>
      rw [Option.bind_eq_bind, Option.bind_some] at compiled
      split at compiled
      · obtain ⟨step, found, compiled⟩ := Option.bind_eq_some_iff.mp compiled
        obtain ⟨tool, registered, compiled⟩ := Option.bind_eq_some_iff.mp compiled
        obtain ⟨source, isSource, compiled⟩ := Option.bind_eq_some_iff.mp compiled
        obtain ⟨arguments, required, compiled⟩ :=
          Option.bind_eq_some_iff.mp compiled
        obtain ⟨name, text, names, present, isArguments, valid⟩ :=
          argument_of_registered registered required
        have calls := List.find?_some found
        rw [Bool.and_eq_true] at calls
        have again := requiredArguments_idempotent required
        rw [isArguments] at again valid
        refine ⟨toolName, name, text, first :: rest, ⟨allowed, ?_, ?_⟩, ?_, ?_⟩
        · refine ⟨step, ?_, calls.1, calls.2, source, ?_, present⟩
          · rw [Json.items, isSteps]
            exact List.mem_of_find?_eq_some found
          · exact (Option.filter_eq_some_iff.mp isSource).1
        · exact ⟨tool, registered, names, valid⟩
        · exact ⟨tool, registered, again⟩
        · rw [← Option.some.inj compiled, isArguments]
          exact compiledSteps_eq _ _ _ _
      · cases compiled
  · cases compiled

theorem compiledPlan_boundedPlan {toolName name argument query content : String}
    (bounded : isBoundedContract prepared.preparation.agentContext = true)
    (allowed : prepared.preparation.agentContext.allowedTools.head? = some toolName)
    (recompiles : Recompiles env toolName (.obj [(name, .str argument)]))
    (strippedQuery : pyStrip query = query)
    (sameQuery : pyOr (pyStrip prepared.retrieval.query) (pyOr query
      (requestText env evalCase)) = query)
    (strippedContent : pyStrip content = content) (nonempty : content ≠ "") :
    compiledPlan? env evalCase prepared
        (boundedPlan query toolName (.obj [(name, .str argument)]) content) =
      some (boundedPlan query toolName (.obj [(name, .str argument)]) content) := by
  obtain ⟨tool, registered, required⟩ := recompiles
  have actions : ["retrieve", "tool", "respond"].all
      prepared.preparation.agentContext.allowedActions.contains = true := by
    simp only [isBoundedContract, Bool.and_eq_true] at bounded
    exact bounded.1.1.1.1.2
  have sameTexts := @stepText_boundedSteps env query toolName (.obj [(name, .str argument)]) content
  have isQuery : planQuery env evalCase prepared.retrieval.query
      (boundedSteps query toolName (.obj [(name, .str argument)]) content) =
        query := by
    rw [planQuery, sameTexts.1, strippedQuery, sameQuery]
  have isContent : planContent env toolName
      (boundedSteps query toolName (.obj [(name, .str argument)]) content) =
        content := by
    rw [planContent, sameTexts.2, strippedContent, pyOr, if_neg nonempty]
  have compiled := @compiledSteps_eq env evalCase
    prepared.retrieval.query toolName (.obj [(name, .str argument)])
    (boundedSteps query toolName (.obj [(name, .str argument)]) content)
  rw [isQuery, isContent] at compiled
  have sameActions := @actions_boundedSteps env query toolName
    (.obj [(name, .str argument)]) content
  have isSteps : (boundedPlan query toolName (.obj [(name, .str argument)])
      content).get? "steps" = some (.arr (boundedSteps query toolName
        (.obj [(name, .str argument)]) content)) := by
    rfl
  have called := find?_boundedSteps query toolName (.obj [(name, .str argument)]) content
  rw [compiledPlan?, allowed, isSteps, ← compiled]
  unfold boundedSteps at sameActions called ⊢
  dsimp only [bind, Option.bind]
  rw [sameActions.1, sameActions.2, actions, if_pos (by decide), called]
  dsimp only
  rw [registered]
  change (requiredArguments env tool (.obj [(name, .str argument)])).bind _ = _
  rw [required]
  rfl

theorem compiledPlan_idempotent {payload plan : Json}
    (bounded : isBoundedContract prepared.preparation.agentContext = true)
    (compiled : compiledPlan? env evalCase prepared payload = some plan) :
    compiledPlan? env evalCase prepared plan = some plan := by
  obtain ⟨toolName, name, argument, steps, source, recompiles, isPlan⟩ :=
    compiledPlan_bounded compiled
  rw [isPlan]
  exact compiledPlan_boundedPlan bounded source.allowed recompiles (pyStrip_planQuery _ _)
    (pyOr_idempotent _ _ _) (pyStrip_planContent _ _) (planContent_ne_empty _ _)

end Plans

section Compilation

variable {env : CorpusEnvironment} {evalCase : AgentCase}

def compiledOutput? (env : CorpusEnvironment) (evalCase : AgentCase) (prepared : PreparedExecution)
    (output : String) : Option Json :=
  if prepared.isEligible then
    (env.loads output).bind (compiledPlan? env evalCase prepared)
  else none

theorem compileBoundedAgentPlan_of_some {prepared : PreparedExecution}
    {plan : Json} (compiled : compiledOutput? env evalCase prepared output = some plan) :
    compileBoundedAgentPlan env evalCase prepared output = env.dumps plan := by
  rw [compiledOutput?] at compiled
  split at compiled
  · next eligible => rw [compileBoundedAgentPlan, if_pos eligible, compiled]
  · cases compiled

theorem compileBoundedAgentPlan_of_none {prepared : PreparedExecution}
    (unapplied : compiledOutput? env evalCase prepared output = none) :
    compileBoundedAgentPlan env evalCase prepared output =
      output := by
  rw [compiledOutput?] at unapplied
  rw [compileBoundedAgentPlan]
  split at unapplied
  · next eligible => rw [if_pos eligible, unapplied]
  · next ineligible => rw [if_neg ineligible]

theorem compiledOutput_dumps {prepared : PreparedExecution} {plan : Json}
    (compiled : compiledOutput? env evalCase prepared output = some plan)
    (readsBack : env.loads (env.dumps plan) = some plan) :
    compiledOutput? env evalCase prepared (env.dumps plan) = some plan := by
  rw [compiledOutput?] at compiled ⊢
  split at compiled
  · next eligible =>
      obtain ⟨payload, -, isPlan⟩ := Option.bind_eq_some_iff.mp compiled
      have bounded := eligible
      rw [PreparedExecution.isEligible, Bool.and_eq_true] at bounded
      rw [if_pos eligible, readsBack, Option.bind_some]
      exact compiledPlan_idempotent bounded.2 isPlan
  · cases compiled

theorem compiledPlan_congr {first second : PreparedExecution}
    (sameContext : first.preparation.agentContext = second.preparation.agentContext)
    (sameQuery : first.retrieval.query = second.retrieval.query) :
    compiledPlan? env evalCase first = compiledPlan? env evalCase second := by
  funext payload
  rw [compiledPlan?, compiledPlan?, sameContext, sameQuery]

theorem compileBoundedAgentPlan_resumed {reg resumedRegistry : Option RagCorpusRegistry}
    {isMock : Bool} {retrieval resumedRetrieval : Json} {decisions resumedDecisions : Option Json}
    {first resumed : PreparedExecution}
    (isFirst : prepareExecution env reg isMock retrieval evalCase decisions = some first)
    (eligible : first.isEligible = true) (isResumed : prepareExecution env resumedRegistry false
      resumedRetrieval evalCase resumedDecisions = some resumed) :
    compileBoundedAgentPlan env evalCase resumed = compileBoundedAgentPlan env evalCase first := by
  obtain ⟨firstContext, -, firstRetrieval, -⟩ := prepareExecution_eq_some isFirst
  obtain ⟨ctx, -, isRetrieval, input⟩ := prepareExecution_eq_some isResumed
  have sameContext : resumed.preparation.agentContext =
      first.preparation.agentContext := by
    rw [ctx, firstContext]
  have sameQuery : resumed.retrieval.query = first.retrieval.query := by
    rw [isRetrieval, firstRetrieval]
    rfl
  have stillEligible : resumed.isEligible = true := by
    rw [PreparedExecution.isEligible, Bool.and_eq_true] at eligible ⊢
    rw [sameContext, input, hasMockPlan_adapterInput]
    exact ⟨rfl, eligible.2⟩
  funext output
  rw [compileBoundedAgentPlan, compileBoundedAgentPlan, if_pos stillEligible,
    if_pos eligible, compiledPlan_congr sameContext sameQuery]

/-- Where the compilation of an eligible case applies, its plan is one retrieval, one call of
the allowed tool with a step's argument and one answer, and compiles into itself; elsewhere the
output is kept. -/
theorem compileBoundedAgentPlan_idempotent {reg : Option RagCorpusRegistry} {isMock : Bool}
    {retrieval : Json} {decisions : Option Json} {prepared : PreparedExecution} {output : String}
    (isPrepared : prepareExecution env reg isMock retrieval evalCase decisions = some prepared)
    (eligible : prepared.isEligible = true)
    (readsBack : ∀ plan, compiledOutput? env evalCase prepared output = some plan →
        env.loads (env.dumps plan) = some plan) :
    (∀ plan, compiledOutput? env evalCase prepared output = some plan →
      (∃ payload query toolName name argument content, env.loads output = some payload ∧
          prepared.preparation.agentContext.allowedTools = [toolName] ∧
          CompiledFrom env prepared payload toolName name argument ∧
          plan = boundedPlan query toolName (.obj [(name, .str argument)]) content) ∧
        compileBoundedAgentPlan env evalCase prepared output = env.dumps plan ∧
        compileBoundedAgentPlan env evalCase prepared (env.dumps plan) = env.dumps plan) ∧
      (compiledOutput? env evalCase prepared output = none →
        compileBoundedAgentPlan env evalCase prepared output = output) ∧
      ∀ resumedRegistry resumedRetrieval resumedDecisions resumed,
        prepareExecution env resumedRegistry false resumedRetrieval
          evalCase resumedDecisions = some resumed →
        compileBoundedAgentPlan env evalCase resumed
            (compileBoundedAgentPlan env evalCase prepared output) =
          compileBoundedAgentPlan env evalCase prepared output := by
  refine ⟨?_, compileBoundedAgentPlan_of_none, ?_⟩
  · intro plan compiled
    have dumped := compiledOutput_dumps compiled (readsBack plan compiled)
    refine ⟨?_, compileBoundedAgentPlan_of_some compiled, compileBoundedAgentPlan_of_some dumped⟩
    rw [compiledOutput?, if_pos eligible] at compiled
    obtain ⟨payload, read, isPlan⟩ := Option.bind_eq_some_iff.mp compiled
    obtain ⟨toolName, name, argument, steps, source, -, isPlan⟩ :=
      compiledPlan_bounded isPlan
    have single : prepared.preparation.agentContext.allowedTools.length = 1 := by
      simp only [PreparedExecution.isEligible, isBoundedContract,
        Bool.and_eq_true, decide_eq_true_eq] at eligible
      exact eligible.2.1.1.1.2
    obtain ⟨allowed, isAllowed⟩ := List.length_eq_one_iff.mp single
    have sameTool := source.allowed
    rw [isAllowed, List.head?_cons] at sameTool
    rw [Option.some.inj sameTool] at isAllowed
    exact ⟨payload, _, toolName, name, argument, _, read, isAllowed, source, isPlan⟩
  · intro resumedRegistry resumedRetrieval resumedDecisions resumed isResumed
    rw [compileBoundedAgentPlan_resumed isPrepared eligible isResumed]
    cases compiled : compiledOutput? env evalCase prepared output with
    | none =>
      rw [compileBoundedAgentPlan_of_none compiled, compileBoundedAgentPlan_of_none compiled]
    | some plan =>
      rw [compileBoundedAgentPlan_of_some compiled]
      exact compileBoundedAgentPlan_of_some
        (compiledOutput_dumps compiled (readsBack plan compiled))

end Compilation

def policyOutput : String :=
  "\x7b\"steps\":[\x7b\"action\":\"tool\",\"tool_name\":\"lookup_policy\"," ++
    "\"arguments\":\x7b\"query\":\"leave\",\"simulate_failure\":" ++
    "\"timeout\"\x7d\x7d]\x7d"

def policyPayload : Json :=
  .obj [("steps", .arr [.obj [("action", .str "tool"),
    ("tool_name", .str "lookup_policy"),
    ("arguments", .obj [("query", .str "leave"),
      ("simulate_failure", .str "timeout")])]])]

def policyPlan : Json :=
  boundedPlan "Find the policy" "lookup_policy" (.obj [("query", .str "leave")])
    "retrieve 후 lookup_policy 실행, retrieve, tool, respond 순서 완료"

def policyPlanText : String :=
  "\x7b\"steps\":[\x7b\"action\":\"retrieve\",\"query\":\"Find the policy\"\x7d," ++
    "\x7b\"action\":\"tool\",\"tool_name\":\"lookup_policy\",\"arguments\":" ++
    "\x7b\"query\":\"leave\"\x7d\x7d,\x7b\"action\":\"respond\",\"content\":" ++
    "\"retrieve 후 lookup_policy 실행, retrieve, tool, respond 순서 완료\"\x7d]\x7d"

def policyCorpora : CorpusEnvironment where
  agent := smallEnvironment.toAgentEnvironment
  defaultRagCorpus := ⟨"handbook", "v1", "hash", []⟩
  retrieveFrom _ _ _ _ := ⟨"empty", true, .null⟩
  loads text :=
    if text = policyOutput then some policyPayload
    else if text = policyPlanText then some policyPlan
    else none
  dumps plan := if plan = policyPlan then policyPlanText else ""

def policyCase : AgentCase where
  externalCaseId := "case"
  category := "agent"
  reference := .obj [("agent", .obj
    [("max_steps", .int 3), ("max_tool_calls", .int 1),
      ("max_retrievals", .int 1),
      ("allowed_tools", .arr [.str "lookup_policy"]),
      ("allowed_actions", .arr
        [.str "retrieve", .str "tool", .str "respond"])])]
  title := "Find the policy"
  inputPayload := []

theorem compileBoundedAgentPlan_idempotent_policy :
    ∃ prepared, prepareExecution policyCorpora none false .null policyCase none = some prepared ∧
      compileBoundedAgentPlan policyCorpora policyCase prepared policyOutput = policyPlanText ∧
      compileBoundedAgentPlan policyCorpora policyCase prepared policyPlanText =
        policyPlanText := by
  have computed : (prepareExecution policyCorpora none false .null policyCase
      none).any (fun prepared => prepared.isEligible && decide
        (compiledOutput? policyCorpora policyCase prepared policyOutput =
          some policyPlan)) = true := by
    decide +kernel
  obtain ⟨prepared, isPrepared, checked⟩ := (Option.any_eq_true _ _).mp computed
  rw [Bool.and_eq_true, decide_eq_true_eq] at checked
  obtain ⟨eligible, compiled⟩ := checked
  have written : policyCorpora.dumps policyPlan = policyPlanText := by
    change (if policyPlan = policyPlan then policyPlanText else "") = _
    rw [if_pos rfl]
  have readsBack : ∀ plan, compiledOutput? policyCorpora policyCase prepared
      policyOutput = some plan → policyCorpora.loads (policyCorpora.dumps plan) = some plan := by
    intro plan isPlan
    rw [compiled] at isPlan
    have read : decide (policyCorpora.loads policyPlanText = some policyPlan) =
        true := by
      decide +kernel
    rw [← Option.some.inj isPlan, written]
    exact of_decide_eq_true read
  obtain ⟨applied, -, -⟩ :=
    compileBoundedAgentPlan_idempotent isPrepared eligible readsBack
  obtain ⟨-, first, again⟩ := applied policyPlan compiled
  rw [written] at first again
  exact ⟨prepared, isPrepared, first, again⟩

end ModelAtlas.Agent
