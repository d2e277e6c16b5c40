import Mathlib.Algebra.Order.Ring.Unbundled.Rat
import ModelAtlas.Foundations.Execution
import ModelAtlas.Foundations.Table
import ModelAtlas.Labels.ScoreTiers

/-!
# Writers of scores and labels

The execution of a result, `services/judge_label_import.py`,
`services/judge_label_decisions.py`, and `_apply_persisted_decisions` of
`services/agent_control_plane.py`.
-/

namespace ModelAtlas.Labels

open Foundations
open Approval (TextEnvironment)

structure Scores where
  (qualityScore groundednessScore faithfulnessScore : Option Rat)
  humanLabel : Option String
  deriving DecidableEq

def Scores.isEmpty (scores : Scores) : Bool :=
  scores.qualityScore.isNone && scores.groundednessScore.isNone &&
    scores.faithfulnessScore.isNone && scores.humanLabel.isNone

def Scores.override (stored given : Scores) : Scores where
  qualityScore := given.qualityScore.or stored.qualityScore
  groundednessScore := given.groundednessScore.or stored.groundednessScore
  faithfulnessScore := given.faithfulnessScore.or stored.faithfulnessScore
  humanLabel := given.humanLabel.or stored.humanLabel

/-- The last operation that wrote a score or the label of a result. -/
inductive Writer where
  | executed
  /-- A revision, and whether the result it was made of was human reviewed. -/
  | revised (fromReviewed : Bool)
  /-- An import, and whether the result carried marks of a review. -/
  | imported (identity : Option SignerIdentity) (source : String)
      (overMarks : Bool)
  | decided (identity : SignerIdentity)

/-- `writer` is no column: it records who wrote the scores last. -/
structure BenchmarkResult where
  (id benchmarkRunId : Uuid)
  (evaluationCaseId parentBenchmarkResultId : Option Uuid)
  sampleId : String
  scores : Scores
  metadata : Metadata
  writer : Writer

instance : Keyed BenchmarkResult Uuid where
  key := BenchmarkResult.id

inductive DecisionType where
  | approvedCandidate
  | overridden
  | rejected
  deriving DecidableEq, Repr

structure JudgeLabelReviewDecision where
  (id benchmarkResultId : Uuid)
  evaluationCaseId : Option Uuid
  decisionType : DecisionType
  candidateLabelHash : Option String
  priorScores : Scores
  appliedScores : Option Scores
  applied : Bool
  reviewerIdentity : SignerIdentity
  identityVerified : Bool
  rationale : String
  criticality : Option String
  reviewedAt : Time
  reviewHash : String

instance : Keyed JudgeLabelReviewDecision Uuid where
  key := JudgeLabelReviewDecision.id

/-- What `review_hash` is taken of. -/
structure ReviewPayload where
  benchmarkResultId : Uuid
  decisionType : DecisionType
  candidateLabelHash : Option String
  appliedScores : Option Scores
  reviewerIdentity : SignerIdentity
  rationale : String

/-- Text operations, `float()` of a text, `isoformat` and the hashes. -/
structure LabelEnvironment where
  text : TextEnvironment
  readFloat : String → Option Rat
  isoformat : Time → String
  candidateHash : Json → String
  reviewHash : ReviewPayload → String

structure LabelStore where
  results : Table BenchmarkResult
  decisions : Table JudgeLabelReviewDecision
  uuids : Uuid
  resultsDrawn : ∀ res ∈ results, res.id < uuids
  decisionsDrawn : ∀ decision ∈ decisions, decision.id < uuids

namespace LabelStore

def empty : LabelStore where
  results := ∅
  decisions := ∅
  uuids := 0
  resultsDrawn res mem := absurd mem (Table.not_mem_empty res)
  decisionsDrawn decision mem :=
    absurd mem (Table.not_mem_empty decision)

def insertResult (store : LabelStore) (res : BenchmarkResult)
    (drawn : res.id = store.uuids) : LabelStore where
  results := store.results.insert res (fun other mem => by
    have older := store.resultsDrawn other mem
    rw [← drawn] at older
    exact Nat.ne_of_lt older)
  decisions := store.decisions
  uuids := store.uuids + 1
  resultsDrawn other mem := by
    rcases Table.mem_insert.mp mem with old | rfl
    · exact Nat.lt_succ_of_lt (store.resultsDrawn other old)
    · rw [drawn]
      exact Nat.lt_succ_self _
  decisionsDrawn decision mem :=
    Nat.lt_succ_of_lt (store.decisionsDrawn decision mem)

def insertDecision (store : LabelStore) (decision : JudgeLabelReviewDecision)
    (drawn : decision.id = store.uuids) : LabelStore where
  results := store.results
  decisions := store.decisions.insert decision (fun other mem => by
    have older := store.decisionsDrawn other mem
    rw [← drawn] at older
    exact Nat.ne_of_lt older)
  uuids := store.uuids + 1
  resultsDrawn res mem :=
    Nat.lt_succ_of_lt (store.resultsDrawn res mem)
  decisionsDrawn other mem := by
    rcases Table.mem_insert.mp mem with old | rfl
    · exact Nat.lt_succ_of_lt (store.decisionsDrawn other old)
    · rw [drawn]
      exact Nat.lt_succ_self _

def modifyResult (store : LabelStore) (resultId : Uuid) (change : BenchmarkResult → BenchmarkResult)
    (keeps : ∀ res, (change res).id = res.id) : LabelStore where
  results := store.results.modify resultId change keeps
  decisions := store.decisions
  uuids := store.uuids
  resultsDrawn res mem := by
    rcases Table.mem_modify.mp mem with ⟨old, oldMem, _, rfl⟩ | ⟨old, _⟩
    · rw [keeps]
      exact store.resultsDrawn old oldMem
    · exact store.resultsDrawn res old
  decisionsDrawn := store.decisionsDrawn

theorem mem_insertResult {store : LabelStore} {res other : BenchmarkResult}
    {drawn : res.id = store.uuids} :
    other ∈ (store.insertResult res drawn).results ↔ other ∈ store.results ∨ other = res := by
  rw [insertResult, Table.mem_insert]

theorem mem_insertDecision {store : LabelStore} {decision other : JudgeLabelReviewDecision}
    {drawn : decision.id = store.uuids} :
    other ∈ (store.insertDecision decision drawn).decisions ↔
      other ∈ store.decisions ∨ other = decision := by
  rw [insertDecision, Table.mem_insert]

theorem mem_modifyResult {store : LabelStore} {resultId : Uuid}
    {change : BenchmarkResult → BenchmarkResult}
    {keeps : ∀ res, (change res).id = res.id}
    {res : BenchmarkResult} :
    res ∈ (store.modifyResult resultId change keeps).results ↔
      (∃ old ∈ store.results, old.id = resultId ∧ change old = res) ∨
        (res ∈ store.results ∧ res.id ≠ resultId) := by
  rw [modifyResult, Table.mem_modify]
  exact Iff.rfl

end LabelStore

/-- The keys of the metadata that an adapter, an attached evaluation, the
scorers and the benchmark execution write. -/
def executionKeys : List String :=
  ["adapter", "adapter_descriptor", "seed", "mock",
    "reliability_error_message", "response_id", "base_url", "model",
    "tool_call_contract", "tool_selection_prompt", "tool_argument_generation",
    "paired_quote_contract", "agent_plan_compilation", "agent_execution",
    "operational_memory_registry", "rag_evaluation", "rag_corpus",
    "retriever_descriptor", "evidence_selector_descriptor",
    "rag_evidence_contract_descriptor", "rag_semantic_contract_descriptor",
    "rag_answer_contract_descriptor", "tool_execution", "tool_registry",
    "runtime_reliability", "scorer", "adapter_name", "evaluation_case_id"]

structure ExecutedCase where
  (benchmarkRunId evaluationCaseId : Uuid)
  sampleId : String
  scores : Scores
  written : Metadata

def executedResult (id : Uuid) (executed : ExecutedCase) : BenchmarkResult where
  id := id
  benchmarkRunId := executed.benchmarkRunId
  evaluationCaseId := some executed.evaluationCaseId
  parentBenchmarkResultId := none
  sampleId := executed.sampleId
  scores := executed.scores
  metadata name :=
    if executionKeys.contains name then executed.written name else none
  writer := .executed

/-- A row of a judge label file, with the texts of `_optional_text`. -/
structure JudgeLabelRow where
  sampleId : Option String
  scores : Scores
  (judgeSource judgeModel : Option String)

structure JudgeLabel where
  sampleId : String
  scores : Scores
  judgeSource : String
  judgeModel : Option String

/-- `score < 0 or score > 1`. -/
def outOfRange (score : Option Rat) : Bool :=
  score.any (fun value => value < 0 || value > 1)

def normalizeLabel (row : JudgeLabelRow) : Except String JudgeLabel :=
  match row.sampleId with
  | none => .error "row is missing sample_id"
  | some sampleId =>
    if outOfRange row.scores.qualityScore then
      .error "quality_score must be between 0 and 1"
    else if outOfRange row.scores.groundednessScore then
      .error "groundedness_score must be between 0 and 1"
    else if outOfRange row.scores.faithfulnessScore then
      .error "faithfulness_score must be between 0 and 1"
    else if row.scores.isEmpty then
      .error "row does not contain any judge label values"
    else .ok ⟨sampleId, row.scores, row.judgeSource.getD "imported",
      row.judgeModel⟩

/-- `SignerIdentity.to_json`. -/
def identityJson (identity : SignerIdentity) : Json :=
  .obj [("subject_id", .str identity.subjectId),
    ("display_name", .str identity.displayName),
    ("role", Json.optionText identity.role),
    ("identity_provider", .str identity.identityProvider),
    ("auth_source", .str identity.authSource),
    ("identity_verified", .bool identity.identityVerified),
    ("ticket_reference", Json.optionText identity.ticketReference)]

def judgeLabelImportVersion : String := "judge-label-import-v1"

/-- The `judge_label` of an import. -/
def importedLabel (label : JudgeLabel) (identity : Option SignerIdentity) :
    Json :=
  .obj ([("version", .str judgeLabelImportVersion),
    ("source", .str label.judgeSource),
    ("judge_model", Json.optionText label.judgeModel),
    ("applied", .bool true)] ++
    match identity with
    | some reviewer =>
      [("human_reviewed", .bool true), ("reviewer_type", .str "human"),
        ("reviewer_identity", identityJson reviewer)]
    | none => [])

def applyLabel (label : JudgeLabel) (identity : Option SignerIdentity)
    (res : BenchmarkResult) : BenchmarkResult :=
  let labelled := Function.update res.metadata "judge_label"
    (some (importedLabel label identity))
  { res with
    scores := res.scores.override label.scores
    metadata :=
      match identity with
      | some _ => Function.update labelled "human_reviewed" (some (.bool true))
      | none => labelled
    writer := .imported identity label.judgeSource (hasReviewMarks res.metadata) }

/-- `result_by_sample.get(sample_id)`: a later result of a sample stands for an
earlier one. -/
def resultBySample (store : LabelStore) (benchmarkRunId : Uuid)
    (sampleId : String) : Option BenchmarkResult :=
  (store.results.rows.filter
    (fun res => res.benchmarkRunId = benchmarkRunId)).reverse.find?
      (fun res => res.sampleId = sampleId)

/-- The loop of `import_judge_label_rows`, where the labels are applied. -/
def applyLabels (benchmarkRunId : Uuid) (identity : Option SignerIdentity) :
    List JudgeLabel → LabelStore → LabelStore
  | [], store => store
  | label :: rest, store =>
    applyLabels benchmarkRunId identity rest
      (match resultBySample store benchmarkRunId label.sampleId with
      | none => store
      | some res => store.modifyResult res.id (applyLabel label identity) (fun _ => rfl))

def importJudgeLabelRows (store : LabelStore) (benchmarkRunId : Uuid) (rows : List JudgeLabelRow)
    (applies : Bool) (identity : Option SignerIdentity) : Except String LabelStore :=
  match rows.mapM normalizeLabel with
  | .error reason => .error reason
  | .ok labels =>
    if ¬(labels.map JudgeLabel.sampleId).Nodup then
      .error "duplicate sample_id values"
    else if applies then .ok (applyLabels benchmarkRunId identity labels store)
    else .ok store

section Decisions

variable (env : LabelEnvironment)

def judgeReviewRoles : List String :=
  ["admin", "ml engineer", "ml ops lead", "model governance", "qa lead"]

/-- `assert_judge_reviewer`: nothing where the identity may review. -/
def judgeReviewerError (identity : SignerIdentity) : Option String :=
  let role := env.text.lower (pyStrip (identity.role.getD ""))
  if !identity.identityVerified then
    some "judge label application requires verified identity"
  else if !(judgeReviewRoles.contains role) then
    some "operator role cannot review judge labels"
  else none

/-- `float(value)`. -/
def readScore (value : Json) : Option Rat :=
  match value with
  | .bool flag => some (if flag then 1 else 0)
  | .int stored => some stored
  | .float stored => some stored
  | .str text => env.readFloat text
  | _ => none

def candidateScore (candidate : Json) (name : String) : Except String (Option Rat) :=
  match candidate.get? name with
  | none | some .null => .ok none
  | some value =>
    match readScore env value with
    | none => .error ("candidate " ++ name ++ " is invalid")
    | some score =>
      if 0 ≤ score ∧ score ≤ 1 then .ok (some score)
      else .error ("candidate " ++ name ++ " must be between 0 and 1")

def candidateText (candidate : Json) (name : String) : Option String :=
  match candidate.get? name with
  | none | some .null => none
  | some value =>
    let normalized := pyStrip (value.pyStr env.text.render)
    if normalized = "" then none else some (pyClip 120 normalized)

structure ReviewDecisionCreate where
  benchmarkResultId : Uuid
  decisionType : DecisionType
  scores : Scores
  rationale : String

/-- `validate_decision_values`. -/
def decisionValuesError (payload : ReviewDecisionCreate) : Option String :=
  if payload.decisionType = .overridden ∧ payload.scores.isEmpty then
    some "overridden review requires at least one label value"
  else if payload.decisionType ≠ .overridden ∧ !payload.scores.isEmpty then
    some "label values are only accepted for an overridden review"
  else none

def reviewScores (payload : ReviewDecisionCreate) (candidate : Json) :
    Except String (Option Scores) :=
  match payload.decisionType with
  | .rejected => .ok none
  | .overridden => .ok (some payload.scores)
  | .approvedCandidate =>
    if !candidate.truthy then .error "candidate judge labels were not found"
    else do
      let quality ← candidateScore env candidate "quality_score"
      let groundedness ←
        candidateScore env candidate "groundedness_score"
      let faithfulness ←
        candidateScore env candidate "faithfulness_score"
      let scores : Scores := ⟨quality, groundedness, faithfulness,
        candidateText env candidate "human_label"⟩
      if scores.isEmpty then
        .error "candidate judge labels do not contain label values"
      else .ok (some scores)

/-- `_assert_separation_of_duties`. -/
def separationOfDutiesError (candidate : Json) (identity : SignerIdentity) : Option String :=
  let named := fun name =>
    Json.pyStrOrEmpty env.text.render (candidate.get? name)
  let subject := pyStrip
    (pyOr (named "judge_subject_id") (named "reviewer_subject_id"))
  if subject ≠ "" ∧ subject = identity.subjectId then
    some "candidate judge and approving reviewer must be different identities"
  else none

def judgeReviewDecisionVersion : String := "judge-label-review-decision-v1"

/-- The `judge_label` of a decision. -/
def decidedLabel (candidate : Json) (decision : JudgeLabelReviewDecision) :
    Json :=
  .obj [("version", .str judgeReviewDecisionVersion),
    ("source", .str (if decision.decisionType = .approvedCandidate then
      "reviewed_candidate" else "manual_review")),
    ("candidate_source", (candidate.get? "judge_source").getD .null),
    ("applied", .bool true), ("human_reviewed", .bool true),
    ("reviewer_type", .str "human"), ("review_hash", .str decision.reviewHash),
    ("reviewed_at", .str (env.isoformat decision.reviewedAt)),
    ("reviewer_identity", identityJson decision.reviewerIdentity)]

def applyReviewedScores (candidate : Json) (decision : JudgeLabelReviewDecision)
    (scores : Scores) (res : BenchmarkResult) : BenchmarkResult :=
  let labelled := Function.update res.metadata "judge_label"
    (some (decidedLabel env candidate decision))
  let marked := Function.update labelled "human_reviewed" (some (.bool true))
  { res with
    scores := res.scores.override scores
    metadata := Function.update marked "human_review" (some (.obj
      [("reviewed", .bool true), ("review_hash", .str decision.reviewHash),
        ("reviewer_identity", identityJson decision.reviewerIdentity)]))
    writer := .decided decision.reviewerIdentity }

def newDecision (store : LabelStore) (payload : ReviewDecisionCreate)
    (evalCase : Option EvaluationCase) (identity : SignerIdentity)
    (now : Time) (res : BenchmarkResult) (scores : Option Scores) :
    JudgeLabelReviewDecision :=
  let candidate := candidateJudgeLabels evalCase
  let candidateHash := if candidate.truthy then
    some (env.candidateHash candidate) else none
  let rationale := pyStrip payload.rationale
  { id := store.uuids
    benchmarkResultId := res.id
    evaluationCaseId := res.evaluationCaseId
    decisionType := payload.decisionType
    candidateLabelHash := candidateHash
    priorScores := res.scores
    appliedScores := scores
    applied := scores.isSome
    reviewerIdentity := identity
    identityVerified := true
    rationale := rationale
    criticality := evalCase.bind EvaluationCase.criticality
    reviewedAt := now
    reviewHash := env.reviewHash
      { benchmarkResultId := res.id
        decisionType := payload.decisionType
        candidateLabelHash := candidateHash
        appliedScores := scores
        reviewerIdentity := identity
        rationale := rationale } }

def recordDecision (store : LabelStore) (candidate : Json)
    (decision : JudgeLabelReviewDecision) (drawn : decision.id = store.uuids) :
    LabelStore :=
  match decision.appliedScores with
  | none => store.insertDecision decision drawn
  | some scores =>
    (store.modifyResult decision.benchmarkResultId
      (applyReviewedScores env candidate decision scores)
      (fun _ => rfl)).insertDecision decision drawn

/-- `create_judge_label_review_decision`, which locks the row of the result. -/
def createReviewDecision (store : LabelStore) (payload : ReviewDecisionCreate)
    (evalCase : Option EvaluationCase) (identity : SignerIdentity)
    (now : Time) : Except String LabelStore :=
  match judgeReviewerError env identity with
  | some reason => .error reason
  | none =>
    match store.results.find? payload.benchmarkResultId with
    | none => .error "benchmark_result was not found"
    | some res =>
      let candidate := candidateJudgeLabels evalCase
      match separationOfDutiesError env candidate identity with
      | some reason => .error reason
      | none =>
        match reviewScores env payload candidate with
        | .error reason => .error reason
        | .ok scores =>
          let decision := newDecision env store payload evalCase identity now res scores
          if store.decisions.rows.any (fun existing =>
            existing.reviewHash = decision.reviewHash) then .ok store
          else if scores.isSome && store.decisions.rows.any
              (fun prior => prior.benchmarkResultId = res.id && prior.applied) then
            .error ("benchmark result already has an applied " ++
              "reviewed-label decision")
          else .ok (recordDecision env store candidate decision
            rfl)

end Decisions

/-- What a checkpoint denied or resumed computes for a result: the traces and
the scores of the domain scorer. -/
structure Recomputation where
  benchmarkRunId : Uuid
  (qualityScore groundednessScore faithfulnessScore : Rat)
  written : Metadata

def recomputedKeys : List String :=
  ["agent_execution", "agent_control_plane", "operational_memory_registry",
    "scorer"]

def revisionKeys : List String :=
  ["agent_plan_compilation", "agent_execution", "operational_memory_registry",
    "scorer", "agent_control_plane"]

def passThreshold : Rat := 4 / 5

/-- The label of `score_case_result`: one that is there is kept. -/
def scoredLabel (humanLabel : Option String) (quality : Rat) : String :=
  match humanLabel with
  | none | some "captured-needs-scoring" =>
    if passThreshold ≤ quality then "heuristic-pass" else "heuristic-fail"
  | some label => label

/-- `_apply_persisted_decisions`. -/
def revisedResult (text : TextEnvironment) (id : Uuid)
    (recomputed : Recomputation) (res : BenchmarkResult) :
    BenchmarkResult where
  id := id
  benchmarkRunId := recomputed.benchmarkRunId
  evaluationCaseId := res.evaluationCaseId
  parentBenchmarkResultId := some res.id
  sampleId := res.sampleId
  scores :=
    { qualityScore := some recomputed.qualityScore
      groundednessScore := some recomputed.groundednessScore
      faithfulnessScore := some recomputed.faithfulnessScore
      humanLabel := some (scoredLabel res.scores.humanLabel recomputed.qualityScore) }
  metadata name :=
    if revisionKeys.contains name then recomputed.written name
    else if recomputedKeys.contains name then none
    else res.metadata name
  writer := .revised (hasExplicitHumanReview text res.metadata)

inductive LabelStep where
  | execute (executed : ExecutedCase)
  /-- `POST /judge-labels/import`. -/
  | importContent (benchmarkRunId : Uuid) (rows : List JudgeLabelRow)
      (applies : Bool) (actor : SignerIdentity)
  /-- The script `import_judge_labels`, which has no reviewer. -/
  | importFile (benchmarkRunId : Uuid) (rows : List JudgeLabelRow)
      (applies : Bool)
  /-- `POST /judge-labels/review-decisions`, and the case as it is read. -/
  | decide (payload : ReviewDecisionCreate)
      (evalCase : Option EvaluationCase) (actor : SignerIdentity)
      (now : Time)
  /-- A checkpoint of the result is denied or resumed. -/
  | revise (resultId : Uuid) (recomputed : Recomputation)

namespace LabelStore

variable (env : LabelEnvironment) (store : LabelStore)

/-- What a step makes of the tables, or how it fails. -/
def outcome : LabelStep → Except String LabelStore
  | .execute executed =>
    .ok (store.insertResult (executedResult store.uuids executed) rfl)
  | .importContent benchmarkRunId rows applies actor =>
    match if applies then judgeReviewerError env actor else none with
    | some reason => .error reason
    | none => importJudgeLabelRows store benchmarkRunId rows applies
        (if applies then some actor else none)
  | .importFile benchmarkRunId rows applies =>
    importJudgeLabelRows store benchmarkRunId rows applies none
  | .decide payload evalCase actor now =>
    match decisionValuesError payload with
    | some reason => .error reason
    | none =>
      createReviewDecision env store payload evalCase actor now
  | .revise resultId recomputed =>
    match store.results.find? resultId with
    | none => .error "agent approval checkpoint was not found"
    | some res =>
      if res.evaluationCaseId.isNone then
        .error ("agent resume requires an evaluation case and deployment " ++
          "configuration")
      else .ok (store.insertResult (revisedResult env.text store.uuids recomputed res) rfl)

def next (step : LabelStep) : Option LabelStore :=
  match store.outcome env step with
  | .ok after => some after
  | .error _ => some store

end LabelStore

end ModelAtlas.Labels
