import ModelAtlas.Agent.Corpora
import ModelAtlas.Rag.SemanticContracts

/-!
# Retrieval and the scoring of an output

`retrieve` of `rag_pipeline/retrieval.py` and `evaluate_rag_output` of
`rag_pipeline/scoring.py`.  A quotient of counts is not rounded here; the score
of a chunk is, by a function that is taken from outside.
-/

namespace ModelAtlas.Rag

open Foundations CasePacks

structure RagEnvironment extends RagTextEnvironment where
  /-- `round(value, 6)` of floats. -/
  roundScore : Rat → Rat
  /-- `json.loads`, and nothing where it raises. -/
  loads : String → Option Json

/-- `max` of `_EvidenceContractMatch` by coverage: the group, its position and
its coverage. -/
def matchEvidence (groups : List (List String)) (observed : List String) :
    Option ((List String × Nat) × Rat) :=
  bestOf (fun group : List String × Nat =>
    (group.1.countP (fun chunkId => observed.contains chunkId) : Rat) / group.1.length)
    groups.zipIdx

/-- `match(...).satisfied`. -/
def evidenceSatisfied (groups : List (List String)) (observed : List String) : Bool :=
  (matchEvidence groups observed).any (fun best => best.2 = 1)

structure RetrievedChunk where
  rank : Nat
  (chunkId documentId title text : String)
  score : Rat

/-- `RagRetrievalTrace`, with what the scoring reads. -/
structure RagRetrievalTrace where
  evidenceContractVersion : String
  expectedRelevantChunkIds : List String
  acceptableEvidenceGroups : List (List String)
  retrievedChunks : List RetrievedChunk
  retrievalContractSatisfied : Bool
  status : String

structure RetrievalRequest where
  query : String
  relevantChunkIds : List String
  acceptableEvidenceGroups : Option (List (List String))
  evidenceContractVersion : Option String
  topK : Nat
  minScore : Rat

def textArray (texts : List String) : Json := .arr (texts.map .str)

def groupArray (groups : List (List String)) : Json := .arr (groups.map textArray)

def RetrievalRequest.payload (req : RetrievalRequest) : Json :=
  .obj ([("relevant_chunk_ids", textArray req.relevantChunkIds)] ++
    match req.acceptableEvidenceGroups with
    | none => []
    | some groups =>
      [("evidence_contract_version",
          .str (pyOr (req.evidenceContractVersion.getD "") anyOfEvidenceVersion)),
        ("acceptable_evidence_groups", groupArray groups)])

section Retrieval

variable (env : RagEnvironment)

def retrievalScore (query : String) (chunk : Agent.RagChunk) : Rat :=
  let queryTokens := (tokens env.toRagTextEnvironment query).dedup
  let chunkTokens := (tokens env.toRagTextEnvironment (chunk.title ++ " " ++ chunk.text)).dedup
  let overlap := queryTokens.countP (fun token => chunkTokens.contains token)
  if queryTokens = [] ∨ overlap = 0 then 0
  else env.roundScore (9 / 10 * (overlap / queryTokens.length : Rat) +
    1 / 10 * (overlap / max 1 chunkTokens.length : Rat))

def retrieve (corpus : Agent.RagCorpus) (req : RetrievalRequest) :
    Except String RagRetrievalTrace := do
  let expectation ← parseRagEvidenceExpectation req.payload
  let scored := (corpus.chunks.map (fun chunk =>
    (retrievalScore env req.query chunk, chunk))).filter (fun chunk =>
      req.minScore ≤ chunk.1)
  let ordered := scored.insertionSort (fun left right =>
    right.1 < left.1 ∨ (left.1 = right.1 ∧ left.2.chunkId ≤ right.2.chunkId))
  let retrieved := ((ordered.take req.topK).zipIdx 1).map (fun chunk =>
    (⟨chunk.2, chunk.1.2.chunkId, chunk.1.2.documentId, chunk.1.2.title, chunk.1.2.text,
      chunk.1.1⟩ : RetrievedChunk))
  return {
    evidenceContractVersion := expectation.contractVersion
    expectedRelevantChunkIds := req.relevantChunkIds
    acceptableEvidenceGroups := expectation.acceptableGroups
    retrievedChunks := retrieved
    retrievalContractSatisfied := evidenceSatisfied expectation.acceptableGroups
      (retrieved.map RetrievedChunk.chunkId)
    status := if retrieved.isEmpty then "empty" else "success" }

end Retrieval

/-- `retrieved_by_id.get(chunk_id)`: the last chunk with the id. -/
def RagRetrievalTrace.chunk? (trace : RagRetrievalTrace) (chunkId : String) :
    Option RetrievedChunk :=
  trace.retrievedChunks.reverse.find? (fun chunk => chunk.chunkId = chunkId)

/-- What `evaluate_rag_output` parses again. -/
def RagRetrievalTrace.payload (trace : RagRetrievalTrace) : Json :=
  .obj ([("evidence_contract_version", .str trace.evidenceContractVersion),
      ("relevant_chunk_ids", textArray trace.expectedRelevantChunkIds)] ++
    if trace.evidenceContractVersion = anyOfEvidenceVersion then
      [("acceptable_evidence_groups", groupArray trace.acceptableEvidenceGroups)]
    else [])

/-- `RagEvaluationTrace`, without the rounded figures. -/
structure RagEvaluationTrace where
  (successful outputValid : Bool)
  outputError : Option String
  answer : String
  (citations claims invalidCitations correctCitations : List String)
  (citationPrecision : Rat)
  citationContractSatisfied : Bool
  claimSupportScores : List Rat
  unsupportedClaimCount : Nat
  (unsupportedClaimRate groundedness : Rat)
  semantic : SemanticEvaluation
  answerContractSatisfied : Bool

section Scoring

variable (env : RagEnvironment)

def citationsOf (value : Option Json) : List String :=
  match value with
  | some (.arr items) => items.filterMap (fun item =>
    match item with
    | .str text => if pyStrip text = "" then none else some (pyStrip text)
    | .obj members =>
      let named := [(Json.obj members).get? "chunk_id", (Json.obj members).get? "id"].filterMap
        (fun found => found.filter Json.truthy)
      named.head?.map (Json.pyStr env.render)
    | _ => none)
  | _ => []

def claimsOf (value : Option Json) : List String :=
  match value with
  | some (.arr items) =>
    (items.map (fun item => pyStrip (item.pyStr env.render))).filter (fun text => text ≠ "")
  | _ => []

def answerOf (value : Json) : String :=
  pyStrip (Json.pyStrOrEmpty env.render (value.get? "answer"))

/-- `_claim_support_score`, of one text. -/
def supportScore (claim text : String) : Rat :=
  let claimTokens := tokens env.toRagTextEnvironment claim
  if claimTokens = [] then 0
  else if pyContains (env.lower text) (env.lower claim) ||
      pyContains (env.lower claim) (env.lower text) then 1
  else coverage claimTokens (tokens env.toRagTextEnvironment text)

def claimSupportScore (claim : String) (citedTexts : List String) : Rat :=
  (citedTexts.map (supportScore env claim)).foldl max 0

def evaluateRagOutput (normalizedOutput : String) (retrieval : RagRetrievalTrace)
    (expectedOutput answerContract : Option Json) : Except String RagEvaluationTrace := do
  let parsed := env.loads normalizedOutput
  let object := (parsed.filter Json.isObject).getD (.obj [])
  let answer := answerOf env object
  let citations := citationsOf env (object.get? "citations")
  let claims := claimsOf env (object.get? "claims")
  let outputValid := answer ≠ "" && !citations.isEmpty && !claims.isEmpty
  let outputError :=
    if parsed.isNone then some "output is not valid JSON"
    else if outputValid then none
    else some "output requires non-empty answer, citations, and claims"
  let expectation ← parseRagEvidenceExpectation retrieval.payload
  let correct := citations.filter (fun citation =>
    (retrieval.chunk? citation).isSome && expectation.acceptableGroups.flatten.contains citation)
  let precision : Rat := if citations.isEmpty then 0
    else correct.dedup.length / citations.dedup.length
  let citedTexts := citations.filterMap (fun citation =>
    (retrieval.chunk? citation).map RetrievedChunk.text)
  let scores := claims.map (fun claim => claimSupportScore env claim citedTexts)
  let unsupported := scores.countP (fun score => score < 3 / 5)
  let unsupportedRate : Rat := if claims.isEmpty then 1 else unsupported / claims.length
  let groundedness : Rat := if scores.isEmpty then 0 else scores.sum / scores.length
  let semanticExpectation ← parseRagSemanticExpectation
    ((expectedOutput.filter Json.isObject).getD (.obj []))
  let semantic := evaluateSemanticContract env.toRagTextEnvironment semanticExpectation answer
    claims
  let expectedAnswer := ((answerContract.filter Json.isObject).map (answerOf env)).getD ""
  let invalid := citations.filter (fun citation => (retrieval.chunk? citation).isNone)
  let answerSatisfied := expectedAnswer = "" || answer = expectedAnswer
  let satisfied := evidenceSatisfied expectation.acceptableGroups correct
  return {
    successful := outputValid && retrieval.status = "success" &&
      retrieval.retrievalContractSatisfied && 1 ≤ precision && satisfied && 4 / 5 ≤ groundedness &&
      unsupportedRate = 0 && invalid.isEmpty && semantic.satisfied && answerSatisfied
    outputValid := outputValid
    outputError := outputError
    answer := answer
    citations := citations
    claims := claims
    invalidCitations := invalid
    correctCitations := correct
    citationPrecision := precision
    citationContractSatisfied := satisfied
    claimSupportScores := scores
    unsupportedClaimCount := unsupported
    unsupportedClaimRate := unsupportedRate
    groundedness := groundedness
    semantic := semantic
    answerContractSatisfied := answerSatisfied }

end Scoring

end ModelAtlas.Rag
