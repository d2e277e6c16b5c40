import Mathlib.Data.List.Sort
import ModelAtlas.Foundations.JsonTexts
import ModelAtlas.Foundations.Yields

/-!
# Case packs

`contracts.py` and `cases.py` of `reference_workload`, with the evidence and the
semantic contract of a case.  The approval of a case is in the review ledger; the
body of a case has a review of its own, which its hash leaves out.
-/

namespace ModelAtlas.CasePacks

open Foundations

inductive ReviewStatus where
  | draft
  | approved
  | rejected
  deriving DecidableEq, Repr

structure CaseReview where
  status : ReviewStatus
  (reviewer reviewedAt notes : Option String)
  deriving DecidableEq

inductive CaseCategory where
  | ragSingleDocument
  | ragMultiDocument
  | ragVersionOrScope
  | insufficientEvidenceRefusal
  | toolSingleStep
  | toolFailureRecovery
  | ragToolCombined
  | agentMultiStep
  deriving DecidableEq, Repr

namespace CaseCategory

def text : CaseCategory → String
  | ragSingleDocument => "rag_single_document"
  | ragMultiDocument => "rag_multi_document"
  | ragVersionOrScope => "rag_version_or_scope"
  | insufficientEvidenceRefusal => "insufficient_evidence_refusal"
  | toolSingleStep => "tool_single_step"
  | toolFailureRecovery => "tool_failure_recovery"
  | ragToolCombined => "rag_tool_combined"
  | agentMultiStep => "agent_multi_step"

/-- `category.startswith("rag_")`. -/
def isRag : CaseCategory → Bool
  | ragSingleDocument => true
  | ragMultiDocument => true
  | ragVersionOrScope => true
  | ragToolCombined => true
  | _ => false

/-- `category.startswith("tool_")`. -/
def isTool : CaseCategory → Bool
  | toolSingleStep => true
  | toolFailureRecovery => true
  | _ => false

end CaseCategory

inductive Criticality where
  | critical
  | standard
  | exploratory
  deriving DecidableEq, Repr

def Criticality.text : Criticality → String
  | critical => "critical"
  | standard => "standard"
  | exploratory => "exploratory"

structure ReferenceCase where
  externalCaseId : String
  category : CaseCategory
  title : String
  inputPayload : Json
  (expectedOutput referenceContext expectedToolSchema : Option Json)
  criticality : Criticality
  weight : Rat
  review : CaseReview
  tags : List String
  deriving DecidableEq

/-- `case.model_dump(mode="json", exclude={"review"})`. -/
def ReferenceCase.body (case : ReferenceCase) : Json :=
  .obj
    [("schema_version", .str "model-atlas-reference-case-v1"),
      ("external_case_id", .str case.externalCaseId),
      ("category", .str case.category.text),
      ("title", .str case.title),
      ("input_payload", case.inputPayload),
      ("expected_output", case.expectedOutput.getD .null),
      ("reference_context", case.referenceContext.getD .null),
      ("expected_tool_schema", case.expectedToolSchema.getD .null),
      ("criticality", .str case.criticality.text),
      ("weight", .float case.weight),
      ("tags", .arr (case.tags.map Json.str))]

/-- `CaseReviewDecisionContract`; the decision is approved or rejected. -/
structure CaseReviewDecision where
  (externalCaseId caseSha256 : String)
  approves : Bool
  (reviewer reviewedAt notes : String)
  deriving DecidableEq

def CaseReviewDecision.status (decision : CaseReviewDecision) : ReviewStatus :=
  if decision.approves then .approved else .rejected

def strippedTexts (items : List Json) : Option (List String) :=
  items.mapM (fun item =>
    match item with
    | .str text => if pyStrip text = "" then none else some (pyStrip text)
    | _ => none)

def chunkIdList (value : Option Json) (fieldName : String) : Except String (List String) :=
  match value with
  | some (.arr items) =>
    match strippedTexts items with
    | none => .error (fieldName ++ " must contain only non-empty strings")
    | some chunkIds =>
      if chunkIds.Nodup then .ok chunkIds
      else .error (fieldName ++ " must contain unique chunk IDs")
  | _ => .error (fieldName ++ " must be a list")

structure RagEvidenceExpectation where
  contractVersion : String
  primaryChunkIds : List String
  acceptableGroups : List (List String)

def RagEvidenceExpectation.acceptableChunkIds
    (expectation : RagEvidenceExpectation) : List String :=
  expectation.acceptableGroups.flatten.eraseDups

def legacyEvidenceVersion : String := "rag-evidence-contract-v1"

def anyOfEvidenceVersion : String := "rag-evidence-contract-v2"

/-- `value.get(name) is None`. -/
def isAbsent (value : Option Json) : Bool :=
  match value with
  | none => true
  | some .null => true
  | some _ => false

def parseRagEvidenceExpectation (ragContract : Json) : Except String RagEvidenceExpectation := do
  let primary ← chunkIdList (ragContract.get? "relevant_chunk_ids")
    "relevant_chunk_ids"
  if primary.isEmpty then
    throw "relevant_chunk_ids must contain at least one chunk ID"
  let declared := ragContract.get? "evidence_contract_version"
  match ragContract.get? "acceptable_evidence_groups" with
  | some (.arr groups) =>
    if !Json.isText declared anyOfEvidenceVersion then
      throw ("acceptable_evidence_groups require evidence_contract_version " ++
        "rag-evidence-contract-v2")
    if groups.isEmpty then
      throw "acceptable_evidence_groups must contain at least one group"
    let parsed ← groups.zipIdx.mapM (fun group => chunkIdList (some group.1)
      ("acceptable_evidence_groups[" ++ toString group.2 ++ "]"))
    if parsed.any List.isEmpty then
      throw "acceptable evidence groups may not be empty"
    if !decide parsed.Nodup then
      throw "acceptable evidence groups must be unique"
    if parsed.head? ≠ some primary then
      throw ("the first acceptable evidence group must equal " ++
        "relevant_chunk_ids")
    return ⟨anyOfEvidenceVersion, primary, parsed⟩
  | groups =>
    if isAbsent groups then
      if !(isAbsent declared || Json.isText declared legacyEvidenceVersion) then
        throw ("acceptable_evidence_groups are required for " ++
          "rag-evidence-contract-v2")
      return ⟨legacyEvidenceVersion, primary, [primary]⟩
    if !Json.isText declared anyOfEvidenceVersion then
      throw ("acceptable_evidence_groups require evidence_contract_version " ++
        "rag-evidence-contract-v2")
    throw "acceptable_evidence_groups must contain at least one group"

def stringTuple (value : Option Json) (fieldName : String) : Except String (List String) :=
  if isAbsent value then .ok []
  else
    match value with
    | some (.arr items) =>
      match strippedTexts items with
      | none => .error (fieldName ++ " must be a list of non-empty strings")
      | some texts =>
        if texts.Nodup then .ok texts
        else .error (fieldName ++ " must be unique")
    | _ => .error (fieldName ++ " must be a list of non-empty strings")

def legacySemanticVersion : String := "rag-semantic-contract-v1"

def anyOfSemanticVersion : String := "rag-semantic-contract-v2"

/-- The checks of `parse_rag_semantic_expectation`. -/
def checkRagSemanticExpectation (payload : Json) : Except String Unit := do
  let requiredFacts ← stringTuple (payload.get? "required_facts")
    "required_facts"
  let _ ← stringTuple (payload.get? "forbidden_claims") "forbidden_claims"
  let declared := payload.get? "semantic_contract_version"
  let groupsPayload := payload.get? "acceptable_required_fact_groups"
  if isAbsent groupsPayload then
    if !(isAbsent declared || Json.isText declared legacySemanticVersion) then
      throw ("acceptable_required_fact_groups are required for " ++
        "rag-semantic-contract-v2")
    return ()
  if !Json.isText declared anyOfSemanticVersion then
    throw ("acceptable_required_fact_groups require semantic_contract_version " ++
      "rag-semantic-contract-v2")
  if requiredFacts.isEmpty then
    throw "rag-semantic-contract-v2 requires primary required_facts"
  match groupsPayload with
  | some (.arr groups) =>
    if groups.isEmpty then
      throw "acceptable_required_fact_groups must be a non-empty list"
    let parsed ← groups.mapM (fun group => stringTuple (some group)
      "acceptable_required_fact_groups item")
    if parsed.any List.isEmpty then
      throw "acceptable required-fact groups may not be empty"
    if parsed.head? ≠ some requiredFacts then
      throw ("the first acceptable required-fact group must equal " ++
        "required_facts")
    if !decide parsed.Nodup then
      throw "acceptable required-fact groups must be unique"
  | _ => throw "acceptable_required_fact_groups must be a non-empty list"

def isFilled (value : Option Json) : Bool :=
  match value with
  | some (.str text) => pyStrip text ≠ ""
  | _ => false

/-- `reference_context.get("rag")` of a case. -/
def ReferenceCase.rag (case : ReferenceCase) : Option Json :=
  case.referenceContext.bind (fun reference => reference.get? "rag")

def validateCaseShape (case : ReferenceCase) : Except String Unit := do
  if !(["query", "request", "question"].any (fun key =>
      isFilled (case.inputPayload.get? key))) then
    throw "a reference case requires a non-empty query, request, or question"
  if case.category.isRag then
    let rag := case.rag.getD .null
    if !rag.isObject then
      throw "RAG cases require reference_context.rag"
    if (rag.items "relevant_chunk_ids").isEmpty then
      throw "RAG cases require at least one relevant chunk ID"
    let _ ← (parseRagEvidenceExpectation rag).mapError
      (fun raised => "invalid RAG evidence contract: " ++ raised)
  match case.expectedOutput with
  | some (.obj members) =>
    let _ ← (checkRagSemanticExpectation (.obj members)).mapError
      (fun raised => "invalid RAG semantic contract: " ++ raised)
  | _ => pure ()
  if case.category.isTool && case.expectedToolSchema.isNone then
    throw "Tool cases require expected_tool_schema"

end ModelAtlas.CasePacks
