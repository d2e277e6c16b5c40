import ModelAtlas.CasePacks.Contracts
import ModelAtlas.Foundations.Outcomes

/-!
# Reviewed packs

`cases.py` of `reference_workload`: the cases and the review ledger of a pack are
read, every decision is checked against the hash of its case and the approved
cases are counted.
-/

namespace ModelAtlas.CasePacks

open Foundations

variable {decisions : List CaseReviewDecision}

/-- The hashes of `manifest.py` and the texts of the files of a pack.  The readers
cover JSON and the contract models. -/
structure PackEnvironment where
  fileSha256 : String → String
  stableHash : Json → String
  parseObject : String → Except String (List (String × Json))
  serializeObject : List (String × Json) → String
  parseCases : String → Except String (List ReferenceCase)
  serializeCases : List ReferenceCase → String
  parseReviews : String → Except String (List CaseReviewDecision)
  serializeReviews : List CaseReviewDecision → String
  /-- The lines of a ledger with those of new decisions. -/
  appendReviews : String → List CaseReviewDecision → String

section Loading

variable (env : PackEnvironment)

def referenceCaseHash (case : ReferenceCase) : String :=
  env.stableHash case.body

/-- The ids that occur more than once. -/
def duplicateIds (identifiers : List String) : List String :=
  ((identifiers.filter (fun identifier => 1 < identifiers.count identifier)).dedup
    ).insertionSort (· ≤ ·)

def loadCaseContracts (text : String) : Except String (List ReferenceCase) := do
  let cases ← env.parseCases text
  let identifiers := cases.map ReferenceCase.externalCaseId
  if !decide identifiers.Nodup then
    throw ("duplicate reference case IDs: " ++
      String.intercalate ", " (duplicateIds identifiers))
  return cases

def loadReviewDecisions (text : String) : Except String (List CaseReviewDecision) := do
  let decisions ← env.parseReviews text
  let identifiers := decisions.map CaseReviewDecision.externalCaseId
  if !decide identifiers.Nodup then
    throw ("duplicate case review IDs: " ++
      String.intercalate ", " (duplicateIds identifiers))
  return decisions

def decisionFor (decisions : List CaseReviewDecision) (externalCaseId : String) :
    Option CaseReviewDecision :=
  decisions.find? (fun decision => decision.externalCaseId = externalCaseId)

def ReferenceCase.reviewedBy (case : ReferenceCase)
    (decision : CaseReviewDecision) : ReferenceCase :=
  { case with
    review :=
      { status := decision.status
        reviewer := some decision.reviewer
        reviewedAt := some decision.reviewedAt
        notes := some decision.notes } }

/-- One round of `_apply_review_decisions`. -/
def applyDecision (decisions : List CaseReviewDecision) (case : ReferenceCase) :
    Except String ReferenceCase :=
  match decisionFor decisions case.externalCaseId with
  | none => .ok case
  | some decision =>
    if decision.caseSha256 ≠ referenceCaseHash env case then
      .error ("review hash mismatch for " ++ case.externalCaseId ++
        ": expected " ++ decision.caseSha256 ++ ", observed " ++
        referenceCaseHash env case)
    else .ok (case.reviewedBy decision)

def applyReviewDecisions (cases : List ReferenceCase)
    (decisions : List CaseReviewDecision) : Except String (List ReferenceCase) := do
  let unknown := (decisions.map CaseReviewDecision.externalCaseId).filter
    (fun identifier => !(cases.any (fun case => case.externalCaseId = identifier)))
  if !unknown.isEmpty then
    throw ("reviews reference unknown case IDs: " ++
      String.intercalate ", " (unknown.insertionSort (· ≤ ·)))
  cases.mapM (applyDecision env decisions)

structure RagChunk where
  (chunkId documentId title : String)
  evidence : Json

/-- What a pack needs of `ReferenceCorpusBundle`. -/
structure ReferenceCorpusBundle where
  chunks : List RagChunk
  (corpusId corpusVersion : String)
  (minimumActiveCases minimumCriticalCases : Nat)

def requiredCategoryCounts : List (CaseCategory × Nat) :=
  [(.ragSingleDocument, 12), (.ragMultiDocument, 10), (.ragVersionOrScope, 6),
    (.insufficientEvidenceRefusal, 8), (.toolSingleStep, 10),
    (.toolFailureRecovery, 6), (.ragToolCombined, 6), (.agentMultiStep, 6)]

def requiredCriticalCategoryCounts : List (CaseCategory × Nat) :=
  [(.ragSingleDocument, 2), (.ragMultiDocument, 3), (.ragVersionOrScope, 3),
    (.insufficientEvidenceRefusal, 4), (.toolSingleStep, 2),
    (.toolFailureRecovery, 2), (.ragToolCombined, 3), (.agentMultiStep, 1)]

structure PackCheck where
  checkId : String
  (observed required : Nat)

def PackCheck.passed (check : PackCheck) : Bool :=
  check.required ≤ check.observed

structure ReferenceCasePack where
  cases : List ReferenceCase
  checks : List PackCheck

/-- `review.status == "approved"`. -/
def ReferenceCase.isApproved (case : ReferenceCase) : Bool :=
  case.review.status = .approved

namespace ReferenceCasePack

def approvedCases (pack : ReferenceCasePack) : List ReferenceCase :=
  pack.cases.filter ReferenceCase.isApproved

def portfolioReady (pack : ReferenceCasePack) : Bool :=
  pack.checks.all PackCheck.passed

end ReferenceCasePack

def checkCaseCorpus (bundle : ReferenceCorpusBundle) (case : ReferenceCase) :
    Except String Unit := do
  let rag := case.rag.getD .null
  if !rag.isObject then
    return ()
  let expectation ← (parseRagEvidenceExpectation rag).mapError (fun raised =>
    "case " ++ case.externalCaseId ++ " has an invalid RAG evidence contract: " ++
      raised)
  let missing := expectation.acceptableChunkIds.filter (fun chunkId =>
    !(bundle.chunks.any (fun chunk => chunk.chunkId = chunkId)))
  if !missing.isEmpty then
    throw ("case " ++ case.externalCaseId ++ " references unknown chunks: " ++
      String.intercalate ", " (missing.insertionSort (· ≤ ·)))
  if !Json.isText (rag.get? "corpus_id") bundle.corpusId then
    throw ("case " ++ case.externalCaseId ++ " references a different corpus ID")
  if !Json.isText (rag.get? "corpus_version") bundle.corpusVersion then
    throw ("case " ++ case.externalCaseId ++
      " references a different corpus version")

/-- `checks` of `validate_case_pack`. -/
def packChecks (bundle : ReferenceCorpusBundle) (cases : List ReferenceCase) : List PackCheck :=
  let approved := cases.filter ReferenceCase.isApproved
  let critical := approved.filter (fun case => case.criticality = .critical)
  [⟨"approved_active_cases", approved.length, bundle.minimumActiveCases⟩,
    ⟨"approved_critical_cases", critical.length, bundle.minimumCriticalCases⟩] ++
  requiredCategoryCounts.map (fun required =>
    ⟨"approved_category:" ++ required.1.text,
      approved.countP (fun case => case.category = required.1), required.2⟩) ++
  requiredCriticalCategoryCounts.map (fun required =>
    ⟨"approved_critical_category:" ++ required.1.text,
      critical.countP (fun case => case.category = required.1), required.2⟩)

def validateCasePack (bundle : ReferenceCorpusBundle)
    (cases : List ReferenceCase) : Except String ReferenceCasePack := do
  cases.forM (checkCaseCorpus bundle)
  return ⟨cases, packChecks bundle cases⟩

/-- `load_reference_case_pack`, from the texts of the cases and of the ledger. -/
def loadReferenceCasePack (bundle : ReferenceCorpusBundle)
    (casesText reviewsText : String) : Except String ReferenceCasePack := do
  let cases ← loadCaseContracts env casesText
  let decisions ← loadReviewDecisions env reviewsText
  let reviewed ← applyReviewDecisions env cases decisions
  validateCasePack bundle reviewed

end Loading

section Approved

variable {env : PackEnvironment}

def ApprovedBy (env : PackEnvironment)
    (decisions : List CaseReviewDecision) (case : ReferenceCase) : Prop :=
  ∃ decision ∈ decisions, decision.externalCaseId = case.externalCaseId ∧ decision.approves = true ∧
    decision.caseSha256 = referenceCaseHash env case

theorem decisionFor_eq_some {externalCaseId : String} {decision : CaseReviewDecision}
    (found : decisionFor decisions externalCaseId = some decision) :
    decision ∈ decisions ∧ decision.externalCaseId = externalCaseId := by
  have named := List.find?_some found
  exact ⟨List.mem_of_find?_eq_some found, of_decide_eq_true named⟩

theorem approvedBy_of_applyDecision {case reviewed : ReferenceCase}
    (applied : applyDecision env decisions case = .ok reviewed)
    (notOwn : case.isApproved = false) (approved : reviewed.isApproved = true) :
    ApprovedBy env decisions reviewed := by
  rw [applyDecision] at applied
  split at applied
  · have same : case = reviewed := Except.ok.inj applied
    rw [← same, notOwn] at approved
    cases approved
  · next decision found =>
      obtain ⟨mem, named⟩ := decisionFor_eq_some found
      split at applied
      · cases applied
      · next matched =>
          have same : case.reviewedBy decision = reviewed :=
            Except.ok.inj applied
          rw [← same] at approved ⊢
          refine ⟨decision, mem, named, ?_, not_not.mp matched⟩
          have isStatus : decision.status = .approved :=
            of_decide_eq_true approved
          by_contra notApproves
          rw [CaseReviewDecision.status, if_neg notApproves] at isStatus
          cases isStatus

structure LoadedPack (env : PackEnvironment) (casesText reviewsText : String)
    (pack : ReferenceCasePack) (cases : List ReferenceCase)
    (decisions : List CaseReviewDecision) : Prop where
  parsedCases : env.parseCases casesText = .ok cases
  distinctCases : (cases.map ReferenceCase.externalCaseId).Nodup
  parsedReviews : env.parseReviews reviewsText = .ok decisions
  distinctReviews : (decisions.map CaseReviewDecision.externalCaseId).Nodup
  applied : ∀ reviewed ∈ pack.cases, ∃ case ∈ cases,
    applyDecision env decisions case = .ok reviewed

theorem loadCaseContracts_yields (text : String) : Yields (loadCaseContracts env text) (fun cases =>
      env.parseCases text = .ok cases ∧ (cases.map ReferenceCase.externalCaseId).Nodup) := by
  refine Yields.bind (Yields.self _) (fun cases parsed => ?_)
  refine Yields.check (fun passed => ?_)
  rw [Bool.not_eq_true', decide_eq_false_iff_not, not_not] at passed
  exact Yields.pure ⟨parsed, passed⟩

theorem loadReviewDecisions_yields (text : String) :
    Yields (loadReviewDecisions env text) (fun decisions =>
      env.parseReviews text = .ok decisions ∧
        (decisions.map CaseReviewDecision.externalCaseId).Nodup) := by
  refine Yields.bind (Yields.self _) (fun decisions parsed => ?_)
  refine Yields.check (fun passed => ?_)
  rw [Bool.not_eq_true', decide_eq_false_iff_not, not_not] at passed
  exact Yields.pure ⟨parsed, passed⟩

theorem applyReviewDecisions_yields (cases : List ReferenceCase)
    (decisions : List CaseReviewDecision) :
    Yields (applyReviewDecisions env cases decisions) (fun reviewed =>
      ∀ case ∈ reviewed, ∃ own ∈ cases, applyDecision env decisions own = .ok case) := by
  unfold applyReviewDecisions
  refine Yields.check (fun _ => ?_)
  intro reviewed mapped
  exact exists_of_mapM_eq_ok mapped

theorem loadReferenceCasePack_yields (bundle : ReferenceCorpusBundle)
    (casesText reviewsText : String) :
    Yields (loadReferenceCasePack env bundle casesText reviewsText)
      (fun pack => ∃ cases decisions,
        LoadedPack env casesText reviewsText pack cases decisions) := by
  refine Yields.bind (loadCaseContracts_yields casesText) (fun cases loadedCases => ?_)
  refine Yields.bind (loadReviewDecisions_yields reviewsText) (fun decisions loadedDecisions => ?_)
  refine Yields.bind (applyReviewDecisions_yields cases decisions) (fun reviewed applied => ?_)
  refine Yields.bind (Yields.self _) (fun _ _ => ?_)
  exact Yields.pure ⟨cases, decisions, loadedCases.1, loadedCases.2,
    loadedDecisions.1, loadedDecisions.2, applied⟩

def UnapprovedBodies (cases : List ReferenceCase) : Prop :=
  ∀ case ∈ cases, case.isApproved = false

theorem LoadedPack.approvedBy {casesText reviewsText : String}
    {pack : ReferenceCasePack} {cases : List ReferenceCase}
    (loaded : LoadedPack env casesText reviewsText pack cases decisions)
    (unapproved : UnapprovedBodies cases) :
    ∀ case ∈ pack.approvedCases, ApprovedBy env decisions case := by
  intro case mem
  obtain ⟨isCase, approved⟩ := List.mem_filter.mp mem
  obtain ⟨own, ownMem, applied⟩ := loaded.applied case isCase
  exact approvedBy_of_applyDecision applied (unapproved own ownMem) approved

end Approved

end ModelAtlas.CasePacks
