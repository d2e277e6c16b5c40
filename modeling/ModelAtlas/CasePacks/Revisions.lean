import ModelAtlas.CasePacks.Packs

/-!
# Case-pack revisions

`case_revision.py` and `case_revision_review.py` of `reference_workload`.  A
revision is built from the canonical pack or from a finalized revision; its five
files are replaced one after the other, and an attestation finalizes it.  The
review page is left out.
-/

namespace ModelAtlas.CasePacks

open Foundations

inductive PackFile where
  | manifest
  | cases
  | reviews
  | audit
  | report
  | finalization
  deriving DecidableEq, Repr

/-- `reference_workload`, the directories of its revisions and the directories
below it, as resolved paths. -/
structure Layout (Directory : Type) where
  canonical : Directory
  revisions : String → Directory
  isWithin : Directory → Bool

structure Repository (Directory : Type) where
  files : Directory → PackFile → Option String

section Repository

variable {Directory : Type} [DecidableEq Directory]

def Repository.replace (state : Repository Directory) (directory : Directory)
    (file : PackFile) (content : Option String) : Repository Directory where
  files other otherFile :=
    if other = directory ∧ otherFile = file then content
    else state.files other otherFile

def Repository.replaceAll (state : Repository Directory) (directory : Directory)
    (writes : List (PackFile × String)) : Repository Directory :=
  writes.foldl (fun current write =>
    current.replace directory write.1 (some write.2)) state

def Repository.read (state : Repository Directory) (directory : Directory)
    (file : PackFile) (label : String) : Except String String :=
  match state.files directory file with
  | none => .error (label ++ " is invalid: file not found")
  | some text => .ok text

end Repository

/-- A row of `changes`; `details` is what the review page shows. -/
structure RevisionChangeRow where
  (externalCaseId revisedCaseSha256 : String)
  details : Json
  deriving DecidableEq

/-- `artifact_identity`; the hashes of the source and of the audit are not
checked again. -/
structure ArtifactIdentity where
  (manifestSha256 casesSha256 reviewsSha256 : String)
  sources : Json
  deriving DecidableEq

structure RevisionReport where
  (schemaVersion generatedAt revisionId sourceWorkloadVersion : String)
  sourceProvenance : Json
  queryStrategy : String
  summary : Json
  changes : List RevisionChangeRow
  artifactIdentity : ArtifactIdentity
  evidenceBoundary : Json
  reportSha256 : String
  deriving DecidableEq

/-- What `report_sha256` is the hash of. -/
def RevisionReport.hashed (report : RevisionReport) : Json :=
  .obj
    [("schema_version", .str report.schemaVersion),
      ("revision_id", .str report.revisionId),
      ("source_workload_version", .str report.sourceWorkloadVersion),
      ("source_provenance", report.sourceProvenance),
      ("query_strategy", .str report.queryStrategy),
      ("summary", report.summary),
      ("changes", .arr (report.changes.map (fun row => .obj
        [("external_case_id", .str row.externalCaseId),
          ("revised_case_sha256", .str row.revisedCaseSha256),
          ("details", row.details)]))),
      ("artifact_identity", .obj
        [("manifest_sha256", .str report.artifactIdentity.manifestSha256),
          ("cases_sha256", .str report.artifactIdentity.casesSha256),
          ("reviews_sha256", .str report.artifactIdentity.reviewsSha256),
          ("sources", report.artifactIdentity.sources)]),
      ("evidence_boundary", report.evidenceBoundary)]

/-- The finalization report; `portfolioReady` is the one of `case_pack`. -/
structure RevisionFinalization where
  (schemaVersion revisionId revisionReportSha256 reviewer reviewedAt : String)
  (approvedCaseIds rejectedCaseIds : List String)
  approvedCaseCount : Nat
  portfolioReady : Bool
  (reviewManifestSha256 reportSha256 : String)

def RevisionFinalization.hashed (finalization : RevisionFinalization) : Json :=
  .obj
    [("schema_version", .str finalization.schemaVersion),
      ("revision_id", .str finalization.revisionId),
      ("revision_report_sha256", .str finalization.revisionReportSha256),
      ("reviewer", .str finalization.reviewer),
      ("reviewed_at", .str finalization.reviewedAt),
      ("approved_case_ids", .arr (finalization.approvedCaseIds.map Json.str)),
      ("rejected_case_ids", .arr (finalization.rejectedCaseIds.map Json.str)),
      ("case_pack", .obj
        [("approved_case_count", .int finalization.approvedCaseCount),
          ("portfolio_ready", .bool finalization.portfolioReady)]),
      ("review_manifest_sha256", .str finalization.reviewManifestSha256)]

structure RevisionEnvironment extends PackEnvironment where
  parseReport : String → Except String RevisionReport
  serializeReport : RevisionReport → String
  parseFinalization : String → Except String RevisionFinalization
  serializeFinalization : RevisionFinalization → String

def reportVersion : String := "model-atlas-reference-case-pack-revision-report-v3"

def reportVersions : List String :=
  ["model-atlas-reference-case-pack-revision-report-v1",
    "model-atlas-reference-case-pack-revision-report-v2", reportVersion]

def finalizationVersion : String :=
  "model-atlas-reference-case-pack-revision-finalization-v1"

structure CaseRevisionChange where
  (externalCaseId retrievalQuery : String)
  relevantChunkIds : List String
  acceptableEvidenceGroups : Option (List (List String))
  requiredFacts : Option (List String)
  acceptableRequiredFactGroups : Option (List (List String))
  topK : Int
  (expectedSourcePath expectedHeading rationale : String)

/-- A spec whose ids are distinct; the versions are the numbers of
`major.minor.patch`. -/
structure CasePackRevisionSpec where
  (revisionId sourceWorkloadVersion : String)
  (revisionNumbers sourceNumbers : List Nat)
  queryStrategy : String
  changes : List CaseRevisionChange
  changed : changes ≠ []
  unique : (changes.map CaseRevisionChange.externalCaseId).Nodup

def CasePackRevisionSpec.changedIds (spec : CasePackRevisionSpec) : List String :=
  spec.changes.map CaseRevisionChange.externalCaseId

def CasePackRevisionSpec.changeFor (spec : CasePackRevisionSpec)
    (externalCaseId : String) : Option CaseRevisionChange :=
  spec.changes.find? (fun change => change.externalCaseId = externalCaseId)

structure RevisionServices where
  buildReferenceCorpus : String → Except String ReferenceCorpusBundle
  expectedRanks : ReferenceCorpusBundle → String → List String → Json
  /-- The text of the audit, its digest and status, and the row of each case. -/
  buildRetrievalContractAudit : ReferenceCorpusBundle → List ReferenceCase →
    List String → Except String (String × String × String × List (String × Json))
  generatedAt : String

section Sources

variable {Directory : Type} [DecidableEq Directory]
  (env : RevisionEnvironment) (layout : Layout Directory)
  (state : Repository Directory)

def loadJsonObject (directory : Directory) (file : PackFile) (label : String) :
    Except String (List (String × Json)) := do
  let text ← state.read directory file label
  env.parseObject text

structure RevisionSource (Directory : Type) where
  directory : Directory
  provenance : Json

def canonicalProvenance : Json :=
  .obj
    [("kind", .str "canonical"), ("directory", .str "reference_workload"),
      ("finalization_report_sha256", .null)]

def finalizedProvenance (version : String) (report : RevisionReport)
    (finalization : RevisionFinalization) : Json :=
  .obj
    [("kind", .str "finalized_revision"),
      ("directory", .str ("reference_workload/revisions/" ++ version)),
      ("revision_report_sha256", .str report.reportSha256),
      ("finalization_report_sha256", .str finalization.reportSha256)]

/-- The checks of a finalized revision in `_resolve_revision_source`. -/
def resolveFinalizedSource (version : String) : Except String (RevisionSource Directory) := do
  let directory := layout.revisions version
  if !layout.isWithin directory then
    throw "revision source must remain under reference_workload"
  let manifest ← loadJsonObject env state directory .manifest
    "source revision manifest"
  if !Json.isText ((Json.obj manifest).get? "workload_version") version then
    throw "source revision manifest version does not match the spec"
  let reportText ← state.read directory .report "source revision report"
  let report ← env.parseReport reportText
  if report.revisionId ≠ version || report.reportSha256 ≠ env.stableHash report.hashed then
    throw "source revision report identity does not match"
  let finalizationText ← state.read directory .finalization
    "source revision finalization report"
  let finalization ← env.parseFinalization finalizationText
  if finalization.schemaVersion ≠ finalizationVersion || finalization.revisionId ≠ version ||
      finalization.revisionReportSha256 ≠ report.reportSha256 ||
      finalization.reportSha256 ≠ env.stableHash finalization.hashed ||
      !finalization.portfolioReady then
    throw "source revision is not validly finalized"
  let manifestText ← state.read directory .manifest "manifest.json"
  if env.fileSha256 manifestText ≠ report.artifactIdentity.manifestSha256 then
    throw "finalized source revision artifact changed: manifest.json"
  let casesText ← state.read directory .cases "cases.jsonl"
  if env.fileSha256 casesText ≠ report.artifactIdentity.casesSha256 then
    throw "finalized source revision artifact changed: cases.jsonl"
  let reviewsText ← state.read directory .reviews "review_manifest.jsonl"
  if env.fileSha256 reviewsText ≠ finalization.reviewManifestSha256 then
    throw "finalized source revision artifact changed: review_manifest.jsonl"
  return ⟨directory, finalizedProvenance version report finalization⟩

def resolveRevisionSource (version : String) : Except String (RevisionSource Directory) := do
  let canonical ← loadJsonObject env state layout.canonical .manifest
    "canonical reference manifest"
  if Json.isText ((Json.obj canonical).get? "workload_version") version then
    return ⟨layout.canonical, canonicalProvenance⟩
  resolveFinalizedSource env layout state version

end Sources

/-- `dict.update`. -/
def updateMembers (members updates : List (String × Json)) : List (String × Json) :=
  updates.foldl (fun current update =>
    Json.setMember current update.1 update.2) members

/-- `dict.pop`. -/
def popMembers (members : List (String × Json)) (names : List String) : List (String × Json) :=
  members.filter (fun mem => !names.contains mem.1)

def textArray (texts : List String) : Json :=
  .arr (texts.map Json.str)

def withEvidenceGroups (change : CaseRevisionChange)
    (members : List (String × Json)) : List (String × Json) :=
  match change.acceptableEvidenceGroups with
  | some groups => updateMembers members
      [("evidence_contract_version", .str anyOfEvidenceVersion),
        ("acceptable_evidence_groups", .arr (groups.map textArray))]
  | none => popMembers members
      ["evidence_contract_version", "acceptable_evidence_groups"]

def isRetrieval (step : Json) : Bool :=
  Json.isText (step.get? "action") "retrieve"

def reviseStep (change : CaseRevisionChange) (step : Json) : Json :=
  match step with
  | .obj members =>
    if isRetrieval step then
      .obj (withEvidenceGroups change (updateMembers members
        [("relevant_chunk_ids", textArray change.relevantChunkIds)]))
    else step
  | other => other

def reviseAgent (externalCaseId : String) (change : CaseRevisionChange)
    (reference : List (String × Json)) : Except String (List (String × Json)) :=
  match (Json.obj reference).get? "agent" with
  | none => .ok reference
  | some .null => .ok reference
  | some (.obj agent) =>
    match (Json.obj agent).get? "expected_steps" with
    | some (.arr steps) =>
      if (steps.filter isRetrieval).length ≠ 1 then
        .error ("revision case " ++ externalCaseId ++
          " must have exactly one retrieval step")
      else
        .ok (Json.setMember reference "agent" (.obj (Json.setMember agent
          "expected_steps" (.arr (steps.map (reviseStep change))))))
    | _ => .error ("revision case " ++ externalCaseId ++
        " has no Agent expected_steps")
  | some _ => .error ("revision case " ++ externalCaseId ++
      " has an invalid Agent contract")

def reviseExpectedOutput (change : CaseRevisionChange)
    (expectedOutput : Option Json) : Option Json :=
  match change.acceptableRequiredFactGroups with
  | none => expectedOutput
  | some groups =>
    let members :=
      match expectedOutput with
      | some (.obj members) => members
      | _ => []
    some (.obj (updateMembers members
      [("semantic_contract_version", .str anyOfSemanticVersion),
        ("required_facts", textArray (change.requiredFacts.getD [])),
        ("acceptable_required_fact_groups", .arr (groups.map textArray))]))

/-- `_revise_case`; the review of the body is kept. -/
def reviseCase (case : ReferenceCase) (change : CaseRevisionChange)
    (queryStrategy : String) : Except String ReferenceCase :=
  match case.referenceContext.getD (.obj []) with
  | .obj reference =>
    match (Json.obj reference).get? "rag" with
    | some (.obj rag) => do
      let revisedRag := withEvidenceGroups change (updateMembers rag
        [("query", .str change.retrievalQuery),
          ("query_strategy", .str queryStrategy),
          ("relevant_chunk_ids", textArray change.relevantChunkIds),
          ("top_k", .int change.topK)])
      let revisedReference ← reviseAgent case.externalCaseId change
        (Json.setMember reference "rag" (.obj revisedRag))
      let revised : ReferenceCase :=
        { case with
          referenceContext := some (.obj revisedReference)
          expectedOutput := reviseExpectedOutput change case.expectedOutput }
      validateCaseShape revised
      return revised
    | _ => .error ("revision case " ++ case.externalCaseId ++
        " requires a RAG contract")
  | _ => .error ("revision case " ++ case.externalCaseId ++
      " requires a RAG contract")

def CaseRevisionChange.expectation (change : CaseRevisionChange) :
    Except String RagEvidenceExpectation :=
  parseRagEvidenceExpectation (.obj
    (("relevant_chunk_ids", textArray change.relevantChunkIds) ::
      (match change.acceptableEvidenceGroups with
      | some groups =>
        [("evidence_contract_version", .str anyOfEvidenceVersion),
          ("acceptable_evidence_groups", .arr (groups.map textArray))]
      | none => [])))

def expectedChunks (bundle : ReferenceCorpusBundle) (externalCaseId : String)
    (chunkIds : List String) : Except String (List RagChunk) :=
  chunkIds.mapM (fun chunkId =>
    match bundle.chunks.find? (fun chunk => chunk.chunkId = chunkId) with
    | some chunk => .ok chunk
    | none => .error ("revision case " ++ externalCaseId ++
        " references unknown chunk " ++ chunkId))

section Revising

variable (env : RevisionEnvironment)

def changeRow (services : RevisionServices) (bundle : ReferenceCorpusBundle)
    (queryStrategy : String) (case revised : ReferenceCase)
    (change : CaseRevisionChange)
    (source revisedExpectation : RagEvidenceExpectation)
    (chunks : List RagChunk) : RevisionChangeRow where
  externalCaseId := case.externalCaseId
  revisedCaseSha256 := referenceCaseHash env.toPackEnvironment revised
  details := .obj
    [("criticality", .str case.criticality.text), ("title", .str case.title),
      ("old_semantic_contract", case.expectedOutput.getD .null),
      ("revised_semantic_contract", revised.expectedOutput.getD .null),
      ("source_case_sha256",
        .str (referenceCaseHash env.toPackEnvironment case)),
      ("old_contract", .obj
        [("query", ((case.rag.getD .null).get? "query").getD .null),
          ("relevant_chunk_ids", textArray source.primaryChunkIds),
          ("evidence_contract_version", .str source.contractVersion),
          ("acceptable_evidence_groups",
            .arr (source.acceptableGroups.map textArray))]),
      ("revised_contract", .obj
        [("query", .str change.retrievalQuery),
          ("query_strategy", .str queryStrategy), ("top_k", .int change.topK),
          ("relevant_chunk_ids", textArray change.relevantChunkIds),
          ("evidence_contract_version", .str revisedExpectation.contractVersion),
          ("acceptable_evidence_groups",
            .arr (revisedExpectation.acceptableGroups.map textArray)),
          ("expected_chunk_ranks", services.expectedRanks bundle
            change.retrievalQuery revisedExpectation.acceptableChunkIds),
          ("evidence", .arr (chunks.map RagChunk.evidence))]),
      ("rationale", .str change.rationale),
      ("review_status", .str "draft_human_review_required")]

def reviseSourceCase (services : RevisionServices) (bundle : ReferenceCorpusBundle)
    (spec : CasePackRevisionSpec) (case : ReferenceCase) :
    Except String (ReferenceCase × Option RevisionChangeRow) :=
  match spec.changeFor case.externalCaseId with
  | none => .ok (case, none)
  | some change => do
    let expectation ← change.expectation
    let chunks ← expectedChunks bundle change.externalCaseId expectation.acceptableChunkIds
    if chunks.head?.map (fun chunk => (chunk.documentId, chunk.title)) ≠
        some (change.expectedSourcePath, change.expectedHeading) then
      throw ("revision evidence identity changed for " ++
        change.externalCaseId)
    let revised ← reviseCase case change spec.queryStrategy
    let source ← parseRagEvidenceExpectation (case.rag.getD (.obj []))
    return (revised, some (changeRow env services bundle
      spec.queryStrategy case revised change source expectation chunks))

end Revising

section Creation

variable {Directory : Type} [DecidableEq Directory]
  (env : RevisionEnvironment) (layout : Layout Directory)
  (state : Repository Directory)

structure RevisionDraft where
  spec : CasePackRevisionSpec
  (provenance sourceHashes : Json)
  manifest : List (String × Json)
  revised : List (ReferenceCase × Option RevisionChangeRow)
  retained : List CaseReviewDecision

/-- `create_case_pack_revision` up to its first write. -/
def draftRevision (services : RevisionServices) (spec : CasePackRevisionSpec)
    (output : Directory) : Except String RevisionDraft := do
  if output = layout.canonical then
    throw "revision output cannot replace the canonical case pack"
  if !layout.isWithin output then
    throw "revision output must remain under reference_workload"
  if (state.files output .finalization).isSome then
    throw ("finalized revision cannot be regenerated; create a new revision " ++
      "version")
  if !(spec.sourceNumbers < spec.revisionNumbers) then
    throw "revision_id must be newer than source_workload_version"
  let source ← resolveRevisionSource env layout state spec.sourceWorkloadVersion
  let manifestText ← state.read source.directory .manifest
    "source reference manifest"
  let manifest ← env.parseObject manifestText
  let bundle ← services.buildReferenceCorpus manifestText
  let casesText ← state.read source.directory .cases "reference JSONL file"
  let cases ← loadCaseContracts env.toPackEnvironment casesText
  let reviewsText ← state.read source.directory .reviews "reference JSONL file"
  let reviews ← loadReviewDecisions env.toPackEnvironment reviewsText
  let missing := spec.changedIds.filter (fun identifier =>
    !(cases.any (fun case => case.externalCaseId = identifier)))
  if !missing.isEmpty then
    throw ("revision references unknown cases: " ++
      String.intercalate ", " (missing.insertionSort (· ≤ ·)))
  let revised ← cases.mapM (reviseSourceCase env services bundle spec)
  .ok
    { spec := spec
      provenance := source.provenance
      sourceHashes := .obj
        [("source_manifest_sha256", .str (env.fileSha256 manifestText)),
          ("source_cases_sha256", .str (env.fileSha256 casesText)),
          ("source_reviews_sha256", .str (env.fileSha256 reviewsText))]
      manifest := Json.setMember manifest "workload_version"
        (.str spec.revisionId)
      revised := revised
      retained := reviews.filter (fun decision =>
        !spec.changedIds.contains decision.externalCaseId) }

namespace RevisionDraft

variable (draft : RevisionDraft)

def cases : List ReferenceCase :=
  draft.revised.map Prod.fst

def manifestText : String :=
  env.serializeObject draft.manifest

def casesText : String :=
  env.serializeCases draft.cases

def reviewsText : String :=
  env.serializeReviews draft.retained

def audited (services : RevisionServices) : Except String
    (ReferenceCasePack × String × String × String × List (String × Json)) := do
  let bundle ← services.buildReferenceCorpus (draft.manifestText env)
  let pack ← loadReferenceCasePack env.toPackEnvironment bundle
    (draft.casesText env) (draft.reviewsText env)
  let audit ← services.buildRetrievalContractAudit bundle pack.cases
    (draft.spec.changedIds.insertionSort (· ≤ ·))
  return (pack, audit)

def auditedRow (auditRows : List (String × Json)) (row : RevisionChangeRow) :
    Except String RevisionChangeRow :=
  match auditRows.lookup row.externalCaseId with
  | none => .error row.externalCaseId
  | some audited =>
    .ok { row with details := .obj [("change", row.details),
      ("audit", audited)] }

def unsignedReport (services : RevisionServices) (pack : ReferenceCasePack)
    (auditSha256 auditStatus : String) (rows : List RevisionChangeRow) :
    RevisionReport where
  schemaVersion := reportVersion
  generatedAt := services.generatedAt
  revisionId := draft.spec.revisionId
  sourceWorkloadVersion := draft.spec.sourceWorkloadVersion
  sourceProvenance := draft.provenance
  queryStrategy := draft.spec.queryStrategy
  summary := .obj
    [("case_count", .int draft.cases.length),
      ("changed_case_count", .int rows.length),
      ("retained_approval_count", .int draft.retained.length),
      ("pending_review_count", .int rows.length),
      ("approved_case_count", .int pack.approvedCases.length),
      ("portfolio_ready", .bool pack.portfolioReady),
      ("retrieval_contract_status", .str auditStatus)]
  changes := rows
  artifactIdentity :=
    { manifestSha256 := env.fileSha256 (draft.manifestText env)
      casesSha256 := env.fileSha256 (draft.casesText env)
      reviewsSha256 := env.fileSha256 (draft.reviewsText env)
      sources := .obj [("sources", draft.sourceHashes),
        ("retrieval_contract_audit_report_sha256", .str auditSha256)] }
  evidenceBoundary := .obj
    [("canonical_case_pack_mutated", .bool false),
      ("historical_results_mutated", .bool false),
      ("changed_cases_approved", .bool false),
      ("bootstrap_allowed", .bool pack.portfolioReady),
      ("authoritative_portfolio_evidence", .bool false),
      ("production_readiness", .str "not_production_ready")]
  reportSha256 := ""

/-- The report of `create_case_pack_revision`. -/
def report (services : RevisionServices) (pack : ReferenceCasePack)
    (audit : String × String × String × List (String × Json)) :
    Except String RevisionReport := do
  let rows ← (draft.revised.filterMap Prod.snd).mapM (auditedRow audit.2.2.2)
  let unsigned := draft.unsignedReport env services pack audit.2.1 audit.2.2.1 rows
  return { unsigned with reportSha256 := env.stableHash unsigned.hashed }

end RevisionDraft

/-- The files that `create_case_pack_revision` replaces, in their order. -/
def createWrites (services : RevisionServices) (spec : CasePackRevisionSpec)
    (output : Directory) : List (PackFile × String) :=
  match draftRevision env layout state services spec output with
  | .error _ => []
  | .ok draft =>
    [(.manifest, draft.manifestText env), (.cases, draft.casesText env),
      (.reviews, draft.reviewsText env)] ++
    match draft.audited env services with
    | .error _ => []
    | .ok (pack, audit) =>
      (.audit, audit.1) ::
      match draft.report env services pack audit with
      | .error _ => []
      | .ok report => [(.report, env.serializeReport report)]

def createCasePackRevision (services : RevisionServices)
    (spec : CasePackRevisionSpec) (output : Directory) :
    Repository Directory × Except String RevisionReport :=
  (state.replaceAll output (createWrites env layout state services spec output),
    do
      let draft ← draftRevision env layout state services spec output
      let audited ← draft.audited env services
      draft.report env services audited.1 audited.2)

end Creation

/-! ## Finalization -/

structure CaseRevisionDecision where
  (externalCaseId revisedCaseSha256 : String)
  approves : Bool
  notes : String

/-- An attestation whose decisions are of distinct cases; its statement and its
reviewer are checked when it is read. -/
structure CaseRevisionAttestation where
  (schemaVersion revisionId revisionReportSha256 reviewer reviewedAt : String)
  decisions : List CaseRevisionDecision
  decided : decisions ≠ []
  unique : (decisions.map CaseRevisionDecision.externalCaseId).Nodup

def attestationVersion : String :=
  "model-atlas-reference-case-pack-revision-attestation-v2"

def legacyAttestationVersion : String :=
  "model-atlas-reference-case-pack-revision-attestation-v1"

def CaseRevisionAttestation.review (attestation : CaseRevisionAttestation)
    (decision : CaseRevisionDecision) : CaseReviewDecision where
  externalCaseId := decision.externalCaseId
  caseSha256 := decision.revisedCaseSha256
  approves := decision.approves
  reviewer := attestation.reviewer
  reviewedAt := attestation.reviewedAt
  notes := "Revision " ++ attestation.revisionId ++ " review bound to report " ++
    attestation.revisionReportSha256 ++ ". " ++ decision.notes

/-- `new_reviews`. -/
def CaseRevisionAttestation.reviews (attestation : CaseRevisionAttestation) :
    List CaseReviewDecision :=
  attestation.decisions.map attestation.review

/-- The row of a case in `expected_changes`. -/
def RevisionReport.expectedChange (report : RevisionReport)
    (externalCaseId : String) : Option RevisionChangeRow :=
  report.changes.reverse.find? (fun row => row.externalCaseId = externalCaseId)

section Finalization

variable {Directory : Type} [DecidableEq Directory]
  (env : RevisionEnvironment) (layout : Layout Directory)
  (state : Repository Directory)

def loadRevisionReport (output : Directory) : Except String RevisionReport := do
  let text ← state.read output .report "revision report"
  let report ← env.parseReport text
  if !reportVersions.contains report.schemaVersion then
    throw "revision report schema is unsupported"
  if report.reportSha256 ≠ env.stableHash report.hashed then
    throw "revision report hash does not match its content"
  return report

def readReviewed (output : Directory) (file : PackFile) (name expected : String) :
    Except String String := do
  let text ← state.read output file name
  if env.fileSha256 text ≠ expected then
    throw ("revision artifact changed after review packet generation: " ++ name)
  return text

def checkAttestation (report : RevisionReport)
    (attestation : CaseRevisionAttestation) : Except String Unit := do
  let expectedVersion :=
    if report.schemaVersion = reportVersion then attestationVersion
    else legacyAttestationVersion
  if attestation.schemaVersion ≠ expectedVersion then
    throw "revision attestation schema does not cover the report contract"
  if attestation.revisionId ≠ report.revisionId then
    throw "revision attestation targets another revision"
  if attestation.revisionReportSha256 ≠ report.reportSha256 then
    throw "revision attestation report hash does not match"
  if !(attestation.decisions.all (fun decision =>
      (report.expectedChange decision.externalCaseId).isSome) &&
      report.changes.all (fun row => attestation.decisions.any (fun decision =>
        decision.externalCaseId = row.externalCaseId))) then
    throw "revision attestation must decide every changed case exactly once"
  attestation.decisions.forM (fun decision =>
    if (report.expectedChange decision.externalCaseId).map
        RevisionChangeRow.revisedCaseSha256 ≠ some decision.revisedCaseSha256 then
      .error ("revision decision hash mismatch for " ++ decision.externalCaseId)
    else .ok ())

def unsignedFinalization (report : RevisionReport) (attestation : CaseRevisionAttestation)
    (pack : ReferenceCasePack) (reviewsText : String) : RevisionFinalization where
  schemaVersion := finalizationVersion
  revisionId := report.revisionId
  revisionReportSha256 := report.reportSha256
  reviewer := attestation.reviewer
  reviewedAt := attestation.reviewedAt
  approvedCaseIds := ((attestation.decisions.filter CaseRevisionDecision.approves).map
      CaseRevisionDecision.externalCaseId).insertionSort (· ≤ ·)
  rejectedCaseIds := ((attestation.decisions.filter
    (fun decision => !decision.approves)).map
      CaseRevisionDecision.externalCaseId).insertionSort (· ≤ ·)
  approvedCaseCount := pack.approvedCases.length
  portfolioReady := pack.portfolioReady
  reviewManifestSha256 := env.fileSha256 reviewsText
  reportSha256 := ""

structure FinalizedRevision where
  pack : ReferenceCasePack
  reviewsText : String
  finalization : RevisionFinalization

/-- `finalize_case_pack_revision` up to its first write. -/
def finalizeRevision (services : RevisionServices) (output : Directory)
    (attestation : CaseRevisionAttestation) : Except String FinalizedRevision := do
  if output = layout.canonical || !layout.isWithin output then
    throw ("revision finalization must remain in an isolated " ++
      "reference_workload revision")
  let report ← loadRevisionReport env state output
  let manifestText ← readReviewed env state output .manifest
    "manifest.json" report.artifactIdentity.manifestSha256
  let casesText ← readReviewed env state output .cases "cases.jsonl"
    report.artifactIdentity.casesSha256
  let retainedText ← readReviewed env state output .reviews
    "review_manifest.jsonl" report.artifactIdentity.reviewsSha256
  checkAttestation report attestation
  let reviewsText := env.appendReviews retainedText attestation.reviews
  let bundle ← services.buildReferenceCorpus manifestText
  let pack ← loadReferenceCasePack env.toPackEnvironment bundle casesText reviewsText
  let unsigned := unsignedFinalization env report attestation pack reviewsText
  .ok
    { pack := pack
      reviewsText := reviewsText
      finalization := { unsigned with
        reportSha256 := env.stableHash unsigned.hashed } }

def FinalizedRevision.writes (finalized : FinalizedRevision) : List (PackFile × String) :=
  [(.reviews, finalized.reviewsText),
    (.finalization, env.serializeFinalization finalized.finalization)]

def finalizeWrites (services : RevisionServices) (output : Directory)
    (attestation : CaseRevisionAttestation) : List (PackFile × String) :=
  match finalizeRevision env layout state services output attestation with
  | .error _ => []
  | .ok finalized => finalized.writes env

def finalizeCasePackRevision (services : RevisionServices) (output : Directory)
    (attestation : CaseRevisionAttestation) :
    Repository Directory × Except String RevisionFinalization :=
  (state.replaceAll output (finalizeWrites env layout state services output attestation),
    (finalizeRevision env layout state services output attestation).map
      FinalizedRevision.finalization)

end Finalization

end ModelAtlas.CasePacks
