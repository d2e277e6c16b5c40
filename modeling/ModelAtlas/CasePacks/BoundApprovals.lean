import ModelAtlas.CasePacks.PackInvariants

/-!
# Bound approvals

Where no body has an approval of its own and outside edits forge no report, every
approval is a decision about the very body it is counted for.
-/

namespace ModelAtlas.CasePacks

open Foundations

variable {draft : RevisionDraft} {cases : List ReferenceCase} {reviews : List CaseReviewDecision}
  {report : RevisionReport}

section Bound

variable {Directory : Type}
  {env : RevisionEnvironment} {layout : Layout Directory}
  {start state : Repository Directory}

theorem DraftedFrom.changedId_of_row {source : Directory}
    (drafted : DraftedFrom env layout state draft source cases reviews)
    (reports : ReportsDraft env report draft)
    {row : RevisionChangeRow} (mem : row ∈ report.changes) :
    row.externalCaseId ∈ draft.spec.changedIds := by
  obtain ⟨item, itemMem, own, isOwn, sameId, _⟩ := reports.rows row mem
  obtain ⟨case, _, revises⟩ := drafted.revised item itemMem
  by_contra notChanged
  by_cases caseChanged : case.externalCaseId ∈ draft.spec.changedIds
  · obtain ⟨found, isFound, foundId, _⟩ := revises.changed caseChanged
    rw [isOwn, Option.some.injEq] at isFound
    rw [sameId, isFound, foundId] at notChanged
    exact notChanged caseChanged
  · have unchanged := revises.unchanged caseChanged
    rw [unchanged] at isOwn
    cases isOwn

theorem DraftedFrom.row_of_changedId {source : Directory}
    (drafted : DraftedFrom env layout state draft source cases reviews)
    (reports : ReportsDraft env report draft)
    {identifier : String} (isChanged : identifier ∈ draft.spec.changedIds) :
    ∃ row ∈ report.changes, row.externalCaseId = identifier := by
  obtain ⟨case, mem, rfl⟩ := drafted.known identifier isChanged
  obtain ⟨item, itemMem, revises⟩ := drafted.all case mem
  obtain ⟨own, isOwn, ownId, _⟩ := revises.changed isChanged
  obtain ⟨row, rowMem, sameId⟩ := reports.allRows item itemMem own isOwn
  exact ⟨row, rowMem, sameId.trans ownId⟩

theorem retained_id {source : Directory}
    (drafted : DraftedFrom env layout state draft source cases reviews)
    {decision : CaseReviewDecision} (mem : decision ∈ draft.retained) :
    decision.externalCaseId ∉ draft.spec.changedIds := by
  rw [drafted.retained, List.mem_filter, Bool.not_eq_true',
    List.contains_eq_mem, decide_eq_false_iff_not] at mem
  exact mem.2

theorem decisionFor_filter {decisions : List CaseReviewDecision}
    {keeps : CaseReviewDecision → Bool} {identifier : String}
    (kept : ∀ decision, decision.externalCaseId = identifier → keeps decision = true) :
    decisionFor (decisions.filter keeps) identifier = decisionFor decisions identifier := by
  rw [decisionFor, decisionFor, List.find?_filter]
  congr 1
  funext decision
  by_cases named : decision.externalCaseId = identifier
  · simp [kept decision named]
  · simp [named]

theorem attested_of_approvedBy {source : Directory}
    (drafted : DraftedFrom env layout state draft source cases reviews)
    {attestation : CaseRevisionAttestation} {case : ReferenceCase}
    (isChanged : case.externalCaseId ∈ draft.spec.changedIds)
    (approved : ApprovedBy env.toPackEnvironment (draft.retained ++ attestation.reviews) case) :
    ∃ decision ∈ attestation.decisions, decision.externalCaseId = case.externalCaseId ∧
      decision.approves = true ∧ decision.revisedCaseSha256 =
        referenceCaseHash env.toPackEnvironment case := by
  obtain ⟨decision, mem, named, approves, hash⟩ := approved
  rcases List.mem_append.mp mem with kept | attested
  · have notChanged := retained_id drafted kept
    rw [named] at notChanged
    exact absurd isChanged notChanged
  · obtain ⟨own, ownMem, rfl⟩ := List.mem_map.mp attested
    exact ⟨own, ownMem, named, approves, hash⟩

structure BoundRevision (env : RevisionEnvironment)
    (layout : Layout Directory) (state : Repository Directory)
    (directory : Directory) (report : RevisionReport) (source : Directory)
    (sourceCases : List ReferenceCase) (sourceReviews : List CaseReviewDecision)
    (attestation : CaseRevisionAttestation) (cases : List ReferenceCase)
    (decisions : List CaseReviewDecision) : Prop where
  isSealed : Sealed layout state source
  sourceCasesFile : ∃ text, state.files source .cases = some text ∧
    env.parseCases text = .ok sourceCases
  sourceReviewsFile : ∃ text, state.files source .reviews = some text ∧
    env.parseReviews text = .ok sourceReviews
  reportFile : state.files directory .report =
    some (env.serializeReport report)
  casesFile : ∃ text, state.files directory .cases = some text ∧
    env.parseCases text = .ok cases
  reviewsFile : ∃ text, state.files directory .reviews = some text ∧
    env.parseReviews text = .ok decisions
  attested : attestation.revisionReportSha256 = report.reportSha256
  approved : ∀ bundle casesText reviewsText pack,
    state.files directory .cases = some casesText →
      state.files directory .reviews = some reviewsText →
        loadReferenceCasePack env.toPackEnvironment bundle casesText
            reviewsText = .ok pack →
          ∀ case ∈ pack.approvedCases,
            ApprovedBy env.toPackEnvironment decisions case
  changed : ∀ bundle casesText reviewsText pack,
    state.files directory .cases = some casesText →
      state.files directory .reviews = some reviewsText →
        loadReferenceCasePack env.toPackEnvironment bundle casesText
            reviewsText = .ok pack →
          ∀ case ∈ pack.approvedCases, ∀ row ∈ report.changes,
            row.externalCaseId = case.externalCaseId →
              ∃ decision ∈ attestation.decisions,
                decision.externalCaseId = case.externalCaseId ∧
                decision.approves = true ∧ decision.revisedCaseSha256 =
                  referenceCaseHash env.toPackEnvironment case
  unchangedBody : ∀ case ∈ cases,
    (∀ row ∈ report.changes, row.externalCaseId ≠ case.externalCaseId) →
      case ∈ sourceCases
  unchangedDecision : ∀ identifier,
    (∀ row ∈ report.changes, row.externalCaseId ≠ identifier) →
      decisionFor decisions identifier = decisionFor sourceReviews identifier

theorem boundRevision_of_finalizedFrom {directory source : Directory}
    {attestation : CaseRevisionAttestation}
    (finalized : FinalizedFrom env layout state directory report draft
      source cases reviews attestation) :
    BoundRevision env layout state directory report source cases reviews
      attestation draft.cases (draft.retained ++ attestation.reviews) := by
  have drafted := finalized.drafted
  have approved : ∀ bundle casesText reviewsText pack,
      state.files directory .cases = some casesText →
        state.files directory .reviews = some reviewsText →
          loadReferenceCasePack env.toPackEnvironment bundle casesText reviewsText = .ok pack →
            ∀ case ∈ pack.approvedCases, ApprovedBy env.toPackEnvironment
              (draft.retained ++ attestation.reviews) case := by
    intro bundle casesText reviewsText pack casesStored reviewsStored loaded
    obtain ⟨read, decisions, isLoaded⟩ :=
      loadReferenceCasePack_yields bundle casesText reviewsText pack loaded
    have sameText : draft.casesText env = casesText := by
      have same := finalized.casesFile
      rw [casesStored] at same
      exact (Option.some.inj same).symm
    have isRead : read = draft.cases := by
      have parsed := isLoaded.parsedCases
      rw [← sameText, finalized.parsedCases] at parsed
      exact (Except.ok.inj parsed).symm
    have isDecisions : decisions = draft.retained ++ attestation.reviews := by
      obtain ⟨text, stored, parsed⟩ := finalized.reviewsFile
      rw [reviewsStored, Option.some.injEq] at stored
      have own := isLoaded.parsedReviews
      rw [stored, parsed] at own
      exact (Except.ok.inj own).symm
    rw [isRead, isDecisions] at isLoaded
    exact isLoaded.approvedBy (drafted.unapproved finalized.unapproved)
  constructor
  · exact drafted.isSealed
  · exact drafted.casesFile
  · exact drafted.reviewsFile
  · exact finalized.reportFile
  · exact ⟨_, finalized.casesFile, finalized.parsedCases⟩
  · exact finalized.reviewsFile
  · exact finalized.attests.bound
  · exact approved
  · intro bundle casesText reviewsText pack casesStored reviewsStored loaded case
      mem row rowMem sameId
    have isChanged := drafted.changedId_of_row finalized.reports rowMem
    rw [sameId] at isChanged
    exact attested_of_approvedBy drafted isChanged (approved bundle casesText
      reviewsText pack casesStored reviewsStored loaded case mem)
  · intro case mem noRow
    obtain ⟨item, itemMem, rfl⟩ := List.mem_map.mp mem
    obtain ⟨own, ownMem, revises⟩ := drafted.revised item itemMem
    have notChanged : own.externalCaseId ∉ draft.spec.changedIds := by
      intro isChanged
      obtain ⟨row, rowMem, sameId⟩ :=
        drafted.row_of_changedId finalized.reports isChanged
      exact noRow row rowMem (sameId.trans revises.sameId.symm)
    rw [revises.unchanged notChanged]
    exact ownMem
  · intro identifier noRow
    have notChanged : identifier ∉ draft.spec.changedIds := by
      intro isChanged
      obtain ⟨row, rowMem, sameId⟩ :=
        drafted.row_of_changedId finalized.reports isChanged
      exact noRow row rowMem sameId
    have noReview : decisionFor attestation.reviews identifier = none := by
      apply List.find?_eq_none.mpr
      intro review mem named
      obtain ⟨decision, decisionMember, rfl⟩ := List.mem_map.mp mem
      obtain ⟨row, rowMem, sameId⟩ :=
        finalized.attests.decides decision decisionMember
      exact noRow row rowMem (sameId.trans (of_decide_eq_true named))
    have kept : decisionFor draft.retained identifier = decisionFor reviews identifier := by
      rw [drafted.retained]
      apply decisionFor_filter
      intro decision named
      rw [named, Bool.not_eq_true', List.contains_eq_mem, decide_eq_false_iff_not]
      exact notChanged
    rw [decisionFor, List.find?_append]
    rw [decisionFor] at noReview kept
    rw [noReview, Option.or_none]
    exact kept

variable [DecidableEq Directory]

/-- Every approval of the packs of a repository is a decision about the body. -/
structure ApprovalsBound (env : RevisionEnvironment)
    (layout : Layout Directory) (state : Repository Directory) : Prop where
  sources : ∀ version source,
    resolveRevisionSource env layout state version = .ok source →
      ∀ bundle casesText reviewsText pack,
        state.files source.directory .cases = some casesText →
          state.files source.directory .reviews = some reviewsText →
            loadReferenceCasePack env.toPackEnvironment bundle casesText
                reviewsText = .ok pack →
              ∃ decisions, env.parseReviews reviewsText = .ok decisions ∧
                ∀ case ∈ pack.approvedCases,
                  ApprovedBy env.toPackEnvironment decisions case
  created : ∀ services spec output draft pack audit,
    draftRevision env layout state services spec output = .ok draft →
      draft.audited env services = .ok (pack, audit) →
        ∀ case ∈ pack.approvedCases, case.externalCaseId ∉ spec.changedIds ∧
          ApprovedBy env.toPackEnvironment draft.retained case
  finalized : ∀ directory, state.files directory .finalization ≠ none →
    ∃ report source sourceCases sourceReviews attestation cases decisions,
      BoundRevision env layout state directory report source sourceCases
        sourceReviews attestation cases decisions

theorem created_of_invariant (readsBack : ReadsBack env)
    (canonical : CanonicalPack env layout start)
    (inv : PackInvariant env layout start state)
    {services : RevisionServices} {spec : CasePackRevisionSpec}
    {output : Directory} {pack : ReferenceCasePack}
    {audit : String × String × String × List (String × Json)}
    (drafts : draftRevision env layout state services spec output = .ok draft)
    (audits : draft.audited env services = .ok (pack, audit)) :
    ∀ case ∈ pack.approvedCases, case.externalCaseId ∉ spec.changedIds ∧
      ApprovedBy env.toPackEnvironment draft.retained case := by
  obtain ⟨isSpec, _, source, cases, reviews, drafted⟩ :=
    draftRevision_yields draft drafts
  obtain ⟨casesText, stored, parsed⟩ := drafted.casesFile
  have unapproved := drafted.unapproved (inv.unapproved canonical drafted.isSealed stored parsed)
  obtain ⟨read, decisions, loaded⟩ := audited_yields draft (pack, audit) audits
  have isRead := readsBack.cases draft.cases read loaded.parsedCases
  have isDecisions :=
    readsBack.reviews draft.retained decisions loaded.parsedReviews
  rw [isRead, isDecisions] at loaded
  intro case mem
  have approved := loaded.approvedBy unapproved case mem
  refine ⟨?_, approved⟩
  obtain ⟨decision, decisionMember, named, _⟩ := approved
  rw [← named, ← isSpec]
  exact retained_id drafted decisionMember

theorem approvalsBound_of_invariant (readsBack : ReadsBack env)
    (canonical : CanonicalPack env layout start) (inv : PackInvariant env layout start state) :
    ApprovalsBound env layout state where
  sources version source resolved bundle casesText reviewsText pack casesStored _
      loaded := by
    obtain ⟨read, decisions, isLoaded⟩ :=
      loadReferenceCasePack_yields bundle casesText reviewsText pack loaded
    have isSealed := resolveRevisionSource_yields version source resolved
    have unapproved := inv.unapproved canonical isSealed casesStored isLoaded.parsedCases
    exact ⟨decisions, isLoaded.parsedReviews, isLoaded.approvedBy unapproved⟩
  created services spec output draft pack audit drafts audits :=
    created_of_invariant readsBack canonical inv drafts audits
  finalized directory present := by
    obtain ⟨report, draft, source, cases, reviews, attestation, finalized⟩ :=
      inv.finalized directory present
    exact ⟨report, source, cases, reviews, attestation, draft.cases,
      draft.retained ++ attestation.reviews,
      boundRevision_of_finalizedFrom finalized⟩

/-- In every run from a canonical pack whose bodies have no approval, in which outside edits
leave the reports: approvals are bound to the bodies, the next step leaves a finalized revision,
and a finalization that raises changes nothing. -/
theorem approvalsBound_of_execution (readsBack : ReadsBack env)
    (injective : Function.Injective env.fileSha256) (canonical : CanonicalPack env layout start)
    {labels : List (PackLabel Directory)}
    (exec : Execution (Guarded (ForgesNoReport env) (PackStep env layout)) start labels state) :
    ApprovalsBound env layout state ∧ (∀ label after, ForgesNoReport env state label →
        PackStep env layout state label after → ∀ directory,
          state.files directory .finalization ≠ none → ∀ file,
            after.files directory file = state.files directory file) ∧
      ∀ services output attestation raised,
        (finalizeCasePackRevision env layout state services output attestation).2 = .error raised →
          (finalizeCasePackRevision env layout state services output attestation).1 = state := by
  have inv := packInvariant_of_execution readsBack injective canonical exec
  refine ⟨approvalsBound_of_invariant readsBack canonical inv, ?_, ?_⟩
  · intro label after leaves taken directory present file
    have kept := (packInvariant_of_step readsBack injective canonical inv leaves taken).2
    exact kept directory (Or.inr present) file
  · intro services output attestation raised isRaised
    cases ran : finalizeRevision env layout state services output attestation with
    | error own =>
      simp only [finalizeCasePackRevision, finalizeWrites, ran]
      rfl
    | ok finalized =>
      simp only [finalizeCasePackRevision, ran] at isRaised
      cases isRaised

end Bound

def gateCase (review : CaseReview) : ReferenceCase where
  externalCaseId := "KO-RAG-001"
  category := .ragSingleDocument
  title := "Gate and deployment"
  inputPayload := .obj [("query", .str "Does an approved Gate deploy?")]
  expectedOutput := none
  referenceContext := some (.obj [("rag", .obj
    [("query", .str "Does an approved Gate deploy?"),
      ("relevant_chunk_ids", .arr [.str "ko-gate"]),
      ("corpus_id", .str "handbook"), ("corpus_version", .str "1.0.0"),
      ("top_k", .int 5)])])
  expectedToolSchema := none
  criticality := .critical
  weight := 2
  review := review
  tags := []

def draftReview : CaseReview :=
  ⟨.draft, none, none, none⟩

def ownReview : CaseReview :=
  ⟨.approved, some "casey", some "2026-07-01T00:00:00+00:00", some "Checked."⟩

def gateDecision : CaseReviewDecision where
  externalCaseId := "KO-RAG-001"
  caseSha256 := (gateCase draftReview).body.canonicalText
  approves := true
  reviewer := "casey"
  reviewedAt := "2026-07-01T00:00:00+00:00"
  notes := "Checked."

def gateSpec : CasePackRevisionSpec where
  revisionId := "1.1.0"
  sourceWorkloadVersion := "1.0.0"
  revisionNumbers := [1, 1, 0]
  sourceNumbers := [1, 0, 0]
  queryStrategy := "case_specific"
  changes :=
    [{ externalCaseId := "KO-RAG-001"
       retrievalQuery := "Gate approval and deployment"
       relevantChunkIds := ["ko-deployment"]
       acceptableEvidenceGroups := none
       requiredFacts := none
       acceptableRequiredFactGroups := none
       topK := 5
       expectedSourcePath := "docs/deployment_gate.md"
       expectedHeading := "Approval"
       rationale := "The heading on approval answers the question." }]
  changed := by decide
  unique := by decide

def handbookServices : RevisionServices where
  buildReferenceCorpus _ := .ok
    { chunks :=
        [⟨"ko-gate", "docs/deployment_gate.md", "Gate", .null⟩,
          ⟨"ko-deployment", "docs/deployment_gate.md", "Approval", .null⟩]
      corpusId := "handbook"
      corpusVersion := "1.0.0"
      minimumActiveCases := 40
      minimumCriticalCases := 15 }
  expectedRanks _ _ chunkIds := .obj (chunkIds.map (fun chunkId =>
    (chunkId, .int 1)))
  buildRetrievalContractAudit _ _ changedIds := .ok ("audit", "digest", "passed",
    changedIds.map (fun identifier => (identifier, .null)))
  generatedAt := "2026-07-02T00:00:00+00:00"

def handbookLayout : Layout String where
  canonical := "reference_workload"
  revisions version := "reference_workload/revisions/" ++ version
  isWithin directory := "reference_workload".toList.isPrefixOf directory.toList

def handbookManifest : List (String × Json) :=
  [("workload_version", .str "1.0.0")]

/-- A line of `cases.jsonl`, with the review of the body. -/
def caseLine (case : ReferenceCase) : String :=
  (Json.obj [("case", case.body), ("review", .obj
    [("approved", .bool case.isApproved),
      ("reviewer", Json.optionText case.review.reviewer)])]).canonicalText ++ "\n"

def casesLines (cases : List ReferenceCase) : String :=
  String.join (cases.map caseLine)

/-- The lines of `review_manifest.jsonl`. -/
def reviewLines (decisions : List CaseReviewDecision) : String :=
  String.join (decisions.map (fun decision => (Json.obj
    [("external_case_id", .str decision.externalCaseId),
      ("case_sha256", .str decision.caseSha256),
      ("approved", .bool decision.approves),
      ("reviewer", .str decision.reviewer),
      ("notes", .str decision.notes)]).canonicalText ++ "\n"))

def handbookPack (case : ReferenceCase) (ledger : List CaseReviewDecision) : Repository String where
  files directory file :=
    if directory = "reference_workload" then
      match file with
      | .manifest => some (Json.obj handbookManifest).canonicalText
      | .cases => some (casesLines [case])
      | .reviews => some (reviewLines ledger)
      | _ => none
    else none

section Known

variable {Value : Type}

def readKnown (known : List Value) (write : Value → String) (text : String) : Except String Value :=
  match known.find? (fun value => write value = text) with
  | some value => .ok value
  | none => .error "invalid"

def writeKnown [DecidableEq Value] (known : List Value) (write : Value → String)
    (value : Value) : String :=
  if value ∈ known then write value else "unknown"

theorem writeKnown_of_mem [DecidableEq Value] {known : List Value}
    {write : Value → String} {value : Value} (mem : value ∈ known) :
    writeKnown known write value = write value :=
  if_pos mem

theorem eq_of_readKnown_writeKnown [DecidableEq Value] {known : List Value} {write : Value → String}
    (distinct : ∀ value ∈ known, ∀ other ∈ known, write value = write other → value = other)
    (isKnown : ∀ value ∈ known, write value ≠ "unknown") {value read : Value}
    (reads : readKnown known write (writeKnown known write value) = .ok read) :
    read = value := by
  rw [readKnown] at reads
  split at reads
  · next found isFound =>
      have same : found = read := Except.ok.inj reads
      have mem := List.mem_of_find?_eq_some isFound
      have isText := List.find?_some isFound
      have text := of_decide_eq_true isText
      rw [writeKnown] at text
      split at text
      · next valueKnown =>
          rw [← same]
          exact distinct found mem value valueKnown text
      · exact absurd text (isKnown found mem)
  · cases reads

theorem readKnown_unknown {known : List Value} {write : Value → String}
    (isKnown : ∀ value ∈ known, write value ≠ "unknown") :
    readKnown known write "unknown" = .error "invalid" := by
  have missing : known.find? (fun value => write value = "unknown") = none := by
    apply List.find?_eq_none.mpr
    intro value mem isText
    exact isKnown value mem (of_decide_eq_true isText)
  rw [readKnown, missing]

end Known

def handbookEnvironment (packs : List (List ReferenceCase))
    (ledgers : List (List CaseReviewDecision)) : RevisionEnvironment where
  fileSha256 := id
  stableHash := Json.canonicalText
  parseObject text :=
    if text = (Json.obj handbookManifest).canonicalText then .ok handbookManifest
    else .error "invalid"
  serializeObject := fun members => (Json.obj members).canonicalText
  parseCases := readKnown packs casesLines
  serializeCases := writeKnown packs casesLines
  parseReviews := readKnown ([] :: ledgers) reviewLines
  serializeReviews := writeKnown ([] :: ledgers) reviewLines
  appendReviews text decisions :=
    if text = "" then writeKnown ([] :: ledgers) reviewLines decisions
    else "unknown"
  parseReport := fun _ => .error "invalid"
  serializeReport := fun report => report.hashed.canonicalText
  parseFinalization := fun _ => .error "invalid"
  serializeFinalization := fun finalization => finalization.hashed.canonicalText

def TellsApart {Value : Type} (known : List Value) (write : Value → String) :
    Prop :=
  (∀ value ∈ known, ∀ other ∈ known, write value = write other → value = other) ∧
    ∀ value ∈ known, write value ≠ "unknown"

theorem readsBack_handbookEnvironment {packs : List (List ReferenceCase)}
    {ledgers : List (List CaseReviewDecision)} (tellsPacks : TellsApart packs casesLines)
    (tellsLedgers : TellsApart ([] :: ledgers) reviewLines) :
    ReadsBack (handbookEnvironment packs ledgers) where
  cases _ _ := eq_of_readKnown_writeKnown tellsPacks.1 tellsPacks.2
  reviews _ _ := eq_of_readKnown_writeKnown tellsLedgers.1 tellsLedgers.2
  appended text more read parsed := by
    have isParsed : readKnown ([] :: ledgers) reviewLines
        (if text = "" then writeKnown ([] :: ledgers) reviewLines more
        else "unknown") = .ok read := parsed
    split at isParsed
    · next empty =>
        have isMore := eq_of_readKnown_writeKnown tellsLedgers.1 tellsLedgers.2 isParsed
        refine ⟨[], ?_, isMore⟩
        rw [empty]
        rfl
    · rw [readKnown_unknown tellsLedgers.2] at isParsed
      cases isParsed
  report _ _ read := by cases read

def revisedGateCases (review : CaseReview) : List ReferenceCase :=
  match gateSpec.changes.mapM (fun change =>
    reviseCase (gateCase review) change gateSpec.queryStrategy) with
  | .ok revised => revised
  | .error _ => []

def gateEnvironment (review : CaseReview) : RevisionEnvironment :=
  handbookEnvironment [[gateCase review], revisedGateCases review] [[gateDecision]]

theorem readsBack_gateEnvironment (review : CaseReview)
    (tellsPacks : TellsApart [[gateCase review], revisedGateCases review]
      casesLines) : ReadsBack (gateEnvironment review) := by
  apply readsBack_handbookEnvironment tellsPacks
  constructor <;> decide +kernel

theorem gatePack_alone {review : CaseReview} {ledger : List CaseReviewDecision} (directory : String)
    (file : PackFile) (present : (handbookPack (gateCase review) ledger).files directory file ≠
      none) : directory = handbookLayout.canonical := by
  by_contra elsewhere
  exact present (if_neg elsewhere)

theorem guarded_create {Directory : Type} [DecidableEq Directory] {env : RevisionEnvironment}
    {layout : Layout Directory} {state : Repository Directory} (services : RevisionServices)
    (spec : CasePackRevisionSpec) (output : Directory) :
    Guarded (ForgesNoReport env) (PackStep env layout) state (.create services spec output
        (createWrites env layout state services spec output).length)
      (createCasePackRevision env layout state services spec output).1 :=
  ⟨trivial, packStep_create services spec output⟩

theorem approvalsBound_gatePack :
    ∃ labels state, Execution (Guarded (ForgesNoReport (gateEnvironment draftReview))
        (PackStep (gateEnvironment draftReview) handbookLayout))
        (handbookPack (gateCase draftReview) [gateDecision]) labels state ∧
      state.files "reference_workload/revisions/1.1.0" .report ≠ none ∧
      ApprovalsBound (gateEnvironment draftReview) handbookLayout state := by
  have tellsPacks : TellsApart [[gateCase draftReview],
      revisedGateCases draftReview] casesLines := by
    constructor <;> decide +kernel
  have readsBack := readsBack_gateEnvironment draftReview tellsPacks
  have canonical : CanonicalPack (gateEnvironment draftReview) handbookLayout
      (handbookPack (gateCase draftReview) [gateDecision]) := by
    refine ⟨gatePack_alone, rfl, ?_⟩
    intro text cases stored parsed
    have isText : casesLines [gateCase draftReview] = text :=
      Option.some.inj stored
    have isKnown : writeKnown [[gateCase draftReview], revisedGateCases draftReview]
        casesLines [gateCase draftReview] = casesLines [gateCase draftReview] :=
      writeKnown_of_mem List.mem_cons_self
    have reads : readKnown [[gateCase draftReview], revisedGateCases draftReview]
        casesLines (casesLines [gateCase draftReview]) = .ok cases := by
      rw [isText]
      exact parsed
    rw [← isKnown] at reads
    have isCases := eq_of_readKnown_writeKnown tellsPacks.1 tellsPacks.2 reads
    intro case mem
    rw [isCases] at mem
    rw [List.mem_singleton.mp mem]
    rfl
  have exec := Execution.snoc (Execution.snoc .refl
      (@guarded_create _ _ (gateEnvironment draftReview) handbookLayout
        (handbookPack (gateCase draftReview) [gateDecision]) handbookServices
        gateSpec "reference_workload/revisions/1.1.0"))
    (guarded_create handbookServices gateSpec "reference_workload/revisions/1.1.0")
  refine ⟨_, _, exec, by decide +kernel, ?_⟩
  exact (approvalsBound_of_execution readsBack Function.injective_id canonical exec).1

/-- A body with an approval of its own and an empty ledger: the pack counts the case, and so
does a revision of it. -/
theorem approvalsBound_ownReview : ReadsBack (gateEnvironment ownReview) ∧
      Function.Injective (gateEnvironment ownReview).fileSha256 ∧
      (∀ directory file, (handbookPack (gateCase ownReview) []).files directory
        file ≠ none → directory = handbookLayout.canonical) ∧
      ((draftRevision (gateEnvironment ownReview) handbookLayout
          (handbookPack (gateCase ownReview) []) handbookServices gateSpec
          "reference_workload/revisions/1.1.0").bind (fun draft =>
        draft.audited (gateEnvironment ownReview) handbookServices)).toOption.map
          (fun audited => audited.1.approvedCases.map
            ReferenceCase.externalCaseId) = some gateSpec.changedIds ∧
      ¬ ApprovalsBound (gateEnvironment ownReview) handbookLayout
        (handbookPack (gateCase ownReview) []) := by
  have readsBack : ReadsBack (gateEnvironment ownReview) := by
    apply readsBack_gateEnvironment
    constructor <;> decide +kernel
  refine ⟨readsBack, Function.injective_id, gatePack_alone, by decide +kernel, ?_⟩
  intro bound
  have resolved : (resolveRevisionSource (gateEnvironment ownReview) handbookLayout
      (handbookPack (gateCase ownReview) []) "1.0.0").toOption.map
        RevisionSource.directory = some "reference_workload" := by
    decide +kernel
  have counted : (loadReferenceCasePack (gateEnvironment ownReview).toPackEnvironment
      ⟨[⟨"ko-gate", "docs/deployment_gate.md", "Gate", .null⟩], "handbook", "1.0.0",
        40, 15⟩ (casesLines [gateCase ownReview]) "").toOption.map
        ReferenceCasePack.approvedCases = some [gateCase ownReview] := by
    decide +kernel
  cases resolves : resolveRevisionSource (gateEnvironment ownReview) handbookLayout
      (handbookPack (gateCase ownReview) []) "1.0.0" with
  | error raised =>
    rw [resolves] at resolved
    cases resolved
  | ok source =>
    rw [resolves] at resolved
    have isCanonical : source.directory = "reference_workload" :=
      Option.some.inj resolved
    cases loads : loadReferenceCasePack (gateEnvironment ownReview).toPackEnvironment
        ⟨[⟨"ko-gate", "docs/deployment_gate.md", "Gate", .null⟩], "handbook",
          "1.0.0", 40, 15⟩ (casesLines [gateCase ownReview]) "" with
    | error raised =>
      rw [loads] at counted
      cases counted
    | ok pack =>
      rw [loads] at counted
      have isApproved : pack.approvedCases = [gateCase ownReview] :=
        Option.some.inj counted
      obtain ⟨decisions, parsed, approved⟩ := bound.sources "1.0.0" source
        resolves _ _ _ pack (by rw [isCanonical]; rfl)
        (by rw [isCanonical]; rfl) loads
      have noDecisions : [] = decisions := Except.ok.inj parsed
      obtain ⟨decision, mem, _⟩ := approved (gateCase ownReview) (by
        rw [isApproved]
        exact List.mem_singleton_self _)
      rw [← noDecisions] at mem
      cases mem

end ModelAtlas.CasePacks
