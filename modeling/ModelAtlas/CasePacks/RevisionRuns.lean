import ModelAtlas.CasePacks.Revisions
import ModelAtlas.Foundations.Execution

/-!
# Runs over case packs

What a creation and a finalization have checked, and the files that their writes
reach.  A crash leaves a first part of the writes of a call.
-/

namespace ModelAtlas.CasePacks

open Foundations

section Files

variable {Directory : Type} [DecidableEq Directory]
  {state : Repository Directory} {directory other : Directory}
  {writes : List (PackFile × String)} {file : PackFile}

theorem replaceAll_other (apart : other ≠ directory) :
    (state.replaceAll directory writes).files other file = state.files other file := by
  induction writes generalizing state with
  | nil => rfl
  | cons write rest ih =>
    have later := @ih (state.replace directory write.1 (some write.2))
    refine later.trans ?_
    exact if_neg (fun same => apart same.1)

theorem replaceAll_files : (state.replaceAll directory writes).files directory file =
        state.files directory file ∨
      ∃ write ∈ writes, write.1 = file ∧ (state.replaceAll directory writes).files directory file =
          some write.2 := by
  induction writes generalizing state with
  | nil => exact Or.inl rfl
  | cons write rest ih =>
    rcases @ih (state.replace directory write.1 (some write.2)) with
      kept | ⟨found, mem, isFile, holds⟩
    · by_cases own : file = write.1
      · right
        refine ⟨write, List.mem_cons_self, own.symm, kept.trans ?_⟩
        exact if_pos ⟨rfl, own⟩
      · left
        refine kept.trans ?_
        exact if_neg (fun same => own same.2)
    · exact Or.inr ⟨found, List.mem_cons_of_mem _ mem, isFile, holds⟩

theorem replaceAll_untouched (untouched : ∀ write ∈ writes, write.1 ≠ file) :
    (state.replaceAll directory writes).files directory file = state.files directory file := by
  rcases @replaceAll_files _ _ state directory writes file with
    kept | ⟨write, mem, isFile, _⟩
  · exact kept
  · exact absurd isFile (untouched write mem)

end Files

section Revised

variable {env : RevisionEnvironment} {services : RevisionServices}
  {bundle : ReferenceCorpusBundle} {spec : CasePackRevisionSpec}

theorem reviseCase_yields (case : ReferenceCase) (change : CaseRevisionChange)
    (queryStrategy : String) :
    Yields (reviseCase case change queryStrategy) (fun revised =>
      revised.externalCaseId = case.externalCaseId ∧ revised.review = case.review) := by
  rw [reviseCase]
  split
  · split
    · refine Yields.bind (Yields.self _) (fun reference _ => ?_)
      refine Yields.bind (Yields.self _) (fun _ _ => ?_)
      exact Yields.pure ⟨rfl, rfl⟩
    · exact Yields.error _
  · exact Yields.error _

structure RevisesCase (env : RevisionEnvironment)
    (spec : CasePackRevisionSpec) (case : ReferenceCase)
    (revised : ReferenceCase × Option RevisionChangeRow) : Prop where
  sameId : revised.1.externalCaseId = case.externalCaseId
  sameReview : revised.1.review = case.review
  unchanged : case.externalCaseId ∉ spec.changedIds → revised = (case, none)
  changed : case.externalCaseId ∈ spec.changedIds → ∃ row,
    revised.2 = some row ∧ row.externalCaseId = case.externalCaseId ∧
      row.revisedCaseSha256 =
        referenceCaseHash env.toPackEnvironment revised.1

theorem reviseSourceCase_yields (case : ReferenceCase) :
    Yields (reviseSourceCase env services bundle spec case) (RevisesCase env spec case) := by
  rw [reviseSourceCase]
  split
  · next missing =>
      have notChanged : case.externalCaseId ∉ spec.changedIds := by
        intro isChanged
        obtain ⟨change, mem, named⟩ := List.mem_map.mp isChanged
        have unnamed := List.find?_eq_none.mp missing change mem
        exact unnamed (decide_eq_true named)
      apply Yields.ok
      exact ⟨rfl, rfl, fun _ => rfl, fun isChanged =>
        absurd isChanged notChanged⟩
  · next change found =>
      have isChanged : case.externalCaseId ∈ spec.changedIds := by
        have named := List.find?_some found
        exact List.mem_map.mpr ⟨change, List.mem_of_find?_eq_some found, of_decide_eq_true named⟩
      refine Yields.bind (Yields.self _) (fun expectation _ => ?_)
      refine Yields.bind (Yields.self _) (fun chunks _ => ?_)
      refine Yields.check (fun _ => ?_)
      refine Yields.bind (reviseCase_yields case change spec.queryStrategy) (fun revised kept => ?_)
      refine Yields.bind (Yields.self _) (fun source _ => ?_)
      apply Yields.pure
      exact ⟨kept.1, kept.2, fun notChanged => absurd isChanged notChanged,
        fun _ => ⟨_, rfl, rfl, rfl⟩⟩

end Revised

section Draft

variable {Directory : Type}
  {env : RevisionEnvironment} {layout : Layout Directory}
  {state : Repository Directory} {services : RevisionServices}
  {spec : CasePackRevisionSpec} {output : Directory}

def Sealed (layout : Layout Directory) (state : Repository Directory)
    (directory : Directory) : Prop :=
  directory = layout.canonical ∨ state.files directory .finalization ≠ none

theorem read_yields (directory : Directory) (file : PackFile) (label : String) :
    Yields (state.read directory file label) (fun text =>
      state.files directory file = some text) := by
  rw [Repository.read]
  split
  · exact Yields.error _
  · next text stored => exact Yields.ok stored

theorem resolveFinalizedSource_yields (version : String) :
    Yields (resolveFinalizedSource env layout state version)
      (fun source => state.files source.directory .finalization ≠ none) := by
  unfold resolveFinalizedSource
  refine Yields.check (fun _ => ?_)
  refine Yields.bind (Yields.self _) (fun manifest _ => ?_)
  refine Yields.check (fun _ => ?_)
  refine Yields.bind (Yields.self _) (fun reportText _ => ?_)
  refine Yields.bind (Yields.self _) (fun report _ => ?_)
  refine Yields.check (fun _ => ?_)
  refine Yields.bind (read_yields _ _ _) (fun finalizationText stored => ?_)
  refine Yields.bind (Yields.self _) (fun finalization _ => ?_)
  refine Yields.check (fun _ => ?_)
  refine Yields.bind (Yields.self _) (fun manifestText _ => ?_)
  refine Yields.check (fun _ => ?_)
  refine Yields.bind (Yields.self _) (fun casesText _ => ?_)
  refine Yields.check (fun _ => ?_)
  refine Yields.bind (Yields.self _) (fun reviewsText _ => ?_)
  refine Yields.check (fun _ => ?_)
  apply Yields.pure
  rw [stored]
  exact Option.some_ne_none _

theorem resolveRevisionSource_yields (version : String) :
    Yields (resolveRevisionSource env layout state version)
      (fun source => Sealed layout state source.directory) := by
  unfold resolveRevisionSource
  refine Yields.bind (Yields.self _) (fun canonical _ => ?_)
  split
  · exact Yields.pure (Or.inl rfl)
  · exact (resolveFinalizedSource_yields version).mono (fun source finalized => Or.inr finalized)

structure DraftedFrom (env : RevisionEnvironment)
    (layout : Layout Directory) (state : Repository Directory)
    (draft : RevisionDraft) (source : Directory) (cases : List ReferenceCase)
    (reviews : List CaseReviewDecision) : Prop where
  isSealed : Sealed layout state source
  casesFile : ∃ text, state.files source .cases = some text ∧
    env.parseCases text = .ok cases
  reviewsFile : ∃ text, state.files source .reviews = some text ∧
    env.parseReviews text = .ok reviews
  known : ∀ identifier ∈ draft.spec.changedIds, ∃ case ∈ cases,
    case.externalCaseId = identifier
  revised : ∀ item ∈ draft.revised, ∃ case ∈ cases,
    RevisesCase env draft.spec case item
  all : ∀ case ∈ cases, ∃ item ∈ draft.revised,
    RevisesCase env draft.spec case item
  retained : draft.retained = reviews.filter (fun decision =>
    !draft.spec.changedIds.contains decision.externalCaseId)

variable [DecidableEq Directory]

theorem draftRevision_yields : Yields (draftRevision env layout state services spec output)
      (fun draft => draft.spec = spec ∧ ¬ Sealed layout state output ∧ ∃ source cases reviews,
          DraftedFrom env layout state draft source cases reviews) := by
  unfold draftRevision
  refine Yields.check (fun notCanonical => ?_)
  refine Yields.check (fun _ => ?_)
  refine Yields.check (fun notFinalized => ?_)
  refine Yields.check (fun _ => ?_)
  refine Yields.bind (resolveRevisionSource_yields spec.sourceWorkloadVersion)
    (fun source isSealed => ?_)
  refine Yields.bind (Yields.self _) (fun manifestText _ => ?_)
  refine Yields.bind (Yields.self _) (fun manifest _ => ?_)
  refine Yields.bind (Yields.self _) (fun bundle _ => ?_)
  refine Yields.bind (read_yields _ _ _) (fun casesText storedCases => ?_)
  refine Yields.bind (loadCaseContracts_yields casesText) (fun cases parsedCases => ?_)
  refine Yields.bind (read_yields _ _ _) (fun reviewsText storedReviews => ?_)
  refine Yields.bind (loadReviewDecisions_yields reviewsText) (fun reviews parsedReviews => ?_)
  refine Yields.check (fun noneMissing => ?_)
  refine Yields.bind (Yields.self _) (fun revised mapped => ?_)
  apply Yields.ok
  refine ⟨rfl, ?_, source.directory, cases, reviews, isSealed,
    ⟨casesText, storedCases, parsedCases.1⟩,
    ⟨reviewsText, storedReviews, parsedReviews.1⟩, ?_, ?_, ?_, rfl⟩
  · rintro (canonical | finalized)
    · exact notCanonical canonical
    · exact notFinalized (Option.isSome_iff_ne_none.mpr finalized)
  · intro identifier isChanged
    rw [Bool.not_eq_true', Bool.not_eq_false, List.isEmpty_iff] at noneMissing
    have found := List.filter_eq_nil_iff.mp noneMissing identifier isChanged
    rw [Bool.not_eq_true', Bool.not_eq_false, List.any_eq_true] at found
    obtain ⟨case, mem, named⟩ := found
    exact ⟨case, mem, of_decide_eq_true named⟩
  · intro item mem
    obtain ⟨case, caseMem, made⟩ := exists_of_mapM_eq_ok mapped item mem
    exact ⟨case, caseMem, reviseSourceCase_yields case item made⟩
  · intro case mem
    obtain ⟨item, itemMem, made⟩ :=
      exists_image_of_mapM_eq_ok mapped case mem
    exact ⟨item, itemMem, reviseSourceCase_yields case item made⟩

theorem audited_yields (draft : RevisionDraft) : Yields (draft.audited env services) (fun audited =>
      ∃ cases decisions, LoadedPack env.toPackEnvironment
        (draft.casesText env) (draft.reviewsText env) audited.1
        cases decisions) := by
  unfold RevisionDraft.audited
  refine Yields.bind (Yields.self _) (fun bundle _ => ?_)
  refine Yields.bind (loadReferenceCasePack_yields bundle _ _) (fun pack loaded => ?_)
  refine Yields.bind (Yields.self _) (fun audit _ => ?_)
  exact Yields.pure loaded

structure ReportsDraft (env : RevisionEnvironment)
    (report : RevisionReport) (draft : RevisionDraft) : Prop where
  cases : report.artifactIdentity.casesSha256 =
    env.fileSha256 (draft.casesText env)
  reviews : report.artifactIdentity.reviewsSha256 =
    env.fileSha256 (draft.reviewsText env)
  rows : ∀ row ∈ report.changes, ∃ item ∈ draft.revised, ∃ own,
    item.2 = some own ∧ row.externalCaseId = own.externalCaseId ∧
      row.revisedCaseSha256 = own.revisedCaseSha256
  allRows : ∀ item ∈ draft.revised, ∀ own, item.2 = some own →
    ∃ row ∈ report.changes, row.externalCaseId = own.externalCaseId

theorem auditedRow_yields (auditRows : List (String × Json)) (row : RevisionChangeRow) :
    Yields (RevisionDraft.auditedRow auditRows row) (fun audited =>
      audited.externalCaseId = row.externalCaseId ∧
        audited.revisedCaseSha256 = row.revisedCaseSha256) := by
  rw [RevisionDraft.auditedRow]
  split
  · exact Yields.error _
  · exact Yields.ok ⟨rfl, rfl⟩

theorem report_yields (draft : RevisionDraft) (pack : ReferenceCasePack)
    (audit : String × String × String × List (String × Json)) :
    Yields (draft.report env services pack audit)
      (fun report => ReportsDraft env report draft) := by
  unfold RevisionDraft.report
  refine Yields.bind (Yields.self _) (fun rows mapped => ?_)
  apply Yields.pure
  refine ⟨rfl, rfl, ?_, ?_⟩
  · intro row mem
    obtain ⟨own, ownMem, made⟩ := exists_of_mapM_eq_ok mapped row mem
    obtain ⟨item, itemMem, isOwn⟩ := List.mem_filterMap.mp ownMem
    have same := auditedRow_yields _ own row made
    exact ⟨item, itemMem, own, isOwn, same.1, same.2⟩
  · intro item mem own isOwn
    have ownMem : own ∈ draft.revised.filterMap Prod.snd :=
      List.mem_filterMap.mpr ⟨item, mem, isOwn⟩
    obtain ⟨row, rowMem, made⟩ :=
      exists_image_of_mapM_eq_ok mapped own ownMem
    exact ⟨row, rowMem, (auditedRow_yields _ own row made).1⟩

theorem createWrites_mem {write : PackFile × String}
    (mem : write ∈ createWrites env layout state services spec output) :
    ¬ Sealed layout state output ∧ write.1 ≠ .finalization ∧
      (write.1 = .report → ∃ report draft source cases reviews,
        write.2 = env.serializeReport report ∧
        DraftedFrom env layout state draft source cases reviews ∧
        ReportsDraft env report draft) := by
  rw [createWrites] at mem
  split at mem
  · cases mem
  · next draft drafted =>
      obtain ⟨_, notSealed, source, cases, reviews, draftedFrom⟩ :=
        draftRevision_yields draft drafted
      refine ⟨notSealed, ?_⟩
      rw [List.mem_append] at mem
      rcases mem with first | mem
      · simp only [List.mem_cons, List.not_mem_nil, or_false] at first
        rcases first with rfl | rfl | rfl
        · exact ⟨nofun, nofun⟩
        · exact ⟨nofun, nofun⟩
        · exact ⟨nofun, nofun⟩
      · split at mem
        · cases mem
        · next pack audit audited =>
            rcases List.mem_cons.mp mem with rfl | mem
            · exact ⟨nofun, nofun⟩
            · split at mem
              · cases mem
              · next report reported =>
                  rw [List.mem_singleton] at mem
                  rw [mem]
                  exact ⟨nofun, fun _ => ⟨report, draft, source, cases, reviews,
                    rfl, draftedFrom, report_yields draft pack audit report reported⟩⟩

end Draft

section Finalization

variable {Directory : Type}
  {env : RevisionEnvironment} {layout : Layout Directory}
  {state : Repository Directory} {services : RevisionServices}
  {attestation : CaseRevisionAttestation} {output : Directory}

theorem readReviewed_yields (file : PackFile) (name expected : String) :
    Yields (readReviewed env state output file name expected)
      (fun text => state.files output file = some text ∧ env.fileSha256 text = expected) := by
  unfold readReviewed
  refine Yields.bind (read_yields _ _ _) (fun text stored => ?_)
  refine Yields.check (fun same => ?_)
  exact Yields.pure ⟨stored, not_not.mp same⟩

def RevisionReport.SelfHashed (env : RevisionEnvironment) (report : RevisionReport) : Prop :=
  report.reportSha256 = env.stableHash report.hashed

theorem loadRevisionReport_yields : Yields (loadRevisionReport env state output) (fun report =>
      report.SelfHashed env ∧ ∃ text, state.files output .report = some text ∧
          env.parseReport text = .ok report) := by
  unfold loadRevisionReport
  refine Yields.bind (read_yields _ _ _) (fun text stored => ?_)
  refine Yields.bind (Yields.self _) (fun report parsed => ?_)
  refine Yields.check (fun _ => ?_)
  refine Yields.check (fun hashed => ?_)
  exact Yields.pure ⟨not_not.mp hashed, text, stored, parsed⟩

structure Attests (report : RevisionReport)
    (attestation : CaseRevisionAttestation) : Prop where
  bound : attestation.revisionReportSha256 = report.reportSha256
  decides : ∀ decision ∈ attestation.decisions, ∃ row ∈ report.changes,
    row.externalCaseId = decision.externalCaseId
  all : ∀ row ∈ report.changes, ∃ decision ∈ attestation.decisions,
    decision.externalCaseId = row.externalCaseId

theorem checkAttestation_yields (report : RevisionReport) :
    Yields (checkAttestation report attestation) (fun _ => Attests report attestation) := by
  unfold checkAttestation
  refine Yields.check (fun _ => ?_)
  refine Yields.check (fun _ => ?_)
  refine Yields.check (fun bound => ?_)
  refine Yields.check (fun decided => ?_)
  rw [Bool.not_eq_true', Bool.not_eq_false, Bool.and_eq_true, List.all_eq_true,
    List.all_eq_true] at decided
  intro _ _
  refine ⟨not_not.mp bound, ?_, ?_⟩
  · intro decision mem
    obtain ⟨row, found⟩ := Option.isSome_iff_exists.mp (decided.1 decision mem)
    have named := List.find?_some found
    have isRow := List.mem_of_find?_eq_some found
    exact ⟨row, List.mem_reverse.mp isRow, of_decide_eq_true named⟩
  · intro row mem
    obtain ⟨decision, isDecision, named⟩ := List.any_eq_true.mp (decided.2 row mem)
    exact ⟨decision, isDecision, of_decide_eq_true named⟩

structure FinalizesFrom (env : RevisionEnvironment)
    (layout : Layout Directory) (state : Repository Directory)
    (output : Directory) (attestation : CaseRevisionAttestation)
    (report : RevisionReport) (casesText retainedText : String)
    (finalized : FinalizedRevision) : Prop where
  notCanonical : output ≠ layout.canonical
  selfHashed : report.SelfHashed env
  reportFile : ∃ text, state.files output .report = some text ∧
    env.parseReport text = .ok report
  casesFile : state.files output .cases = some casesText
  casesHash : env.fileSha256 casesText =
    report.artifactIdentity.casesSha256
  reviewsFile : state.files output .reviews = some retainedText
  reviewsHash : env.fileSha256 retainedText =
    report.artifactIdentity.reviewsSha256
  attests : Attests report attestation
  appended : finalized.reviewsText =
    env.appendReviews retainedText attestation.reviews
  loaded : ∃ cases decisions, LoadedPack env.toPackEnvironment casesText
    finalized.reviewsText finalized.pack cases decisions

theorem finalizeRevision_yields [DecidableEq Directory] :
    Yields (finalizeRevision env layout state services output attestation)
      (fun finalized => ∃ report casesText retainedText,
        FinalizesFrom env layout state output attestation report
          casesText retainedText finalized) := by
  unfold finalizeRevision
  refine Yields.check (fun isolated => ?_)
  refine Yields.bind loadRevisionReport_yields (fun report reportFile => ?_)
  refine Yields.bind (Yields.self _) (fun manifestText _ => ?_)
  refine Yields.bind (readReviewed_yields _ _ _) (fun casesText casesFile => ?_)
  refine Yields.bind (readReviewed_yields _ _ _) (fun retainedText reviewsFile => ?_)
  refine Yields.bind (checkAttestation_yields report) (fun _ attests => ?_)
  refine Yields.bind (Yields.self _) (fun bundle _ => ?_)
  refine Yields.bind (loadReferenceCasePack_yields bundle _ _) (fun pack loaded => ?_)
  apply Yields.ok
  rw [Bool.or_eq_true, not_or, decide_eq_true_eq] at isolated
  exact ⟨report, casesText, retainedText, isolated.1, reportFile.1, reportFile.2,
    casesFile.1, casesFile.2, reviewsFile.1, reviewsFile.2, attests, rfl, loaded⟩

end Finalization

/-- The calls and the outside edits; `done` files are replaced before a crash. -/
inductive PackLabel (Directory : Type) where
  | create (services : RevisionServices) (spec : CasePackRevisionSpec)
      (output : Directory) (done : Nat)
  | finalize (services : RevisionServices)
      (attestation : CaseRevisionAttestation) (output : Directory) (done : Nat)
  | edit (directory : Directory) (file : PackFile) (content : Option String)

inductive PackStep {Directory : Type} [DecidableEq Directory]
    (env : RevisionEnvironment) (layout : Layout Directory) :
    Repository Directory → PackLabel Directory → Repository Directory → Prop
  | create {state : Repository Directory} (services : RevisionServices)
      (spec : CasePackRevisionSpec) (output : Directory) (done : Nat) :
      PackStep env layout state (.create services spec output done)
        (state.replaceAll output ((createWrites env layout state services
          spec output).take done))
  | finalize {state : Repository Directory} (services : RevisionServices)
      (attestation : CaseRevisionAttestation) (output : Directory) (done : Nat) :
      PackStep env layout state
        (.finalize services attestation output done)
        (state.replaceAll output ((finalizeWrites env layout state
          services output attestation).take done))
  | edit {state : Repository Directory} {directory : Directory}
      (file : PackFile) (content : Option String)
      (notSealed : ¬ Sealed layout state directory) :
      PackStep env layout state (.edit directory file content)
        (state.replace directory file content)

theorem packStep_create {Directory : Type} [DecidableEq Directory] {env : RevisionEnvironment}
    {layout : Layout Directory} {state : Repository Directory} (services : RevisionServices)
    (spec : CasePackRevisionSpec) (output : Directory) :
    PackStep env layout state (.create services spec output
        (createWrites env layout state services spec output).length)
      (createCasePackRevision env layout state services spec output).1 := by
  have taken := @PackStep.create Directory _ env layout state services spec
    output (createWrites env layout state services spec output).length
  rw [List.take_length] at taken
  exact taken

end ModelAtlas.CasePacks
