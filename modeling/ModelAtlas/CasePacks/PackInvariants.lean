import ModelAtlas.CasePacks.RevisionRuns

/-!
# Invariant of the packs

The reports of a repository were made from packs that are kept, and a finalized
revision holds what its report and its attestation say.
-/

namespace ModelAtlas.CasePacks

open Foundations

variable {draft : RevisionDraft} {cases : List ReferenceCase} {reviews : List CaseReviewDecision}
  {report : RevisionReport} {attestation : CaseRevisionAttestation}
  {casesText retainedText : String} {finalized : FinalizedRevision} {services : RevisionServices}
  {done : Nat}

structure ReadsBack (env : RevisionEnvironment) : Prop where
  cases : ∀ cases read,
    env.parseCases (env.serializeCases cases) = .ok read →
      read = cases
  reviews : ∀ decisions read,
    env.parseReviews (env.serializeReviews decisions) =
      .ok read → read = decisions
  appended : ∀ text more read,
    env.parseReviews (env.appendReviews text more) = .ok read →
      ∃ earlier, env.parseReviews text = .ok earlier ∧
        read = earlier ++ more
  report : ∀ report read,
    env.parseReport (env.serializeReport report) = .ok read →
      read = report

structure CanonicalPack {Directory : Type} (env : RevisionEnvironment)
    (layout : Layout Directory) (start : Repository Directory) : Prop where
  alone : ∀ directory file, start.files directory file ≠ none →
    directory = layout.canonical
  noFinalization : start.files layout.canonical .finalization = none
  unapproved : ∀ text cases, start.files layout.canonical .cases = some text →
    env.parseCases text = .ok cases → UnapprovedBodies cases

def ForgesNoReport {Directory : Type} (env : RevisionEnvironment)
    (_ : Repository Directory) : PackLabel Directory → Prop
  | .edit _ file content => ∀ text, content = some text →
      file ≠ .finalization ∧ (file = .report → ∀ report, env.parseReport text = .ok report →
          ¬ report.SelfHashed env)
  | _ => True

section Invariant

variable {Directory : Type}
  {env : RevisionEnvironment} {layout : Layout Directory}
  {start state before after : Repository Directory}

structure FinalizedFrom (env : RevisionEnvironment)
    (layout : Layout Directory) (state : Repository Directory)
    (directory : Directory) (report : RevisionReport) (draft : RevisionDraft)
    (source : Directory) (cases : List ReferenceCase)
    (reviews : List CaseReviewDecision)
    (attestation : CaseRevisionAttestation) : Prop where
  drafted : DraftedFrom env layout state draft source cases reviews
  reports : ReportsDraft env report draft
  unapproved : UnapprovedBodies cases
  reportFile : state.files directory .report =
    some (env.serializeReport report)
  casesFile : state.files directory .cases = some (draft.casesText env)
  parsedCases : env.parseCases (draft.casesText env) =
    .ok draft.cases
  reviewsFile : ∃ text, state.files directory .reviews = some text ∧
    env.parseReviews text = .ok (draft.retained ++ attestation.reviews)
  attests : Attests report attestation

structure PackInvariant (env : RevisionEnvironment)
    (layout : Layout Directory) (start state : Repository Directory) : Prop where
  canonical : ∀ file, state.files layout.canonical file =
    start.files layout.canonical file
  reports : ∀ directory text own, directory ≠ layout.canonical →
    state.files directory .report = some text →
    env.parseReport text = .ok own → own.SelfHashed env →
      ∃ report draft source cases reviews,
        text = env.serializeReport report ∧
        DraftedFrom env layout state draft source cases reviews ∧
        ReportsDraft env report draft ∧ UnapprovedBodies cases
  finalized : ∀ directory, state.files directory .finalization ≠ none →
    ∃ report draft source cases reviews attestation,
      FinalizedFrom env layout state directory report draft source cases
        reviews attestation

theorem packInvariant_start (canonical : CanonicalPack env layout start) :
    PackInvariant env layout start start where
  canonical _ := rfl
  reports directory text own notCanonical stored _ _ := by
    have present : start.files directory .report ≠ none := by
      rw [stored]
      exact Option.some_ne_none text
    exact absurd (canonical.alone directory .report present) notCanonical
  finalized directory present := by
    rw [canonical.alone directory .finalization present] at present
    exact absurd canonical.noFinalization present

theorem DraftedFrom.unapproved {source : Directory}
    (drafted : DraftedFrom env layout state draft source cases reviews)
    (unapproved : UnapprovedBodies cases) : UnapprovedBodies draft.cases := by
  intro case mem
  obtain ⟨item, itemMem, rfl⟩ := List.mem_map.mp mem
  obtain ⟨own, ownMem, revises⟩ := drafted.revised item itemMem
  have ownUnapproved := unapproved own ownMem
  rw [ReferenceCase.isApproved] at ownUnapproved ⊢
  rw [revises.sameReview]
  exact ownUnapproved

theorem PackInvariant.unapproved (inv : PackInvariant env layout start state)
    (canonical : CanonicalPack env layout start) {source : Directory}
    (isSealed : Sealed layout state source) {text : String}
    (stored : state.files source .cases = some text) (parsed : env.parseCases text = .ok cases) :
    UnapprovedBodies cases := by
  rcases isSealed with rfl | finalized
  · rw [inv.canonical] at stored
    exact canonical.unapproved text cases stored parsed
  · obtain ⟨report, draft, origin, own, reviews, attestation, from_⟩ :=
      inv.finalized source finalized
    have sameText : draft.casesText env = text := by
      have same := from_.casesFile
      rw [stored] at same
      exact (Option.some.inj same).symm
    have sameCases : draft.cases = cases := by
      have own := from_.parsedCases
      rw [sameText, parsed] at own
      exact (Except.ok.inj own).symm
    rw [← sameCases]
    exact from_.drafted.unapproved from_.unapproved

def SealedKept (layout : Layout Directory) (before after : Repository Directory) :
    Prop :=
  ∀ directory, Sealed layout before directory → ∀ file,
    after.files directory file = before.files directory file

theorem SealedKept.isSealed (kept : SealedKept layout before after)
    {directory : Directory} (isSealed : Sealed layout before directory) :
    Sealed layout after directory := by
  rcases isSealed with canonical | finalized
  · exact Or.inl canonical
  · right
    rw [kept directory (Or.inr finalized)]
    exact finalized

theorem DraftedFrom.kept {source : Directory}
    (drafted : DraftedFrom env layout before draft source cases reviews)
    (kept : SealedKept layout before after) :
    DraftedFrom env layout after draft source cases reviews :=
  { drafted with
    isSealed := kept.isSealed drafted.isSealed
    casesFile := by
      rw [kept source drafted.isSealed]
      exact drafted.casesFile
    reviewsFile := by
      rw [kept source drafted.isSealed]
      exact drafted.reviewsFile }

theorem FinalizedFrom.kept {directory source : Directory}
    (finalized : FinalizedFrom env layout before directory report draft
      source cases reviews attestation)
    (kept : SealedKept layout before after)
    (isSealed : Sealed layout before directory) :
    FinalizedFrom env layout after directory report draft source cases reviews attestation :=
  { finalized with
    drafted := finalized.drafted.kept kept
    reportFile := by
      rw [kept directory isSealed]
      exact finalized.reportFile
    casesFile := by
      rw [kept directory isSealed]
      exact finalized.casesFile
    reviewsFile := by
      rw [kept directory isSealed]
      exact finalized.reviewsFile }

theorem PackInvariant.report_kept (inv : PackInvariant env layout start before)
    (kept : SealedKept layout before after) {directory : Directory}
    {text : String} {own : RevisionReport}
    (notCanonical : directory ≠ layout.canonical)
    (stored : before.files directory .report = some text)
    (parsed : env.parseReport text = .ok own)
    (selfHashed : own.SelfHashed env) :
    ∃ report draft source cases reviews, text = env.serializeReport report ∧
      DraftedFrom env layout after draft source cases reviews ∧
      ReportsDraft env report draft ∧ UnapprovedBodies cases := by
  obtain ⟨report, draft, source, cases, reviews, isText, drafted, reports,
    unapproved⟩ := inv.reports directory text own notCanonical stored parsed selfHashed
  exact ⟨report, draft, source, cases, reviews, isText, drafted.kept kept, reports, unapproved⟩

theorem PackInvariant.finalized_kept (inv : PackInvariant env layout start before)
    (kept : SealedKept layout before after) {directory : Directory}
    (present : before.files directory .finalization ≠ none) :
    ∃ report draft source cases reviews attestation,
      FinalizedFrom env layout after directory report draft source cases reviews attestation := by
  obtain ⟨report, draft, source, cases, reviews, attestation, finalized⟩ :=
    inv.finalized directory present
  exact ⟨report, draft, source, cases, reviews, attestation, finalized.kept kept (Or.inr present)⟩

theorem finalizedTexts (readsBack : ReadsBack env) (injective : Function.Injective env.fileSha256)
    {output : Directory} {own : RevisionReport}
    (finalizes : FinalizesFrom env layout state output attestation report
      casesText retainedText finalized)
    (stored : state.files output .report = some (env.serializeReport own))
    (reports : ReportsDraft env own draft) :
    report = own ∧ casesText = draft.casesText env ∧ retainedText = draft.reviewsText env := by
  obtain ⟨text, isText, parsed⟩ := finalizes.reportFile
  rw [stored] at isText
  rw [← Option.some.inj isText] at parsed
  have sameReport := readsBack.report own report parsed
  have casesHash := finalizes.casesHash
  have reviewsHash := finalizes.reviewsHash
  rw [sameReport, reports.cases] at casesHash
  rw [sameReport, reports.reviews] at reviewsHash
  exact ⟨sameReport, injective casesHash, injective reviewsHash⟩

theorem notSealed_of_finalizes (readsBack : ReadsBack env)
    (injective : Function.Injective env.fileSha256) (inv : PackInvariant env layout start state)
    {output : Directory} (finalizes : FinalizesFrom env layout state output attestation report
      casesText retainedText finalized) :
    ¬ Sealed layout state output := by
  rintro (canonical | present)
  · exact finalizes.notCanonical canonical
  · obtain ⟨own, draft, source, cases, reviews, first, from_⟩ :=
      inv.finalized output present
    obtain ⟨_, _, sameText⟩ := finalizedTexts readsBack injective finalizes
      from_.reportFile from_.reports
    obtain ⟨text, stored, parsed⟩ := from_.reviewsFile
    rw [finalizes.reviewsFile] at stored
    rw [← Option.some.inj stored, sameText] at parsed
    have unchanged := readsBack.reviews draft.retained _ parsed
    have noReviews : first.reviews = [] :=
      List.append_right_eq_self.mp unchanged
    exact first.decided (List.map_eq_nil_iff.mp noReviews)

theorem finalizedFrom_of_finalizes (readsBack : ReadsBack env)
    (injective : Function.Injective env.fileSha256) (inv : PackInvariant env layout start before)
    {output : Directory} (finalizes : FinalizesFrom env layout before output attestation report
      casesText retainedText finalized)
    (kept : SealedKept layout before after)
    (reportKept : after.files output .report = before.files output .report)
    (casesKept : after.files output .cases = before.files output .cases)
    (reviewsWritten : after.files output .reviews = some finalized.reviewsText) :
    ∃ report draft source cases reviews attestation,
      FinalizedFrom env layout after output report draft source cases reviews attestation := by
  obtain ⟨text, stored, parsed⟩ := finalizes.reportFile
  obtain ⟨own, draft, source, cases, reviews, isText, drafted, reports,
    unapproved⟩ := inv.reports output text report finalizes.notCanonical
      stored parsed finalizes.selfHashed
  rw [isText] at stored
  obtain ⟨sameReport, sameCases, sameRetained⟩ := finalizedTexts readsBack
    injective finalizes stored reports
  obtain ⟨read, decisions, loaded⟩ := finalizes.loaded
  have parsedCases := loaded.parsedCases
  rw [sameCases] at parsedCases
  have isDraft := readsBack.cases draft.cases read parsedCases
  rw [isDraft] at parsedCases
  have parsedReviews := loaded.parsedReviews
  have appended := finalizes.appended
  rw [appended] at parsedReviews
  obtain ⟨earlier, parsedEarlier, isDecisions⟩ :=
    readsBack.appended _ _ _ parsedReviews
  rw [sameRetained] at parsedEarlier
  have isRetained := readsBack.reviews draft.retained earlier parsedEarlier
  rw [isDecisions, isRetained, ← appended] at parsedReviews
  refine ⟨own, draft, source, cases, reviews, attestation, drafted.kept kept,
    reports, unapproved, ?_, ?_, parsedCases,
    ⟨finalized.reviewsText, reviewsWritten, parsedReviews⟩, ?_⟩
  · rw [reportKept]
    exact stored
  · rw [casesKept, ← sameCases]
    exact finalizes.casesFile
  · rw [← sameReport]
    exact finalizes.attests

/-! ## Creations and edits -/

variable [DecidableEq Directory]

theorem sealedKept_create {spec : CasePackRevisionSpec} {output : Directory} :
    SealedKept layout before (before.replaceAll output
      ((createWrites env layout before services spec output).take done)) := by
  intro directory isSealed file
  by_cases own : directory = output
  · rw [own] at isSealed ⊢
    apply replaceAll_untouched
    intro write mem
    have written := createWrites_mem (List.mem_of_mem_take mem)
    exact absurd isSealed written.1
  · exact replaceAll_other own

theorem packInvariant_create (canonical : CanonicalPack env layout start)
    (inv : PackInvariant env layout start before) {spec : CasePackRevisionSpec}
    {output : Directory} :
    PackInvariant env layout start (before.replaceAll output
      ((createWrites env layout before services spec output).take done)) := by
  have kept : SealedKept layout before (before.replaceAll output ((createWrites
      env layout before services spec output).take done)) :=
    sealedKept_create
  constructor
  · intro file
    rw [kept layout.canonical (Or.inl rfl)]
    exact inv.canonical file
  · intro directory text read notCanonical stored isRead selfHashed
    by_cases own : directory = output
    · rw [own] at stored notCanonical
      rcases @replaceAll_files _ _ before output ((createWrites env layout
          before services spec output).take done) .report with
        same | ⟨write, mem, isReport, holds⟩
      · rw [same] at stored
        exact inv.report_kept kept notCanonical stored isRead selfHashed
      · obtain ⟨_, _, reported⟩ :=
          createWrites_mem (List.mem_of_mem_take mem)
        obtain ⟨report, draft, source, cases, reviews, isText, drafted, reports⟩ :=
          reported isReport
        obtain ⟨casesText, casesStored, parsed⟩ := drafted.casesFile
        have unapproved := inv.unapproved canonical drafted.isSealed casesStored parsed
        refine ⟨report, draft, source, cases, reviews, ?_, drafted.kept kept, reports, unapproved⟩
        rw [holds] at stored
        rw [← Option.some.inj stored]
        exact isText
    · rw [replaceAll_other own] at stored
      exact inv.report_kept kept notCanonical stored isRead selfHashed
  · intro directory present
    apply inv.finalized_kept kept
    by_cases own : directory = output
    · rw [own] at present ⊢
      rw [replaceAll_untouched (fun write mem =>
        (createWrites_mem (List.mem_of_mem_take mem)).2.1)] at present
      exact present
    · rw [replaceAll_other own] at present
      exact present

theorem sealedKept_edit {directory : Directory} {file : PackFile}
    {content : Option String} (notSealed : ¬ Sealed layout before directory) :
    SealedKept layout before (before.replace directory file content) := by
  intro other isSealed otherFile
  apply if_neg
  rintro ⟨rfl, _⟩
  exact notSealed isSealed

theorem packInvariant_edit (inv : PackInvariant env layout start before) {directory : Directory}
    {file : PackFile} {content : Option String} (notSealed : ¬ Sealed layout before directory)
    (forgesNone : ForgesNoReport env before (.edit directory file content)) :
    PackInvariant env layout start (before.replace directory file content) := by
  have kept : SealedKept layout before (before.replace directory file content) :=
    sealedKept_edit notSealed
  constructor
  · intro own
    rw [kept layout.canonical (Or.inl rfl)]
    exact inv.canonical own
  · intro other text read notCanonical stored isRead selfHashed
    by_cases own : other = directory ∧ .report = file
    · have written : content = some text := (if_pos own).symm.trans stored
      obtain ⟨_, unsigned⟩ := forgesNone text written
      exact absurd selfHashed (unsigned own.2.symm read isRead)
    · have untouched : before.files other .report = some text :=
        (if_neg own).symm.trans stored
      exact inv.report_kept kept notCanonical untouched isRead selfHashed
  · intro other present
    by_cases own : other = directory ∧ .finalization = file
    · obtain ⟨text, isText⟩ := Option.ne_none_iff_exists'.mp present
      have written : content = some text := (if_pos own).symm.trans isText
      exact absurd own.2.symm (forgesNone text written).1
    · have untouched : before.files other .finalization ≠ none := by
        intro missing
        exact present ((if_neg own).trans missing)
      exact inv.finalized_kept kept untouched

theorem finalizeWrites_mem {output : Directory} {write : PackFile × String}
    (mem : write ∈ finalizeWrites env layout state services output attestation) :
    ∃ report casesText retainedText finalized,
      FinalizesFrom env layout state output attestation report casesText retainedText finalized ∧
      finalizeWrites env layout state services output attestation = finalized.writes env ∧
      (write.1 = .reviews ∨ write.1 = .finalization) := by
  cases ran : finalizeRevision env layout state services output attestation with
  | error raised =>
    rw [finalizeWrites, ran] at mem
    cases mem
  | ok finalized =>
    have isWrites : finalizeWrites env layout state services output
        attestation = finalized.writes env := by
      rw [finalizeWrites, ran]
    obtain ⟨report, casesText, retainedText, finalizes⟩ :=
      finalizeRevision_yields finalized ran
    rw [isWrites, FinalizedRevision.writes, List.mem_cons, List.mem_singleton] at mem
    refine ⟨report, casesText, retainedText, finalized, finalizes, isWrites, ?_⟩
    rcases mem with rfl | rfl
    · exact Or.inl rfl
    · exact Or.inr rfl

theorem sealedKept_finalize (readsBack : ReadsBack env)
    (injective : Function.Injective env.fileSha256)
    (inv : PackInvariant env layout start before) {output : Directory} :
    SealedKept layout before (before.replaceAll output ((finalizeWrites env
      layout before services output attestation).take done)) := by
  intro directory isSealed file
  by_cases own : directory = output
  · rw [own] at isSealed ⊢
    apply replaceAll_untouched
    intro write mem
    obtain ⟨report, casesText, retainedText, finalized, finalizes, _⟩ :=
      finalizeWrites_mem (List.mem_of_mem_take mem)
    exact absurd isSealed (notSealed_of_finalizes readsBack injective inv finalizes)
  · exact replaceAll_other own

theorem packInvariant_finalize (readsBack : ReadsBack env)
    (injective : Function.Injective env.fileSha256)
    (inv : PackInvariant env layout start before) {output : Directory} :
    PackInvariant env layout start (before.replaceAll output
      ((finalizeWrites env layout before services output attestation).take done)) := by
  have kept : SealedKept layout before (before.replaceAll output
      ((finalizeWrites env layout before services output attestation).take done)) :=
    sealedKept_finalize readsBack injective inv
  have untouched : ∀ file, file ≠ .reviews → file ≠ .finalization →
      (before.replaceAll output ((finalizeWrites env layout before services
        output attestation).take done)).files output file =
        before.files output file := by
    intro file notReviews notFinalization
    apply replaceAll_untouched
    rintro write mem rfl
    obtain ⟨_, _, _, _, _, _, isReviews | isFinalization⟩ :=
      finalizeWrites_mem (List.mem_of_mem_take mem)
    · exact notReviews isReviews
    · exact notFinalization isFinalization
  constructor
  · intro file
    rw [kept layout.canonical (Or.inl rfl)]
    exact inv.canonical file
  · intro directory text read notCanonical stored isRead selfHashed
    refine inv.report_kept kept notCanonical ?_ isRead selfHashed
    by_cases own : directory = output
    · rw [own, untouched .report nofun nofun] at stored
      rw [own]
      exact stored
    · rw [replaceAll_other own] at stored
      exact stored
  · intro directory present
    by_cases own : directory = output
    · rw [own] at present ⊢
      rcases @replaceAll_files _ _ before output ((finalizeWrites env layout
          before services output attestation).take done) .finalization with
        same | ⟨write, mem, isFile, _⟩
      · rw [same] at present
        exact inv.finalized_kept kept present
      · obtain ⟨report, casesText, retainedText, finalized, finalizes, isWrites,
          _⟩ := finalizeWrites_mem (List.mem_of_mem_take mem)
        -- The finalization is the second write, so the ledger is written too.
        have reviewsWritten : (before.replaceAll output ((finalizeWrites
            env layout before services output attestation).take
              done)).files output .reviews = some finalized.reviewsText := by
          rw [isWrites] at mem ⊢
          rcases done with _ | _ | more
          · cases mem
          · rw [FinalizedRevision.writes, List.take_succ_cons, List.take_zero,
              List.mem_singleton] at mem
            rw [mem] at isFile
            cases isFile
          · have whole : (finalized.writes env).take (more + 2) = finalized.writes env :=
              List.take_of_length_le (Nat.le_add_left 2 more)
            rw [whole]
            simp [Repository.replaceAll, Repository.replace, FinalizedRevision.writes]
        exact finalizedFrom_of_finalizes readsBack injective inv finalizes
          kept (untouched .report nofun nofun) (untouched .cases nofun nofun)
          reviewsWritten
    · rw [replaceAll_other own] at present
      exact inv.finalized_kept kept present

theorem packInvariant_of_step (readsBack : ReadsBack env)
    (injective : Function.Injective env.fileSha256) (canonical : CanonicalPack env layout start)
    (inv : PackInvariant env layout start before) {label : PackLabel Directory}
    (leaves : ForgesNoReport env before label) (taken : PackStep env layout before label after) :
    PackInvariant env layout start after ∧ SealedKept layout before after := by
  cases taken with
  | create services spec output done =>
    exact ⟨packInvariant_create canonical inv, sealedKept_create⟩
  | finalize services attestation output done =>
    exact ⟨packInvariant_finalize readsBack injective inv,
      sealedKept_finalize readsBack injective inv⟩
  | edit file content notSealed =>
    exact ⟨packInvariant_edit inv notSealed leaves, sealedKept_edit notSealed⟩

theorem packInvariant_of_execution (readsBack : ReadsBack env)
    (injective : Function.Injective env.fileSha256) (canonical : CanonicalPack env layout start)
    {labels : List (PackLabel Directory)}
    (exec : Execution (Guarded (ForgesNoReport env) (PackStep env layout)) start labels state) :
    PackInvariant env layout start state := by
  refine exec.invariant (PackInvariant env layout start) (packInvariant_start canonical) ?_
  intro before label after inv taken
  exact (packInvariant_of_step readsBack injective canonical inv taken.1 taken.2).1

end Invariant

end ModelAtlas.CasePacks
