import ModelAtlas.Labels.JudgeLabels

/-!
# Who reviewed a score

A result is human reviewed where a verified reviewer wrote its scores or its
label last, or an import without a reviewer whose source names a human.  A
result has at most one applied decision.
-/

namespace ModelAtlas.Labels

open Foundations
open Approval (TextEnvironment)

variable {identity : SignerIdentity} {decision : JudgeLabelReviewDecision} {benchmarkRunId : Uuid}
  {step : LabelStep}

def Writer.Verified : Writer → Prop
  | .imported (some identity) _ _ => identity.identityVerified = true
  | .decided identity => identity.identityVerified = true
  | _ => False

def Writer.NamesHuman (text : TextEnvironment) : Writer → Prop
  | .imported none source _ => isHumanSource text (some (.str source)) = true
  | _ => False

/-- The marks of an earlier review were left where they were: by an import
without a reviewer, or by a revision. -/
def Writer.LeavesMarks : Writer → Prop
  | .imported none _ overMarks => overMarks = true
  | .revised fromReviewed => fromReviewed = true
  | _ => False

inductive Accounted (text : TextEnvironment) (res : BenchmarkResult) : Prop
  | unreviewed
      (unmarked : hasExplicitHumanReview text res.metadata = false)
      (unnamed : ¬res.writer.NamesHuman text)
  | reviewed
      (labelled : isReviewedLabel
        (mappingOf (res.metadata "judge_label")) = true)
      (verified : res.writer.Verified)
  | named (namesHuman : res.writer.NamesHuman text)
      (applied : isTrue (mappingOf (res.metadata "judge_label")) "applied" =
        true)
      (explicit : hasExplicitHumanReview text res.metadata = true)
      (unlabelled : isReviewedLabel
        (mappingOf (res.metadata "judge_label")) = false)
  | marksLeft (leavesMarks : res.writer.LeavesMarks)

section Writers

variable {env : LabelEnvironment} {text : TextEnvironment}
  {res : BenchmarkResult}

theorem accounted_executed (id : Uuid) (executed : ExecutedCase) :
    Accounted text (executedResult id executed) := by
  have absent : ∀ name, executionKeys.contains name = false →
      (executedResult id executed).metadata name = none := by
    intro name unknown
    simp only [executedResult, unknown, Bool.false_eq_true, if_false]
  refine .unreviewed ?_ (fun named => named)
  simp only [hasExplicitHumanReview, hasReviewMarks,
    absent "judge_label" (by decide), absent "human_reviewed" (by decide),
    absent "human_review" (by decide), absent "review" (by decide)]
  simp [mappingOf, isTrue, Json.get?, Json.isText]

theorem accounted_imported_by (label : JudgeLabel) (verified : identity.identityVerified = true) :
    Accounted text (applyLabel label (some identity) res) := by
  refine .reviewed ?_ verified
  simp [applyLabel, importedLabel, mappingOf, isReviewedLabel, isTrue, Json.get?]

theorem hasReviewMarks_update (metadata : Metadata) (label : Option Json) :
    hasReviewMarks (Function.update metadata "judge_label" label) =
      hasReviewMarks metadata := by
  simp [hasReviewMarks, Function.update]

theorem accounted_imported (label : JudgeLabel) : Accounted text (applyLabel label none res) := by
  have applied : isTrue (mappingOf
      ((applyLabel label none res).metadata "judge_label")) "applied" =
        true := by
    simp [applyLabel, importedLabel, mappingOf, isTrue, Json.get?]
  have unlabelled : isReviewedLabel (mappingOf
      ((applyLabel label none res).metadata "judge_label")) = false := by
    simp [applyLabel, importedLabel, mappingOf, isReviewedLabel, isTrue, Json.get?, Json.isText]
  have explicit : hasExplicitHumanReview text (applyLabel label none res).metadata =
        (hasReviewMarks res.metadata || isHumanSource text (some (.str label.judgeSource))) := by
    simp only [hasExplicitHumanReview, applyLabel, hasReviewMarks_update]
    simp [importedLabel, mappingOf, isTrue, Json.get?, Json.isText]
  by_cases marked : hasReviewMarks res.metadata = true
  · exact .marksLeft marked
  · by_cases namesHuman : isHumanSource text (some (.str label.judgeSource)) = true
    · refine .named namesHuman applied ?_ unlabelled
      rw [explicit, namesHuman, Bool.or_true]
    · refine .unreviewed ?_ namesHuman
      rw [explicit, Bool.or_eq_false_iff]
      exact ⟨Bool.eq_false_of_not_eq_true marked, Bool.eq_false_of_not_eq_true namesHuman⟩

theorem accounted_decided (candidate : Json) (scores : Scores)
    (verified : decision.reviewerIdentity.identityVerified = true) :
    Accounted text (applyReviewedScores env candidate decision scores res) := by
  refine .reviewed ?_ verified
  simp [applyReviewedScores, decidedLabel, mappingOf, isReviewedLabel, isTrue,
    Json.get?, Function.update]

theorem accounted_revised (id : Uuid) (recomputed : Recomputation) :
    Accounted text (revisedResult text id recomputed res) := by
  have copied : ∀ name, revisionKeys.contains name = false → recomputedKeys.contains name = false →
        (revisedResult text id recomputed res).metadata name = res.metadata name := by
    intro name unwritten kept
    simp only [revisedResult, unwritten, kept, Bool.false_eq_true, if_false]
  by_cases reviewed : hasExplicitHumanReview text res.metadata = true
  · exact .marksLeft reviewed
  · refine .unreviewed ?_ (fun named => named)
    rw [Bool.not_eq_true] at reviewed
    rw [← reviewed]
    simp only [hasExplicitHumanReview, hasReviewMarks,
      copied "judge_label" (by decide) (by decide),
      copied "human_reviewed" (by decide) (by decide),
      copied "human_review" (by decide) (by decide),
      copied "review" (by decide) (by decide)]

end Writers

structure LabelBooks (text : TextEnvironment) (store : LabelStore) : Prop where
  accounted : ∀ res ∈ store.results, Accounted text res
  one : ∀ left ∈ store.decisions, ∀ right ∈ store.decisions,
    left.applied = true → right.applied = true →
      left.benchmarkResultId = right.benchmarkResultId → left = right

section Steps

variable {env : LabelEnvironment} {text : TextEnvironment}
  {store after : LabelStore}

theorem LabelBooks.empty : LabelBooks text .empty where
  accounted res mem := absurd mem (Table.not_mem_empty res)
  one left mem := absurd mem (Table.not_mem_empty left)

theorem LabelBooks.insertResult (books : LabelBooks text store) {res : BenchmarkResult}
    {drawn : res.id = store.uuids} (accounted : Accounted text res) :
    LabelBooks text (store.insertResult res drawn) where
  accounted other mem := by
    rcases LabelStore.mem_insertResult.mp mem with old | rfl
    · exact books.accounted other old
    · exact accounted
  one := books.one

theorem LabelBooks.modifyResult (books : LabelBooks text store) {resultId : Uuid}
    {change : BenchmarkResult → BenchmarkResult} {keeps : ∀ res, (change res).id = res.id}
    (accounted : ∀ res, Accounted text (change res)) :
    LabelBooks text (store.modifyResult resultId change keeps) where
  accounted res mem := by
    rcases LabelStore.mem_modifyResult.mp mem with
      ⟨old, _, _, rfl⟩ | ⟨kept, _⟩
    · exact accounted old
    · exact books.accounted res kept
  one := books.one

theorem LabelBooks.insertDecision (books : LabelBooks text store)
    {drawn : decision.id = store.uuids}
    (first : decision.applied = true → ∀ prior ∈ store.decisions,
      prior.benchmarkResultId = decision.benchmarkResultId → prior.applied = false) :
    LabelBooks text (store.insertDecision decision drawn) where
  accounted := books.accounted
  one left leftMem right rightMem leftApplied rightApplied same := by
    rcases LabelStore.mem_insertDecision.mp leftMem with leftOld | leftNew
    · rcases LabelStore.mem_insertDecision.mp rightMem with
        rightOld | rightNew
      · exact books.one left leftOld right rightOld leftApplied rightApplied same
      · rw [rightNew] at rightApplied same
        have unapplied := first rightApplied left leftOld same
        rw [leftApplied] at unapplied
        cases unapplied
    · rcases LabelStore.mem_insertDecision.mp rightMem with
        rightOld | rightNew
      · rw [leftNew] at leftApplied same
        have unapplied := first leftApplied right rightOld same.symm
        rw [rightApplied] at unapplied
        cases unapplied
      · rw [leftNew, rightNew]

theorem LabelBooks.applyLabels {identity : Option SignerIdentity}
    (verified : ∀ reviewer, identity = some reviewer → reviewer.identityVerified = true)
    (labels : List JudgeLabel) (store : LabelStore) (books : LabelBooks text store) :
    LabelBooks text (applyLabels benchmarkRunId identity labels store) := by
  induction labels generalizing store with
  | nil =>
    exact books
  | cons label rest ih =>
    rw [Labels.applyLabels]
    refine ih _ ?_
    split
    · exact books
    · refine books.modifyResult (fun res => ?_)
      cases identity with
      | none =>
        exact accounted_imported label
      | some reviewer =>
        exact accounted_imported_by label (verified reviewer rfl)

theorem LabelBooks.importJudgeLabelRows (books : LabelBooks text store) {rows : List JudgeLabelRow}
    {applies : Bool}
    {identity : Option SignerIdentity}
    (verified : ∀ reviewer, identity = some reviewer → reviewer.identityVerified = true)
    (done : importJudgeLabelRows store benchmarkRunId rows applies identity = .ok after) :
    LabelBooks text after := by
  rw [Labels.importJudgeLabelRows] at done
  split at done
  · cases done
  · next labels _ =>
      split_ifs at done
      · rw [← Except.ok.inj done]
        exact books.applyLabels verified labels store
      · rw [← Except.ok.inj done]
        exact books

theorem verified_of_judgeReviewer (mayReview : judgeReviewerError env identity = none) :
    identity.identityVerified = true := by
  by_contra unverified
  rw [Bool.not_eq_true] at unverified
  simp [judgeReviewerError, unverified] at mayReview

theorem LabelBooks.recordDecision (books : LabelBooks text store) (candidate : Json)
    {drawn : decision.id = store.uuids}
    (verified : decision.reviewerIdentity.identityVerified = true)
    (first : decision.applied = true → ∀ prior ∈ store.decisions,
      prior.benchmarkResultId = decision.benchmarkResultId → prior.applied = false) :
    LabelBooks text (recordDecision env store candidate decision drawn)
    := by
  rw [Labels.recordDecision]
  split
  · exact books.insertDecision first
  · next scores _ =>
      have changed : LabelBooks text (store.modifyResult decision.benchmarkResultId
          (applyReviewedScores env candidate decision scores)
          (fun _ => rfl)) :=
        books.modifyResult (fun _ => accounted_decided candidate scores verified)
      exact changed.insertDecision first

theorem LabelBooks.createReviewDecision (books : LabelBooks text store)
    {payload : ReviewDecisionCreate} {evalCase : Option EvaluationCase} {now : Time}
    (done : createReviewDecision env store payload evalCase identity now = .ok after) :
    LabelBooks text after := by
  rw [Labels.createReviewDecision] at done
  split at done
  · cases done
  · next mayReview =>
      split at done
      · cases done
      · next res _ =>
          simp only at done
          split at done
          · cases done
          · split at done
            · cases done
            · next scores _ =>
                split_ifs at done with _ conflicting
                · rw [← Except.ok.inj done]
                  exact books
                · rw [← Except.ok.inj done]
                  refine books.recordDecision _ (verified_of_judgeReviewer mayReview) ?_
                  intro applied prior mem sameResult
                  change scores.isSome = true at applied
                  change prior.benchmarkResultId = res.id at sameResult
                  by_contra priorApplied
                  rw [Bool.not_eq_false] at priorApplied
                  refine conflicting ?_
                  rw [applied, Bool.true_and, List.any_eq_true]
                  exact ⟨prior, mem, by
                    rw [priorApplied, Bool.and_true, decide_eq_true_eq]
                    exact sameResult⟩

theorem LabelBooks.outcome (books : LabelBooks env.text store)
    (done : store.outcome env step = .ok after) :
    LabelBooks env.text after := by
  cases step with
  | execute executed =>
    rw [← Except.ok.inj done]
    exact books.insertResult (accounted_executed _ _)
  | importContent benchmarkRunId rows applies actor =>
    simp only [LabelStore.outcome] at done
    split at done
    · cases done
    · next mayReview =>
        refine books.importJudgeLabelRows ?_ done
        intro reviewer given
        cases applies with
        | false =>
          cases given
        | true =>
          cases given
          exact verified_of_judgeReviewer mayReview
  | importFile benchmarkRunId rows applies =>
    refine books.importJudgeLabelRows ?_ done
    intro reviewer given
    cases given
  | decide payload evalCase actor now =>
    simp only [LabelStore.outcome] at done
    split at done
    · cases done
    · exact books.createReviewDecision done
  | revise resultId recomputed =>
    simp only [LabelStore.outcome] at done
    split at done
    · cases done
    · split_ifs at done
      rw [← Except.ok.inj done]
      exact books.insertResult (accounted_revised _ _)

theorem LabelBooks.next (books : LabelBooks env.text store)
    (taken : stepsOf (LabelStore.next env) store step after) :
    LabelBooks env.text after := by
  rw [stepsOf, LabelStore.next] at taken
  split at taken
  · next done =>
      cases taken
      exact books.outcome done
  · cases taken
    exact books

def LabelStep.WritesNothing : LabelStep → Prop
  | .importContent _ _ applies _ => applies = false
  | .importFile _ _ applies => applies = false
  | .decide payload _ _ _ => payload.decisionType = .rejected
  | _ => False

theorem importJudgeLabelRows_preview {rows : List JudgeLabelRow} {identity : Option SignerIdentity}
    (done : importJudgeLabelRows store benchmarkRunId rows false identity = .ok after) :
    after = store := by
  rw [importJudgeLabelRows] at done
  split at done
  · cases done
  · rw [if_neg Bool.false_ne_true] at done
    split at done
    · cases done
    · exact (Except.ok.inj done).symm

theorem createReviewDecision_rejected {payload : ReviewDecisionCreate}
    {evalCase : Option EvaluationCase} {now : Time} (rejected : payload.decisionType = .rejected)
    (done : createReviewDecision env store payload evalCase identity now = .ok after) :
    after.results = store.results := by
  rw [createReviewDecision] at done
  split at done
  · cases done
  · split at done
    · cases done
    · simp only [reviewScores, rejected] at done
      split at done
      · cases done
      · split_ifs at done
        · rw [← Except.ok.inj done]
        · rw [← Except.ok.inj done]
          rfl

theorem results_of_writesNothing (writesNothing : step.WritesNothing)
    (taken : stepsOf (LabelStore.next env) store step after) :
    after.results = store.results := by
  rw [stepsOf, LabelStore.next] at taken
  split at taken
  · next changed done =>
      cases taken
      cases step with
      | execute executed =>
        cases writesNothing
      | importContent benchmarkRunId rows applies actor =>
        cases writesNothing
        rw [importJudgeLabelRows_preview done]
      | importFile benchmarkRunId rows applies =>
        cases writesNothing
        rw [importJudgeLabelRows_preview done]
      | decide payload evalCase actor now =>
        simp only [LabelStore.outcome] at done
        split at done
        · cases done
        · exact createReviewDecision_rejected writesNothing done
      | revise resultId recomputed =>
        cases writesNothing
  · cases taken
    rfl

end Steps

theorem Writer.Verified.not_namesHuman {text : TextEnvironment}
    {writer : Writer} (verified : writer.Verified) :
    ¬writer.NamesHuman text := by
  cases writer with
  | imported identity source overMarks =>
    cases identity with
    | none =>
      exact absurd verified (fun unverified => unverified)
    | some reviewer =>
      exact fun named => named
  | executed =>
    exact fun named => named
  | revised fromReviewed =>
    exact fun named => named
  | decided identity =>
    exact fun named => named

section Tier

variable {text : TextEnvironment} {res : BenchmarkResult}
  {evalCase : Option EvaluationCase} {humanLabel : Option String}

theorem Accounted.writer_of_humanReviewed (accounted : Accounted text res)
    (kept : ¬res.writer.LeavesMarks)
    (reviewed : classifyScoreTier text res.metadata evalCase = .humanReviewed) :
    res.writer.Verified ∨ res.writer.NamesHuman text := by
  cases accounted with
  | unreviewed unmarked _ =>
    rw [classifyScoreTier_eq_humanReviewed, unmarked] at reviewed
    cases reviewed
  | reviewed _ verified =>
    exact Or.inl verified
  | named namesHuman _ _ _ =>
    exact Or.inr namesHuman
  | marksLeft leavesMarks =>
    exact absurd leavesMarks kept

theorem Accounted.readings_agree (accounted : Accounted text res) (kept : ¬res.writer.LeavesMarks)
    (unnamed : ¬res.writer.NamesHuman text) :
    (scoreSource res.metadata humanLabel evalCase = .humanReviewed ↔
      classifyScoreTier text res.metadata evalCase = .humanReviewed) ∧
    (scoreSource res.metadata humanLabel evalCase = .appliedJudgeLabel ↔
      classifyScoreTier text res.metadata evalCase = .appliedJudgeLabel) := by
  rw [scoreSource_eq_humanReviewed, scoreSource_eq_appliedJudgeLabel,
    classifyScoreTier_eq_humanReviewed, classifyScoreTier_eq_appliedJudgeLabel]
  have sameReading : isReviewedLabel
      (mappingOf (res.metadata "judge_label")) =
        hasExplicitHumanReview text res.metadata := by
    cases accounted with
    | unreviewed unmarked _ =>
      by_contra different
      have labelled : isReviewedLabel
          (mappingOf (res.metadata "judge_label")) = true := by
        rw [unmarked] at different
        exact Bool.eq_true_of_not_eq_false different
      rw [hasExplicitHumanReview_of_isReviewedLabel labelled] at unmarked
      cases unmarked
    | reviewed labelled _ =>
      rw [labelled, hasExplicitHumanReview_of_isReviewedLabel labelled]
    | named namesHuman _ _ _ =>
      exact absurd namesHuman unnamed
    | marksLeft leavesMarks =>
      exact absurd leavesMarks kept
  rw [sameReading]
  exact ⟨Iff.rfl, Iff.rfl⟩

theorem Accounted.readings_of_namesHuman (accounted : Accounted text res)
    (kept : ¬res.writer.LeavesMarks) (namesHuman : res.writer.NamesHuman text) :
    classifyScoreTier text res.metadata evalCase = .humanReviewed ∧
      scoreSource res.metadata humanLabel evalCase = .appliedJudgeLabel := by
  cases accounted with
  | unreviewed _ unnamed =>
    exact absurd namesHuman unnamed
  | reviewed _ verified =>
    exact absurd namesHuman verified.not_namesHuman
  | named _ applied explicit unlabelled =>
    exact ⟨classifyScoreTier_eq_humanReviewed.mpr explicit,
      scoreSource_eq_appliedJudgeLabel.mpr ⟨unlabelled, applied⟩⟩
  | marksLeft leavesMarks =>
    exact absurd leavesMarks kept

end Tier

theorem labelBooks_of_execution {env : LabelEnvironment} {steps : List LabelStep}
    {store : LabelStore} (exec : Execution (stepsOf (LabelStore.next env)) .empty steps store) :
    LabelBooks env.text store :=
  exec.invariant (LabelBooks env.text) LabelBooks.empty (fun _ _ _ books taken => books.next taken)

/-- A human reviewed result was written last by a verified reviewer, or by a file without one
whose source names a human, which the queue calls an applied label. A result has at most one
applied decision; a rejection or a preview changes none. -/
theorem humanReviewed_writtenBy (env : LabelEnvironment) {steps : List LabelStep}
    {store : LabelStore} (exec : Execution (stepsOf (LabelStore.next env)) .empty steps store) :
    (∀ res ∈ store.results, ¬res.writer.LeavesMarks → ∀ evalCase,
        (classifyScoreTier env.text res.metadata evalCase = .humanReviewed →
          res.writer.Verified ∨ res.writer.NamesHuman env.text) ∧
        (¬res.writer.NamesHuman env.text →
          (scoreSource res.metadata res.scores.humanLabel evalCase = .humanReviewed ↔
            classifyScoreTier env.text res.metadata evalCase = .humanReviewed) ∧
          (scoreSource res.metadata res.scores.humanLabel evalCase = .appliedJudgeLabel ↔
            classifyScoreTier env.text res.metadata evalCase = .appliedJudgeLabel)) ∧
        (res.writer.NamesHuman env.text →
          classifyScoreTier env.text res.metadata evalCase = .humanReviewed ∧
            scoreSource res.metadata res.scores.humanLabel evalCase = .appliedJudgeLabel)) ∧
    (∀ left ∈ store.decisions, ∀ right ∈ store.decisions,
      left.applied = true → right.applied = true →
        left.benchmarkResultId = right.benchmarkResultId → left = right) ∧
    ∀ step after, stepsOf (LabelStore.next env) store step after →
      step.WritesNothing → after.results = store.results := by
  have books := labelBooks_of_execution exec
  refine ⟨?_, books.one, fun step after taken writesNothing =>
    results_of_writesNothing writesNothing taken⟩
  intro res mem kept evalCase
  have accounted := books.accounted res mem
  exact ⟨accounted.writer_of_humanReviewed kept,
    accounted.readings_agree kept, accounted.readings_of_namesHuman kept⟩

def asciiLabels : LabelEnvironment where
  text := ⟨fun text => String.ofList (text.toList.map Char.toLower),
    fun _ => ""⟩
  readFloat _ := none
  isoformat _ := "2026-01-01T00:00:00+00:00"
  candidateHash _ := "candidate"
  reviewHash _ := "review"

def labelReviewer : SignerIdentity :=
  ⟨"reviewer", "Reviewer", some "QA Lead", "provider", "oidc", true, none⟩

def executedSample : LabelStep :=
  .execute ⟨7, 3, "sample", ⟨some (1 / 2), none, none, some "heuristic-fail"⟩,
    fun _ => none⟩

def reviewedScores : Scores := ⟨some (9 / 10), none, none, none⟩

set_option maxRecDepth 8000 in
theorem humanReviewed_writtenBy_override : ∃ store,
    Execution (stepsOf (LabelStore.next asciiLabels)) .empty
      [executedSample, .decide ⟨0, .overridden, reviewedScores, "read it"⟩ none
        labelReviewer 10] store ∧
    (store.results.find? 0).any (fun res =>
      classifyScoreTier asciiLabels.text res.metadata none = .humanReviewed) = true ∧
    ∀ res ∈ store.results, ¬res.writer.LeavesMarks →
      classifyScoreTier asciiLabels.text res.metadata none = .humanReviewed →
        res.writer.Verified ∨ res.writer.NamesHuman asciiLabels.text := by
  have overridden : (perform (LabelStore.next asciiLabels) .empty
      [executedSample, .decide ⟨0, .overridden, reviewedScores, "read it"⟩ none
        labelReviewer 10]).any (fun store =>
          (store.results.find? 0).any (fun res =>
            classifyScoreTier asciiLabels.text res.metadata none = .humanReviewed)) = true := by
    decide +kernel
  obtain ⟨store, performed, isReviewed⟩ :=
    (Option.any_eq_true _ _).mp overridden
  have run := Execution.of_perform performed
  refine ⟨store, run, isReviewed, ?_⟩
  intro res mem kept reviewed
  exact ((humanReviewed_writtenBy asciiLabels run).1 res mem kept none).1 reviewed

set_option maxRecDepth 8000 in
/-- A file that names a human review is imported without a reviewer. -/
theorem humanReviewed_unverified : ¬ ∀ (env : LabelEnvironment) (steps : List LabelStep)
      (store : LabelStore), Execution (stepsOf (LabelStore.next env)) .empty steps store →
        ∀ res ∈ store.results, ∀ evalCase, classifyScoreTier env.text res.metadata evalCase =
            .humanReviewed → res.writer.Verified := by
  intro always
  have imported : (perform (LabelStore.next asciiLabels) .empty [executedSample, .importFile 7
        [⟨some "sample", reviewedScores, some "human_review", none⟩] true]).any
      (fun store => (store.results.find? 0).any (fun res =>
        classifyScoreTier asciiLabels.text res.metadata none = .humanReviewed &&
        match res.writer with
        | .imported none _ _ => true
        | _ => false)) = true := by
    decide +kernel
  obtain ⟨store, performed, isImported⟩ := (Option.any_eq_true _ _).mp imported
  obtain ⟨res, isFound, found⟩ := (Option.any_eq_true _ _).mp isImported
  rw [Bool.and_eq_true, decide_eq_true_eq] at found
  obtain ⟨mem, _⟩ := Table.find?_eq_some_iff.mp isFound
  have verified := always asciiLabels _ store (Execution.of_perform performed) res mem none found.1
  have unverified := found.2
  cases writer : res.writer with
  | imported identity source overMarks =>
    rw [writer] at verified unverified
    cases identity with
    | none =>
      exact verified
    | some reviewer =>
      cases unverified
  | executed =>
    rw [writer] at unverified
    cases unverified
  | revised fromReviewed =>
    rw [writer] at unverified
    cases unverified
  | decided identity =>
    rw [writer] at unverified
    cases unverified

end ModelAtlas.Labels
