import ModelAtlas.Evidence.Validation.EvidenceSelection

/-!
# Trust of gate evidence

`summarize_evidence_trust` of `services/evidence_trust.py`, once for the evidence
that a gate selects and once, for release readiness, for every result of the runs
that the gate names.
-/

namespace ModelAtlas.Validation

open Foundations Labels
open Approval (TextEnvironment)

variable {res : BenchmarkResult}

/-! ## Summaries -/

/-- What one round of `summarize_evidence_trust` counts. -/
structure TrustRow where
  source : SourceTier
  score : ScoreTier
  isCritical : Bool
  deriving DecidableEq

def TrustRow.isReviewed (row : TrustRow) : Bool :=
  row.score = .appliedJudgeLabel || row.score = .humanReviewed

/-- `EvidenceTrustSummary`, without its texts; the rates are not rounded. -/
structure EvidenceTrustSummary where
  sourceDistribution : List (SourceTier × Nat)
  scoreDistribution : List (ScoreTier × Nat)
  (totalResultCount criticalResultCount criticalReviewedCount : Nat)
  (appliedJudgeLabelRate criticalReviewCoverageRate : Rat)
  trustStatus : TrustStatus
  deriving DecidableEq

def sourceTiers : List SourceTier :=
  [.externalBenchmark, .localAuthored, .productionCaptured,
    .productionCapturedUnverified, .syntheticDemo, .unknown]

def scoreTiers : List ScoreTier :=
  [.appliedJudgeLabel, .candidateJudgeLabel, .heuristic, .humanReviewed, .unknown]

/-- `dict(sorted(counter.items()))`. -/
def distribution {Tier : Type} [DecidableEq Tier] (tiers values : List Tier) : List (Tier × Nat) :=
  (tiers.map (fun tier => (tier, values.count tier))).filter (fun entry => entry.2 ≠ 0)

def rowsTrustStatus (thresholds : EvidenceTrustThresholds) (rows : List TrustRow) :
    TrustStatus :=
  let tierCount := fun tier => rows.countP (fun row => row.source = tier)
  let criticalCount := rows.countP TrustRow.isCritical
  let criticalReviewed := rows.countP (fun row =>
    row.isCritical && row.isReviewed)
  let appliedRate := trustRate (rows.countP TrustRow.isReviewed) rows.length
  let criticalRate := trustRate criticalReviewed criticalCount
  let productionReady :=
    thresholds.minimumAppliedJudgeLabelRateForProduction ≤ appliedRate ∧ (criticalCount = 0 ∨
        thresholds.minimumCriticalReviewCoverageRateForProduction ≤ criticalRate)
  let localReady :=
    thresholds.minimumAppliedJudgeLabelRateForLocalDemo ≤ appliedRate ∧ (criticalCount = 0 ∨
        thresholds.minimumCriticalReviewedCountForLocalDemo ≤ criticalReviewed)
  if rows.length = 0 ∨ tierCount .unknown = rows.length then .unknown
  else if tierCount .syntheticDemo = rows.length then .syntheticOnly
  else if thresholds.minimumProductionCapturedResultCount ≤
      tierCount .productionCaptured ∧ productionReady then
    .productionEvidenceReady
  else if ¬localReady then .needsJudgeReview
  else if tierCount .localAuthored ≠ 0 ∨ tierCount .productionCaptured ≠ 0 then
    .localDemoReady
  else .unknown

section Summary

variable (text : TextEnvironment) (thresholds : EvidenceTrustThresholds)
  (verifiedProductionRuns : Uuid → Bool) (bundle : EvidenceBundle)

def trustRow (res : BenchmarkResult) : TrustRow where
  source := sourceTier text verifiedProductionRuns res
  score := classifyScoreTier text res.metadata (bundle.caseOf res)
  isCritical := (bundle.caseOf res).any
    (fun stored => stored.criticality = some "critical")

def trustRows : List TrustRow :=
  bundle.results.map (trustRow text verifiedProductionRuns bundle)

def summarizeEvidenceTrust : EvidenceTrustSummary :=
  let rows := trustRows text verifiedProductionRuns bundle
  let criticalCount := rows.countP TrustRow.isCritical
  let criticalReviewed := rows.countP (fun row => row.isCritical && row.isReviewed)
  { sourceDistribution := distribution sourceTiers (rows.map TrustRow.source)
    scoreDistribution := distribution scoreTiers (rows.map TrustRow.score)
    totalResultCount := rows.length
    criticalResultCount := criticalCount
    criticalReviewedCount := criticalReviewed
    appliedJudgeLabelRate :=
      trustRate (rows.countP TrustRow.isReviewed) rows.length
    criticalReviewCoverageRate := trustRate criticalReviewed criticalCount
    trustStatus := rowsTrustStatus thresholds rows }

end Summary

theorem summarizeEvidenceTrust_congr {text : TextEnvironment} {thresholds : EvidenceTrustThresholds}
    {verified otherVerified : Uuid → Bool} {bundle other : EvidenceBundle}
    (perm : (trustRows text verified bundle).Perm (trustRows text otherVerified other)) :
    summarizeEvidenceTrust text thresholds verified bundle =
      summarizeEvidenceTrust text thresholds otherVerified other := by
  have sameCount : ∀ test : TrustRow → Bool, (trustRows text verified bundle).countP test =
        (trustRows text otherVerified other).countP test :=
    fun test => perm.countP_eq test
  have sources : ∀ tier, ((trustRows text verified bundle).map
      TrustRow.source).count tier = ((trustRows text otherVerified other).map
        TrustRow.source).count tier :=
    fun tier => (perm.map TrustRow.source).count_eq tier
  have scores : ∀ tier, ((trustRows text verified bundle).map
      TrustRow.score).count tier = ((trustRows text otherVerified other).map
        TrustRow.score).count tier :=
    fun tier => (perm.map TrustRow.score).count_eq tier
  simp only [summarizeEvidenceTrust, distribution, rowsTrustStatus, sameCount,
    sources, scores, perm.length_eq]

def EvidenceBundle.benchmarkRunIds (bundle : EvidenceBundle) : List Uuid :=
  bundle.runs.map BenchmarkRun.id

/-- `verified_production_run_ids`, where some runs are eligible. -/
def verifiedRunIds (eligible : Uuid → Bool) (runIds : List Uuid) (run : Uuid) :
    Bool :=
  runIds.contains run && eligible run

/-- What `summarize_gate_evidence_trust` reads: every result of the runs, and the
cases of these results. -/
def gateTrustBundle (state : EvidenceState) (runIds : List Uuid) :
    EvidenceBundle :=
  let results := state.results.rows.filter (fun res =>
    runIds.contains res.benchmarkRunId)
  { activeCases := state.cases.rows.filter (fun stored =>
      results.any (fun res => res.evaluationCaseId = some stored.id))
    runs := state.runs.rows.filter (fun run => runIds.contains run.id)
    results := results
    metrics := [] }

def summarizeGateEvidenceTrust (text : TextEnvironment) (thresholds : EvidenceTrustThresholds)
    (eligible : Uuid → Bool) (state : EvidenceState) (runIds : List Uuid) : EvidenceTrustSummary :=
  summarizeEvidenceTrust text thresholds (verifiedRunIds eligible runIds)
    (gateTrustBundle state runIds)

section Current

variable {state : EvidenceState} {deploymentConfigurationId evaluationSuiteId : Uuid}

structure IsCandidate (state : EvidenceState)
    (deploymentConfigurationId evaluationSuiteId : Uuid)
    (res : BenchmarkResult) : Prop where
  stored : res ∈ state.results.rows
  run : ∃ run ∈ state.runs.rows, run.id = res.benchmarkRunId ∧
    run.deploymentConfigurationId = some deploymentConfigurationId ∧
    run.evaluationSuiteId = some evaluationSuiteId ∧ run.status = "completed" ∧
    run.dataSource ≠ toolFaultDataSource
  case : ∃ stored ∈ state.cases.rows, res.evaluationCaseId = some stored.id ∧
    stored.evaluationSuiteId = evaluationSuiteId ∧ stored.isActive = true

def IsCurrent (state : EvidenceState) (deploymentConfigurationId evaluationSuiteId : Uuid)
    (res : BenchmarkResult) : Prop :=
  IsCandidate state deploymentConfigurationId evaluationSuiteId res ∧
    ∀ other, IsCandidate state deploymentConfigurationId evaluationSuiteId other →
      other.rootId = res.rootId → revisionPrecedes res other = false

def candidateResults (state : EvidenceState)
    (deploymentConfigurationId evaluationSuiteId : Uuid) : List BenchmarkResult :=
  state.results.rows.filter (fun res =>
    (state.runs.rows.filter (fun run =>
      run.deploymentConfigurationId = some deploymentConfigurationId &&
        run.evaluationSuiteId = some evaluationSuiteId &&
        run.status = "completed" && run.dataSource ≠ toolFaultDataSource)).any
      (fun run => run.id = res.benchmarkRunId) &&
    (state.cases.rows.filter (fun stored =>
      stored.evaluationSuiteId = evaluationSuiteId && stored.isActive)).any
      (fun stored => some stored.id = res.evaluationCaseId))

theorem collectEvidence_results :
    (collectEvidence state deploymentConfigurationId evaluationSuiteId).results =
      latestResultRevisions (candidateResults state deploymentConfigurationId evaluationSuiteId) :=
  rfl

theorem mem_candidateResults :
    res ∈ candidateResults state deploymentConfigurationId evaluationSuiteId ↔
      IsCandidate state deploymentConfigurationId evaluationSuiteId res := by
  rw [candidateResults, List.mem_filter, Bool.and_eq_true, List.any_eq_true, List.any_eq_true]
  simp only [List.mem_filter, Bool.and_eq_true, decide_eq_true_eq]
  constructor
  · rintro ⟨stored, ⟨run, ⟨isRun, ⟨⟨configured, suite⟩, completed⟩, noFault⟩, named⟩,
      ⟨own, ⟨isCase, suiteCase, active⟩, ofCase⟩⟩
    exact ⟨stored, ⟨run, isRun, named, configured, suite, completed, noFault⟩,
      ⟨own, isCase, ofCase.symm, suiteCase, active⟩⟩
  · rintro ⟨stored, ⟨run, isRun, named, configured, suite, completed, noFault⟩,
      ⟨own, isCase, ofCase, suiteCase, active⟩⟩
    exact ⟨stored, ⟨run, ⟨isRun, ⟨⟨configured, suite⟩, completed⟩, noFault⟩, named⟩,
      ⟨own, ⟨isCase, suiteCase, active⟩, ofCase.symm⟩⟩

theorem mem_collectEvidence_results :
    res ∈ (collectEvidence state deploymentConfigurationId evaluationSuiteId).results ↔
      IsCurrent state deploymentConfigurationId evaluationSuiteId res := by
  have latestOf := latestOf_revisions (candidateResults state
    deploymentConfigurationId evaluationSuiteId)
  rw [collectEvidence_results]
  constructor
  · intro mem
    refine ⟨mem_candidateResults.mp (latestOf.within res mem), ?_⟩
    intro other candidate same
    have le := latestOf.greatest res mem other (mem_candidateResults.mpr candidate) same
    by_contra precedes
    rw [Bool.not_eq_false] at precedes
    exact absurd (revisionPrecedes_iff.mp precedes) (not_lt.mpr le)
  · rintro ⟨candidate, last⟩
    have isRow := mem_candidateResults.mpr candidate
    obtain ⟨selected, mem, same⟩ := latestOf.covers res isRow
    have selectedRow := latestOf.within selected mem
    have lower := latestOf.greatest selected mem res isRow same.symm
    have notBefore := last selected (mem_candidateResults.mp selectedRow) same
    have upper : revisionKey selected ≤ revisionKey res := by
      rw [← not_lt]
      intro before
      rw [revisionPrecedes_iff.mpr before] at notBefore
      cases notBefore
    have pair := toLex.injective (le_antisymm upper lower)
    have inner := toLex.injective (Prod.ext_iff.mp pair).2
    have equal := state.results.eq_of_key_eq
      (mem_candidateResults.mp selectedRow).stored candidate.stored
      (Prod.ext_iff.mp inner).2
    rw [← equal]
    exact mem

/-! ## One evidence set -/

theorem find?_eq_some_of_unique {Row : Type} {rows : List Row} {test : Row → Bool}
    {row : Row} (mem : row ∈ rows) (passes : test row = true)
    (unique : ∀ other ∈ rows, test other = true → other = row) :
    rows.find? test = some row := by
  cases found : rows.find? test with
  | none => exact absurd passes (List.find?_eq_none.mp found row mem)
  | some other =>
    have isOther := List.find?_some found
    rw [unique other (List.mem_of_find?_eq_some found) isOther]

theorem caseOf_eq {bundle : EvidenceBundle} {stored : StoredCase}
    (within : ∀ own ∈ bundle.activeCases, own ∈ state.cases.rows)
    (mem : stored ∈ bundle.activeCases) (ofResult : res.evaluationCaseId = some stored.id) :
    bundle.caseOf res = some stored.toEvaluationCase := by
  have found : bundle.activeCases.find? (fun own =>
      some own.id = res.evaluationCaseId) = some stored := by
    apply find?_eq_some_of_unique mem (decide_eq_true ofResult.symm)
    intro other otherMem same
    have sameId := (of_decide_eq_true same).trans ofResult
    exact state.cases.eq_of_key_eq (within other otherMem)
      (within stored mem) (Option.some.inj sameId)
  rw [EvidenceBundle.caseOf, found]
  rfl

theorem caseOf_gateTrustBundle {runIds : List Uuid}
    (current : IsCurrent state deploymentConfigurationId evaluationSuiteId res)
    (inRuns : res.benchmarkRunId ∈ runIds) :
    (gateTrustBundle state runIds).caseOf res = (collectEvidence state deploymentConfigurationId
        evaluationSuiteId).caseOf res := by
  obtain ⟨stored, isCase, ofCase, suiteCase, active⟩ := current.1.case
  have inGate : stored ∈ (gateTrustBundle state runIds).activeCases := by
    rw [gateTrustBundle, List.mem_filter, List.any_eq_true]
    refine ⟨isCase, res, ?_, decide_eq_true ofCase⟩
    rw [List.mem_filter, List.contains_eq_mem, decide_eq_true_eq]
    exact ⟨current.1.stored, inRuns⟩
  have inScope : stored ∈ (collectEvidence state deploymentConfigurationId
      evaluationSuiteId).activeCases := by
    rw [collectEvidence, List.mem_filter]
    exact ⟨isCase, by simp [suiteCase, active]⟩
  rw [caseOf_eq (fun own mem => List.mem_of_mem_filter mem) inGate ofCase,
    caseOf_eq (fun own mem => List.mem_of_mem_filter mem) inScope ofCase]

theorem mem_benchmarkRunIds {run : Uuid} : run ∈ (collectEvidence state deploymentConfigurationId
        evaluationSuiteId).benchmarkRunIds ↔
      ∃ res, IsCurrent state deploymentConfigurationId evaluationSuiteId res ∧
        res.benchmarkRunId = run := by
  have isRuns : (collectEvidence state deploymentConfigurationId
      evaluationSuiteId).runs = (state.runs.rows.filter (fun run =>
        run.deploymentConfigurationId = some deploymentConfigurationId &&
          run.evaluationSuiteId = some evaluationSuiteId &&
          run.status = "completed" && run.dataSource ≠ toolFaultDataSource)).filter
        (fun run => (collectEvidence state deploymentConfigurationId evaluationSuiteId).results.any
            (fun res => res.benchmarkRunId = run.id)) := rfl
  rw [EvidenceBundle.benchmarkRunIds, isRuns, List.mem_map]
  constructor
  · rintro ⟨own, mem, rfl⟩
    rw [List.mem_filter, List.any_eq_true] at mem
    obtain ⟨res, selected, named⟩ := mem.2
    exact ⟨res, mem_collectEvidence_results.mp selected, of_decide_eq_true named⟩
  · rintro ⟨res, current, rfl⟩
    obtain ⟨own, isRun, named, configured, suite, completed, noFault⟩ :=
      current.1.run
    refine ⟨own, ?_, named⟩
    rw [List.mem_filter, List.mem_filter, List.any_eq_true]
    refine ⟨⟨isRun, by simp [configured, suite, completed, noFault]⟩, res,
      mem_collectEvidence_results.mpr current, decide_eq_true named.symm⟩

/-- The summary for release readiness counts one result of each lineage, those of the gate, and
says what the gate's own summary says. -/
structure OneTrustVerdict (text : TextEnvironment)
    (thresholds : EvidenceTrustThresholds) (eligible frozenEligible : Uuid → Bool)
    (state frozenState : EvidenceState)
    (deploymentConfigurationId evaluationSuiteId : Uuid) : Prop where
  counts : (gateTrustBundle state (collectEvidence frozenState
      deploymentConfigurationId evaluationSuiteId).benchmarkRunIds).results.Perm
    (collectEvidence frozenState deploymentConfigurationId evaluationSuiteId).results
  oneOfLineage : ((gateTrustBundle state (collectEvidence frozenState
      deploymentConfigurationId evaluationSuiteId).benchmarkRunIds).results.map
    BenchmarkResult.rootId).Nodup
  summary : summarizeGateEvidenceTrust text thresholds eligible state
      (collectEvidence frozenState deploymentConfigurationId
        evaluationSuiteId).benchmarkRunIds =
    summarizeEvidenceTrust text thresholds
      (verifiedRunIds frozenEligible (collectEvidence frozenState
        deploymentConfigurationId evaluationSuiteId).benchmarkRunIds)
      (collectEvidence frozenState deploymentConfigurationId evaluationSuiteId)

def RunsAreCurrent (state : EvidenceState)
    (deploymentConfigurationId evaluationSuiteId : Uuid) : Prop :=
  ∀ selected, IsCurrent state deploymentConfigurationId evaluationSuiteId selected →
    ∀ res ∈ state.results.rows, res.benchmarkRunId = selected.benchmarkRunId →
        IsCurrent state deploymentConfigurationId evaluationSuiteId res

theorem nodup_results (state : EvidenceState) : state.results.rows.Nodup :=
  List.Nodup.of_map _ state.results.keysNodup

theorem gateTrust_counts
    (current : RunsAreCurrent state deploymentConfigurationId evaluationSuiteId) :
    (gateTrustBundle state (collectEvidence state deploymentConfigurationId
      evaluationSuiteId).benchmarkRunIds).results.Perm
        (collectEvidence state deploymentConfigurationId evaluationSuiteId).results := by
  have latestOf := latestOf_revisions (candidateResults state
    deploymentConfigurationId evaluationSuiteId)
  rw [← collectEvidence_results] at latestOf
  refine (List.perm_ext_iff_of_nodup ((nodup_results state).filter _)
    (List.Nodup.of_map _ latestOf.one)).mpr ?_
  intro res
  rw [List.mem_filter, List.contains_eq_mem, decide_eq_true_eq,
    mem_benchmarkRunIds, mem_collectEvidence_results]
  constructor
  · rintro ⟨stored, selected, isCurrent, sameRun⟩
    exact current selected isCurrent res stored sameRun.symm
  · intro isCurrent
    exact ⟨isCurrent.1.stored, res, isCurrent, rfl⟩

/-- While the evidence of a gate does not change, its runs have one verdict on
trust exactly if they hold current results only. -/
theorem oneTrustVerdict_iff (text : TextEnvironment) (thresholds : EvidenceTrustThresholds)
    (eligible frozenEligible : Uuid → Bool) (state frozenState : EvidenceState)
    (deploymentConfigurationId evaluationSuiteId : Uuid)
    (unchanged : collectEvidence state deploymentConfigurationId evaluationSuiteId =
      collectEvidence frozenState deploymentConfigurationId evaluationSuiteId)
    (sameReceipts : ∀ run ∈ (collectEvidence frozenState deploymentConfigurationId
      evaluationSuiteId).benchmarkRunIds, eligible run = frozenEligible run) :
    OneTrustVerdict text thresholds eligible frozenEligible state frozenState
        deploymentConfigurationId evaluationSuiteId ↔
      RunsAreCurrent state deploymentConfigurationId evaluationSuiteId := by
  rw [← unchanged] at sameReceipts
  constructor
  · intro verdict selected isCurrent res stored sameRun
    have counts := verdict.counts
    rw [← unchanged] at counts
    apply mem_collectEvidence_results.mp
    apply counts.mem_iff.mp
    rw [gateTrustBundle, List.mem_filter, List.contains_eq_mem, decide_eq_true_eq,
      mem_benchmarkRunIds]
    exact ⟨stored, selected, isCurrent, sameRun.symm⟩
  · intro current
    have counts := gateTrust_counts current
    have latestOf := latestOf_revisions (candidateResults state
      deploymentConfigurationId evaluationSuiteId)
    rw [← collectEvidence_results] at latestOf
    constructor
    · rw [← unchanged]
      exact counts
    · rw [← unchanged]
      exact (counts.map BenchmarkResult.rootId).nodup_iff.mpr latestOf.one
    · rw [← unchanged, summarizeGateEvidenceTrust]
      apply summarizeEvidenceTrust_congr
      have sameRows : ∀ res ∈ (collectEvidence state deploymentConfigurationId
          evaluationSuiteId).results,
          trustRow text (verifiedRunIds eligible (collectEvidence state
            deploymentConfigurationId evaluationSuiteId).benchmarkRunIds)
            (gateTrustBundle state (collectEvidence state deploymentConfigurationId
              evaluationSuiteId).benchmarkRunIds) res =
          trustRow text (verifiedRunIds frozenEligible (collectEvidence state
            deploymentConfigurationId evaluationSuiteId).benchmarkRunIds)
            (collectEvidence state deploymentConfigurationId evaluationSuiteId)
              res := by
        intro res mem
        have isCurrent := mem_collectEvidence_results.mp mem
        have inRuns := mem_benchmarkRunIds.mpr ⟨res, isCurrent, rfl⟩
        have sameVerified : verifiedRunIds eligible (collectEvidence state
              deploymentConfigurationId evaluationSuiteId).benchmarkRunIds
              res.benchmarkRunId =
            verifiedRunIds frozenEligible (collectEvidence state
              deploymentConfigurationId evaluationSuiteId).benchmarkRunIds
              res.benchmarkRunId := by
          rw [verifiedRunIds, verifiedRunIds, sameReceipts _ inRuns]
        simp only [trustRow, sourceTier, sameVerified, caseOf_gateTrustBundle isCurrent inRuns]
      rw [trustRows, trustRows, ← List.map_congr_left sameRows]
      exact counts.map _

end Current

/-! ## A revision in a child run -/

def trustText : TextEnvironment :=
  ⟨fun text => text, fun _ => ""⟩

def localThresholds : EvidenceTrustThresholds :=
  ⟨4 / 5, 0, 1, 4 / 5, 1⟩

def scopeRun (id : Uuid) : BenchmarkRun where
  id := id
  deploymentConfigurationId := some 1
  evaluationSuiteId := some 4
  status := "completed"
  dataSource := "local_authored"
  runtimeConfig := .obj []
  artifactName := "local-model"

def scopeCase (id : Uuid) : StoredCase :=
  ⟨⟨.obj [], none⟩, id, 4, true⟩

def scopeResult (id run case : Uuid) (root : Option Uuid) (revisionNumber : Int)
    (labelled : Bool) : BenchmarkResult where
  id := id
  benchmarkRunId := run
  evaluationCaseId := some case
  rootBenchmarkResultId := root
  revisionNumber := revisionNumber
  createdAt := id
  sampleId := "sample"
  dataSource := "local_authored"
  qualityScore := some 1
  errorType := none
  metadata name :=
    if labelled ∧ name = "judge_label" then
      some (.obj [("applied", .bool true)])
    else none

def singleRun : EvidenceState where
  cases := ⟨[scopeCase 5, scopeCase 6], by decide⟩
  runs := ⟨[scopeRun 7], by decide⟩
  results := ⟨[scopeResult 10 7 5 none 1 true, scopeResult 11 7 6 none 1 true],
    by decide⟩
  metrics := []

def revisedInChild : EvidenceState where
  cases := ⟨[scopeCase 5, scopeCase 6], by decide⟩
  runs := ⟨[scopeRun 7, scopeRun 8], by decide⟩
  results := ⟨[scopeResult 10 7 5 none 1 false, scopeResult 11 7 6 none 1 true,
    scopeResult 12 8 5 (some 10) 2 true], by decide⟩
  metrics := []

theorem oneTrustVerdict_singleRun :
    OneTrustVerdict trustText localThresholds (fun _ => false) (fun _ => false)
        singleRun singleRun 1 4 ↔ RunsAreCurrent singleRun 1 4 :=
  oneTrustVerdict_iff trustText localThresholds (fun _ => false) (fun _ => false)
    singleRun singleRun 1 4 rfl (fun _ _ => rfl)

/-- The superseded parent is counted for release readiness, and tips the status. -/
theorem oneTrustVerdict_revisedInChild :
    (summarizeEvidenceTrust trustText localThresholds (fun _ => false)
        (collectEvidence revisedInChild 1 4)).trustStatus = .localDemoReady ∧
      (summarizeGateEvidenceTrust trustText localThresholds (fun _ => false)
        revisedInChild (collectEvidence revisedInChild 1
          4).benchmarkRunIds).trustStatus = .needsJudgeReview ∧
      ¬ OneTrustVerdict trustText localThresholds (fun _ => false)
        (fun _ => false) revisedInChild revisedInChild 1 4 := by
  refine ⟨by decide +kernel, by decide +kernel, fun verdict => ?_⟩
  have sameLength := verdict.counts.length_eq
  have selected : (collectEvidence revisedInChild 1 4).results.length = 2 := by
    decide +kernel
  have counted : (gateTrustBundle revisedInChild (collectEvidence revisedInChild 1
      4).benchmarkRunIds).results.length = 3 := by
    decide +kernel
  rw [selected, counted] at sameLength
  cases sameLength

end ModelAtlas.Validation
