import Mathlib.Algebra.Order.Ring.Unbundled.Rat
import Mathlib.Data.Prod.Lex
import ModelAtlas.Foundations.LatestRows
import ModelAtlas.Foundations.Table
import ModelAtlas.Labels.ScoreTiers

/-!
# Selected evidence

`collect_evidence` of `services/deployment_gate/evidence.py` selects the latest
revisions of the completed results of a scope, and
`services/evidence_trust.py` says how far they are trusted.
-/

namespace ModelAtlas.Validation

open Foundations Labels
open Approval (TextEnvironment)

structure StoredCase extends EvaluationCase where
  (id evaluationSuiteId : Uuid)
  isActive : Bool

instance : Keyed StoredCase Uuid where
  key := StoredCase.id

structure BenchmarkRun where
  id : Uuid
  (deploymentConfigurationId evaluationSuiteId : Option Uuid)
  (status dataSource : String)
  runtimeConfig : Json
  artifactName : String

instance : Keyed BenchmarkRun Uuid where
  key := BenchmarkRun.id

structure BenchmarkResult where
  (id benchmarkRunId : Uuid)
  (evaluationCaseId rootBenchmarkResultId : Option Uuid)
  revisionNumber : Int
  createdAt : Time
  (sampleId dataSource : String)
  qualityScore : Option Rat
  errorType : Option String
  metadata : Metadata

instance : Keyed BenchmarkResult Uuid where
  key := BenchmarkResult.id

structure InferenceMetric where
  benchmarkRunId : Uuid
  (sampleId dataSource : String)
  oomOccurred : Bool

structure EvidenceState where
  cases : Table StoredCase
  runs : Table BenchmarkRun
  results : Table BenchmarkResult
  metrics : List InferenceMetric

/-- `result.root_benchmark_result_id or result.id`. -/
def BenchmarkResult.rootId (res : BenchmarkResult) : Uuid :=
  res.rootBenchmarkResultId.getD res.id

/-- `_revision_sort_key(left) < _revision_sort_key(right)`. -/
def revisionPrecedes (left right : BenchmarkResult) : Bool :=
  let leftRevision := max 1 left.revisionNumber
  let rightRevision := max 1 right.revisionNumber
  leftRevision < rightRevision ||
    (leftRevision = rightRevision && (left.createdAt < right.createdAt ||
      (left.createdAt = right.createdAt && left.id < right.id)))

/-- The loop of `_latest_result_revisions`. -/
def keepLatest (latest : List BenchmarkResult) (res : BenchmarkResult) : List BenchmarkResult :=
  match latest.find? (fun other => other.rootId = res.rootId) with
  | none => latest ++ [res]
  | some current =>
    if revisionPrecedes current res then
      latest.map (fun other =>
        if other.rootId = res.rootId then res else other)
    else latest

def latestResultRevisions (results : List BenchmarkResult) : List BenchmarkResult :=
  (results.foldl keepLatest []).insertionSort (fun left right =>
    left.sampleId < right.sampleId ∨ (left.sampleId = right.sampleId ∧ left.id ≤ right.id))

def toolFaultDataSource : String :=
  "tool_fault_fixture_diagnostic"

structure EvidenceBundle where
  activeCases : List StoredCase
  runs : List BenchmarkRun
  results : List BenchmarkResult
  metrics : List InferenceMetric

/-- `result_case_map`. -/
def EvidenceBundle.caseOf (bundle : EvidenceBundle) (res : BenchmarkResult) :
    Option EvaluationCase :=
  (bundle.activeCases.find? (fun stored =>
    some stored.id = res.evaluationCaseId)).map StoredCase.toEvaluationCase

def InferenceMetric.Measures (metric : InferenceMetric) (res : BenchmarkResult) : Prop :=
  res.benchmarkRunId = metric.benchmarkRunId ∧ res.sampleId = metric.sampleId

instance (metric : InferenceMetric) (res : BenchmarkResult) :
    Decidable (metric.Measures res) :=
  inferInstanceAs (Decidable (_ ∧ _))

def collectEvidence (state : EvidenceState) (deploymentConfigurationId
    evaluationSuiteId : Uuid) : EvidenceBundle :=
  let activeCases := state.cases.rows.filter (fun stored =>
    stored.evaluationSuiteId = evaluationSuiteId && stored.isActive)
  let candidateRuns := state.runs.rows.filter (fun run =>
    run.deploymentConfigurationId = some deploymentConfigurationId &&
      run.evaluationSuiteId = some evaluationSuiteId &&
      run.status = "completed" && run.dataSource ≠ toolFaultDataSource)
  let candidateResults := state.results.rows.filter (fun res =>
    candidateRuns.any (fun run => run.id = res.benchmarkRunId) &&
      activeCases.any (fun stored => some stored.id = res.evaluationCaseId))
  let results := latestResultRevisions candidateResults
  { activeCases := activeCases
    runs := candidateRuns.filter (fun run =>
      results.any (fun res => res.benchmarkRunId = run.id))
    results := results
    metrics := state.metrics.filter (fun metric =>
      results.any (fun res => metric.Measures res)) }

theorem exists_measured {state : EvidenceState} {deploymentConfigurationId evaluationSuiteId : Uuid}
    {metric : InferenceMetric}
    (mem : metric ∈ (collectEvidence state deploymentConfigurationId evaluationSuiteId).metrics) :
    ∃ res ∈ (collectEvidence state deploymentConfigurationId
      evaluationSuiteId).results, metric.Measures res := by
  have measured := (List.mem_filter.mp mem).2
  rw [List.any_eq_true] at measured
  obtain ⟨res, resultMem, measures⟩ := measured
  exact ⟨res, resultMem, of_decide_eq_true measures⟩

/-- `_revision_sort_key`. -/
def revisionKey (res : BenchmarkResult) : Int ×ₗ (Int ×ₗ Nat) :=
  toLex (max 1 res.revisionNumber, toLex (res.createdAt, res.id))

theorem revisionPrecedes_iff {left right : BenchmarkResult} :
    revisionPrecedes left right = true ↔ revisionKey left < revisionKey right := by
  rw [revisionKey, revisionKey, Prod.Lex.toLex_lt_toLex, Prod.Lex.toLex_lt_toLex]
  simp [revisionPrecedes]

theorem keepLatest_eq (latest : List BenchmarkResult) (res : BenchmarkResult) :
    keepLatest latest res = keepLatestBy BenchmarkResult.rootId revisionKey latest res := by
  cases found : latest.find? (fun other => other.rootId = res.rootId) with
  | none => simp only [keepLatest, keepLatestBy, found]
  | some current =>
    simp only [keepLatest, keepLatestBy, found]
    by_cases precedes : revisionPrecedes current res = true
    · rw [if_pos precedes, if_pos (revisionPrecedes_iff.mp precedes)]
    · rw [if_neg precedes, if_neg (fun before =>
        precedes (revisionPrecedes_iff.mpr before))]

theorem latestOf_revisions (results : List BenchmarkResult) :
    LatestOf BenchmarkResult.rootId revisionKey results (latestResultRevisions results) := by
  have sameLoop : keepLatest = keepLatestBy BenchmarkResult.rootId revisionKey := by
    funext latest res
    exact keepLatest_eq latest res
  have kept : LatestOf BenchmarkResult.rootId revisionKey results
      (results.foldl keepLatest []) := by
    rw [sameLoop]
    exact latestOf_all results
  have perm := List.perm_insertionSort (fun left right : BenchmarkResult =>
    left.sampleId < right.sampleId ∨ (left.sampleId = right.sampleId ∧ left.id ≤ right.id))
    (results.foldl keepLatest [])
  constructor
  · intro selected mem
    exact kept.within selected (perm.mem_iff.mp mem)
  · exact (perm.map BenchmarkResult.rootId).nodup_iff.mpr kept.one
  · intro res mem
    obtain ⟨selected, selectedMem, same⟩ := kept.covers res mem
    exact ⟨selected, perm.mem_iff.mpr selectedMem, same⟩
  · intro selected mem
    exact kept.greatest selected (perm.mem_iff.mp mem)

theorem exists_latestResultRevisions {results : List BenchmarkResult}
    {res : BenchmarkResult} (mem : res ∈ results) :
    ∃ selected ∈ results, selected ∈ latestResultRevisions results ∧
      selected.rootId = res.rootId := by
  have latestOf := latestOf_revisions results
  obtain ⟨selected, isSelected, sameRoot⟩ := latestOf.covers res mem
  exact ⟨selected, latestOf.within selected isSelected, isSelected, sameRoot⟩

theorem le_of_mem_latestResultRevisions {results : List BenchmarkResult}
    {selected : BenchmarkResult} (isSelected : selected ∈ latestResultRevisions results) :
    ∀ res ∈ results, res.rootId = selected.rootId →
      max 1 res.revisionNumber ≤ max 1 selected.revisionNumber := by
  intro res mem sameRoot
  have le := (latestOf_revisions results).greatest selected isSelected res mem sameRoot
  rw [revisionKey, revisionKey, Prod.Lex.toLex_le_toLex] at le
  rcases le with lower | ⟨same, _⟩
  · exact le_of_lt lower
  · exact le_of_eq same

inductive SourceTier where
  | syntheticDemo
  | localAuthored
  | productionCaptured
  | productionCapturedUnverified
  | externalBenchmark
  | unknown
  deriving DecidableEq, Repr

def normalizeSourceTier (text : TextEnvironment) (value : String) :
    SourceTier :=
  match text.lower (pyStrip value) with
  | "captured_local" => .localAuthored
  | "local_actual_runtime" => .localAuthored
  | "synthetic_demo" => .syntheticDemo
  | "local_authored" => .localAuthored
  | "production_captured" => .productionCaptured
  | "production_captured_unverified" => .productionCapturedUnverified
  | "external_benchmark" => .externalBenchmark
  | _ => .unknown

structure EvidenceTrustThresholds where
  minimumAppliedJudgeLabelRateForLocalDemo : Rat
  (minimumCriticalReviewedCountForLocalDemo minimumProductionCapturedResultCount : Int)
  minimumAppliedJudgeLabelRateForProduction : Rat
  minimumCriticalReviewCoverageRateForProduction : Rat

inductive TrustStatus where
  | unknown
  | syntheticOnly
  | needsJudgeReview
  | localDemoReady
  | productionEvidenceReady
  deriving DecidableEq, Repr

section Trust

variable (text : TextEnvironment) (thresholds : EvidenceTrustThresholds)
  (verifiedProductionRuns : Uuid → Bool) (bundle : EvidenceBundle)

def sourceTier (res : BenchmarkResult) : SourceTier :=
  let tier := normalizeSourceTier text res.dataSource
  if tier = .productionCaptured ∧ !verifiedProductionRuns res.benchmarkRunId then
    .productionCapturedUnverified
  else tier

def isReviewed (res : BenchmarkResult) : Bool :=
  let tier := classifyScoreTier text res.metadata (bundle.caseOf res)
  tier = .appliedJudgeLabel || tier = .humanReviewed

/-- `_rate` of the trust of evidence. -/
def trustRate (numerator denominator : Nat) : Rat :=
  if denominator = 0 then 0 else (numerator : Rat) / denominator

/-- `trust_status` of `summarize_evidence_trust`. -/
def trustStatus : TrustStatus :=
  let results := bundle.results
  let tierCount := fun tier => results.countP (fun res =>
    sourceTier text verifiedProductionRuns res = tier)
  let isCritical := fun res => (bundle.caseOf res).any
    (fun stored => stored.criticality = some "critical")
  let criticalCount := results.countP isCritical
  let criticalReviewed := results.countP (fun res =>
    isCritical res && isReviewed text bundle res)
  let appliedRate :=
    trustRate (results.countP (isReviewed text bundle)) results.length
  let criticalRate := trustRate criticalReviewed criticalCount
  let productionReady :=
    thresholds.minimumAppliedJudgeLabelRateForProduction ≤ appliedRate ∧ (criticalCount = 0 ∨
        thresholds.minimumCriticalReviewCoverageRateForProduction ≤ criticalRate)
  let localReady :=
    thresholds.minimumAppliedJudgeLabelRateForLocalDemo ≤ appliedRate ∧ (criticalCount = 0 ∨
        thresholds.minimumCriticalReviewedCountForLocalDemo ≤ criticalReviewed)
  if results.length = 0 ∨ tierCount .unknown = results.length then .unknown
  else if tierCount .syntheticDemo = results.length then .syntheticOnly
  else if thresholds.minimumProductionCapturedResultCount ≤
      tierCount .productionCaptured ∧ productionReady then
    .productionEvidenceReady
  else if ¬localReady then .needsJudgeReview
  else if tierCount .localAuthored ≠ 0 ∨ tierCount .productionCaptured ≠ 0 then
    .localDemoReady
  else .unknown

end Trust

end ModelAtlas.Validation
