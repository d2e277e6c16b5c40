import ModelAtlas.Evidence.Validation.ModelReports

/-!
# What a validated report means

A report is validated where no check stops it. The checks miss a rate that is
rounded to zero, and runs of no recorded digest or of another model.
-/

namespace ModelAtlas.Validation

open Foundations Labels
open Approval (TextEnvironment)

theorem roundRate_pos {value : Rat} : 0 < roundRate value ↔ 1 ≤ value * 20000 := by
  have scaled : (0 : Rat) < (⌊value * 10000 + 1 / 2⌋ : Rat) / 10000 ↔
      (0 : Rat) < (⌊value * 10000 + 1 / 2⌋ : Rat) := by
    constructor
    · intro positive
      have product := mul_pos positive (by norm_num : (0 : Rat) < 10000)
      rwa [div_mul_cancel₀ _ (by norm_num : (10000 : Rat) ≠ 0)] at product
    · intro positive
      exact div_pos positive (by norm_num)
  rw [roundRate, scaled, Int.cast_pos, Int.lt_iff_add_one_le, zero_add, Int.le_floor]
  constructor
  · intro least
    push_cast at least
    linarith
  · intro least
    push_cast
    linarith

theorem rate_pos {numerator denominator : Nat} : 0 < rate numerator denominator ↔
      denominator ≠ 0 ∧ denominator ≤ 20000 * numerator := by
  rw [rate]
  by_cases empty : denominator = 0
  · simp [empty]
  · rw [if_neg empty, roundRate_pos]
    have positive : (0 : Rat) < denominator :=
      Nat.cast_pos.mpr (Nat.pos_of_ne_zero empty)
    rw [div_mul_eq_mul_div, le_div_iff₀ positive, one_mul]
    constructor
    · intro bounded
      refine ⟨empty, ?_⟩
      have cast : (denominator : Rat) ≤ ((20000 * numerator : Nat) : Rat) := by
        push_cast
        linarith
      exact Nat.cast_le.mp cast
    · rintro ⟨_, bounded⟩
      have cast : (denominator : Rat) ≤ ((20000 * numerator : Nat) : Rat) :=
        Nat.cast_le.mpr bounded
      push_cast at cast
      linarith

section Cohorts

variable {env : ValidationEnvironment} {bundle : EvidenceBundle}

theorem mem_resultsOf {dataSource : String} {res : BenchmarkResult} :
    res ∈ bundle.resultsOf dataSource ↔ res ∈ bundle.results ∧ res.dataSource = dataSource := by
  rw [EvidenceBundle.resultsOf, List.mem_filter, decide_eq_true_eq]

theorem mem_metricsOf {dataSource : String} {metric : InferenceMetric} :
    metric ∈ bundle.metricsOf dataSource ↔
      metric ∈ bundle.metrics ∧ bundle.sourceOf metric = dataSource := by
  rw [EvidenceBundle.metricsOf, List.mem_filter, decide_eq_true_eq]

theorem mem_cohorts {found : ModelValidationCohort} : found ∈ cohorts env bundle ↔
      ∃ res ∈ bundle.results, cohort env bundle res.dataSource = found := by
  rw [cohorts, List.mem_map]
  constructor
  · rintro ⟨source, mem, rfl⟩
    rw [List.mem_insertionSort, List.mem_dedup, List.mem_map] at mem
    obtain ⟨res, resultMem, rfl⟩ := mem
    exact ⟨res, resultMem, rfl⟩
  · rintro ⟨res, mem, rfl⟩
    refine ⟨res.dataSource, ?_, rfl⟩
    rw [List.mem_insertionSort, List.mem_dedup]
    exact List.mem_map_of_mem mem

theorem exists_source {metric : InferenceMetric}
    (measured : ∃ res ∈ bundle.results, metric.Measures res) :
    ∃ res ∈ bundle.results, res.dataSource = bundle.sourceOf metric := by
  obtain ⟨res, mem, measures⟩ := measured
  cases found : bundle.results.reverse.find? (fun res => metric.Measures res) with
  | none =>
    have unmeasured := List.find?_eq_none.mp found res (List.mem_reverse.mpr mem)
    exact absurd (decide_eq_true measures) unmeasured
  | some latest =>
    refine ⟨latest, List.mem_reverse.mp (List.mem_of_find?_eq_some found), ?_⟩
    rw [EvidenceBundle.sourceOf, found, Option.map_some, Option.getD_some]

theorem any_errorRate_pos :
    (cohorts env bundle).any (fun cohort => 0 < cohort.errorRate) = true ↔
      ∃ source, 0 < rate ((bundle.resultsOf source).countP
        BenchmarkResult.hasError) (bundle.resultsOf source).length := by
  rw [List.any_eq_true]
  constructor
  · rintro ⟨found, mem, positive⟩
    obtain ⟨res, _, rfl⟩ := mem_cohorts.mp mem
    exact ⟨res.dataSource, of_decide_eq_true positive⟩
  · rintro ⟨source, positive⟩
    have nonempty := (rate_pos.mp positive).1
    obtain ⟨res, mem⟩ := List.exists_mem_of_length_pos (Nat.pos_of_ne_zero nonempty)
    obtain ⟨resultMem, rfl⟩ := mem_resultsOf.mp mem
    exact ⟨cohort env bundle res.dataSource,
      mem_cohorts.mpr ⟨res, resultMem, rfl⟩, decide_eq_true positive⟩

theorem oomRate_getD {source : String} : (cohort env bundle source).oomRate.getD 0 =
      rate ((bundle.metricsOf source).countP InferenceMetric.oomOccurred)
        (bundle.metricsOf source).length := by
  rw [cohort]
  by_cases empty : (bundle.metricsOf source).isEmpty = true
  · simp only [empty, if_true, Option.getD_none]
    rw [List.isEmpty_iff.mp empty, rate]
    simp
  · simp only [empty, Bool.false_eq_true, if_false, Option.getD_some]

theorem any_oomRate_pos (measured : ∀ metric ∈ bundle.metrics,
      ∃ res ∈ bundle.results, metric.Measures res) :
    (cohorts env bundle).any (fun cohort => 0 < cohort.oomRate.getD 0) = true ↔
      ∃ source, 0 < rate ((bundle.metricsOf source).countP
        InferenceMetric.oomOccurred) (bundle.metricsOf source).length := by
  rw [List.any_eq_true]
  constructor
  · rintro ⟨found, mem, positive⟩
    obtain ⟨res, _, rfl⟩ := mem_cohorts.mp mem
    rw [oomRate_getD] at positive
    exact ⟨res.dataSource, of_decide_eq_true positive⟩
  · rintro ⟨source, positive⟩
    have nonempty := (rate_pos.mp positive).1
    obtain ⟨metric, mem⟩ := List.exists_mem_of_length_pos (Nat.pos_of_ne_zero nonempty)
    obtain ⟨metricMem, isSource⟩ := mem_metricsOf.mp mem
    obtain ⟨res, resultMem, sameSource⟩ :=
      exists_source (measured metric metricMem)
    refine ⟨cohort env bundle res.dataSource,
      mem_cohorts.mpr ⟨res, resultMem, rfl⟩, decide_eq_true ?_⟩
    rw [oomRate_getD, sameSource, isSource]
    exact positive

theorem any_actualRuntime : (cohorts env bundle).any
        (fun cohort => 0 < cohort.actualRuntimeResultCount) = true ↔
      ∃ res ∈ bundle.results, isActualRuntimeResult env bundle res = true := by
  rw [List.any_eq_true]
  constructor
  · rintro ⟨found, mem, positive⟩
    obtain ⟨_, _, rfl⟩ := mem_cohorts.mp mem
    obtain ⟨res, resultMem, actual⟩ :=
      List.countP_pos_iff.mp (of_decide_eq_true positive)
    exact ⟨res, (mem_resultsOf.mp resultMem).1, actual⟩
  · rintro ⟨res, mem, actual⟩
    refine ⟨cohort env bundle res.dataSource, mem_cohorts.mpr ⟨res, mem, rfl⟩, decide_eq_true ?_⟩
    exact List.countP_pos_iff.mpr ⟨res, mem_resultsOf.mpr ⟨mem, rfl⟩, actual⟩

end Cohorts

theorem validationStatus_eq_validated {cohorts : List ModelValidationCohort} {trust : TrustStatus}
    {calibration : CalibrationStatus} {focusAdapter : Option String} {actualRuntimeValidated : Bool}
    {configurationModelMatch : Option Bool} {attestationStatus : AttestationStatus} :
    validationStatus cohorts trust calibration focusAdapter
        actualRuntimeValidated configurationModelMatch attestationStatus = .validated ↔
      cohorts.isEmpty = false ∧ focusAdapter ≠ some "mock" ∧
      cohorts.all (fun cohort => cohort.dataSource = syntheticSource) = false ∧
      actualRuntimeValidated = true ∧ configurationModelMatch ≠ some false ∧
      attestationStatus = .verified ∧ calibration ≠ .needsReview ∧
      trust ≠ .unknown ∧ trust ≠ .needsJudgeReview ∧
      cohorts.any (fun cohort => 0 < cohort.errorRate) = false ∧
      cohorts.any (fun cohort => 0 < cohort.oomRate.getD 0) = false := by
  rw [validationStatus]
  -- Each check is one truth value.
  generalize cohorts.any (fun cohort => 0 < cohort.errorRate) = errors
  generalize cohorts.any (fun cohort => 0 < cohort.oomRate.getD 0) = ooms
  generalize cohorts.all (fun cohort => cohort.dataSource = syntheticSource) = synthetic
  generalize cohorts.isEmpty = empty
  constructor
  · intro validated
    split_ifs at validated
    grind
  · intro passed
    grind

/-! ## What the evidence is to be -/

def ContributesRuntime (env : ValidationEnvironment)
    (bundle : EvidenceBundle) (run : BenchmarkRun) : Prop :=
  run ∈ bundle.runs ∧ adapterName env run = "openai_compatible" ∧
    ∃ res ∈ bundle.results, res.benchmarkRunId = run.id ∧ res.dataSource ≠ syntheticSource

def RunsAttestedModel (env : ValidationEnvironment)
    (report : ModelValidationReport) (run : BenchmarkRun) : Prop :=
  ∃ attestation digest, report.attestation = some attestation ∧
    attestedDigest env attestation = some digest ∧
    report.configuredDigest = some digest ∧
    runModelDigest env run = some digest ∧
    normalizedName env (modelName env run) = normalizedName env attestation.runtimeModelName

structure Earned (env : ValidationEnvironment)
    (report : ModelValidationReport) : Prop where
  actual : ∃ run, ContributesRuntime env report.bundle run
  identified : ∀ run, ContributesRuntime env report.bundle run →
    RunsAttestedModel env report run
  noError : ∀ res ∈ report.bundle.results, res.hasError = false
  noOom : ∀ metric ∈ report.bundle.metrics, metric.oomOccurred = false
  calibrated : qualityDeltas env report.bundle ≠ [] →
    ∃ mean, meanDelta (qualityDeltas env report.bundle) = some mean ∧
      mean ≤ calibrationTolerance

/-- An error, an OOM or a run with another or no digest is in the evidence. -/
inductive Blocked (env : ValidationEnvironment)
    (report : ModelValidationReport) : Prop
  | error {res : BenchmarkResult} (mem : res ∈ report.bundle.results)
      (hasError : res.hasError = true)
  | oom {metric : InferenceMetric} (mem : metric ∈ report.bundle.metrics)
      (oomOccurred : metric.oomOccurred = true)
  | digest {run : BenchmarkRun}
      (contributes : ContributesRuntime env report.bundle run)
      (other : ∀ attestation digest, report.attestation = some attestation →
        attestedDigest env attestation = some digest →
          runModelDigest env run ≠ some digest)

/-- A validated status is earned, and none with blocking evidence is. -/
def StatusIsEarned (env : ValidationEnvironment) (report : ModelValidationReport) : Prop :=
  (report.status = .validated → Earned env report) ∧
    (Blocked env report → report.status ≠ .validated)

theorem Earned.not_blocked {env : ValidationEnvironment}
    {report : ModelValidationReport} (earned : Earned env report) :
    ¬Blocked env report := by
  intro blocked
  cases blocked with
  | error mem hasError =>
    rw [earned.noError _ mem] at hasError
    cases hasError
  | oom mem oomOccurred =>
    rw [earned.noOom _ mem] at oomOccurred
    cases oomOccurred
  | digest contributes other =>
    obtain ⟨attestation, digest, present, attested, _, recorded, _⟩ :=
      earned.identified _ contributes
    exact other attestation digest present attested recorded

section Conditions

variable (env : ValidationEnvironment) (input : ValidationInput)
  (deployment : DeploymentConfiguration) (suite : EvaluationSuite)
  (focusRun : Option BenchmarkRun)

def selectedEvidence : EvidenceBundle :=
  collectEvidence input.evidence deployment.id suite.id

def configuredAttestation : Option ModelArtifactAttestation :=
  latestVerifiedAttestation input.attestations deployment.modelArtifactId

inductive Stopped : Prop
  | mockFocus (mock : focusRun.map (adapterName env) = some "mock")
  | noRuntime
      (none : ∀ res ∈ (selectedEvidence input deployment suite).results,
        isActualRuntimeResult env
          (selectedEvidence input deployment suite) res = false)
  | otherSize
      (other : modelIdentityMatch env deployment.artifactName
        (observedModelNames env
          (selectedEvidence input deployment suite)) = some false)
  | unattested
      (unattested : artifactAttestationStatus env
        (configuredAttestation input deployment)
        (sha256Digest env (deployment.artifactChecksum.map Json.str))
        (observedModelNames env
          (selectedEvidence input deployment suite))
        (observedModelDigests env
          (selectedEvidence input deployment suite)) ≠ .verified)
  | uncalibrated
      (needsReview : calibrationStatus env
        (selectedEvidence input deployment suite) = .needsReview)
  | untrusted
      (untrusted : trustStatus env.text input.thresholds
          input.verifiedProductionRuns
          (selectedEvidence input deployment suite) = .unknown ∨
        trustStatus env.text input.thresholds
          input.verifiedProductionRuns
          (selectedEvidence input deployment suite) = .needsJudgeReview)
  | errors {source : String}
      (many : 0 < rate
        (((selectedEvidence input deployment suite).resultsOf source).countP
          BenchmarkResult.hasError)
        ((selectedEvidence input deployment suite).resultsOf source).length)
  | ooms {source : String}
      (many : 0 < rate
        (((selectedEvidence input deployment suite).metricsOf source).countP
          InferenceMetric.oomOccurred)
        ((selectedEvidence input deployment suite).metricsOf source).length)

/-- Evidence that no check sees: few errors or OOMs of a source, a run that
recorded no digest, a run of another model. -/
inductive Missed : Prop
  | errors {source : String}
      (some : 0 < ((selectedEvidence input deployment suite).resultsOf
        source).countP BenchmarkResult.hasError)
      (few : 20000 * ((selectedEvidence input deployment suite).resultsOf
          source).countP BenchmarkResult.hasError <
        ((selectedEvidence input deployment suite).resultsOf source).length)
  | ooms {source : String}
      (some : 0 < ((selectedEvidence input deployment suite).metricsOf
        source).countP InferenceMetric.oomOccurred)
      (few : 20000 * ((selectedEvidence input deployment suite).metricsOf
          source).countP InferenceMetric.oomOccurred <
        ((selectedEvidence input deployment suite).metricsOf source).length)
  | noDigest {run : BenchmarkRun}
      (contributes : ContributesRuntime env
        (selectedEvidence input deployment suite) run)
      (unrecorded : runModelDigest env run = none)
  | otherModel {run : BenchmarkRun} {attestation : ModelArtifactAttestation}
      (contributes : ContributesRuntime env
        (selectedEvidence input deployment suite) run)
      (attested : configuredAttestation input deployment = some attestation)
      (other : normalizedName env (modelName env run) ≠
        normalizedName env attestation.runtimeModelName)

end Conditions

section Reports

variable {env : ValidationEnvironment} {input : ValidationInput}
  {deployment : DeploymentConfiguration} {suite : EvaluationSuite}
  {focusRun : Option BenchmarkRun}

theorem exists_contributing {bundle : EvidenceBundle} {res : BenchmarkResult}
    (mem : res ∈ bundle.results) (actual : isActualRuntimeResult env bundle res = true) :
    ∃ run, ContributesRuntime env bundle run := by
  rw [isActualRuntimeResult, Bool.and_eq_true, List.any_eq_true, decide_eq_true_eq] at actual
  obtain ⟨⟨run, runMem, isRun⟩, authored⟩ := actual
  rw [Bool.and_eq_true, decide_eq_true_eq, decide_eq_true_eq] at isRun
  exact ⟨run, runMem, isRun.2, res, mem, isRun.1.symm, authored⟩

theorem cohorts_of_actual {bundle : EvidenceBundle} {res : BenchmarkResult}
    (mem : res ∈ bundle.results) (actual : isActualRuntimeResult env bundle res = true) :
    (cohorts env bundle).isEmpty = false ∧ (cohorts env bundle).all (fun cohort =>
        cohort.dataSource = syntheticSource) = false := by
  have isCohort : cohort env bundle res.dataSource ∈ cohorts env bundle :=
    mem_cohorts.mpr ⟨res, mem, rfl⟩
  have authored : res.dataSource ≠ syntheticSource := by
    rw [isActualRuntimeResult, Bool.and_eq_true, decide_eq_true_eq] at actual
    exact actual.2
  constructor
  · rw [List.isEmpty_eq_false_iff]
    exact List.ne_nil_of_mem isCohort
  · rw [List.all_eq_false]
    refine ⟨_, isCohort, ?_⟩
    rw [Bool.not_eq_true, decide_eq_false_iff_not]
    exact authored

@[simp]
theorem reportOf_bundle : (reportOf env input deployment suite focusRun).bundle =
      selectedEvidence input deployment suite :=
  rfl

@[simp]
theorem reportOf_attestation : (reportOf env input deployment suite focusRun).attestation =
      configuredAttestation input deployment :=
  rfl

@[simp]
theorem reportOf_configuredDigest :
    (reportOf env input deployment suite focusRun).configuredDigest =
      sha256Digest env (deployment.artifactChecksum.map Json.str) := by
  simp only [reportOf]

theorem status_eq_validated : (reportOf env input deployment suite focusRun).status = .validated ↔
      ¬Stopped env input deployment suite focusRun := by
  have measured : ∀ metric ∈ (selectedEvidence input deployment suite).metrics,
      ∃ res ∈ (selectedEvidence input deployment suite).results, metric.Measures res :=
    fun _ mem => exists_measured mem
  have unfolded : (reportOf env input deployment suite
      focusRun).status = .validated ↔ _ := validationStatus_eq_validated
  rw [unfolded]
  constructor
  · rintro ⟨_, notMock, _, actual, sizes, attested, calibrated, known, trusted,
      noErrors, noOoms⟩ stopped
    cases stopped with
    | mockFocus mock =>
      exact notMock mock
    | noRuntime none =>
      obtain ⟨res, mem, isActual⟩ := any_actualRuntime.mp actual
      exact Bool.false_ne_true ((none res mem).symm.trans isActual)
    | otherSize other =>
      exact sizes other
    | unattested unattested =>
      exact unattested attested
    | uncalibrated needsReview =>
      exact calibrated needsReview
    | untrusted untrusted =>
      exact untrusted.elim known trusted
    | errors many =>
      have seen : (cohorts env (selectedEvidence input deployment suite)).any
            (fun cohort => 0 < cohort.errorRate) = true :=
        any_errorRate_pos.mpr ⟨_, many⟩
      exact Bool.false_ne_true (noErrors.symm.trans seen)
    | ooms many =>
      have seen : (cohorts env (selectedEvidence input deployment suite)).any
            (fun cohort => 0 < cohort.oomRate.getD 0) = true :=
        (any_oomRate_pos measured).mpr ⟨_, many⟩
      exact Bool.false_ne_true (noOoms.symm.trans seen)
  · intro passed
    have isActual : ∃ res ∈ (selectedEvidence input deployment suite).results,
        isActualRuntimeResult env (selectedEvidence input deployment suite) res = true := by
      by_contra noneActual
      refine passed (.noRuntime (fun res mem => ?_))
      by_contra actual
      rw [Bool.not_eq_false] at actual
      exact noneActual ⟨res, mem, actual⟩
    obtain ⟨res, mem, actual⟩ := isActual
    obtain ⟨nonempty, authored⟩ := cohorts_of_actual mem actual
    refine ⟨nonempty, fun mock => passed (.mockFocus mock), authored,
      any_actualRuntime.mpr ⟨res, mem, actual⟩,
      fun other => passed (.otherSize other), ?_,
      fun needsReview => passed (.uncalibrated needsReview),
      fun unknown => passed (.untrusted (Or.inl unknown)),
      fun untrusted => passed (.untrusted (Or.inr untrusted)), ?_, ?_⟩
    · by_contra unattested
      exact passed (.unattested unattested)
    · rw [Bool.eq_false_iff]
      intro seen
      obtain ⟨source, many⟩ := any_errorRate_pos.mp seen
      exact passed (.errors many)
    · rw [Bool.eq_false_iff]
      intro seen
      obtain ⟨source, many⟩ := (any_oomRate_pos measured).mp seen
      exact passed (.ooms many)

theorem attested_of_verified {attestation : Option ModelArtifactAttestation}
    {configured : Option String} {names digests : List String}
    (verified : artifactAttestationStatus env attestation configured names digests = .verified) :
    ∃ present digest, attestation = some present ∧ attestedDigest env present = some digest ∧
      configured = some digest ∧ ∀ other ∈ digests, other = digest := by
  unfold artifactAttestationStatus at verified
  split at verified
  · cases verified
  · next present =>
      split at verified
      · cases verified
      · next digest attested =>
          by_cases mismatch : configured ≠ some digest ∨
              digests.any (fun other => other ≠ digest) = true
          · rw [if_pos mismatch] at verified
            cases verified
          · rw [not_or, Decidable.not_not] at mismatch
            refine ⟨present, digest, rfl, attested, mismatch.1, ?_⟩
            intro other mem
            by_contra different
            exact mismatch.2 (List.any_eq_true.mpr ⟨other, mem, decide_eq_true different⟩)

theorem calibrated_of_status {bundle : EvidenceBundle}
    (calibrated : calibrationStatus env bundle ≠ .needsReview)
    (present : qualityDeltas env bundle ≠ []) :
    ∃ mean, meanDelta (qualityDeltas env bundle) = some mean ∧ mean ≤ calibrationTolerance := by
  rw [calibrationStatus] at calibrated
  simp only [List.isEmpty_iff, present, if_false] at calibrated
  by_cases within : (meanDelta (qualityDeltas env bundle)).any (· ≤ calibrationTolerance) = true
  · obtain ⟨mean, isMean, bounded⟩ := (Option.any_eq_true _ _).mp within
    exact ⟨mean, isMean, of_decide_eq_true bounded⟩
  · rw [if_neg within] at calibrated
    exact absurd rfl calibrated

theorem few_of_rate {numerator denominator : Nat} (some : 0 < numerator)
    (bounded : numerator ≤ denominator) (rounded : ¬0 < rate numerator denominator) :
    20000 * numerator < denominator := by
  by_contra many
  exact rounded (rate_pos.mpr ⟨by omega, by omega⟩)

theorem noError_of_passed (passed : ¬Stopped env input deployment suite focusRun)
    (seen : ¬Missed env input deployment suite) :
    ∀ res ∈ (selectedEvidence input deployment suite).results, res.hasError = false := by
  intro res mem
  by_contra hasError
  rw [Bool.not_eq_false] at hasError
  have some : 0 < ((selectedEvidence input deployment suite).resultsOf
      res.dataSource).countP BenchmarkResult.hasError :=
    List.countP_pos_iff.mpr ⟨res, mem_resultsOf.mpr ⟨mem, rfl⟩, hasError⟩
  exact seen (.errors some (few_of_rate some List.countP_le_length
    (fun many => passed (.errors many))))

theorem noOom_of_passed (passed : ¬Stopped env input deployment suite focusRun)
    (seen : ¬Missed env input deployment suite) :
    ∀ metric ∈ (selectedEvidence input deployment suite).metrics, metric.oomOccurred = false := by
  intro metric mem
  by_contra oomOccurred
  rw [Bool.not_eq_false] at oomOccurred
  have some : 0 < ((selectedEvidence input deployment suite).metricsOf
      ((selectedEvidence input deployment suite).sourceOf metric)).countP
        InferenceMetric.oomOccurred :=
    List.countP_pos_iff.mpr ⟨metric, mem_metricsOf.mpr ⟨mem, rfl⟩, oomOccurred⟩
  exact seen (.ooms some (few_of_rate some List.countP_le_length (fun many => passed (.ooms many))))

theorem runsAttestedModel_of_passed (passed : ¬Stopped env input deployment suite focusRun)
    (seen : ¬Missed env input deployment suite) {run : BenchmarkRun}
    (contributes : ContributesRuntime env (selectedEvidence input deployment suite) run) :
    RunsAttestedModel env (reportOf env input deployment suite focusRun) run := by
  have verified : artifactAttestationStatus env (configuredAttestation input deployment)
      (sha256Digest env (deployment.artifactChecksum.map Json.str))
      (observedModelNames env (selectedEvidence input deployment suite))
      (observedModelDigests env (selectedEvidence input deployment suite)) = .verified := by
    by_contra unattested
    exact passed (.unattested unattested)
  obtain ⟨attestation, digest, present, attested, configured, observed⟩ :=
    attested_of_verified verified
  have recorded : runModelDigest env run = some digest := by
    cases own : runModelDigest env run with
    | none =>
      exact absurd (.noDigest contributes own) seen
    | some recorded =>
      have isObserved : recorded ∈ observedModelDigests env
          (selectedEvidence input deployment suite) :=
        mem_sortedSet.mpr (List.mem_filterMap.mpr ⟨run, contributes.1, own⟩)
      rw [observed recorded isObserved]
  have sameName : normalizedName env (modelName env run) =
      normalizedName env attestation.runtimeModelName := by
    by_contra other
    exact seen (.otherModel contributes present other)
  refine ⟨attestation, digest, ?_, attested, ?_, recorded, sameName⟩
  · rw [reportOf_attestation]
    exact present
  · rw [reportOf_configuredDigest]
    exact configured

theorem earned_of_passed (passed : ¬Stopped env input deployment suite focusRun)
    (seen : ¬Missed env input deployment suite) :
    Earned env (reportOf env input deployment suite focusRun) := by
  constructor
  · rw [reportOf_bundle]
    by_contra noneContributes
    refine passed (.noRuntime (fun res mem => ?_))
    by_contra actual
    rw [Bool.not_eq_false] at actual
    exact noneContributes (exists_contributing mem actual)
  · intro run contributes
    rw [reportOf_bundle] at contributes
    exact runsAttestedModel_of_passed passed seen contributes
  · rw [reportOf_bundle]
    exact noError_of_passed passed seen
  · rw [reportOf_bundle]
    exact noOom_of_passed passed seen
  · rw [reportOf_bundle]
    refine calibrated_of_status ?_
    intro needsReview
    exact passed (.uncalibrated needsReview)

theorem Missed.not_earned (missed : Missed env input deployment suite) : ¬Earned env
      (reportOf env input deployment suite focusRun) := by
  intro earned
  cases missed with
  | errors some _ =>
    obtain ⟨res, mem, hasError⟩ := List.countP_pos_iff.mp some
    have noError := earned.noError res (mem_resultsOf.mp mem).1
    rw [hasError] at noError
    cases noError
  | ooms some _ =>
    obtain ⟨metric, mem, oomOccurred⟩ := List.countP_pos_iff.mp some
    have noOom := earned.noOom metric (mem_metricsOf.mp mem).1
    rw [oomOccurred] at noOom
    cases noOom
  | noDigest contributes unrecorded =>
    obtain ⟨_, _, _, _, _, recorded, _⟩ := earned.identified _ contributes
    rw [unrecorded] at recorded
    cases recorded
  | otherModel contributes attested other =>
    obtain ⟨present, _, isPresent, _, _, _, sameName⟩ :=
      earned.identified _ contributes
    have sameAttestation := Option.some.inj (attested.symm.trans isPresent)
    rw [← sameAttestation] at sameName
    exact other sameName

theorem report_of_build {report : ModelValidationReport}
    (built : buildModelValidationReport env input = .ok report)
    (isDeployment : input.deployment = some deployment) (isSuite : input.suite = some suite) :
    report = reportOf env input deployment suite report.focusRun := by
  rw [buildModelValidationReport, isDeployment, isSuite] at built
  simp only at built
  split_ifs at built
  split at built
  · cases built
  · rw [← Except.ok.inj built]
    rfl

end Reports

/-- The status of a report is earned exactly where a check stops the report, or
the checks miss nothing of its evidence. -/
theorem statusIsEarned_iff {env : ValidationEnvironment} {input : ValidationInput}
    {deployment : DeploymentConfiguration} {suite : EvaluationSuite}
    {report : ModelValidationReport} (built : buildModelValidationReport env input = .ok report)
    (isDeployment : input.deployment = some deployment) (isSuite : input.suite = some suite) :
    StatusIsEarned env report ↔ Stopped env input deployment suite report.focusRun ∨
        ¬Missed env input deployment suite := by
  have isReport := report_of_build built isDeployment isSuite
  have validated : report.status = .validated ↔
      ¬Stopped env input deployment suite report.focusRun := by
    conv_lhs => rw [isReport]
    exact status_eq_validated
  constructor
  · intro earned
    by_cases stopped : Stopped env input deployment suite report.focusRun
    · exact Or.inl stopped
    · have means := earned.1 (validated.mpr stopped)
      rw [isReport] at means
      exact Or.inr (fun missed => missed.not_earned means)
  · rintro (stopped | seen)
    · have unvalidated : report.status ≠ .validated :=
        fun isValidated => validated.mp isValidated stopped
      exact ⟨fun isValidated => absurd isValidated unvalidated, fun _ => unvalidated⟩
    · have earns : report.status = .validated → Earned env report := by
        intro isValidated
        rw [isReport]
        exact earned_of_passed (validated.mp isValidated) seen
      exact ⟨earns, fun blocked isValidated =>
        (earns isValidated).not_blocked blocked⟩

/-! ## A run without a digest -/

def asciiValidation : ValidationEnvironment where
  text := ⟨fun text => String.ofList (text.toList.map Char.toLower),
    fun _ => ""⟩
  isWordChar char := char.isAlphanum || char = '_'
  readFloat _ := none

def artifactDigest : String :=
  "sha256:" ++ String.ofList (List.replicate 64 'a')

def localDeployment : DeploymentConfiguration :=
  ⟨1, 2, 3, "local-model", some artifactDigest⟩

def localSuite : EvaluationSuite := ⟨4, 2⟩

def localRun : BenchmarkRun where
  id := 6
  deploymentConfigurationId := some 1
  evaluationSuiteId := some 4
  status := "completed"
  dataSource := "local_authored"
  runtimeConfig := .obj [("adapter_name", .str "openai_compatible"),
    ("model", .str "local-model")]
  artifactName := "local-model"

def localResult : BenchmarkResult where
  id := 7
  benchmarkRunId := 6
  evaluationCaseId := some 5
  rootBenchmarkResultId := none
  revisionNumber := 1
  createdAt := 10
  sampleId := "sample"
  dataSource := "local_authored"
  qualityScore := some 1
  errorType := none
  metadata _ := none

def localInput : ValidationInput where
  deployment := some localDeployment
  suite := some localSuite
  evidence :=
    { cases := (∅ : Table StoredCase).insert ⟨⟨.obj [], none⟩, 5, 4, true⟩
        (fun other mem => absurd mem (Table.not_mem_empty other))
      runs := (∅ : Table BenchmarkRun).insert localRun
        (fun other mem => absurd mem (Table.not_mem_empty other))
      results := (∅ : Table BenchmarkResult).insert localResult
        (fun other mem => absurd mem (Table.not_mem_empty other))
      metrics := [⟨6, "sample", "local_authored", false⟩] }
  attestations := [⟨8, 3, "verified", true, 0, artifactDigest, "local-model"⟩]
  verifiedProductionRuns _ := false
  thresholds := ⟨0, 0, 1, 0, 0⟩
  focusBenchmarkRunId := none

theorem statusIsEarned_iff_local : ∃ report,
    buildModelValidationReport asciiValidation localInput = .ok report ∧
      (StatusIsEarned asciiValidation report ↔
        Stopped asciiValidation localInput localDeployment localSuite report.focusRun ∨
        ¬Missed asciiValidation localInput localDeployment localSuite) := by
  have isOk : (buildModelValidationReport asciiValidation localInput).toBool = true := by
    decide +kernel
  cases built : buildModelValidationReport asciiValidation localInput with
  | error reason =>
    rw [built] at isOk
    cases isOk
  | ok report =>
    exact ⟨report, rfl, statusIsEarned_iff built rfl rfl⟩

theorem validated_without_digest : ¬ ∀ (env : ValidationEnvironment) (input : ValidationInput)
      (report : ModelValidationReport),
      buildModelValidationReport env input = .ok report → StatusIsEarned env report := by
  intro always
  have checked : (match buildModelValidationReport asciiValidation localInput with
    | .ok report => report.status = .validated && report.bundle.runs.all (fun run =>
          (runModelDigest asciiValidation run).isNone)
    | .error _ => false) = true := by
    decide +kernel
  cases built : buildModelValidationReport asciiValidation localInput with
  | error reason =>
    rw [built] at checked
    cases checked
  | ok report =>
    rw [built, Bool.and_eq_true, decide_eq_true_eq, List.all_eq_true] at checked
    have earned := (always asciiValidation localInput report built).1 checked.1
    obtain ⟨run, contributes⟩ := earned.actual
    obtain ⟨_, _, _, _, _, recorded, _⟩ := earned.identified run contributes
    have unrecorded := checked.2 run contributes.1
    rw [recorded] at unrecorded
    cases unrecorded

end ModelAtlas.Validation
