import Mathlib.Data.List.Dedup
import Mathlib.Data.Rat.Floor
import ModelAtlas.Evidence.Validation.EvidenceSelection

/-!
# Model validation reports

`build_model_validation_report` of `services/model_validation.py`, with what its
status is computed of. The other figures of a report are left out. A float is
modelled by its exact value.
-/

namespace ModelAtlas.Validation

open Foundations Labels
open Approval (TextEnvironment)

/-- Text operations, the word characters of `re`, and `float()` of a text: a
number, a value that is not finite, or an error. -/
structure ValidationEnvironment where
  text : TextEnvironment
  isWordChar : Char → Bool
  readFloat : String → Option (Option Rat)

def syntheticSource : String := "synthetic_demo"

def calibrationTolerance : Rat := 1 / 10

def sortedSet (items : List String) : List String :=
  items.dedup.insertionSort (· ≤ ·)

theorem mem_sortedSet {items : List String} {item : String} :
    item ∈ sortedSet items ↔ item ∈ items := by
  rw [sortedSet, List.mem_insertionSort, List.mem_dedup]

section Runs

variable (env : ValidationEnvironment) (run : BenchmarkRun)

def adapterName : String :=
  pyOr (Json.pyStrOrEmpty env.text.render
    (run.runtimeConfig.get? "adapter_name")) "unknown"

def modelName : String :=
  let named := fun name =>
    Json.pyStrOrEmpty env.text.render (run.runtimeConfig.get? name)
  pyOr (named "model") (pyOr (named "model_name") run.artifactName)

def sha256Digest (value : Option Json) : Option String :=
  let digits := (pyDropStart "sha256:"
    (pyStrip (Json.pyStrOrEmpty env.text.render value))).toList
  if digits.length = 64 ∧ digits.all (fun char =>
      "0123456789abcdefABCDEF".toList.contains char) then
    some ("sha256:" ++ String.ofList (digits.map Char.toLower))
  else none

def runModelDigest : Option String :=
  sha256Digest env (run.runtimeConfig.get? "model_digest")

/-- `value.strip().lower()`. -/
def normalizedName (name : String) : String :=
  env.text.lower (pyStrip name)

end Runs

/-- `round(value, 4)` of a rate: the float of a half of the last place lies
above it, and is rounded up. -/
def roundRate (value : Rat) : Rat :=
  (⌊value * 10000 + 1 / 2⌋ : Rat) / 10000

def rate (numerator denominator : Nat) : Rat :=
  if denominator = 0 then 0
  else roundRate ((numerator : Rat) / denominator)

structure ModelValidationCohort where
  dataSource : String
  modelNames : List String
  actualRuntimeResultCount : Nat
  errorRate : Rat
  oomRate : Option Rat

section Cohorts

variable (env : ValidationEnvironment) (bundle : EvidenceBundle)

/-- `if result.error_type`. -/
def BenchmarkResult.hasError (res : BenchmarkResult) : Bool :=
  res.errorType.any (· ≠ "")

def EvidenceBundle.resultsOf (dataSource : String) : List BenchmarkResult :=
  bundle.results.filter (fun res => res.dataSource = dataSource)

/-- The source that `_metrics_by_source` groups a metric under: a later result
of a sample stands for an earlier one. -/
def EvidenceBundle.sourceOf (metric : InferenceMetric) : String :=
  ((bundle.results.reverse.find? (fun res => metric.Measures res)).map
    BenchmarkResult.dataSource).getD metric.dataSource

def EvidenceBundle.metricsOf (dataSource : String) : List InferenceMetric :=
  bundle.metrics.filter (fun metric => bundle.sourceOf metric = dataSource)

def isActualRuntimeResult (res : BenchmarkResult) : Bool :=
  bundle.runs.any (fun run => run.id = res.benchmarkRunId &&
    adapterName env run = "openai_compatible") &&
  res.dataSource ≠ syntheticSource

def cohort (dataSource : String) : ModelValidationCohort :=
  let results := bundle.resultsOf dataSource
  let metrics := bundle.metricsOf dataSource
  let runs := bundle.runs.filter (fun run =>
    results.any (fun res => res.benchmarkRunId = run.id))
  { dataSource := dataSource
    modelNames := sortedSet (runs.map (modelName env))
    actualRuntimeResultCount :=
      results.countP (isActualRuntimeResult env bundle)
    errorRate := rate (results.countP BenchmarkResult.hasError) results.length
    oomRate := if metrics.isEmpty then none else
      some (rate (metrics.countP InferenceMetric.oomOccurred) metrics.length) }

def sourceOrder (dataSource : String) : Nat :=
  match dataSource with
  | "synthetic_demo" => 0
  | "local_authored" => 1
  | "external_benchmark" => 2
  | "production_captured" => 3
  | _ => 4

def cohorts : List ModelValidationCohort :=
  (((bundle.results.map BenchmarkResult.dataSource).dedup).insertionSort
    (fun left right => sourceOrder left < sourceOrder right ∨
      (sourceOrder left = sourceOrder right ∧ left ≤ right))).map
    (cohort env bundle)

def observedModelNames : List String :=
  sortedSet (((cohorts env bundle).flatMap
    ModelValidationCohort.modelNames).filter (· ≠ ""))

def observedModelDigests : List String :=
  sortedSet (bundle.runs.filterMap (runModelDigest env))

end Cohorts

inductive CalibrationStatus where
  | notAvailable
  | calibrated
  | needsReview
  deriving DecidableEq, Repr

section Calibration

variable (env : ValidationEnvironment) (bundle : EvidenceBundle)

/-- `float(value)`: an error, or a value that may not be finite. -/
def readScore (value : Json) : Option (Option Rat) :=
  match value with
  | .bool flag => some (some (if flag then 1 else 0))
  | .int stored => some (some stored)
  | .float stored => some (some stored)
  | .str text => env.readFloat text
  | _ => none

def qualityDelta (res : BenchmarkResult) : Option (Option Rat) :=
  match res.qualityScore,
    (candidateJudgeLabels (bundle.caseOf res)).get? "quality_score" with
  | some score, some label =>
    (readScore env label).map (fun candidate =>
      candidate.map (fun candidate => |candidate - score|))
  | _, _ => none

def qualityDeltas : List (Option Rat) :=
  bundle.results.filterMap (qualityDelta env bundle)

/-- `sum(deltas) / len(deltas)`, where the differences are finite. -/
def meanDelta (deltas : List (Option Rat)) : Option Rat :=
  (deltas.mapM (fun delta => delta)).map (fun finite =>
    finite.sum / finite.length)

/-- The status of `_judge_calibration`. -/
def calibrationStatus : CalibrationStatus :=
  let deltas := qualityDeltas env bundle
  if deltas.isEmpty then .notAvailable
  else if (meanDelta deltas).any (· ≤ calibrationTolerance) then .calibrated
  else .needsReview

end Calibration

/-! ## Model identity -/

def decimalValue (digits fraction : List Char) : Rat :=
  let value := fun (chars : List Char) =>
    chars.foldl (fun total char => total * 10 + (char.toNat - '0'.toNat)) 0
  (value digits : Rat) + (value fraction : Rat) / 10 ^ fraction.length

section Identity

variable (env : ValidationEnvironment)

def sizeAt (chars : List Char) : Option (Rat × Nat) :=
  let digits := chars.takeWhile Char.isDigit
  let afterDigits := chars.dropWhile Char.isDigit
  let fraction :=
    match afterDigits with
    | '.' :: rest => rest.takeWhile Char.isDigit
    | _ => []
  let afterNumber :=
    if fraction.isEmpty then afterDigits
    else afterDigits.drop (fraction.length + 1)
  if digits.isEmpty then none
  else
    match afterNumber.dropWhile isPySpace with
    | 'b' :: rest =>
      if rest.head?.any env.isWordChar then none
      else some (decimalValue digits fraction, chars.length - rest.length)
    | _ => none

/-- The loop of `re.findall`: `skipped` characters belong to a match. -/
def sizesFrom : Nat → Bool → List Char → List Rat
  | _, _, [] => []
  | skipped + 1, _, char :: rest => sizesFrom skipped char.isDigit rest
  | 0, afterDigit, char :: rest =>
    match if afterDigit then none else sizeAt env (char :: rest) with
    | some (size, length) => size :: sizesFrom (length - 1) char.isDigit rest
    | none => sizesFrom 0 char.isDigit rest

def parameterSizes (value : String) : List Rat :=
  sizesFrom env 0 false (env.text.lower value).toList

def modelIdentityMatch (configuredArtifactName : String) (observed : List String) : Option Bool :=
  let configuredSizes := parameterSizes env configuredArtifactName
  let observedSizes := observed.flatMap (parameterSizes env)
  if configuredSizes.isEmpty || observedSizes.isEmpty then none
  else some (configuredSizes.all observedSizes.contains &&
    observedSizes.all configuredSizes.contains)

structure ModelArtifactAttestation where
  (id modelArtifactId : Uuid)
  status : String
  identityVerified : Bool
  attestedAt : Time
  (digestValue runtimeModelName : String)

def latestVerifiedAttestation (attestations : List ModelArtifactAttestation)
    (modelArtifactId : Uuid) : Option ModelArtifactAttestation :=
  firstInOrder (fun left right => right.attestedAt < left.attestedAt)
    (attestations.filter (fun attestation =>
      attestation.modelArtifactId = modelArtifactId &&
        attestation.status = "verified" && attestation.identityVerified))

inductive AttestationStatus where
  | missing
  | digestMismatch
  | modelMismatch
  | verified
  deriving DecidableEq, Repr

def attestedDigest (attestation : ModelArtifactAttestation) : Option String :=
  sha256Digest env (some (.str attestation.digestValue))

def artifactAttestationStatus (attestation : Option ModelArtifactAttestation)
    (configuredDigest : Option String) (names digests : List String) :
    AttestationStatus :=
  match attestation with
  | none => .missing
  | some attestation =>
    match attestedDigest env attestation with
    | none => .digestMismatch
    | some attested =>
      if configuredDigest ≠ some attested ∨ digests.any (fun digest => digest ≠ attested) then
        .digestMismatch
      else if !names.isEmpty && !((names.map (normalizedName env)).contains
            (normalizedName env attestation.runtimeModelName)) then
        .modelMismatch
      else .verified

end Identity

inductive ValidationStatus where
  | noEvidence
  | fixtureOnly
  | insufficientRealEvidence
  | needsAttention
  | needsCalibration
  | validated
  deriving DecidableEq, Repr

def validationStatus (cohorts : List ModelValidationCohort) (trust : TrustStatus)
    (calibration : CalibrationStatus) (focusAdapter : Option String) (actualRuntimeValidated : Bool)
    (configurationModelMatch : Option Bool) (attestationStatus : AttestationStatus)
    : ValidationStatus :=
  if cohorts.isEmpty then .noEvidence
  else if focusAdapter = some "mock" ∨ cohorts.all (fun cohort =>
    cohort.dataSource = syntheticSource) then .fixtureOnly
  else if !actualRuntimeValidated then .insufficientRealEvidence
  else if configurationModelMatch = some false then .needsAttention
  else if attestationStatus ≠ .verified then .needsAttention
  else if calibration = .needsReview then .needsCalibration
  else if trust = .unknown ∨ trust = .needsJudgeReview ∨
      cohorts.any (fun cohort => 0 < cohort.errorRate) ∨
      cohorts.any (fun cohort => 0 < cohort.oomRate.getD 0) then
    .needsAttention
  else .validated

structure DeploymentConfiguration where
  (id workloadProfileId modelArtifactId : Uuid)
  artifactName : String
  artifactChecksum : Option String

structure EvaluationSuite where
  (id workloadProfileId : Uuid)

structure ValidationInput where
  deployment : Option DeploymentConfiguration
  suite : Option EvaluationSuite
  evidence : EvidenceState
  attestations : List ModelArtifactAttestation
  verifiedProductionRuns : Uuid → Bool
  thresholds : EvidenceTrustThresholds
  focusBenchmarkRunId : Option Uuid

structure ModelValidationReport where
  bundle : EvidenceBundle
  attestation : Option ModelArtifactAttestation
  configuredDigest : Option String
  focusRun : Option BenchmarkRun
  configurationModelMatch : Option Bool
  attestationStatus : AttestationStatus
  calibration : CalibrationStatus
  trust : TrustStatus
  status : ValidationStatus

section Reports

variable (env : ValidationEnvironment)

def validateFocusRun (evidence : EvidenceState) (focusBenchmarkRunId : Option Uuid)
    (deploymentConfigurationId evaluationSuiteId : Uuid) :
    Except String (Option BenchmarkRun) :=
  match focusBenchmarkRunId with
  | none => .ok none
  | some runId =>
    match evidence.runs.find? runId with
    | none => .error "focus benchmark run was not found"
    | some run =>
      if run.deploymentConfigurationId ≠ some deploymentConfigurationId ∨
          run.evaluationSuiteId ≠ some evaluationSuiteId then
        .error ("focus benchmark run does not belong to the validation " ++
          "scope")
      else .ok (some run)

def reportOf (input : ValidationInput) (deployment : DeploymentConfiguration)
    (suite : EvaluationSuite) (focusRun : Option BenchmarkRun) :
    ModelValidationReport :=
  let bundle := collectEvidence input.evidence deployment.id suite.id
  let cohorts := cohorts env bundle
  let names := observedModelNames env bundle
  let attestation :=
    latestVerifiedAttestation input.attestations deployment.modelArtifactId
  let configuredDigest := sha256Digest env (deployment.artifactChecksum.map Json.str)
  let configurationModelMatch :=
    modelIdentityMatch env deployment.artifactName names
  let attestationStatus := artifactAttestationStatus env attestation
    configuredDigest names (observedModelDigests env bundle)
  let calibration := calibrationStatus env bundle
  let trust := trustStatus env.text input.thresholds input.verifiedProductionRuns bundle
  { bundle := bundle
    attestation := attestation
    configuredDigest := configuredDigest
    focusRun := focusRun
    configurationModelMatch := configurationModelMatch
    attestationStatus := attestationStatus
    calibration := calibration
    trust := trust
    status := validationStatus cohorts trust calibration (focusRun.map (adapterName env))
      (cohorts.any (fun cohort => 0 < cohort.actualRuntimeResultCount))
      configurationModelMatch attestationStatus }

def buildModelValidationReport (input : ValidationInput) : Except String ModelValidationReport :=
  match input.deployment, input.suite with
  | none, _ => .error "deployment_configuration was not found"
  | some _, none => .error "evaluation_suite was not found"
  | some deployment, some suite =>
    if suite.workloadProfileId ≠ deployment.workloadProfileId then
      .error "evaluation suite workload does not match configuration"
    else
      match validateFocusRun input.evidence input.focusBenchmarkRunId deployment.id suite.id with
      | .error reason => .error reason
      | .ok focusRun => .ok (reportOf env input deployment suite focusRun)

end Reports

end ModelAtlas.Validation
