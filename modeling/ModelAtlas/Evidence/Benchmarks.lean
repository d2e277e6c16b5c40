import ModelAtlas.Foundations.Yields
import ModelAtlas.Traffic.EvidenceImport
import ModelAtlas.Trust.Registry

/-!
# Benchmark runs, results and metrics

`services/benchmarks.py`: the creation of runs, results and metrics, with the
columns that a production receipt and the trust of evidence read.  The tables
that these calls only read are a catalog, which another call may see changed.
-/

namespace ModelAtlas.Evidence

open Foundations Trust
open Traffic (BenchmarkRun BenchmarkResult InferenceMetric)

/-- A run, with the columns that a receipt reads in addition. -/
structure StoredBenchmarkRun extends BenchmarkRun where
  (hardwareProfileId modelArtifactId : Uuid)
  deploymentConfigurationId : Option Uuid
  status : String

instance : Keyed StoredBenchmarkRun Uuid where
  key run := run.id

/-- The columns of a `ProductionEvidenceReceipt` that the registry does not
read. -/
structure ReceiptCapture where
  (receiptId benchmarkRunId modelArtifactAttestationId : Uuid)
  (captureId subjectDigest : String)
  sourceEnvironment : Json
  (captureStartedAt captureEndedAt : Time)
  (resultCount metricCount : Nat)
  statement : Json
  statementJws : String
  verifiedAt : Time
  verifiedByIdentity : SignerIdentity
  receiptHash : String
  notes : Option String

instance : Keyed ReceiptCapture Uuid where
  key capture := capture.receiptId

structure EvidenceStore where
  registry : TrustRegistry
  runs : Table StoredBenchmarkRun
  results : List BenchmarkResult
  metrics : List InferenceMetric
  captures : Table ReceiptCapture

def EvidenceStore.resultsOf (store : EvidenceStore) (runId : Uuid) : List BenchmarkResult :=
  store.results.filter (fun res => res.benchmarkRunId = runId)

def addKeyed {Row : Type} [Keyed Row Uuid] (constraint : String)
    (table : Table Row) (row : Row) : Except ServiceError (Table Row) :=
  if fresh : ∀ other ∈ table.rows, key other ≠ key row then
    .ok (table.insert row fresh)
  else .error (.integrity constraint)

theorem addKeyed_yields {Row : Type} [Keyed Row Uuid] (constraint : String)
    (table : Table Row) (row : Row) :
    Yields (addKeyed constraint table row) (fun inserted =>
      row ∉ table ∧ ∀ tested, tested ∈ inserted ↔ tested ∈ table ∨ tested = row) := by
  intro inserted added
  rw [addKeyed] at added
  split at added
  · next fresh =>
      rw [← Except.ok.inj added]
      exact ⟨fun mem => fresh row mem rfl, fun tested => Table.mem_insert⟩
  · cases added

structure ModelArtifact where
  isActive : Bool

structure HardwareProfile where
  gpuVramGb : Nat

structure PromptVersion where
  benchmarkTaskId : Uuid

structure DeploymentConfiguration where
  (hardwareProfileId modelArtifactId workloadProfileId : Uuid)

structure EvaluationSuite where
  workloadProfileId : Uuid

structure SuiteCase where
  evaluationSuiteId : Uuid
  isActive : Bool

/-- `ModelArtifactAttestation`, as far as a receipt reads it. -/
structure ModelArtifactAttestation where
  (id modelArtifactId : Uuid)
  (digestValue attestationHash : String)

/-- The columns of a `ModelSupplyChainAttestation` that the registry does not
read. -/
structure ChainColumns where
  modelArtifactAttestationId : Uuid
  (attestationHash verifiedBySubjectId : String)

/-- What `db.get` returns for the rows that these calls only read. -/
structure Catalog where
  hardwareProfile? : Uuid → Option HardwareProfile
  modelArtifact? : Uuid → Option ModelArtifact
  hasBenchmarkTask : Uuid → Bool
  promptVersion? : Uuid → Option PromptVersion
  deploymentConfiguration? : Uuid → Option DeploymentConfiguration
  evaluationSuite? : Uuid → Option EvaluationSuite
  suiteCase? : Uuid → Option SuiteCase
  runtimeAttestation? : Uuid → Option ModelArtifactAttestation
  chainColumns : Uuid → ChainColumns

/-- `BenchmarkRunCreate`, with the id that the row draws. -/
structure BenchmarkRunCreate where
  (id hardwareProfileId modelArtifactId benchmarkTaskId promptVersionId : Uuid)
  (deploymentConfigurationId evaluationSuiteId : Option Uuid)
  (status dataSource : String)

def runConfiguration (catalog : Catalog) (payload : BenchmarkRunCreate) :
    Except ServiceError (Option DeploymentConfiguration) :=
  match payload.deploymentConfigurationId with
  | none => .ok none
  | some configurationId =>
    match catalog.deploymentConfiguration? configurationId with
    | none =>
      .error (.domainValidation
        ("benchmark_run deployment_configuration_id must reference an " ++
          "existing deployment configuration"))
    | some configuration =>
      if configuration.hardwareProfileId ≠ payload.hardwareProfileId then
        .error (.domainValidation
          "deployment configuration hardware does not match run")
      else if configuration.modelArtifactId ≠ payload.modelArtifactId then
        .error (.domainValidation
          "deployment configuration artifact does not match run")
      else .ok (some configuration)

def checkSuite (catalog : Catalog) (payload : BenchmarkRunCreate)
    (configuration : Option DeploymentConfiguration) :
    Except ServiceError Unit :=
  match payload.evaluationSuiteId with
  | none => .ok ()
  | some suiteId =>
    match catalog.evaluationSuite? suiteId with
    | none =>
      .error (.domainValidation
        ("benchmark_run evaluation_suite_id must reference an existing " ++
          "evaluation suite"))
    | some suite =>
      if configuration.any (fun configuration =>
          suite.workloadProfileId ≠ configuration.workloadProfileId) then
        .error (.domainValidation
          "evaluation suite workload does not match configuration")
      else .ok ()

/-- `create_benchmark_run`; its lineage event is left out. -/
def createBenchmarkRun (catalog : Catalog) (store : EvidenceStore)
    (payload : BenchmarkRunCreate) : Except ServiceError EvidenceStore := do
  if (catalog.hardwareProfile? payload.hardwareProfileId).isNone then
    throw (.domainValidation
      "benchmark_run must reference an existing hardware profile")
  match catalog.modelArtifact? payload.modelArtifactId with
  | none =>
    throw (.domainValidation
      "benchmark_run must reference an existing model artifact")
  | some artifact =>
    if !artifact.isActive then
      throw (.domainValidation
        "benchmark runs cannot reference inactive model artifacts")
    if !catalog.hasBenchmarkTask payload.benchmarkTaskId then
      throw (.domainValidation
        "benchmark_run must reference an existing benchmark task")
    match catalog.promptVersion? payload.promptVersionId with
    | none =>
      throw (.domainValidation
        "benchmark_run must reference an existing prompt version")
    | some prompt =>
      if prompt.benchmarkTaskId ≠ payload.benchmarkTaskId then
        throw (.domainValidation
          "prompt_version must belong to the benchmark task")
      let configuration ← runConfiguration catalog payload
      checkSuite catalog payload configuration
      let runs ← addKeyed "benchmark_runs" store.runs
        { id := payload.id
          dataSource := payload.dataSource
          evaluationSuiteId := payload.evaluationSuiteId
          hardwareProfileId := payload.hardwareProfileId
          modelArtifactId := payload.modelArtifactId
          deploymentConfigurationId := payload.deploymentConfigurationId
          status := payload.status }
      return { store with runs := runs }

/-- `BenchmarkResultCreate`, with the id that the row draws. -/
structure BenchmarkResultCreate where
  (id benchmarkRunId : Uuid)
  evaluationCaseId : Option Uuid
  sampleId : String
  /-- `metadata_json["agent_evidence_import"]["source_event_id"]`. -/
  (sourceEventId evidenceRevisionHash : Option String)
  dataSource : String

def checkCase (catalog : Catalog) (run : StoredBenchmarkRun)
    (payload : BenchmarkResultCreate) : Except ServiceError Unit :=
  match payload.evaluationCaseId with
  | none => .ok ()
  | some caseId =>
    match catalog.suiteCase? caseId with
    | none =>
      .error (.domainValidation
        ("benchmark_result evaluation_case_id must reference an existing " ++
          "evaluation case"))
    | some evalCase =>
      match run.evaluationSuiteId with
      | none =>
        .error (.domainValidation
          "gate-related benchmark results require a suite-linked run")
      | some suiteId =>
        if evalCase.evaluationSuiteId ≠ suiteId then
          .error (.domainValidation
            "evaluation case must belong to the run evaluation suite")
        else if !evalCase.isActive then
          .error (.domainValidation
            "gate-related benchmark results require an active case")
        else .ok ()

def createBenchmarkResult (catalog : Catalog) (store : EvidenceStore)
    (payload : BenchmarkResultCreate) : Except ServiceError EvidenceStore :=
  match store.runs.find? payload.benchmarkRunId with
  | none =>
    .error (.domainValidation
      "benchmark results cannot exist without a valid benchmark run")
  | some run =>
    match checkCase catalog run payload with
    | .error raised => .error raised
    | .ok () =>
      .ok { store with results := store.results ++ [{
           id := payload.id
           benchmarkRunId := payload.benchmarkRunId
           evaluationCaseId := payload.evaluationCaseId
           sampleId := payload.sampleId
           sourceEventId := payload.sourceEventId
           evidenceRevisionHash := payload.evidenceRevisionHash
           dataSource := payload.dataSource
           writer := none }] }

/-- `InferenceMetricCreate`, with the id that the row draws. -/
structure InferenceMetricCreate where
  (id benchmarkRunId : Uuid)
  sampleId : String
  gpuVramUsedMb : Option Rat
  dataSource : String

def validateVramWithinHardware (gpuVramUsedMb : Option Rat)
    (hardwareVramGb : Nat) : Except ServiceError Unit :=
  match gpuVramUsedMb with
  | none => .ok ()
  | some used =>
    if used > hardwareVramGb * 1024 * (11 / 10) then
      .error (.domainValidation
        "GPU VRAM usage significantly exceeds the registered hardware VRAM")
    else .ok ()

def createInferenceMetric (catalog : Catalog) (store : EvidenceStore)
    (payload : InferenceMetricCreate) : Except ServiceError EvidenceStore :=
  match store.runs.find? payload.benchmarkRunId with
  | none =>
    .error (.domainValidation
      "inference metrics cannot exist without a valid benchmark run")
  | some run =>
    match catalog.hardwareProfile? run.hardwareProfileId with
    | none =>
      .error (.domainValidation
        "benchmark_run hardware profile is missing")
    | some hardware =>
      match validateVramWithinHardware payload.gpuVramUsedMb hardware.gpuVramGb with
      | .error raised => .error raised
      | .ok () =>
        .ok { store with metrics := store.metrics ++ [{
             id := payload.id
             benchmarkRunId := payload.benchmarkRunId
             sampleId := payload.sampleId
             dataSource := payload.dataSource
             writer := none }] }

/-- `import_production_agent_evidence` in a transaction of its own. -/
def importEvidence (env : Traffic.EvidenceEnvironment) (cases : List Traffic.EvaluationCase)
    (store : EvidenceStore) (signerIdentity : SignerIdentity)
    (event : Traffic.AgentEvidenceImportCreate) (resultId metricId : Uuid) :
    Except ServiceError EvidenceStore :=
  match Traffic.importProductionAgentEvidence env
      ⟨store.runs.rows.map StoredBenchmarkRun.toBenchmarkRun, cases, store.results, store.metrics⟩
      store.results signerIdentity event none resultId metricId with
  | .error raised => .error raised
  | .ok imported =>
    .ok { store with
      results := store.results ++ [imported.result]
      metrics := store.metrics ++ [imported.metric] }

end ModelAtlas.Evidence
