import ModelAtlas.Evidence.Benchmarks
import ModelAtlas.Jobs.Transactions

/-!
# Production receipts and the trust of evidence

`services/supply_chain.py`: the receipt of a production capture, revocations,
and the eligible runs; `services/evidence_trust.py`: the source tiers of
results. Score tiers, thresholds and read models are left out.
-/

namespace ModelAtlas.Evidence

open Foundations Trust
open Traffic (BenchmarkRun BenchmarkResult InferenceMetric)

/-- What the receipts take from outside in addition: the parsers of Python and
the JWKS files. -/
structure ReceiptEnvironment extends TrustEnvironment where
  parseUuid : String → Option Uuid
  parseInt : String → Option Int
  /-- `datetime.fromisoformat`: the instant, or the time without a zone. -/
  parseDatetime : String → Option (Time × Bool)
  loadJwk : String → String → String → Except ServiceError Json

/-- The settings of statements that no registered root signs. -/
structure StatementPolicy where
  jwksPath : Option String
  (allowedIssuers allowedAlgorithms : List String)
  maxAgeSeconds : Int

section Statements

variable (env : ReceiptEnvironment)

def claimText (claims : Json) (name : String) : String :=
  Json.pyStrOrEmpty env.text.render (claims.get? name)

def invalidClaim (name : String) : ServiceError :=
  .domainValidation ("production evidence " ++ name ++ " is invalid")

def uuidClaim (claims : Json) (name : String) : Except ServiceError Uuid :=
  match env.parseUuid (claimText env claims name) with
  | none => .error (invalidClaim name)
  | some id => .ok id

/-- `int(value)` of a claim that is not a `bool`. -/
def claimInt (value : Option Json) : Option Int :=
  match value with
  | some (.int number) => some number
  | some (.float number) =>
    some (if number < 0 then -(-number).floor else number.floor)
  | some (.str text) => env.parseInt text
  | _ => none

def integerClaim (claims : Json) (name : String) : Except ServiceError Nat :=
  match claimInt env (claims.get? name) with
  | none => .error (invalidClaim name)
  | some parsed =>
    if parsed < 0 then .error (invalidClaim name) else .ok parsed.toNat

def datetimeClaim (claims : Json) (name : String) : Except ServiceError Time :=
  match env.parseDatetime (pyStrip (claimText env claims name)) with
  | none => .error (invalidClaim name)
  | some (_, false) =>
    .error (.domainValidation
      ("production evidence " ++ name ++ " requires a timezone"))
  | some (instant, true) => .ok instant

def normalizedDigest (claims : Json) (name : String) : Except ServiceError String :=
  let lowered := env.text.lower (pyStrip (claimText env claims name))
  let digits := if "sha256:".toList.isPrefixOf lowered.toList then
    lowered.toList.drop 7 else lowered.toList
  if digits.length ≠ 64 ∨
      digits.any (fun digit => !"0123456789abcdef".toList.contains digit) then
    .error (.domainValidation "signed evidence subject digest is not SHA-256")
  else .ok ("sha256:" ++ String.ofList digits)

def verifySignedStatement (policy : StatementPolicy) (compactJws : String)
    (now : Time) : Except ServiceError VerifiedSignedStatement := do
  let jwksPath := policy.jwksPath.getD ""
  if jwksPath = "" ∨ policy.allowedIssuers.isEmpty ∨
      policy.allowedAlgorithms.isEmpty then
    throw (.domainValidation "signed evidence trust policy is not configured")
  let identity ← inspectSignedStatement env.toTrustEnvironment compactJws
  if !(policy.allowedAlgorithms.contains identity.algorithm) then
    throw (.domainValidation "signed evidence JWS algorithm is not allowed")
  let jwk ← env.loadJwk jwksPath identity.keyId identity.algorithm
  verifySignedStatementWithJwk env.toTrustEnvironment compactJws jwk
    policy.allowedIssuers policy.allowedAlgorithms policy.maxAgeSeconds now

def collectorStatement (policy : StatementPolicy) (reg : TrustRegistry)
    (compactJws : String) (now : Time) :
    Except ServiceError (VerifiedSignedStatement × Option EvidenceTrustRoot) := do
  match ← verifyRegisteredSignedStatement env.toTrustEnvironment reg
      compactJws .productionCollector policy.maxAgeSeconds now with
  | some (statement, root) => return (statement, some root)
  | none =>
    let statement ← verifySignedStatement env policy compactJws now
    return (statement, none)

end Statements

def assertSupplyChainOperator (lower : String → String)
    (identity : SignerIdentity) : Except ServiceError Unit :=
  let role := lower (pyStrip (identity.role.getD ""))
  if !identity.identityVerified || !Jobs.maintenanceRoles.contains role then
    .error (.domainValidation
      "supply-chain evidence requires a verified maintenance operator")
  else .ok ()

/-- The status of `model_supply_chain_attestation_read`, which reads the proofs
too. -/
def attestationIsRevokedRead (reg : TrustRegistry)
    (attestation : ModelSupplyChainAttestation) (now : Time) :
    Except ServiceError Bool :=
  match reg.supplyChainTransparencyStatus attestation now with
  | .error raised => .error raised
  | .ok _ => .ok (reg.attestationActions.any (fun action =>
    action.supplyChainAttestationId = attestation.id))

/-- The arguments of `create_production_evidence_receipt`, with the id that the
row draws. -/
structure ReceiptCall where
  receiptId : Uuid
  signedStatementJws : String
  notes : Option String
  signerIdentity : SignerIdentity
  now : Time

section Creation

variable (env : ReceiptEnvironment)

structure ReceiptSubject where
  run : StoredBenchmarkRun
  runtimeAttestation : ModelArtifactAttestation
  attestation : ModelSupplyChainAttestation

def receiptSubject (catalog : Catalog) (store : EvidenceStore) (claims : Json)
    (now : Time) : Except ServiceError ReceiptSubject := do
  let runId ← uuidClaim env claims "benchmark_run_id"
  let runtimeId ← uuidClaim env claims "model_artifact_attestation_id"
  let chainId ← uuidClaim env claims "supply_chain_attestation_id"
  match store.runs.find? runId, catalog.runtimeAttestation? runtimeId,
      store.registry.attestations.find? chainId with
  | none, _, _ =>
    throw (.domainValidation
      "production evidence benchmark run was not found")
  | some run, some runtimeAttestation, some attestation =>
    if (catalog.chainColumns chainId).modelArtifactAttestationId ≠ runtimeAttestation.id then
      throw (.domainValidation
        "production evidence attestation chain does not match")
    if ← attestationIsRevokedRead store.registry attestation now then
      throw (.domainValidation
        "production evidence supply-chain attestation is revoked")
    return ⟨run, runtimeAttestation, attestation⟩
  | some _, _, _ =>
    throw (.domainValidation
      "production evidence attestation chain was not found")

def checkSubject (catalog : Catalog) (claims : Json)
    (subject : ReceiptSubject) : Except ServiceError String := do
  if subject.run.status ≠ "completed" ∨
      subject.run.dataSource ≠ Traffic.productionCapturedSource then
    throw (.domainValidation
      ("production evidence requires a completed production_captured " ++
        "benchmark run"))
  if subject.run.modelArtifactId ≠ subject.runtimeAttestation.modelArtifactId then
    throw (.domainValidation
      "production evidence model artifact does not match the run")
  if claimText env claims "deployment_configuration_id" ≠
      (subject.run.deploymentConfigurationId.map env.uuidText).getD ""
      then
    throw (.domainValidation
      "production evidence deployment configuration does not match")
  let digest ← normalizedDigest env claims "subject_digest"
  if digest ≠ subject.runtimeAttestation.digestValue then
    throw (.domainValidation
      "production evidence artifact digest does not match")
  if !Json.isText (claims.get? "artifact_attestation_hash")
      subject.runtimeAttestation.attestationHash then
    throw (.domainValidation
      "production evidence runtime attestation hash does not match")
  if !Json.isText (claims.get? "supply_chain_attestation_hash")
      (catalog.chainColumns subject.attestation.id).attestationHash then
    throw (.domainValidation
      "production evidence supply-chain hash does not match")
  return digest

def checkCounts (store : EvidenceStore) (claims : Json) (runId : Uuid) :
    Except ServiceError (Nat × Nat) := do
  let resultCount := (store.resultsOf runId).length
  let metricCount := (store.metrics.filter (fun metric =>
    metric.benchmarkRunId = runId)).length
  if (store.resultsOf runId).any (fun res =>
      res.dataSource ≠ Traffic.productionCapturedSource) then
    throw (.domainValidation
      "production evidence run contains results without production provenance")
  if (← integerClaim env claims "result_count") ≠ resultCount then
    throw (.domainValidation
      "production evidence result_count does not match")
  if (← integerClaim env claims "metric_count") ≠ metricCount then
    throw (.domainValidation
      "production evidence metric_count does not match")
  return (resultCount, metricCount)

def checkCapture (claims : Json) (now : Time) : Except ServiceError (Time × Time × Json) := do
  let startedAt ← datetimeClaim env claims "capture_started_at"
  let endedAt ← datetimeClaim env claims "capture_ended_at"
  if endedAt < startedAt then
    throw (.domainValidation "production evidence capture window is invalid")
  if now + 300 < endedAt then
    throw (.domainValidation
      "production evidence capture window ends in the future")
  let source := (claims.get? "source_environment").getD .null
  if !source.isObject ∨
      pyStrip (claimText env source "name") = "" then
    throw (.domainValidation
      "production evidence source_environment is invalid")
  return (startedAt, endedAt, source)

def receiptHash (statement : VerifiedSignedStatement) (compactJws : String) :
    String :=
  env.stableHash (.obj
    [("schema_version", .str "model-atlas-production-capture-v1"),
      ("statement", statement.claims), ("statement_header", statement.header),
      ("statement_jws_hash",
        .str (env.stableHash (.str (pyStrip compactJws)))),
      ("key_fingerprint", .str statement.keyFingerprint)])

def receiptRow (statement : VerifiedSignedStatement) (root : Option EvidenceTrustRoot)
    (subject : ReceiptSubject) (receiptId : Uuid) : ProductionEvidenceReceipt where
  id := receiptId
  supplyChainAttestationId := subject.attestation.id
  collectorTrustRootId := root.map EvidenceTrustRoot.id
  collectorTrustTier := (root.map EvidenceTrustRoot.trustTier).getD .development
  issuer := jwkText env.toTrustEnvironment statement.claims "iss"
  keyId := jwkText env.toTrustEnvironment statement.header "kid"
  keyFingerprint := statement.keyFingerprint
  signatureVerified := true
  identityVerified := true

/-- `create_production_evidence_receipt`, and whether a receipt is created. -/
def createProductionEvidenceReceipt (policy : StatementPolicy)
    (catalog : Catalog) (store : EvidenceStore) (call : ReceiptCall) :
    Except ServiceError (EvidenceStore × Bool) := do
  assertSupplyChainOperator env.text.lower call.signerIdentity
  let (statement, root) ← collectorStatement env policy store.registry
    call.signedStatementJws call.now
  let claims := statement.claims
  if !Json.isText (claims.get? "schema_version")
      "model-atlas-production-capture-v1" then
    throw (.domainValidation
      "production evidence schema_version is not supported")
  let subject ← receiptSubject env catalog store claims call.now
  let digest ← checkSubject env catalog claims subject
  let (resultCount, metricCount) ← checkCounts env store claims subject.run.id
  let (startedAt, endedAt, source) ← checkCapture env claims call.now
  let hash := receiptHash env statement call.signedStatementJws
  let captureId := jwkText env.toTrustEnvironment claims "jti"
  match store.captures.rows.find? (fun capture =>
    capture.captureId = captureId) with
  | some existing =>
    if existing.receiptHash ≠ hash then
      throw (.domainValidation
        ("production evidence capture id was already used with different " ++
          "content"))
    return (store, false)
  | none =>
    let receipts ← addKeyed "production_evidence_receipts"
      store.registry.receipts
      (receiptRow env statement root subject call.receiptId)
    let captures ← addKeyed "production_evidence_receipts" store.captures
      { receiptId := call.receiptId
        benchmarkRunId := subject.run.id
        modelArtifactAttestationId := subject.runtimeAttestation.id
        captureId := captureId
        subjectDigest := digest
        sourceEnvironment := source
        captureStartedAt := startedAt
        captureEndedAt := endedAt
        resultCount := resultCount
        metricCount := metricCount
        statement := claims
        statementJws := pyStrip call.signedStatementJws
        verifiedAt := call.now
        verifiedByIdentity := call.signerIdentity
        receiptHash := hash
        notes := optionalText call.notes }
    return ({ store with
      registry := { store.registry with receipts := receipts }
      captures := captures }, true)

/-- The arguments of `revoke_model_supply_chain_attestation`. -/
structure RevocationCall where
  attestationId : Uuid
  signerIdentity : SignerIdentity
  now : Time

def revokeModelSupplyChainAttestation (catalog : Catalog)
    (store : EvidenceStore) (call : RevocationCall) :
    Except ServiceError EvidenceStore := do
  assertSupplyChainOperator env.text.lower call.signerIdentity
  match store.registry.attestations.find? call.attestationId with
  | none =>
    throw (.domainValidation
      "model supply-chain attestation was not found")
  | some attestation =>
    if ← attestationIsRevokedRead store.registry attestation call.now then
      throw (.domainValidation
        "model supply-chain attestation is already revoked")
    let verifier :=
      (catalog.chainColumns call.attestationId).verifiedBySubjectId
    if verifier ≠ "" ∧ verifier = call.signerIdentity.subjectId then
      throw (.domainValidation
        ("supply-chain revocation requires separation from the attestation " ++
          "verifier"))
    return { store with registry := { store.registry with
      attestationActions := store.registry.attestationActions ++
        [⟨call.attestationId, "revoked"⟩] } }

end Creation

def receiptsOfRuns (store : EvidenceStore) (runIds : List Uuid) :
    List (ProductionEvidenceReceipt × Uuid) :=
  store.captures.rows.filterMap (fun capture =>
    if runIds.contains capture.benchmarkRunId then
      ((store.registry.receipts.find? capture.receiptId).filter (fun receipt =>
        receipt.signatureVerified && receipt.identityVerified)).map
          (fun receipt => (receipt, capture.benchmarkRunId))
    else none)

/-- The comprehension of `verified_production_run_ids`. -/
def eligibleRuns (reg : TrustRegistry) (now : Time) :
    List (ProductionEvidenceReceipt × Uuid) → Except ServiceError (List Uuid)
  | [] => .ok []
  | (receipt, runId) :: rest =>
    if reg.attestationIsRevoked receipt.supplyChainAttestationId then
      eligibleRuns reg now rest
    else
      match reg.productionReceiptIsEligible receipt now with
      | .error raised => .error raised
      | .ok eligible =>
        match eligibleRuns reg now rest with
        | .error raised => .error raised
        | .ok others => .ok (if eligible then runId :: others else others)

def verifiedProductionRunIds (store : EvidenceStore) (runIds : List Uuid)
    (now : Time) : Except ServiceError (List Uuid) :=
  eligibleRuns store.registry now (receiptsOfRuns store runIds)

inductive EvidenceSourceTrustTier where
  | syntheticDemo
  | localAuthored
  | productionCaptured
  | productionCapturedUnverified
  | externalBenchmark
  | unknown
  deriving DecidableEq, Repr

def normalizeSourceTier (lower : String → String) (value : String) :
    EvidenceSourceTrustTier :=
  let normalized := lower (pyStrip value)
  if ["captured_local", "local_actual_runtime", "local_authored"].contains
      normalized then .localAuthored
  else if normalized = "synthetic_demo" then .syntheticDemo
  else if normalized = Traffic.productionCapturedSource then .productionCaptured
  else if normalized = "production_captured_unverified" then
    .productionCapturedUnverified
  else if normalized = "external_benchmark" then .externalBenchmark
  else .unknown

/-- The tier that `summarize_evidence_trust` counts a result in. -/
def sourceTier (lower : String → String) (verifiedRunIds : List Uuid)
    (res : BenchmarkResult) : EvidenceSourceTrustTier :=
  let tier := normalizeSourceTier lower res.dataSource
  if tier = .productionCaptured ∧ ¬ verifiedRunIds.contains res.benchmarkRunId then
    .productionCapturedUnverified
  else tier

/-- The results that `summarize_gate_evidence_trust` selects for the runs of a
gate, each with the tier it is counted in. -/
def gateSourceTiers (lower : String → String) (store : EvidenceStore)
    (runIds : List Uuid) (now : Time) :
    Except ServiceError (List (BenchmarkResult × EvidenceSourceTrustTier)) :=
  match verifiedProductionRunIds store runIds now with
  | .error raised => .error raised
  | .ok verified =>
    .ok ((store.results.filter (fun res =>
        runIds.contains res.benchmarkRunId)).map
      (fun res => (res, sourceTier lower verified res)))

def productionCapturedCount (tiers : List (BenchmarkResult × EvidenceSourceTrustTier)) : Nat :=
  (tiers.filter (fun item => item.2 = .productionCaptured)).length

end ModelAtlas.Evidence
