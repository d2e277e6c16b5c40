import Mathlib.Data.List.Sort
import ModelAtlas.Approval.ControlPlane
import ModelAtlas.Foundations.UniqueRows

/-!
# The evidence trust registry

The roots, sources and syncs of `models/trust.py`, and the part of
`services/trust_registry.py` and `services/signed_evidence.py` that registers
keys, records actions on them and decides what they make trustworthy.
-/

namespace ModelAtlas.Trust

open Foundations Approval

inductive TrustPurpose where
  | modelPublisher
  | productionCollector
  | transparencyLog
  deriving DecidableEq, Repr

def TrustPurpose.text : TrustPurpose → String
  | .modelPublisher => "model_publisher"
  | .productionCollector => "production_collector"
  | .transparencyLog => "transparency_log"

inductive TrustTier where
  | development
  | internalCa
  | external
  deriving DecidableEq, Repr

def TrustTier.text : TrustTier → String
  | .development => "development"
  | .internalCa => "internal_ca"
  | .external => "external"

inductive TrustSourceType where
  | development
  | internalCa
  | externalRegistry
  | transparencyLog
  deriving DecidableEq, Repr

def TrustSourceType.text : TrustSourceType → String
  | .development => "development"
  | .internalCa => "internal_ca"
  | .externalRegistry => "external_registry"
  | .transparencyLog => "transparency_log"

inductive TrustRootActionType where
  | rotated
  | retired
  | revoked
  deriving DecidableEq, Repr

def TrustRootActionType.text : TrustRootActionType → String
  | .rotated => "rotated"
  | .retired => "retired"
  | .revoked => "revoked"

inductive TrustRootStatus where
  | revoked
  | retired
  | scheduled
  | expired
  | active
  deriving DecidableEq, Repr

inductive TrustSourceStatus where
  | disabled
  | failed
  | unsynced
  | stale
  | degraded
  | healthy
  deriving DecidableEq, Repr

inductive TrustSourceSyncMode where
  | preview
  | apply
  deriving DecidableEq, Repr

def TrustSourceSyncMode.text : TrustSourceSyncMode → String
  | .preview => "preview"
  | .apply => "apply"

inductive TrustSourceSyncStatus where
  | succeeded
  | failed
  deriving DecidableEq, Repr

def TrustSourceSyncStatus.text : TrustSourceSyncStatus → String
  | .succeeded => "succeeded"
  | .failed => "failed"

structure EvidenceTrustRoot where
  id : Uuid
  name : String
  purpose : TrustPurpose
  (issuer keyId algorithm keyFingerprint : String)
  publicKeyJwk : Json
  trustTier : TrustTier
  sourceType : TrustSourceType
  sourceUri : Option String
  validFrom : Time
  validUntil : Option Time
  (supersedesTrustRootId trustSourceId trustSourceSyncId : Option Uuid)
  registeredAt : Time
  registeredByIdentity : SignerIdentity
  identityVerified : Bool
  registrationHash : String
  notes : Option String

/-- The columns of `uq_evidence_trust_roots_purpose_issuer_key`. -/
def EvidenceTrustRoot.names (root : EvidenceTrustRoot) (purpose : TrustPurpose)
    (issuer keyId : String) : Bool :=
  root.purpose = purpose && root.issuer = issuer && root.keyId = keyId

/-- The unique constraints of `evidence_trust_roots`. -/
def sameTrustRoot (left right : EvidenceTrustRoot) : Bool :=
  left.id = right.id || left.names right.purpose right.issuer right.keyId ||
    left.registrationHash = right.registrationHash

structure EvidenceTrustRootAction where
  (id trustRootId : Uuid)
  actionType : TrustRootActionType
  reason : String
  ticketReference : Option String
  actorIdentity : SignerIdentity
  identityVerified : Bool
  occurredAt : Time
  actionHash : String
  createdAt : Time

/-- The unique constraints of `evidence_trust_root_actions`. -/
def sameTrustRootAction (left right : EvidenceTrustRootAction) : Bool :=
  left.id = right.id || (left.trustRootId = right.trustRootId &&
      left.actionType = right.actionType) ||
    left.actionHash = right.actionHash

structure EvidenceTrustSource where
  id : Uuid
  name : String
  purpose : TrustPurpose
  issuer : String
  trustTier : TrustTier
  endpointUrl : String
  allowedAlgorithms : List String
  allowInsecureHttp : Bool
  freshnessSeconds : Int
  enabled : Bool
  configurationHash : String

instance : Keyed EvidenceTrustSource Uuid where
  key source := source.id

structure ObservedKey where
  (keyId algorithm fingerprint : String)
  deriving DecidableEq, Repr

structure TrustSourceSyncContext where
  trigger : String
  (scheduleId jobId : Option Uuid)
  attemptNumber : Int
  scheduledFor : Option Time

structure EvidenceTrustSourceSync where
  (id trustSourceId : Uuid)
  mode : TrustSourceSyncMode
  status : TrustSourceSyncStatus
  context : TrustSourceSyncContext
  httpStatus : Option Int
  (fetchedAt completedAt : Time)
  payloadHash : Option String
  (keyCount candidateCount importedCount unchangedCount rejectedCount : Nat)
  observedKeys : List ObservedKey
  (errorCode errorMessage : Option String)
  actorIdentity : SignerIdentity
  identityVerified : Bool
  syncHash : String
  notes : Option String
  createdAt : Time

/-- The unique constraints of `evidence_trust_source_syncs`. -/
def sameTrustSourceSync (left right : EvidenceTrustSourceSync) : Bool :=
  left.id = right.id || left.syncHash = right.syncHash

/-- `ModelSupplyChainAttestation`, as far as the registry reads it. -/
structure ModelSupplyChainAttestation where
  id : Uuid
  publisherTrustRootId : Option Uuid
  publisherTrustTier : TrustTier
  (publisher publisherKeyId keyFingerprint : String)

instance : Keyed ModelSupplyChainAttestation Uuid where
  key attestation := attestation.id

structure ModelSupplyChainAttestationAction where
  supplyChainAttestationId : Uuid
  actionType : String

/-- `ProductionEvidenceReceipt`, as far as the registry reads it. -/
structure ProductionEvidenceReceipt where
  (id supplyChainAttestationId : Uuid)
  collectorTrustRootId : Option Uuid
  collectorTrustTier : TrustTier
  (issuer keyId keyFingerprint : String)
  (signatureVerified identityVerified : Bool)

instance : Keyed ProductionEvidenceReceipt Uuid where
  key receipt := receipt.id

/-- `SupplyChainTransparencyProof`, as far as the registry reads it. -/
structure SupplyChainTransparencyProof where
  (id supplyChainAttestationId logTrustRootId : Uuid)
  (signatureVerified identityVerified : Bool)

structure TrustRegistry where
  roots : UniqueRows EvidenceTrustRoot sameTrustRoot
  actions : UniqueRows EvidenceTrustRootAction sameTrustRootAction
  sources : Table EvidenceTrustSource
  syncs : UniqueRows EvidenceTrustSourceSync sameTrustSourceSync
  attestations : Table ModelSupplyChainAttestation
  attestationActions : List ModelSupplyChainAttestationAction
  receipts : Table ProductionEvidenceReceipt
  proofs : List SupplyChainTransparencyProof
  drawn : Uuid

/-- `db.add(row)` and `db.flush()`. -/
def addRow {Row : Type} {clash : Row → Row → Bool} (constraint : String)
    (table : UniqueRows Row clash) (row : Row) :
    Except ServiceError (UniqueRows Row clash) :=
  match table.insert? row with
  | none => .error (.integrity constraint)
  | some inserted => .ok inserted

theorem addRow_eq_ok {Row : Type} {clash : Row → Row → Bool} {constraint : String}
    {table inserted : UniqueRows Row clash} {row : Row}
    (added : addRow constraint table row = .ok inserted) (tested : Row) :
    tested ∈ inserted ↔ tested ∈ table ∨ tested = row := by
  rw [addRow] at added
  cases accepted : table.insert? row with
  | none =>
    simp [accepted] at added
  | some extended =>
    simp only [accepted, Except.ok.injEq] at added
    subst added
    exact UniqueRows.mem_of_insert? accepted

/-- What the registry takes from outside: text operations, hashes, and the JWS
library. -/
structure TrustEnvironment where
  text : TextEnvironment
  stableHash : Json → String
  uuidText : Uuid → String
  isoFormat : Time → String
  /-- `jwt.PyJWK.from_dict` accepts the key for the algorithm. -/
  isPublicKey : Json → String → Bool
  /-- `jwt.get_unverified_header`. -/
  unverifiedHeader : String → Option Json
  /-- `jwt.decode` without verification. -/
  unverifiedClaims : String → Option Json
  /-- `jwt.decode` with a key, an algorithm and the allowed issuers. -/
  verifiedClaims : String → Json → String → List String →
    Except ServiceError Json
  issuedAt : Json → Option Time

/-- The `now` of a call, and the clock behind `created_at`. -/
structure ServiceClock where
  (now created : Time)

/-! ## Status and eligibility -/

def isProductionTrustTier (tier : TrustTier) : Bool :=
  tier = .internalCa || tier = .external

namespace TrustRegistry

def root? (reg : TrustRegistry) (rootId : Uuid) : Option EvidenceTrustRoot :=
  reg.roots.rows.find? (fun root => root.id = rootId)

def registered? (reg : TrustRegistry) (purpose : TrustPurpose)
    (issuer keyId : String) : Option EvidenceTrustRoot :=
  reg.roots.rows.find? (fun root => root.names purpose issuer keyId)

def trustRootActions (reg : TrustRegistry) (rootId : Uuid) : List EvidenceTrustRootAction :=
  (reg.actions.rows.filter (fun action => action.trustRootId = rootId)).insertionSort
    (fun left right => left.occurredAt < right.occurredAt ∨
      (left.occurredAt = right.occurredAt ∧ left.createdAt ≤ right.createdAt))

def trustRootStatus (reg : TrustRegistry) (root : EvidenceTrustRoot)
    (now : Time) : TrustRootStatus :=
  let actionTypes :=
    (reg.trustRootActions root.id).map EvidenceTrustRootAction.actionType
  if actionTypes.contains .revoked then .revoked
  else if actionTypes.contains .retired || actionTypes.contains .rotated then
    .retired
  else if now < root.validFrom then .scheduled
  else if root.validUntil.any (fun limit => limit ≤ now) then .expired
  else .active

/-- The order of `_latest_source_sync`. -/
def laterSync (left right : EvidenceTrustSourceSync) : Bool :=
  right.completedAt < left.completedAt ||
    (left.completedAt = right.completedAt && right.createdAt < left.createdAt)

def latestSourceSync (reg : TrustRegistry) (sourceId : Uuid) : Option EvidenceTrustSourceSync :=
  firstInOrder laterSync (reg.syncs.rows.filter (fun sync => sync.trustSourceId = sourceId))

def latestSuccessfulSourceApply (reg : TrustRegistry) (sourceId : Uuid) :
    Option EvidenceTrustSourceSync :=
  firstInOrder laterSync (reg.syncs.rows.filter (fun sync =>
      sync.trustSourceId = sourceId && sync.mode = .apply && sync.status = .succeeded))

def trustSourceStatus (reg : TrustRegistry)
    (source : EvidenceTrustSource) (now : Time) : TrustSourceStatus :=
  if !source.enabled then .disabled
  else
    let latest := reg.latestSourceSync source.id
    match reg.latestSuccessfulSourceApply source.id with
    | none =>
      if latest.any (fun sync => sync.status = .failed) then .failed
      else .unsynced
    | some applied =>
      if applied.completedAt + source.freshnessSeconds ≤ now then .stale
      else if latest.any (fun sync =>
        sync.status = .failed && sync.id ≠ applied.id) then .degraded
      else .healthy

def trustSourceKeyIsCurrent (reg : TrustRegistry) (root : EvidenceTrustRoot) (now : Time) : Bool :=
  match root.trustSourceId with
  | none => true
  | some sourceId =>
    match reg.sources.find? sourceId with
    | none => false
    | some source =>
      let status := reg.trustSourceStatus source now
      match reg.latestSuccessfulSourceApply source.id with
      | none => false
      | some applied =>
        (status = .healthy || status = .degraded) && applied.observedKeys.any (fun observed =>
            observed.fingerprint = root.keyFingerprint)

def trustRootIsProductionEligible (reg : TrustRegistry)
    (root : Option EvidenceTrustRoot) (now : Time) : Bool :=
  match root with
  | none => false
  | some root =>
    if !isProductionTrustTier root.trustTier || reg.trustRootStatus root now ≠ .active then false
    else reg.trustSourceKeyIsCurrent root now

def attestationIsRevoked (reg : TrustRegistry) (attestationId : Uuid) :
    Bool :=
  reg.attestationActions.any (fun action =>
    action.supplyChainAttestationId = attestationId &&
      action.actionType = "revoked")

/-- The `production_eligible` of `transparency_proof_read`, which raises for a
proof whose root is missing. -/
def transparencyProofIsEligible (reg : TrustRegistry)
    (proof : SupplyChainTransparencyProof) (now : Time) :
    Except ServiceError Bool :=
  match reg.root? proof.logTrustRootId with
  | none =>
    .error (.domainValidation
      "transparency proof log trust root was not found")
  | some root =>
    .ok (proof.signatureVerified && proof.identityVerified &&
      reg.trustRootIsProductionEligible (some root) now)

def anyProofEligible (reg : TrustRegistry) (now : Time) :
    List SupplyChainTransparencyProof → Except ServiceError Bool
  | [] => .ok false
  | proof :: rest =>
    match reg.transparencyProofIsEligible proof now with
    | .error raised => .error raised
    | .ok true => .ok true
    | .ok false => reg.anyProofEligible now rest

/-- A proof of the `development` status. -/
def isDevelopmentProof (reg : TrustRegistry) (now : Time)
    (proof : SupplyChainTransparencyProof) : Bool :=
  proof.signatureVerified && proof.identityVerified &&
    (reg.root? proof.logTrustRootId).any (fun root =>
      root.trustTier = .development && reg.trustRootStatus root now = .active)

def supplyChainTransparencyStatus (reg : TrustRegistry)
    (attestation : ModelSupplyChainAttestation) (now : Time) :
    Except ServiceError String := do
  let proofs := reg.proofs.filter (fun proof =>
    proof.supplyChainAttestationId = attestation.id)
  if proofs.isEmpty then return "missing"
  if ← reg.anyProofEligible now proofs then return "verified"
  if proofs.any (reg.isDevelopmentProof now) then return "development"
  return "invalidated"

def supplyChainIsProductionEligible (reg : TrustRegistry)
    (attestation : ModelSupplyChainAttestation) (now : Time) :
    Except ServiceError Bool :=
  if reg.attestationIsRevoked attestation.id then .ok false
  else
    let publisherRoot := attestation.publisherTrustRootId.bind reg.root?
    if !reg.trustRootIsProductionEligible publisherRoot now then .ok false
    else
      match reg.supplyChainTransparencyStatus attestation now with
      | .error raised => .error raised
      | .ok status => .ok (status = "verified")

def productionReceiptIsEligible (reg : TrustRegistry)
    (receipt : ProductionEvidenceReceipt) (now : Time) :
    Except ServiceError Bool :=
  let collectorRoot := receipt.collectorTrustRootId.bind reg.root?
  if !(receipt.signatureVerified && receipt.identityVerified) then .ok false
  else if !reg.trustRootIsProductionEligible collectorRoot now then
    .ok false
  else
    match reg.attestations.find? receipt.supplyChainAttestationId with
    | none => .ok false
    | some attestation =>
      reg.supplyChainIsProductionEligible attestation now

end TrustRegistry

structure EvidenceTrustRootRead where
  trustRoot : EvidenceTrustRoot
  status : TrustRootStatus
  productionEligible : Bool
  actionCount : Nat
  latestActionType : Option TrustRootActionType
  latestActionAt : Option Time
  trustSourceStatus : Option TrustSourceStatus
  sourceKeyCurrent : Option Bool

def evidenceTrustRootRead (reg : TrustRegistry) (root : EvidenceTrustRoot)
    (now : Time) : EvidenceTrustRootRead :=
  let actions := reg.trustRootActions root.id
  let source := root.trustSourceId.bind reg.sources.find?
  { trustRoot := root
    status := reg.trustRootStatus root now
    productionEligible := reg.trustRootIsProductionEligible (some root) now
    actionCount := actions.length
    latestActionType := actions.getLast?.map EvidenceTrustRootAction.actionType
    latestActionAt := actions.getLast?.map EvidenceTrustRootAction.occurredAt
    trustSourceStatus :=
      source.map (fun source => reg.trustSourceStatus source now)
    sourceKeyCurrent :=
      source.map (fun _ => reg.trustSourceKeyIsCurrent root now) }

def trustGovernanceRoles : List String :=
  ["admin", "model governance", "ml ops lead"]

def privateJwkFields : List String :=
  ["d", "p", "q", "dp", "dq", "qi", "oth", "k"]

def optionalText (value : Option String) : Option String :=
  let normalized := pyStrip (value.getD "")
  if normalized = "" then none else some normalized

structure EvidenceTrustRootCreate where
  name : String
  purpose : TrustPurpose
  (issuer keyId algorithm : String)
  publicKeyJwk : Json
  trustTier : TrustTier
  sourceType : TrustSourceType
  sourceUri : Option String
  (validFrom validUntil : Option Time)
  supersedesTrustRootId : Option Uuid
  notes : Option String

section Registration

variable (env : TrustEnvironment)

def assertGovernanceOperator (identity : SignerIdentity) : Except ServiceError Unit :=
  let role := env.text.lower (pyStrip (identity.role.getD ""))
  if !identity.identityVerified || !(trustGovernanceRoles.contains role) then
    .error (.domainValidation
      "trust registry changes require a verified governance operator")
  else .ok ()

/-- `str(jwk.get(name) or "").strip()`. -/
def jwkText (jwk : Json) (name : String) : String :=
  pyStrip (Json.pyStrOrEmpty env.text.render (jwk.get? name))

def validatedPublicJwk (jwk : Json) (keyId algorithm : String) : Except ServiceError Json := do
  if privateJwkFields.any (fun field => (jwk.get? field).isSome) then
    throw (.domainValidation
      "trust registry accepts public JWK material only")
  if jwkText env jwk "kid" ≠ keyId then
    throw (.domainValidation "trust root JWK kid does not match key_id")
  if jwkText env jwk "alg" ≠ algorithm then
    throw (.domainValidation "trust root JWK alg does not match algorithm")
  if pyOr (Json.pyStrOrEmpty env.text.render (jwk.get? "use")) "sig" ≠
      "sig" then
    throw (.domainValidation "trust root JWK must be a signing key")
  if env.text.lower (jwkText env jwk "kty") = "oct" then
    throw (.domainValidation
      "symmetric keys cannot be registered as trust roots")
  if !env.isPublicKey jwk algorithm then
    throw (.domainValidation "trust root public JWK is invalid")
  return jwk

def validateSourcePolicy (payload : EvidenceTrustRootCreate) : Except ServiceError Unit := do
  if payload.trustTier = .development then
    if payload.sourceType ≠ .development then
      throw (.domainValidation
        "development trust tier requires development source_type")
    return
  if optionalText payload.sourceUri = none then
    throw (.domainValidation "production trust tiers require a source_uri")
  if payload.trustTier = .internalCa ∧ payload.sourceType ≠ .internalCa then
    throw (.domainValidation
      "internal_ca trust tier requires internal_ca source_type")
  if payload.trustTier = .external ∧ payload.sourceType ≠ .externalRegistry ∧
      payload.sourceType ≠ .transparencyLog then
    throw (.domainValidation
      "external trust tier requires an external registry or transparency log source")
  if payload.purpose = .transparencyLog ∧ payload.sourceType = .externalRegistry then
    throw (.domainValidation
      "transparency log keys require a log-compatible source")

def supersededRoot (reg : TrustRegistry)
    (payload : EvidenceTrustRootCreate) (existing : Option EvidenceTrustRoot)
    (now : Time) : Except ServiceError (Option EvidenceTrustRoot) :=
  match payload.supersedesTrustRootId, existing with
  | some rootId, none =>
    match reg.root? rootId with
    | none =>
      .error (.domainValidation "superseded trust root was not found")
    | some superseded => do
      if superseded.purpose ≠ payload.purpose ∨ superseded.issuer ≠ pyStrip payload.issuer then
        throw (.domainValidation
          "rotated trust root must keep the same purpose and issuer")
      if superseded.keyId = pyStrip payload.keyId then
        throw (.domainValidation
          "rotated trust root requires a new key id")
      if reg.trustRootStatus superseded now ≠ .active then
        throw (.domainValidation
          "only an active trust root can be rotated")
      return some superseded
  | _, _ => .ok none

def registrationContent (payload : EvidenceTrustRootCreate) (jwk : Json)
    (validFrom : Time) : Json :=
  .obj
    [("schema_version", .str "model-atlas-evidence-trust-root-v1"),
      ("name", .str (pyStrip payload.name)),
      ("purpose", .str payload.purpose.text),
      ("issuer", .str (pyStrip payload.issuer)),
      ("key_id", .str (pyStrip payload.keyId)),
      ("algorithm", .str payload.algorithm),
      ("public_key_jwk", jwk),
      ("trust_tier", .str payload.trustTier.text),
      ("source_type", .str payload.sourceType.text),
      ("source_uri", Json.optionText (optionalText payload.sourceUri)),
      ("valid_from", .str (env.isoFormat validFrom)),
      ("valid_until",
        Json.optionText (payload.validUntil.map env.isoFormat)),
      ("supersedes_trust_root_id",
        Json.optionText (payload.supersedesTrustRootId.map env.uuidText))]

def registeredRoot (payload : EvidenceTrustRootCreate) (jwk : Json) (validFrom : Time)
    (signerIdentity : SignerIdentity) (rootId : Uuid) (now : Time) : EvidenceTrustRoot where
  id := rootId
  name := pyStrip payload.name
  purpose := payload.purpose
  issuer := pyStrip payload.issuer
  keyId := pyStrip payload.keyId
  algorithm := payload.algorithm
  keyFingerprint := env.stableHash jwk
  publicKeyJwk := jwk
  trustTier := payload.trustTier
  sourceType := payload.sourceType
  sourceUri := optionalText payload.sourceUri
  validFrom := validFrom
  validUntil := payload.validUntil
  supersedesTrustRootId := payload.supersedesTrustRootId
  trustSourceId := none
  trustSourceSyncId := none
  registeredAt := now
  registeredByIdentity := signerIdentity
  identityVerified := true
  registrationHash :=
    env.stableHash (registrationContent env payload jwk validFrom)
  notes := optionalText payload.notes

def trustRootAction (root : EvidenceTrustRoot) (actionType : TrustRootActionType) (reason : String)
    (ticketReference : Option String) (signerIdentity : SignerIdentity)
    (actionId : Uuid) (clock : ServiceClock) : EvidenceTrustRootAction where
  id := actionId
  trustRootId := root.id
  actionType := actionType
  reason := reason
  ticketReference := ticketReference
  actorIdentity := signerIdentity
  identityVerified := true
  occurredAt := clock.now
  actionHash :=
    env.stableHash (.obj
        [("schema_version", .str "model-atlas-evidence-trust-root-v1"),
          ("trust_root_id", .str (env.uuidText root.id)),
          ("registration_hash", .str root.registrationHash),
          ("action_type", .str actionType.text),
          ("reason", .str reason),
          ("ticket_reference", Json.optionText ticketReference),
          ("actor", identityJson signerIdentity),
          ("occurred_at", .str (env.isoFormat clock.now))])
  createdAt := clock.created

end Registration

def bindPublisher (root : EvidenceTrustRoot) (attestation : ModelSupplyChainAttestation) :
    ModelSupplyChainAttestation :=
  if attestation.publisher = root.issuer ∧ attestation.publisherKeyId = root.keyId ∧
      attestation.keyFingerprint = root.keyFingerprint ∧
      attestation.publisherTrustRootId = none then
    { attestation with publisherTrustRootId := some root.id, publisherTrustTier := root.trustTier }
  else attestation

def bindCollector (root : EvidenceTrustRoot)
    (receipt : ProductionEvidenceReceipt) : ProductionEvidenceReceipt :=
  if receipt.issuer = root.issuer ∧ receipt.keyId = root.keyId ∧
      receipt.keyFingerprint = root.keyFingerprint ∧ receipt.collectorTrustRootId = none then
    { receipt with collectorTrustRootId := some root.id, collectorTrustTier := root.trustTier }
  else receipt

theorem bindPublisher_id (root : EvidenceTrustRoot) (attestation : ModelSupplyChainAttestation) :
    (bindPublisher root attestation).id = attestation.id := by
  rw [bindPublisher]
  split
  · rfl
  · rfl

theorem bindCollector_id (root : EvidenceTrustRoot) (receipt : ProductionEvidenceReceipt) :
    (bindCollector root receipt).id = receipt.id := by
  rw [bindCollector]
  split
  · rfl
  · rfl

def reconcileExistingEvidence (reg : TrustRegistry) (root : EvidenceTrustRoot) : TrustRegistry :=
  match root.purpose with
  | .modelPublisher =>
    { reg with
      attestations :=
        reg.attestations.update (bindPublisher root) (bindPublisher_id root) }
  | .productionCollector =>
    { reg with
      receipts :=
        reg.receipts.update (bindCollector root) (bindCollector_id root) }
  | .transparencyLog => reg

structure EvidenceTrustRootCreateRead where
  created : Bool
  trustRoot : EvidenceTrustRootRead

section Operations

variable (env : TrustEnvironment)

/-- Insert the root of a registration, with the `rotated` action of the root
that it supersedes. -/
def insertRegisteredRoot (reg : TrustRegistry) (root : EvidenceTrustRoot)
    (superseded : Option EvidenceTrustRoot) (signerIdentity : SignerIdentity)
    (clock : ServiceClock) : Except ServiceError TrustRegistry := do
  let roots ← addRow "evidence_trust_roots" reg.roots root
  match superseded with
  | none =>
    return { reg with roots := roots, drawn := reg.drawn + 1 }
  | some old =>
    let rotation := trustRootAction env old .rotated
      ("Superseded by trust root " ++ env.uuidText root.id)
      signerIdentity.ticketReference signerIdentity (reg.drawn + 1) clock
    let actions ← addRow "evidence_trust_root_actions" reg.actions
      rotation
    return { reg with roots := roots, actions := actions, drawn := reg.drawn + 2 }

def createEvidenceTrustRoot (reg : TrustRegistry) (payload : EvidenceTrustRootCreate)
    (signerIdentity : SignerIdentity) (clock : ServiceClock) :
    Except ServiceError (TrustRegistry × EvidenceTrustRootCreateRead) := do
  assertGovernanceOperator env signerIdentity
  let givenFrom := payload.validFrom.getD clock.now
  if payload.validUntil.any (fun limit => limit ≤ givenFrom) then
    throw (.domainValidation
      "trust root valid_until must be after valid_from")
  let jwk ← validatedPublicJwk env payload.publicKeyJwk (pyStrip payload.keyId) payload.algorithm
  validateSourcePolicy payload
  let existing := reg.registered? payload.purpose (pyStrip payload.issuer) (pyStrip payload.keyId)
  let validFrom := payload.validFrom.getD (existing.elim clock.now EvidenceTrustRoot.validFrom)
  let superseded ← supersededRoot reg payload existing clock.now
  let root := registeredRoot env payload jwk validFrom signerIdentity reg.drawn clock.now
  match existing with
  | some stored =>
    if stored.registrationHash ≠ root.registrationHash then
      throw (.domainValidation
        "trust root purpose, issuer, and key id were already registered differently")
    let next := reconcileExistingEvidence reg stored
    return (next,
      { created := false, trustRoot := evidenceTrustRootRead next stored clock.now })
  | none =>
    let inserted ← insertRegisteredRoot env reg root superseded signerIdentity clock
    let next := reconcileExistingEvidence inserted root
    return (next,
      { created := true, trustRoot := evidenceTrustRootRead next root clock.now })

/-- `EvidenceTrustRootActionCreate`: retire or revoke. -/
structure EvidenceTrustRootActionCreate where
  revoke : Bool
  reason : String
  ticketReference : Option String

def EvidenceTrustRootActionCreate.actionType
    (payload : EvidenceTrustRootActionCreate) : TrustRootActionType :=
  if payload.revoke then .revoked else .retired

def recordEvidenceTrustRootAction (reg : TrustRegistry)
    (trustRootId : Uuid) (payload : EvidenceTrustRootActionCreate)
    (signerIdentity : SignerIdentity) (clock : ServiceClock) :
    Except ServiceError (TrustRegistry × EvidenceTrustRootAction) := do
  assertGovernanceOperator env signerIdentity
  match reg.root? trustRootId with
  | none =>
    throw (.domainValidation "evidence trust root was not found")
  | some root =>
    let status := reg.trustRootStatus root clock.now
    if payload.actionType = .retired ∧ status ≠ .active then
      throw (.domainValidation "only an active trust root can be retired")
    if payload.actionType = .revoked ∧ status = .revoked then
      throw (.domainValidation "evidence trust root is already revoked")
    if payload.actionType = .revoked ∧
        root.registeredByIdentity.subjectId = signerIdentity.subjectId then
      throw (.domainValidation
        "trust root revocation requires separation from the trust root registrar")
    let action := trustRootAction env root payload.actionType (pyStrip payload.reason)
      (optionalText payload.ticketReference) signerIdentity reg.drawn clock
    let actions ← addRow "evidence_trust_root_actions" reg.actions action
    return ({ reg with actions := actions, drawn := reg.drawn + 1 }, action)

end Operations

structure UnverifiedSignedStatementIdentity where
  (issuer keyId algorithm : String)

structure VerifiedSignedStatement where
  (header claims : Json)
  keyFingerprint : String

section Verification

variable (env : TrustEnvironment)

def inspectSignedStatement (compactJws : String) :
    Except ServiceError UnverifiedSignedStatementIdentity := do
  let token := pyStrip compactJws
  if token = "" ∨ 262144 < token.length then
    throw (.domainValidation "signed evidence JWS is missing or too large")
  match env.unverifiedHeader token, env.unverifiedClaims token with
  | some header, some claims =>
    if !claims.isObject then
      throw (.domainValidation
        "signed evidence JWS payload must be an object")
    let keyId := jwkText env header "kid"
    let algorithm := jwkText env header "alg"
    let issuer := jwkText env claims "iss"
    if keyId = "" then
      throw (.domainValidation "signed evidence JWS kid is required")
    if algorithm = "" then
      throw (.domainValidation "signed evidence JWS algorithm is required")
    if issuer = "" then
      throw (.domainValidation "signed evidence JWS issuer is required")
    return { issuer := issuer, keyId := keyId, algorithm := algorithm }
  | _, _ =>
    throw (.domainValidation
      "signed evidence JWS header or payload is invalid")

def verifySignedStatementWithJwk (compactJws : String) (jwk : Json)
    (allowedIssuers allowedAlgorithms : List String) (maxAgeSeconds : Int)
    (now : Time) : Except ServiceError VerifiedSignedStatement := do
  let token := pyStrip compactJws
  let identity ← inspectSignedStatement env token
  if !(allowedAlgorithms.contains identity.algorithm) then
    throw (.domainValidation "signed evidence JWS algorithm is not allowed")
  if !(allowedIssuers.contains identity.issuer) then
    throw (.domainValidation "signed evidence JWS issuer is not trusted")
  if jwkText env jwk "kid" ≠ identity.keyId then
    throw (.domainValidation
      "signed evidence JWK kid does not match the JWS")
  let jwkAlgorithm := jwkText env jwk "alg"
  if jwkAlgorithm ≠ "" ∧ jwkAlgorithm ≠ identity.algorithm then
    throw (.domainValidation
      "signed evidence JWK algorithm does not match the JWS")
  if pyOr (Json.pyStrOrEmpty env.text.render (jwk.get? "use")) "sig" ≠
      "sig" then
    throw (.domainValidation "signed evidence JWK is not a signing key")
  let claims ← env.verifiedClaims token jwk identity.algorithm allowedIssuers
  let statementId := jwkText env claims "jti"
  if statementId = "" ∨ 200 < statementId.length then
    throw (.domainValidation "signed evidence JWS jti is invalid")
  match (claims.get? "iat").bind env.issuedAt with
  | none => throw (.domainValidation "signed evidence JWS iat is invalid")
  | some issuedAt =>
    if now - issuedAt < -60 then
      throw (.domainValidation
        "signed evidence JWS was issued in the future")
    if maxAgeSeconds < now - issuedAt then
      throw (.domainValidation
        "signed evidence JWS is older than the trust policy allows")
    return {
      header := (env.unverifiedHeader token).getD (.obj [])
      claims := claims
      keyFingerprint := env.stableHash jwk }

def verifyRegisteredSignedStatement (reg : TrustRegistry) (compactJws : String)
    (purpose : TrustPurpose) (maxAgeSeconds : Int) (now : Time) :
    Except ServiceError (Option (VerifiedSignedStatement × EvidenceTrustRoot)) := do
  let identity ← inspectSignedStatement env compactJws
  let issuerKeyRoots := reg.roots.rows.filter (fun root =>
    root.issuer = identity.issuer && root.keyId = identity.keyId)
  if issuerKeyRoots.isEmpty then return none
  match issuerKeyRoots.filter (fun root => root.purpose = purpose) with
  | [root] =>
    if root.algorithm ≠ identity.algorithm then
      throw (.domainValidation
        "registered trust root algorithm does not match the JWS")
    if reg.trustRootStatus root now ≠ .active then
      throw (.domainValidation
        "registered evidence trust root is not active")
    let statement ← verifySignedStatementWithJwk env compactJws
      root.publicKeyJwk [root.issuer] [root.algorithm] maxAgeSeconds now
    if statement.keyFingerprint ≠ root.keyFingerprint then
      throw (.domainValidation
        "registered evidence key fingerprint does not match")
    return some (statement, root)
  | _ =>
    throw (.domainValidation
      "signed evidence key is not trusted for this purpose")

end Verification

end ModelAtlas.Trust
