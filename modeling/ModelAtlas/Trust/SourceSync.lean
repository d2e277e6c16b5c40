import ModelAtlas.Trust.Registry

/-!
# Syncs of trust sources

`sync_evidence_trust_source` of `services/trust_source_sync.py`: the keys of a
remote JWKS are validated, compared with the registered roots, and in mode
`apply` the new ones are registered.  A failed sync is recorded as a row.
-/

namespace ModelAtlas.Trust

open Foundations Approval

structure FetchedJwksPayload where
  payload : Json
  httpStatus : Int
  fetchedAt : Time

structure TrustSourceFetchError where
  (code message : String)
  httpStatus : Option Int

structure ValidatedRemoteKey where
  (keyId algorithm fingerprint : String)
  publicJwk : Json

/-- What `urlsplit` makes of a URL. -/
structure SplitUrl where
  scheme : String
  hostname : Option String
  hasCredentials : Bool
  (query fragment : String)

/-- What the syncs take from outside in addition: `urlsplit`. -/
structure SourceEnvironment extends TrustEnvironment where
  splitUrl : String → SplitUrl

/-- The arguments of `sync_evidence_trust_source`, with the answer of the
fetcher. -/
structure SourceSyncCall where
  trustSourceId : Uuid
  mode : TrustSourceSyncMode
  notes : Option String
  signerIdentity : SignerIdentity
  allowedHosts : List String
  allowInsecureHttp : Bool
  fetched : Except TrustSourceFetchError FetchedJwksPayload
  context : TrustSourceSyncContext
  clock : ServiceClock

section Sync

variable (env : SourceEnvironment)

def hostMatches (host rawValue : String) : Bool :=
  let value := env.text.lower (pyStrip rawValue)
  if value = "" then false
  else
    (pyDropStart "*." value ≠ value &&
        (pyDropStart "*" value).toList.isSuffixOf host.toList &&
        host ≠ pyDropStart "*." value) ||
      host = value

def validateTrustSourceUrl (source : EvidenceTrustSource)
    (call : SourceSyncCall) : Except ServiceError Unit := do
  let parsed := env.splitUrl source.endpointUrl
  let scheme := env.text.lower parsed.scheme
  let host := env.text.lower (parsed.hostname.getD "")
  if parsed.hasCredentials then
    throw (.domainValidation "trust source URLs cannot contain credentials")
  if parsed.query ≠ "" ∨ parsed.fragment ≠ "" then
    throw (.domainValidation
      "trust source URLs cannot contain query strings or fragments")
  if host = "" ∨ !call.allowedHosts.any (hostMatches env host) then
    throw (.domainValidation
      "trust source host is not in TRUST_SOURCE_ALLOWED_HOSTS")
  if scheme = "https" then return
  if scheme = "http" ∧ source.trustTier = .development ∧
      source.allowInsecureHttp ∧ call.allowInsecureHttp then return
  throw (.domainValidation "trust sources require HTTPS")

def validateSyncContext (ctx : TrustSourceSyncContext)
    (signerIdentity : SignerIdentity) : Except ServiceError Unit := do
  if ctx.trigger ≠ "manual" ∧ ctx.trigger ≠ "scheduled" then
    throw (.domainValidation "trust source sync trigger is invalid")
  if ctx.attemptNumber < 1 then
    throw (.domainValidation
      "trust source sync attempt_number must be positive")
  if ctx.trigger = "scheduled" ∧
      (ctx.scheduleId = none ∨ ctx.jobId = none) then
    throw (.domainValidation
      "scheduled trust source sync requires schedule and job lineage")
  if ctx.trigger = "scheduled" then
    let role :=
      env.text.lower (pyStrip (signerIdentity.role.getD ""))
    if !signerIdentity.identityVerified || role ≠ "system worker" then
      throw (.domainValidation
        "scheduled trust source sync requires a verified System Worker")
  else assertGovernanceOperator env.toTrustEnvironment signerIdentity

/-! ## The fetched keys -/

/-- One round of the loop of `_validated_remote_keys`. -/
def validatedRemoteKey (source : EvidenceTrustSource) (seenKeyIds : List String) (value : Json) :
    Except ServiceError ValidatedRemoteKey := do
  if !value.isObject then
    throw (.domainValidation "trust source JWKS keys must be JSON objects")
  let keyId := jwkText env.toTrustEnvironment value "kid"
  let algorithm := jwkText env.toTrustEnvironment value "alg"
  if keyId = "" ∨ 200 < keyId.length then
    throw (.domainValidation "trust source JWK kid is invalid")
  if seenKeyIds.contains keyId then
    throw (.domainValidation "trust source JWKS contains duplicate key ids")
  if !(source.allowedAlgorithms.contains algorithm) then
    throw (.domainValidation
      "trust source JWK algorithm is not allowed by the source policy")
  let jwk ← validatedPublicJwk env.toTrustEnvironment value keyId algorithm
  return {
    keyId := keyId
    algorithm := algorithm
    fingerprint := env.stableHash jwk
    publicJwk := jwk }

def validatedRemoteKeyList (source : EvidenceTrustSource) :
    List String → List Json → Except ServiceError (List ValidatedRemoteKey)
  | _, [] => .ok []
  | seenKeyIds, value :: rest => do
    let remoteKey ← validatedRemoteKey env source seenKeyIds value
    let remaining ← validatedRemoteKeyList source (remoteKey.keyId :: seenKeyIds) rest
    return remoteKey :: remaining

def validatedRemoteKeys (source : EvidenceTrustSource) (payload : Json) :
    Except ServiceError (List ValidatedRemoteKey) := do
  let values := payload.items "keys"
  if values.isEmpty then
    throw (.domainValidation
      "trust source JWKS must contain a non-empty keys list")
  if 100 < values.length then
    throw (.domainValidation "trust source JWKS contains too many keys")
  let keys ← validatedRemoteKeyList env source [] values
  return keys.insertionSort (fun left right => left.keyId ≤ right.keyId)

/-- `_classify_remote_keys`: the candidates and the unchanged keys. -/
def classifyRemoteKeys (reg : TrustRegistry) (source : EvidenceTrustSource) :
    List ValidatedRemoteKey →
      Except ServiceError (List ValidatedRemoteKey × List ValidatedRemoteKey)
  | [] => .ok ([], [])
  | remoteKey :: rest =>
    match reg.registered? source.purpose source.issuer remoteKey.keyId with
    | none => do
      let (candidates, unchanged) ← classifyRemoteKeys reg source rest
      return (remoteKey :: candidates, unchanged)
    | some existing =>
      if existing.keyFingerprint ≠ remoteKey.fingerprint then
        .error (.domainValidation
          ("trust source key " ++ remoteKey.keyId ++
            " collides with a different fingerprint"))
      else do
        let (candidates, unchanged) ← classifyRemoteKeys reg source rest
        return (candidates, remoteKey :: unchanged)

structure SyncObservation where
  fetchedAt : Time
  httpStatus : Option Int
  payloadHash : Option String
  observedKeys : List ObservedKey

structure SyncFailure where
  observation : SyncObservation
  (errorCode errorMessage : String)

structure SyncKeys where
  observation : SyncObservation
  (candidates unchanged : List ValidatedRemoteKey)

def ValidatedRemoteKey.observed (remoteKey : ValidatedRemoteKey) : ObservedKey where
  keyId := remoteKey.keyId
  algorithm := remoteKey.algorithm
  fingerprint := remoteKey.fingerprint

/-- The `error_code` of a `DomainValidationError`. -/
def syncErrorCode (message : String) : String :=
  if pyContains message "different fingerprint" then "key_collision"
  else "invalid_jwks"

/-- The `try` block around the fetch. -/
def syncKeys (reg : TrustRegistry) (source : EvidenceTrustSource)
    (call : SourceSyncCall) : Except ServiceError (Except SyncFailure SyncKeys) :=
  match call.fetched with
  | .error failure =>
    .ok (.error
      { observation :=
          { fetchedAt := call.clock.now
            httpStatus := failure.httpStatus
            payloadHash := none
            observedKeys := [] }
        errorCode := failure.code
        errorMessage := failure.message })
  | .ok fetched =>
    let observation : SyncObservation :=
      { fetchedAt := fetched.fetchedAt
        httpStatus := some fetched.httpStatus
        payloadHash := some (env.stableHash fetched.payload)
        observedKeys := [] }
    match validatedRemoteKeys env source fetched.payload with
    | .error (.domainValidation message) =>
      .ok (.error ⟨observation, syncErrorCode message, message⟩)
    | .error raised => .error raised
    | .ok keys =>
      let observation :=
        { observation with observedKeys := keys.map ValidatedRemoteKey.observed }
      match classifyRemoteKeys reg source keys with
      | .error (.domainValidation message) =>
        .ok (.error ⟨observation, syncErrorCode message, message⟩)
      | .error raised => .error raised
      | .ok (candidates, unchanged) =>
        .ok (.ok ⟨observation, candidates, unchanged⟩)

def syncHash (syncId : Uuid) (source : EvidenceTrustSource) (call : SourceSyncCall)
    (status : TrustSourceSyncStatus) (payloadHash : Option String) : String :=
  env.stableHash (.obj
      [("schema_version", .str "model-atlas-evidence-trust-source-sync-v2"),
        ("sync_id", .str (env.uuidText syncId)),
        ("trust_source_id", .str (env.uuidText source.id)),
        ("configuration_hash", .str source.configurationHash),
        ("mode", .str call.mode.text),
        ("status", .str status.text),
        ("observed_at", .str (env.isoFormat call.clock.now)),
        ("payload_hash", Json.optionText payloadHash),
        ("trigger", .str call.context.trigger),
        ("schedule_id",
          Json.optionText (call.context.scheduleId.map env.uuidText)),
        ("job_id",
          Json.optionText (call.context.jobId.map env.uuidText)),
        ("attempt_number", .int call.context.attemptNumber),
        ("scheduled_for",
          Json.optionText (call.context.scheduledFor.map env.isoFormat)),
        ("actor", identityJson call.signerIdentity)])

def failedSync (syncId : Uuid) (source : EvidenceTrustSource)
    (call : SourceSyncCall) (failure : SyncFailure) :
    EvidenceTrustSourceSync where
  id := syncId
  trustSourceId := source.id
  mode := call.mode
  status := .failed
  context := call.context
  httpStatus := failure.observation.httpStatus
  fetchedAt := failure.observation.fetchedAt
  completedAt := call.clock.now
  payloadHash := failure.observation.payloadHash
  keyCount := failure.observation.observedKeys.length
  candidateCount := 0
  importedCount := 0
  unchangedCount := 0
  rejectedCount :=
    if failure.observation.payloadHash.getD "" = "" then 0
    else max 1 failure.observation.observedKeys.length
  observedKeys := failure.observation.observedKeys
  errorCode := some failure.errorCode
  errorMessage := some (pyClip 4000 failure.errorMessage)
  actorIdentity := call.signerIdentity
  identityVerified := true
  syncHash :=
    syncHash env syncId source call .failed failure.observation.payloadHash
  notes := optionalText call.notes
  createdAt := call.clock.created

def succeededSync (syncId : Uuid) (source : EvidenceTrustSource)
    (call : SourceSyncCall) (keys : SyncKeys) : EvidenceTrustSourceSync where
  id := syncId
  trustSourceId := source.id
  mode := call.mode
  status := .succeeded
  context := call.context
  httpStatus := keys.observation.httpStatus
  fetchedAt := keys.observation.fetchedAt
  completedAt := call.clock.now
  payloadHash := keys.observation.payloadHash
  keyCount := keys.observation.observedKeys.length
  candidateCount := keys.candidates.length
  importedCount := if call.mode = .apply then keys.candidates.length else 0
  unchangedCount := keys.unchanged.length
  rejectedCount := 0
  observedKeys := keys.observation.observedKeys
  errorCode := none
  errorMessage := none
  actorIdentity := call.signerIdentity
  identityVerified := true
  syncHash :=
    syncHash env syncId source call .succeeded keys.observation.payloadHash
  notes := optionalText call.notes
  createdAt := call.clock.created

def recordFailedSync (reg : TrustRegistry) (source : EvidenceTrustSource)
    (call : SourceSyncCall) (failure : SyncFailure) :
    Except ServiceError (TrustRegistry × EvidenceTrustSourceSync) := do
  let sync := failedSync env reg.drawn source call failure
  let syncs ← addRow "evidence_trust_source_syncs" reg.syncs sync
  return ({ reg with syncs := syncs, drawn := reg.drawn + 1 }, sync)

def importedSourceType (source : EvidenceTrustSource) : TrustSourceType :=
  match source.trustTier with
  | .development => .development
  | .internalCa => .internalCa
  | .external =>
    if source.purpose = .transparencyLog then .transparencyLog
    else .externalRegistry

def importRemoteKey (source : EvidenceTrustSource)
    (sync : EvidenceTrustSourceSync) (signerIdentity : SignerIdentity)
    (now : Time) (rootId : Uuid) (remoteKey : ValidatedRemoteKey) :
    EvidenceTrustRoot :=
  let name := pyClip 180 (source.name ++ " / " ++ remoteKey.keyId)
  let registrationHash :=
    env.stableHash (.obj
        [("schema_version", .str "model-atlas-evidence-trust-source-sync-v2"),
          ("trust_source_id", .str (env.uuidText source.id)),
          ("trust_source_sync_id", .str (env.uuidText sync.id)),
          ("name", .str name),
          ("purpose", .str source.purpose.text),
          ("issuer", .str source.issuer),
          ("key_id", .str remoteKey.keyId),
          ("algorithm", .str remoteKey.algorithm),
          ("public_key_jwk", remoteKey.publicJwk),
          ("trust_tier", .str source.trustTier.text),
          ("source_type", .str (importedSourceType source).text),
          ("source_uri", .str source.endpointUrl),
          ("valid_from", .str (env.isoFormat now))])
  { id := rootId
    name := name
    purpose := source.purpose
    issuer := source.issuer
    keyId := remoteKey.keyId
    algorithm := remoteKey.algorithm
    keyFingerprint := remoteKey.fingerprint
    publicKeyJwk := remoteKey.publicJwk
    trustTier := source.trustTier
    sourceType := importedSourceType source
    sourceUri := some source.endpointUrl
    validFrom := now
    validUntil := none
    supersedesTrustRootId := none
    trustSourceId := some source.id
    trustSourceSyncId := some sync.id
    registeredAt := now
    registeredByIdentity := signerIdentity
    identityVerified := true
    registrationHash := registrationHash
    notes := some
      ("Imported from trust source " ++ env.uuidText source.id) }

def importRemoteKeys (source : EvidenceTrustSource)
    (sync : EvidenceTrustSourceSync) (signerIdentity : SignerIdentity)
    (now : Time) : List ValidatedRemoteKey → TrustRegistry → Except ServiceError TrustRegistry
  | [], reg => .ok reg
  | remoteKey :: rest, reg => do
    let root := importRemoteKey env source sync signerIdentity now reg.drawn remoteKey
    let roots ← addRow "evidence_trust_roots" reg.roots root
    importRemoteKeys source sync signerIdentity now rest (reconcileExistingEvidence
        { reg with roots := roots, drawn := reg.drawn + 1 } root)

def applySync (reg : TrustRegistry) (source : EvidenceTrustSource)
    (call : SourceSyncCall) (keys : SyncKeys) :
    Except ServiceError (TrustRegistry × EvidenceTrustSourceSync) := do
  let sync := succeededSync env reg.drawn source call keys
  let syncs ← addRow "evidence_trust_source_syncs" reg.syncs sync
  let recorded :=
    { reg with syncs := syncs, drawn := reg.drawn + 1 }
  match call.mode with
  | .preview => return (recorded, sync)
  | .apply =>
    let imported ← importRemoteKeys env source sync
      call.signerIdentity call.clock.now keys.candidates recorded
    return (imported, sync)

def conflictFailure (keys : SyncKeys) : SyncFailure where
  observation := keys.observation
  errorCode := "database_conflict"
  errorMessage :=
    "trust source apply conflicted with an existing registry record"

def syncEvidenceTrustSource (reg : TrustRegistry) (call : SourceSyncCall) :
    Except ServiceError (TrustRegistry × EvidenceTrustSourceSync) := do
  validateSyncContext env call.context call.signerIdentity
  match reg.sources.find? call.trustSourceId with
  | none => throw (.domainValidation "evidence trust source was not found")
  | some source =>
    if !source.enabled then
      throw (.domainValidation
        "disabled trust sources cannot be synchronized")
    validateTrustSourceUrl env source call
    match ← syncKeys env reg source call with
    | .error failure => recordFailedSync env reg source call failure
    | .ok keys =>
      match applySync env reg source call keys with
      | .error (.integrity _) =>
        recordFailedSync env reg source call (conflictFailure keys)
      | answer => answer

end Sync

end ModelAtlas.Trust
