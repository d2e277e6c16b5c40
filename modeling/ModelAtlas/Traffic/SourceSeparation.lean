import ModelAtlas.Traffic.SourceStatus
import ModelAtlas.Foundations.Outcomes

/-!
# Separation of traffic sources

A batch is accepted under a key that is looked up by its source and key id
joined with a colon, or by its source alone; the status report takes the
configured names apart at their first colon.
-/

namespace ModelAtlas.Traffic

open Foundations Jobs

/-- The settings that the route passes to `queue_signed_traffic_batch`. -/
structure TrafficDeployment where
  hmacKeys : TrafficKeyMap
  allowLegacySignatures : Bool
  maxClockSkewSeconds : Int

/-- The pattern of `source_trace_hash`. -/
def isTraceHash (text : String) : Bool :=
  text.toList.length = 64 &&
    text.toList.all (fun char => "0123456789abcdefABCDEF".toList.contains char)

def lengthWithin (text : String) (minimum maximum : Nat) : Bool :=
  minimum ≤ text.length && text.length ≤ maximum

def AgentEvidenceImportCreate.meetsSchema (event : AgentEvidenceImportCreate) :
    Bool :=
  lengthWithin event.sampleId 1 120 && 1 ≤ event.rawOutput.length &&
    1 ≤ event.normalizedOutput.length &&
    lengthWithin event.provenance.sourceSystem 1 160 &&
    lengthWithin event.provenance.sourceEventId 1 200 &&
    lengthWithin event.provenance.collectorVersion 1 120 &&
    isTraceHash event.provenance.sourceTraceHash

def AgentTrafficEvidenceBatchCreate.meetsSchema
    (payload : AgentTrafficEvidenceBatchCreate) : Bool :=
  lengthWithin payload.sourceSystem 1 160 && lengthWithin payload.batchId 1 200 &&
    lengthWithin payload.collectorVersion 1 120 &&
    1 ≤ payload.events.length && payload.events.length ≤ 100 &&
    payload.events.all AgentEvidenceImportCreate.meetsSchema

/-- A call of the route: the settings of the deployment and a batch of the
schema. -/
structure TrafficDeployment.Receives (deployment : TrafficDeployment)
    (call : SignedTrafficCall) : Prop where
  hmacKeys : call.hmacKeys = deployment.hmacKeys.get
  legacy : call.allowLegacySignatures = deployment.allowLegacySignatures
  clockSkew : call.maxClockSkewSeconds = deployment.maxClockSkewSeconds
  schema : call.payload.meetsSchema = true

/-- The call passes every check before its first commit and finds no receipt:
its batch is queued as a new one. -/
structure AcceptedAsNew (env : SigningEnvironment)
    (receipts : ReceiptTable) (call : SignedTrafficCall)
    (verified : VerifiedTrafficBatch) : Prop where
  verification : verifySignedBatch env call = .ok verified
  unmatched : matchingReceipt receipts verified = none
  inTime : outsideClockSkew verified = false

def signedMessage (env : SigningEnvironment) (verified : VerifiedTrafficBatch) : String :=
  if verified.signatureVersion = agentTrafficSignatureV2 then
    env.canonicalEnvelope verified.keyId verified.nonce verified.sentAt verified.payload
  else env.canonicalBatch verified.payload

structure Verification (env : SigningEnvironment)
    (call : SignedTrafficCall) (verified : VerifiedTrafficBatch)
    (secret : String) : Prop where
  payload : verified.payload = call.payload
  version : verified.signatureVersion = agentTrafficSignatureV1 ∨
    verified.signatureVersion = agentTrafficSignatureV2
  chosen : trafficSecret call.hmacKeys call.payload.sourceSystem verified.keyId
    verified.signatureVersion = .ok secret
  signature : normalizedSignature env.lower call.suppliedSignature =
    .ok (env.hmac secret (signedMessage env verified))
  clockSkew : verified.maxClockSkewSeconds = call.maxClockSkewSeconds
  observedAt : verified.observedAt = call.now

def verifiedBatch (env : SigningEnvironment) (call : SignedTrafficCall)
    (version keyId nonce : String) (sentAt : Time) (supplied : String) :
    VerifiedTrafficBatch where
  payload := call.payload
  signatureVersion := version
  keyId := keyId
  nonce := nonce
  sentAt := sentAt
  signatureHash := env.sha256 supplied
  maxClockSkewSeconds := call.maxClockSkewSeconds
  observedAt := call.now

def verifyUnder (env : SigningEnvironment) (call : SignedTrafficCall)
    (version keyId nonce : String) : Except ServiceError VerifiedTrafficBatch := do
  let sentAt ← parseTimestamp env "traffic sent-at"
    (sentAtOr call.sentAt call.payload.capturedAt)
  let secret ← trafficSecret call.hmacKeys call.payload.sourceSystem keyId version
  let expected ← trafficBatchSignature env call.payload secret version keyId nonce sentAt
  let supplied ← normalizedSignature env.lower call.suppliedSignature
  if expected ≠ supplied then
    throw (.domainValidation "traffic batch signature verification failed")
  validateBatchProvenance call.payload
  return verifiedBatch env call version keyId nonce sentAt supplied

section Verifying

variable {env : SigningEnvironment} {call : SignedTrafficCall}
  {verified : VerifiedTrafficBatch}

theorem verifyUnder_eq_ok_iff {version keyId nonce : String} :
    verifyUnder env call version keyId nonce = .ok verified ↔ ∃ sentAt secret expected,
        parseTimestamp env "traffic sent-at"
            (sentAtOr call.sentAt call.payload.capturedAt) = .ok sentAt ∧
        trafficSecret call.hmacKeys call.payload.sourceSystem keyId version = .ok secret ∧
        trafficBatchSignature env call.payload secret version keyId nonce sentAt = .ok expected ∧
        normalizedSignature env.lower call.suppliedSignature = .ok expected ∧
        validateBatchProvenance call.payload = .ok () ∧
        verifiedBatch env call version keyId nonce sentAt expected =
            verified := by
  simp only [verifyUnder, bind_eq_ok_iff]
  constructor
  · rintro ⟨sentAt, parsed, secret, chosen, expected, signed, supplied, normalized, checked⟩
    by_cases same : expected = supplied
    · subst same
      simp only [ne_eq, not_true_eq_false, if_false, bind_eq_ok_iff] at checked
      obtain ⟨value, valid, returned⟩ := checked
      exact ⟨sentAt, secret, expected, parsed, chosen, signed, normalized,
        valid, Except.ok.inj returned⟩
    · simp only [ne_eq, same, not_false_eq_true, if_true, bind_eq_ok_iff] at checked
      obtain ⟨value, raised, -⟩ := checked
      cases raised
  · rintro ⟨sentAt, secret, expected, parsed, chosen, signed, normalized, valid, rfl⟩
    refine ⟨sentAt, parsed, secret, chosen, expected, signed, expected, normalized, ?_⟩
    simp only [ne_eq, not_true_eq_false, if_false, bind_eq_ok_iff]
    exact ⟨(), valid, rfl⟩

def SignedTrafficCall.normalizedVersion (call : SignedTrafficCall)
    (env : SigningEnvironment) : String :=
  env.lower (pyStrip call.signatureVersion)

def SignedTrafficCall.normalizedKeyId (call : SignedTrafficCall) : String :=
  pyStrip (textOr call.keyId "legacy")

def SignedTrafficCall.normalizedNonce (call : SignedTrafficCall) : String :=
  pyStrip (textOr call.nonce ("legacy:" ++ call.payload.batchId))

theorem verifySignedBatch_versionOne
    (version : call.normalizedVersion env = agentTrafficSignatureV1) :
    verifySignedBatch env call = .ok verified ↔ call.allowLegacySignatures = true ∧
        verifyUnder env call agentTrafficSignatureV1
          call.normalizedKeyId call.normalizedNonce = .ok verified := by
  have other : agentTrafficSignatureV1 ≠ agentTrafficSignatureV2 := by decide
  have same : env.lower (pyStrip call.signatureVersion) =
      agentTrafficSignatureV1 := version
  unfold verifySignedBatch
  cases allowed : call.allowLegacySignatures with
  | true =>
    simp only [same, ne_eq, not_true_eq_false, false_and, if_false, other,
      Bool.not_true, Bool.false_eq_true, and_false, true_and]
    rfl
  | false =>
    simp only [same, ne_eq, not_true_eq_false, false_and, if_false,
      Bool.not_false, and_true, if_true, bind_eq_ok_iff, Bool.false_eq_true,
      iff_false, not_exists, not_and]
    intro _ raised
    cases raised

theorem verifySignedBatch_versionTwo
    (version : call.normalizedVersion env = agentTrafficSignatureV2) :
    verifySignedBatch env call = .ok verified ↔ assertVersionTwoArguments call call.normalizedKeyId
          call.normalizedNonce = .ok () ∧
        verifyUnder env call agentTrafficSignatureV2
          call.normalizedKeyId call.normalizedNonce = .ok verified := by
  have other : agentTrafficSignatureV2 ≠ agentTrafficSignatureV1 := by decide
  have same : env.lower (pyStrip call.signatureVersion) =
      agentTrafficSignatureV2 := version
  unfold verifySignedBatch
  simp only [same, ne_eq, not_true_eq_false, and_false, if_false, other,
    false_and, if_true, bind_eq_ok_iff]
  constructor
  · rintro ⟨value, given, rest⟩
    refine ⟨given, ?_⟩
    simp only [verifyUnder, bind_eq_ok_iff]
    exact rest
  · rintro ⟨given, rest⟩
    simp only [verifyUnder, bind_eq_ok_iff] at rest
    exact ⟨(), given, rest⟩

theorem verification_of_under {version keyId nonce : String}
    (versionEq : version = agentTrafficSignatureV1 ∨ version = agentTrafficSignatureV2)
    (accepted : verifyUnder env call version keyId nonce = .ok verified) :
    ∃ secret, Verification env call verified secret := by
  obtain ⟨sentAt, secret, expected, -, chosen, signed, normalized, -, rfl⟩ :=
    verifyUnder_eq_ok_iff.mp accepted
  have message : expected = env.hmac secret (signedMessage env
        (verifiedBatch env call version keyId nonce sentAt expected)) := by
    rcases versionEq with rfl | rfl
    · have other : agentTrafficSignatureV1 ≠ agentTrafficSignatureV2 := by
        decide
      rw [trafficBatchSignature, if_neg other, if_pos rfl] at signed
      rw [signedMessage, verifiedBatch, if_neg other]
      exact (Except.ok.inj signed).symm
    · rw [trafficBatchSignature, if_pos rfl] at signed
      split at signed
      · cases signed
      · rw [signedMessage, verifiedBatch, if_pos rfl]
        exact (Except.ok.inj signed).symm
  exact ⟨secret, {
    payload := rfl
    version := versionEq
    chosen := chosen
    signature := by rw [← message]; exact normalized
    clockSkew := rfl
    observedAt := rfl }⟩

theorem verified_cases (accepted : verifySignedBatch env call = .ok verified) :
    (call.allowLegacySignatures = true ∧ verifyUnder env call agentTrafficSignatureV1
          call.normalizedKeyId call.normalizedNonce = .ok verified) ∨
      (assertVersionTwoArguments call call.normalizedKeyId call.normalizedNonce = .ok () ∧
        verifyUnder env call agentTrafficSignatureV2
          call.normalizedKeyId call.normalizedNonce = .ok verified) := by
  by_cases one : call.normalizedVersion env = agentTrafficSignatureV1
  · exact Or.inl ((verifySignedBatch_versionOne one).mp accepted)
  by_cases two : call.normalizedVersion env = agentTrafficSignatureV2
  · exact Or.inr ((verifySignedBatch_versionTwo two).mp accepted)
  have unsupported : env.lower (pyStrip call.signatureVersion) ≠ agentTrafficSignatureV1 ∧
        env.lower (pyStrip call.signatureVersion) ≠
          agentTrafficSignatureV2 := ⟨one, two⟩
  unfold verifySignedBatch at accepted
  simp only [if_pos unsupported, bind_eq_ok_iff] at accepted
  obtain ⟨value, raised, -⟩ := accepted
  cases raised

theorem exists_verification (accepted : verifySignedBatch env call = .ok verified) :
    ∃ secret, Verification env call verified secret := by
  rcases verified_cases accepted with ⟨-, under⟩ | ⟨-, under⟩
  · exact verification_of_under (Or.inl rfl) under
  · exact verification_of_under (Or.inr rfl) under

theorem keyId_of_verified (accepted : verifySignedBatch env call = .ok verified) :
    pyStrip verified.keyId = verified.keyId ∧
      (verified.keyId = "" → call.allowLegacySignatures = true) := by
  have named : ∀ version, verifyUnder env call version
      call.normalizedKeyId call.normalizedNonce = .ok verified →
        verified.keyId = call.normalizedKeyId := by
    intro version under
    obtain ⟨_, _, _, _, _, _, _, _, rfl⟩ := verifyUnder_eq_ok_iff.mp under
    rfl
  rcases verified_cases accepted with ⟨allowed, under⟩ | ⟨given, under⟩
  · rw [named _ under]
    exact ⟨pyStrip_pyStrip _, fun _ => allowed⟩
  · rw [named _ under]
    refine ⟨pyStrip_pyStrip _, fun empty => ?_⟩
    rw [assertVersionTwoArguments, if_pos (Or.inr empty)] at given
    cases given

end Verifying

/-- The key id of the configured key that `_traffic_secret` takes: the given
one, or that of the source's own name. -/
def selectedKeyId (keys : TrafficKeyMap) (sourceSystem keyId : String) :
    String :=
  if (keys.get (compoundName sourceSystem keyId)).isSome then keyId
  else "legacy"

section Lookup

variable {keys : TrafficKeyMap} {sourceSystem keyId version secret : String}

theorem trafficSecret_compound
    (configured : keys.get (compoundName sourceSystem keyId) = some secret) :
    trafficSecret keys.get sourceSystem keyId version = .ok secret := by
  have filled := TrafficKeyMap.ne_empty_of_get configured
  have named : keys.get (sourceSystem ++ ":" ++ keyId) = some secret :=
    configured
  simp [trafficSecret, named, pyOr, filled]

theorem trafficSecret_plain (unset : keys.get (compoundName sourceSystem keyId) = none)
    (falls : version = agentTrafficSignatureV1 ∨ keyId = "legacy")
    (configured : keys.get sourceSystem = some secret) :
    trafficSecret keys.get sourceSystem keyId version = .ok secret := by
  have filled := TrafficKeyMap.ne_empty_of_get configured
  have named : keys.get (sourceSystem ++ ":" ++ keyId) = none := unset
  simp [trafficSecret, named, pyOr, filled, falls, configured]

theorem get_of_trafficSecret
    (chosen : trafficSecret keys.get sourceSystem keyId version = .ok secret) :
    keys.get (compoundName sourceSystem keyId) = some secret ∨
      keys.get (compoundName sourceSystem keyId) = none ∧
        (version = agentTrafficSignatureV1 ∨ keyId = "legacy") ∧
        keys.get sourceSystem = some secret := by
  cases configured : keys.get (compoundName sourceSystem keyId) with
  | some first =>
    rw [trafficSecret_compound configured] at chosen
    exact Or.inl (by rw [Except.ok.inj chosen])
  | none =>
    right
    have named : keys.get (sourceSystem ++ ":" ++ keyId) = none := configured
    by_cases falls : version = agentTrafficSignatureV1 ∨ keyId = "legacy"
    · cases plain : keys.get sourceSystem with
      | none => simp [trafficSecret, named, plain, pyOr] at chosen
      | some own =>
        rw [trafficSecret_plain configured falls plain] at chosen
        exact ⟨rfl, falls, by rw [Except.ok.inj chosen]⟩
    · simp [trafficSecret, named, falls] at chosen

end Lookup

/-! ## Separation -/

/-- Digests are hexadecimal texts, `str.lower` keeps lower case, and the two versions sign
objects of different fields. -/
structure LawfulSigning (env : SigningEnvironment) : Prop where
  digest : ∀ secret message, isHexDigest (env.hmac secret message) = true
  lowerDigest : ∀ text, isHexDigest text = true → env.lower text = text
  lowerVersionOne :
    env.lower agentTrafficSignatureV1 = agentTrafficSignatureV1
  lowerVersionTwo :
    env.lower agentTrafficSignatureV2 = agentTrafficSignatureV2
  shapes : ∀ batch keyId nonce sentAt payload,
    env.canonicalBatch batch ≠
      env.canonicalEnvelope keyId nonce sentAt payload

def BindsDigest (env : SigningEnvironment) (secret message : String) :
    Prop :=
  ∀ otherSecret otherMessage, env.hmac otherSecret otherMessage = env.hmac secret message →
      otherSecret = secret ∧ otherMessage = message

def SignedWith (env : SigningEnvironment) (call : SignedTrafficCall)
    (secret message : String) : Prop :=
  normalizedSignature env.lower call.suppliedSignature = .ok (env.hmac secret message)

def SignedIn (env : SigningEnvironment) (version message : String) :
    Prop :=
  if version = agentTrafficSignatureV2 then
    ∃ keyId nonce sentAt payload, message = env.canonicalEnvelope keyId nonce sentAt payload
  else ∃ payload, message = env.canonicalBatch payload

def ConfiguredFor (keys : TrafficKeyMap) (verified : VerifiedTrafficBatch)
    (secret : String) : Prop :=
  ∃ name, keys.get name = some secret ∧ (keyOwner name).1 = verified.payload.sourceSystem ∧
    (verified.signatureVersion = agentTrafficSignatureV2 → (keyOwner name).2 = verified.keyId)

def ConfiguredOnlyFor (keys : TrafficKeyMap) (sourceSystem secret : String) :
    Prop :=
  ∀ name, keys.get name = some secret → (keyOwner name).1 = sourceSystem

def Authenticates (env : SigningEnvironment)
    (deployment : TrafficDeployment) (sourceSystem keyId : String) : Prop :=
  ∃ call verified, deployment.Receives call ∧ call.payload.sourceSystem = sourceSystem ∧
    AcceptedAsNew env ReceiptTable.empty call verified ∧
    selectedKeyId deployment.hmacKeys sourceSystem verified.keyId = keyId

structure SourceSeparated (env : SigningEnvironment)
    (deployment : TrafficDeployment) (sourceSystem : String) : Prop where
  /-- An accepted batch was signed with a secret of its source, in version 2 also over its key
  id, nonce and time within the skew. -/
  origin : ∀ receipts call verified, deployment.Receives call →
    call.payload.sourceSystem = sourceSystem →
    AcceptedAsNew env receipts call verified →
      verified.payload = call.payload ∧
      (∃ secret, ConfiguredFor deployment.hmacKeys verified secret ∧
        SignedWith env call secret
          (signedMessage env verified)) ∧
      (verified.signatureVersion = agentTrafficSignatureV2 →
        |call.now - verified.sentAt| ≤ max 1 deployment.maxClockSkewSeconds)
  foreign : ∀ receipts call verified other secret message,
    deployment.Receives call → call.payload.sourceSystem = sourceSystem →
    other ≠ sourceSystem → ConfiguredOnlyFor deployment.hmacKeys other secret →
    BindsDigest env secret message →
    SignedWith env call secret message →
      ¬ AcceptedAsNew env receipts call verified
  versions : ∀ receipts call verified version secret message,
    deployment.Receives call → call.payload.sourceSystem = sourceSystem →
    version = agentTrafficSignatureV1 ∨ version = agentTrafficSignatureV2 →
    SignedIn env version message →
    BindsDigest env secret message →
    SignedWith env call secret message →
    AcceptedAsNew env receipts call verified →
      verified.signatureVersion = version
  reported : ∀ receipts staleAfterSeconds now keyId,
    ReportsKey (listTrafficSourceStatus receipts deployment.hmacKeys
        staleAfterSeconds now) sourceSystem keyId ↔
      Authenticates env deployment sourceSystem keyId

/-- A key id that the headers of a call can give: `strip` leaves it, and an
empty one stands for no key id in version 2. -/
def TrafficDeployment.IsUsable (deployment : TrafficDeployment) (keyId : String) : Prop :=
  pyStrip keyId = keyId ∧
    (keyId = "" → deployment.allowLegacySignatures = true)

/-- The names under which keys are looked up for a source are read as keys of
that source, and its keys can be used. -/
structure TrafficDeployment.ReadsOwnKeys (deployment : TrafficDeployment)
    (sourceSystem : String) : Prop where
  ownNames : ':' ∈ sourceSystem.toList →
    lengthWithin sourceSystem 1 160 = true →
      deployment.hmacKeys.get sourceSystem = none ∧
      ∀ keyId, deployment.IsUsable keyId →
        deployment.hmacKeys.get (compoundName sourceSystem keyId) = none
  ownKeys : ∀ name secret, deployment.hmacKeys.get name = some secret →
    (keyOwner name).1 = sourceSystem →
      lengthWithin sourceSystem 1 160 = true ∧
      deployment.IsUsable (keyOwner name).2

/-! ## Calls that are accepted -/

theorem pyStrip_eq_self {text : String} (visible : ∀ char ∈ text.toList, isPySpace char = false) :
    pyStrip text = text := by
  have kept : ∀ characters : List Char, (∀ char ∈ characters, isPySpace char = false) →
        characters.dropWhile isPySpace = characters := by
    intro characters hidden
    rw [List.dropWhile_eq_self_iff]
    intro positive
    rw [hidden _ (List.getElem_mem positive)]
    decide
  rw [pyStrip, kept _ visible, kept _ (fun char mem =>
    visible char (List.mem_reverse.mp mem)), List.reverse_reverse,
    String.ofList_toList]

theorem isHexDigest_char {text : String} (digest : isHexDigest text = true)
    {char : Char} (mem : char ∈ text.toList) :
    char ∈ "0123456789abcdef".toList := by
  rw [isHexDigest, Bool.and_eq_true, List.all_eq_true] at digest
  simpa using digest.2 char mem

theorem normalizedSignature_digest {lower : String → String} {digest : String}
    (isDigest : isHexDigest digest = true) (lowered : lower digest = digest) :
    normalizedSignature lower digest = .ok digest := by
  have visible : ∀ char ∈ "0123456789abcdef".toList,
      isPySpace char = false := by
    have checked : ("0123456789abcdef".toList.all (fun char =>
      !isPySpace char)) = true := by decide
    simpa only [List.all_eq_true, Bool.not_eq_true'] using checked
  have stripped : pyStrip digest = digest :=
    pyStrip_eq_self (fun char mem =>
      visible char (isHexDigest_char isDigest mem))
  have unprefixed : pyDropStart "sha256=" digest = digest := by
    rw [pyDropStart, if_neg]
    intro starts
    have isStart := List.isPrefixOf_iff_prefix.mp starts
    have first : 's' ∈ digest.toList := isStart.subset (by decide)
    exact absurd (isHexDigest_char isDigest first) (by decide)
  simp only [normalizedSignature, stripped, lowered, unprefixed, isDigest, if_true]

def plainEvent (sourceSystem : String) : AgentEvidenceImportCreate :=
  { capturedEvent sourceSystem with
    rawOutput := "output"
    normalizedOutput := "output"
    provenance :=
      { (capturedEvent sourceSystem).provenance with
        sourceTraceHash := String.ofList (List.replicate 64 '0') } }

def plainBatch (sourceSystem : String) : AgentTrafficEvidenceBatchCreate where
  sourceSystem := sourceSystem
  batchId := "batch-1"
  collectorVersion := "1"
  capturedAt := 0
  events := [plainEvent sourceSystem]

def plainNonce : String := "nonce-0000000001"

def plainCall (deployment : TrafficDeployment)
    (sourceSystem version keyId signature : String) : SignedTrafficCall where
  payload := plainBatch sourceSystem
  suppliedSignature := signature
  hmacKeys := deployment.hmacKeys.get
  signatureVersion := version
  keyId := some keyId
  nonce := some plainNonce
  sentAt := some (.datetime (some 0))
  allowLegacySignatures := deployment.allowLegacySignatures
  maxClockSkewSeconds := deployment.maxClockSkewSeconds
  now := 0

theorem plainBatch_meetsSchema {sourceSystem : String}
    (bounded : lengthWithin sourceSystem 1 160 = true) :
    (plainBatch sourceSystem).meetsSchema = true := by
  have traceHash : isTraceHash (String.ofList (List.replicate 64 '0')) =
      true := by
    decide +kernel
  have texts : (lengthWithin "sample-1" 1 120 &&
      decide (1 ≤ "output".length) && decide (1 ≤ "output".length) &&
      lengthWithin "event-1" 1 200 && lengthWithin "1" 1 120) = true := by
    decide +kernel
  have event : (plainEvent sourceSystem).meetsSchema = true := by
    simp only [AgentEvidenceImportCreate.meetsSchema, plainEvent, capturedEvent,
      bounded, traceHash, Bool.and_true]
    exact texts
  simp only [AgentTrafficEvidenceBatchCreate.meetsSchema, plainBatch, bounded,
    List.all_cons, List.all_nil, event, Bool.and_true, Bool.true_and]
  rfl

theorem plainBatch_provenance (sourceSystem : String) :
    validateBatchProvenance (plainBatch sourceSystem) = .ok () := by
  simp [validateBatchProvenance, plainBatch, plainEvent, capturedEvent]
  rfl

theorem plainNonce_stripped : pyStrip plainNonce = plainNonce := by
  decide

section Accepting

variable {env : SigningEnvironment} {deployment : TrafficDeployment}
  {sourceSystem keyId secret : String}

theorem plainCall_received (version signature : String)
    (bounded : lengthWithin sourceSystem 1 160 = true) :
    deployment.Receives (plainCall deployment sourceSystem version keyId signature) where
  hmacKeys := rfl
  legacy := rfl
  clockSkew := rfl
  schema := plainBatch_meetsSchema bounded

theorem accepts_versionTwo (lawful : LawfulSigning env)
    (stripped : pyStrip keyId = keyId) (given : keyId ≠ "")
    (chosen : trafficSecret deployment.hmacKeys.get sourceSystem keyId
      agentTrafficSignatureV2 = .ok secret) :
    ∃ call verified, (lengthWithin sourceSystem 1 160 = true → deployment.Receives call) ∧
      call.payload.sourceSystem = sourceSystem ∧
      AcceptedAsNew env ReceiptTable.empty call verified ∧ verified.keyId = keyId := by
  let digest := env.hmac secret (env.canonicalEnvelope keyId plainNonce 0 (plainBatch sourceSystem))
  let call := plainCall deployment sourceSystem agentTrafficSignatureV2 keyId digest
  have version : call.normalizedVersion env =
      agentTrafficSignatureV2 := by
    have kept : pyStrip agentTrafficSignatureV2 = agentTrafficSignatureV2 := by
      decide
    rw [SignedTrafficCall.normalizedVersion]
    show env.lower (pyStrip agentTrafficSignatureV2) = _
    rw [kept, lawful.lowerVersionTwo]
  have keyIdEq : call.normalizedKeyId = keyId := by
    show pyStrip (pyOr keyId "legacy") = keyId
    rw [pyOr, if_neg given, stripped]
  have nonceEq : call.normalizedNonce = plainNonce := by
    show pyStrip (pyOr plainNonce _) = plainNonce
    rw [pyOr, if_neg (by decide), plainNonce_stripped]
  have arguments : assertVersionTwoArguments call keyId plainNonce = .ok () := by
    have keyGiven : textOr call.keyId "" = keyId := by
      show pyOr keyId "" = keyId
      rw [pyOr, if_neg given]
    have nonceGiven : textOr call.nonce "" = plainNonce := by
      show pyOr plainNonce "" = plainNonce
      decide
    have timeGiven : call.sentAt.isNone = false := rfl
    have nonceFilled : plainNonce ≠ "" := by decide
    have longEnough : ¬ plainNonce.length < 16 := by decide
    have shortEnough : ¬ 160 < plainNonce.length := by decide
    simp only [assertVersionTwoArguments, keyGiven, nonceGiven, timeGiven,
      given, nonceFilled, longEnough, shortEnough, or_self, if_false,
      Bool.false_eq_true]
    rfl
  have signed : trafficBatchSignature env call.payload secret
      agentTrafficSignatureV2 keyId plainNonce 0 = .ok digest := by
    have nonceFilled : plainNonce ≠ "" := by decide
    simp only [trafficBatchSignature, given, nonceFilled, or_self, if_false, if_true]
    rfl
  have isDigest : isHexDigest digest = true := lawful.digest _ _
  refine ⟨call, verifiedBatch env call agentTrafficSignatureV2 keyId
    plainNonce 0 digest, plainCall_received _ _, rfl, ⟨?_, rfl, ?_⟩, rfl⟩
  · rw [verifySignedBatch_versionTwo version, keyIdEq, nonceEq, verifyUnder_eq_ok_iff]
    exact ⟨arguments, 0, secret, digest, rfl, chosen, signed,
      normalizedSignature_digest isDigest (lawful.lowerDigest _ isDigest),
      plainBatch_provenance sourceSystem, rfl⟩
  · have inTime : ¬ max 1 deployment.maxClockSkewSeconds < |(0 : Int) - 0| := by
      simp
    simp only [outsideClockSkew, Bool.and_eq_false_iff, decide_eq_false_iff_not]
    exact Or.inr inTime

theorem accepts_versionOne (lawful : LawfulSigning env)
    (allowed : deployment.allowLegacySignatures = true)
    (chosen : trafficSecret deployment.hmacKeys.get sourceSystem ""
      agentTrafficSignatureV1 = .ok secret) :
    ∃ call verified, (lengthWithin sourceSystem 1 160 = true → deployment.Receives call) ∧
      call.payload.sourceSystem = sourceSystem ∧
      AcceptedAsNew env ReceiptTable.empty call verified ∧
      verified.keyId = "" := by
  let digest := env.hmac secret (env.canonicalBatch (plainBatch sourceSystem))
  let call := plainCall deployment sourceSystem agentTrafficSignatureV1 " "
    digest
  have version : call.normalizedVersion env =
      agentTrafficSignatureV1 := by
    have kept : pyStrip agentTrafficSignatureV1 = agentTrafficSignatureV1 := by
      decide
    rw [SignedTrafficCall.normalizedVersion]
    show env.lower (pyStrip agentTrafficSignatureV1) = _
    rw [kept, lawful.lowerVersionOne]
  have keyIdEq : call.normalizedKeyId = "" := by
    show pyStrip (pyOr " " "legacy") = ""
    decide
  have other : agentTrafficSignatureV1 ≠ agentTrafficSignatureV2 := by decide
  have signed : trafficBatchSignature env call.payload secret
      agentTrafficSignatureV1 "" call.normalizedNonce 0 = .ok digest := by
    simp only [trafficBatchSignature, other, if_false, if_true]
    rfl
  have isDigest : isHexDigest digest = true := lawful.digest _ _
  refine ⟨call, verifiedBatch env call agentTrafficSignatureV1 ""
    call.normalizedNonce 0 digest, plainCall_received _ _, rfl, ⟨?_, rfl, ?_⟩,
    rfl⟩
  · rw [verifySignedBatch_versionOne version, keyIdEq, verifyUnder_eq_ok_iff]
    exact ⟨allowed, 0, secret, digest, rfl, chosen, signed,
      normalizedSignature_digest isDigest (lawful.lowerDigest _ isDigest),
      plainBatch_provenance sourceSystem, rfl⟩
  · simp [outsideClockSkew, verifiedBatch, other]

theorem authenticates_compound (lawful : LawfulSigning env)
    (bounded : lengthWithin sourceSystem 1 160 = true) (usable : deployment.IsUsable keyId)
    (configured : deployment.hmacKeys.get (compoundName sourceSystem keyId) = some secret) :
    Authenticates env deployment sourceSystem keyId := by
  have selected : selectedKeyId deployment.hmacKeys sourceSystem keyId =
      keyId := by
    rw [selectedKeyId, configured]
    rfl
  by_cases empty : keyId = ""
  · subst empty
    obtain ⟨call, verified, received, source, accepted, named⟩ :=
      accepts_versionOne lawful (usable.2 rfl) (trafficSecret_compound configured)
    exact ⟨call, verified, received bounded, source, accepted,
      by rw [named, selected]⟩
  · obtain ⟨call, verified, received, source, accepted, named⟩ :=
      accepts_versionTwo lawful usable.1 empty (trafficSecret_compound configured)
    exact ⟨call, verified, received bounded, source, accepted,
      by rw [named, selected]⟩

theorem authenticates_plain (lawful : LawfulSigning env)
    (bounded : lengthWithin sourceSystem 1 160 = true)
    (configured : deployment.hmacKeys.get sourceSystem = some secret) :
    Authenticates env deployment sourceSystem "legacy" := by
  have found : ∃ own, trafficSecret deployment.hmacKeys.get sourceSystem
      "legacy" agentTrafficSignatureV2 = .ok own := by
    cases compound : deployment.hmacKeys.get
        (compoundName sourceSystem "legacy") with
    | some own => exact ⟨own, trafficSecret_compound compound⟩
    | none =>
      exact ⟨secret, trafficSecret_plain compound (Or.inr rfl) configured⟩
  obtain ⟨own, chosen⟩ := found
  have stripped : pyStrip "legacy" = "legacy" := by decide
  have given : "legacy" ≠ "" := by decide
  obtain ⟨call, verified, received, source, accepted, named⟩ :=
    accepts_versionTwo lawful stripped given chosen
  refine ⟨call, verified, received bounded, source, accepted, ?_⟩
  rw [named, selectedKeyId, ite_self]

theorem isUsable_of_verified {call : SignedTrafficCall} {verified : VerifiedTrafficBatch}
    (received : deployment.Receives call) (accepted : verifySignedBatch env call = .ok verified) :
    deployment.IsUsable verified.keyId := by
  rw [TrafficDeployment.IsUsable, ← received.legacy]
  exact keyId_of_verified accepted

theorem TrafficDeployment.Receives.bounded {call : SignedTrafficCall}
    (received : deployment.Receives call) :
    lengthWithin call.payload.sourceSystem 1 160 = true := by
  have schema := received.schema
  simp only [AgentTrafficEvidenceBatchCreate.meetsSchema, Bool.and_eq_true] at schema
  exact schema.1.1.1.1.1

theorem name_of_authenticates (authenticated : Authenticates env deployment sourceSystem keyId) :
    lengthWithin sourceSystem 1 160 = true ∧ deployment.IsUsable keyId ∧
      ∃ name secret, deployment.hmacKeys.get name = some secret ∧
        (name = compoundName sourceSystem keyId ∨
          name = sourceSystem ∧ keyId = "legacy") := by
  obtain ⟨call, verified, received, rfl, accepted, selected⟩ := authenticated
  obtain ⟨secret, verification⟩ := exists_verification accepted.verification
  have chosen := verification.chosen
  rw [received.hmacKeys] at chosen
  refine ⟨received.bounded, ?_⟩
  rcases get_of_trafficSecret chosen with compound | ⟨unset, -, plain⟩
  · rw [selectedKeyId, compound] at selected
    have same : verified.keyId = keyId := selected
    have usable := isUsable_of_verified received accepted.verification
    rw [same] at compound usable
    exact ⟨usable, _, secret, compound, Or.inl rfl⟩
  · rw [selectedKeyId, unset] at selected
    have same : "legacy" = keyId := selected
    rw [← same]
    exact ⟨⟨by decide, fun empty => absurd empty (by decide)⟩, _, secret, plain, Or.inr ⟨rfl, rfl⟩⟩

end Accepting

section Separation

variable {env : SigningEnvironment} {deployment : TrafficDeployment}
  {sourceSystem : String}

theorem plain_of_accepted (reads : deployment.ReadsOwnKeys sourceSystem) {call : SignedTrafficCall}
    {verified : VerifiedTrafficBatch} (received : deployment.Receives call)
    (source : call.payload.sourceSystem = sourceSystem)
    (accepted : verifySignedBatch env call = .ok verified) :
    ':' ∉ sourceSystem.toList := by
  intro colon
  subst source
  obtain ⟨noPlain, noCompound⟩ := reads.ownNames colon received.bounded
  obtain ⟨secret, verification⟩ := exists_verification accepted
  have chosen := verification.chosen
  rw [received.hmacKeys] at chosen
  have usable := isUsable_of_verified received accepted
  rcases get_of_trafficSecret chosen with compound | ⟨-, -, plain⟩
  · rw [noCompound _ usable] at compound
    cases compound
  · rw [noPlain] at plain
    cases plain

theorem configuredFor_of_plain {call : SignedTrafficCall}
    {verified : VerifiedTrafficBatch} {secret : String}
    (received : deployment.Receives call)
    (plain : ':' ∉ call.payload.sourceSystem.toList)
    (verification : Verification env call verified secret) :
    ConfiguredFor deployment.hmacKeys verified secret := by
  have chosen := verification.chosen
  rw [received.hmacKeys] at chosen
  rcases get_of_trafficSecret chosen with compound | ⟨-, falls, own⟩
  · refine ⟨_, compound, ?_⟩
    rw [keyOwner_compoundName plain, verification.payload]
    exact ⟨rfl, fun _ => rfl⟩
  · refine ⟨_, own, ?_⟩
    rw [keyOwner_plain plain, verification.payload]
    refine ⟨rfl, fun two => ?_⟩
    rcases falls with one | legacy
    · rw [two] at one
      exact absurd one (by decide)
    · exact legacy.symm

theorem skew_of_accepted {call : SignedTrafficCall}
    {verified : VerifiedTrafficBatch} {receipts : ReceiptTable} {secret : String}
    (received : deployment.Receives call)
    (accepted : AcceptedAsNew env receipts call verified)
    (verification : Verification env call verified secret)
    (two : verified.signatureVersion = agentTrafficSignatureV2) :
    |call.now - verified.sentAt| ≤ max 1 deployment.maxClockSkewSeconds := by
  have inTime := accepted.inTime
  simp only [outsideClockSkew, two, decide_true, Bool.true_and,
    decide_eq_false_iff_not, not_lt, verification.observedAt,
    verification.clockSkew, received.clockSkew] at inTime
  exact inTime

theorem signedMessage_of_binds {call : SignedTrafficCall} {verified : VerifiedTrafficBatch}
    {secret own message : String} (verification : Verification env call verified own)
    (binds : BindsDigest env secret message) (signed : SignedWith env call secret message) :
    own = secret ∧ signedMessage env verified = message := by
  have same := verification.signature
  rw [SignedWith] at signed
  rw [signed] at same
  exact binds _ _ (Except.ok.inj same).symm

theorem version_of_message (lawful : LawfulSigning env) {verified : VerifiedTrafficBatch}
    {version message : String} (own : verified.signatureVersion = agentTrafficSignatureV1 ∨
      verified.signatureVersion = agentTrafficSignatureV2)
    (known : version = agentTrafficSignatureV1 ∨ version = agentTrafficSignatureV2)
    (inVersion : SignedIn env version message)
    (same : signedMessage env verified = message) :
    verified.signatureVersion = version := by
  have other : agentTrafficSignatureV1 ≠ agentTrafficSignatureV2 := by decide
  rcases own with one | two
  · rw [signedMessage, one, if_neg other] at same
    rcases known with rfl | rfl
    · exact one
    · rw [SignedIn, if_pos rfl] at inVersion
      obtain ⟨keyId, nonce, sentAt, payload, enveloped⟩ := inVersion
      rw [enveloped] at same
      exact absurd same (lawful.shapes _ _ _ _ _)
  · rw [signedMessage, if_pos two] at same
    rcases known with rfl | rfl
    · rw [SignedIn, if_neg other] at inVersion
      obtain ⟨payload, plain⟩ := inVersion
      rw [plain] at same
      exact absurd same.symm (lawful.shapes _ _ _ _ _)
    · exact two

/-- The batches of a source are separated exactly when its keys are read as its
own and can be used. -/
theorem sourceSeparated_iff (lawful : LawfulSigning env) :
    SourceSeparated env deployment sourceSystem ↔ deployment.ReadsOwnKeys sourceSystem := by
  constructor
  · intro separated
    constructor
    · intro colon bounded
      have unread : ∀ keyId, ¬ Authenticates env deployment sourceSystem keyId := by
        intro keyId authenticated
        obtain ⟨entry, -, owner⟩ := reportsKey_iff.mp
          ((separated.reported ReceiptTable.empty 0 0 keyId).mpr authenticated)
        have absent := colon_notMem_keyOwner entry.1
        rw [owner] at absent
        exact absent colon
      constructor
      · rw [Option.eq_none_iff_forall_ne_some]
        intro secret configured
        exact unread _ (authenticates_plain lawful bounded configured)
      · intro keyId usable
        rw [Option.eq_none_iff_forall_ne_some]
        intro secret configured
        exact unread _ (authenticates_compound lawful bounded usable configured)
    · intro name secret configured owner
      have reported : ReportsKey (listTrafficSourceStatus ReceiptTable.empty
          deployment.hmacKeys 0 0) sourceSystem (keyOwner name).2 :=
        reportsKey_iff.mpr ⟨_, TrafficKeyMap.mem_of_get configured, Prod.ext owner rfl⟩
      have authenticated :=
        (separated.reported ReceiptTable.empty 0 0 _).mp reported
      obtain ⟨bounded, usable, -⟩ := name_of_authenticates authenticated
      exact ⟨bounded, usable⟩
  · intro reads
    have configuredFor : ∀ receipts call verified, deployment.Receives call →
        call.payload.sourceSystem = sourceSystem → AcceptedAsNew env receipts call verified →
          ∃ secret, ConfiguredFor deployment.hmacKeys verified secret ∧
            Verification env call verified secret := by
      intro receipts call verified received source accepted
      have plain := plain_of_accepted reads received source accepted.verification
      rw [← source] at plain
      obtain ⟨secret, verification⟩ :=
        exists_verification accepted.verification
      exact ⟨secret, configuredFor_of_plain received plain verification, verification⟩
    constructor
    · intro receipts call verified received source accepted
      obtain ⟨secret, configured, verification⟩ :=
        configuredFor receipts call verified received source accepted
      exact ⟨verification.payload, ⟨secret, configured, verification.signature⟩,
        skew_of_accepted received accepted verification⟩
    · intro receipts call verified other secret message received source apart
        only binds signed accepted
      obtain ⟨own, configured, verification⟩ :=
        configuredFor receipts call verified received source accepted
      obtain ⟨same, -⟩ := signedMessage_of_binds verification binds signed
      obtain ⟨name, found, owner, -⟩ := configured
      rw [same] at found
      have otherOwner := only name found
      rw [owner, verification.payload, source] at otherOwner
      exact apart otherOwner.symm
    · intro receipts call verified version secret message received source known
        inVersion binds signed accepted
      obtain ⟨own, verification⟩ := exists_verification accepted.verification
      obtain ⟨-, same⟩ := signedMessage_of_binds verification binds signed
      exact version_of_message lawful verification.version known inVersion same
    · intro receipts staleAfterSeconds now keyId
      rw [reportsKey_iff]
      constructor
      · rintro ⟨entry, mem, owner⟩
        obtain ⟨secret, configured⟩ := TrafficKeyMap.get_of_mem mem
        obtain ⟨bounded, usable⟩ :=
          reads.ownKeys entry.1 secret configured (by rw [owner])
        rw [owner] at usable
        rcases eq_of_keyOwner owner with named | ⟨named, rfl⟩
        · rw [named] at configured
          exact authenticates_compound lawful bounded usable configured
        · rw [named] at configured
          exact authenticates_plain lawful bounded configured
      · intro authenticated
        have plain : ':' ∉ sourceSystem.toList := by
          obtain ⟨call, verified, received, source, accepted, -⟩ :=
            authenticated
          exact plain_of_accepted reads received source accepted.verification
        obtain ⟨-, -, name, secret, configured, named⟩ :=
          name_of_authenticates authenticated
        refine ⟨_, TrafficKeyMap.mem_of_get configured, ?_⟩
        rcases named with rfl | ⟨rfl, rfl⟩
        · exact keyOwner_compoundName plain keyId
        · exact keyOwner_plain plain

end Separation

def hexText (value : Nat) : String :=
  String.ofList ((List.range 64).map (fun place =>
    "0123456789abcdef".toList.getD (value / 16 ^ place % 16) '0'))

theorem hexText_isHexDigest (value : Nat) : isHexDigest (hexText value) = true := by
  have digits : ∀ digit < 16, "0123456789abcdef".toList.contains
      ("0123456789abcdef".toList.getD digit '0') = true := by
    decide
  rw [isHexDigest, hexText, String.toList_ofList, Bool.and_eq_true]
  constructor
  · simp
  · rw [List.all_map, List.all_eq_true]
    intro place _
    exact digits _ (Nat.mod_lt _ (by decide))

def numberedSigning : SigningEnvironment where
  lower text := String.ofList (text.toList.map Char.toLower)
  parseTimestamp _ := .invalid
  hmac secret message :=
    hexText ((secret ++ "/" ++ message).toList.foldl
      (fun value char => 1114112 * value + char.toNat) 1)
  sha256 := id
  canonicalBatch payload := "b" ++ payload.batchId
  canonicalEnvelope keyId nonce _ payload :=
    "e" ++ keyId ++ "/" ++ nonce ++ "/" ++ payload.batchId

theorem numberedSigning_lawful : LawfulSigning numberedSigning where
  digest _ _ := hexText_isHexDigest _
  lowerDigest := by
    intro text digest
    have kept : ∀ char ∈ "0123456789abcdef".toList, char.toLower = char := by
      have checked : ("0123456789abcdef".toList.all (fun char =>
        char.toLower == char)) = true := by decide
      simpa only [List.all_eq_true, beq_iff_eq] using checked
    have same : text.toList.map Char.toLower = text.toList := by
      rw [List.map_congr_left (fun char mem =>
        kept char (isHexDigest_char digest mem)), List.map_id']
    show String.ofList (text.toList.map Char.toLower) = text
    rw [same, String.ofList_toList]
  lowerVersionOne := by decide
  lowerVersionTwo := by decide
  shapes := by
    intro batch keyId nonce sentAt payload same
    have characters := congrArg (fun text => text.toList.head?) same
    simp [numberedSigning] at characters

/-- Two keys of the source `a`: one with the id `b`, and its legacy key. -/
def twoKeys : TrafficKeyMap where
  entries := [("a:b", "first"), ("a", "second")]
  distinct := by decide
  filled := by decide

def twoKeyDeployment : TrafficDeployment where
  hmacKeys := twoKeys
  allowLegacySignatures := true
  maxClockSkewSeconds := 300

theorem twoKeys_separated :
    SourceSeparated numberedSigning twoKeyDeployment "a" := by
  refine (sourceSeparated_iff numberedSigning_lawful).mpr ⟨?_, ?_⟩
  · intro colon
    exact absurd colon (by decide)
  · intro name secret configured _
    have mem := TrafficKeyMap.mem_of_get configured
    simp only [twoKeyDeployment, twoKeys, List.mem_cons, Prod.mk.injEq,
      List.not_mem_nil, or_false] at mem
    rcases mem with ⟨rfl, rfl⟩ | ⟨rfl, rfl⟩
    · exact ⟨by decide, by decide, fun _ => rfl⟩
    · exact ⟨by decide, by decide, fun _ => rfl⟩

/-- Whoever signs with the key `b` of the source `a` has a batch of the source
`a:b` accepted. -/
theorem twoKeys_shared :
    ¬ SourceSeparated numberedSigning twoKeyDeployment "a:b" := by
  intro separated
  have configured : twoKeyDeployment.hmacKeys.get "a:b" = some "first" := by
    decide
  obtain ⟨call, verified, received, source, accepted, -⟩ :=
    authenticates_plain numberedSigning_lawful (by decide) configured
  obtain ⟨payload, ⟨secret, ⟨name, -, owner, -⟩, -⟩, -⟩ :=
    separated.origin _ _ _ received source accepted
  have absent := colon_notMem_keyOwner name
  rw [owner, payload, source] at absent
  exact absent (by decide)

end ModelAtlas.Traffic
