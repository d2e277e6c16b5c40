import ModelAtlas.Traffic.BatchJobs

/-!
# Signed traffic batches

`queue_signed_traffic_batch` of `services/agent_traffic_ingestion.py`.  A call
verifies its batch and looks for a receipt, commits a job, and commits a
receipt, in three transactions; a lost race for the receipt is one more.
-/

namespace ModelAtlas.Traffic

open Foundations Jobs

/-- What `datetime.fromisoformat` makes of a text. -/
inductive ParsedTimestamp where
  | invalid
  | withoutTimezone
  | instant (time : Time)

/-- A timestamp argument: a text, or a `datetime` with or without a time
zone. -/
inductive TimestampInput where
  | text (value : String)
  | datetime (time : Option Time)

/-- What the ingestion takes from outside: `str.lower`, the ISO reader, HMAC,
SHA-256, and the canonical texts that are signed. -/
structure SigningEnvironment where
  lower : String → String
  parseTimestamp : String → ParsedTimestamp
  hmac : String → String → String
  sha256 : String → String
  canonicalBatch : AgentTrafficEvidenceBatchCreate → String
  canonicalEnvelope : String → String → Time →
    AgentTrafficEvidenceBatchCreate → String

def agentTrafficSignatureV1 : String := "hmac-sha256-v1"

def agentTrafficSignatureV2 : String := "hmac-sha256-v2"

/-- The arguments of `queue_signed_traffic_batch`, with the clock that is read
when `now` is not given. -/
structure SignedTrafficCall where
  payload : AgentTrafficEvidenceBatchCreate
  suppliedSignature : String
  hmacKeys : String → Option String
  signatureVersion : String
  (keyId nonce : Option String)
  sentAt : Option TimestampInput
  allowLegacySignatures : Bool
  maxClockSkewSeconds : Int
  now : Time

def textOr (value : Option String) (fallback : String) : String :=
  pyOr (value.getD "") fallback

def parseTimestamp (env : SigningEnvironment) (fieldName : String) :
    TimestampInput → Except ServiceError Time
  | .datetime (some time) => .ok time
  | .datetime none =>
    .error (.domainValidation (fieldName ++ " must include a timezone"))
  | .text value =>
    match env.parseTimestamp value with
    | .invalid => .error (.domainValidation (fieldName ++ " is invalid"))
    | .withoutTimezone =>
      .error (.domainValidation (fieldName ++ " must include a timezone"))
    | .instant time => .ok time

/-- `sent_at or payload.captured_at`. -/
def sentAtOr (sentAt : Option TimestampInput) (capturedAt : Time) :
    TimestampInput :=
  match sentAt with
  | none => .datetime (some capturedAt)
  | some (.text "") => .datetime (some capturedAt)
  | some given => given

def trafficSecret (hmacKeys : String → Option String)
    (sourceSystem keyId signatureVersion : String) :
    Except ServiceError String :=
  let secret := (hmacKeys (sourceSystem ++ ":" ++ keyId)).getD ""
  let chosen :=
    if signatureVersion = agentTrafficSignatureV1 ∨ keyId = "legacy" then
      pyOr secret ((hmacKeys sourceSystem).getD "")
    else secret
  if chosen = "" then
    .error (.domainValidation "traffic source key is not configured")
  else .ok chosen

def trafficBatchSignature (env : SigningEnvironment) (payload : AgentTrafficEvidenceBatchCreate)
    (secret signatureVersion keyId nonce : String) (sentAt : Time) :
    Except ServiceError String :=
  if signatureVersion = agentTrafficSignatureV2 then
    if keyId = "" ∨ nonce = "" then
      .error (.domainValidation
        "traffic signature v2 requires key_id, nonce, and sent_at")
    else
      .ok (env.hmac secret (env.canonicalEnvelope keyId nonce sentAt payload))
  else if signatureVersion = agentTrafficSignatureV1 then
    .ok (env.hmac secret (env.canonicalBatch payload))
  else
    .error (.domainValidation "traffic signature version is not supported")

def normalizedSignature (lower : String → String) (value : String) : Except ServiceError String :=
  let normalized := pyDropStart "sha256=" (lower (pyStrip value))
  if isHexDigest normalized then .ok normalized
  else
    .error (.domainValidation "traffic signature must be a SHA-256 hex digest")

def validateBatchProvenance (payload : AgentTrafficEvidenceBatchCreate) :
    Except ServiceError Unit :=
  payload.events.forM (fun event => do
    if event.provenance.sourceSystem ≠ payload.sourceSystem then
      throw (.domainValidation
        "traffic event source_system does not match its batch")
    if event.provenance.collectorVersion ≠ payload.collectorVersion then
      throw (.domainValidation
        "traffic event collector_version does not match its batch"))

structure VerifiedTrafficBatch where
  payload : AgentTrafficEvidenceBatchCreate
  (signatureVersion keyId nonce : String)
  sentAt : Time
  signatureHash : String
  maxClockSkewSeconds : Int
  observedAt : Time

def assertVersionTwoArguments (call : SignedTrafficCall) (keyId nonce : String) :
    Except ServiceError Unit := do
  if textOr call.keyId "" = "" ∨ keyId = "" then
    throw (.domainValidation "traffic key id is required for signature v2")
  if textOr call.nonce "" = "" ∨ nonce.length < 16 ∨ nonce.length > 160 then
    throw (.domainValidation "traffic nonce must contain 16 to 160 characters")
  if call.sentAt.isNone then
    throw (.domainValidation "traffic sent-at timestamp is required")

/-- `queue_signed_traffic_batch` up to its first query. -/
def verifySignedBatch (env : SigningEnvironment)
    (call : SignedTrafficCall) : Except ServiceError VerifiedTrafficBatch := do
  let version := env.lower (pyStrip call.signatureVersion)
  if version ≠ agentTrafficSignatureV1 ∧ version ≠ agentTrafficSignatureV2 then
    throw (.domainValidation "traffic signature version is not supported")
  if version = agentTrafficSignatureV1 ∧ !call.allowLegacySignatures then
    throw (.domainValidation "legacy traffic signatures are disabled")
  let keyId := pyStrip (textOr call.keyId "legacy")
  let nonce := pyStrip (textOr call.nonce ("legacy:" ++ call.payload.batchId))
  if version = agentTrafficSignatureV2 then
    assertVersionTwoArguments call keyId nonce
  let sentAt ← parseTimestamp env "traffic sent-at"
    (sentAtOr call.sentAt call.payload.capturedAt)
  let secret ← trafficSecret call.hmacKeys call.payload.sourceSystem keyId version
  let expected ← trafficBatchSignature env call.payload secret version keyId nonce sentAt
  let supplied ← normalizedSignature env.lower call.suppliedSignature
  if expected ≠ supplied then
    throw (.domainValidation "traffic batch signature verification failed")
  validateBatchProvenance call.payload
  return {
    payload := call.payload
    signatureVersion := version
    keyId := keyId
    nonce := nonce
    sentAt := sentAt
    signatureHash := env.sha256 supplied
    maxClockSkewSeconds := call.maxClockSkewSeconds
    observedAt := call.now }

structure AgentTrafficReceipt where
  (sourceSystem batchId nonce signatureVersion signatureHash keyId : String)
  collectorVersion : String
  (capturedAt sentAt receivedAt lastSeenAt : Time)
  replayCount : Nat
  jobId : Uuid

/-- The condition of `_matching_receipt`, which is also the conflict of the two
unique constraints on receipts. -/
def AgentTrafficReceipt.isMatch (receipt : AgentTrafficReceipt)
    (sourceSystem batchId nonce : String) : Bool :=
  receipt.sourceSystem = sourceSystem && (receipt.batchId = batchId || receipt.nonce = nonce)

structure ReceiptTable where
  rows : List AgentTrafficReceipt
  distinct : rows.Pairwise (fun left right =>
    left.isMatch right.sourceSystem right.batchId right.nonce = false)

namespace ReceiptTable

def empty : ReceiptTable where
  rows := []
  distinct := List.Pairwise.nil

/-- `_matching_receipt`. Where one receipt has the batch id and another the nonce, either makes
the replay raise, so their order does not matter. -/
def matching (table : ReceiptTable) (sourceSystem batchId nonce : String) :
    Option AgentTrafficReceipt :=
  table.rows.find? (fun receipt => receipt.isMatch sourceSystem batchId nonce)

def insert (table : ReceiptTable) (receipt : AgentTrafficReceipt)
    (unmatched : table.matching receipt.sourceSystem receipt.batchId
      receipt.nonce = none) : ReceiptTable where
  rows := table.rows ++ [receipt]
  distinct := by
    refine List.pairwise_append.mpr ⟨table.distinct, List.pairwise_singleton .., ?_⟩
    intro old oldMem new newMem
    rw [List.mem_singleton.mp newMem]
    simpa using List.find?_eq_none.mp unmatched old oldMem

/-- `existing.replay_count += 1` and `existing.last_seen_at = _utcnow()`. -/
def touch (clock : Time) (receipt : AgentTrafficReceipt) :
    AgentTrafficReceipt :=
  { receipt with replayCount := receipt.replayCount + 1, lastSeenAt := clock }

def recordReplay (table : ReceiptTable) (existing : AgentTrafficReceipt)
    (clock : Time) : ReceiptTable where
  rows := table.rows.map (fun receipt =>
    if receipt.sourceSystem = existing.sourceSystem ∧ receipt.batchId = existing.batchId then
      touch clock receipt
    else receipt)
  distinct := by
    rw [List.pairwise_map]
    refine table.distinct.imp ?_
    intro left right apart
    split <;> split <;> exact apart

end ReceiptTable

/-- The test of `_record_idempotent_replay`. -/
def AgentTrafficReceipt.agrees (receipt : AgentTrafficReceipt)
    (verified : VerifiedTrafficBatch) : Bool :=
  receipt.batchId = verified.payload.batchId && receipt.nonce = verified.nonce &&
    receipt.signatureHash = verified.signatureHash

def matchingReceipt (table : ReceiptTable) (verified : VerifiedTrafficBatch) :
    Option AgentTrafficReceipt :=
  table.matching verified.payload.sourceSystem verified.payload.batchId verified.nonce

def recordIdempotentReplay
    (store : JobStore (Option TrafficJobPayload) (Option TrafficImportOutcome))
    (table : ReceiptTable) (existing : AgentTrafficReceipt)
    (verified : VerifiedTrafficBatch) (clock : Time) :
    ReceiptTable × Except ServiceError TrafficJob :=
  if existing.agrees verified = false then
    (table, .error (.domainValidation
      "traffic replay identity conflicts with prior receipt"))
  else
    match store.job? existing.jobId with
    | none =>
      (table, .error (.domainValidation
        "traffic replay receipt references a missing job"))
    | some job =>
      (table.recordReplay existing clock, .ok job)

def outsideClockSkew (verified : VerifiedTrafficBatch) : Bool :=
  verified.signatureVersion = agentTrafficSignatureV2 &&
    decide (max 1 verified.maxClockSkewSeconds <
      |verified.observedAt - verified.sentAt|)

def machineIdentity (verified : VerifiedTrafficBatch) : SignerIdentity where
  subjectId := "traffic-collector:" ++ verified.payload.sourceSystem ++ ":" ++
    verified.keyId
  displayName := "Traffic collector " ++ verified.payload.sourceSystem
  role := some "ML Ops Lead"
  identityProvider := "traffic-hmac"
  authSource := "signed_traffic_batch"
  identityVerified := true
  ticketReference := some verified.payload.batchId

def jobPayload (verified : VerifiedTrafficBatch) : TrafficJobPayload where
  schemaVersion := agentTrafficBatchContractVersion
  signatureVersion := verified.signatureVersion
  signatureHash := verified.signatureHash
  keyId := verified.keyId
  nonce := verified.nonce
  sentAt := verified.sentAt
  batch := verified.payload
  collectorIdentity := some (machineIdentity verified)

/-- The dedupe key of `enqueue_traffic_evidence_job`. -/
def trafficDedupeKey (sourceSystem batchId : String) : String :=
  "traffic:" ++ sourceSystem ++ ":" ++ batchId

/-- What `enqueue_traffic_evidence_job` passes to `_enqueue_job`. -/
def trafficJobRequest (verified : VerifiedTrafficBatch) :
    EnqueueRequest (Option TrafficJobPayload) where
  jobType := .trafficEvidenceImport
  dedupeKey := trafficDedupeKey verified.payload.sourceSystem verified.payload.batchId
  payloadJson := some (jobPayload verified)
  signerIdentity := machineIdentity verified
  priority := 40
  benchmarkRunId := none
  benchmarkResultId := none
  checkpointRecordId := none
  maxAttempts := 2

def enqueueTrafficEvidenceJob
    (store : JobStore (Option TrafficJobPayload) (Option TrafficImportOutcome))
    (verified : VerifiedTrafficBatch) (clock : Time) :
    JobStore (Option TrafficJobPayload) (Option TrafficImportOutcome) ×
      Except ServiceError TrafficJob :=
  if (machineIdentity verified).identityVerified = false then
    (store, .error (.domainValidation
      "traffic evidence ingestion requires verified identity"))
  else enqueueJob store (trafficJobRequest verified) clock

def receiptOf (verified : VerifiedTrafficBatch) (jobId : Uuid) : AgentTrafficReceipt where
  sourceSystem := verified.payload.sourceSystem
  batchId := verified.payload.batchId
  nonce := verified.nonce
  signatureVersion := verified.signatureVersion
  signatureHash := verified.signatureHash
  keyId := verified.keyId
  collectorVersion := verified.payload.collectorVersion
  capturedAt := verified.payload.capturedAt
  sentAt := verified.sentAt
  receivedAt := verified.observedAt
  lastSeenAt := verified.observedAt
  replayCount := 0
  jobId := jobId

/-! ## Calls side by side -/

/-- What a call holds between two of its transactions.  `inserted` is the job
that its own enqueue inserted. -/
inductive CallPhase where
  | idle
  | checked (verified : VerifiedTrafficBatch)
  | enqueued (verified : VerifiedTrafficBatch) (jobId : Uuid)
      (inserted : Option Uuid)
  /-- A unique constraint refused the receipt. -/
  | conflicted (verified : VerifiedTrafficBatch) (inserted : Option Uuid)

inductive CallOutcome where
  | accepted (verified : VerifiedTrafficBatch) (jobId : Uuid)
  | raised (error : ServiceError) (inserted : Option Uuid)

structure IngestionEnvironment where
  jobs : JobEnvironment (Option TrafficJobPayload)
  signing : SigningEnvironment

structure IngestionState where
  queue : TrafficQueue
  receipts : ReceiptTable
  caller : Nat → CallPhase
  outcomes : List CallOutcome

inductive IngestionAction where
  | queue (action : TrafficQueueAction)
  | receive (caller : Nat) (call : SignedTrafficCall) (clock : Time)
  | enqueue (caller : Nat) (clock : Time)
  | commitReceipt (caller : Nat)
  | rematch (caller : Nat) (clock : Time)
  | crash (caller : Nat)

namespace IngestionState

def initial : IngestionState where
  queue := .initial
  receipts := .empty
  caller _ := .idle
  outcomes := []

def setCaller (state : IngestionState) (caller : Nat) (phase : CallPhase) :
    IngestionState :=
  { state with caller := Function.update state.caller caller phase }

def finish (state : IngestionState) (caller : Nat) (outcome : CallOutcome) :
    IngestionState :=
  { state.setCaller caller .idle with outcomes := outcome :: state.outcomes }

def replay (state : IngestionState) (caller : Nat) (verified : VerifiedTrafficBatch)
    (existing : AgentTrafficReceipt) (inserted : Option Uuid) (clock : Time) : IngestionState :=
  let replayed := recordIdempotentReplay state.queue.store state.receipts existing verified clock
  match replayed.2 with
  | .error raised => state.finish caller (.raised raised inserted)
  | .ok job =>
    { state.finish caller (.accepted verified job.id) with receipts := replayed.1 }

def receive (env : IngestionEnvironment) (state : IngestionState)
    (caller : Nat) (call : SignedTrafficCall) (clock : Time) :
    IngestionState :=
  match verifySignedBatch env.signing call with
  | .error raised => state.finish caller (.raised raised none)
  | .ok verified =>
    match matchingReceipt state.receipts verified with
    | some existing => state.replay caller verified existing none clock
    | none =>
      if outsideClockSkew verified then
        state.finish caller (.raised (.domainValidation
          "traffic sent-at timestamp is outside the allowed skew") none)
      else state.setCaller caller (.checked verified)

def enqueue (state : IngestionState) (caller : Nat)
    (verified : VerifiedTrafficBatch) (clock : Time) : IngestionState :=
  let enqueued := enqueueTrafficEvidenceJob state.queue.store verified clock
  match enqueued.2 with
  | .error raised => state.finish caller (.raised raised none)
  | .ok job =>
    let inserted :=
      match state.queue.store.byDedupeKey? (trafficJobRequest verified).dedupeKey with
      | some _ => none
      | none => some job.id
    { state.setCaller caller (.enqueued verified job.id inserted) with
      queue := state.queue.withStore enqueued.1 }

def commitReceipt (state : IngestionState) (caller : Nat) (verified : VerifiedTrafficBatch)
    (jobId : Uuid) (inserted : Option Uuid) : IngestionState :=
  match unmatched : matchingReceipt state.receipts verified with
  | some _ => state.setCaller caller (.conflicted verified inserted)
  | none =>
    { state.finish caller (.accepted verified jobId) with
      receipts := state.receipts.insert (receiptOf verified jobId) unmatched }

/-- The transaction that follows a refused receipt. -/
def rematch (state : IngestionState) (caller : Nat)
    (verified : VerifiedTrafficBatch) (inserted : Option Uuid) (clock : Time) :
    IngestionState :=
  match matchingReceipt state.receipts verified with
  | none =>
    state.finish caller (.raised
      (.integrity "uq_agent_traffic_receipts_source_batch") inserted)
  | some existing => state.replay caller verified existing inserted clock

def next (env : IngestionEnvironment) (state : IngestionState) :
    IngestionAction → Option IngestionState
  | .queue action =>
    (state.queue.next env.jobs action).map (fun queue => { state with queue := queue })
  | .receive caller call clock =>
    match state.caller caller with
    | .idle => some (state.receive env caller call clock)
    | _ => none
  | .enqueue caller clock =>
    match state.caller caller with
    | .checked verified => some (state.enqueue caller verified clock)
    | _ => none
  | .commitReceipt caller =>
    match state.caller caller with
    | .enqueued verified jobId inserted =>
      some (state.commitReceipt caller verified jobId inserted)
    | _ => none
  | .rematch caller clock =>
    match state.caller caller with
    | .conflicted verified inserted =>
      some (state.rematch caller verified inserted clock)
    | _ => none
  | .crash caller => some (state.setCaller caller .idle)

abbrev Step (env : IngestionEnvironment) :
    IngestionState → IngestionAction → IngestionState → Prop :=
  stepsOf (next env)

end IngestionState

end ModelAtlas.Traffic
