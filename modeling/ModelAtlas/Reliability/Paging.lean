import ModelAtlas.Jobs.Workers
import ModelAtlas.Reliability.Incidents

/-!
# Sending a page

`services/operational_reliability/paging.py`: one execution of a delivery. What
the settings, the files, the HTTP client and the standard library answer is a
parameter, and each may raise anything. Instants of a receipt are microseconds.
-/

namespace ModelAtlas.Reliability

open Foundations Approval Jobs

/-- A value, an error that the caller catches, or any other exception. -/
inductive Reading (Value : Type) where
  | value (value : Value)
  | invalid (message : String)
  | raises (message : String)
  deriving Repr

namespace Reading

variable {Value Image : Type}

def bind (reading : Reading Value) (next : Value → Reading Image) : Reading Image :=
  match reading with
  | value found => next found
  | invalid message => invalid message
  | raises message => raises message

/-- `if not holds: raise ValueError(message)`. -/
def require (holds : Bool) (message : String) : Reading Unit :=
  if holds then value () else invalid message

end Reading

structure PagingSettings where
  pagingEnabled : Bool
  (validatedEndpoint pagingProvider : Reading String)
  (signingSecret tlsVerification : String → Reading String)
  requireReceipt : Bool
  receiptMaxAgeSeconds : Int

/-- What the sender takes from outside: the SHA-256 of a body, the HMAC of a payload at a
timestamp, and the parsers of the library. -/
structure PagingEnvironment where
  sha256 : List UInt8 → String
  sign : String → Time → OperationalAlertDelivery → String
  uuidText : Uuid → String
  jsonLoads : List UInt8 → Reading Json
  fromTimestamp : Int → Reading Time
  fromIsoFormat : String → Reading Time

structure PagingRequest where
  (endpoint tlsVerify : String)
  deliveryId : Uuid
  timestamp : Time
  (keyId signature : String)
  deriving DecidableEq, Repr

inductive Exchange where
  | response (status : Int) (body : List UInt8)
  /-- The body exceeds the configured size. -/
  | oversized (status : Int)
  /-- `httpx.HTTPError` or `OSError`, after this status if one was read. -/
  | unreachable (status : Option Int)
  | raises (message : String)
  deriving Repr

structure PagingProviderReceipt where
  (provider eventId receiptId : String)
  acceptedAt : Time
  deriving DecidableEq, Repr

def providerIdentifier (value : Option Json) (label : String) : Reading String :=
  match value with
  | some (.str text) =>
    let normalized := pyStrip text
    if normalized = "" || 200 < normalized.length ||
        normalized.toList.any (fun character =>
          character.toNat < 33 || 126 < character.toNat) then
      .invalid (label ++ " is invalid")
    else .value normalized
  | _ => .invalid (label ++ " is missing")

def providerAcceptedAt (env : PagingEnvironment) (value : Option Json) : Reading Time :=
  match value with
  | some (.int seconds) => env.fromTimestamp seconds
  | some (.bool flag) => env.fromTimestamp (if flag then 1 else 0)
  | some (.str text) => env.fromIsoFormat text
  | _ => .invalid "provider acceptance time is missing"

/-- The receipt of a response, or the `ValueError` that refuses it. -/
def readProviderReceipt (env : PagingEnvironment) (settings : PagingSettings) (body : List UInt8)
    (deliveryId : Uuid) (expectedProvider : String) (observedAt : Time) :
    Reading PagingProviderReceipt :=
  (env.jsonLoads body).bind fun payload =>
  (Reading.require (match payload with | .obj _ => true | _ => false)
    "response is not a JSON object").bind fun _ =>
  (Reading.require
    (match payload.get? "schema_version" with
      | some (.str version) =>
        version = "model-atlas-paging-provider-receipt-v1"
      | _ => false)
    "provider receipt schema is unsupported").bind fun _ =>
  (Reading.require
    (match payload.get? "accepted" with | some (.bool true) => true | _ => false)
    "provider did not confirm acceptance").bind fun _ =>
  (providerIdentifier (payload.get? "provider") "provider").bind fun provider =>
  (providerIdentifier (payload.get? "provider_event_id")
    "provider event ID").bind fun eventId =>
  (providerIdentifier (payload.get? "receipt_id")
    "provider receipt ID").bind fun receiptId =>
  (Reading.require (provider = expectedProvider)
    "provider identity does not match configuration").bind fun _ =>
  (Reading.require (eventId = env.uuidText deliveryId)
    "provider event ID does not match the delivery").bind fun _ =>
  (providerAcceptedAt env (payload.get? "accepted_at")).bind
    fun acceptedAt =>
  let age := observedAt * 1000000 - acceptedAt
  (Reading.require (age ≤ settings.receiptMaxAgeSeconds * 1000000)
    "provider receipt is stale").bind fun _ =>
  (Reading.require (-300 * 1000000 ≤ age)
    "provider receipt acceptance time is in the future").bind fun _ =>
  .value ⟨provider, eventId, receiptId, acceptedAt⟩

/-- `_parse_provider_receipt`: without a required receipt, one that is refused
is ignored. -/
def parseProviderReceipt (env : PagingEnvironment) (settings : PagingSettings) (body : List UInt8)
    (deliveryId : Uuid) (expectedProvider : String) (observedAt : Time) :
    Reading (Option PagingProviderReceipt) :=
  match readProviderReceipt env settings body deliveryId expectedProvider observedAt with
  | .value receipt => .value (some receipt)
  | .invalid _ =>
    if settings.requireReceipt then
      .invalid "operational paging provider receipt is invalid"
    else .value none
  | .raises message => .raises message

inductive Prepared where
  | ready (provider endpoint secret tlsVerify : String)
  | permanent (message : String)
  | retryable (message : String)
  | raises (message : String)
  deriving Repr

/-- `delivery.provider_name or _paging_provider(…)`. -/
def expectedProvider (settings : PagingSettings)
    (delivery : OperationalAlertDelivery) : Reading String :=
  match delivery.providerName.filter (fun name => name ≠ "") with
  | some name => .value name
  | none => settings.pagingProvider

def projectionUnavailable : String :=
  "operational paging credential or CA projection is unavailable"

/-- The settings of a delivery; a missing credential or CA may come back, everything else that
is invalid stays so. -/
def prepareDelivery (settings : PagingSettings) (delivery : OperationalAlertDelivery) : Prepared :=
  if !settings.pagingEnabled then
    .permanent "operational paging delivery is disabled"
  else
    match settings.validatedEndpoint with
    | .invalid message => .permanent message
    | .raises message => .raises message
    | .value endpoint =>
      match expectedProvider settings delivery with
      | .invalid message => .permanent message
      | .raises message => .raises message
      | .value provider =>
        match settings.signingSecret delivery.signingKeyId with
        | .invalid _ => .retryable projectionUnavailable
        | .raises message => .raises message
        | .value secret =>
          match settings.tlsVerification endpoint with
          | .invalid _ => .retryable projectionUnavailable
          | .raises message => .raises message
          | .value tlsVerify => .ready provider endpoint secret tlsVerify

/-- `400 <= status < 500 and status not in {408, 429}`. -/
def clientError (status : Int) : Bool :=
  400 ≤ status && status < 500 && status ≠ 408 && status ≠ 429

/-- `200 <= status < 300`. -/
def accepted (status : Int) : Bool :=
  200 ≤ status && status < 300

structure JobAttempt where
  (attemptNumber maxAttempts : Int)

/-- `attempt_number >= max_attempts`. -/
def JobAttempt.isLast (attempt : JobAttempt) : Bool :=
  attempt.maxAttempts ≤ attempt.attemptNumber

def recordDeliveryFailure (env : PagingEnvironment) (delivery : OperationalAlertDelivery)
    (attempt : JobAttempt) (message : String) (observedAt : Time) (responseStatus : Option Int)
    (responseBody : List UInt8) (permanent : Bool) :
    OperationalAlertDelivery :=
  { delivery with
    status := if permanent || attempt.isLast then .failed else .queued
    lastAttemptAt := some observedAt
    attemptCount := delivery.attemptCount + 1
    responseStatus := responseStatus
    responseHash := if responseBody.isEmpty then none
      else some (env.sha256 responseBody)
    errorMessage := some (pyClip 4000 message) }

def deliveredRow (env : PagingEnvironment) (delivery : OperationalAlertDelivery) (provider : String)
    (status : Int) (body : List UInt8) (receipt : Option PagingProviderReceipt) (observedAt : Time)
    : OperationalAlertDelivery :=
  let delivered : OperationalAlertDelivery :=
    { delivery with
      status := .delivered
      lastAttemptAt := some observedAt
      attemptCount := delivery.attemptCount + 1
      responseStatus := some status
      responseHash := some (env.sha256 body)
      providerName := some provider
      errorMessage := none
      deliveredAt := some observedAt }
  match receipt with
  | none => delivered
  | some receipt =>
    { delivered with
      providerName := some receipt.provider
      providerEventId := some receipt.eventId
      providerReceiptId := some receipt.receiptId
      providerAcceptedAt := some receipt.acceptedAt }

/-- What one execution leaves: the row, what it returns or raises, and the
request that it sent. -/
structure DeliveryAttempt (Result : Type) where
  delivery : OperationalAlertDelivery
  outcome : Except ServiceError Result
  sent : Option PagingRequest

def pagingRequest (env : PagingEnvironment) (delivery : OperationalAlertDelivery)
    (observedAt : Time) (endpoint secret tlsVerify : String) : PagingRequest where
  endpoint := endpoint
  tlsVerify := tlsVerify
  deliveryId := delivery.id
  timestamp := observedAt
  keyId := delivery.signingKeyId
  signature := env.sign secret observedAt delivery

def settleExchange {Result : Type} (env : PagingEnvironment) (settings : PagingSettings)
    (res : OperationalAlertDelivery → Bool → Result) (delivery : OperationalAlertDelivery)
    (attempt : JobAttempt) (observedAt : Time) (provider : String) (exchange : Exchange) :
    OperationalAlertDelivery × Except ServiceError Result :=
  let failure := recordDeliveryFailure env delivery attempt
  match exchange with
  | .raises message => (delivery, .error (.unexpected message))
  | .oversized status =>
    let message :=
      "operational paging response exceeds the configured size limit"
    (failure message observedAt (some status) [] true, .error (.domainValidation message))
  | .unreachable status =>
    let message := "operational paging destination could not be reached"
    (failure message observedAt status [] (status.any clientError), .error (.unexpected message))
  | .response status body =>
    if !accepted status then
      let message := "operational paging destination returned HTTP " ++
        toString status
      (failure message observedAt (some status) body false,
        .error (if clientError status then .domainValidation message
          else .unexpected message))
    else
      match parseProviderReceipt env settings body delivery.id provider observedAt with
      | .raises message => (delivery, .error (.unexpected message))
      | .invalid message =>
        (failure message observedAt (some status) body false, .error (.unexpected message))
      | .value receipt =>
        let row := deliveredRow env delivery provider status body receipt observedAt
        (row, .ok (res row false))

def executeOperationalAlertDelivery {Result : Type} (env : PagingEnvironment)
    (settings : PagingSettings) (res : OperationalAlertDelivery → Bool → Result)
    (transport : PagingRequest → Exchange) (delivery : OperationalAlertDelivery)
    (attempt : JobAttempt) (observedAt : Time) : DeliveryAttempt Result :=
  if delivery.status = .delivered then
    ⟨delivery, .ok (res delivery true), none⟩
  else
    match prepareDelivery settings delivery with
    | .raises message => ⟨delivery, .error (.unexpected message), none⟩
    | .permanent message =>
      ⟨recordDeliveryFailure env delivery attempt message observedAt
        none [] true, .error (.domainValidation message), none⟩
    | .retryable message =>
      ⟨recordDeliveryFailure env delivery attempt message observedAt
        none [] false, .error (.unexpected message), none⟩
    | .ready provider endpoint secret tlsVerify =>
      let req := pagingRequest env delivery observedAt endpoint secret tlsVerify
      let settled := settleExchange env settings res delivery
        attempt observedAt provider (transport req)
      ⟨settled.1, settled.2, some req⟩

section JobRow

variable {Payload Result : Type} {jobEnvironment : JobEnvironment Payload}
  {job : AgentExecutionJob Payload Result} {now : Time}

def attemptOf (job : AgentExecutionJob Payload Result) : JobAttempt :=
  ⟨job.attemptCount, job.maxAttempts⟩

def endedJob (jobEnvironment : JobEnvironment Payload) (outcome : Except ServiceError Result)
    (now : Time) (job : AgentExecutionJob Payload Result) :
    AgentExecutionJob Payload Result :=
  (endChange jobEnvironment outcome now).apply job

theorem endedJob_ok (res : Result) :
    (endedJob jobEnvironment (.ok res) now job).status = .completed :=
  rfl

theorem endedJob_domain (message : String) :
    (endedJob jobEnvironment (.error (.domainValidation message)) now job).status = .failed := by
  simp [endedJob, endChange, failJob, ServiceError.isDomainValidation, markDeadLetter]

theorem endedJob_unexpected (message : String) :
    (endedJob jobEnvironment (.error (.unexpected message)) now job).status =
      if (attemptOf job).isLast then .failed else .queued := by
  by_cases last : job.maxAttempts ≤ job.attemptCount
  · simp [endedJob, endChange, failJob, ServiceError.isDomainValidation,
      markDeadLetter, attemptOf, JobAttempt.isLast, last]
  · simp [endedJob, endChange, failJob, ServiceError.isDomainValidation,
      attemptOf, JobAttempt.isLast, last]

end JobRow

/-! ## Delivery and job agree -/

def jobStatusOf : DeliveryStatus → JobStatus
  | .delivered => .completed
  | .failed => .failed
  | .queued => .queued

theorem jobStatusOf_injective : Function.Injective jobStatusOf := by
  intro left right same
  cases left <;> cases right <;> first | rfl | cases same

def StatusesAgree (job : JobStatus) (delivery : DeliveryStatus) : Prop :=
  (job = .completed ↔ delivery = .delivered) ∧
    (job = .failed ↔ delivery = .failed) ∧ (job = .queued ↔ delivery = .queued)

theorem statusesAgree_iff {job : JobStatus} {delivery : DeliveryStatus} :
    StatusesAgree job delivery ↔ job = jobStatusOf delivery := by
  constructor
  · rintro ⟨completed, failed, queued⟩
    cases delivery with
    | queued => exact queued.mpr rfl
    | delivered => exact completed.mpr rfl
    | failed => exact failed.mpr rfl
  · rintro rfl
    refine ⟨⟨fun same => jobStatusOf_injective same, fun same => same ▸ rfl⟩,
      ⟨fun same => jobStatusOf_injective same, fun same => same ▸ rfl⟩,
      ⟨fun same => jobStatusOf_injective same, fun same => same ▸ rfl⟩⟩

def retriedStatus (attempt : JobAttempt) : DeliveryStatus :=
  if attempt.isLast then .failed else .queued

/-- What an exchange has to lead to, where it is one of the listed failures. -/
def requiredStatus (env : PagingEnvironment)
    (settings : PagingSettings) (delivery : OperationalAlertDelivery)
    (attempt : JobAttempt) (observedAt : Time) (provider : String) :
    Exchange → Option DeliveryStatus
  | .unreachable none => some (retriedStatus attempt)
  | .unreachable (some status) =>
    if clientError status then none else some (retriedStatus attempt)
  | .oversized _ => some .failed
  | .raises _ => none
  | .response status body =>
    if clientError status then some .failed
    else if 500 ≤ status || status = 408 || status = 429 then
      some (retriedStatus attempt)
    else if accepted status then
      match parseProviderReceipt env settings body delivery.id provider observedAt with
      | .value _ => some .delivered
      | .invalid _ => some (retriedStatus attempt)
      | .raises _ => none
    else none

section Agreement

variable {Payload Result : Type}

/-- What has to hold after the runner has executed a delivery once. -/
structure RowsAgree (env : PagingEnvironment)
    (settings : PagingSettings) (jobEnvironment : JobEnvironment Payload)
    (res : OperationalAlertDelivery → Bool → Result)
    (transport : PagingRequest → Exchange)
    (delivery : OperationalAlertDelivery)
    (job : AgentExecutionJob Payload Result) (observedAt now : Time) :
    Prop where
  agree : StatusesAgree
    (endedJob jobEnvironment (executeOperationalAlertDelivery env
      settings res transport delivery (attemptOf job) observedAt).outcome
        now job).status
    (executeOperationalAlertDelivery env settings res transport
      delivery (attemptOf job) observedAt).delivery.status
  once : delivery.status = .delivered →
    (executeOperationalAlertDelivery env settings res transport
        delivery (attemptOf job) observedAt).sent = none ∧
      (executeOperationalAlertDelivery env settings res transport
        delivery (attemptOf job) observedAt).delivery = delivery
  /-- An invalid configuration is terminal. -/
  configuration : delivery.status ≠ .delivered → ∀ message,
    prepareDelivery settings delivery = .permanent message →
      (executeOperationalAlertDelivery env settings res transport
        delivery (attemptOf job) observedAt).delivery.status = .failed
  /-- A listed failure of the exchange is retried or terminal. -/
  exchange : delivery.status ≠ .delivered →
    ∀ provider endpoint secret tlsVerify status,
      prepareDelivery settings delivery =
          .ready provider endpoint secret tlsVerify →
        requiredStatus env settings delivery (attemptOf job) observedAt
            provider (transport (pagingRequest env delivery observedAt
              endpoint secret tlsVerify)) = some status →
          (executeOperationalAlertDelivery env settings res
            transport delivery (attemptOf job) observedAt).delivery.status =
              status ∧
            (endedJob jobEnvironment (executeOperationalAlertDelivery
              env settings res transport delivery (attemptOf job)
              observedAt).outcome now job).status = jobStatusOf status

/-- An exception that is not listed leaves the delivery as it was, so it has
to be as the job becomes. -/
def StaysAgreed (delivery : OperationalAlertDelivery) (attempt : JobAttempt) : Prop :=
  delivery.status = retriedStatus attempt

def ExchangeListed (env : PagingEnvironment)
    (settings : PagingSettings) (delivery : OperationalAlertDelivery)
    (attempt : JobAttempt) (observedAt : Time) (provider : String) :
    Exchange → Prop
  | .raises _ => StaysAgreed delivery attempt
  | .oversized _ => True
  | .unreachable status =>
    status.any clientError = true → attempt.isLast = true
  | .response status body =>
    if accepted status then
      match parseProviderReceipt env settings body delivery.id provider observedAt with
      | .raises _ => StaysAgreed delivery attempt
      | .value _ | .invalid _ => True
    else clientError status = true → attempt.isLast = true

/-- No unlisted exception, unless the delivery is as the job becomes, and no client error before
the last attempt. -/
def MeetsOnlyListed (env : PagingEnvironment) (settings : PagingSettings)
    (transport : PagingRequest → Exchange) (delivery : OperationalAlertDelivery)
    (attempt : JobAttempt) (observedAt : Time) : Prop :=
  delivery.status = .delivered ∨
    match prepareDelivery settings delivery with
    | .permanent _ | .retryable _ => True
    | .raises _ => StaysAgreed delivery attempt
    | .ready provider endpoint secret tlsVerify =>
      ExchangeListed env settings delivery attempt observedAt provider
        (transport (pagingRequest env delivery observedAt endpoint secret tlsVerify))

variable {env : PagingEnvironment} {settings : PagingSettings}
  {jobEnvironment : JobEnvironment Payload}
  {res : OperationalAlertDelivery → Bool → Result}
  {delivery : OperationalAlertDelivery}
  {job : AgentExecutionJob Payload Result} {observedAt now : Time}

theorem recordDeliveryFailure_permanent {attempt : JobAttempt}
    {message : String} {status : Option Int} {body : List UInt8} :
    (recordDeliveryFailure env delivery attempt message observedAt
      status body true).status = .failed :=
  rfl

theorem recordDeliveryFailure_retried {attempt : JobAttempt}
    {message : String} {status : Option Int} {body : List UInt8} :
    (recordDeliveryFailure env delivery attempt message observedAt
      status body false).status = retriedStatus attempt := by
  simp [recordDeliveryFailure, retriedStatus]

theorem endedJob_retried (message : String) :
    (endedJob jobEnvironment (.error (.unexpected message)) now job).status =
      jobStatusOf (retriedStatus (attemptOf job)) := by
  rw [endedJob_unexpected, retriedStatus]
  split
  · rfl
  · rfl

theorem retriedStatus_eq_failed {attempt : JobAttempt} :
    retriedStatus attempt = .failed ↔ attempt.isLast = true := by
  rw [retriedStatus]
  split
  · next last => exact ⟨fun _ => last, fun _ => rfl⟩
  · next notLast =>
      exact ⟨fun same => (by cases same), fun last => absurd last notLast⟩

theorem settleExchange_agree {provider : String} {exchange : Exchange} :
    (endedJob jobEnvironment (settleExchange env settings res
        delivery (attemptOf job) observedAt provider exchange).2 now job).status =
      jobStatusOf (settleExchange env settings res delivery
        (attemptOf job) observedAt provider exchange).1.status ↔
      ExchangeListed env settings delivery (attemptOf job) observedAt provider exchange := by
  cases exchange with
  | raises message =>
    simp only [settleExchange, ExchangeListed, StaysAgreed, endedJob_retried]
    exact ⟨fun same => (jobStatusOf_injective same).symm, fun same => same ▸ rfl⟩
  | oversized status =>
    simp only [settleExchange, ExchangeListed, endedJob_domain,
      recordDeliveryFailure_permanent, jobStatusOf]
  | unreachable status =>
    simp only [settleExchange, ExchangeListed, endedJob_retried]
    cases client : status.any clientError with
    | true =>
      rw [recordDeliveryFailure_permanent]
      exact ⟨fun same _ =>
        retriedStatus_eq_failed.mp (jobStatusOf_injective same),
        fun last => by rw [retriedStatus_eq_failed.mpr (last rfl)]⟩
    | false =>
      rw [recordDeliveryFailure_retried]
      simp
  | response status body =>
    by_cases isAccepted : accepted status = true
    · simp only [settleExchange, ExchangeListed, isAccepted, Bool.not_true, if_true]
      cases parsed : parseProviderReceipt env settings body delivery.id provider observedAt with
      | value receipt =>
        cases receipt with
        | none => simp [endedJob_ok, deliveredRow, jobStatusOf]
        | some receipt => simp [endedJob_ok, deliveredRow, jobStatusOf]
      | invalid message =>
        simp [endedJob_retried, recordDeliveryFailure_retried]
      | raises message =>
        simp only [StaysAgreed]
        exact ⟨fun same => (jobStatusOf_injective
          ((endedJob_retried message).symm.trans same)).symm,
          fun same => (endedJob_retried message).trans (same ▸ rfl)⟩
    · rw [Bool.not_eq_true] at isAccepted
      simp only [settleExchange, ExchangeListed, isAccepted, Bool.not_false,
        Bool.false_eq_true, if_true, if_false, recordDeliveryFailure_retried]
      cases client : clientError status with
      | true =>
        simp only [if_true, endedJob_domain, forall_const]
        constructor
        · intro same
          exact retriedStatus_eq_failed.mp (jobStatusOf_injective same.symm)
        · intro last
          rw [retriedStatus_eq_failed.mpr last]
          rfl
      | false =>
        simp [endedJob_retried]

theorem settleExchange_required {provider : String} {exchange : Exchange} {status : DeliveryStatus}
    (listed : ExchangeListed env settings delivery (attemptOf job) observedAt provider exchange)
    (required : requiredStatus env settings delivery (attemptOf job)
      observedAt provider exchange = some status) :
    (settleExchange env settings res delivery (attemptOf job)
      observedAt provider exchange).1.status = status := by
  cases exchange with
  | raises message =>
    cases required
  | oversized code =>
    exact Option.some.inj required
  | unreachable code =>
    cases code with
    | none =>
      rw [← Option.some.inj required]
      exact recordDeliveryFailure_retried
    | some code =>
      rw [requiredStatus] at required
      split at required
      · cases required
      · next notClient =>
          rw [← Option.some.inj required]
          rw [Bool.not_eq_true] at notClient
          simp only [settleExchange, Option.any_some, notClient]
          exact recordDeliveryFailure_retried
  | response code body =>
    rw [requiredStatus] at required
    by_cases client : clientError code = true
    · rw [if_pos client] at required
      have notAccepted : accepted code = false := by
        simp only [clientError, accepted, Bool.and_eq_true,
          decide_eq_true_eq, Bool.and_eq_false_iff,
          decide_eq_false_iff_not] at client ⊢
        omega
      simp only [ExchangeListed, notAccepted, Bool.false_eq_true, if_false] at listed
      simp only [settleExchange, notAccepted, Bool.not_false, if_true,
        recordDeliveryFailure_retried]
      rw [← Option.some.inj required]
      exact retriedStatus_eq_failed.mpr (listed client)
    · rw [if_neg client] at required
      by_cases isAccepted : accepted code = true
      · have inside : (500 ≤ code || code = 408 || code = 429) = false := by
          simp only [accepted, Bool.and_eq_true, decide_eq_true_eq] at isAccepted
          simp only [Bool.or_eq_false_iff, decide_eq_false_iff_not]
          omega
        simp only [inside, isAccepted, Bool.false_eq_true, if_false, if_true] at required
        simp only [settleExchange, isAccepted, Bool.not_true, Bool.false_eq_true, if_false]
        split at required
        · next receipt parsed =>
            rw [parsed, ← Option.some.inj required]
            cases receipt with
            | none => rfl
            | some receipt => rfl
        · next message parsed =>
            rw [parsed, ← Option.some.inj required]
            exact recordDeliveryFailure_retried
        · cases required
      · rw [Bool.not_eq_true] at isAccepted
        simp only [settleExchange, isAccepted, Bool.not_false, if_true,
          recordDeliveryFailure_retried]
        split at required
        · exact Option.some.inj required
        · simp only [isAccepted, Bool.false_eq_true, if_false] at required
          cases required

/-- Both rows are as they have to be exactly where no unlisted exception and no early client
error occurs, unless they agree even so. -/
theorem rowsAgree_iff (env : PagingEnvironment) (settings : PagingSettings)
    (jobEnvironment : JobEnvironment Payload) (res : OperationalAlertDelivery → Bool → Result)
    (transport : PagingRequest → Exchange) (delivery : OperationalAlertDelivery)
    (job : AgentExecutionJob Payload Result) (observedAt now : Time) :
    RowsAgree env settings jobEnvironment res transport delivery job observedAt now ↔
      MeetsOnlyListed env settings transport delivery (attemptOf job)
        observedAt := by
  by_cases delivered : delivery.status = .delivered
  · have executed : executeOperationalAlertDelivery env settings res
        transport delivery (attemptOf job) observedAt =
          ⟨delivery, .ok (res delivery true), none⟩ := by
      rw [executeOperationalAlertDelivery, if_pos delivered]
    refine ⟨fun _ => Or.inl delivered, fun _ => ⟨?_, ?_, ?_, ?_⟩⟩
    · rw [executed, statusesAgree_iff, endedJob_ok, delivered]
      rfl
    · intro _
      rw [executed]
      exact ⟨rfl, rfl⟩
    · exact fun sent => absurd delivered sent
    · exact fun sent => absurd delivered sent
  · cases prepared : prepareDelivery settings delivery with
    | permanent message =>
      have executed : executeOperationalAlertDelivery env settings
          res transport delivery (attemptOf job) observedAt =
            ⟨recordDeliveryFailure env delivery (attemptOf job) message observedAt none [] true,
              .error (.domainValidation message), none⟩ := by
        rw [executeOperationalAlertDelivery, if_neg delivered, prepared]
      refine ⟨fun _ => Or.inr ?_, fun _ => ⟨?_, ?_, ?_, ?_⟩⟩
      · rw [prepared]
        trivial
      · rw [executed, statusesAgree_iff, endedJob_domain]
        rfl
      · exact fun sent => absurd sent delivered
      · intro _ _ _
        rw [executed]
        rfl
      · intro _ provider endpoint secret tlsVerify status ready
        rw [prepared] at ready
        cases ready
    | retryable message =>
      have executed : executeOperationalAlertDelivery env settings
          res transport delivery (attemptOf job) observedAt =
            ⟨recordDeliveryFailure env delivery (attemptOf job) message observedAt none [] false,
              .error (.unexpected message), none⟩ := by
        rw [executeOperationalAlertDelivery, if_neg delivered, prepared]
      refine ⟨fun _ => Or.inr ?_, fun _ => ⟨?_, ?_, ?_, ?_⟩⟩
      · rw [prepared]
        trivial
      · rw [executed, statusesAgree_iff, endedJob_retried, recordDeliveryFailure_retried]
      · exact fun sent => absurd sent delivered
      · intro _ _ permanent
        rw [prepared] at permanent
        cases permanent
      · intro _ provider endpoint secret tlsVerify status ready
        rw [prepared] at ready
        cases ready
    | raises message =>
      have executed : executeOperationalAlertDelivery env settings
          res transport delivery (attemptOf job) observedAt =
            ⟨delivery, .error (.unexpected message), none⟩ := by
        rw [executeOperationalAlertDelivery, if_neg delivered, prepared]
      constructor
      · intro rows
        have agree := rows.agree
        rw [executed, statusesAgree_iff, endedJob_retried] at agree
        refine Or.inr ?_
        rw [prepared]
        exact (jobStatusOf_injective agree).symm
      · rintro (sent | stays)
        · exact absurd sent delivered
        · rw [prepared] at stays
          refine ⟨?_, ?_, ?_, ?_⟩
          · rw [executed, statusesAgree_iff, endedJob_retried, stays]
          · exact fun sent => absurd sent delivered
          · intro _ _ permanent
            rw [prepared] at permanent
            cases permanent
          · intro _ provider endpoint secret tlsVerify status ready
            rw [prepared] at ready
            cases ready
    | ready provider endpoint secret tlsVerify =>
      let req := pagingRequest env delivery observedAt endpoint secret tlsVerify
      let settled := settleExchange env settings res delivery
        (attemptOf job) observedAt provider (transport req)
      have executed : executeOperationalAlertDelivery env settings
          res transport delivery (attemptOf job) observedAt = ⟨settled.1, settled.2, some req⟩ := by
        rw [executeOperationalAlertDelivery, if_neg delivered, prepared]
      constructor
      · intro rows
        have agree := rows.agree
        rw [executed, statusesAgree_iff] at agree
        refine Or.inr ?_
        rw [prepared]
        exact settleExchange_agree.mp agree
      · rintro (sent | listed)
        · exact absurd sent delivered
        · rw [prepared] at listed
          refine ⟨?_, ?_, ?_, ?_⟩
          · rw [executed, statusesAgree_iff]
            exact settleExchange_agree.mpr listed
          · exact fun sent => absurd sent delivered
          · intro _ _ permanent
            rw [prepared] at permanent
            cases permanent
          · intro _ other otherEndpoint otherSecret otherTls status ready required
            rw [prepared] at ready
            obtain ⟨rfl, rfl, rfl, rfl⟩ := Prepared.ready.inj ready
            have isStatus : settled.1.status = status :=
              settleExchange_required listed required
            rw [executed]
            refine ⟨isStatus, ?_⟩
            rw [← isStatus]
            exact settleExchange_agree.mpr listed

def plainPaging : PagingEnvironment where
  sha256 _ := ""
  sign _ _ _ := ""
  uuidText _ := ""
  jsonLoads _ := .invalid "not a JSON text"
  fromTimestamp _ := .invalid "out of range"
  fromIsoFormat _ := .invalid "not a time"

def pagingTo (endpoint : String) : PagingSettings where
  pagingEnabled := true
  validatedEndpoint := .value endpoint
  pagingProvider := .value "provider"
  signingSecret _ := .value "secret"
  tlsVerification _ := .value "verify"
  requireReceipt := false
  receiptMaxAgeSeconds := 300

def newDelivery : OperationalAlertDelivery :=
  queuedDelivery .empty (testIncident .empty
    ⟨controllerIdentity, .warning, "test", 0⟩) .test "key" "provider" 0

def firstAttempt : AgentExecutionJob Unit Unit :=
  { newJob 0 ⟨.operationalAlertDelivery, "key", (), controllerIdentity, 5,
      none, none, none, 4⟩ 0 with
    status := .running
    attemptCount := 1 }

/-- A 404 on the first attempt: the job is dead-lettered, and the delivery
stays queued. -/
theorem rowsAgree_notFound : ¬ ∀ (env : PagingEnvironment) (settings : PagingSettings)
      (jobEnvironment : JobEnvironment Unit) (res : OperationalAlertDelivery → Bool → Unit)
      (transport : PagingRequest → Exchange) (delivery : OperationalAlertDelivery)
      (job : AgentExecutionJob Unit Unit) (observedAt now : Time),
      RowsAgree env settings jobEnvironment res transport delivery job observedAt now := by
  intro always
  have rows := always plainPaging (pagingTo "https://pager")
    ⟨fun text => text, fun _ => none, fun _ => 0⟩ (fun _ _ => ())
    (fun _ => .response 404 []) newDelivery firstAttempt 10 10
  have failed := rows.agree.2.1.mp (by decide)
  revert failed
  decide

end Agreement

end ModelAtlas.Reliability
