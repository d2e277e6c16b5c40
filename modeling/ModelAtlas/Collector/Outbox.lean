import Mathlib.Data.List.Dedup
import Mathlib.Data.List.Sort
import ModelAtlas.Foundations.Execution
import ModelAtlas.Records

/-!
# The traffic collector

`collectors/agent_traffic_collector.py`. Every save of the state, move of a file
and attempt of a delivery is a step of its own, and the process may stop between
any two. The endpoint keeps the receipts of
`services/agent_traffic_ingestion.py`.
-/

namespace ModelAtlas.Collector

open Foundations

structure PendingDelivery where
  nonce : Nat
  sentAt : Time
  deriving DecidableEq, Repr

structure TrafficBatch where
  (sourceSystem batchId body : String)
  deriving DecidableEq, Repr

structure CollectorState where
  (sentCount failedCount : Nat)
  pending : String → Option PendingDelivery

/-- What `load_collector_state` returns without a file. -/
def CollectorState.initial : CollectorState := ⟨0, 0, fun _ => none⟩

inductive OutboxFile where
  | batchText (text : String)
  | stateText (state : CollectorState)

/-- The validation of a batch, its signature, and the configuration: the name
of the state file where it is one of the outbox. -/
structure CollectorEnvironment where
  readBatch : String → Option TrafficBatch
  sign : TrafficBatch → PendingDelivery → String
  maxAttempts : Nat
  stateFile : Option String

def CollectorEnvironment.parse (env : CollectorEnvironment) : OutboxFile → Option TrafficBatch
  | .batchText text => env.readBatch text
  | .stateText _ => none

/-! ## The endpoint -/

structure TrafficReceipt where
  (sourceSystem batchId : String)
  nonce : Nat
  signature : String
  deriving DecidableEq

def receiptOf (env : CollectorEnvironment) (batch : TrafficBatch)
    (pending : PendingDelivery) : TrafficReceipt where
  sourceSystem := batch.sourceSystem
  batchId := batch.batchId
  nonce := pending.nonce
  signature := env.sign batch pending

/-- The condition of `_matching_receipt`. -/
def TrafficReceipt.isMatch (receipt other : TrafficReceipt) : Bool :=
  receipt.sourceSystem = other.sourceSystem &&
    (receipt.batchId = other.batchId || receipt.nonce = other.nonce)

inductive ReceiptDecision where
  | queued
  | replayed
  | conflict
  deriving DecidableEq, Repr

/-- `_matching_receipt` and the test of `_record_idempotent_replay`. -/
def decideReceipt (receipts : List TrafficReceipt) (receipt : TrafficReceipt) :
    ReceiptDecision :=
  match receipts.find? (fun stored => stored.isMatch receipt) with
  | none => .queued
  | some stored =>
    if stored.batchId = receipt.batchId ∧ stored.nonce = receipt.nonce ∧
        stored.signature = receipt.signature then .replayed
    else .conflict

inductive Answer where
  | arrives
  | lost
  | unusable
  deriving DecidableEq, Repr

inductive Endpoint where
  | processes (answer : Answer)
  | rejects
  | unavailable
  deriving DecidableEq, Repr

inductive GiveUp where
  | refused
  | unusable
  | exhausted
  deriving DecidableEq, Repr

inductive AttemptEnd where
  | delivered
  | retryable
  | permanent (reason : GiveUp)
  deriving DecidableEq, Repr

/-- How `deliver` ends. -/
def attemptEnd (decision : ReceiptDecision) : Endpoint → AttemptEnd
  | .unavailable => .retryable
  | .rejects => .permanent .refused
  | .processes .lost => .retryable
  | .processes .arrives =>
    if decision = .conflict then .permanent .refused else .delivered
  | .processes .unusable =>
    if decision = .conflict then .permanent .refused
    else .permanent .unusable

def isAccepted (decision : ReceiptDecision) : Endpoint → Bool
  | .processes _ => decision ≠ .conflict
  | _ => false

/-- A delivery, and how many successes of its batch id were recorded before. -/
structure Delivery where
  batch : TrafficBatch
  pending : PendingDelivery
  epoch : Nat
  deriving DecidableEq, Repr

inductive Phase where
  | idle
  | polling (memory : CollectorState) (rest : List String)
  | pendingSet (memory : CollectorState) (name : String) (batch : TrafficBatch)
      (pending : PendingDelivery) (rest : List String)
  | delivering (memory : CollectorState) (name : String) (batch : TrafficBatch)
      (pending : PendingDelivery) (attempt : Nat) (rest : List String)
  | failureRecorded (memory : CollectorState) (name : String)
      (rest : List String)
  | failureSaved (memory : CollectorState) (name : String) (rest : List String)
  | successRecorded (memory : CollectorState) (name : String)
      (batch : TrafficBatch) (rest : List String)
  | successSaved (memory : CollectorState) (name : String)
      (batch : TrafficBatch) (rest : List String)

/-- The directories, the state file, the receipts of the server and the process. The last five
fields record the run: what was placed, delivered, accepted and given up, and the recorded
successes. -/
structure CollectorSystem where
  (outbox sent failed : String → Option OutboxFile)
  savedState : Option CollectorState
  receipts : List TrafficReceipt
  nonces : Nat
  phase : Phase
  placed : List (String × OutboxFile)
  (deliveries accepted : List Delivery)
  givenUp : List (Delivery × GiveUp)
  recorded : String → Nat

inductive CollectorStep where
  | place (name : String) (file : OutboxFile)
  | crash
  | poll
  /-- The process reads, saves or moves a file. -/
  | advance (now : Time)
  | attempt (endpoint : Endpoint)

namespace CollectorSystem

def initial : CollectorSystem where
  outbox _ := none
  sent _ := none
  failed _ := none
  savedState := none
  receipts := []
  nonces := 0
  phase := .idle
  placed := []
  deliveries := []
  accepted := []
  givenUp := []
  recorded _ := 0

variable (env : CollectorEnvironment) (sys : CollectorSystem)

/-- `load_collector_state`: nothing for a file that is not supported. -/
def loadState : Option CollectorState :=
  match env.stateFile with
  | none => some (sys.savedState.getD .initial)
  | some name =>
    match sys.outbox name with
    | none => some .initial
    | some (.stateText state) => some state
    | some (.batchText _) => none

/-- `save_collector_state`. -/
def saveState (state : CollectorState) : CollectorSystem :=
  match env.stateFile with
  | none => { sys with savedState := some state }
  | some name => { sys with
      outbox := Function.update sys.outbox name (some (.stateText state)) }

/-- `sorted(outbox.glob("*.json"))`. -/
def batchFiles : List String :=
  ((sys.placed.map Prod.fst ++ env.stateFile.toList).filter
    (fun name => (sys.outbox name).isSome &&
      ".json".toList.isSuffixOf name.toList)).dedup.insertionSort (· ≤ ·)

def recordFailure (memory : CollectorState) : CollectorState :=
  { memory with failedCount := memory.failedCount + 1 }

def recordSuccess (memory : CollectorState) (batchId : String) : CollectorState where
  sentCount := memory.sentCount + 1
  failedCount := memory.failedCount
  pending := Function.update memory.pending batchId none

def readFile (memory : CollectorState) (name : String) (rest : List String)
    (now : Time) : CollectorSystem :=
  match (sys.outbox name).bind env.parse with
  | none => { sys with phase := .failureRecorded (recordFailure memory) name rest }
  | some batch =>
    match memory.pending batch.batchId with
    | some pending => { sys with phase := .pendingSet memory name batch pending rest }
    | none =>
      let pending : PendingDelivery := ⟨sys.nonces, now⟩
      { sys with
        nonces := sys.nonces + 1
        phase := .pendingSet { memory with
            pending := Function.update memory.pending batch.batchId
              (some pending) } name batch pending rest }

/-- `batch_file.replace(failed_directory / batch_file.name)`, which raises where
the file is not there. -/
def moveToFailed (memory : CollectorState) (name : String) (rest : List String) : CollectorSystem :=
  match sys.outbox name with
  | none => { sys with phase := .idle }
  | some file => { sys with
      outbox := Function.update sys.outbox name none
      failed := Function.update sys.failed name (some file)
      phase := .polling memory rest }

/-- `batch_file.replace(sent_directory / batch_file.name)`. -/
def moveToSent (memory : CollectorState) (name : String) (rest : List String) : CollectorSystem :=
  match sys.outbox name with
  | none => { sys with phase := .idle }
  | some file => { sys with
      outbox := Function.update sys.outbox name none
      sent := Function.update sys.sent name (some file)
      phase := .polling memory rest }

/-- An attempt of `deliver_with_retry`. -/
def attemptDelivery (memory : CollectorState) (name : String)
    (batch : TrafficBatch) (pending : PendingDelivery) (attempt : Nat)
    (rest : List String) (endpoint : Endpoint) : CollectorSystem :=
  let receipt := receiptOf env batch pending
  let decision := decideReceipt sys.receipts receipt
  let delivery : Delivery := ⟨batch, pending, sys.recorded batch.batchId⟩
  let requested : CollectorSystem :=
    { sys with
      receipts :=
        if isAccepted decision endpoint ∧ decision = .queued then
          sys.receipts ++ [receipt]
        else sys.receipts
      deliveries := sys.deliveries ++ [delivery]
      accepted :=
        if isAccepted decision endpoint then sys.accepted ++ [delivery]
        else sys.accepted }
  let giveUp := fun reason => { requested with
    givenUp := sys.givenUp ++ [(delivery, reason)]
    phase := .failureRecorded (recordFailure memory) name rest }
  match attemptEnd decision endpoint with
  | .delivered => { requested with
      phase := .successRecorded (recordSuccess memory batch.batchId) name batch rest }
  | .permanent reason => giveUp reason
  | .retryable =>
    if max 1 (min env.maxAttempts 10) ≤ attempt then giveUp .exhausted
    else { requested with phase := .delivering memory name batch pending (attempt + 1) rest }

def advance (now : Time) : Option CollectorSystem :=
  match sys.phase with
  | .idle | .delivering _ _ _ _ _ _ => none
  | .polling _ [] => some { sys with phase := .idle }
  | .polling memory (name :: rest) =>
    some (sys.readFile env memory name rest now)
  | .pendingSet memory name batch pending rest =>
    some { sys.saveState env memory with
      phase := .delivering memory name batch pending 1 rest }
  | .failureRecorded memory name rest =>
    some { sys.saveState env memory with phase := .failureSaved memory name rest }
  | .failureSaved memory name rest =>
    some (sys.moveToFailed memory name rest)
  | .successRecorded memory name batch rest =>
    some { sys.saveState env memory with
      phase := .successSaved memory name batch rest
      recorded := Function.update sys.recorded batch.batchId (sys.recorded batch.batchId + 1) }
  | .successSaved memory name _ rest =>
    some (sys.moveToSent memory name rest)

def next : CollectorStep → Option CollectorSystem
  | .place name file => some { sys with
      outbox := Function.update sys.outbox name (some file)
      placed := sys.placed ++ [(name, file)] }
  | .crash => some { sys with phase := .idle }
  | .poll =>
    match sys.phase, sys.loadState env with
    | .idle, some state => some { sys with phase := .polling state (sys.batchFiles env) }
    | .idle, none => some sys
    | _, _ => none
  | .advance now => sys.advance env now
  | .attempt endpoint =>
    match sys.phase with
    | .delivering memory name batch pending attempt rest =>
      some (sys.attemptDelivery env memory name batch pending attempt rest endpoint)
    | _ => none

end CollectorSystem

end ModelAtlas.Collector
