import ModelAtlas.Collector.Redelivery

/-!
# Handing over

The endpoint keeps the receipt of every batch that it accepted, and no two of
its receipts match.  So the redelivery of an accepted batch finds its own
receipt.
-/

namespace ModelAtlas.Collector

open Foundations

variable {receipt : TrafficReceipt}

structure ReceiptBooks (env : CollectorEnvironment)
    (sys : CollectorSystem) : Prop where
  distinct : ∀ left ∈ sys.receipts, ∀ right ∈ sys.receipts,
    left.isMatch right = true → left = right
  receipted : ∀ delivery ∈ sys.accepted,
    receiptOf env delivery.batch delivery.pending ∈ sys.receipts
  delivered : ∀ delivery ∈ sys.accepted, delivery ∈ sys.deliveries

theorem TrafficReceipt.isMatch_self (receipt : TrafficReceipt) :
    receipt.isMatch receipt = true := by
  simp [isMatch]

theorem TrafficReceipt.isMatch_comm (left right : TrafficReceipt) :
    left.isMatch right = right.isMatch left := by
  simp only [isMatch, eq_comm]

theorem mem_of_replayed {receipts : List TrafficReceipt}
    (replayed : decideReceipt receipts receipt = .replayed) :
    receipt ∈ receipts := by
  rw [decideReceipt] at replayed
  split at replayed
  · cases replayed
  · next stored found =>
      split at replayed
      · next same =>
          have isMatch := List.find?_some found
          simp only [TrafficReceipt.isMatch, Bool.and_eq_true, decide_eq_true_eq] at isMatch
          have isStored : stored = receipt := by
            cases stored
            cases receipt
            simp_all
          rw [← isStored]
          exact List.mem_of_find?_eq_some found
      · cases replayed

theorem unmatched_of_queued {receipts : List TrafficReceipt}
    (queued : decideReceipt receipts receipt = .queued) :
    ∀ stored ∈ receipts, ¬stored.isMatch receipt = true := by
  rw [decideReceipt] at queued
  split at queued
  · next unfound =>
      exact List.find?_eq_none.mp unfound
  · split at queued <;> cases queued

section Receipts

variable {env : CollectorEnvironment} {sys after : CollectorSystem}

theorem ReceiptBooks.initial : ReceiptBooks env .initial where
  distinct _ mem := absurd mem List.not_mem_nil
  receipted _ mem := absurd mem List.not_mem_nil
  delivered _ mem := absurd mem List.not_mem_nil

theorem ReceiptBooks.of_same (books : ReceiptBooks env sys)
    (receipts : after.receipts = sys.receipts) (accepted : after.accepted = sys.accepted)
    (deliveries : after.deliveries = sys.deliveries) :
    ReceiptBooks env after where
  distinct := by
    rw [receipts]
    exact books.distinct
  receipted := by
    rw [receipts, accepted]
    exact books.receipted
  delivered := by
    rw [accepted, deliveries]
    exact books.delivered

theorem ReceiptBooks.replayed (books : ReceiptBooks env sys) (stored : receipt ∈ sys.receipts) :
    decideReceipt sys.receipts receipt = .replayed := by
  rw [decideReceipt]
  split
  · next unfound =>
      have unmatched := List.find?_eq_none.mp unfound receipt stored
      exact absurd receipt.isMatch_self unmatched
  · next other found =>
      have isMatch := List.find?_some found
      have same := books.distinct other (List.mem_of_find?_eq_some found) receipt stored isMatch
      rw [same, if_pos ⟨rfl, rfl, rfl⟩]

theorem ReceiptBooks.deliver (books : ReceiptBooks env sys) {delivery : Delivery}
    (receipts : after.receipts = sys.receipts) (accepted : after.accepted = sys.accepted)
    (deliveries : after.deliveries = sys.deliveries ++ [delivery]) :
    ReceiptBooks env after where
  distinct := by
    rw [receipts]
    exact books.distinct
  receipted := by
    rw [receipts, accepted]
    exact books.receipted
  delivered := by
    rw [accepted, deliveries]
    exact fun own mem => List.mem_append_left _ (books.delivered own mem)

theorem ReceiptBooks.accept (books : ReceiptBooks env sys) {delivery : Delivery}
    (distinct : ∀ left ∈ after.receipts, ∀ right ∈ after.receipts,
      left.isMatch right = true → left = right)
    (kept : ∀ receipt ∈ sys.receipts, receipt ∈ after.receipts)
    (stored : receiptOf env delivery.batch delivery.pending ∈ after.receipts)
    (accepted : after.accepted = sys.accepted ++ [delivery])
    (deliveries : after.deliveries = sys.deliveries ++ [delivery]) :
    ReceiptBooks env after where
  distinct := distinct
  receipted own mem := by
    rw [accepted] at mem
    rcases List.mem_append.mp mem with old | new
    · exact kept _ (books.receipted own old)
    · rw [List.mem_singleton.mp new]
      exact stored
  delivered own mem := by
    rw [accepted] at mem
    rw [deliveries]
    rcases List.mem_append.mp mem with old | new
    · exact List.mem_append_left _ (books.delivered own old)
    · exact List.mem_append_right _ new

theorem ReceiptBooks.distinct_append (books : ReceiptBooks env sys)
    (unmatched : ∀ stored ∈ sys.receipts, ¬stored.isMatch receipt = true) :
    ∀ left ∈ sys.receipts ++ [receipt], ∀ right ∈ sys.receipts ++ [receipt],
        left.isMatch right = true → left = right := by
  intro left leftMem right rightMem isMatch
  rcases List.mem_append.mp leftMem with leftOld | leftNew
  · rcases List.mem_append.mp rightMem with rightOld | rightNew
    · exact books.distinct left leftOld right rightOld isMatch
    · rw [List.mem_singleton.mp rightNew] at isMatch
      exact absurd isMatch (unmatched left leftOld)
  · rcases List.mem_append.mp rightMem with rightOld | rightNew
    · rw [List.mem_singleton.mp leftNew, TrafficReceipt.isMatch_comm] at isMatch
      exact absurd isMatch (unmatched right rightOld)
    · rw [List.mem_singleton.mp leftNew, List.mem_singleton.mp rightNew]

theorem ReceiptBooks.request (books : ReceiptBooks env sys) {batch : TrafficBatch}
    {pending : PendingDelivery} {endpoint : Endpoint} {epoch : Nat} (receipts : after.receipts =
      if isAccepted (decideReceipt sys.receipts (receiptOf env batch pending)) endpoint ∧
          decideReceipt sys.receipts (receiptOf env batch pending) = .queued then
        sys.receipts ++ [receiptOf env batch pending]
      else sys.receipts)
    (accepted : after.accepted =
      if isAccepted (decideReceipt sys.receipts (receiptOf env batch pending)) endpoint then
        sys.accepted ++ [⟨batch, pending, epoch⟩]
      else sys.accepted)
    (deliveries : after.deliveries = sys.deliveries ++ [⟨batch, pending, epoch⟩]) :
    ReceiptBooks env after := by
  by_cases isAccepted : isAccepted (decideReceipt sys.receipts
      (receiptOf env batch pending)) endpoint = true
  · rw [if_pos isAccepted] at accepted
    cases decision : decideReceipt sys.receipts (receiptOf env batch pending) with
    | queued =>
      have unmatched := unmatched_of_queued decision
      rw [if_pos ⟨isAccepted, decision⟩] at receipts
      refine books.accept ?_ ?_ ?_ accepted deliveries
      · rw [receipts]
        exact books.distinct_append unmatched
      · rw [receipts]
        exact fun receipt mem => List.mem_append_left _ mem
      · rw [receipts]
        exact List.mem_append_right _ (List.mem_singleton_self _)
    | replayed =>
      have notQueued : ¬decideReceipt sys.receipts (receiptOf env batch pending) = .queued := by
        rw [decision]
        decide
      rw [if_neg (fun both => notQueued both.2)] at receipts
      refine books.accept ?_ ?_ ?_ accepted deliveries
      · rw [receipts]
        exact books.distinct
      · rw [receipts]
        exact fun receipt mem => mem
      · rw [receipts]
        exact mem_of_replayed decision
    | conflict =>
      rw [decision] at isAccepted
      cases endpoint <;> cases isAccepted
  · rw [if_neg isAccepted] at accepted
    rw [if_neg (fun both => isAccepted both.1)] at receipts
    exact books.deliver receipts accepted deliveries

theorem ReceiptBooks.attemptDelivery (books : ReceiptBooks env sys) {memory : CollectorState}
    {name : String} {batch : TrafficBatch} {pending : PendingDelivery} {attempt : Nat}
    {rest : List String} {endpoint : Endpoint} :
    ReceiptBooks env (sys.attemptDelivery env memory name batch pending attempt rest endpoint) := by
  rw [CollectorSystem.attemptDelivery]
  dsimp only
  split
  · exact books.request rfl rfl rfl
  · exact books.request rfl rfl rfl
  · split
    · exact books.request rfl rfl rfl
    · exact books.request rfl rfl rfl

theorem ReceiptBooks.saveState (books : ReceiptBooks env sys) (state : CollectorState) :
    ReceiptBooks env (sys.saveState env state) := by
  rw [CollectorSystem.saveState]
  split
  · exact books.of_same rfl rfl rfl
  · exact books.of_same rfl rfl rfl

theorem ReceiptBooks.advance (books : ReceiptBooks env sys)
    {now : Time} (taken : sys.advance env now = some after) :
    ReceiptBooks env after := by
  rw [CollectorSystem.advance] at taken
  split at taken
  · cases taken
  · cases taken
  · cases taken
    exact books.of_same rfl rfl rfl
  · cases taken
    rw [CollectorSystem.readFile]
    split
    · exact books.of_same rfl rfl rfl
    · split <;> exact books.of_same rfl rfl rfl
  · cases taken
    exact (books.saveState _).of_same rfl rfl rfl
  · cases taken
    exact (books.saveState _).of_same rfl rfl rfl
  · cases taken
    rw [CollectorSystem.moveToFailed]
    split <;> exact books.of_same rfl rfl rfl
  · cases taken
    exact (books.saveState _).of_same rfl rfl rfl
  · cases taken
    rw [CollectorSystem.moveToSent]
    split <;> exact books.of_same rfl rfl rfl

theorem ReceiptBooks.next (books : ReceiptBooks env sys) {step : CollectorStep}
    (taken : stepsOf (CollectorSystem.next env) sys step after) :
    ReceiptBooks env after := by
  cases step with
  | place name file =>
    cases taken
    exact books.of_same rfl rfl rfl
  | crash =>
    cases taken
    exact books.of_same rfl rfl rfl
  | poll =>
    rw [stepsOf, CollectorSystem.next] at taken
    split at taken
    · cases taken
      exact books.of_same rfl rfl rfl
    · cases taken
      exact books
    · cases taken
  | advance now =>
    exact books.advance taken
  | attempt endpoint =>
    rw [stepsOf, CollectorSystem.next] at taken
    split at taken
    · cases taken
      exact books.attemptDelivery
    · cases taken

end Receipts

structure HandedOver (env : CollectorEnvironment)
    (sys : CollectorSystem) : Prop where
  located : ∀ entry ∈ sys.placed, Located sys entry.1 entry.2
  sent : ∀ name file, sys.sent name = some file →
    IsAccepted env sys file
  failed : ∀ name file, sys.failed name = some file →
    IsGivenUp env sys file
  sameDelivery : ∀ left ∈ sys.deliveries, ∀ right ∈ sys.deliveries,
    left.batch.batchId = right.batch.batchId → left.epoch = right.epoch →
      left.pending = right.pending
  replayed : ∀ memory name batch pending attempt rest,
    sys.phase = .delivering memory name batch pending attempt rest →
      ∀ delivery ∈ sys.accepted, delivery.batch = batch →
        delivery.epoch = sys.recorded batch.batchId →
          decideReceipt sys.receipts (receiptOf env batch pending) =
            .replayed
  polled : ∀ name ∈ sys.phase.names, ∃ file, (name, file) ∈ sys.placed

/-- With the state file outside of the outbox and new names for files, every batch file is
handed over once, whatever the endpoint does and wherever the process stops. -/
theorem batchFiles_handedOver {env : CollectorEnvironment} (outside : env.stateFile = none)
    {steps : List CollectorStep} {sys : CollectorSystem}
    (exec : Execution (Guarded PlacesFresh (stepsOf (CollectorSystem.next env)))
      .initial steps sys) : HandedOver env sys := by
  have files : FileBooks env sys :=
    exec.invariant (FileBooks env) .initial
      (fun _ _ _ books taken => books.next outside taken.1 taken.2)
  have deliveries : DeliveryBooks sys :=
    exec.invariant DeliveryBooks .initial (fun _ _ _ books taken => books.next outside taken.2)
  have receipts : ReceiptBooks env sys :=
    exec.invariant (ReceiptBooks env) .initial (fun _ _ _ books taken => books.next taken.2)
  refine ⟨files.located, files.sent, files.failed, deliveries.agree, ?_, files.named⟩
  intro memory name batch pending attempt rest phase delivery accepted same current
  have isPending : sys.saved.pending batch.batchId = some pending := by
    have memory := deliveries.memory
    rw [phase] at memory
    exact memory.2
  have wasDelivered := receipts.delivered delivery accepted
  have isSaved := deliveries.pending delivery wasDelivered (by rw [current, same])
  have stored := receipts.receipted delivery accepted
  rw [same] at isSaved stored
  rw [Option.some.inj (isSaved.symm.trans isPending)] at stored
  exact receipts.replayed stored

def textEnvironment : CollectorEnvironment where
  readBatch text := some ⟨"gateway", text, text⟩
  sign batch _ := batch.body
  maxAttempts := 4
  stateFile := none

def placesFresh (sys : CollectorSystem) : CollectorStep → Bool
  | .place name _ => sys.placed.all (fun entry => entry.1 ≠ name)
  | _ => true

theorem placesFresh_sound (sys : CollectorSystem) (step : CollectorStep)
    (checked : placesFresh sys step = true) : PlacesFresh sys step := by
  cases step with
  | place name file =>
    intro other placed
    have differs := List.all_eq_true.mp checked (name, other) placed
    simp at differs
  | _ =>
    trivial

/-- The endpoint accepts the batch, its answer is lost and the process stops; the
next poll delivers the batch again. -/
def redeliveringSteps : List CollectorStep :=
  [.place "batch.json" (.batchText "batch"), .poll, .advance 1, .advance 1,
    .attempt (.processes .lost), .crash, .poll, .advance 2, .advance 2,
    .attempt (.processes .arrives), .advance 2, .advance 2]

def exhaustingSteps : List CollectorStep :=
  [.place "batch.json" (.batchText "batch"), .poll, .advance 1, .advance 1,
    .attempt .unavailable, .attempt .unavailable, .attempt .unavailable,
    .attempt .unavailable, .advance 2, .advance 2]

def afterSteps (steps : List CollectorStep) : Option CollectorSystem :=
  perform (CollectorSystem.next textEnvironment) .initial steps

set_option maxRecDepth 8000 in
theorem batchFiles_handedOver_redelivered : ∃ sys, afterSteps redeliveringSteps = some sys ∧
      sys.accepted.length = 2 ∧ (sys.sent "batch.json").isSome = true ∧
        HandedOver textEnvironment sys := by
  have performed : (afterSteps redeliveringSteps).any (fun sys =>
      sys.accepted.length = 2 && (sys.sent "batch.json").isSome) =
        true := by
    decide
  have checked : checksAlong placesFresh (CollectorSystem.next textEnvironment)
      .initial redeliveringSteps = true := by
    decide
  obtain ⟨sys, reached, isSent⟩ := (Option.any_eq_true _ _).mp performed
  rw [Bool.and_eq_true, decide_eq_true_eq] at isSent
  exact ⟨sys, reached, isSent.1, isSent.2, batchFiles_handedOver rfl
    (Execution.of_perform_guarded reached
      (MeetsGuard.of_checks placesFresh placesFresh_sound checked))⟩

def IsRefused (env : CollectorEnvironment) (sys : CollectorSystem) (file : OutboxFile) : Prop :=
  env.parse file = none ∨ ∃ batch, env.parse file = some batch ∧
    ∃ entry ∈ sys.givenUp, entry.1.batch = batch ∧ entry.2 = .refused

set_option maxRecDepth 8000 in
/-- A batch that no endpoint refused is in the failed directory, once the retry
budget is exhausted. -/
theorem failed_unrefused : ¬ ∀ (env : CollectorEnvironment) (steps : List CollectorStep)
      (sys : CollectorSystem), env.stateFile = none → Execution
          (Guarded PlacesFresh (stepsOf (CollectorSystem.next env)))
          .initial steps sys →
        ∀ name file, sys.failed name = some file → IsRefused env sys file := by
  intro claim
  have performed : (afterSteps exhaustingSteps).any (fun sys =>
      (sys.failed "batch.json").any
          (fun file => (textEnvironment.parse file).isSome) &&
        sys.givenUp.all (fun entry => entry.2 ≠ .refused)) = true := by
    decide
  have checked : checksAlong placesFresh (CollectorSystem.next textEnvironment)
      .initial exhaustingSteps = true := by
    decide
  obtain ⟨sys, reached, isFailed⟩ := (Option.any_eq_true _ _).mp performed
  rw [Bool.and_eq_true] at isFailed
  obtain ⟨file, failed, valid⟩ := (Option.any_eq_true _ _).mp isFailed.1
  have exec := Execution.of_perform_guarded reached
    (MeetsGuard.of_checks placesFresh placesFresh_sound checked)
  rcases claim textEnvironment exhaustingSteps sys rfl exec "batch.json"
    file failed with invalid | ⟨batch, _, entry, mem, _, refused⟩
  · rw [invalid] at valid
    cases valid
  · have unrefused := List.all_eq_true.mp isFailed.2 entry mem
    rw [decide_eq_true_eq] at unrefused
    exact unrefused refused

end ModelAtlas.Collector
