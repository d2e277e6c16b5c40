import ModelAtlas.Collector.FileMoves

/-!
# Redeliveries

Until the success of a batch id is recorded, its deliveries are signed with one
nonce and one time.  So a batch that the server accepted is taken for a replay
when it is delivered again.
-/

namespace ModelAtlas.Collector

open Foundations

variable {memory : CollectorState} {name : String} {rest : List String} {batch : TrafficBatch}
  {pending : PendingDelivery}

def CollectorSystem.saved (sys : CollectorSystem) : CollectorState :=
  sys.savedState.getD .initial

def PhaseMemory (sys : CollectorSystem) : Phase → Prop
  | .idle => True
  | .polling memory _ | .failureRecorded memory _ _ | .failureSaved memory _ _
  | .successSaved memory _ _ _ => memory.pending = sys.saved.pending
  | .pendingSet memory _ batch pending _ =>
    memory.pending = Function.update sys.saved.pending batch.batchId (some pending) ∧
      (sys.saved.pending batch.batchId = none ∨ sys.saved.pending batch.batchId = some pending)
  | .delivering memory _ batch pending _ _ =>
    memory.pending = sys.saved.pending ∧ sys.saved.pending batch.batchId = some pending
  | .successRecorded memory _ batch _ =>
    memory.pending = Function.update sys.saved.pending batch.batchId none

structure DeliveryBooks (sys : CollectorSystem) : Prop where
  memory : PhaseMemory sys sys.phase
  past : ∀ delivery ∈ sys.deliveries,
    delivery.epoch ≤ sys.recorded delivery.batch.batchId
  pending : ∀ delivery ∈ sys.deliveries,
    delivery.epoch = sys.recorded delivery.batch.batchId →
      sys.saved.pending delivery.batch.batchId = some delivery.pending
  agree : ∀ left ∈ sys.deliveries, ∀ right ∈ sys.deliveries,
    left.batch.batchId = right.batch.batchId → left.epoch = right.epoch →
      left.pending = right.pending

section Deliveries

variable {env : CollectorEnvironment} {sys after : CollectorSystem}

theorem DeliveryBooks.initial : DeliveryBooks .initial where
  memory := trivial
  past _ mem := absurd mem List.not_mem_nil
  pending _ mem := absurd mem List.not_mem_nil
  agree _ mem := absurd mem List.not_mem_nil

theorem DeliveryBooks.of_same (books : DeliveryBooks sys)
    (deliveries : after.deliveries = sys.deliveries)
    (recorded : after.recorded = sys.recorded)
    (saved : after.saved.pending = sys.saved.pending)
    (memory : PhaseMemory after after.phase) : DeliveryBooks after where
  memory := memory
  past delivery mem := by
    rw [deliveries] at mem
    rw [recorded]
    exact books.past delivery mem
  pending delivery mem current := by
    rw [deliveries] at mem
    rw [recorded] at current
    rw [saved]
    exact books.pending delivery mem current
  agree left leftMem right rightMem := by
    rw [deliveries] at leftMem rightMem
    exact books.agree left leftMem right rightMem

theorem DeliveryBooks.readFile (books : DeliveryBooks sys) {now : Time}
    (sameMemory : memory.pending = sys.saved.pending) :
    DeliveryBooks (sys.readFile env memory name rest now) := by
  rw [CollectorSystem.readFile]
  split
  · exact books.of_same rfl rfl rfl sameMemory
  · next batch _ =>
      split
      · next pending present =>
          refine books.of_same rfl rfl rfl ⟨?_, Or.inr ?_⟩
          · rw [← Function.update_eq_self batch.batchId memory.pending, present, sameMemory]
            rfl
          · rw [sameMemory] at present
            exact present
      · next absent =>
          refine books.of_same rfl rfl rfl ⟨?_, Or.inl ?_⟩
          · dsimp only
            rw [sameMemory]
            rfl
          · rw [sameMemory] at absent
            exact absent

theorem DeliveryBooks.savePending (books : DeliveryBooks sys)
    (set : memory.pending = Function.update sys.saved.pending batch.batchId (some pending))
    (first : sys.saved.pending batch.batchId = none ∨
      sys.saved.pending batch.batchId = some pending) :
    DeliveryBooks { sys with
      savedState := some memory
      phase := .delivering memory name batch pending 1 rest } where
  memory := by
    refine ⟨rfl, ?_⟩
    change memory.pending batch.batchId = some pending
    rw [set, Function.update_self]
  past := books.past
  pending delivery mem current := by
    have before := books.pending delivery mem current
    change memory.pending delivery.batch.batchId = some delivery.pending
    rw [set]
    by_cases same : delivery.batch.batchId = batch.batchId
    · rw [same] at before ⊢
      rw [Function.update_self]
      rcases first with absent | present
      · rw [absent] at before
        cases before
      · exact present.symm.trans before
    · rw [Function.update_of_ne same]
      exact before
  agree := books.agree

theorem DeliveryBooks.saveSuccess (books : DeliveryBooks sys)
    (set : memory.pending = Function.update sys.saved.pending batch.batchId none) :
    DeliveryBooks { sys with
      savedState := some memory
      phase := .successSaved memory name batch rest
      recorded := Function.update sys.recorded batch.batchId
        (sys.recorded batch.batchId + 1) } where
  memory := rfl
  past delivery mem := by
    have before := books.past delivery mem
    dsimp only
    by_cases same : delivery.batch.batchId = batch.batchId
    · rw [same] at before ⊢
      rw [Function.update_self]
      omega
    · rw [Function.update_of_ne same]
      exact before
  pending delivery mem current := by
    have before := books.past delivery mem
    dsimp only at current
    by_cases same : delivery.batch.batchId = batch.batchId
    · rw [same] at before current
      rw [Function.update_self] at current
      omega
    · rw [Function.update_of_ne same] at current
      change memory.pending delivery.batch.batchId = some delivery.pending
      rw [set, Function.update_of_ne same]
      exact books.pending delivery mem current
  agree := books.agree

theorem DeliveryBooks.deliver (books : DeliveryBooks sys)
    (present : sys.saved.pending batch.batchId = some pending)
    (deliveries : after.deliveries = sys.deliveries ++
      [⟨batch, pending, sys.recorded batch.batchId⟩])
    (recorded : after.recorded = sys.recorded)
    (saved : after.saved.pending = sys.saved.pending)
    (memory : PhaseMemory after after.phase) : DeliveryBooks after where
  memory := memory
  past delivery mem := by
    rw [deliveries] at mem
    rw [recorded]
    rcases List.mem_append.mp mem with old | new
    · exact books.past delivery old
    · rw [List.mem_singleton.mp new]
  pending delivery mem current := by
    rw [deliveries] at mem
    rw [recorded] at current
    rw [saved]
    rcases List.mem_append.mp mem with old | new
    · exact books.pending delivery old current
    · rw [List.mem_singleton.mp new]
      exact present
  agree left leftMem right rightMem sameBatch sameEpoch := by
    rw [deliveries] at leftMem rightMem
    -- A delivery of this batch id and epoch is the pending one.
    have isPending : ∀ delivery ∈ sys.deliveries, delivery.batch.batchId = batch.batchId →
          delivery.epoch = sys.recorded batch.batchId → delivery.pending = pending := by
      intro delivery mem same current
      have isSaved := books.pending delivery mem (by rw [current, same])
      rw [same, present] at isSaved
      exact (Option.some.inj isSaved).symm
    rcases List.mem_append.mp leftMem with leftOld | leftNew
    · rcases List.mem_append.mp rightMem with rightOld | rightNew
      · exact books.agree left leftOld right rightOld sameBatch sameEpoch
      · rw [List.mem_singleton.mp rightNew] at sameBatch sameEpoch ⊢
        exact isPending left leftOld sameBatch sameEpoch
    · rcases List.mem_append.mp rightMem with rightOld | rightNew
      · rw [List.mem_singleton.mp leftNew] at sameBatch sameEpoch ⊢
        exact (isPending right rightOld sameBatch.symm sameEpoch.symm).symm
      · rw [List.mem_singleton.mp leftNew, List.mem_singleton.mp rightNew]

theorem DeliveryBooks.attemptDelivery (books : DeliveryBooks sys) {attempt : Nat}
    {endpoint : Endpoint} (sameMemory : memory.pending = sys.saved.pending)
    (present : sys.saved.pending batch.batchId = some pending) :
    DeliveryBooks (sys.attemptDelivery env memory name batch pending attempt rest endpoint) := by
  rw [CollectorSystem.attemptDelivery]
  dsimp only
  split
  · refine books.deliver present rfl rfl rfl ?_
    dsimp only [PhaseMemory, CollectorSystem.recordSuccess]
    rw [sameMemory]
    rfl
  · exact books.deliver present rfl rfl rfl sameMemory
  · split
    · exact books.deliver present rfl rfl rfl sameMemory
    · exact books.deliver present rfl rfl rfl ⟨sameMemory, present⟩

theorem DeliveryBooks.advance (outside : env.stateFile = none) (books : DeliveryBooks sys)
    {now : Time} (taken : sys.advance env now = some after) :
    DeliveryBooks after := by
  have memory := books.memory
  rw [CollectorSystem.advance] at taken
  split at taken
  · cases taken
  · cases taken
  · cases taken
    exact books.of_same rfl rfl rfl trivial
  · next phase =>
      rw [phase] at memory
      cases taken
      exact books.readFile memory
  · next phase =>
      rw [phase] at memory
      rw [saveState_outside outside] at taken
      cases taken
      exact books.savePending memory.1 memory.2
  · next phase =>
      rw [phase] at memory
      rw [saveState_outside outside] at taken
      cases taken
      exact books.of_same rfl rfl memory rfl
  · next own name rest phase =>
      rw [phase] at memory
      cases taken
      rw [CollectorSystem.moveToFailed]
      split
      · exact books.of_same rfl rfl rfl trivial
      · exact books.of_same rfl rfl rfl memory
  · next phase =>
      rw [phase] at memory
      rw [saveState_outside outside] at taken
      cases taken
      exact books.saveSuccess memory
  · next phase =>
      rw [phase] at memory
      cases taken
      rw [CollectorSystem.moveToSent]
      split
      · exact books.of_same rfl rfl rfl trivial
      · exact books.of_same rfl rfl rfl memory

theorem DeliveryBooks.next (outside : env.stateFile = none) (books : DeliveryBooks sys)
    {step : CollectorStep} (taken : stepsOf (CollectorSystem.next env) sys step after) :
    DeliveryBooks after := by
  cases step with
  | place name file =>
    cases taken
    exact books.of_same rfl rfl rfl books.memory
  | crash =>
    cases taken
    exact books.of_same rfl rfl rfl trivial
  | poll =>
    rw [stepsOf, CollectorSystem.next] at taken
    split at taken
    · next loaded =>
        rw [CollectorSystem.loadState, outside] at loaded
        cases loaded
        cases taken
        exact books.of_same rfl rfl rfl rfl
    · cases taken
      exact books
    · cases taken
  | advance now =>
    exact books.advance outside taken
  | attempt endpoint =>
    have memory := books.memory
    rw [stepsOf, CollectorSystem.next] at taken
    split at taken
    · next phase =>
        rw [phase] at memory
        cases taken
        exact books.attemptDelivery memory.1 memory.2
    · cases taken

end Deliveries

end ModelAtlas.Collector
