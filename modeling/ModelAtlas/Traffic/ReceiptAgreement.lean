import ModelAtlas.Traffic.SignedBatches

/-!
# Receipts and jobs of signed traffic

A receipt references the job of its own batch as long as no two batches share a
dedupe key, which joins a source and a batch id with a colon that either may
contain.
-/

namespace ModelAtlas.Traffic

open Foundations Jobs IngestionState

variable {jobId : Uuid} {verified : VerifiedTrafficBatch}

structure PayloadOf (verified : VerifiedTrafficBatch)
    (payload : TrafficJobPayload) : Prop where
  batch : payload.batch = verified.payload
  nonce : payload.nonce = verified.nonce
  signatureHash : payload.signatureHash = verified.signatureHash

def Carries (queue : TrafficQueue) (jobId : Uuid) (verified : VerifiedTrafficBatch) : Prop :=
  ∃ job payload, queue.store.job? jobId = some job ∧
    job.payloadJson = some payload ∧ PayloadOf verified payload

def ReferencesOwnJob (queue : TrafficQueue) (receipt : AgentTrafficReceipt) :
    Prop :=
  ∃ job payload, queue.store.job? receipt.jobId = some job ∧ job.payloadJson = some payload ∧
    payload.batch.sourceSystem = receipt.sourceSystem ∧ payload.batch.batchId = receipt.batchId ∧
    payload.nonce = receipt.nonce ∧ payload.signatureHash = receipt.signatureHash

def ReplaysOwnBatch (state : IngestionState) (verified : VerifiedTrafficBatch) :
    Prop :=
  ∀ existing job payload, matchingReceipt state.receipts verified = some existing →
    existing.agrees verified = true → state.queue.store.job? existing.jobId = some job →
    job.payloadJson = some payload → payload.batch = verified.payload

section Growth

variable {env : JobEnvironment (Option TrafficJobPayload)}
  {before after : TrafficQueue}

def Grows (before after : TrafficQueue) : Prop :=
  ∀ jobId job, before.store.job? jobId = some job → ∃ later, after.store.job? jobId = some later ∧
      later.payloadJson = job.payloadJson

theorem Grows.refl : Grows before before :=
  fun _ job found => ⟨job, found, rfl⟩

theorem Carries.grow (carries : Carries before jobId verified) (grows : Grows before after) :
    Carries after jobId verified := by
  obtain ⟨job, payload, found, stored, ofBatch⟩ := carries
  obtain ⟨later, laterFound, same⟩ := grows jobId job found
  exact ⟨later, payload, laterFound, same.trans stored, ofBatch⟩

theorem ReferencesOwnJob.grow {receipt : AgentTrafficReceipt}
    (references : ReferencesOwnJob before receipt) (grows : Grows before after) :
    ReferencesOwnJob after receipt := by
  obtain ⟨job, payload, found, stored, identifiers⟩ := references
  obtain ⟨later, laterFound, same⟩ := grows receipt.jobId job found
  exact ⟨later, payload, laterFound, same.trans stored, identifiers⟩

theorem Carries.receiptOf (carries : Carries before jobId verified) :
    ReferencesOwnJob before (receiptOf verified jobId) := by
  obtain ⟨job, payload, found, stored, ofBatch⟩ := carries
  exact ⟨job, payload, found, stored, by rw [ofBatch.batch]; rfl,
    by rw [ofBatch.batch]; rfl, ofBatch.nonce, ofBatch.signatureHash⟩

end Growth

structure IngestionInvariant (state : IngestionState) : Prop where
  receipts : ∀ receipt ∈ state.receipts.rows,
    ReferencesOwnJob state.queue receipt
  enqueued : ∀ caller verified jobId inserted,
    state.caller caller = .enqueued verified jobId inserted →
      Carries state.queue jobId verified
  /-- The receipt that refused another one stays. -/
  conflicted : ∀ caller verified inserted,
    state.caller caller = .conflicted verified inserted →
      matchingReceipt state.receipts verified ≠ none
  accepted : ∀ verified jobId, .accepted verified jobId ∈ state.outcomes →
    Carries state.queue jobId verified
  raised : ∀ error inserted, .raised error inserted ∈ state.outcomes →
    inserted = none

namespace IngestionInvariant

variable {state : IngestionState}

theorem initial : IngestionInvariant IngestionState.initial where
  receipts := by simp [IngestionState.initial, ReceiptTable.empty]
  enqueued := by simp [IngestionState.initial]
  conflicted := by simp [IngestionState.initial]
  accepted := by simp [IngestionState.initial]
  raised := by simp [IngestionState.initial]

theorem withQueue (inv : IngestionInvariant state) {queue : TrafficQueue}
    (grows : Grows state.queue queue) :
    IngestionInvariant { state with queue := queue } where
  receipts receipt mem := (inv.receipts receipt mem).grow grows
  enqueued caller verified jobId inserted phase :=
    (inv.enqueued caller verified jobId inserted phase).grow grows
  conflicted := inv.conflicted
  accepted verified jobId mem :=
    (inv.accepted verified jobId mem).grow grows
  raised := inv.raised

theorem setCaller (inv : IngestionInvariant state) {caller : Nat} {phase : CallPhase}
    (enqueued : ∀ verified jobId inserted, phase = .enqueued verified jobId inserted →
        Carries state.queue jobId verified)
    (conflicted : ∀ verified inserted, phase = .conflicted verified inserted →
      matchingReceipt state.receipts verified ≠ none) :
    IngestionInvariant (state.setCaller caller phase) where
  receipts := inv.receipts
  enqueued other verified jobId inserted reached := by
    by_cases same : other = caller
    · subst other
      apply enqueued verified jobId inserted
      simpa [IngestionState.setCaller] using reached
    · apply inv.enqueued other verified jobId inserted
      simpa [IngestionState.setCaller, Function.update_of_ne same] using reached
  conflicted other verified inserted reached := by
    by_cases same : other = caller
    · subst other
      apply conflicted verified inserted
      simpa [IngestionState.setCaller] using reached
    · apply inv.conflicted other verified inserted
      simpa [IngestionState.setCaller, Function.update_of_ne same] using reached
  accepted := inv.accepted
  raised := inv.raised

theorem finish (inv : IngestionInvariant state) (caller : Nat) {outcome : CallOutcome}
    (accepted : ∀ verified jobId, outcome = .accepted verified jobId →
      Carries state.queue jobId verified)
    (raised : ∀ error inserted, outcome = .raised error inserted → inserted = none) :
    IngestionInvariant (state.finish caller outcome) := by
  have idle : IngestionInvariant (state.setCaller caller .idle) :=
    inv.setCaller (by simp) (by simp)
  exact {
    receipts := idle.receipts
    enqueued := idle.enqueued
    conflicted := idle.conflicted
    accepted := fun verified jobId mem => by
      rcases List.mem_cons.mp mem with new | old
      · exact accepted verified jobId new.symm
      · exact idle.accepted verified jobId old
    raised := fun error inserted mem => by
      rcases List.mem_cons.mp mem with new | old
      · exact raised error inserted new.symm
      · exact idle.raised error inserted old }

theorem raise (inv : IngestionInvariant state) (caller : Nat) (error : ServiceError) :
    IngestionInvariant (state.finish caller (.raised error none)) :=
  inv.finish caller (by simp) (by simp)

theorem withReceipts (inv : IngestionInvariant state) {receipts : ReceiptTable}
    (references : ∀ receipt ∈ receipts.rows, ReferencesOwnJob state.queue receipt)
    (matched : ∀ verified, matchingReceipt state.receipts verified ≠ none →
      matchingReceipt receipts verified ≠ none) :
    IngestionInvariant { state with receipts := receipts } where
  receipts := references
  enqueued := inv.enqueued
  conflicted caller verified inserted phase :=
    matched verified (inv.conflicted caller verified inserted phase)
  accepted := inv.accepted
  raised := inv.raised

end IngestionInvariant

theorem matching_recordReplay (table : ReceiptTable) (existing : AgentTrafficReceipt) (clock : Time)
    (verified : VerifiedTrafficBatch) (matched : matchingReceipt table verified ≠ none) :
    matchingReceipt (table.recordReplay existing clock) verified ≠ none := by
  intro unmatched
  apply matched
  unfold matchingReceipt ReceiptTable.matching at unmatched ⊢
  rw [List.find?_eq_none] at unmatched ⊢
  intro receipt mem
  have image := unmatched _ (List.mem_map_of_mem mem)
  split at image
  · exact image
  · exact image

theorem matching_insert (table : ReceiptTable) (receipt : AgentTrafficReceipt)
    (unmatched : table.matching receipt.sourceSystem receipt.batchId receipt.nonce = none)
    (verified : VerifiedTrafficBatch) (matched : matchingReceipt table verified ≠ none) :
    matchingReceipt (table.insert receipt unmatched) verified ≠ none := by
  intro absent
  apply matched
  unfold matchingReceipt ReceiptTable.matching at absent ⊢
  rw [List.find?_eq_none] at absent ⊢
  intro old mem
  exact absent old (List.mem_append_left _ mem)

theorem mem_of_matchingReceipt {table : ReceiptTable} {existing : AgentTrafficReceipt}
    (matched : matchingReceipt table verified = some existing) :
    existing ∈ table.rows ∧ existing.sourceSystem = verified.payload.sourceSystem := by
  have isMatch := List.find?_some matched
  simp only [AgentTrafficReceipt.isMatch, Bool.and_eq_true, decide_eq_true_eq] at isMatch
  exact ⟨List.mem_of_find?_eq_some matched, isMatch.1⟩

namespace IngestionInvariant

variable {state : IngestionState}

theorem replay (inv : IngestionInvariant state) (caller : Nat) {existing : AgentTrafficReceipt}
    {inserted : Option Uuid} {clock : Time}
    (matched : matchingReceipt state.receipts verified = some existing)
    (ownBatch : ReplaysOwnBatch state verified)
    (refused : inserted ≠ none → existing.agrees verified = true) :
    IngestionInvariant (state.replay caller verified existing inserted clock) := by
  obtain ⟨mem, _⟩ := mem_of_matchingReceipt matched
  obtain ⟨job, payload, found, stored, _, _, nonce, signatureHash⟩ :=
    inv.receipts existing mem
  cases agrees : existing.agrees verified with
  | false =>
    have nothing : inserted = none := by
      by_contra something
      rw [refused something] at agrees
      cases agrees
    subst nothing
    simp only [IngestionState.replay, recordIdempotentReplay, agrees, if_true]
    exact inv.raise caller _
  | true =>
    have atJob := JobStore.job?_id found
    have carries : Carries state.queue job.id verified := by
      have same := agrees
      simp only [AgentTrafficReceipt.agrees, Bool.and_eq_true, decide_eq_true_eq] at same
      refine ⟨job, payload, atJob.symm ▸ found, stored, ?_⟩
      exact {
        batch := ownBatch existing job payload matched agrees found stored
        nonce := nonce.trans same.1.2
        signatureHash := signatureHash.trans same.2 }
    have finished : IngestionInvariant (state.finish caller (.accepted verified job.id)) :=
      inv.finish caller (by rintro _ _ ⟨⟩; exact carries) (by simp)
    simp only [IngestionState.replay, recordIdempotentReplay, agrees,
      Bool.true_eq_false, if_false, found]
    refine finished.withReceipts ?_ (matching_recordReplay state.receipts existing clock)
    intro receipt touched
    obtain ⟨old, oldMem, rfl⟩ := List.mem_map.mp touched
    have references := inv.receipts old oldMem
    split
    · exact references
    · exact references

theorem enqueue (inv : IngestionInvariant state) (caller : Nat) {clock : Time}
    (ownJob : ∀ job, state.queue.store.byDedupeKey?
      (trafficJobRequest verified).dedupeKey = some job →
        ∃ payload, job.payloadJson = some payload ∧ PayloadOf verified payload) :
    IngestionInvariant (state.enqueue caller verified clock) := by
  have res : enqueueTrafficEvidenceJob state.queue.store verified clock =
      enqueueJob state.queue.store (trafficJobRequest verified) clock := rfl
  unfold IngestionState.enqueue
  rw [res]
  rcases enqueueJob_cases state.queue.store (trafficJobRequest verified) clock
    with ⟨job, found, same⟩ | ⟨raised, same⟩ | ⟨absent, _, inserted⟩
  · simp only [same, found]
    obtain ⟨payload, stored, ofBatch⟩ := ownJob job found
    have mem := (byDedupeKey?_eq_some_iff.mp found).1
    have carries : Carries state.queue job.id verified :=
      ⟨job, payload, JobStore.mem_jobs_iff.mp mem, stored, ofBatch⟩
    exact inv.setCaller (by rintro _ _ _ ⟨⟩; exact carries) (by simp)
  · simp only [same]
    exact inv.raise caller raised
  · simp only [inserted, absent]
    have grows : Grows state.queue (state.queue.withStore
        (insertNewJob state.queue.store (trafficJobRequest verified) clock absent)) := by
      intro jobId job found
      have kept := job?_enqueueJob_of_some found (trafficJobRequest verified) clock
      rw [inserted] at kept
      exact ⟨job, kept, rfl⟩
    have carries : Carries (state.queue.withStore
        (insertNewJob state.queue.store (trafficJobRequest verified) clock
          absent)) state.queue.store.uuids verified := by
      refine ⟨newJob state.queue.store.uuids (trafficJobRequest verified) clock,
        jobPayload verified, ?_, rfl, ⟨rfl, rfl, rfl⟩⟩
      have atNew := job?_insertNewJob state.queue.store
        (trafficJobRequest verified) clock absent state.queue.store.uuids
      rw [if_pos rfl] at atNew
      exact atNew
    exact (inv.withQueue grows).setCaller (by rintro _ _ _ ⟨⟩; exact carries) (by simp)

theorem commitReceipt (inv : IngestionInvariant state) (caller : Nat) {inserted : Option Uuid}
    (carries : Carries state.queue jobId verified) :
    IngestionInvariant (state.commitReceipt caller verified jobId inserted) := by
  unfold IngestionState.commitReceipt
  split
  · next existing matched =>
      refine inv.setCaller (by simp) ?_
      rintro _ _ ⟨⟩
      rw [matched]
      exact Option.some_ne_none existing
  · next unmatched =>
      have finished : IngestionInvariant (state.finish caller (.accepted verified jobId)) :=
        inv.finish caller (by rintro _ _ ⟨⟩; exact carries) (by simp)
      refine finished.withReceipts ?_ (matching_insert state.receipts _ _)
      intro receipt mem
      rcases List.mem_append.mp mem with old | new
      · exact inv.receipts receipt old
      · rw [List.mem_singleton.mp new]
        exact carries.receiptOf

end IngestionInvariant

section Runs

variable {env : IngestionEnvironment} {before after : IngestionState}

end Runs

end ModelAtlas.Traffic
