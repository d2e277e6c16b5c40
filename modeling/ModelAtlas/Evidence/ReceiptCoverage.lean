import ModelAtlas.Evidence.Receipts
import ModelAtlas.Trust.Finality

/-!
# What a production receipt covers

A receipt has checked the number of results when it was created, so it covers
its run as long as no result is added.
-/

namespace ModelAtlas.Evidence

open Foundations Trust
open Traffic (BenchmarkResult)

/-- The calls that write runs, results, metrics, receipts and the registry. Of an attestation or
a proof only the new row matters here. -/
inductive EvidenceLabel where
  | createRun (catalog : Catalog) (payload : BenchmarkRunCreate)
  | createResult (catalog : Catalog) (payload : BenchmarkResultCreate)
  | createMetric (catalog : Catalog) (payload : InferenceMetricCreate)
  | importEvent (cases : List Traffic.EvaluationCase)
      (signerIdentity : SignerIdentity)
      (event : Traffic.AgentEvidenceImportCreate) (resultId metricId : Uuid)
  | createReceipt (catalog : Catalog) (call : ReceiptCall)
  | revoke (catalog : Catalog) (call : RevocationCall)
  | operate (op : RegistryOperation)
  | attest (attestation : ModelSupplyChainAttestation)
  | prove (proof : SupplyChainTransparencyProof)

structure EvidenceServices where
  receipts : ReceiptEnvironment
  imports : Traffic.EvidenceEnvironment
  sources : SourceEnvironment
  policy : StatementPolicy

def addAttestation (store : EvidenceStore) (attestation : ModelSupplyChainAttestation) :
    Except ServiceError EvidenceStore := do
  let attestations ← addKeyed "model_supply_chain_attestations"
    store.registry.attestations attestation
  return { store with registry :=
    { store.registry with attestations := attestations } }

def EvidenceLabel.apply (services : EvidenceServices) (store : EvidenceStore) :
    EvidenceLabel → Except ServiceError EvidenceStore
  | .createRun catalog payload => createBenchmarkRun catalog store payload
  | .createResult catalog payload => createBenchmarkResult catalog store payload
  | .createMetric catalog payload => createInferenceMetric catalog store payload
  | .importEvent cases signerIdentity event resultId metricId =>
    importEvidence services.imports cases store signerIdentity event resultId metricId
  | .createReceipt catalog call =>
    (createProductionEvidenceReceipt services.receipts services.policy catalog
      store call).map Prod.fst
  | .revoke catalog call =>
    revokeModelSupplyChainAttestation services.receipts catalog store call
  | .operate op =>
    .ok { store with registry :=
      operateRegistry services.sources store.registry op }
  | .attest attestation => addAttestation store attestation
  | .prove proof =>
    .ok { store with registry :=
      { store.registry with proofs := store.registry.proofs ++ [proof] } }

def EvidenceStore.next (services : EvidenceServices) (store : EvidenceStore)
    (label : EvidenceLabel) : Option EvidenceStore :=
  some ((label.apply services store).toOption.getD store)

def EvidenceLabel.addsTo? : EvidenceLabel → Option Uuid
  | .createResult _ payload => some payload.benchmarkRunId
  | .importEvent _ _ event _ _ => some event.benchmarkRunId
  | _ => none

def SealsRuns (store : EvidenceStore) (label : EvidenceLabel) : Prop :=
  ∀ capture ∈ store.captures, label.addsTo? ≠ some capture.benchmarkRunId

def ActiveRoot (reg : TrustRegistry) (now : Time) (root : Option EvidenceTrustRoot) : Prop :=
  ∃ active, root = some active ∧ isProductionTrustTier active.trustTier = true ∧
    reg.trustRootStatus active now = .active

/-- The receipt is verified, and its collector, its supply chain with the
publisher, and a proof with its log are trusted. -/
structure EligibleReceipt (reg : TrustRegistry)
    (receipt : ProductionEvidenceReceipt) (now : Time) : Prop where
  signature : receipt.signatureVerified = true
  identity : receipt.identityVerified = true
  unrevoked :
    reg.attestationIsRevoked receipt.supplyChainAttestationId = false
  collector : ActiveRoot reg now
    (receipt.collectorTrustRootId.bind reg.root?)
  chain : ∃ attestation ∈ reg.attestations,
    attestation.id = receipt.supplyChainAttestationId ∧
      ActiveRoot reg now
        (attestation.publisherTrustRootId.bind reg.root?) ∧
      ∃ proof ∈ reg.proofs,
        proof.supplyChainAttestationId = attestation.id ∧
          proof.signatureVerified = true ∧ proof.identityVerified = true ∧
            ActiveRoot reg now (reg.root? proof.logTrustRootId)

section Eligibility

variable {reg : TrustRegistry} {now : Time}

theorem activeRoot_of_eligible {root : Option EvidenceTrustRoot}
    (eligible : reg.trustRootIsProductionEligible root now = true) :
    ActiveRoot reg now root := by
  cases root with
  | none =>
    cases eligible
  | some root =>
    rw [TrustRegistry.trustRootIsProductionEligible] at eligible
    split at eligible
    · cases eligible
    · next usable =>
        rw [Bool.or_eq_true, not_or, Bool.not_eq_true', Bool.not_eq_false,
          decide_eq_true_eq, not_not] at usable
        exact ⟨root, rfl, usable.1, usable.2⟩

theorem anyProofEligible_ok {proofs : List SupplyChainTransparencyProof}
    (eligible : reg.anyProofEligible now proofs = .ok true) :
    ∃ proof ∈ proofs, proof.signatureVerified = true ∧ proof.identityVerified = true ∧
        ActiveRoot reg now (reg.root? proof.logTrustRootId) := by
  induction proofs with
  | nil =>
    cases eligible
  | cons proof rest ih =>
    rw [TrustRegistry.anyProofEligible] at eligible
    split at eligible
    · cases eligible
    · next own =>
        rw [TrustRegistry.transparencyProofIsEligible] at own
        split at own
        · cases own
        · next root found =>
            have checks := Except.ok.inj own
            rw [Bool.and_eq_true, Bool.and_eq_true] at checks
            refine ⟨proof, List.mem_cons_self, checks.1.1, checks.1.2, ?_⟩
            rw [found]
            exact activeRoot_of_eligible checks.2
    · obtain ⟨other, mem, verified⟩ := ih eligible
      exact ⟨other, List.mem_cons_of_mem proof mem, verified⟩

theorem transparency_verified {attestation : ModelSupplyChainAttestation}
    (verified : reg.supplyChainTransparencyStatus attestation now =
      .ok "verified") :
    ∃ proof ∈ reg.proofs, proof.supplyChainAttestationId = attestation.id ∧
        proof.signatureVerified = true ∧ proof.identityVerified = true ∧
          ActiveRoot reg now (reg.root? proof.logTrustRootId) := by
  rw [TrustRegistry.supplyChainTransparencyStatus] at verified
  split at verified
  · exact absurd (Except.ok.inj verified) (by decide)
  · cases read : reg.anyProofEligible now (reg.proofs.filter
        (fun proof => proof.supplyChainAttestationId = attestation.id)) with
    | error raised =>
      rw [read] at verified
      cases verified
    | ok eligible =>
      rw [read] at verified
      cases eligible with
      | true =>
        obtain ⟨proof, mem, rest⟩ := anyProofEligible_ok read
        obtain ⟨stored, named⟩ := List.mem_filter.mp mem
        exact ⟨proof, stored, of_decide_eq_true named, rest⟩
      | false =>
        change (if _ then _ else _ : Except ServiceError String) = _ at verified
        split at verified
        · exact absurd (Except.ok.inj verified) (by decide)
        · exact absurd (Except.ok.inj verified) (by decide)

theorem eligibleReceipt_of_ok {receipt : ProductionEvidenceReceipt}
    (eligible : reg.productionReceiptIsEligible receipt now = .ok true) :
    EligibleReceipt reg receipt now := by
  rw [TrustRegistry.productionReceiptIsEligible] at eligible
  split at eligible
  · cases eligible
  · next signed =>
      rw [Bool.not_eq_true', Bool.not_eq_false, Bool.and_eq_true] at signed
      split at eligible
      · cases eligible
      · next collector =>
          rw [Bool.not_eq_true', Bool.not_eq_false] at collector
          split at eligible
          · cases eligible
          · next attestation found =>
              obtain ⟨mem, named⟩ := Table.find?_eq_some_iff.mp found
              rw [TrustRegistry.supplyChainIsProductionEligible] at eligible
              split at eligible
              · cases eligible
              · next unrevoked =>
                  simp only [] at eligible
                  split at eligible
                  · cases eligible
                  · next publisher =>
                      rw [Bool.not_eq_true', Bool.not_eq_false] at publisher
                      split at eligible
                      · cases eligible
                      · next status transparency =>
                          have isVerified := of_decide_eq_true (Except.ok.inj eligible)
                          rw [isVerified] at transparency
                          refine ⟨signed.1, signed.2, ?_,
                            activeRoot_of_eligible collector, attestation,
                            mem, named, activeRoot_of_eligible publisher,
                            transparency_verified transparency⟩
                          change attestation.id = _ at named
                          rw [← named]
                          exact Bool.not_eq_true _ ▸ unrevoked

end Eligibility

theorem eligibleRuns_ok {reg : TrustRegistry} {now : Time}
    {receipts : List (ProductionEvidenceReceipt × Uuid)} {runIds : List Uuid}
    (done : eligibleRuns reg now receipts = .ok runIds) :
    ∀ runId ∈ runIds, ∃ receipt, (receipt, runId) ∈ receipts ∧ EligibleReceipt reg receipt now := by
  induction receipts generalizing runIds with
  | nil =>
    rw [eligibleRuns] at done
    rw [← Except.ok.inj done]
    exact fun runId mem => absurd mem List.not_mem_nil
  | cons item rest ih =>
    have fromRest : ∀ {others : List Uuid},
        eligibleRuns reg now rest = .ok others → ∀ runId ∈ others,
          ∃ receipt, (receipt, runId) ∈ item :: rest ∧ EligibleReceipt reg receipt now := by
      intro others remaining runId mem
      obtain ⟨receipt, listed, eligible⟩ :=
        ih remaining runId mem
      exact ⟨receipt, List.mem_cons_of_mem item listed, eligible⟩
    obtain ⟨receipt, ownRun⟩ := item
    rw [eligibleRuns] at done
    split at done
    · exact fromRest done
    · split at done
      · cases done
      · next eligible isEligible =>
          split at done
          · cases done
          · next others remaining =>
              have same := Except.ok.inj done
              intro runId mem
              rw [← same] at mem
              cases eligible with
              | false =>
                exact fromRest remaining runId mem
              | true =>
                rcases List.mem_cons.mp mem with rfl | later
                · exact ⟨receipt, List.mem_cons_self, eligibleReceipt_of_ok isEligible⟩
                · exact fromRest remaining runId later

theorem counted_eligible {lower : String → String} {store : EvidenceStore} {runIds : List Uuid}
    {now : Time} {tiers : List (BenchmarkResult × EvidenceSourceTrustTier)}
    (done : gateSourceTiers lower store runIds now = .ok tiers) {result : BenchmarkResult}
    (counted : (result, EvidenceSourceTrustTier.productionCaptured) ∈ tiers) :
    result ∈ store.results ∧ ∃ receipt ∈ store.registry.receipts,
      ∃ capture ∈ store.captures, capture.receiptId = receipt.id ∧
        capture.benchmarkRunId = result.benchmarkRunId ∧
          EligibleReceipt store.registry receipt now := by
  rw [gateSourceTiers] at done
  split at done
  · cases done
  · next verified isVerified =>
      rw [← Except.ok.inj done] at counted
      obtain ⟨other, mem, same⟩ := List.mem_map.mp counted
      obtain ⟨rfl, tier⟩ := Prod.mk.inj same
      have inStore := List.mem_of_mem_filter mem
      have inVerified : other.benchmarkRunId ∈ verified := by
        by_contra absent
        rw [sourceTier] at tier
        split at tier
        · cases tier
        · next notUnverified =>
            refine notUnverified ⟨tier, ?_⟩
            rw [List.contains_iff_mem]
            exact absent
      obtain ⟨receipt, listed, eligible⟩ :=
        eligibleRuns_ok isVerified other.benchmarkRunId inVerified
      rw [receiptsOfRuns, List.mem_filterMap] at listed
      obtain ⟨capture, captureMem, joined⟩ := listed
      split at joined
      · obtain ⟨stored, kept, pair⟩ := Option.map_eq_some_iff.mp joined
        obtain ⟨rfl, run⟩ := Prod.mk.inj pair
        obtain ⟨found, _⟩ := Option.filter_eq_some_iff.mp kept
        obtain ⟨receiptMem, named⟩ := Table.find?_eq_some_iff.mp found
        exact ⟨inStore, stored, receiptMem, capture, captureMem, named.symm, run, eligible⟩
      · cases joined

def ChecksReceipt (services : EvidenceServices) (capture : ReceiptCapture)
    (results : List BenchmarkResult) (store : EvidenceStore) (label : EvidenceLabel) : Prop :=
  ∃ catalog call after, label = .createReceipt catalog call ∧
    label.apply services store = .ok after ∧
    capture ∉ store.captures ∧ capture ∈ after.captures ∧
    store.resultsOf capture.benchmarkRunId = results ∧
    (∀ result ∈ results, result.dataSource = Traffic.productionCapturedSource) ∧
    integerClaim services.receipts capture.statement "result_count" =
      .ok results.length ∧
    capture.resultCount = results.length

section Creation

variable {env : ReceiptEnvironment} {store : EvidenceStore}

theorem checkCounts_yields (claims : Json) (runId : Uuid) :
    Yields (checkCounts env store claims runId) (fun counts =>
      counts.1 = (store.resultsOf runId).length ∧
      (∀ result ∈ store.resultsOf runId, result.dataSource = Traffic.productionCapturedSource) ∧
      integerClaim env claims "result_count" = .ok counts.1) := by
  unfold checkCounts
  dsimp only
  refine Yields.check (fun provenance => ?_)
  refine Yields.bind (Yields.self _) (fun resultCount isResultCount => ?_)
  refine Yields.check (fun sameResults => ?_)
  refine Yields.bind (Yields.self _) (fun metricCount _ => ?_)
  refine Yields.check (fun _ => ?_)
  rw [not_not] at sameResults
  refine Yields.pure ⟨rfl, ?_, ?_⟩
  · intro result mem
    by_contra other
    exact provenance (List.any_eq_true.mpr ⟨result, mem, decide_eq_true other⟩)
  · rw [← sameResults]
    exact isResultCount

theorem createReceipt_yields (policy : StatementPolicy) (catalog : Catalog) (call : ReceiptCall) :
    Yields (createProductionEvidenceReceipt env policy catalog store call) (fun answer =>
      answer.1 = store ∨ (answer.1.results = store.results ∧ ∃ capture ∉ store.captures,
          (∀ other, other ∈ answer.1.captures ↔ other ∈ store.captures ∨ other = capture) ∧
          (∀ result ∈ store.resultsOf capture.benchmarkRunId,
            result.dataSource = Traffic.productionCapturedSource) ∧
          integerClaim env capture.statement "result_count" =
            .ok (store.resultsOf capture.benchmarkRunId).length ∧
          capture.resultCount = (store.resultsOf capture.benchmarkRunId).length)) := by
  refine Yields.bind (Yields.self _) (fun _ _ => ?_)
  refine Yields.bind (Yields.self _) (fun signed _ => ?_)
  obtain ⟨statement, root⟩ := signed
  refine Yields.check (fun _ => ?_)
  refine Yields.bind (Yields.self _) (fun subject _ => ?_)
  refine Yields.bind (Yields.self _) (fun digest _ => ?_)
  refine Yields.bind (checkCounts_yields statement.claims subject.run.id) (fun counts checked => ?_)
  refine Yields.bind (Yields.self _) (fun window _ => ?_)
  dsimp only
  split
  · refine Yields.check (fun _ => ?_)
    exact Yields.pure (Or.inl rfl)
  · refine Yields.bind (addKeyed_yields _ _ _) (fun receipts _ => ?_)
    refine Yields.bind (addKeyed_yields _ _ _) (fun captures inserted => ?_)
    refine Yields.pure (Or.inr ⟨rfl, _, inserted.1, inserted.2, checked.2.1, ?_, checked.1⟩)
    rw [checked.2.2, checked.1]

end Creation

section Steps

variable {services : EvidenceServices} {store after : EvidenceStore}
  {label : EvidenceLabel}

/-- A call changes nothing here, or adds one result to its run, or one receipt that has checked
its run. -/
inductive Writes (services : EvidenceServices) (label : EvidenceLabel)
    (store after : EvidenceStore) : Prop
  | nothing (results : after.results = store.results)
      (captures : after.captures = store.captures)
  | result (added : BenchmarkResult)
      (run : label.addsTo? = some added.benchmarkRunId)
      (results : after.results = store.results ++ [added])
      (captures : after.captures = store.captures)
  | receipt (capture : ReceiptCapture)
      (results : after.results = store.results)
      (captures : ∀ other, other ∈ after.captures ↔
        other ∈ store.captures ∨ other = capture)
      (checks : ChecksReceipt services capture
        (store.resultsOf capture.benchmarkRunId) store label)

theorem createBenchmarkRun_yields (catalog : Catalog) (payload : BenchmarkRunCreate) :
    Yields (createBenchmarkRun catalog store payload) (fun after =>
      after.results = store.results ∧ after.captures = store.captures) := by
  unfold createBenchmarkRun
  refine Yields.check (fun _ => ?_)
  split
  · exact Yields.throw _
  · refine Yields.check (fun _ => ?_)
    refine Yields.check (fun _ => ?_)
    split
    · exact Yields.throw _
    · refine Yields.check (fun _ => ?_)
      refine Yields.bind (Yields.self _) (fun configuration _ => ?_)
      refine Yields.bind (Yields.self _) (fun _ _ => ?_)
      refine Yields.bind (Yields.self _) (fun runs _ => ?_)
      exact Yields.pure ⟨rfl, rfl⟩

theorem revoke_yields {env : ReceiptEnvironment} (catalog : Catalog) (call : RevocationCall) :
    Yields (revokeModelSupplyChainAttestation env catalog store call)
      (fun after => after.results = store.results ∧ after.captures = store.captures) := by
  refine Yields.bind (Yields.self _) (fun _ _ => ?_)
  split
  · exact Yields.throw _
  · refine Yields.bind (Yields.self _) (fun revoked _ => ?_)
    refine Yields.check (fun _ => ?_)
    refine Yields.check (fun _ => ?_)
    exact Yields.pure ⟨rfl, rfl⟩

theorem writes_of_apply (applied : label.apply services store = .ok after) :
    Writes services label store after := by
  cases label with
  | createRun catalog payload =>
    obtain ⟨results, captures⟩ :=
      createBenchmarkRun_yields catalog payload after applied
    exact .nothing results captures
  | createResult catalog payload =>
    rw [EvidenceLabel.apply, createBenchmarkResult] at applied
    split at applied
    · cases applied
    · split at applied
      · cases applied
      · rw [← Except.ok.inj applied]
        exact .result _ rfl rfl rfl
  | createMetric catalog payload =>
    rw [EvidenceLabel.apply, createInferenceMetric] at applied
    split at applied
    · cases applied
    · split at applied
      · cases applied
      · split at applied
        · cases applied
        · rw [← Except.ok.inj applied]
          exact .nothing rfl rfl
  | importEvent cases_ signerIdentity event resultId metricId =>
    rw [EvidenceLabel.apply, importEvidence] at applied
    split at applied
    · cases applied
    · next imported accepted =>
        obtain ⟨imports, _⟩ :=
          Traffic.importProductionAgentEvidence_eq_ok accepted
        rw [← Except.ok.inj applied]
        exact .result imported.result (congrArg some imports.resultRun.symm) rfl rfl
  | createReceipt catalog call =>
    have whole := applied
    rw [EvidenceLabel.apply] at applied
    cases done : createProductionEvidenceReceipt services.receipts
        services.policy catalog store call with
    | error raised =>
      rw [done] at applied
      cases applied
    | ok answer =>
      rw [done] at applied
      have same : answer.1 = after := Except.ok.inj applied
      subst same
      rcases createReceipt_yields services.policy catalog call answer done
        with replayed | ⟨results, capture, fresh, captures, sources, signed, counted⟩
      · rw [replayed]
        exact .nothing rfl rfl
      · exact .receipt capture results captures ⟨catalog, call, answer.1, rfl, whole, fresh,
            (captures capture).mpr (Or.inr rfl), rfl, sources, signed,
            counted⟩
  | revoke catalog call =>
    obtain ⟨results, captures⟩ := revoke_yields catalog call after applied
    exact .nothing results captures
  | operate op =>
    rw [← Except.ok.inj applied]
    exact .nothing rfl rfl
  | attest attestation =>
    have added : Yields (addAttestation store attestation) (fun after =>
        after.results = store.results ∧ after.captures = store.captures) :=
      Yields.bind (Yields.self _) (fun _ _ => Yields.pure ⟨rfl, rfl⟩)
    obtain ⟨results, captures⟩ := added after applied
    exact .nothing results captures
  | prove proof =>
    rw [← Except.ok.inj applied]
    exact .nothing rfl rfl

theorem writes_of_step (taken : stepsOf (EvidenceStore.next services) store label after) :
    Writes services label store after := by
  have same := Option.some.inj taken
  cases applied : label.apply services store with
  | error raised =>
    rw [applied] at same
    rw [← show store = after from same]
    exact .nothing rfl rfl
  | ok next =>
    rw [applied] at same
    rw [← show next = after from same]
    exact writes_of_apply applied

def AllChecked (services : EvidenceServices) (start : EvidenceStore)
    (labels : List EvidenceLabel) (store : EvidenceStore) : Prop :=
  ∀ capture ∈ store.captures, Happened (stepsOf (EvidenceStore.next services)) start
      (ChecksReceipt services capture (store.resultsOf capture.benchmarkRunId)) labels

theorem AllChecked.step {start : EvidenceStore} {labels : List EvidenceLabel}
    (held : AllChecked services start labels store)
    (exec : Execution (stepsOf (EvidenceStore.next services)) start labels store)
    (sealed : SealsRuns store label)
    (taken : stepsOf (EvidenceStore.next services) store label after) :
    AllChecked services start (labels ++ [label]) after := by
  have kept : ∀ capture ∈ store.captures, after.resultsOf capture.benchmarkRunId =
        store.resultsOf capture.benchmarkRunId →
      Happened (stepsOf (EvidenceStore.next services)) start (ChecksReceipt services capture
          (after.resultsOf capture.benchmarkRunId)) (labels ++ [label]) := by
    intro capture mem same
    rw [same]
    exact (held capture mem).later label
  cases writes_of_step taken with
  | nothing results captures =>
    intro capture mem
    rw [captures] at mem
    refine kept capture mem ?_
    rw [EvidenceStore.resultsOf, results]
    rfl
  | result added run results captures =>
    intro capture mem
    rw [captures] at mem
    refine kept capture mem ?_
    -- the run of the new result has no receipt
    have other : added.benchmarkRunId ≠ capture.benchmarkRunId := by
      intro same
      refine sealed capture mem ?_
      rw [run, same]
    rw [EvidenceStore.resultsOf, results, List.filter_append, List.filter_singleton]
    simp [other, EvidenceStore.resultsOf]
  | receipt capture results captures checks =>
    have same : ∀ runId, after.resultsOf runId = store.resultsOf runId := by
      intro runId
      rw [EvidenceStore.resultsOf, results]
      rfl
    intro other mem
    rcases (captures other).mp mem with old | rfl
    · exact kept other old (same other.benchmarkRunId)
    · rw [same]
      exact Happened.now exec taken checks

end Steps

/-- The result is in a run with an eligible receipt, which has checked exactly
the results that the run has. -/
def CoveredByReceipt (services : EvidenceServices) (start : EvidenceStore)
    (labels : List EvidenceLabel) (store : EvidenceStore) (now : Time)
    (result : BenchmarkResult) : Prop :=
  ∃ receipt ∈ store.registry.receipts, ∃ capture ∈ store.captures, capture.receiptId = receipt.id ∧
    capture.benchmarkRunId = result.benchmarkRunId ∧ EligibleReceipt store.registry receipt now ∧
    result ∈ store.resultsOf capture.benchmarkRunId ∧
    capture.resultCount = (store.resultsOf capture.benchmarkRunId).length ∧
    Happened (stepsOf (EvidenceStore.next services)) start (ChecksReceipt services capture
        (store.resultsOf capture.benchmarkRunId)) labels

/-- In every run from no receipts that adds no result to a run with a receipt, production
evidence is covered. -/
theorem production_covered (services : EvidenceServices) (start : EvidenceStore)
    (noReceipts : start.captures.rows = []) {labels : List EvidenceLabel} {store : EvidenceStore}
    (exec : Execution (Guarded SealsRuns
      (stepsOf (EvidenceStore.next services))) start labels store)
    (runIds : List Uuid) (now : Time)
    (tiers : List (BenchmarkResult × EvidenceSourceTrustTier))
    (summarized : gateSourceTiers services.receipts.text.lower store runIds now = .ok tiers) :
    ∀ result, (result, EvidenceSourceTrustTier.productionCaptured) ∈ tiers →
      CoveredByReceipt services start labels store now result := by
  have checked : AllChecked services start labels store :=
    exec.invariant_of_past (AllChecked services start) (by
        intro capture mem
        change capture ∈ start.captures.rows at mem
        rw [noReceipts] at mem
        cases mem)
      (fun _ _ _ _ past held taken =>
        held.step past.of_guarded taken.1 taken.2)
  intro result counted
  obtain ⟨inStore, receipt, receiptMem, capture, captureMem, named, run,
    eligible⟩ := counted_eligible summarized counted
  have happened := checked capture captureMem
  have inRun : result ∈ store.resultsOf capture.benchmarkRunId :=
    List.mem_filter.mpr ⟨inStore, decide_eq_true run.symm⟩
  obtain ⟨_, _, _, _, _, _, _, _, isCheck⟩ := id happened
  obtain ⟨_, _, _, _, _, _, _, _, _, _, count⟩ := isCheck
  exact ⟨receipt, receiptMem, capture, captureMem, named, run, eligible, inRun, count, happened⟩

def idText (id : Uuid) : String :=
  String.ofList (List.replicate id 'i')

def captureDigest : String :=
  String.ofList (List.replicate 64 'a')

def captureClaims : Json := .obj
  [("iss", .str "capture"), ("iat", .int 0), ("jti", .str "capture-1"),
    ("schema_version", .str "model-atlas-production-capture-v1"),
    ("benchmark_run_id", .str (idText 7)),
    ("model_artifact_attestation_id", .str (idText 4)),
    ("supply_chain_attestation_id", .str (idText 5)),
    ("subject_digest", .str captureDigest),
    ("artifact_attestation_hash", .str "runtime"),
    ("supply_chain_attestation_hash", .str "chain"),
    ("result_count", .int 1), ("metric_count", .int 0),
    ("capture_started_at", .str "start"), ("capture_ended_at", .str "end"),
    ("source_environment", .obj [("name", .str "production")])]

def captureTrust : SourceEnvironment :=
  { plainTrust with
    unverifiedHeader := fun _ =>
      some (.obj [("kid", .str "c"), ("alg", .str "RS256")])
    unverifiedClaims := fun _ => some captureClaims
    verifiedClaims := fun _ _ _ _ => .ok captureClaims
    issuedAt := fun _ => some 0 }

def captureServices : EvidenceServices where
  receipts :=
    { captureTrust.toTrustEnvironment with
      parseUuid := fun text => some text.length
      parseInt := fun _ => none
      parseDatetime := fun _ => some (0, true)
      loadJwk := fun _ _ _ => .error (.domainValidation "no keys") }
  imports :=
    { text := { lower := id, render := fun _ => "" }
      sha256 := id
      planOutput := fun _ => .invalidJson
      scoreCaseResult := fun _ _ => .ok ()
      evidenceHash := fun _ _ => "evidence" }
  sources := captureTrust
  policy := ⟨none, [], [], 3600⟩

def internalRoot (id : Uuid) (purpose : TrustPurpose) (issuer keyId : String) :
    EvidenceTrustRoot where
  id := id
  name := issuer
  purpose := purpose
  issuer := issuer
  keyId := keyId
  algorithm := "RS256"
  keyFingerprint := "hash"
  publicKeyJwk := .obj [("kid", .str keyId), ("alg", .str "RS256")]
  trustTier := .internalCa
  sourceType := .internalCa
  sourceUri := some "ca"
  validFrom := 0
  validUntil := none
  supersedesTrustRootId := none
  trustSourceId := none
  trustSourceSyncId := none
  registeredAt := 0
  registeredByIdentity := governor
  identityVerified := true
  registrationHash := issuer
  notes := none

def attestedRegistry : TrustRegistry where
  roots :=
    { rows := [internalRoot 1 .modelPublisher "labs" "p",
        internalRoot 2 .productionCollector "capture" "c",
        internalRoot 3 .transparencyLog "log" "l"]
      distinct := by decide }
  actions := { rows := [], distinct := List.Pairwise.nil }
  sources := ∅
  syncs := { rows := [], distinct := List.Pairwise.nil }
  attestations :=
    { rows := [⟨5, some 1, .internalCa, "labs", "p", "hash"⟩]
      keysNodup := by decide }
  attestationActions := []
  receipts := ∅
  proofs := [⟨6, 5, 3, true, true⟩]
  drawn := 7

def capturedStore : EvidenceStore where
  registry := attestedRegistry
  runs :=
    { rows := [{ id := 7, dataSource := "production_captured"
                 evaluationSuiteId := none, hardwareProfileId := 1
                 modelArtifactId := 8, deploymentConfigurationId := none
                 status := "completed" }]
      keysNodup := by decide }
  results := []
  metrics := []
  captures := ∅

def captureCatalog : Catalog where
  hardwareProfile? _ := none
  modelArtifact? _ := none
  hasBenchmarkTask _ := false
  promptVersion? _ := none
  deploymentConfiguration? _ := none
  evaluationSuite? _ := none
  suiteCase? _ := none
  runtimeAttestation? _ := some ⟨4, 8, "sha256:" ++ captureDigest, "runtime"⟩
  chainColumns _ := ⟨4, "chain", "verifier"⟩

def addsResult (resultId : Uuid) : EvidenceLabel :=
  .createResult captureCatalog
    ⟨resultId, 7, none, "sample", none, none, "production_captured"⟩

def createsReceipt : EvidenceLabel :=
  .createReceipt captureCatalog ⟨10, "jws", none, governor, 0⟩

def afterEvidence (labels : List EvidenceLabel) : Option EvidenceStore :=
  perform (EvidenceStore.next captureServices) capturedStore labels

def countsAs (count : Nat) (store : EvidenceStore) : Bool :=
  match gateSourceTiers captureServices.receipts.text.lower store [7] 0 with
  | .ok tiers => productionCapturedCount tiers = count
  | .error _ => false

theorem tiers_of_countsAs {count : Nat} {store : EvidenceStore}
    (counts : countsAs count store = true) :
    ∃ tiers, gateSourceTiers captureServices.receipts.text.lower store [7] 0 =
      .ok tiers ∧ productionCapturedCount tiers = count := by
  rw [countsAs] at counts
  split at counts
  · next tiers done =>
      exact ⟨tiers, done, of_decide_eq_true counts⟩
  · cases counts

theorem production_covered_one :
    ∃ store tiers, afterEvidence [addsResult 9, createsReceipt] = some store ∧
      gateSourceTiers captureServices.receipts.text.lower store [7] 0 = .ok tiers ∧
      productionCapturedCount tiers = 1 ∧
      ∀ result, (result, EvidenceSourceTrustTier.productionCaptured) ∈ tiers →
        CoveredByReceipt captureServices capturedStore
          [addsResult 9, createsReceipt] store 0 result := by
  set_option maxRecDepth 8000 in
  have performed : (afterEvidence [addsResult 9, createsReceipt]).any (countsAs 1) = true := by
    decide
  obtain ⟨store, reached, counts⟩ := (Option.any_eq_true _ _).mp performed
  obtain ⟨tiers, done, count⟩ := tiers_of_countsAs counts
  have guarded : MeetsGuard SealsRuns (EvidenceStore.next captureServices)
      capturedStore [addsResult 9, createsReceipt] := by
    refine ⟨fun _ mem => absurd mem (Table.not_mem_empty _),
      fun _ _ => ⟨fun _ _ same => (by cases same), fun _ _ => trivial⟩⟩
  exact ⟨store, tiers, reached, done, count, production_covered captureServices capturedStore rfl
      (Execution.of_perform_guarded reached guarded) [7] 0 tiers done⟩

/-- A second result, added after the receipt, counts as production evidence,
and no receipt has checked it. -/
theorem production_uncovered :
    ∃ store tiers, afterEvidence [addsResult 9, createsReceipt, addsResult 11] = some store ∧
      gateSourceTiers captureServices.receipts.text.lower store [7] 0 = .ok tiers ∧
      productionCapturedCount tiers = 2 ∧ ∀ result, ¬ CoveredByReceipt captureServices capturedStore
        [addsResult 9, createsReceipt, addsResult 11] store 0 result := by
  set_option maxRecDepth 8000 in
  have performed : (afterEvidence [addsResult 9, createsReceipt, addsResult 11]).any (fun store =>
        countsAs 2 store && store.captures.rows.all (fun capture =>
          capture.resultCount ≠ (store.resultsOf capture.benchmarkRunId).length)) = true := by
    decide
  obtain ⟨store, reached, checks⟩ := (Option.any_eq_true _ _).mp performed
  rw [Bool.and_eq_true] at checks
  obtain ⟨tiers, done, count⟩ := tiers_of_countsAs checks.1
  refine ⟨store, tiers, reached, done, count, ?_⟩
  rintro result ⟨receipt, _, capture, mem, _, _, _, _, same, _⟩
  exact of_decide_eq_true (List.all_eq_true.mp checks.2 capture mem) same

end ModelAtlas.Evidence
