import ModelAtlas.Foundations.Execution
import ModelAtlas.Foundations.Yields
import ModelAtlas.Trust.SourceSync

/-!
# Retired and revoked keys stay so

A root and an action on it are never taken away, so a key whose root was
rotated, retired or revoked is trusted in no later state.
-/

namespace ModelAtlas.Trust

open Foundations Approval

inductive RegistryOperation where
  | createRoot (payload : EvidenceTrustRootCreate)
      (signerIdentity : SignerIdentity) (clock : ServiceClock)
  | recordAction (trustRootId : Uuid) (payload : EvidenceTrustRootActionCreate)
      (signerIdentity : SignerIdentity) (clock : ServiceClock)
  | sync (call : SourceSyncCall)

/-- The registry after a call that returned, and the same one after a call that
raised and was rolled back. -/
def committed {Answer : Type} (reg : TrustRegistry) :
    Except ServiceError (TrustRegistry × Answer) → TrustRegistry
  | .ok (after, _) => after
  | .error _ => reg

section Steps

variable (env : SourceEnvironment)

def operateRegistry (reg : TrustRegistry) : RegistryOperation → TrustRegistry
  | .createRoot payload signerIdentity clock =>
    committed reg (createEvidenceTrustRoot env.toTrustEnvironment reg payload signerIdentity clock)
  | .recordAction trustRootId payload signerIdentity clock =>
    committed reg (recordEvidenceTrustRootAction env.toTrustEnvironment reg
        trustRootId payload signerIdentity clock)
  | .sync call =>
    committed reg (syncEvidenceTrustSource env reg call)

def nextRegistry (reg : TrustRegistry) (op : RegistryOperation) : Option TrustRegistry :=
  some (operateRegistry env reg op)

abbrev RegistryStep : TrustRegistry → RegistryOperation → TrustRegistry → Prop :=
  stepsOf (nextRegistry env)

end Steps

structure Grows (before after : TrustRegistry) : Prop where
  roots : ∀ root ∈ before.roots, root ∈ after.roots
  actions : ∀ action ∈ before.actions, action ∈ after.actions

namespace Grows

theorem refl (reg : TrustRegistry) : Grows reg reg where
  roots _ mem := mem
  actions _ mem := mem

theorem trans {first second third : TrustRegistry}
    (before : Grows first second) (after : Grows second third) :
    Grows first third where
  roots root mem := after.roots root (before.roots root mem)
  actions action mem :=
    after.actions action (before.actions action mem)

theorem reconcileExistingEvidence (reg : TrustRegistry) (root : EvidenceTrustRoot) :
    Grows reg (reconcileExistingEvidence reg root) := by
  rw [Trust.reconcileExistingEvidence]
  cases root.purpose with
  | modelPublisher => exact ⟨fun _ mem => mem, fun _ mem => mem⟩
  | productionCollector =>
    exact ⟨fun _ mem => mem, fun _ mem => mem⟩
  | transparencyLog => exact refl reg

theorem committed {Answer : Type} {reg : TrustRegistry}
    {answer : Except ServiceError (TrustRegistry × Answer)}
    (grows : Yields answer (fun answered => Grows reg answered.1)) :
    Grows reg (committed reg answer) := by
  cases answer with
  | error raised => exact refl reg
  | ok answered => exact grows answered rfl

end Grows

theorem addRow_yields {Row : Type} {clash : Row → Row → Bool} (constraint : String)
    (table : UniqueRows Row clash) (row : Row) :
    Yields (addRow constraint table row) (fun inserted => ∀ tested ∈ table, tested ∈ inserted) := by
  intro inserted added tested mem
  exact (addRow_eq_ok added tested).mpr (Or.inl mem)

section Operations

variable (env : TrustEnvironment) (reg : TrustRegistry)

theorem insertRegisteredRoot_grows
    (root : EvidenceTrustRoot) (superseded : Option EvidenceTrustRoot)
    (signerIdentity : SignerIdentity) (clock : ServiceClock) :
    Yields (insertRegisteredRoot env reg root superseded signerIdentity clock) (Grows reg) := by
  refine Yields.bind (addRow_yields _ _ _) (fun roots rootsKept => ?_)
  cases superseded with
  | none =>
    exact Yields.pure ⟨rootsKept, fun _ mem => mem⟩
  | some old =>
    refine Yields.bind (addRow_yields _ _ _) (fun actions actionsKept => ?_)
    exact Yields.pure ⟨rootsKept, actionsKept⟩

theorem createEvidenceTrustRoot_grows (payload : EvidenceTrustRootCreate)
    (signerIdentity : SignerIdentity) (clock : ServiceClock) :
    Yields (createEvidenceTrustRoot env reg payload signerIdentity clock)
      (fun answer => Grows reg answer.1) := by
  refine Yields.bind (Yields.self _) (fun _ _ => ?_)
  refine Yields.check (fun _ => ?_)
  refine Yields.bind (Yields.self _) (fun jwk _ => ?_)
  refine Yields.bind (Yields.self _) (fun _ _ => ?_)
  refine Yields.bind (Yields.self _) (fun superseded _ => ?_)
  dsimp only
  cases reg.registered? payload.purpose (pyStrip payload.issuer) (pyStrip payload.keyId) with
  | some stored =>
    refine Yields.check (fun _ => ?_)
    exact Yields.pure (Grows.reconcileExistingEvidence reg stored)
  | none =>
    refine Yields.bind (insertRegisteredRoot_grows env reg _ superseded signerIdentity clock)
      (fun inserted grown => ?_)
    exact Yields.pure (grown.trans (Grows.reconcileExistingEvidence inserted _))

theorem recordEvidenceTrustRootAction_grows
    (trustRootId : Uuid) (payload : EvidenceTrustRootActionCreate)
    (signerIdentity : SignerIdentity) (clock : ServiceClock) :
    Yields (recordEvidenceTrustRootAction env reg trustRootId payload signerIdentity clock)
      (fun answer => Grows reg answer.1) := by
  refine Yields.bind (Yields.self _) (fun _ _ => ?_)
  cases reg.root? trustRootId with
  | none => exact Yields.throw _
  | some root =>
    refine Yields.check (fun _ => ?_)
    refine Yields.check (fun _ => ?_)
    refine Yields.check (fun _ => ?_)
    refine Yields.bind (addRow_yields _ _ _) (fun actions actionsKept => ?_)
    exact Yields.pure ⟨fun _ mem => mem, actionsKept⟩

end Operations

section Syncs

variable (env : SourceEnvironment) (source : EvidenceTrustSource)

theorem importRemoteKeys_grows (sync : EvidenceTrustSourceSync) (signerIdentity : SignerIdentity)
    (now : Time) :
    ∀ (keys : List ValidatedRemoteKey) (reg : TrustRegistry),
        Yields (importRemoteKeys env source sync signerIdentity now keys reg) (Grows reg)
  | [], reg => Yields.ok (Grows.refl reg)
  | remoteKey :: rest, reg => by
    refine Yields.bind (addRow_yields _ _ _) (fun roots rootsKept => ?_)
    have inserted : Grows reg
        { reg with roots := roots, drawn := reg.drawn + 1 } :=
      ⟨rootsKept, fun _ mem => mem⟩
    have reconciled := inserted.trans (Grows.reconcileExistingEvidence _
        (importRemoteKey env source sync signerIdentity now reg.drawn remoteKey))
    exact (importRemoteKeys_grows sync signerIdentity now rest _).mono
      (fun _ imported => reconciled.trans imported)

theorem recordFailedSync_grows (reg : TrustRegistry) (call : SourceSyncCall)
    (failure : SyncFailure) :
    Yields (recordFailedSync env reg source call failure) (fun answer => Grows reg answer.1) := by
  refine Yields.bind (Yields.self _) (fun syncs _ => ?_)
  exact Yields.pure ⟨fun _ mem => mem, fun _ mem => mem⟩

theorem applySync_grows (reg : TrustRegistry) (call : SourceSyncCall) (keys : SyncKeys) :
    Yields (applySync env reg source call keys) (fun answer => Grows reg answer.1) := by
  refine Yields.bind (Yields.self _) (fun syncs _ => ?_)
  have recorded : Grows reg
      { reg with syncs := syncs, drawn := reg.drawn + 1 } :=
    ⟨fun _ mem => mem, fun _ mem => mem⟩
  dsimp only
  cases call.mode with
  | preview => exact Yields.pure recorded
  | apply =>
    refine Yields.bind (importRemoteKeys_grows env source _ _ _ _ _) (fun imported grown => ?_)
    exact Yields.pure (recorded.trans grown)

theorem syncEvidenceTrustSource_grows (reg : TrustRegistry) (call : SourceSyncCall) :
    Yields (syncEvidenceTrustSource env reg call) (fun answer => Grows reg answer.1) := by
  refine Yields.bind (Yields.self _) (fun _ _ => ?_)
  cases reg.sources.find? call.trustSourceId with
  | none => exact Yields.throw _
  | some source =>
    refine Yields.check (fun _ => ?_)
    refine Yields.bind (Yields.self _) (fun _ _ => ?_)
    refine Yields.bind (Yields.self _) (fun outcome _ => ?_)
    cases outcome with
    | error failure =>
      exact recordFailedSync_grows env source reg call failure
    | ok keys =>
      have applied :=
        applySync_grows env source reg call keys
      dsimp only
      split
      · exact recordFailedSync_grows env source reg call _
      · exact applied

end Syncs

theorem grows_of_step {env : SourceEnvironment} {before after : TrustRegistry}
    {op : RegistryOperation} (taken : RegistryStep env before op after) :
    Grows before after := by
  have same : operateRegistry env before op = after :=
    Option.some.inj taken
  rw [← same]
  cases op with
  | createRoot payload signerIdentity clock =>
    exact Grows.committed (createEvidenceTrustRoot_grows _ before payload signerIdentity clock)
  | recordAction trustRootId payload signerIdentity clock =>
    exact Grows.committed (recordEvidenceTrustRootAction_grows _ before trustRootId payload
        signerIdentity clock)
  | sync call =>
    exact Grows.committed (syncEvidenceTrustSource_grows env before call)

namespace TrustRegistry

variable {reg : TrustRegistry} {root : EvidenceTrustRoot}

theorem mem_trustRootActions {rootId : Uuid} {action : EvidenceTrustRootAction} :
    action ∈ reg.trustRootActions rootId ↔ action ∈ reg.actions ∧ action.trustRootId = rootId := by
  rw [trustRootActions, List.mem_insertionSort, List.mem_filter, decide_eq_true_eq]
  exact Iff.rfl

theorem trustRootStatus_ne_active {action : EvidenceTrustRootAction} (mem : action ∈ reg.actions)
    (onRoot : action.trustRootId = root.id) (now : Time) :
    reg.trustRootStatus root now ≠ .active := by
  have listed : action ∈ reg.trustRootActions root.id :=
    mem_trustRootActions.mpr ⟨mem, onRoot⟩
  have typed : ((reg.trustRootActions root.id).map
      EvidenceTrustRootAction.actionType).contains action.actionType = true :=
    List.contains_iff_mem.mpr (List.mem_map.mpr ⟨action, listed, rfl⟩)
  rw [trustRootStatus]
  intro active
  split at active
  · cases active
  · next unrevoked =>
      split at active
      · cases active
      · next unretired =>
          cases type : action.actionType with
          | rotated =>
            rw [type] at typed
            exact unretired (by rw [typed, Bool.or_true])
          | retired =>
            rw [type] at typed
            exact unretired (by rw [typed, Bool.true_or])
          | revoked =>
            rw [type] at typed
            exact unrevoked typed

theorem eq_of_names {other : EvidenceTrustRoot} (mem : root ∈ reg.roots)
    (otherMem : other ∈ reg.roots)
    (named : other.names root.purpose root.issuer root.keyId = true) :
    other = root := by
  have back : root.names other.purpose other.issuer other.keyId = true := by
    simp only [EvidenceTrustRoot.names, Bool.and_eq_true, decide_eq_true_eq] at named ⊢
    exact ⟨⟨named.1.1.symm, named.1.2.symm⟩, named.2.symm⟩
  exact UniqueRows.eq_of_clash otherMem mem
    (by simp [sameTrustRoot, named]) (by simp [sameTrustRoot, back])

theorem root?_eq_some (mem : root ∈ reg.roots) : reg.root? root.id = some root := by
  cases found : reg.root? root.id with
  | none =>
    have absent := List.find?_eq_none.mp found root mem
    simp at absent
  | some other =>
    have otherMem : other ∈ reg.roots :=
      List.mem_of_find?_eq_some found
    have sameId : other.id = root.id := by
      simpa using List.find?_some found
    have same : other = root :=
      UniqueRows.eq_of_clash otherMem mem
        (by simp [sameTrustRoot, sameId]) (by simp [sameTrustRoot, sameId])
    rw [same]

theorem trustRootIsProductionEligible_eq_false
    {now : Time} (inactive : reg.trustRootStatus root now ≠ .active) :
    reg.trustRootIsProductionEligible (some root) now = false := by
  have refused : (!isProductionTrustTier root.trustTier ||
      reg.trustRootStatus root now ≠ .active) = true := by
    simp [inactive]
  simp only [trustRootIsProductionEligible]
  exact if_pos refused

end TrustRegistry

structure Distrusted (reg : TrustRegistry) (root : EvidenceTrustRoot) :
    Prop where
  mem : root ∈ reg.roots
  inactive : ∀ now, reg.trustRootStatus root now ≠ .active

namespace Distrusted

variable {reg : TrustRegistry} {root : EvidenceTrustRoot}
  (distrusted : Distrusted reg root)

include distrusted

theorem names_inactive {other : EvidenceTrustRoot} (otherMem : other ∈ reg.roots)
    (named : other.names root.purpose root.issuer root.keyId = true) (now : Time) :
    reg.trustRootStatus other now ≠ .active := by
  have same : other = root :=
    TrustRegistry.eq_of_names distrusted.mem otherMem named
  rw [same]
  exact distrusted.inactive now

theorem not_eligible (now : Time) : reg.trustRootIsProductionEligible (reg.root? root.id) now =
      false := by
  rw [TrustRegistry.root?_eq_some distrusted.mem]
  exact TrustRegistry.trustRootIsProductionEligible_eq_false (distrusted.inactive now)

theorem verify_raises {env : TrustEnvironment} {compactJws : String}
    {identity : UnverifiedSignedStatementIdentity}
    (inspected : inspectSignedStatement env compactJws = .ok identity)
    (issuer : identity.issuer = root.issuer)
    (keyId : identity.keyId = root.keyId) (maxAgeSeconds : Int) (now : Time) :
    ∃ raised, verifyRegisteredSignedStatement env reg compactJws
      root.purpose maxAgeSeconds now = .error raised := by
  have never : Yields (verifyRegisteredSignedStatement env reg compactJws
        root.purpose maxAgeSeconds now) (fun _ => False) := by
    refine Yields.bind (Yields.self _) (fun named ran => ?_)
    have sameIdentity : identity = named :=
      Except.ok.inj (inspected.symm.trans ran)
    have listed : root ∈ reg.roots.rows.filter (fun other =>
        other.issuer = named.issuer && other.keyId = named.keyId) := by
      rw [List.mem_filter, ← sameIdentity]
      exact ⟨distrusted.mem, by simp [issuer, keyId]⟩
    dsimp only
    rw [if_neg (by simpa using List.ne_nil_of_mem listed)]
    split
    · next matching other only =>
        have otherListed : other ∈ (reg.roots.rows.filter (fun other =>
            other.issuer = named.issuer && other.keyId = named.keyId)).filter
              (fun other => other.purpose = root.purpose) := by
          rw [only]
          exact List.mem_singleton.mpr rfl
        simp only [List.mem_filter, Bool.and_eq_true, decide_eq_true_eq] at otherListed
        have otherNamed : other.names root.purpose root.issuer root.keyId = true := by
          simp [EvidenceTrustRoot.names, otherListed, ← issuer, ← keyId, sameIdentity]
        refine Yields.check (fun _ => ?_)
        refine Yields.check (fun active => ?_)
        exact absurd (not_not.mp active) (distrusted.names_inactive otherListed.1.1 otherNamed now)
    · exact Yields.throw _
  cases ran : verifyRegisteredSignedStatement env reg compactJws root.purpose maxAgeSeconds now with
  | error raised => exact ⟨raised, rfl⟩
  | ok value => exact absurd (never value ran) not_false

theorem attestation_not_eligible {attestation : ModelSupplyChainAttestation}
    (bound : attestation.publisherTrustRootId = some root.id) (now : Time) :
    reg.supplyChainIsProductionEligible attestation now = .ok false := by
  rw [TrustRegistry.supplyChainIsProductionEligible]
  split
  · rfl
  · simp [bound, distrusted.not_eligible now]

theorem proof_not_eligible {proof : SupplyChainTransparencyProof}
    (bound : proof.logTrustRootId = root.id) (now : Time) :
    reg.transparencyProofIsEligible proof now = .ok false := by
  have refused := distrusted.not_eligible now
  rw [TrustRegistry.root?_eq_some distrusted.mem] at refused
  rw [TrustRegistry.transparencyProofIsEligible, bound, TrustRegistry.root?_eq_some distrusted.mem]
  simp [refused]

theorem receipt_not_eligible {receipt : ProductionEvidenceReceipt}
    (bound : receipt.collectorTrustRootId = some root.id) (now : Time) :
    reg.productionReceiptIsEligible receipt now = .ok false := by
  rw [TrustRegistry.productionReceiptIsEligible]
  simp [bound, distrusted.not_eligible now]

end Distrusted

/-- A root that is rotated, retired or revoked is distrusted from then on: no root of its key is
active, no statement of the key verified, and nothing bound to it eligible. -/
theorem distrusted_of_execution {env : SourceEnvironment} {start finish : TrustRegistry}
    {operations : List RegistryOperation} {root : EvidenceTrustRoot}
    {action : EvidenceTrustRootAction}
    (registered : root ∈ start.roots) (acted : action ∈ start.actions)
    (onRoot : action.trustRootId = root.id)
    (exec : Execution (RegistryStep env) start operations finish) :
    (∀ other ∈ finish.roots, other.names root.purpose root.issuer root.keyId = true →
        ∀ now, finish.trustRootStatus other now ≠ .active) ∧
    (∀ compactJws identity, inspectSignedStatement env.toTrustEnvironment compactJws =
          .ok identity →
        identity.issuer = root.issuer → identity.keyId = root.keyId → ∀ maxAgeSeconds now, ∃ raised,
            verifyRegisteredSignedStatement env.toTrustEnvironment
              finish compactJws root.purpose maxAgeSeconds now = .error raised) ∧
    (∀ attestation : ModelSupplyChainAttestation, attestation.publisherTrustRootId = some root.id →
        ∀ now, finish.supplyChainIsProductionEligible attestation now = .ok false) ∧
    (∀ proof : SupplyChainTransparencyProof, proof.logTrustRootId = root.id →
      ∀ now, finish.transparencyProofIsEligible proof now = .ok false) ∧
    ∀ receipt : ProductionEvidenceReceipt, receipt.collectorTrustRootId = some root.id →
        ∀ now, finish.productionReceiptIsEligible receipt now = .ok false := by
  have grown : Grows start finish :=
    exec.invariant (Grows start) (Grows.refl start)
      (fun _ _ _ held taken => held.trans (grows_of_step taken))
  have distrusted : Distrusted finish root :=
    { mem := grown.roots root registered
      inactive := TrustRegistry.trustRootStatus_ne_active (grown.actions action acted) onRoot }
  refine ⟨?_, ?_, ?_, ?_, ?_⟩
  · intro other otherMem named now
    exact distrusted.names_inactive otherMem named now
  · intro compactJws identity inspected issuer keyId maxAgeSeconds now
    exact distrusted.verify_raises inspected issuer keyId maxAgeSeconds now
  · intro attestation bound now
    exact distrusted.attestation_not_eligible bound now
  · intro proof bound now
    exact distrusted.proof_not_eligible bound now
  · intro receipt bound now
    exact distrusted.receipt_not_eligible bound now

/-- Lower case as it is, one hash for all, and a JWS library that accepts every
key. -/
def plainTrust : SourceEnvironment where
  text := { lower := id, render := fun _ => "" }
  stableHash _ := "hash"
  uuidText := Nat.repr
  isoFormat _ := "time"
  isPublicKey _ _ := true
  unverifiedHeader _ := none
  unverifiedClaims _ := none
  verifiedClaims _ _ _ _ := .error (.domainValidation "unverified")
  issuedAt _ := none
  splitUrl _ :=
    { scheme := "https", hostname := some "keys", hasCredentials := false
      query := "", fragment := "" }

def governor : SignerIdentity where
  subjectId := "governor"
  displayName := "Governor"
  role := some "admin"
  identityProvider := "oidc"
  authSource := "jwt"
  identityVerified := true
  ticketReference := none

def publisherKey : EvidenceTrustRootCreate where
  name := "publisher"
  purpose := .modelPublisher
  issuer := "labs"
  keyId := "k1"
  algorithm := "RS256"
  publicKeyJwk := .obj [("kid", .str "k1"), ("alg", .str "RS256")]
  trustTier := .internalCa
  sourceType := .internalCa
  sourceUri := some "ca"
  validFrom := some 0
  validUntil := none
  supersedesTrustRootId := none
  notes := none

def publisherRoot : EvidenceTrustRoot :=
  registeredRoot plainTrust.toTrustEnvironment publisherKey publisherKey.publicKeyJwk 0 governor 0 0

def publisherRevocation : EvidenceTrustRootAction :=
  trustRootAction plainTrust.toTrustEnvironment publisherRoot .revoked "leaked"
    none governor 1 { now := 5, created := 5 }

def revokedRegistry : TrustRegistry where
  roots := { rows := [publisherRoot], distinct := List.pairwise_singleton .. }
  actions :=
    { rows := [publisherRevocation], distinct := List.pairwise_singleton .. }
  sources := ∅
  syncs := ∅
  attestations := ∅
  attestationActions := []
  receipts := ∅
  proofs := []
  drawn := 2

def reregistered : TrustRegistry :=
  operateRegistry plainTrust revokedRegistry
    (.createRoot publisherKey governor { now := 9, created := 9 })

theorem distrusted_of_execution_reregistered : reregistered.roots.rows.length = 1 ∧
    ∀ other ∈ reregistered.roots,
      other.names .modelPublisher "labs" "k1" = true →
        ∀ now, reregistered.trustRootStatus other now ≠ .active := by
  have exec : Execution (RegistryStep plainTrust) revokedRegistry
      [.createRoot publisherKey governor { now := 9, created := 9 }]
      reregistered :=
    Execution.refl.snoc rfl
  have registered : publisherRoot ∈ revokedRegistry.roots :=
    List.mem_singleton.mpr rfl
  have acted : publisherRevocation ∈ revokedRegistry.actions :=
    List.mem_singleton.mpr rfl
  have final := distrusted_of_execution registered acted rfl exec
  exact ⟨rfl, final.1⟩

end ModelAtlas.Trust
