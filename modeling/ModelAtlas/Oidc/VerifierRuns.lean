import ModelAtlas.Foundations.JsonTexts
import ModelAtlas.Oidc.Transparency

/-!
# Runs of verifications

Calls of `verify` by any number of replicas that share a cache, while the
documents of the provider change.
-/

namespace ModelAtlas.Oidc

open Foundations

structure OidcSystem where
  verifiers : Nat → Verifier
  shared : SharedCache

def OidcSystem.initial : OidcSystem where
  verifiers _ := .initial
  shared := ⟨fun _ _ => none, []⟩

def OidcSystem.state (sys : OidcSystem) (replica : Nat) : CacheState :=
  ⟨sys.verifiers replica, sys.shared⟩

def OidcSystem.verify (env : OidcEnvironment) (config : VerificationConfig) (sys : OidcSystem)
    (replica : Nat) (call : VerifyCall) : OidcSystem :=
  let after := (Oidc.verify env config call (sys.state replica)).2
  { verifiers := fun other =>
      if other = replica then after.verifier else sys.verifiers other
    shared := after.shared }

def Verifies (env : OidcEnvironment) (config : VerificationConfig)
    (before : OidcSystem) (label : Nat × VerifyCall) (after : OidcSystem) :
    Prop :=
  after = before.verify env config label.1 label.2

section Runs

variable {env : OidcEnvironment} {config : VerificationConfig}

/-- No invalid document is written to the shared cache, no JWKS served from it in its last
millisecond, and the held discovery documents name the JWKS of the provider. -/
structure IsOrderly (env : OidcEnvironment) (config : VerificationConfig)
    (sys : OidcSystem) (label : Nat × VerifyCall) : Prop where
  writesValid : WritesValidOnly env config label.2
  lasting : ServesLastingRows config label.2 sys.shared
  uri : HoldsProviderUri env config label.2 (sys.state label.1)

structure SoundSystem (env : OidcEnvironment)
    (config : VerificationConfig) (sys : OidcSystem) : Prop where
  rows : SoundRows env config sys.shared
  verifiers : ∀ replica, SoundVerifier env config sys.shared
    (sys.verifiers replica)

theorem SoundSystem.initial : SoundSystem env config .initial where
  rows := by
    intro documentType url row held
    cases held
  verifiers replica := by
    constructor
    · intro copy held
      cases held
    · intro copy held
      cases held

theorem SoundSystem.state {sys : OidcSystem} {replica : Nat} {call : VerifyCall}
    (sound : SoundSystem env config sys) (lasting : ServesLastingRows config call sys.shared) :
    SoundState env config call (sys.state replica) :=
  ⟨sound.rows, sound.verifiers replica, lasting⟩

theorem SoundSystem.step {before after : OidcSystem} {label : Nat × VerifyCall}
    (sound : SoundSystem env config before)
    (taken : Guarded (IsOrderly env config) (Verifies env config) before label after) :
    SoundSystem env config after := by
  obtain ⟨orderly, isAfter⟩ := taken
  have soundState : SoundState env config label.2
      (before.state label.1) := sound.state orderly.lasting
  have kept := (verify_keeps soundState orderly.writesValid).1
  rw [Verifies] at isAfter
  rw [isAfter]
  refine ⟨kept.sound.rows, ?_⟩
  intro replica
  rw [OidcSystem.verify]
  dsimp only
  split
  · exact kept.sound.verifier
  · exact (sound.verifiers replica).extend kept.extends_

theorem soundSystem_of_execution {calls : List (Nat × VerifyCall)} {sys : OidcSystem}
    (exec : Execution (Guarded (IsOrderly env config) (Verifies env config)) .initial calls sys) :
    SoundSystem env config sys :=
  exec.invariant (SoundSystem env config) SoundSystem.initial
    (fun _ _ _ sound taken => sound.step taken)

/-- The key of an accepted token was fetched in time; a key that the caches do not know is
found; no invalid document is served; where the caches hold no keys the verdict is that without
caches. -/
structure IsTransparent (env : OidcEnvironment)
    (config : VerificationConfig) (call : VerifyCall) (state : CacheState) :
    Prop where
  fetched : ∀ key, (verify env config call state).1 = some key →
    FetchedKey config call (verify env config call state).2.shared key
  unknownKey : ∀ uri keys keyId key,
    Publishes env config call uri keys →
    call.keyId = some keyId → keyId ≠ "" →
    namedKey env keyId keys = some key → call.accepts key = true →
    (∀ loaded, HeldKeys config call state uri loaded →
      namedKey env keyId loaded = none) →
    (verify env config call state).1 = some key
  servedRow : ∀ forced documentType url row,
    sharedCacheGet config call forced documentType url state.shared = some row →
    IsValid env config documentType row.payload
  servedDiscovery : ∀ copy,
    current state.verifier.discovery call.now = some copy →
    ∃ payload, readDiscovery env config payload = .ok copy.value
  servedJwks : ∀ copy, current state.verifier.jwks call.now = some copy →
    ∃ payload, readJwks payload = .ok copy.value
  cacheless : ∀ uri keys, Publishes env config call uri keys →
    (∀ loaded, ¬ HeldKeys config call state uri loaded) →
    (verify env config call state).1 =
      cachelessVerify env config call

/-- In every state of an orderly run the caches are transparent to every orderly
call. -/
theorem verifies_transparent {calls : List (Nat × VerifyCall)} {sys : OidcSystem}
    (exec : Execution (Guarded (IsOrderly env config) (Verifies env config)) .initial calls sys)
    (replica : Nat) (call : VerifyCall) (orderly : IsOrderly env config sys (replica, call)) :
    IsTransparent env config call (sys.state replica) := by
  have sound : SoundState env config call (sys.state replica) :=
    (soundSystem_of_execution exec).state orderly.lasting
  have heldUri : ∀ uri keys, Publishes env config call uri keys →
      configuredUri config = none → ∀ held, HeldUri env config call (sys.state replica) held →
        held = uri := by
    intro uri keys publishes unconfigured held isHeld
    exact orderly.uri unconfigured held uri isHeld publishes.named
  refine ⟨(verify_keeps sound orderly.writesValid).2, ?_, ?_, ?_, ?_, ?_⟩
  · intro uri keys keyId key publishes isKeyId nonempty isKey accepted unknown
    exact verify_unknownKey sound orderly.writesValid publishes
      (heldUri uri keys publishes) isKeyId nonempty isKey unknown accepted
  · intro forced documentType url row served
    exact (sound.rows _ _ _ (sharedCacheGet_eq_some served).1).1
  · intro copy isCurrent
    obtain ⟨-, _, payload, valid, -⟩ :=
      sound.verifier.discovery copy (current_eq_some isCurrent).1
    exact ⟨payload, valid⟩
  · intro copy isCurrent
    obtain ⟨-, _, payload, valid, -⟩ :=
      sound.verifier.jwks copy (current_eq_some isCurrent).1
    exact ⟨payload, valid⟩
  · intro uri keys publishes noKeys
    exact verify_cacheless sound orderly.writesValid publishes (heldUri uri keys publishes) noKeys

end Runs

def plainOidc : OidcEnvironment where
  render _ := "value"
  validateProviderUrl _ := .ok ()

def sharedConfig : VerificationConfig where
  issuer := some "https://idp.example"
  discoveryUrl := none
  jwksUri := some "https://idp.example/jwks"
  discoveryCacheTtlSeconds := 3600
  jwksCacheTtlSeconds := 300
  sharedCacheEnabled := true
  discoveryTtlLong := by decide
  jwksTtlLong := by decide

def signingKey : Json :=
  .obj [("kty", .str "RSA"), ("kid", .str "current")]

def callWith (now : Rat) (keys : List Json) : VerifyCall where
  now := now
  keyId := some "current"
  accepts key := key = signingKey
  getFails _ _ := false
  putFails _ _ := false
  fetch _ documentType _ :=
    match documentType with
    | .jwks => .ok (.obj [("keys", .arr keys)])
    | .discovery => .error "OIDC discovery document request failed"

theorem callWith_writesValid (now : Rat) :
    WritesValidOnly plainOidc sharedConfig (callWith now [signingKey]) := by
  intro forced documentType url payload _ fetched
  cases documentType with
  | discovery => cases fetched
  | jwks =>
    rw [← Except.ok.inj fetched]
    exact ⟨[signingKey], rfl⟩

theorem callWith_orderly {sys : OidcSystem} {now : Rat} (replica : Nat)
    (lasting : ServesLastingRows sharedConfig (callWith now [signingKey]) sys.shared) :
    IsOrderly plainOidc sharedConfig sys (replica, callWith now [signingKey]) := by
  refine ⟨callWith_writesValid now, lasting, ?_⟩
  intro unconfigured
  have configured : (configuredUri sharedConfig).isNone = false := by
    decide +kernel
  rw [unconfigured] at configured
  cases configured

theorem verifies_transparent_shared : ∃ sys, Execution (Guarded (IsOrderly plainOidc sharedConfig)
        (Verifies plainOidc sharedConfig)) .initial
        [(0, callWith 0 [signingKey])] sys ∧
      (verify plainOidc sharedConfig (callWith 0 [signingKey]) (sys.state 1)).1 = some signingKey ∧
      FetchedKey sharedConfig (callWith 0 [signingKey])
        (verify plainOidc sharedConfig (callWith 0 [signingKey])
          (sys.state 1)).2.shared signingKey := by
  have noRows : ServesLastingRows sharedConfig (callWith 0 [signingKey])
      OidcSystem.initial.shared := by
    intro forced url row served
    cases (sharedCacheGet_eq_some served).1
  have sound : SoundState plainOidc sharedConfig (callWith 0 [signingKey])
      (OidcSystem.initial.state 0) := SoundSystem.initial.state noRows
  have kept := (verify_keeps sound (callWith_writesValid 0)).1
  have run : Execution (Guarded (IsOrderly plainOidc sharedConfig)
      (Verifies plainOidc sharedConfig)) .initial
      ([] ++ [(0, callWith 0 [signingKey])])
      (OidcSystem.initial.verify plainOidc sharedConfig 0 (callWith 0 [signingKey])) :=
    Execution.snoc Execution.refl ⟨callWith_orderly 0 noRows, rfl⟩
  have accepted : (verify plainOidc sharedConfig (callWith 0 [signingKey])
      ((OidcSystem.initial.verify plainOidc sharedConfig 0
        (callWith 0 [signingKey])).state 1)).1 = some signingKey := by
    decide +kernel
  have transparent := verifies_transparent run 1 (callWith 0 [signingKey])
    (callWith_orderly 1 kept.sound.lasting)
  exact ⟨_, run, accepted, transparent.fetched signingKey accepted⟩

/-- The JWKS without keys stays in the shared cache, and another replica rejects a good token a
second later. -/
theorem verify_emptyJwks : ∃ sys, Execution (Verifies plainOidc sharedConfig) .initial
        [(0, callWith 0 [])] sys ∧
      (verify plainOidc sharedConfig (callWith 1 [signingKey]) (sys.state 1)).1 = none ∧
      cachelessVerify plainOidc sharedConfig (callWith 1 [signingKey]) = some signingKey ∧
      ¬ IsTransparent plainOidc sharedConfig (callWith 1 [signingKey]) (sys.state 1) := by
  have served : (sharedCacheGet sharedConfig (callWith 1 [signingKey]) false .jwks
      "https://idp.example/jwks" (OidcSystem.initial.verify plainOidc sharedConfig
        0 (callWith 0 [])).shared).any (fun row =>
          (readJwks row.payload).toOption.isNone) = true := by
    decide +kernel
  have run : Execution (Verifies plainOidc sharedConfig) .initial ([] ++ [(0, callWith 0 [])])
      (OidcSystem.initial.verify plainOidc sharedConfig 0 (callWith 0 [])) :=
    Execution.snoc Execution.refl rfl
  refine ⟨_, run, by decide +kernel, by decide +kernel, ?_⟩
  intro transparent
  obtain ⟨row, isServed, isInvalid⟩ := (Option.any_eq_true _ _).mp served
  obtain ⟨keys, isValid⟩ := transparent.servedRow _ _ _ row isServed
  rw [isValid] at isInvalid
  cases isInvalid

end ModelAtlas.Oidc
