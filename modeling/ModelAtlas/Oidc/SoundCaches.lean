import Mathlib.Tactic.Linarith
import ModelAtlas.Foundations.Outcomes
import ModelAtlas.Oidc.DocumentCaches

/-!
# Sound caches

Every row and every copy is a valid document that was fetched, and it expires
within its time to live.  A call keeps this where it neither writes an invalid
document nor reads a row in its last millisecond.
-/

namespace ModelAtlas.Oidc

open Foundations

variable {payload : Json}

section Sound

variable (env : OidcEnvironment) (config : VerificationConfig)

def SoundRows (shared : SharedCache) : Prop :=
  ∀ documentType url row, shared.rows documentType url = some row →
    IsValid env config documentType row.payload ∧
      row.expiresAt ≤ row.fetchedAt + config.ttl documentType ∧
      ⟨documentType, url, row.fetchedAt, row.payload⟩ ∈ shared.fetches

def SoundCopy {Value : Type} (documentType : DocumentType) (read : Json → Except String Value)
    (shared : SharedCache) (copy : LocalCopy Value) : Prop :=
  (documentType = .jwks → copy.expiresAt ≤ copy.fetchedAt + config.ttl documentType) ∧
    ∃ url payload, read payload = .ok copy.value ∧
      ⟨documentType, url, copy.fetchedAt, payload⟩ ∈ shared.fetches

structure SoundVerifier (shared : SharedCache) (verifier : Verifier) : Prop where
  discovery : ∀ copy, verifier.discovery = some copy →
    SoundCopy config .discovery (readDiscovery env config) shared copy
  jwks : ∀ copy, verifier.jwks = some copy →
    SoundCopy config .jwks readJwks shared copy

end Sound

section Loading

variable {env : OidcEnvironment} {config : VerificationConfig}
  {call : VerifyCall}

theorem copyTtl_eq (documentType : DocumentType) :
    config.copyTtl documentType = config.ttl documentType ∧
      max 15 (config.ttl documentType) = config.ttl documentType := by
  have long := config.discoveryTtlLong
  have jwksLong := config.jwksTtlLong
  cases documentType with
  | discovery =>
    simp only [VerificationConfig.copyTtl, VerificationConfig.ttl]
    omega
  | jwks =>
    simp only [VerificationConfig.copyTtl, VerificationConfig.ttl]
    omega

def SharedCache.Extends (before after : SharedCache) : Prop :=
  ∀ fetch ∈ before.fetches, fetch ∈ after.fetches

theorem SharedCache.Extends.refl (shared : SharedCache) : shared.Extends shared :=
  fun _ mem => mem

theorem SharedCache.Extends.trans {first second third : SharedCache}
    (left : first.Extends second) (right : second.Extends third) :
    first.Extends third :=
  fun fetch mem => right fetch (left fetch mem)

theorem SoundCopy.extend {Value : Type} {documentType : DocumentType}
    {read : Json → Except String Value} {before after : SharedCache} {copy : LocalCopy Value}
    (sound : SoundCopy config documentType read before copy) (extended : before.Extends after) :
    SoundCopy config documentType read after copy := by
  obtain ⟨inTime, url, payload, valid, fetched⟩ := sound
  exact ⟨inTime, url, payload, valid, extended _ fetched⟩

theorem SoundVerifier.extend {before after : SharedCache} {verifier : Verifier}
    (sound : SoundVerifier env config before verifier) (extended : before.Extends after) :
    SoundVerifier env config after verifier :=
  ⟨fun copy held => (sound.discovery copy held).extend extended,
    fun copy held => (sound.jwks copy held).extend extended⟩

def WritesValidOnly (env : OidcEnvironment) (config : VerificationConfig)
    (call : VerifyCall) : Prop :=
  ∀ forced documentType url payload, writesRow config call forced documentType = true →
    call.fetch forced documentType url = .ok payload → IsValid env config documentType payload

def ServesLastingRows (config : VerificationConfig) (call : VerifyCall)
    (shared : SharedCache) : Prop :=
  ∀ forced url row, sharedCacheGet config call forced .jwks url shared = some row →
    call.now + 1 / 1000 ≤ row.expiresAt

theorem fetchJson_ok {forced : Bool} {documentType : DocumentType} {url : String}
    (fetched : fetchJson env call forced documentType url = .ok payload) :
    call.fetch forced documentType url = .ok payload := by
  rw [fetchJson] at fetched
  cases checked : env.validateProviderUrl url with
  | error message =>
    rw [checked] at fetched
    cases fetched
  | ok _ =>
    rw [checked] at fetched
    exact fetched

theorem sharedCacheGet_eq_some {forced : Bool} {documentType : DocumentType}
    {url : String} {shared : SharedCache} {row : CacheRow}
    (served : sharedCacheGet config call forced documentType url shared = some row) :
    shared.rows documentType url = some row ∧ call.now < row.expiresAt := by
  rw [sharedCacheGet] at served
  split at served
  · obtain ⟨held, fresh⟩ := Option.filter_eq_some_iff.mp served
    exact ⟨held, of_decide_eq_true fresh⟩
  · cases served

theorem sharedCachePut_extends (forced : Bool) (documentType : DocumentType)
    (url : String) (payload : Json) (shared : SharedCache) :
    shared.Extends (sharedCachePut config call forced documentType url payload shared) :=
  fun _ mem => List.mem_append_left _ mem

theorem sharedCachePut_sound {forced : Bool} {documentType : DocumentType} {url : String}
    {shared : SharedCache} (sound : SoundRows env config shared)
    (valid : writesRow config call forced documentType = true →
      IsValid env config documentType payload) :
    SoundRows env config (sharedCachePut config call forced documentType url payload shared) := by
  intro otherType otherUrl row held
  rw [sharedCachePut] at held ⊢
  dsimp only at held ⊢
  by_cases isWritten : writesRow config call forced documentType = true ∧
      otherType = documentType ∧ otherUrl = url
  · rw [if_pos isWritten] at held
    obtain ⟨writes, rfl, rfl⟩ := isWritten
    rw [← Option.some.inj held, (copyTtl_eq otherType).2]
    exact ⟨valid writes, le_refl _, List.mem_append_right _ (List.mem_singleton_self _)⟩
  · rw [if_neg isWritten] at held
    obtain ⟨rowValid, inTime, fetched⟩ := sound otherType otherUrl row held
    exact ⟨rowValid, inTime, List.mem_append_left _ fetched⟩

theorem sharedCachePut_lasting {forced : Bool} {documentType : DocumentType} {url : String}
    {shared : SharedCache} (lasting : ServesLastingRows config call shared) :
    ServesLastingRows config call (sharedCachePut config call forced documentType
      url payload shared) := by
  intro otherForced otherUrl row served
  obtain ⟨held, fresh⟩ := sharedCacheGet_eq_some served
  rw [sharedCachePut] at held
  dsimp only at held
  by_cases isWritten : writesRow config call forced documentType = true ∧
      .jwks = documentType ∧ otherUrl = url
  · rw [if_pos isWritten] at held
    obtain ⟨-, rfl, rfl⟩ := isWritten
    rw [← Option.some.inj held]
    have long : (15 : Rat) ≤ (max 15 (config.ttl .jwks) : Nat) := by
      exact_mod_cast le_max_left 15 (config.ttl .jwks)
    dsimp only
    linarith
  · rw [if_neg isWritten] at held
    refine lasting otherForced otherUrl row ?_
    rw [sharedCacheGet] at served ⊢
    split at served
    · next enabled =>
        rw [if_pos enabled, held]
        exact Option.filter_eq_some_iff.mpr ⟨rfl, decide_eq_true fresh⟩
    · cases served

structure LoadContract {Value : Type} (env : OidcEnvironment)
    (config : VerificationConfig) (call : VerifyCall) (documentType : DocumentType)
    (read : Json → Except String Value) (before : SharedCache)
    (loaded : Except String (LocalCopy Value) × SharedCache) : Prop where
  rows : SoundRows env config loaded.2
  extends_ : before.Extends loaded.2
  copy : ∀ copy, loaded.1 = .ok copy →
    SoundCopy config documentType read loaded.2 copy
  fresh : ∀ copy, loaded.1 = .ok copy → call.now < copy.expiresAt
  lasting : ServesLastingRows config call loaded.2

theorem localCacheTtl_pos (documentType : DocumentType) (sharedExpiresAt : Option Rat) :
    0 < localCacheTtl config call documentType sharedExpiresAt := by
  cases sharedExpiresAt with
  | none =>
    have long := config.discoveryTtlLong
    have jwksLong := config.jwksTtlLong
    rw [localCacheTtl, (copyTtl_eq documentType).1, Nat.cast_pos]
    cases documentType with
    | discovery =>
      simp only [VerificationConfig.ttl]
      omega
    | jwks =>
      simp only [VerificationConfig.ttl]
      omega
  | some expiresAt =>
    rw [localCacheTtl]
    exact lt_max_of_lt_left (by norm_num)

theorem loadDocument_contract {Value : Type} {forced refresh : Bool} {documentType : DocumentType}
    {url : String} {read : Json → Except String Value} {shared : SharedCache}
    (sound : SoundRows env config shared) (writesValid : WritesValidOnly env config call)
    (lasting : ServesLastingRows config call shared) :
    LoadContract env config call documentType read shared
      (loadDocument env config call forced refresh documentType url read shared) := by
  rw [loadDocument]
  cases served : (if refresh then none
      else sharedCacheGet config call forced documentType url shared) with
  | some row =>
    have isServed : sharedCacheGet config call forced documentType url shared = some row := by
      split at served
      · cases served
      · exact served
    obtain ⟨held, -⟩ := sharedCacheGet_eq_some isServed
    obtain ⟨-, inTime, fetched⟩ := sound documentType url row held
    refine ⟨sound, SharedCache.Extends.refl shared, ?_, ?_, lasting⟩
    swap
    · intro copy isCopy
      obtain ⟨value, isValue, rfl⟩ := ok_of_map_ok isCopy
      exact lt_add_of_pos_right _ (localCacheTtl_pos _ _)
    intro copy isCopy
    obtain ⟨value, isValue, rfl⟩ := ok_of_map_ok isCopy
    refine ⟨?_, url, row.payload, isValue, fetched⟩
    rintro rfl
    have lasts := lasting forced url row isServed
    dsimp only [localCacheTtl]
    have atMost : max (1 / 1000 : Rat) (min (config.copyTtl .jwks : Rat)
        (row.expiresAt - call.now)) ≤ row.expiresAt - call.now := by
      refine max_le ?_ (min_le_right _ _)
      linarith
    linarith
  | none =>
    dsimp only
    cases fetched : fetchJson env call forced documentType url with
    | error message =>
      refine ⟨sound, SharedCache.Extends.refl shared, ?_, ?_, lasting⟩
      · intro copy isCopy
        cases isCopy
      · intro copy isCopy
        cases isCopy
    | ok payload =>
      have isFetched := fetchJson_ok fetched
      refine ⟨sharedCachePut_sound sound (fun writes =>
          writesValid forced documentType url payload writes isFetched),
        sharedCachePut_extends _ _ _ _ _, ?_, ?_,
        sharedCachePut_lasting lasting⟩
      swap
      · intro copy isCopy
        obtain ⟨value, isValue, rfl⟩ := ok_of_map_ok isCopy
        exact lt_add_of_pos_right _ (localCacheTtl_pos _ _)
      intro copy isCopy
      obtain ⟨value, isValue, rfl⟩ := ok_of_map_ok isCopy
      refine ⟨?_, url, payload, isValue, List.mem_append_right _ (List.mem_singleton_self _)⟩
      intro _
      dsimp only [localCacheTtl]
      rw [(copyTtl_eq documentType).1]

structure SoundState (env : OidcEnvironment)
    (config : VerificationConfig) (call : VerifyCall) (state : CacheState) :
    Prop where
  rows : SoundRows env config state.shared
  verifier : SoundVerifier env config state.shared state.verifier
  lasting : ServesLastingRows config call state.shared

structure Keeps (env : OidcEnvironment) (config : VerificationConfig)
    (call : VerifyCall) (before after : CacheState) : Prop where
  sound : SoundState env config call after
  extends_ : before.shared.Extends after.shared

theorem Keeps.refl {state : CacheState} (sound : SoundState env config call state) :
    Keeps env config call state state :=
  ⟨sound, SharedCache.Extends.refl _⟩

theorem Keeps.trans {first second third : CacheState} (left : Keeps env config call first second)
    (right : Keeps env config call second third) :
    Keeps env config call first third :=
  ⟨right.sound, left.extends_.trans right.extends_⟩

theorem loadDiscoveryDocument_keeps {forced : Bool} {state : CacheState}
    (sound : SoundState env config call state) (writesValid : WritesValidOnly env config call) :
    Keeps env config call state (loadDiscoveryDocument env config call forced state).2 := by
  rw [loadDiscoveryDocument]
  cases current state.verifier.discovery call.now with
  | some copy => exact Keeps.refl sound
  | none =>
    dsimp only
    cases discoveryUrl config with
    | error message => exact Keeps.refl sound
    | ok url =>
      have contract := @loadDocument_contract env config call String
        forced false .discovery url (readDiscovery env config)
        state.shared sound.rows writesValid sound.lasting
      have extended := sound.verifier.extend contract.extends_
      dsimp only
      cases loaded : (loadDocument env config call forced false
          .discovery url (readDiscovery env config) state.shared).1 with
      | error message =>
        exact ⟨⟨contract.rows, extended, contract.lasting⟩, contract.extends_⟩
      | ok copy =>
        refine ⟨⟨contract.rows, ⟨?_, extended.jwks⟩, contract.lasting⟩, contract.extends_⟩
        intro held isHeld
        rw [← Option.some.inj isHeld]
        exact contract.copy copy loaded

theorem resolveJwksUri_keeps {forced : Bool} {state : CacheState}
    (sound : SoundState env config call state) (writesValid : WritesValidOnly env config call) :
    Keeps env config call state (resolveJwksUri env config call forced state).2 := by
  rw [resolveJwksUri]
  split
  · exact Keeps.refl sound
  · exact loadDiscoveryDocument_keeps sound writesValid

def FetchedKeys (config : VerificationConfig) (call : VerifyCall)
    (shared : SharedCache) (keys : List Json) : Prop :=
  ∃ fetch ∈ shared.fetches, fetch.documentType = .jwks ∧ readJwks fetch.payload = .ok keys ∧
    call.now - fetch.fetchedAt ≤ config.jwksCacheTtlSeconds

theorem SoundCopy.fetchedKeys {shared : SharedCache} {copy : LocalCopy (List Json)}
    (sound : SoundCopy config .jwks readJwks shared copy) (fresh : call.now < copy.expiresAt) :
    FetchedKeys config call shared copy.value := by
  obtain ⟨inTime, url, payload, valid, fetched⟩ := sound
  have inTtl := inTime rfl
  refine ⟨_, fetched, rfl, valid, ?_⟩
  dsimp only [VerificationConfig.ttl] at inTtl ⊢
  linarith

theorem current_eq_some {Value : Type} {copy : Option (LocalCopy Value)}
    {now : Rat} {held : LocalCopy Value} (isCurrent : current copy now = some held) :
    copy = some held ∧ now < held.expiresAt := by
  obtain ⟨isHeld, fresh⟩ := Option.filter_eq_some_iff.mp isCurrent
  exact ⟨isHeld, of_decide_eq_true fresh⟩

theorem loadJwks_keeps {forceRefresh : Bool} {state : CacheState}
    (sound : SoundState env config call state) (writesValid : WritesValidOnly env config call) :
    Keeps env config call state (loadJwks env config call forceRefresh state).2 ∧
      ∀ keys, (loadJwks env config call forceRefresh state).1 = .ok keys → FetchedKeys config call
          (loadJwks env config call forceRefresh state).2.shared keys := by
  rw [loadJwks]
  cases held : (if forceRefresh then none
      else current state.verifier.jwks call.now) with
  | some copy =>
    refine ⟨Keeps.refl sound, ?_⟩
    have isCurrent : current state.verifier.jwks call.now = some copy := by
      split at held
      · cases held
      · exact held
    obtain ⟨isHeld, fresh⟩ := current_eq_some isCurrent
    intro keys isKeys
    rw [← Except.ok.inj isKeys]
    exact (sound.verifier.jwks copy isHeld).fetchedKeys fresh
  | none =>
    have resolved := @resolveJwksUri_keeps env config call forceRefresh state sound writesValid
    dsimp only
    cases (resolveJwksUri env config call forceRefresh state).1 with
    | error message =>
      refine ⟨resolved, ?_⟩
      intro keys isKeys
      cases isKeys
    | ok uri =>
      have contract := @loadDocument_contract env config call
        (List Json) forceRefresh forceRefresh .jwks uri readJwks _
        resolved.sound.rows writesValid resolved.sound.lasting
      have extended := resolved.sound.verifier.extend contract.extends_
      have grown := resolved.extends_.trans contract.extends_
      dsimp only
      cases loaded : (loadDocument env config call forceRefresh
          forceRefresh .jwks uri readJwks (resolveJwksUri env config
            call forceRefresh state).2.shared).1 with
      | error message =>
        refine ⟨⟨⟨contract.rows, extended, contract.lasting⟩, grown⟩, ?_⟩
        intro keys isKeys
        cases isKeys
      | ok copy =>
        have soundCopy := contract.copy copy loaded
        refine ⟨⟨⟨contract.rows, ⟨extended.discovery, ?_⟩, contract.lasting⟩, grown⟩, ?_⟩
        · intro held isHeld
          rw [← Option.some.inj isHeld]
          exact soundCopy
        · intro keys isKeys
          rw [← Except.ok.inj isKeys]
          exact soundCopy.fetchedKeys (contract.fresh copy loaded)

theorem mem_of_chooseKey {keys : List Json} {key : Json}
    (chosen : chooseKey env call keys = .ok (some key)) : key ∈ keys := by
  rw [chooseKey] at chosen
  split at chosen
  · have found := List.mem_of_find?_eq_some (Except.ok.inj chosen)
    exact List.mem_of_mem_filter found
  · split at chosen
    · next single =>
        have isKey := Option.some.inj (Except.ok.inj chosen)
        rw [isKey] at single
        have mem : key ∈ keys.filter isCandidate := by
          rw [single]
          exact List.mem_singleton_self _
        exact List.mem_of_mem_filter mem
    · cases chosen

def FetchedKey (config : VerificationConfig) (call : VerifyCall)
    (shared : SharedCache) (key : Json) : Prop :=
  ∃ keys, key ∈ keys ∧ FetchedKeys config call shared keys

theorem selectJwk_keeps {forceRefresh : Bool} {state : CacheState}
    (sound : SoundState env config call state) (writesValid : WritesValidOnly env config call) :
    Keeps env config call state (selectJwk env config call forceRefresh state).2 ∧
      ∀ key, (selectJwk env config call forceRefresh state).1 = .ok (some key) →
        FetchedKey config call (selectJwk env config call forceRefresh state).2.shared key := by
  obtain ⟨kept, fetched⟩ := @loadJwks_keeps env config call forceRefresh state sound writesValid
  refine ⟨kept, ?_⟩
  intro key selected
  obtain ⟨keys, isKeys, chosen⟩ := bind_eq_ok_iff.mp selected
  exact ⟨keys, mem_of_chooseKey chosen, fetched keys isKeys⟩

theorem verify_keeps {state : CacheState} (sound : SoundState env config call state)
    (writesValid : WritesValidOnly env config call) :
    Keeps env config call state (verify env config call state).2 ∧
      ∀ key, (verify env config call state).1 = some key →
        FetchedKey config call (verify env config call state).2.shared
          key := by
  have kept : Keeps env config call state (verificationKey env config call state).2 ∧
      ∀ key, (verificationKey env config call state).1 = .ok key → FetchedKey config call
          (verificationKey env config call state).2.shared key := by
    obtain ⟨first, fetched⟩ := @selectJwk_keeps env config call false state sound writesValid
    obtain ⟨second, refetched⟩ := @selectJwk_keeps env config call true
      (selectJwk env config call false state).2 first.sound writesValid
    rw [verificationKey]
    dsimp only
    split
    · exact ⟨first, by simp⟩
    · next key selected =>
        refine ⟨first, ?_⟩
        intro other same
        rw [← Except.ok.inj same]
        exact fetched key selected
    · split
      · exact ⟨first.trans second, by simp⟩
      · next key selected =>
          refine ⟨first.trans second, ?_⟩
          intro other same
          rw [← Except.ok.inj same]
          exact refetched key selected
      · exact ⟨first.trans second, by simp⟩
  refine ⟨kept.1, ?_⟩
  intro key accepted
  obtain ⟨isKey, -⟩ := Option.filter_eq_some_iff.mp accepted
  refine kept.2 key ?_
  cases verified : (verificationKey env config call state).1 with
  | error message =>
    rw [verified] at isKey
    cases isKey
  | ok other =>
    rw [verified] at isKey
    rw [Option.some.inj isKey]

end Loading

end ModelAtlas.Oidc
