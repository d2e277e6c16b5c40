import ModelAtlas.Foundations.Execution
import ModelAtlas.Oidc.SoundCaches

/-!
# Transparency of the caches

What a verifier without caches does, and when `verify` does the same.  The shared
row of a document is written before the document is validated, and a forced
refresh keeps the discovery document.
-/

namespace ModelAtlas.Oidc

open Foundations

section Provider

variable (env : OidcEnvironment) (config : VerificationConfig)
  (call : VerifyCall)

def configuredUri : Option String :=
  config.jwksUri.filter (fun uri => uri ≠ "")

/-- The `jwks_uri` that the provider names. -/
def providerUri (forced : Bool) : Except String String :=
  match configuredUri config with
  | some uri => .ok uri
  | none => do
    let url ← discoveryUrl config
    let payload ← fetchJson env call forced .discovery url
    readDiscovery env config payload

def providerKeys (forced : Bool) : Except String (List Json) := do
  let uri ← providerUri env config call forced
  let payload ← fetchJson env call forced .jwks uri
  readJwks payload

/-- `_verification_key` where every document is fetched. -/
def cachelessKey : Except String Json := do
  let first ← providerKeys env config call false
  match ← chooseKey env call first with
  | some key => .ok key
  | none => do
    let second ← providerKeys env config call true
    match ← chooseKey env call second with
    | some key => .ok key
    | none => .error "JWT signing key was not found"

/-- `verify` without caches. -/
def cachelessVerify : Option Json :=
  (cachelessKey env config call).toOption.filter call.accepts

/-- The provider can be reached during the call, and publishes these keys at this
URI in valid documents. -/
structure Publishes (uri : String) (keys : List Json) : Prop where
  named : ∀ forced, providerUri env config call forced = .ok uri
  published : ∀ forced, ∃ payload,
    fetchJson env call forced .jwks uri = .ok payload ∧
      readJwks payload = .ok keys

def HeldUri (state : CacheState) (uri : String) : Prop :=
  (∃ copy, current state.verifier.discovery call.now = some copy ∧ copy.value = uri) ∨
    ∃ forced url row, discoveryUrl config = .ok url ∧
      sharedCacheGet config call forced .discovery url state.shared = some row ∧
      readDiscovery env config row.payload = .ok uri

def HoldsProviderUri (state : CacheState) : Prop :=
  configuredUri config = none → ∀ held uri, HeldUri env config call state held →
    (∀ forced, providerUri env config call forced = .ok uri) → held = uri

end Provider

section Transparency

variable {env : OidcEnvironment} {config : VerificationConfig}
  {call : VerifyCall} {state : CacheState} {uri : String} {keys : List Json}

theorem providerKeys_of_publishes (publishes : Publishes env config call uri keys) (forced : Bool) :
    providerKeys env config call forced = .ok keys := by
  obtain ⟨payload, fetched, valid⟩ := publishes.published forced
  rw [providerKeys, publishes.named forced]
  change (fetchJson env call forced .jwks uri >>= readJwks) = _
  rw [fetched]
  exact valid

theorem cachelessVerify_of_publishes (publishes : Publishes env config call uri keys) :
    cachelessVerify env config call =
      ((chooseKey env call keys).toOption.join).filter call.accepts := by
  have first := providerKeys_of_publishes publishes false
  have second := providerKeys_of_publishes publishes true
  rw [cachelessVerify, cachelessKey, first, second]
  cases chosen : chooseKey env call keys with
  | error message =>
    simp only [bind, Except.bind, chosen]
    rfl
  | ok choice =>
    simp only [bind, Except.bind, chosen]
    cases choice with
    | none => rfl
    | some key => rfl

structure KeepsUri (env : OidcEnvironment) (config : VerificationConfig)
    (call : VerifyCall) (uri : String) (before after : CacheState) : Prop where
  held : configuredUri config = none → ∀ held,
    HeldUri env config call after held → held = uri
  rows : ∀ url, after.shared.rows .jwks url = before.shared.rows .jwks url
  jwks : after.verifier.jwks = before.verifier.jwks

theorem sharedCacheGet_put {forced otherForced : Bool} {url otherUrl : String} {payload : Json}
    {shared : SharedCache} {row : CacheRow} {documentType : DocumentType}
    (served : sharedCacheGet config call otherForced documentType otherUrl
      (sharedCachePut config call forced .discovery url payload shared) = some row) :
    (documentType = .discovery ∧ row.payload = payload) ∨
      sharedCacheGet config call otherForced documentType otherUrl shared = some row := by
  by_cases isWritten : writesRow config call forced .discovery = true ∧
      documentType = .discovery ∧ otherUrl = url
  · obtain ⟨held, -⟩ := sharedCacheGet_eq_some served
    rw [sharedCachePut] at held
    dsimp only at held
    rw [if_pos isWritten] at held
    rw [← Option.some.inj held]
    exact Or.inl ⟨isWritten.2.1, rfl⟩
  · rw [sharedCacheGet, sharedCachePut] at served
    dsimp only at served
    rw [if_neg isWritten] at served
    exact Or.inr served

theorem resolveJwksUri_published {forced : Bool} (sound : SoundState env config call state)
    (named : ∀ pass, providerUri env config call pass = .ok uri)
    (held : configuredUri config = none → ∀ held, HeldUri env config call state held → held = uri) :
    (resolveJwksUri env config call forced state).1 = .ok uri ∧ KeepsUri env config call uri state
        (resolveJwksUri env config call forced state).2 := by
  have isNamed := named forced
  rw [providerUri] at isNamed
  rw [resolveJwksUri]
  cases configured : configuredUri config with
  | some configuredUri =>
    have isConfigured : config.jwksUri.filter (fun uri => uri ≠ "") =
        some configuredUri := configured
    rw [configured] at isNamed
    rw [isConfigured]
    refine ⟨isNamed, ?_, fun _ => rfl, rfl⟩
    intro unconfigured
    rw [configured] at unconfigured
    cases unconfigured
  | none =>
    have unconfigured : config.jwksUri.filter (fun uri => uri ≠ "") = none :=
      configured
    rw [configured] at isNamed
    rw [unconfigured]
    have sameUri := held configured
    dsimp only
    rw [loadDiscoveryDocument]
    cases isCurrent : current state.verifier.discovery call.now with
    | some copy =>
      refine ⟨?_, fun _ => sameUri, fun _ => rfl, rfl⟩
      dsimp only
      rw [sameUri copy.value (Or.inl ⟨copy, isCurrent, rfl⟩)]
    | none =>
      obtain ⟨url, isUrl, isNamed⟩ := bind_eq_ok_iff.mp isNamed
      obtain ⟨payload, fetched, valid⟩ := bind_eq_ok_iff.mp isNamed
      rw [isUrl]
      dsimp only
      rw [loadDocument]
      cases served : sharedCacheGet config call forced .discovery url state.shared with
      | some row =>
        obtain ⟨inRows, -⟩ := sharedCacheGet_eq_some served
        obtain ⟨rowUri, isRowUri⟩ := (sound.rows _ _ _ inRows).1
        have isUri := sameUri rowUri (Or.inr ⟨forced, url, row, isUrl, served, isRowUri⟩)
        rw [isUri] at isRowUri
        simp only [Bool.false_eq_true, if_false, isRowUri, Except.map]
        refine ⟨trivial, ?_, fun _ => rfl, rfl⟩
        rintro - heldUri (⟨copy, isCopy, rfl⟩ | fromRow)
        · obtain ⟨isHeld, -⟩ := current_eq_some isCopy
          rw [← Option.some.inj isHeld]
        · exact sameUri heldUri (Or.inr fromRow)
      | none =>
        simp only [Bool.false_eq_true, if_false, fetched, valid, Except.map]
        refine ⟨trivial, ?_, ?_, rfl⟩
        · rintro - heldUri (⟨copy, isCopy, rfl⟩ | fromRow)
          · obtain ⟨isHeld, -⟩ := current_eq_some isCopy
            rw [← Option.some.inj isHeld]
          · obtain ⟨pass, rowUrl, row, isRowUrl, rowServed, isRowUri⟩ :=
              fromRow
            rcases sharedCacheGet_put rowServed with ⟨-, same⟩ | before
            · rw [same, valid] at isRowUri
              exact (Except.ok.inj isRowUri).symm
            · exact sameUri heldUri (Or.inr ⟨pass, rowUrl, row, isRowUrl, before, isRowUri⟩)
        · intro otherUrl
          simp [sharedCachePut]

def HeldKeys (config : VerificationConfig) (call : VerifyCall)
    (state : CacheState) (uri : String) (held : List Json) : Prop :=
  (∃ copy, current state.verifier.jwks call.now = some copy ∧ copy.value = held) ∨
    ∃ row, sharedCacheGet config call false .jwks uri state.shared = some row ∧
      readJwks row.payload = .ok held

theorem heldUri_of_jwks {before after : CacheState} {held : String}
    (discovery : after.verifier.discovery = before.verifier.discovery)
    (rows : ∀ url, after.shared.rows .discovery url = before.shared.rows .discovery url)
    (isHeld : HeldUri env config call after held) :
    HeldUri env config call before held := by
  rcases isHeld with ⟨copy, isCurrent, isUri⟩ | ⟨pass, url, row, isUrl, served, isUri⟩
  · rw [discovery] at isCurrent
    exact Or.inl ⟨copy, isCurrent, isUri⟩
  · rw [sharedCacheGet, rows] at served
    exact Or.inr ⟨pass, url, row, isUrl, served, isUri⟩

theorem sharedCachePut_discovery (forced : Bool) (url : String) (payload : Json)
    (shared : SharedCache) (otherUrl : String) :
    (sharedCachePut config call forced .jwks url payload shared).rows .discovery
      otherUrl = shared.rows .discovery otherUrl := by
  simp [sharedCachePut]

theorem loadJwks_forced (sound : SoundState env config call state)
    (publishes : Publishes env config call uri keys)
    (held : configuredUri config = none → ∀ held, HeldUri env config call state held → held = uri) :
    (loadJwks env config call true state).1 = .ok keys := by
  obtain ⟨resolved, -⟩ :=
    @resolveJwksUri_published env config call state uri true sound publishes.named held
  obtain ⟨payload, fetched, valid⟩ := publishes.published true
  rw [loadJwks]
  simp only [if_true, resolved, loadDocument, fetched, valid, Except.map]

theorem loadJwks_first (sound : SoundState env config call state)
    (writesValid : WritesValidOnly env config call) (publishes : Publishes env config call uri keys)
    (held : configuredUri config = none → ∀ held, HeldUri env config call state held → held = uri) :
    ∃ loaded, (loadJwks env config call false state).1 = .ok loaded ∧
      (loaded = keys ∨ HeldKeys config call state uri loaded) ∧
      (configuredUri config = none → ∀ held, HeldUri env config call
          (loadJwks env config call false state).2 held → held = uri) := by
  rw [loadJwks]
  cases isCurrent : current state.verifier.jwks call.now with
  | some copy =>
    exact ⟨copy.value, rfl, Or.inr (Or.inl ⟨copy, isCurrent, rfl⟩), held⟩
  | none =>
    obtain ⟨resolved, keeps⟩ :=
      @resolveJwksUri_published env config call state uri false sound publishes.named held
    have kept := @resolveJwksUri_keeps env config call false state sound writesValid
    have sameGet : sharedCacheGet config call false .jwks uri
        (resolveJwksUri env config call false state).2.shared =
          sharedCacheGet config call false .jwks uri state.shared := by
      rw [sharedCacheGet, sharedCacheGet, keeps.rows]
    obtain ⟨payload, fetched, valid⟩ := publishes.published false
    simp only [Bool.false_eq_true, if_false, resolved, loadDocument, sameGet]
    cases served : sharedCacheGet config call false .jwks uri state.shared with
    | some row =>
      have servedAfter := served
      rw [← sameGet] at servedAfter
      obtain ⟨inRows, -⟩ := sharedCacheGet_eq_some servedAfter
      obtain ⟨loaded, isLoaded⟩ := (kept.sound.rows _ _ _ inRows).1
      simp only [isLoaded, Except.map]
      refine ⟨loaded, rfl, Or.inr (Or.inr ⟨row, served, isLoaded⟩), ?_⟩
      intro unconfigured heldUri isHeld
      exact keeps.held unconfigured heldUri (heldUri_of_jwks rfl (fun _ => rfl) isHeld)
    | none =>
      simp only [fetched, valid, Except.map]
      refine ⟨keys, rfl, Or.inl rfl, ?_⟩
      intro unconfigured heldUri isHeld
      refine keeps.held unconfigured heldUri (heldUri_of_jwks ?_ ?_ isHeld)
      · rfl
      · exact sharedCachePut_discovery _ _ _ _

/-- A token is verified with the key that is chosen from the first keys, and where
they have none with the one of the provider. -/
theorem verify_published (sound : SoundState env config call state)
    (writesValid : WritesValidOnly env config call) (publishes : Publishes env config call uri keys)
    (held : configuredUri config = none → ∀ held, HeldUri env config call state held → held = uri) :
    ∃ loaded, (loaded = keys ∨ HeldKeys config call state uri loaded) ∧
      (verify env config call state).1 = (match chooseKey env call loaded with
        | .error _ => none
        | .ok (some key) => some key
        | .ok none => (chooseKey env call keys).toOption.join).filter
          call.accepts := by
  obtain ⟨loaded, isLoaded, isSource, heldAfter⟩ :=
    loadJwks_first sound writesValid publishes held
  obtain ⟨kept, -⟩ := @loadJwks_keeps env config call false state sound writesValid
  have forced := loadJwks_forced kept.sound publishes heldAfter
  refine ⟨loaded, isSource, ?_⟩
  rw [verify, verificationKey]
  dsimp only [selectJwk]
  rw [isLoaded, forced]
  simp only [Except.bind]
  cases chosen : chooseKey env call loaded with
  | error message => rfl
  | ok choice =>
    cases choice with
    | some key => rfl
    | none =>
      dsimp only
      cases again : chooseKey env call keys with
      | error message => rfl
      | ok other =>
        cases other with
        | none => rfl
        | some key => rfl

theorem verify_cacheless (sound : SoundState env config call state)
    (writesValid : WritesValidOnly env config call) (publishes : Publishes env config call uri keys)
    (held : configuredUri config = none → ∀ held, HeldUri env config call state held → held = uri)
    (noKeys : ∀ loaded, ¬ HeldKeys config call state uri loaded) :
    (verify env config call state).1 = cachelessVerify env config call := by
  obtain ⟨loaded, isSource, verified⟩ :=
    verify_published sound writesValid publishes held
  rcases isSource with rfl | isHeld
  · rw [verified, cachelessVerify_of_publishes publishes]
    cases chosen : chooseKey env call loaded with
    | error message => rfl
    | ok choice =>
      cases choice with
      | none => rfl
      | some key => rfl
  · exact absurd isHeld (noKeys loaded)

theorem verify_unknownKey (sound : SoundState env config call state)
    (writesValid : WritesValidOnly env config call) (publishes : Publishes env config call uri keys)
    (held : configuredUri config = none → ∀ held, HeldUri env config call state held → held = uri)
    {keyId : String} {key : Json} (isKeyId : call.keyId = some keyId)
    (nonempty : keyId ≠ "") (isKey : namedKey env keyId keys = some key)
    (unknown : ∀ loaded, HeldKeys config call state uri loaded → namedKey env keyId loaded = none)
    (accepted : call.accepts key = true) :
    (verify env config call state).1 = some key := by
  obtain ⟨loaded, isSource, verified⟩ :=
    verify_published sound writesValid publishes held
  have given : call.keyId.filter (fun keyId => keyId ≠ "") = some keyId := by
    rw [isKeyId]
    exact Option.filter_eq_some_iff.mpr ⟨rfl, decide_eq_true nonempty⟩
  have chosen : ∀ candidates, chooseKey env call candidates =
      .ok (namedKey env keyId candidates) := by
    intro candidates
    rw [chooseKey, given]
  rw [verified, chosen, chosen, isKey]
  rcases isSource with same | isHeld
  · rw [same, isKey]
    exact Option.filter_eq_some_iff.mpr ⟨rfl, accepted⟩
  · rw [unknown loaded isHeld]
    exact Option.filter_eq_some_iff.mpr ⟨rfl, accepted⟩

end Transparency

end ModelAtlas.Oidc
