import Mathlib.Algebra.Order.Field.Rat
import ModelAtlas.Foundations.Json

/-!
# Cached documents of an identity provider

`OIDCJWTVerifier` on RS256 tokens: the discovery document and the JWKS, each
with a copy in the verifier and a row in the shared cache. Clocks agree and a
call takes no time. The other members of a discovery document are left out. The
fetches are recorded.
-/

namespace ModelAtlas.Oidc

open Foundations

inductive DocumentType where
  | discovery
  | jwks
  deriving DecidableEq

/-- `JWTVerificationConfig`, as far as documents depend on it; the settings keep
the times to live from going below their minimum. -/
structure VerificationConfig where
  (issuer discoveryUrl jwksUri : Option String)
  (discoveryCacheTtlSeconds jwksCacheTtlSeconds : Nat)
  sharedCacheEnabled : Bool
  discoveryTtlLong : 30 ≤ discoveryCacheTtlSeconds
  jwksTtlLong : 15 ≤ jwksCacheTtlSeconds

def VerificationConfig.ttl (config : VerificationConfig) : DocumentType → Nat
  | .discovery => config.discoveryCacheTtlSeconds
  | .jwks => config.jwksCacheTtlSeconds

/-- How long a copy is held at most: the configured time, but not less than a
minimum. -/
def VerificationConfig.copyTtl (config : VerificationConfig) : DocumentType → Nat
  | .discovery => max 30 config.discoveryCacheTtlSeconds
  | .jwks => max 15 config.jwksCacheTtlSeconds

structure OidcEnvironment where
  render : Json → String
  validateProviderUrl : String → Except String Unit

/-- `text.rstrip("/")`. -/
def dropSlashes (text : String) : String :=
  String.ofList (text.toList.reverse.dropWhile (fun char => char = '/')).reverse

section Documents

variable (env : OidcEnvironment) (config : VerificationConfig)

/-- `discovery_url` of `_load_discovery_document`. -/
def discoveryUrl : Except String String :=
  match config.discoveryUrl.filter (fun url => url ≠ ""),
      config.issuer.filter (fun issuer => issuer ≠ "") with
  | some url, _ => .ok url
  | none, some issuer =>
    .ok (dropSlashes issuer ++ "/.well-known/openid-configuration")
  | none, none => .error "OIDC issuer or discovery URL is required for RS256"

/-- The `jwks_uri` of a discovery document that is valid. -/
def readDiscovery (payload : Json) : Except String String :=
  let discoveredIssuer := dropSlashes
    (Json.pyStrOrEmpty env.render (payload.get? "issuer"))
  let expectedIssuer := dropSlashes (config.issuer.getD "")
  let jwksUri := pyStrip
    (Json.pyStrOrEmpty env.render (payload.get? "jwks_uri"))
  if expectedIssuer ≠ "" && discoveredIssuer ≠ expectedIssuer then
    .error "OIDC discovery issuer does not match"
  else if jwksUri = "" then .error "OIDC discovery is missing jwks_uri"
  else (env.validateProviderUrl jwksUri).map (fun _ => jwksUri)

def readJwks (payload : Json) : Except String (List Json) :=
  match payload.items "keys" with
  | [] => .error "OIDC JWKS must contain signing keys"
  | keys =>
    if keys.all Json.isObject then .ok keys
    else .error "OIDC JWKS signing keys must be objects"

def IsValid (documentType : DocumentType) (payload : Json) : Prop :=
  match documentType with
  | .discovery => ∃ uri, readDiscovery env config payload = .ok uri
  | .jwks => ∃ keys, readJwks payload = .ok keys

end Documents

/-- `OIDCCacheEntry`. -/
structure CacheRow where
  payload : Json
  (fetchedAt expiresAt : Rat)

structure LocalCopy (Value : Type) where
  value : Value
  (fetchedAt expiresAt : Rat)

structure Fetch where
  documentType : DocumentType
  url : String
  fetchedAt : Rat
  payload : Json

structure SharedCache where
  rows : DocumentType → String → Option CacheRow
  fetches : List Fetch

structure Verifier where
  discovery : Option (LocalCopy String)
  jwks : Option (LocalCopy (List Json))

def Verifier.initial : Verifier := ⟨none, none⟩

def current {Value : Type} (copy : Option (LocalCopy Value)) (now : Rat) :
    Option (LocalCopy Value) :=
  copy.filter (fun held => now < held.expiresAt)

/-- What happens during a call, for a forced pass and the one before: the errors of the shared
cache and the answers of the provider. -/
structure VerifyCall where
  now : Rat
  keyId : Option String
  /-- `from_jwk`, the signature and the claims are fine with the key. -/
  accepts : Json → Bool
  (getFails putFails : Bool → DocumentType → Bool)
  fetch : Bool → DocumentType → String → Except String Json

section Loading

variable (env : OidcEnvironment) (config : VerificationConfig)
  (call : VerifyCall)

/-- `DatabaseOIDCDocumentCache.get` through `_shared_cache_get`. -/
def sharedCacheGet (forced : Bool) (documentType : DocumentType) (url : String)
    (shared : SharedCache) : Option CacheRow :=
  if config.sharedCacheEnabled && !call.getFails forced documentType then
    (shared.rows documentType url).filter (fun row => call.now < row.expiresAt)
  else none

def writesRow (forced : Bool) (documentType : DocumentType) : Bool :=
  config.sharedCacheEnabled && !call.putFails forced documentType

/-- `DatabaseOIDCDocumentCache.put` through `_shared_cache_put`, after a fetch. -/
def sharedCachePut (forced : Bool) (documentType : DocumentType) (url : String)
    (payload : Json) (shared : SharedCache) : SharedCache where
  rows otherType otherUrl :=
    if writesRow config call forced documentType ∧ otherType = documentType ∧ otherUrl = url then
      some ⟨payload, call.now, call.now + (max 15 (config.ttl documentType) : Nat)⟩
    else shared.rows otherType otherUrl
  fetches := shared.fetches ++ [⟨documentType, url, call.now, payload⟩]

def fetchJson (forced : Bool) (documentType : DocumentType) (url : String) :
    Except String Json := do
  env.validateProviderUrl url
  call.fetch forced documentType url

def localCacheTtl (documentType : DocumentType) (sharedExpiresAt : Option Rat) :
    Rat :=
  match sharedExpiresAt with
  | none => (config.copyTtl documentType : Rat)
  | some expiresAt =>
    max (1 / 1000) (min (config.copyTtl documentType : Rat) (expiresAt - call.now))

/-- How both documents are loaded where the verifier holds no copy; `refresh` is
`force_refresh`, and `read` validates the document. -/
def loadDocument {Value : Type} (forced refresh : Bool) (documentType : DocumentType) (url : String)
    (read : Json → Except String Value) (shared : SharedCache) :
    Except String (LocalCopy Value) × SharedCache :=
  match (if refresh then none
      else sharedCacheGet config call forced documentType url shared) with
  | some row =>
    ((read row.payload).map (fun value => ⟨value, row.fetchedAt,
      call.now + localCacheTtl config call documentType (some row.expiresAt)⟩),
      shared)
  | none =>
    match fetchJson env call forced documentType url with
    | .error message => (.error message, shared)
    | .ok payload =>
      ((read payload).map (fun value => ⟨value, call.now,
        call.now + localCacheTtl config call documentType none⟩),
        sharedCachePut config call forced documentType url payload shared)

structure CacheState where
  verifier : Verifier
  shared : SharedCache

/-- `_load_discovery_document`: its `jwks_uri`. -/
def loadDiscoveryDocument (forced : Bool) (state : CacheState) :
    Except String String × CacheState :=
  match current state.verifier.discovery call.now with
  | some copy => (.ok copy.value, state)
  | none =>
    match discoveryUrl config with
    | .error message => (.error message, state)
    | .ok url =>
      let loaded := loadDocument env config call forced false .discovery
        url (readDiscovery env config) state.shared
      match loaded.1 with
      | .error message => (.error message, { state with shared := loaded.2 })
      | .ok copy =>
        (.ok copy.value, ⟨{ state.verifier with discovery := some copy }, loaded.2⟩)

/-- `self.config.jwks_uri or self._discovered_jwks_uri()`. -/
def resolveJwksUri (forced : Bool) (state : CacheState) : Except String String × CacheState :=
  match config.jwksUri.filter (fun uri => uri ≠ "") with
  | some uri => (.ok uri, state)
  | none => loadDiscoveryDocument env config call forced state

def loadJwks (forceRefresh : Bool) (state : CacheState) : Except String (List Json) × CacheState :=
  match (if forceRefresh then none else current state.verifier.jwks call.now) with
  | some copy => (.ok copy.value, state)
  | none =>
    let resolved := resolveJwksUri env config call forceRefresh state
    match resolved.1 with
    | .error message => (.error message, resolved.2)
    | .ok uri =>
      let loaded := loadDocument env config call forceRefresh
        forceRefresh .jwks uri readJwks resolved.2.shared
      match loaded.1 with
      | .error message =>
        (.error message, { resolved.2 with shared := loaded.2 })
      | .ok copy =>
        (.ok copy.value, ⟨{ resolved.2.verifier with jwks := some copy }, loaded.2⟩)

def isCandidate (key : Json) : Bool :=
  Json.isText (key.get? "kty") "RSA" &&
    (match key.get? "use" with
    | none => true
    | some use => Json.isText (some use) "sig") &&
    (match key.get? "alg" with
    | none => true
    | some algorithm =>
      !algorithm.truthy || Json.isText (some algorithm) "RS256") &&
    (match key.get? "key_ops" with
    | some (.arr operations) =>
      operations.any (fun op => Json.isText (some op) "verify")
    | _ => true)

def namedKey (keyId : String) (keys : List Json) : Option Json :=
  (keys.filter isCandidate).find? (fun key =>
    Json.pyStrOrEmpty env.render (key.get? "kid") = keyId)

/-- The key of a token among the keys, by `_select_jwk`. -/
def chooseKey (keys : List Json) : Except String (Option Json) :=
  match call.keyId.filter (fun keyId => keyId ≠ "") with
  | some keyId => .ok (namedKey env keyId keys)
  | none =>
    match keys.filter isCandidate with
    | [key] => .ok (some key)
    | _ => .error
        "JWT kid header is required when multiple signing keys are available"

def selectJwk (forceRefresh : Bool) (state : CacheState) :
    Except String (Option Json) × CacheState :=
  let loaded := loadJwks env config call forceRefresh state
  (loaded.1.bind (chooseKey env call), loaded.2)

/-- `_verification_key` for RS256. -/
def verificationKey (state : CacheState) : Except String Json × CacheState :=
  let selected := selectJwk env config call false state
  match selected.1 with
  | .error message => (.error message, selected.2)
  | .ok (some key) => (.ok key, selected.2)
  | .ok none =>
    let refreshed := selectJwk env config call true selected.2
    match refreshed.1 with
    | .error message => (.error message, refreshed.2)
    | .ok (some key) => (.ok key, refreshed.2)
    | .ok none => (.error "JWT signing key was not found", refreshed.2)

/-- `verify`: the key that an accepted token was verified with. -/
def verify (state : CacheState) : Option Json × CacheState :=
  let verification := verificationKey env config call state
  (verification.1.toOption.filter call.accepts, verification.2)

end Loading

end ModelAtlas.Oidc
