import ModelAtlas.Release.Decisions

/-!
# Signer identities

`services/operator_identity.py` and `services/release_approval_policy.py`: the
identity that a request is authenticated with, the signer that is built of it
and of the payload, and the policy that reads the signer.
-/

namespace ModelAtlas.Release

open Foundations Approval

variable {signer authenticated : SignerIdentity}

/-! ## Authenticated identities -/

/-- Text operations of the identities, with `str.casefold`. -/
structure IdentityEnvironment extends TextEnvironment where
  casefold : String → String

def normalized (value : Option String) : Option String :=
  match value with
  | none => none
  | some stored =>
    let stripped := pyStrip stored
    if stripped = "" then none else some stripped

/-- `value or fallback`, for a value that may be `None`. -/
def orText (value fallback : Option String) : Option String :=
  match value with
  | none => fallback
  | some stored => if stored = "" then fallback else some stored

abbrev Headers := String → Option String

def header (headers : Option Headers) (name : String) : Option String :=
  match headers with
  | none => none
  | some stored => normalized (stored name)

def extractTrustedOperatorIdentity (headers : Option Headers)
    (trustedHeadersEnabled : Bool) : Option SignerIdentity :=
  if !trustedHeadersEnabled then none
  else
    let headerSubject := header headers "x-model-atlas-operator-id"
    let headerName := header headers "x-model-atlas-operator-name"
    let headerRole := header headers "x-model-atlas-operator-role"
    let headerProvider := header headers "x-model-atlas-identity-provider"
    if headerSubject.isNone && headerName.isNone then none
    else
      let displayName :=
        (headerName.or headerSubject).getD "trusted-operator"
      some
        { subjectId := headerSubject.getD displayName
          displayName := displayName
          role := headerRole
          identityProvider := headerProvider.getD "trusted-header"
          authSource := "trusted_header"
          identityVerified := true
          ticketReference := none }

/-- What the identity of a token takes from `JWTVerificationConfig`. -/
structure JWTVerificationConfig where
  issuer : Option String
  (nameClaim roleClaim : String)

def oidcRolePriority : List String :=
  ["Admin", "Release Manager", "ML Ops Lead", "Model Governance", "QA Lead",
    "SRE Lead", "ML Engineer", "System Worker"]

/-- `_claim_value`, with `None` as null. -/
def claimValue (claims : Json) (path : String) : Json :=
  ((path.toList.splitOnP (fun char => char = '.')).map String.ofList).foldl
    (fun value part => (value.get? part).getD .null) claims

/-- `str(value or fallback)`. -/
def strOr (env : IdentityEnvironment) (value : Json) (fallback : String) : String :=
  if value.truthy then value.pyStr env.render else fallback

def claimedRole (env : IdentityEnvironment) (roles : List String) : Option String :=
  (oidcRolePriority.findSome? (fun known => roles.reverse.find? (fun role =>
    env.casefold role = env.casefold known))).or roles.head?

def identityFromOidcClaims (env : IdentityEnvironment) (claims : Json)
    (config : JWTVerificationConfig) (authSource : String) :
    Except String SignerIdentity :=
  let subjectId :=
    pyStrip (Json.pyStrOrEmpty env.render (claims.get? "sub"))
  if subjectId = "" then .error "JWT subject claim is required"
  else
    let displayName :=
      pyStrip (strOr env (claimValue claims config.nameClaim) subjectId)
    let role :=
      match claimValue claims config.roleClaim with
      | .arr values => claimedRole env
          ((values.map (fun value => pyStrip (value.pyStr env.render)))
            |>.filter (fun role => role ≠ ""))
      | .null => none
      | value => some (pyStrip (value.pyStr env.render))
    .ok
      { subjectId := subjectId
        displayName := pyOr displayName subjectId
        role := orText role none
        identityProvider := strOr env
          ((claims.get? "iss").getD .null)
          ((orText config.issuer none).getD "jwt-issuer")
        authSource := authSource
        identityVerified := true
        ticketReference := none }

/-- What an identity takes from `BrowserSessionContext`. -/
structure BrowserSessionContext where
  (subjectId displayName : String)
  role : Option String
  identityProvider : String

def identityFromBrowserContext (ctx : BrowserSessionContext) : SignerIdentity where
  subjectId := ctx.subjectId
  displayName := ctx.displayName
  role := ctx.role
  identityProvider := ctx.identityProvider
  authSource := "oidc_browser_session"
  identityVerified := true
  ticketReference := none

/-- `decode_identity` of a browser cookie, after its claims are verified. -/
def decodeIdentity (env : IdentityEnvironment) (claims : Json) : Except String SignerIdentity :=
  let subjectId :=
    pyStrip (Json.pyStrOrEmpty env.render (claims.get? "sub"))
  if subjectId = "" then .error "browser session subject is missing"
  else
    let claim := fun name => (claims.get? name).getD .null
    .ok
      { subjectId := subjectId
        displayName := strOr env (claim "name") subjectId
        role :=
          if (claim "role").truthy then
            some ((claim "role").pyStr env.render)
          else none
        identityProvider :=
          strOr env (claim "identity_provider") "oidc-provider"
        authSource := "oidc_browser_session"
        identityVerified := true
        ticketReference := none }

inductive IdentitySource where
  | trustedHeaders (headers : Headers)
  | bearerToken (claims : Json) (config : JWTVerificationConfig)
  | browserSession (ctx : BrowserSessionContext)
  | browserCookie (claims : Json)

/-- `request.state.operator_identity`. -/
def IdentitySource.authenticate (env : IdentityEnvironment) : IdentitySource → Option SignerIdentity
  | trustedHeaders headers =>
    extractTrustedOperatorIdentity (some headers) true
  | bearerToken claims config =>
    (identityFromOidcClaims env claims config "oidc_jwt").toOption
  | browserSession ctx => some (identityFromBrowserContext ctx)
  | browserCookie claims => (decodeIdentity env claims).toOption

theorem toOption_eq_some {res : Except String SignerIdentity}
    {identity : SignerIdentity} (found : res.toOption = some identity) :
    res = .ok identity := by
  cases res with
  | error raised => cases found
  | ok value => exact congrArg Except.ok (Option.some.inj found)

theorem IdentitySource.authenticate_verified {env : IdentityEnvironment} {source : IdentitySource}
    {identity : SignerIdentity} (authenticated : source.authenticate env = some identity) :
    identity.identityVerified = true := by
  cases source with
  | trustedHeaders headers =>
    simp only [authenticate, extractTrustedOperatorIdentity] at authenticated
    split at authenticated
    · cases authenticated
    · split at authenticated
      · cases authenticated
      · rw [← Option.some.inj authenticated]
  | bearerToken claims config =>
    have decoded := toOption_eq_some authenticated
    simp only [identityFromOidcClaims] at decoded
    split at decoded
    · cases decoded
    · rw [← Except.ok.inj decoded]
  | browserSession ctx =>
    rw [← Option.some.inj authenticated]
    rfl
  | browserCookie claims =>
    have decoded := toOption_eq_some authenticated
    simp only [decodeIdentity] at decoded
    split at decoded
    · cases decoded
    · rw [← Except.ok.inj decoded]

structure SignerFields where
  decidedBy : String
  (signerId signerRole identityProvider ticketReference : Option String)

def buildSignerIdentity (payload : SignerFields) (headers : Option Headers)
    (trustedOperatorIdentity : Option SignerIdentity) : SignerIdentity :=
  match trustedOperatorIdentity.or (extractTrustedOperatorIdentity headers true) with
  | some trusted =>
    { trusted with
      role := orText trusted.role (normalized payload.signerRole)
      ticketReference := normalized payload.ticketReference }
  | none =>
    let displayName := pyStrip payload.decidedBy
    { subjectId := (normalized payload.signerId).getD displayName
      displayName := displayName
      role := normalized payload.signerRole
      identityProvider :=
        (normalized payload.identityProvider).getD "local-ui"
      authSource := "self_attested"
      identityVerified := false
      ticketReference := normalized payload.ticketReference }

def ReleaseDecisionType.text : ReleaseDecisionType → String
  | approveRelease => "APPROVE_RELEASE"
  | rejectRelease => "REJECT_RELEASE"
  | requestChanges => "REQUEST_CHANGES"

structure ReleaseDecisionPolicyEvaluation where
  policyVersion : String
  decision : ReleaseDecisionType
  (allowed requiresVerifiedIdentity : Bool)
  allowedRoles : List String
  signerRole : Option String
  identityVerified : Bool
  reasons : List String

def policyReasons (text : TextEnvironment) (decision : ReleaseDecisionType)
    (signer : SignerIdentity) : List String :=
  let spec := decisionPolicy decision
  let rolesRequired := decision.text ++ " requires one of these roles: " ++
    ", ".intercalate spec.allowedRoles ++ "."
  (if spec.requiresVerifiedIdentity && !signer.identityVerified then
      [decision.text ++ " requires verified operator identity."]
    else []) ++
  match roleKey text signer.role with
  | none => if !spec.allowMissingRole then [rolesRequired] else []
  | some role =>
    if !(spec.allowedRoles.map (fun allowed =>
        (roleKey text (some allowed)).getD "")).contains role then
      [rolesRequired]
    else []

def evaluateReleaseDecisionPolicy (text : TextEnvironment)
    (decision : ReleaseDecisionType) (signer : SignerIdentity) :
    ReleaseDecisionPolicyEvaluation where
  policyVersion := "release-approval-rbac-v1"
  decision := decision
  allowed := (policyReasons text decision signer).isEmpty
  requiresVerifiedIdentity := (decisionPolicy decision).requiresVerifiedIdentity
  allowedRoles := (decisionPolicy decision).allowedRoles
  signerRole := signer.role
  identityVerified := signer.identityVerified
  reasons := policyReasons text decision signer

def assertReleaseDecisionAllowed (text : TextEnvironment)
    (decision : ReleaseDecisionType) (signer : SignerIdentity) :
    Except ServiceError ReleaseDecisionPolicyEvaluation :=
  let evaluation := evaluateReleaseDecisionPolicy text decision signer
  if !evaluation.allowed then
    .error (.domainValidation ("Release decision policy denied: " ++
      " ".intercalate evaluation.reasons))
  else .ok evaluation

theorem policyReasons_isEmpty (text : TextEnvironment)
    (decision : ReleaseDecisionType) (signer : SignerIdentity) :
    (policyReasons text decision signer).isEmpty = releaseDecisionAllowed text decision signer := by
  simp only [policyReasons, releaseDecisionAllowed]
  cases verified : (decisionPolicy decision).requiresVerifiedIdentity &&
      !signer.identityVerified with
  | true =>
    have refused : (!(decisionPolicy decision).requiresVerifiedIdentity ||
        signer.identityVerified) = false := by
      simpa using verified
    simp [refused]
  | false =>
    have accepted : (!(decisionPolicy decision).requiresVerifiedIdentity ||
        signer.identityVerified) = true := by
      simpa [Decidable.imp_iff_not_or] using verified
    rw [accepted, Bool.true_and]
    cases roleKey text signer.role with
    | none =>
      cases (decisionPolicy decision).allowMissingRole <;> rfl
    | some role =>
      simp only [Bool.false_eq_true, if_false, List.nil_append]
      split
      · next missing => simpa using missing
      · next present => simpa using present

theorem assertReleaseDecisionAllowed_congr {text : TextEnvironment} {decision : ReleaseDecisionType}
    {left right : SignerIdentity} (role : left.role = right.role)
    (verified : left.identityVerified = right.identityVerified) :
    assertReleaseDecisionAllowed text decision left =
      assertReleaseDecisionAllowed text decision right := by
  have reasons : policyReasons text decision left = policyReasons text decision right := by
    rw [policyReasons, policyReasons, role, verified]
  have evaluation : evaluateReleaseDecisionPolicy text decision left =
      evaluateReleaseDecisionPolicy text decision right := by
    rw [evaluateReleaseDecisionPolicy, evaluateReleaseDecisionPolicy, reasons, role, verified]
  rw [assertReleaseDecisionAllowed, assertReleaseDecisionAllowed, evaluation]

theorem assertReleaseDecisionAllowed_isOk (text : TextEnvironment)
    (decision : ReleaseDecisionType) (signer : SignerIdentity) :
    (assertReleaseDecisionAllowed text decision signer).isOk =
      releaseDecisionAllowed text decision signer := by
  rw [← policyReasons_isEmpty]
  rw [assertReleaseDecisionAllowed, evaluateReleaseDecisionPolicy]
  by_cases allowed : (policyReasons text decision signer).isEmpty = true
  · simp [allowed, Except.isOk, Except.toBool]
  · simp [allowed, Except.isOk, Except.toBool]

structure StoredSigner where
  decidedBy : String
  signerIdentity : SignerIdentity
  identityVerified : Bool

/-- What `create_release_decision` stores of its signer. -/
def storedSigner (signer : SignerIdentity) : StoredSigner where
  decidedBy := signer.displayName
  signerIdentity := signer
  identityVerified := signer.identityVerified

/-- `create_release_decision` of an authenticated request. -/
def createSignedDecision (text : TextEnvironment) (store : ReleaseStore)
    (payload : ReleaseDecisionCreate) (fields : SignerFields)
    (authenticated : SignerIdentity) (now : Time) :
    Except ServiceError (ReleaseStore × StoredSigner) :=
  let signer := buildSignerIdentity fields none (some authenticated)
  match createReleaseDecision text store payload signer now with
  | .error raised => .error raised
  | .ok after => .ok (after, storedSigner signer)

theorem createReleaseDecision_allowed {text : TextEnvironment} {store after : ReleaseStore}
    {payload : ReleaseDecisionCreate} {now : Time}
    (created : createReleaseDecision text store payload signer now = .ok after) :
    releaseDecisionAllowed text payload.decision signer = true := by
  have signed : ∀ gate, signReleaseDecision text store payload gate signer now = .ok after →
        releaseDecisionAllowed text payload.decision signer = true := by
    intro gate done
    rw [signReleaseDecision] at done
    split at done
    · cases done
    · split at done
      · cases done
      · next allowed => exact Decidable.not_not.mp allowed
  rw [createReleaseDecision] at created
  split at created
  · cases created
  · next gate _ =>
      split at created
      · exact signed gate created
      · split at created
        · cases created
        · exact signed gate created

/-- The role of the signer is the role that is authenticated, and nothing of
the payload. -/
structure NeverSelfAsserted (text : TextEnvironment)
    (authenticated : SignerIdentity) : Prop where
  answers : ∀ decision (fields other : SignerFields),
    assertReleaseDecisionAllowed text decision
        (buildSignerIdentity fields none (some authenticated)) =
      assertReleaseDecisionAllowed text decision
        (buildSignerIdentity other none (some authenticated))
  stored : ∀ store payload fields now after columns,
    createSignedDecision text store payload fields authenticated now =
        .ok (after, columns) →
      columns.identityVerified = true →
        columns.decidedBy = authenticated.displayName ∧
        columns.signerIdentity.subjectId = authenticated.subjectId ∧
        columns.signerIdentity.displayName = authenticated.displayName ∧
        columns.signerIdentity.role = authenticated.role ∧
        columns.signerIdentity.identityProvider =
          authenticated.identityProvider
  recorded : ∀ store payload fields now after columns,
    createSignedDecision text store payload fields authenticated now =
        .ok (after, columns) →
      payload.decision ≠ .requestChanges →
        authenticated.identityVerified = true ∧
          ∃ role, roleKey text authenticated.role = some role ∧
            role ∈ approverRoles.map (fun allowed =>
              (roleKey text (some allowed)).getD "")

def CarriesRole (authenticated : SignerIdentity) : Prop :=
  authenticated.role.getD "" ≠ ""

theorem orText_of_carriesRole (carries : CarriesRole authenticated) (fallback : Option String) :
    orText authenticated.role fallback = authenticated.role := by
  rw [CarriesRole] at carries
  cases role : authenticated.role with
  | none =>
    rw [role] at carries
    exact absurd rfl carries
  | some stored =>
    rw [role, Option.getD_some] at carries
    rw [orText, if_neg carries]

theorem orText_of_noRole (missing : ¬ CarriesRole authenticated) (fallback : Option String) :
    orText authenticated.role fallback = fallback := by
  rw [CarriesRole, Decidable.not_not] at missing
  cases role : authenticated.role with
  | none => rfl
  | some stored =>
    rw [role, Option.getD_some] at missing
    rw [orText, if_pos missing]

theorem buildSignerIdentity_of_carriesRole
    (carries : CarriesRole authenticated) (fields : SignerFields) :
    buildSignerIdentity fields none (some authenticated) =
      { authenticated with
        ticketReference := normalized fields.ticketReference } := by
  have signer : buildSignerIdentity fields none (some authenticated) =
      { authenticated with
        role := orText authenticated.role (normalized fields.signerRole)
        ticketReference := normalized fields.ticketReference } := rfl
  rw [signer, orText_of_carriesRole carries]

theorem releaseDecisionAllowed_approver {text : TextEnvironment} {decision : ReleaseDecisionType}
    (notChanges : decision ≠ .requestChanges)
    (allowed : releaseDecisionAllowed text decision signer = true) :
    signer.identityVerified = true ∧ ∃ role, roleKey text signer.role = some role ∧
        role ∈ approverRoles.map (fun allowed =>
          (roleKey text (some allowed)).getD "") := by
  have policy : decisionPolicy decision = ⟨approverRoles, true, false⟩ := by
    cases decision with
    | approveRelease => rfl
    | rejectRelease => rfl
    | requestChanges => exact absurd rfl notChanges
  simp only [releaseDecisionAllowed, policy, Bool.and_eq_true, Bool.not_true,
    Bool.false_or] at allowed
  refine ⟨allowed.1, ?_⟩
  cases key : roleKey text signer.role with
  | none =>
    rw [key] at allowed
    exact absurd allowed.2 Bool.false_ne_true
  | some role =>
    rw [key] at allowed
    exact ⟨role, rfl, List.contains_iff_mem.mp allowed.2⟩

def roleFields (role : Option String) : SignerFields :=
  ⟨"operator", none, role, none, none⟩

theorem releaseDecisionAllowed_admin {text : TextEnvironment}
    (keepsText : ∀ value, text.lower value = "" → value = "")
    (verified : signer.identityVerified = true)
    (admin : signer.role = some "Admin") :
    releaseDecisionAllowed text .approveRelease signer = true := by
  have stripped : " ".intercalate (pySplit (pyStrip "Admin")) = "Admin" := by
    decide
  have key : roleKey text (some "Admin") = some (text.lower "Admin") := by
    have kept : text.lower "Admin" ≠ "" := fun empty =>
      absurd (keepsText _ empty) (by decide)
    simp only [roleKey, stripped, if_neg kept]
  have mem : text.lower "Admin" ∈ approverRoles.map (fun allowed =>
      (roleKey text (some allowed)).getD "") := by
    refine List.mem_map.mpr ⟨"Admin", by decide, ?_⟩
    rw [key, Option.getD_some]
  simp only [releaseDecisionAllowed, verified, admin, key, Bool.or_true, Bool.true_and]
  exact List.contains_iff_mem.mpr mem

/-- The role of the payload counts for nothing exactly where the authenticated
identity carries a role. -/
theorem neverSelfAsserted_iff {env : IdentityEnvironment}
    (keepsText : ∀ value, env.lower value = "" → value = "")
    {source : IdentitySource} {authenticated : SignerIdentity}
    (isAuthenticated : source.authenticate env = some authenticated) :
    NeverSelfAsserted env.toTextEnvironment authenticated ↔ CarriesRole authenticated := by
  have verified := IdentitySource.authenticate_verified isAuthenticated
  constructor
  · intro never
    by_contra missing
    have roleOf : ∀ role, (buildSignerIdentity (roleFields role) none
        (some authenticated)).role = normalized role := by
      intro role
      exact orText_of_noRole missing (normalized role)
    have verifiedOf : ∀ role, (buildSignerIdentity (roleFields role) none
        (some authenticated)).identityVerified = true := fun _ => verified
    have same := never.answers .approveRelease (roleFields (some "Admin"))
      (roleFields none)
    have sameAllowed := congrArg Except.isOk same
    rw [assertReleaseDecisionAllowed_isOk, assertReleaseDecisionAllowed_isOk,
      releaseDecisionAllowed_admin keepsText (verifiedOf _)
        ((roleOf _).trans (by decide))] at sameAllowed
    obtain ⟨_, role, key, _⟩ := releaseDecisionAllowed_approver (by decide) sameAllowed.symm
    rw [roleOf none] at key
    cases key
  · intro carries
    refine ⟨?_, ?_, ?_⟩
    · intro decision fields other
      rw [buildSignerIdentity_of_carriesRole carries, buildSignerIdentity_of_carriesRole carries]
      exact assertReleaseDecisionAllowed_congr rfl rfl
    · intro store payload fields now after columns created isVerified
      rw [createSignedDecision, buildSignerIdentity_of_carriesRole carries] at created
      split at created
      · cases created
      · rw [← (Prod.mk.inj (Except.ok.inj created)).2]
        exact ⟨rfl, rfl, rfl, rfl, rfl⟩
    · intro store payload fields now after columns created notChanges
      rw [createSignedDecision, buildSignerIdentity_of_carriesRole carries] at created
      split at created
      · cases created
      · next done =>
          have allowed := createReleaseDecision_allowed done
          have approver := releaseDecisionAllowed_approver notChanges allowed
          exact approver

def asciiIdentities : IdentityEnvironment where
  lower text := String.ofList (text.toList.map Char.toLower)
  render _ := ""
  casefold text := String.ofList (text.toList.map Char.toLower)

theorem asciiIdentities_lower (value : String)
    (empty : asciiIdentities.lower value = "") : value = "" := by
  have noChars : (String.ofList (value.toList.map Char.toLower)).toList = [] := by
    rw [show String.ofList (value.toList.map Char.toLower) = "" from empty]
    rfl
  rw [String.toList_ofList, List.map_eq_nil_iff] at noChars
  exact String.toList_eq_nil_iff.mp noChars

def operatorHeaders (role : Option String) : Headers := fun name =>
  if name = "x-model-atlas-operator-id" then some "operator"
  else if name = "x-model-atlas-operator-role" then role
  else none

def operatorIdentity (role : Option String) : SignerIdentity :=
  ⟨"operator", "operator", role, "trusted-header", "trusted_header", true, none⟩

theorem neverSelfAsserted_lead :
    (IdentitySource.trustedHeaders (operatorHeaders (some "SRE Lead"))).authenticate
        asciiIdentities = some (operatorIdentity (some "SRE Lead")) ∧
      (NeverSelfAsserted asciiIdentities.toTextEnvironment
        (operatorIdentity (some "SRE Lead")) ↔
          CarriesRole (operatorIdentity (some "SRE Lead"))) := by
  have authenticated : (IdentitySource.trustedHeaders
      (operatorHeaders (some "SRE Lead"))).authenticate asciiIdentities =
        some (operatorIdentity (some "SRE Lead")) := by
    decide
  exact ⟨authenticated, neverSelfAsserted_iff asciiIdentities_lower authenticated⟩

/-- An operator without a role approves a release as the "Admin" of the
payload. -/
theorem selfAsserted_admin : ¬ ∀ (source : IdentitySource) (authenticated : SignerIdentity),
      source.authenticate asciiIdentities = some authenticated →
        NeverSelfAsserted asciiIdentities.toTextEnvironment authenticated := by
  intro always
  have authenticated : (IdentitySource.trustedHeaders
      (operatorHeaders none)).authenticate asciiIdentities = some (operatorIdentity none) := by
    decide
  have same := (always _ _ authenticated).answers .approveRelease
    (roleFields (some "Admin")) (roleFields none)
  have sameAllowed := congrArg Except.isOk same
  rw [assertReleaseDecisionAllowed_isOk, assertReleaseDecisionAllowed_isOk] at sameAllowed
  have admin : releaseDecisionAllowed asciiIdentities.toTextEnvironment
      .approveRelease (buildSignerIdentity (roleFields (some "Admin")) none
        (some (operatorIdentity none))) = true := by
    decide
  have refused : releaseDecisionAllowed asciiIdentities.toTextEnvironment
      .approveRelease (buildSignerIdentity (roleFields none) none
        (some (operatorIdentity none))) = false := by
    decide
  rw [admin, refused] at sameAllowed
  cases sameAllowed

end ModelAtlas.Release
