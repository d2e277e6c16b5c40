import ModelAtlas.Foundations.Outcomes
import ModelAtlas.Jobs.Transactions
import ModelAtlas.Evidence.Validation.ValidatedReports

/-!
# Observed runtime configurations

`create_observed_runtime_configuration` of
`services/model_artifact_attestation.py`. A query without an order takes the
first row inserted. The answer of the registry and the parts of a URL are taken
as they come.
-/

namespace ModelAtlas.Validation

open Foundations Jobs

def textAt : List String → Json → Option String
  | [], .str text => some text
  | [], _ => none
  | name :: path, value => (value.get? name).bind (textAt path)

/-- `stable_hash`, which does not collide; the texts of ids; `_validated_runtime_base_url` for
the allowed hosts; and `int()`. -/
structure AttestationEnvironment (Hash : Type) extends ValidationEnvironment where
  stableHash : Json → Hash
  collisionFree : ∀ left right, stableHash left = stableHash right →
    ∀ path, textAt path left = textAt path right
  hexDigest : Hash → String
  uuidText : Uuid → String
  uuidText_injective : Function.Injective uuidText
  runtimeBaseUrl : String → Except ServiceError String
  readInt : Json → Option Int

/-- `RuntimeModelManifestRead`. -/
structure RuntimeManifest (Hash : Type) where
  (runtimeModelName sourceUri digestValue : String)
  sizeBytes : Int
  modifiedAt : Option String
  details : Json
  manifestHash : Hash

section Inspection

variable {Hash : Type} (env : AttestationEnvironment Hash)

def isNamed (name : String) (item : Json) : Bool :=
  let text := fun field =>
    Json.pyStrOrEmpty env.text.render (item.get? field)
  item.isObject && (name = text "name" || name = text "model")

def runtimeManifest (name sourceUri digest : String) (size : Int)
    (model : Json) : RuntimeManifest Hash :=
  let modifiedAt := (model.get? "modified_at").bind (fun value =>
    if value.truthy then some (value.pyStr env.text.render) else none)
  let details := model.objectOr "details"
  let hashed := Json.obj
    [("manifest_version", .str "model-artifact-manifest-v1"),
      ("runtime_provider", .str "ollama"), ("runtime_model_name", .str name),
      ("source_uri", .str sourceUri), ("digest_algorithm", .str "sha256"),
      ("digest_value", .str digest), ("size_bytes", .int size),
      ("modified_at", Json.optionText modifiedAt), ("details", details)]
  ⟨name, sourceUri, digest, size, modifiedAt, details, env.stableHash hashed⟩

def readItem (name sourceUri : String) (model : Json) :
    Except ServiceError (RuntimeManifest Hash) :=
  match sha256Digest env.toValidationEnvironment (model.get? "digest")
      with
  | none => .error
      (.domainValidation "Ollama model digest must be a SHA-256 value")
  | some digest =>
    match (model.get? "size").bind env.readInt with
    | none => .error (.domainValidation "Ollama model registry size is invalid")
    | some size =>
      if size ≤ 0 then .error
        (.domainValidation "Ollama model registry size must be positive")
      else .ok (runtimeManifest env name sourceUri digest size model)

def readRegistry (name sourceUri : String) (payload : Json) :
    Except ServiceError (RuntimeManifest Hash) :=
  match payload.get? "models" with
  | some (.arr models) =>
    match models.find? (isNamed env name) with
    | none => .error (.domainValidation
        ("Ollama model was not found in the runtime registry: " ++ name))
    | some model => readItem env name sourceUri model
  | _ => .error
      (.domainValidation "Ollama model registry response is missing models")

/-- `model_name.strip()`, which is required. -/
def requiredName (modelName : String) : Except ServiceError String :=
  if pyStrip modelName = "" then
    .error (.domainValidation "runtime model_name is required")
  else .ok (pyStrip modelName)

def inspectOllamaModel (reg : Except ServiceError Json) (baseUrl modelName : String) :
    Except ServiceError (RuntimeManifest Hash) := do
  let sourceUri ← env.runtimeBaseUrl baseUrl
  let name ← requiredName modelName
  let payload ← reg
  readRegistry env name sourceUri payload

end Inspection

structure CatalogModel where
  id : Uuid
  name : String
  deriving DecidableEq

structure CatalogArtifact where
  (id modelId : Uuid)
  artifactName : String
  checksum : Option String
  contextLimit : Nat
  deriving DecidableEq

structure AttestationRow (Hash : Type) extends ModelArtifactAttestation where
  sourceUri : String
  manifestHash : Hash
  attestedBy : SignerIdentity
  attestationHash : Hash

structure ConfigurationFields where
  name : String
  (workloadProfileId hardwareProfileId modelArtifactId : Uuid)
  runtimeName : String
  runtimeVersion : Option String
  runtimeConfig : List (String × Json)
  contextLength : Nat
  (generationConfig promptBundle : Json)
  (outputSchemaVersion toolSchemaVersion : Option String)
  retrievalConfig : Option Json
  concurrencyTarget : Nat
  status : String
  notes : Option String

structure ConfigurationRow (Hash : Type) extends ConfigurationFields where
  id : Uuid
  configurationHash : Hash

structure Catalog (Hash : Type) where
  models : List CatalogModel
  artifacts : List CatalogArtifact
  attestations : List (AttestationRow Hash)
  configurations : List (ConfigurationRow Hash)
  nextId : Uuid

/-- A run of characters that a catalog name does not have becomes a hyphen. -/
def hyphenated : Bool → List Char → List Char
  | _, [] => []
  | afterHyphen, char :: rest =>
    if "abcdefghijklmnopqrstuvwxyz0123456789._-".toList.contains char then
      char :: hyphenated false rest
    else if afterHyphen then hyphenated true rest
    else '-' :: hyphenated true rest

def catalogModelName (lower : String → String) (runtimeModelName : String) :
    String :=
  let normalized := hyphenated false (lower runtimeModelName).toList
  let isHyphen := fun char => char = '-'
  let stripped :=
    ((normalized.dropWhile isHyphen).reverse.dropWhile isHyphen).reverse
  pyClip 160 ("observed-" ++ String.ofList stripped)

/-- The payload of a call, its operator, and what the registry and the clock
answer. -/
structure ObservationCall where
  sourceId : Uuid
  (baseUrl modelName : String)
  (configurationName notes : Option String)
  signer : SignerIdentity
  registry : Except ServiceError Json
  now : Time

/-- `ObservedRuntimeConfigurationRead`. -/
structure ObservedConfiguration (Hash : Type) where
  manifest : RuntimeManifest Hash
  artifact : CatalogArtifact
  attestation : AttestationRow Hash
  configuration : ConfigurationRow Hash
  (modelCreated artifactCreated attestationCreated configurationCreated : Bool)

section Calls

variable {Hash : Type} [DecidableEq Hash]
  (env : AttestationEnvironment Hash)

def assertAttestationOperator (identity : SignerIdentity) : Except ServiceError Unit :=
  let role := env.text.lower (pyStrip (identity.role.getD ""))
  if !identity.identityVerified then
    .error (.domainValidation "model attestation requires verified identity")
  else if !maintenanceRoles.contains role then
    .error (.domainValidation "operator role cannot attest model artifacts")
  else .ok ()

variable (catalog : Catalog Hash) (manifest : RuntimeManifest Hash)

def Catalog.model? : Option CatalogModel :=
  catalog.models.find? (fun model => model.name =
    catalogModelName env.text.lower manifest.runtimeModelName)

def getOrCreateObservedModel : CatalogModel × Bool × Catalog Hash :=
  match catalog.model? env manifest with
  | some existing => (existing, false, catalog)
  | none =>
    let model : CatalogModel := ⟨catalog.nextId,
      catalogModelName env.text.lower manifest.runtimeModelName⟩
    (model, true, { catalog with
      models := catalog.models ++ [model]
      nextId := catalog.nextId + 1 })

def Catalog.artifact? (catalog : Catalog Hash) (manifest : RuntimeManifest Hash) :
    Option CatalogArtifact :=
  catalog.artifacts.find? (fun artifact =>
    artifact.checksum = some manifest.digestValue)

def getOrCreateObservedArtifact (catalog : Catalog Hash) (manifest : RuntimeManifest Hash)
    (model : CatalogModel) (source : ConfigurationRow Hash) :
    CatalogArtifact × Bool × Catalog Hash :=
  match catalog.artifact? manifest with
  | some existing => (existing, false, catalog)
  | none =>
    let artifact : CatalogArtifact := ⟨catalog.nextId, model.id,
      pyClip 180 (manifest.runtimeModelName ++ "-ollama"),
      some manifest.digestValue, source.contextLength⟩
    (artifact, true, { catalog with
      artifacts := catalog.artifacts ++ [artifact]
      nextId := catalog.nextId + 1 })

/-- `SignerIdentity.to_json`. -/
def signerJson (identity : SignerIdentity) : Json :=
  .obj [("subject_id", .str identity.subjectId),
    ("display_name", .str identity.displayName),
    ("role", Json.optionText identity.role),
    ("identity_provider", .str identity.identityProvider),
    ("auth_source", .str identity.authSource),
    ("identity_verified", .bool identity.identityVerified),
    ("ticket_reference", Json.optionText identity.ticketReference)]

def Catalog.attestation? (catalog : Catalog Hash)
    (manifest : RuntimeManifest Hash) (artifact : CatalogArtifact) :
    Option (AttestationRow Hash) :=
  catalog.attestations.find? (fun attestation =>
    attestation.modelArtifactId = artifact.id && attestation.digestValue = manifest.digestValue)

def newAttestation (id : Uuid) (manifest : RuntimeManifest Hash)
    (artifact : CatalogArtifact) (signer : SignerIdentity) (now : Time) :
    AttestationRow Hash where
  id := id
  modelArtifactId := artifact.id
  status := "verified"
  identityVerified := true
  attestedAt := now
  digestValue := manifest.digestValue
  runtimeModelName := manifest.runtimeModelName
  sourceUri := manifest.sourceUri
  manifestHash := manifest.manifestHash
  attestedBy := signer
  attestationHash := env.stableHash (.obj
    [("version", .str "model-artifact-attestation-v1"),
      ("model_artifact_id", .str (env.uuidText artifact.id)),
      ("manifest_hash", .str (env.hexDigest manifest.manifestHash)),
      ("digest_value", .str manifest.digestValue),
      ("runtime_model_name", .str manifest.runtimeModelName),
      ("verification_method", .str "ollama_registry_api"),
      ("attested_by", signerJson signer)])

def getOrCreateAttestation (artifact : CatalogArtifact) (signer : SignerIdentity)
    (now : Time) : AttestationRow Hash × Bool × Catalog Hash :=
  match catalog.attestation? manifest artifact with
  | some existing => (existing, false, catalog)
  | none =>
    let attestation :=
      newAttestation env catalog.nextId manifest artifact signer now
    (attestation, true, { catalog with
      attestations := catalog.attestations ++ [attestation]
      nextId := catalog.nextId + 1 })

def deploymentConfigurationHash (fields : ConfigurationFields) : Hash :=
  env.stableHash (.obj
    [("workload_profile_id", .str (env.uuidText fields.workloadProfileId)),
      ("hardware_profile_id",
        .str (env.uuidText fields.hardwareProfileId)),
      ("model_artifact_id", .str (env.uuidText fields.modelArtifactId)),
      ("runtime_name", .str fields.runtimeName),
      ("runtime_version", Json.optionText fields.runtimeVersion),
      ("runtime_config_json", .obj fields.runtimeConfig),
      ("context_length", .int fields.contextLength),
      ("generation_config_json", fields.generationConfig),
      ("prompt_bundle_json", fields.promptBundle),
      ("output_schema_version", Json.optionText fields.outputSchemaVersion),
      ("tool_schema_version", Json.optionText fields.toolSchemaVersion),
      ("retrieval_config_json", fields.retrievalConfig.getD .null),
      ("concurrency_target", .int fields.concurrencyTarget)])

/-- `text.strip()`, where the text is not blank. -/
def givenNotes (text : Option String) : Option String :=
  (text.map pyStrip).filter (fun stripped => stripped ≠ "")

def observedRuntime (config : List (String × Json))
    (manifest : RuntimeManifest Hash) (attestation : AttestationRow Hash) :
    List (String × Json) :=
  let set := fun members name value => Json.setMember members name value
  set (set (set (set (set config "base_url" (.str manifest.sourceUri))
    "model" (.str manifest.runtimeModelName))
    "model_digest" (.str manifest.digestValue))
    "artifact_attestation_hash"
      (.str (env.hexDigest attestation.attestationHash)))
    "local_only" (.bool true)

def observedFields (source : ConfigurationRow Hash) (artifact : CatalogArtifact)
    (attestation : AttestationRow Hash) (configurationName notes : Option String) :
    ConfigurationFields where
  name := pyClip 180 ((givenNotes configurationName).getD
    (source.name ++ " - " ++ manifest.runtimeModelName))
  workloadProfileId := source.workloadProfileId
  hardwareProfileId := source.hardwareProfileId
  modelArtifactId := artifact.id
  runtimeName := "ollama"
  runtimeVersion := some "manifest-attested-v1"
  runtimeConfig :=
    observedRuntime env source.runtimeConfig manifest attestation
  contextLength := min source.contextLength artifact.contextLimit
  generationConfig := source.generationConfig
  promptBundle := source.promptBundle
  outputSchemaVersion := source.outputSchemaVersion
  toolSchemaVersion := source.toolSchemaVersion
  retrievalConfig := source.retrievalConfig.filter Json.isObject
  concurrencyTarget := source.concurrencyTarget
  status := "draft"
  notes := some ((givenNotes notes).getD
    ("Draft cloned from configuration " ++ env.uuidText source.id ++
      " after verified runtime manifest inspection."))

def Catalog.configuration? (catalog : Catalog Hash) (hash : Hash) :
    Option (ConfigurationRow Hash) :=
  catalog.configurations.find? (fun configuration =>
    configuration.configurationHash = hash)

def getOrCreateConfiguration (fields : ConfigurationFields) :
    ConfigurationRow Hash × Bool × Catalog Hash :=
  let hash := deploymentConfigurationHash env fields
  match catalog.configuration? hash with
  | some existing => (existing, false, catalog)
  | none =>
    let configuration : ConfigurationRow Hash :=
      { fields with id := catalog.nextId, configurationHash := hash }
    (configuration, true, { catalog with
      configurations := catalog.configurations ++ [configuration]
      nextId := catalog.nextId + 1 })

def Catalog.source? (catalog : Catalog Hash) (sourceId : Uuid) : Option (ConfigurationRow Hash) :=
  catalog.configurations.find? (fun configuration => configuration.id = sourceId)

def recordManifest (call : ObservationCall) (source : ConfigurationRow Hash) :
    ObservedConfiguration Hash × Catalog Hash :=
  let (model, modelCreated, withModel) :=
    getOrCreateObservedModel env catalog manifest
  let (artifact, artifactCreated, withArtifact) :=
    getOrCreateObservedArtifact withModel manifest model source
  let (attestation, attestationCreated, withAttestation) :=
    getOrCreateAttestation env withArtifact manifest artifact call.signer call.now
  let (configuration, configurationCreated, after) :=
    getOrCreateConfiguration env withAttestation
      (observedFields env manifest source artifact attestation call.configurationName call.notes)
  (⟨manifest, artifact, attestation, configuration, modelCreated,
    artifactCreated, attestationCreated, configurationCreated⟩, after)

def Catalog.requiredSource (catalog : Catalog Hash) (sourceId : Uuid) :
    Except ServiceError (ConfigurationRow Hash) :=
  match catalog.source? sourceId with
  | none => .error
      (.domainValidation "source deployment_configuration was not found")
  | some source => .ok source

def createObservedRuntimeConfiguration (call : ObservationCall) :
    Except ServiceError (ObservedConfiguration Hash × Catalog Hash) := do
  assertAttestationOperator env call.signer
  let source ← catalog.requiredSource call.sourceId
  let manifest ← inspectOllamaModel env call.registry call.baseUrl call.modelName
  return recordManifest env catalog manifest call source

end Calls

end ModelAtlas.Validation
