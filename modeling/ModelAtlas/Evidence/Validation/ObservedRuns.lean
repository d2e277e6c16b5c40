import ModelAtlas.Foundations.JsonTexts
import ModelAtlas.Evidence.Validation.ObservedConsistency

/-!
# Runs of observations

Calls of `create_observed_runtime_configuration` one after the other.
-/

namespace ModelAtlas.Validation

open Foundations Jobs

section Runs

variable {Hash : Type} {env : AttestationEnvironment Hash}

theorem inspectOllamaModel_digest {reg : Except ServiceError Json}
    {baseUrl modelName : String} {manifest : RuntimeManifest Hash}
    (inspected : inspectOllamaModel env reg baseUrl modelName = .ok manifest) :
    sha256Digest env.toValidationEnvironment
      (some (.str manifest.digestValue)) = some manifest.digestValue := by
  obtain ⟨sourceUri, -, inspected⟩ := bind_eq_ok_iff.mp inspected
  obtain ⟨name, -, inspected⟩ := bind_eq_ok_iff.mp inspected
  obtain ⟨payload, -, read⟩ := bind_eq_ok_iff.mp inspected
  rw [readRegistry] at read
  split at read
  · split at read
    · cases read
    · next model found =>
        unfold readItem at read
        split at read
        · cases read
        · next digest isDigest =>
            split at read
            · cases read
            · split at read
              · cases read
              · have isManifest := Except.ok.inj read
                subst isManifest
                exact sha256Digest_idempotent isDigest
  · cases read

variable [DecidableEq Hash]

structure Observation (Hash : Type) where
  before : Catalog Hash
  call : ObservationCall
  result : ObservedConfiguration Hash

/-- The calls that returned, in order, and the tables they lead to.  A call that
raises leaves the tables as they are. -/
inductive Observes (env : AttestationEnvironment Hash)
    (start : Catalog Hash) : List (Observation Hash) → Catalog Hash → Prop
  | start : Observes env start [] start
  | call {observations : List (Observation Hash)} {catalog after : Catalog Hash}
      {call : ObservationCall} {res : ObservedConfiguration Hash} :
      Observes env start observations catalog →
      createObservedRuntimeConfiguration env catalog call =
        .ok (res, after) →
      Observes env start (observations ++ [⟨catalog, call, res⟩]) after

structure SameRequest (call again : ObservationCall) : Prop where
  sourceId : again.sourceId = call.sourceId
  baseUrl : again.baseUrl = call.baseUrl
  modelName : again.modelName = call.modelName
  configurationName : again.configurationName = call.configurationName
  notes : again.notes = call.notes
  registry : again.registry = call.registry

def ObservedConfiguration.found {Hash : Type}
    (res : ObservedConfiguration Hash) : ObservedConfiguration Hash :=
  { res with
    modelCreated := false
    artifactCreated := false
    attestationCreated := false
    configurationCreated := false }

def Repeats (env : AttestationEnvironment Hash) (catalog : Catalog Hash)
    (observation : Observation Hash) : Prop :=
  ∀ again, SameRequest observation.call again → assertAttestationOperator env again.signer = .ok ()
    → createObservedRuntimeConfiguration env catalog again = .ok (observation.result.found, catalog)

theorem createObserved_ok {catalog after : Catalog Hash} {call : ObservationCall}
    {res : ObservedConfiguration Hash}
    (created : createObservedRuntimeConfiguration env catalog call = .ok (res, after)) :
    ∃ source, catalog.source? call.sourceId = some source ∧
      inspectOllamaModel env call.registry call.baseUrl call.modelName = .ok res.manifest ∧
      recordManifest env catalog res.manifest call source = (res, after) := by
  obtain ⟨_, -, created⟩ := bind_eq_ok_iff.mp created
  obtain ⟨source, isSource, created⟩ := bind_eq_ok_iff.mp created
  obtain ⟨manifest, inspected, created⟩ := bind_eq_ok_iff.mp created
  have recorded := Except.ok.inj created
  have isManifest : manifest = res.manifest :=
    congrArg (fun made => made.1.manifest) recorded
  rw [isManifest] at inspected recorded
  refine ⟨source, ?_, inspected, recorded⟩
  rw [Catalog.requiredSource] at isSource
  split at isSource
  · cases isSource
  · next found => rw [found, Except.ok.inj isSource]

theorem Settled.repeats {start catalog : Catalog Hash} {call : ObservationCall}
    {res : ObservedConfiguration Hash} (settled : Settled env catalog call res)
    (inspected : inspectOllamaModel env call.registry call.baseUrl
      call.modelName = .ok res.manifest) :
    Repeats env catalog ⟨start, call, res⟩ := by
  intro again same operator
  dsimp only at same
  obtain ⟨source, isSource, -⟩ := settled.configuration
  have found : catalog.requiredSource again.sourceId = .ok source := by
    rw [Catalog.requiredSource, same.sourceId, isSource]
  have inspectedAgain : inspectOllamaModel env again.registry
      again.baseUrl again.modelName = .ok res.manifest := by
    rw [same.registry, same.baseUrl, same.modelName, inspected]
  have recorded := recordManifest_settled settled isSource same.configurationName same.notes
  rw [createObservedRuntimeConfiguration, operator]
  dsimp only [bind, Except.bind]
  rw [found]
  dsimp only
  rw [inspectedAgain]
  dsimp only
  rw [recorded]
  rfl

/-- Tables are sound, the rows of results are the ones that their keys find, and the rows of
unclaimed digests are about one name. -/
structure RunInvariant (env : AttestationEnvironment Hash)
    (catalog : Catalog Hash) (observations : List (Observation Hash)) : Prop where
  sound : catalog.Sound env
  settled : ∀ observation ∈ observations,
    Settled env catalog observation.call observation.result
  inspected : ∀ observation ∈ observations,
    inspectOllamaModel env observation.call.registry
      observation.call.baseUrl observation.call.modelName =
        .ok observation.result.manifest
  named : ∀ observation ∈ observations,
    Unclaimed env observation.before observation.result.manifest →
    observation.result.attestation.runtimeModelName =
        observation.result.manifest.runtimeModelName ∧
      ∃ model, catalog.model? env observation.result.manifest =
          some model ∧ observation.result.artifact.modelId = model.id

theorem Observes.invariant {start catalog : Catalog Hash} {observations : List (Observation Hash)}
    (sound : start.Sound env) (observes : Observes env start observations catalog) :
    RunInvariant env catalog observations := by
  induction observes with
  | start => exact ⟨sound, by simp, by simp, by simp⟩
  | @call observations catalog after call res earlier created ih =>
      obtain ⟨source, isSource, inspected, recorded⟩ := createObserved_ok created
      have isDigest := inspectOllamaModel_digest inspected
      have spec := recordManifest_spec ih.sound isDigest isSource
      have unclaimedSpec := @recordManifest_unclaimed Hash env catalog
        res.manifest _ call source ih.sound isDigest
      rw [recorded] at spec unclaimedSpec
      obtain ⟨-, settled, extended, soundAfter⟩ := spec
      refine ⟨soundAfter, ?_, ?_, ?_⟩
      · intro observation mem
        rcases List.mem_append.mp mem with old | new
        · exact (ih.settled observation old).extend extended
        · rw [List.mem_singleton.mp new]
          exact settled
      · intro observation mem
        rcases List.mem_append.mp mem with old | new
        · exact ih.inspected observation old
        · rw [List.mem_singleton.mp new]
          exact inspected
      · intro observation mem
        rcases List.mem_append.mp mem with old | new
        · intro unclaimed
          obtain ⟨sameName, model, found, ofModel⟩ :=
            ih.named observation old unclaimed
          exact ⟨sameName, model, extended.models.find?_eq_some found, ofModel⟩
        · rw [List.mem_singleton.mp new]
          exact unclaimedSpec

/-- In a run of unclaimed digests every result stays consistent, and its request
can be repeated. -/
theorem observedConfigurations_consistent {start catalog : Catalog Hash}
    {observations : List (Observation Hash)} (sound : start.Sound env)
    (observes : Observes env start observations catalog) (unclaimed : ∀ observation ∈ observations,
      Unclaimed env observation.before observation.result.manifest) :
    ∀ observation ∈ observations, Consistent env catalog observation.result ∧
        Repeats env catalog observation := by
  intro observation mem
  have inv := observes.invariant sound
  have settled := inv.settled observation mem
  obtain ⟨sameName, ofModel⟩ :=
    inv.named observation mem (unclaimed observation mem)
  exact ⟨settled.consistent inv.sound sameName ofModel,
    settled.repeats (inv.inspected observation mem)⟩

end Runs

def plainAttestation : AttestationEnvironment Json where
  toValidationEnvironment := asciiValidation
  stableHash := id
  collisionFree := by
    intro left right same path
    rw [id, id] at same
    rw [same]
  hexDigest _ := "hash"
  uuidText id := String.ofList (List.replicate id 'u')
  uuidText_injective := by
    intro left right same
    have sameLists := String.ofList_injective same
    have sameLengths := congrArg List.length sameLists
    rw [List.length_replicate, List.length_replicate] at sameLengths
    exact sameLengths
  runtimeBaseUrl url := .ok url
  readInt
    | .int value => some value
    | _ => none

def copiedRegistry : Json :=
  let item := fun name => Json.obj
    [("name", .str name), ("model", .str name), ("size", .int 397000000),
      ("digest", .str artifactDigest)]
  .obj [("models", .arr [item "qwen2.5:0.5b", item "assistant:latest"])]

def attestationOperator : SignerIdentity :=
  ⟨"artifact-attestor", "Artifact Attestor", some "ML Ops Lead", "static",
    "header", true, none⟩

def observationOf (name : String) : ObservationCall where
  sourceId := 1
  baseUrl := "http://ollama:11434"
  modelName := name
  configurationName := none
  notes := none
  signer := attestationOperator
  registry := .ok copiedRegistry
  now := 0

def sourceFields : ConfigurationFields where
  name := "source"
  workloadProfileId := 2
  hardwareProfileId := 3
  modelArtifactId := 4
  runtimeName := "ollama"
  runtimeVersion := none
  runtimeConfig := []
  contextLength := 4096
  generationConfig := .obj []
  promptBundle := .obj []
  outputSchemaVersion := none
  toolSchemaVersion := none
  retrievalConfig := none
  concurrencyTarget := 1
  status := "draft"
  notes := none

def sourceCatalog : Catalog Json where
  models := []
  artifacts := []
  attestations := []
  configurations := [{ sourceFields with
    id := 1
    configurationHash := deploymentConfigurationHash plainAttestation sourceFields }]
  nextId := 5

theorem sourceCatalog_sound : sourceCatalog.Sound plainAttestation where
  drawn := by simp [sourceCatalog]
  distinct := List.nodup_nil
  attested := by simp [sourceCatalog]
  single := List.nodup_nil
  hashed := by
    intro configuration mem
    rw [List.mem_singleton.mp mem]

def observedAfter (catalog : Catalog Json) (name : String) :
    Option (ObservedConfiguration Json × Catalog Json) :=
  (createObservedRuntimeConfiguration plainAttestation catalog (observationOf name)).toOption

theorem observedAfter_eq_some {catalog : Catalog Json} {name : String}
    {made : ObservedConfiguration Json × Catalog Json}
    (observed : observedAfter catalog name = some made) :
    createObservedRuntimeConfiguration plainAttestation catalog
      (observationOf name) = .ok made := by
  rw [observedAfter] at observed
  cases created : createObservedRuntimeConfiguration plainAttestation catalog
      (observationOf name) with
  | error raised =>
    rw [created] at observed
    cases observed
  | ok other =>
    rw [created] at observed
    rw [Option.some.inj observed]

/-- The attestation of the copy is the one of the model, and evidence of the copy
is judged as of another model. -/
theorem observedConfigurations_copy : ∃ first between second after,
      createObservedRuntimeConfiguration plainAttestation sourceCatalog
        (observationOf "qwen2.5:0.5b") = .ok (first, between) ∧
      createObservedRuntimeConfiguration plainAttestation between
        (observationOf "assistant:latest") = .ok (second, after) ∧
      second.runtime "model" = some "assistant:latest" ∧
      second.attestation.runtimeModelName = "qwen2.5:0.5b" ∧
      artifactAttestationStatus plainAttestation.toValidationEnvironment
        (latestVerifiedAttestation (after.attestations.map
          AttestationRow.toModelArtifactAttestation)
          second.configuration.modelArtifactId)
        (sha256Digest plainAttestation.toValidationEnvironment
          (second.artifact.checksum.map Json.str)) ["assistant:latest"]
        [artifactDigest] = .modelMismatch ∧
      ¬ Consistent plainAttestation after second := by
  have computed : ((observedAfter sourceCatalog "qwen2.5:0.5b").bind (fun made =>
      (observedAfter made.2 "assistant:latest").map (fun again =>
        (again.1.runtime "model", again.1.attestation.runtimeModelName,
          artifactAttestationStatus plainAttestation.toValidationEnvironment
            (latestVerifiedAttestation (again.2.attestations.map
              AttestationRow.toModelArtifactAttestation)
              again.1.configuration.modelArtifactId)
            (sha256Digest plainAttestation.toValidationEnvironment
              (again.1.artifact.checksum.map Json.str)) ["assistant:latest"]
            [artifactDigest])))) =
      some (some "assistant:latest", "qwen2.5:0.5b", .modelMismatch) := by
    decide +kernel
  obtain ⟨⟨first, between⟩, isFirst, computed⟩ := Option.bind_eq_some_iff.mp computed
  obtain ⟨⟨second, after⟩, isSecond, computed⟩ := Option.map_eq_some_iff.mp computed
  obtain ⟨isModel, rest⟩ := Prod.mk.inj computed
  obtain ⟨isName, isStatus⟩ := Prod.mk.inj rest
  refine ⟨first, between, second, after, observedAfter_eq_some isFirst,
    observedAfter_eq_some isSecond, isModel, isName, isStatus, ?_⟩
  intro consistent
  have sameName := consistent.configuredModel
  rw [isModel, isName] at sameName
  exact absurd sameName (by decide)

theorem observedConfigurations_consistent_single :
    ∃ res after, Observes plainAttestation sourceCatalog
        [⟨sourceCatalog, observationOf "qwen2.5:0.5b", res⟩] after ∧
      Consistent plainAttestation after res := by
  have computed : (observedAfter sourceCatalog "qwen2.5:0.5b").isSome = true := by
    decide +kernel
  obtain ⟨⟨res, after⟩, observed⟩ := Option.isSome_iff_exists.mp computed
  have observes : Observes plainAttestation sourceCatalog
      [⟨sourceCatalog, observationOf "qwen2.5:0.5b", res⟩] after :=
    Observes.call Observes.start (observedAfter_eq_some observed)
  have unclaimed : ∀ observation ∈ [(⟨sourceCatalog,
      observationOf "qwen2.5:0.5b", res⟩ : Observation Json)],
      Unclaimed plainAttestation observation.before
        observation.result.manifest := by
    intro observation mem
    rw [List.mem_singleton.mp mem]
    refine ⟨?_, ?_⟩
    · intro artifact found
      cases found
    · intro artifact attestation found
      cases found
  exact ⟨res, after, observes, (observedConfigurations_consistent
    sourceCatalog_sound observes unclaimed _ List.mem_cons_self).1⟩

end ModelAtlas.Validation
