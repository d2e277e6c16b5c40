import ModelAtlas.Evidence.Validation.ObservedRuntimes

/-!
# Consistency of observed configurations

The rows of a call are found by different keys: the model by the name it has in
the catalog, the artifact by its digest, the attestation by both and the
configuration by its hash.
-/

namespace ModelAtlas.Validation

open Foundations Jobs

section Digests

variable {env : ValidationEnvironment}

theorem pyStrip_of_no_space {text : String} (solid : ∀ char ∈ text.toList, isPySpace char = false) :
    pyStrip text = text := by
  have unchanged : ∀ chars : List Char, (∀ char ∈ chars, isPySpace char = false) →
        chars.dropWhile isPySpace = chars := by
    intro chars none
    cases chars with
    | nil => rfl
    | cons first rest =>
      rw [List.dropWhile_cons_of_neg]
      rw [none first List.mem_cons_self]
      exact Bool.false_ne_true
  have back : ∀ char ∈ text.toList.reverse, isPySpace char = false := by
    intro char mem
    exact solid char (List.mem_reverse.mp mem)
  rw [pyStrip, unchanged _ solid, unchanged _ back, List.reverse_reverse, String.ofList_toList]

theorem lower_hex {char : Char}
    (isHex : "0123456789abcdefABCDEF".toList.contains char = true) :
    "0123456789abcdefABCDEF".toList.contains char.toLower = true ∧
      char.toLower.toLower = char.toLower ∧ isPySpace char.toLower = false := by
  have all : ("0123456789abcdefABCDEF".toList.all (fun char =>
      "0123456789abcdefABCDEF".toList.contains char.toLower &&
        (decide (char.toLower.toLower = char.toLower) && !isPySpace char.toLower))) = true := by
    decide +kernel
  have checked := List.all_eq_true.mp all char (List.contains_iff_mem.mp isHex)
  rw [Bool.and_eq_true, Bool.and_eq_true, decide_eq_true_eq, Bool.not_eq_true'] at checked
  exact checked

theorem sha256Digest_idempotent {value : Option Json} {digest : String}
    (read : sha256Digest env value = some digest) :
    sha256Digest env (some (.str digest)) = some digest := by
  rw [sha256Digest] at read
  split at read
  · next isDigest =>
      generalize (pyDropStart "sha256:" (pyStrip (Json.pyStrOrEmpty
        env.text.render value))).toList = digits at isDigest read
      obtain ⟨long, hex⟩ := isDigest
      have hex := List.all_eq_true.mp hex
      have chars : digest.toList = "sha256:".toList ++ digits.map Char.toLower := by
        rw [← Option.some.inj read, String.toList_append]
        rw [@String.toList_ofList (digits.map Char.toLower)]
      have solid : ∀ char ∈ digest.toList, isPySpace char = false := by
        intro char mem
        rw [chars] at mem
        rcases List.mem_append.mp mem with start | digit
        · have plain : "sha256:".toList.all (fun char => !isPySpace char) =
              true := by
            decide +kernel
          have solidStart := List.all_eq_true.mp plain char start
          rw [Bool.not_eq_true'] at solidStart
          exact solidStart
        · obtain ⟨original, isDigit, same⟩ := List.mem_map.mp digit
          rw [← same]
          exact (lower_hex (hex original isDigit)).2.2
      have nonempty : digest ≠ "" := by
        intro empty
        rw [empty] at chars
        cases chars
      have text : Json.pyStrOrEmpty env.text.render (some (.str digest)) =
          digest := by
        simp [Json.pyStrOrEmpty, Json.truthy, Json.pyStr, nonempty]
      have dropped : (pyDropStart "sha256:" digest).toList =
          digits.map Char.toLower := by
        have isStart : "sha256:".toList.isPrefixOf digest.toList = true := by
          rw [chars]
          exact List.isPrefixOf_iff_prefix.mpr (List.prefix_append _ _)
        rw [pyDropStart, if_pos isStart, String.toList_ofList, chars, List.drop_left]
      have lowerLong : (digits.map Char.toLower).length = 64 := by
        rw [List.length_map, long]
      have lowerHex : (digits.map Char.toLower).all (fun char =>
          "0123456789abcdefABCDEF".toList.contains char) = true := by
        rw [List.all_eq_true]
        intro char mem
        obtain ⟨original, isDigit, same⟩ := List.mem_map.mp mem
        rw [← same]
        exact (lower_hex (hex original isDigit)).1
      have lowerTwice : (digits.map Char.toLower).map Char.toLower = digits.map Char.toLower := by
        rw [List.map_map]
        apply List.map_congr_left
        intro char mem
        exact (lower_hex (hex char mem)).2.1
      rw [sha256Digest, text, pyStrip_of_no_space solid]
      rw [dropped, if_pos ⟨lowerLong, lowerHex⟩, lowerTwice, ← Option.some.inj read]
  · cases read

end Digests

section Catalogs

variable {Hash : Type} {env : AttestationEnvironment Hash}

structure Catalog.Extends (before after : Catalog Hash) : Prop where
  models : before.models <+: after.models
  artifacts : before.artifacts <+: after.artifacts
  attestations : before.attestations <+: after.attestations
  configurations : before.configurations <+: after.configurations

theorem Catalog.Extends.refl (catalog : Catalog Hash) : catalog.Extends catalog :=
  ⟨List.prefix_rfl, List.prefix_rfl, List.prefix_rfl, List.prefix_rfl⟩

theorem Catalog.Extends.trans {first second third : Catalog Hash}
    (left : first.Extends second) (right : second.Extends third) :
    first.Extends third :=
  ⟨left.models.trans right.models, left.artifacts.trans right.artifacts,
    left.attestations.trans right.attestations,
    left.configurations.trans right.configurations⟩

structure Attested (env : AttestationEnvironment Hash)
    (catalog : Catalog Hash) (attestation : AttestationRow Hash) : Prop where
  status : attestation.status = "verified"
  identityVerified : attestation.identityVerified = true
  digest : sha256Digest env.toValidationEnvironment
    (some (.str attestation.digestValue)) = some attestation.digestValue
  artifact : ∃ artifact ∈ catalog.artifacts,
    artifact.id = attestation.modelArtifactId ∧
      artifact.checksum = some attestation.digestValue

structure Catalog.Sound (env : AttestationEnvironment Hash)
    (catalog : Catalog Hash) : Prop where
  drawn : ∀ artifact ∈ catalog.artifacts, artifact.id < catalog.nextId
  distinct : (catalog.artifacts.map CatalogArtifact.id).Nodup
  attested : ∀ attestation ∈ catalog.attestations,
    Attested env catalog attestation
  single : (catalog.attestations.map
    (fun attestation => attestation.modelArtifactId)).Nodup
  hashed : ∀ configuration ∈ catalog.configurations,
    configuration.configurationHash = deploymentConfigurationHash env
      configuration.toConfigurationFields

variable {catalog : Catalog Hash} {manifest : RuntimeManifest Hash}

theorem Attested.extend {after : Catalog Hash} {attestation : AttestationRow Hash}
    (attested : Attested env catalog attestation)
    (extended : catalog.artifacts <+: after.artifacts) :
    Attested env after attestation := by
  obtain ⟨artifact, mem, isOf⟩ := attested.artifact
  exact ⟨attested.status, attested.identityVerified, attested.digest,
    artifact, extended.subset mem, isOf⟩

/-! ## Rows that are found or created -/

theorem getOrCreateObservedModel_spec (sound : catalog.Sound env) :
    (getOrCreateObservedModel env catalog manifest).2.2.model? env manifest =
        some (getOrCreateObservedModel env catalog manifest).1 ∧
      catalog.Extends (getOrCreateObservedModel env catalog manifest).2.2 ∧
      (getOrCreateObservedModel env catalog manifest).2.2.Sound
        env := by
  rw [getOrCreateObservedModel]
  cases found : catalog.model? env manifest with
  | some existing => exact ⟨found, Catalog.Extends.refl catalog, sound⟩
  | none =>
    refine ⟨?_, ?_, ?_⟩
    · rw [Catalog.model?] at found ⊢
      dsimp only
      rw [List.find?_append, found]
      simp
    · exact ⟨List.prefix_append _ _, List.prefix_rfl, List.prefix_rfl, List.prefix_rfl⟩
    · refine ⟨?_, sound.distinct, ?_, sound.single, sound.hashed⟩
      · intro artifact mem
        exact Nat.lt_succ_of_lt (sound.drawn artifact mem)
      · intro attestation mem
        exact (sound.attested attestation mem).extend List.prefix_rfl

theorem getOrCreateObservedArtifact_spec {model : CatalogModel}
    {source : ConfigurationRow Hash} (sound : catalog.Sound env) :
    (getOrCreateObservedArtifact catalog manifest model source).2.2.artifact? manifest =
        some (getOrCreateObservedArtifact catalog manifest model source).1 ∧
      catalog.Extends (getOrCreateObservedArtifact catalog manifest model source).2.2 ∧
      (getOrCreateObservedArtifact catalog manifest model source).2.2.Sound
        env := by
  rw [getOrCreateObservedArtifact]
  cases found : catalog.artifact? manifest with
  | some existing => exact ⟨found, Catalog.Extends.refl catalog, sound⟩
  | none =>
    refine ⟨?_, ?_, ?_⟩
    · rw [Catalog.artifact?] at found ⊢
      dsimp only
      rw [List.find?_append, found]
      simp
    · exact ⟨List.prefix_rfl, List.prefix_append _ _, List.prefix_rfl, List.prefix_rfl⟩
    · refine ⟨?_, ?_, ?_, sound.single, sound.hashed⟩
      · intro artifact mem
        rcases List.mem_append.mp mem with old | new
        · exact Nat.lt_succ_of_lt (sound.drawn artifact old)
        · rw [List.mem_singleton.mp new]
          exact Nat.lt_succ_self catalog.nextId
      · dsimp only
        rw [List.map_append, List.map_singleton, List.nodup_append]
        refine ⟨sound.distinct, List.nodup_singleton _, ?_⟩
        intro id isOld other isNew same
        obtain ⟨artifact, mem, isId⟩ := List.mem_map.mp isOld
        have below := sound.drawn artifact mem
        rw [isId, same, List.mem_singleton.mp isNew] at below
        exact Nat.lt_irrefl _ below
      · intro attestation mem
        exact (sound.attested attestation mem).extend (List.prefix_append _ _)

theorem getOrCreateAttestation_spec {artifact : CatalogArtifact} {signer : SignerIdentity}
    {now : Time} (sound : catalog.Sound env) (isDigest : sha256Digest env.toValidationEnvironment
      (some (.str manifest.digestValue)) = some manifest.digestValue)
    (found : catalog.artifact? manifest = some artifact) :
    (getOrCreateAttestation env catalog manifest artifact signer
        now).2.2.attestation? manifest artifact =
        some (getOrCreateAttestation env catalog manifest artifact signer now).1 ∧
      catalog.Extends (getOrCreateAttestation env catalog manifest artifact signer now).2.2 ∧
      (getOrCreateAttestation env catalog manifest artifact signer now).2.2.Sound env := by
  have isRow : artifact ∈ catalog.artifacts := List.mem_of_find?_eq_some found
  have isOfDigest : artifact.checksum = some manifest.digestValue := by
    rw [Catalog.artifact?] at found
    have isDecided := List.find?_some found
    exact of_decide_eq_true isDecided
  rw [getOrCreateAttestation]
  cases attested : catalog.attestation? manifest artifact with
  | some existing => exact ⟨attested, Catalog.Extends.refl catalog, sound⟩
  | none =>
    refine ⟨?_, ?_, ?_⟩
    · rw [Catalog.attestation?] at attested ⊢
      dsimp only
      rw [List.find?_append, attested]
      simp [newAttestation]
    · exact ⟨List.prefix_rfl, List.prefix_rfl, List.prefix_append _ _, List.prefix_rfl⟩
    · refine ⟨?_, sound.distinct, ?_, ?_, sound.hashed⟩
      · intro other mem
        exact Nat.lt_succ_of_lt (sound.drawn other mem)
      · intro attestation mem
        rcases List.mem_append.mp mem with old | new
        · exact (sound.attested attestation old).extend List.prefix_rfl
        · rw [List.mem_singleton.mp new]
          exact ⟨rfl, rfl, isDigest, artifact, isRow, rfl, isOfDigest⟩
      · dsimp only
        rw [List.map_append, List.map_singleton, List.nodup_append]
        refine ⟨sound.single, List.nodup_singleton _, ?_⟩
        intro id isOld other isNew same
        obtain ⟨attestation, mem, isId⟩ := List.mem_map.mp isOld
        -- the artifact of an older attestation has the same id, so its digest
        obtain ⟨row, rowMem, rowId, rowDigest⟩ :=
          (sound.attested attestation mem).artifact
        have sameId : row.id = artifact.id := by
          rw [rowId, isId, same, List.mem_singleton.mp isNew]
          rfl
        have sameRow : row = artifact :=
          List.inj_on_of_nodup_map sound.distinct rowMem isRow sameId
        have absent := List.find?_eq_none.mp attested attestation mem
        apply absent
        have digests : attestation.digestValue = manifest.digestValue := by
          rw [sameRow, isOfDigest] at rowDigest
          exact (Option.some.inj rowDigest).symm
        rw [Bool.and_eq_true, decide_eq_true_eq, decide_eq_true_eq]
        refine ⟨?_, digests⟩
        rw [← rowId, sameRow]

theorem getOrCreateObservedArtifact_modelId {model : CatalogModel} {source : ConfigurationRow Hash}
    (ofModel : ∀ artifact, catalog.artifact? manifest = some artifact →
      artifact.modelId = model.id) :
    (getOrCreateObservedArtifact catalog manifest model source).1.modelId =
      model.id := by
  rw [getOrCreateObservedArtifact]
  cases found : catalog.artifact? manifest with
  | some existing => exact ofModel existing found
  | none => rfl

theorem getOrCreateAttestation_name {artifact : CatalogArtifact} {signer : SignerIdentity}
    {now : Time} (named : ∀ attestation, catalog.attestation? manifest artifact = some attestation →
        attestation.runtimeModelName = manifest.runtimeModelName) :
    (getOrCreateAttestation env catalog manifest artifact signer
      now).1.runtimeModelName = manifest.runtimeModelName := by
  rw [getOrCreateAttestation]
  cases found : catalog.attestation? manifest artifact with
  | some existing => exact named existing found
  | none => rfl

theorem getOrCreateObservedModel_tables :
    (getOrCreateObservedModel env catalog manifest).2.2.artifacts = catalog.artifacts ∧
      (getOrCreateObservedModel env catalog manifest).2.2.attestations =
        catalog.attestations := by
  rw [getOrCreateObservedModel]
  cases catalog.model? env manifest with
  | some existing => exact ⟨rfl, rfl⟩
  | none => exact ⟨rfl, rfl⟩

theorem getOrCreateObservedArtifact_attestations {model : CatalogModel}
    {source : ConfigurationRow Hash} :
    (getOrCreateObservedArtifact catalog manifest model source).2.2.attestations =
      catalog.attestations := by
  rw [getOrCreateObservedArtifact]
  cases catalog.artifact? manifest with
  | some existing => rfl
  | none => rfl

theorem get?_setMember (members : List (String × Json)) (name other : String) (value : Json) :
    (Json.obj (Json.setMember members name value)).get? other =
      if other = name then some value else (Json.obj members).get? other := by
  rw [Json.get?, Json.setMember, List.find?_append, Json.get?]
  by_cases same : other = name
  · have absent : (members.filter (fun mem => mem.1 ≠ name)).find?
        (fun mem => mem.1 = other) = none := by
      rw [List.find?_eq_none]
      intro mem kept isOther
      have differs := of_decide_eq_true (List.mem_filter.mp kept).2
      exact differs ((of_decide_eq_true isOther).trans same)
    rw [absent, if_pos same]
    simp [same]
  · have unchanged : (members.filter (fun mem => mem.1 ≠ name)).find?
        (fun mem => mem.1 = other) = members.find? (fun mem => mem.1 = other) := by
      rw [List.find?_filter]
      congr 1
      funext mem
      by_cases isOther : mem.1 = other
      · simp [isOther, same]
      · simp [isOther]
    have differs : ¬ name = other := fun equal => same equal.symm
    rw [unchanged, if_neg same]
    simp [differs]

theorem textAt_observedRuntime {config : List (String × Json)} {attestation : AttestationRow Hash} :
    textAt ["model"]
        (.obj (observedRuntime env config manifest attestation)) =
        some manifest.runtimeModelName ∧
      textAt ["model_digest"]
        (.obj (observedRuntime env config manifest attestation)) =
        some manifest.digestValue := by
  constructor
  · rw [textAt, observedRuntime]
    simp [get?_setMember, textAt]
  · rw [textAt, observedRuntime]
    simp [get?_setMember, textAt]

theorem eq_of_hash {left right : ConfigurationFields} (same : deploymentConfigurationHash env left =
      deploymentConfigurationHash env right) :
    left.modelArtifactId = right.modelArtifactId ∧ ∀ name, textAt [name] (.obj left.runtimeConfig) =
        textAt [name] (.obj right.runtimeConfig) := by
  have texts := env.collisionFree _ _ same
  constructor
  · have ids := texts ["model_artifact_id"]
    exact env.uuidText_injective (Option.some.inj ids)
  · intro name
    exact texts ["runtime_config_json", name]

variable [DecidableEq Hash]

theorem getOrCreateConfiguration_spec {fields : ConfigurationFields} (sound : catalog.Sound env) :
    (getOrCreateConfiguration env catalog fields).2.2.configuration?
        (deploymentConfigurationHash env fields) =
        some (getOrCreateConfiguration env catalog fields).1 ∧
      catalog.Extends (getOrCreateConfiguration env catalog fields).2.2 ∧
      (getOrCreateConfiguration env catalog fields).2.2.Sound
        env := by
  rw [getOrCreateConfiguration]
  dsimp only
  cases found : catalog.configuration? (deploymentConfigurationHash env fields) with
  | some existing => exact ⟨found, Catalog.Extends.refl catalog, sound⟩
  | none =>
    refine ⟨?_, ?_, ?_⟩
    · rw [Catalog.configuration?] at found ⊢
      dsimp only
      rw [List.find?_append, found]
      simp
    · exact ⟨List.prefix_rfl, List.prefix_rfl, List.prefix_rfl, List.prefix_append _ _⟩
    · refine ⟨?_, sound.distinct, ?_, sound.single, ?_⟩
      · intro artifact mem
        exact Nat.lt_succ_of_lt (sound.drawn artifact mem)
      · intro attestation mem
        exact (sound.attested attestation mem).extend List.prefix_rfl
      · intro configuration mem
        rcases List.mem_append.mp mem with old | new
        · exact sound.hashed configuration old
        · rw [List.mem_singleton.mp new]

structure Settled (env : AttestationEnvironment Hash)
    (catalog : Catalog Hash) (call : ObservationCall)
    (res : ObservedConfiguration Hash) : Prop where
  model : ∃ model, catalog.model? env res.manifest = some model
  artifact : catalog.artifact? res.manifest = some res.artifact
  attestation : catalog.attestation? res.manifest res.artifact =
    some res.attestation
  configuration : ∃ source, catalog.source? call.sourceId = some source ∧
    catalog.configuration? (deploymentConfigurationHash env
      (observedFields env res.manifest source res.artifact
        res.attestation call.configurationName call.notes)) =
      some res.configuration

theorem Settled.extend {call : ObservationCall}
    {res : ObservedConfiguration Hash} {after : Catalog Hash}
    (settled : Settled env catalog call res)
    (extended : catalog.Extends after) :
    Settled env after call res := by
  obtain ⟨model, found⟩ := settled.model
  obtain ⟨source, isSource, configured⟩ := settled.configuration
  exact ⟨⟨model, extended.models.find?_eq_some found⟩,
    extended.artifacts.find?_eq_some settled.artifact,
    extended.attestations.find?_eq_some settled.attestation,
    source, extended.configurations.find?_eq_some isSource,
    extended.configurations.find?_eq_some configured⟩

theorem recordManifest_spec {call : ObservationCall} {source : ConfigurationRow Hash}
    (sound : catalog.Sound env) (isDigest : sha256Digest env.toValidationEnvironment
      (some (.str manifest.digestValue)) = some manifest.digestValue)
    (isSource : catalog.source? call.sourceId = some source) :
    (recordManifest env catalog manifest call source).1.manifest = manifest ∧ Settled env
        (recordManifest env catalog manifest call source).2 call
        (recordManifest env catalog manifest call source).1 ∧
      catalog.Extends (recordManifest env catalog manifest call source).2 ∧
      (recordManifest env catalog manifest call source).2.Sound
        env := by
  have modelled :=
    @getOrCreateObservedModel_spec Hash env catalog manifest sound
  generalize modelEq : getOrCreateObservedModel env catalog manifest = withModel at modelled
  have artifactSpec := @getOrCreateObservedArtifact_spec Hash env
    withModel.2.2 manifest withModel.1 source modelled.2.2
  generalize artifactEq : getOrCreateObservedArtifact withModel.2.2 manifest
    withModel.1 source = withArtifact at artifactSpec
  have attestationSpec := @getOrCreateAttestation_spec Hash env
    withArtifact.2.2 manifest withArtifact.1 call.signer call.now
    artifactSpec.2.2 isDigest artifactSpec.1
  generalize attestationEq : getOrCreateAttestation env withArtifact.2.2
    manifest withArtifact.1 call.signer call.now = withAttestation
    at attestationSpec
  have configured := @getOrCreateConfiguration_spec Hash env
    withAttestation.2.2 _ (observedFields env manifest source
      withArtifact.1 withAttestation.1 call.configurationName call.notes)
    attestationSpec.2.2
  generalize configurationEq : getOrCreateConfiguration env
    withAttestation.2.2 (observedFields env manifest source withArtifact.1
      withAttestation.1 call.configurationName call.notes) = after at configured
  have recorded : recordManifest env catalog manifest call source =
      (⟨manifest, withArtifact.1, withAttestation.1, after.1, withModel.2.1,
        withArtifact.2.1, withAttestation.2.1, after.2.1⟩, after.2.2) := by
    rw [← configurationEq, ← attestationEq, ← artifactEq, ← modelEq]
    rfl
  rw [recorded]
  have beyondModel := artifactSpec.2.1.trans (attestationSpec.2.1.trans configured.2.1)
  have beyondArtifact := attestationSpec.2.1.trans configured.2.1
  refine ⟨rfl, ⟨⟨withModel.1, ?_⟩, ?_, ?_, source, ?_, configured.1⟩,
    modelled.2.1.trans beyondModel, configured.2.2⟩
  · exact beyondModel.models.find?_eq_some modelled.1
  · exact beyondArtifact.artifacts.find?_eq_some artifactSpec.1
  · exact configured.2.1.attestations.find?_eq_some attestationSpec.1
  · exact (modelled.2.1.trans beyondModel).configurations.find?_eq_some isSource

theorem recordManifest_settled {call again : ObservationCall}
    {res : ObservedConfiguration Hash} {source : ConfigurationRow Hash}
    (settled : Settled env catalog call res)
    (isSource : catalog.source? call.sourceId = some source)
    (sameName : again.configurationName = call.configurationName)
    (sameNotes : again.notes = call.notes) :
    recordManifest env catalog res.manifest again source = ({ res with
          modelCreated := false
          artifactCreated := false
          attestationCreated := false
          configurationCreated := false }, catalog) := by
  obtain ⟨model, found⟩ := settled.model
  obtain ⟨known, isKnown, configured⟩ := settled.configuration
  have sameSource : known = source :=
    Option.some.inj (isKnown.symm.trans isSource)
  rw [sameSource, ← sameName, ← sameNotes] at configured
  rw [recordManifest, getOrCreateObservedModel, found]
  dsimp only
  rw [getOrCreateObservedArtifact, settled.artifact]
  dsimp only
  rw [getOrCreateAttestation, settled.attestation]
  dsimp only
  rw [getOrCreateConfiguration, configured]

def ObservedConfiguration.runtime {Hash : Type}
    (res : ObservedConfiguration Hash) (name : String) : Option String :=
  textAt [name] (.obj res.configuration.runtimeConfig)

/-- The rows of a result are about one model: the observed digest, one name and its artifact in
the catalog. Evidence under the configuration is verified. -/
structure Consistent (env : AttestationEnvironment Hash)
    (catalog : Catalog Hash) (res : ObservedConfiguration Hash) : Prop where
  checksum : res.artifact.checksum = some res.manifest.digestValue
  attestedDigest : res.attestation.digestValue = res.manifest.digestValue
  configuredDigest : res.runtime "model_digest" =
    some res.manifest.digestValue
  configuredModel : res.runtime "model" =
    some res.attestation.runtimeModelName
  attestsArtifact : res.attestation.modelArtifactId = res.artifact.id
  configuredArtifact : res.configuration.modelArtifactId = res.artifact.id
  ofModel : ∃ model, catalog.model? env res.manifest = some model ∧
    res.artifact.modelId = model.id
  judged : ∀ names digests,
    (∀ name ∈ names, res.runtime "model" = some name) →
    (∀ digest ∈ digests, res.runtime "model_digest" = some digest) →
    artifactAttestationStatus env.toValidationEnvironment
      (latestVerifiedAttestation (catalog.attestations.map
        AttestationRow.toModelArtifactAttestation)
        res.configuration.modelArtifactId)
      (sha256Digest env.toValidationEnvironment
        (res.artifact.checksum.map Json.str)) names digests = .verified

/-- The digest is recorded for no other name, neither by its artifact nor by its attestation. -/
structure Unclaimed (env : AttestationEnvironment Hash)
    (catalog : Catalog Hash) (manifest : RuntimeManifest Hash) : Prop where
  artifact : ∀ artifact, catalog.artifact? manifest = some artifact →
    ∃ model, catalog.model? env manifest = some model ∧
      artifact.modelId = model.id
  attestation : ∀ artifact attestation,
    catalog.artifact? manifest = some artifact →
    catalog.attestation? manifest artifact = some attestation →
    attestation.runtimeModelName = manifest.runtimeModelName

theorem Settled.runtime {call : ObservationCall} {res : ObservedConfiguration Hash}
    (sound : catalog.Sound env) (settled : Settled env catalog call res) :
    res.configuration.modelArtifactId = res.artifact.id ∧
      res.runtime "model" = some res.manifest.runtimeModelName ∧
      res.runtime "model_digest" = some res.manifest.digestValue := by
  obtain ⟨source, -, configured⟩ := settled.configuration
  have mem := List.mem_of_find?_eq_some configured
  rw [Catalog.configuration?] at configured
  have decided := List.find?_some configured
  have isHash := of_decide_eq_true decided
  rw [sound.hashed res.configuration mem] at isHash
  obtain ⟨artifact, runtime⟩ := eq_of_hash isHash
  refine ⟨artifact, ?_, ?_⟩
  · rw [ObservedConfiguration.runtime, runtime]
    exact textAt_observedRuntime.1
  · rw [ObservedConfiguration.runtime, runtime]
    exact textAt_observedRuntime.2

theorem Settled.digests {call : ObservationCall} {res : ObservedConfiguration Hash}
    (settled : Settled env catalog call res) :
    res.artifact.checksum = some res.manifest.digestValue ∧
      res.attestation.modelArtifactId = res.artifact.id ∧
      res.attestation.digestValue = res.manifest.digestValue := by
  have isArtifact := settled.artifact
  have isAttestation := settled.attestation
  rw [Catalog.artifact?] at isArtifact
  rw [Catalog.attestation?] at isAttestation
  have ofDigest := List.find?_some isArtifact
  have ofBoth := List.find?_some isAttestation
  rw [Bool.and_eq_true, decide_eq_true_eq, decide_eq_true_eq] at ofBoth
  exact ⟨of_decide_eq_true ofDigest, ofBoth.1, ofBoth.2⟩

theorem firstInOrder_of_single {Row : Type} {precedes : Row → Row → Bool} {rows : List Row}
    {row : Row} (mem : row ∈ rows) (only : ∀ other ∈ rows, other = row) :
    firstInOrder precedes rows = some row := by
  cases first : firstInOrder precedes rows with
  | some other =>
    rw [only other (firstInOrder_mem first)]
  | none =>
    exfalso
    cases rows with
    | nil => cases mem
    | cons head rest =>
      rw [firstInOrder] at first
      split at first
      · cases first
      · split at first
        · cases first
        · cases first

theorem latestVerifiedAttestation_settled {call : ObservationCall}
    {res : ObservedConfiguration Hash} (sound : catalog.Sound env)
    (settled : Settled env catalog call res) :
    latestVerifiedAttestation (catalog.attestations.map
        AttestationRow.toModelArtifactAttestation) res.artifact.id =
      some res.attestation.toModelArtifactAttestation := by
  have mem := List.mem_of_find?_eq_some settled.attestation
  have ofArtifact := settled.digests.2.1
  have attested := sound.attested res.attestation mem
  rw [latestVerifiedAttestation]
  apply firstInOrder_of_single
  · rw [List.mem_filter]
    refine ⟨List.mem_map_of_mem mem, ?_⟩
    rw [ofArtifact, attested.status, attested.identityVerified]
    simp
  · intro other isOther
    obtain ⟨isRow, matched⟩ := List.mem_filter.mp isOther
    obtain ⟨row, rowMem, same⟩ := List.mem_map.mp isRow
    rw [Bool.and_eq_true, Bool.and_eq_true, decide_eq_true_eq] at matched
    have sameArtifact : row.modelArtifactId =
        res.attestation.modelArtifactId := by
      rw [ofArtifact, ← matched.1.1, ← same]
    rw [← same, List.inj_on_of_nodup_map sound.single rowMem mem sameArtifact]

theorem artifactAttestationStatus_verified {env : ValidationEnvironment}
    {attestation : ModelArtifactAttestation} {attested : String}
    {names digests : List String}
    (isAttested : attestedDigest env attestation = some attested)
    (allDigests : ∀ digest ∈ digests, digest = attested)
    (named : names = [] ∨ attestation.runtimeModelName ∈ names) :
    artifactAttestationStatus env (some attestation) (some attested) names digests = .verified := by
  unfold artifactAttestationStatus
  dsimp only
  rw [isAttested]
  dsimp only
  split
  · next mismatch =>
      exfalso
      rcases mismatch with differs | observed
      · exact differs rfl
      · obtain ⟨digest, mem, different⟩ := List.any_eq_true.mp observed
        exact of_decide_eq_true different (allDigests digest mem)
  · split
    · next mismatch =>
        exfalso
        rw [Bool.and_eq_true, Bool.not_eq_true', Bool.not_eq_true'] at mismatch
        rcases named with none | isName
        · rw [none] at mismatch
          cases mismatch.1
        · have absent := mismatch.2
          rw [List.contains_iff_mem.mpr (List.mem_map_of_mem isName)] at absent
          cases absent
    · rfl

theorem Settled.consistent {call : ObservationCall} {res : ObservedConfiguration Hash}
    (sound : catalog.Sound env) (settled : Settled env catalog call res)
    (sameName : res.attestation.runtimeModelName = res.manifest.runtimeModelName)
    (ofModel : ∃ model, catalog.model? env res.manifest = some model ∧
      res.artifact.modelId = model.id) :
    Consistent env catalog res := by
  obtain ⟨checksum, ofArtifact, digestIs⟩ := settled.digests
  obtain ⟨configuredArtifact, isModel, isDigest⟩ := settled.runtime sound
  have latest := latestVerifiedAttestation_settled sound settled
  have mem := List.mem_of_find?_eq_some settled.attestation
  have normalized := (sound.attested res.attestation mem).digest
  refine ⟨checksum, digestIs, isDigest, ?_, ofArtifact, configuredArtifact, ofModel, ?_⟩
  · rw [isModel, sameName]
  · intro names digests allNames allDigests
    have configured : sha256Digest env.toValidationEnvironment
        (res.artifact.checksum.map Json.str) = some res.attestation.digestValue := by
      rw [checksum, Option.map_some, ← digestIs, normalized]
    rw [configuredArtifact, latest, configured]
    apply artifactAttestationStatus_verified
    · rw [attestedDigest]
      exact normalized
    · intro digest isObserved
      have same := allDigests digest isObserved
      rw [isDigest, ← digestIs] at same
      exact (Option.some.inj same).symm
    · cases names with
      | nil => exact Or.inl rfl
      | cons name others =>
        right
        have same := allNames name List.mem_cons_self
        rw [isModel, ← sameName] at same
        rw [← Option.some.inj same]
        exact List.mem_cons_self

theorem recordManifest_unclaimed {call : ObservationCall} {source : ConfigurationRow Hash}
    (sound : catalog.Sound env) (isDigest : sha256Digest env.toValidationEnvironment
      (some (.str manifest.digestValue)) = some manifest.digestValue)
    (unclaimed : Unclaimed env catalog manifest) :
    (recordManifest env catalog manifest call
        source).1.attestation.runtimeModelName = manifest.runtimeModelName ∧
      ∃ model, (recordManifest env catalog manifest call source).2.model?
          env manifest = some model ∧
        (recordManifest env catalog manifest call source).1.artifact.modelId = model.id := by
  have modelled :=
    @getOrCreateObservedModel_spec Hash env catalog manifest sound
  have tables := @getOrCreateObservedModel_tables Hash env catalog manifest
  generalize modelEq : getOrCreateObservedModel env catalog manifest = withModel at modelled tables
  have artifactSpec := @getOrCreateObservedArtifact_spec Hash env
    withModel.2.2 manifest withModel.1 source modelled.2.2
  have ofModel : ∀ artifact, withModel.2.2.artifact? manifest = some artifact →
      artifact.modelId = withModel.1.id := by
    intro artifact found
    rw [Catalog.artifact?, tables.1] at found
    obtain ⟨model, isModel, same⟩ := unclaimed.artifact artifact found
    have still := modelled.2.1.models.find?_eq_some isModel
    rw [same, Option.some.inj (still.symm.trans modelled.1)]
  have modelIdEq := @getOrCreateObservedArtifact_modelId Hash withModel.2.2
    manifest withModel.1 source ofModel
  have sameAttestations := @getOrCreateObservedArtifact_attestations Hash
    withModel.2.2 manifest withModel.1 source
  generalize artifactEq : getOrCreateObservedArtifact withModel.2.2 manifest
    withModel.1 source = withArtifact at artifactSpec modelIdEq sameAttestations
  have named : ∀ attestation,
      withArtifact.2.2.attestation? manifest withArtifact.1 = some attestation →
        attestation.runtimeModelName = manifest.runtimeModelName := by
    intro attestation found
    rw [Catalog.attestation?, sameAttestations, tables.2] at found
    have mem := List.mem_of_find?_eq_some found
    have matched := List.find?_some found
    rw [Bool.and_eq_true, decide_eq_true_eq, decide_eq_true_eq] at matched
    obtain ⟨row, rowMem, rowId, rowDigest⟩ :=
      (sound.attested attestation mem).artifact
    -- the artifact of the attestation was there before the call
    have sameRow : row = withArtifact.1 := by
      have extended := modelled.2.1.trans artifactSpec.2.1
      exact List.inj_on_of_nodup_map artifactSpec.2.2.distinct (extended.artifacts.subset rowMem)
        (List.mem_of_find?_eq_some artifactSpec.1) (rowId.trans matched.1)
    have isArtifact : catalog.artifact? manifest = some withArtifact.1 := by
      cases before : catalog.artifact? manifest with
      | none =>
        exfalso
        rw [Catalog.artifact?] at before
        apply List.find?_eq_none.mp before row rowMem
        rw [decide_eq_true_eq, rowDigest, matched.2]
      | some existing =>
        have extended := modelled.2.1.trans artifactSpec.2.1
        have still := extended.artifacts.find?_eq_some before
        exact still.symm.trans artifactSpec.1
    exact unclaimed.attestation withArtifact.1 attestation isArtifact found
  have isNamed := @getOrCreateAttestation_name Hash env withArtifact.2.2
    manifest withArtifact.1 call.signer call.now named
  have attestationSpec := @getOrCreateAttestation_spec Hash env
    withArtifact.2.2 manifest withArtifact.1 call.signer call.now
    artifactSpec.2.2 isDigest artifactSpec.1
  have configured := @getOrCreateConfiguration_spec Hash env
    (getOrCreateAttestation env withArtifact.2.2 manifest withArtifact.1
      call.signer call.now).2.2 _ (observedFields env manifest source
        withArtifact.1 (getOrCreateAttestation env withArtifact.2.2
          manifest withArtifact.1 call.signer call.now).1
        call.configurationName call.notes) attestationSpec.2.2
  have beyondModel := artifactSpec.2.1.trans (attestationSpec.2.1.trans configured.2.1)
  have isModel := beyondModel.models.find?_eq_some modelled.1
  rw [← artifactEq, ← modelEq] at isNamed isModel modelIdEq
  exact ⟨isNamed, _, isModel, modelIdEq⟩

end Catalogs

end ModelAtlas.Validation
