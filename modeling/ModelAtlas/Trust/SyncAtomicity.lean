import ModelAtlas.Trust.Finality

/-!
# A sync imports all keys of its document or none

The keys of a fetched document are validated, classified and imported in three
passes.
-/

namespace ModelAtlas.Trust

open Foundations Approval

section Passes

variable (env : SourceEnvironment) (source : EvidenceTrustSource)

def remoteKeyId (value : Json) : String :=
  jwkText env.toTrustEnvironment value "kid"

structure ReadFrom (value : Json) (remoteKey : ValidatedRemoteKey) : Prop where
  keyId : remoteKey.keyId = remoteKeyId env value
  fingerprint : remoteKey.fingerprint = env.stableHash value
  /-- The entry is valid by itself. -/
  alone : validatedRemoteKey env source [] value = .ok remoteKey

theorem validatedPublicJwk_yields (jwk : Json) (keyId algorithm : String) : Yields
      (validatedPublicJwk env.toTrustEnvironment jwk keyId algorithm)
      (fun returned => returned = jwk) := by
  unfold validatedPublicJwk
  refine Yields.check (fun _ => ?_)
  refine Yields.check (fun _ => ?_)
  refine Yields.check (fun _ => ?_)
  refine Yields.check (fun _ => ?_)
  refine Yields.check (fun _ => ?_)
  refine Yields.check (fun _ => ?_)
  exact Yields.pure rfl

theorem validatedRemoteKey_yields (seenKeyIds : List String) (value : Json) :
    Yields (validatedRemoteKey env source seenKeyIds value)
      (fun remoteKey => ReadFrom env source value remoteKey ∧ remoteKey.keyId ∉ seenKeyIds) := by
  unfold validatedRemoteKey
  refine Yields.check (fun isObject => ?_)
  refine Yields.check (fun bounded => ?_)
  refine Yields.check (fun unseen => ?_)
  refine Yields.check (fun allowed => ?_)
  refine Yields.bind (Yields.self _) (fun jwk validated => ?_)
  have same : jwk = value :=
    validatedPublicJwk_yields env value _ _ jwk validated
  subst same
  refine Yields.pure ⟨⟨rfl, rfl, ?_⟩, ?_⟩
  · unfold validatedRemoteKey
    simp only [isObject, bounded, allowed, validated, if_false,
      List.contains_nil, Bool.false_eq_true]
    rfl
  · simpa using unseen

/-- The keys are read from the entries one by one, and their ids differ from
each other and from those seen. -/
structure ReadFromEach (seenKeyIds : List String) (values : List Json)
    (keys : List ValidatedRemoteKey) : Prop where
  each : List.Forall₂ (ReadFrom env source) values keys
  distinct : (keys.map ValidatedRemoteKey.keyId).Nodup
  unseen : ∀ remoteKey ∈ keys, remoteKey.keyId ∉ seenKeyIds

theorem validatedRemoteKeyList_yields : ∀ (values : List Json) (seenKeyIds : List String),
      Yields (validatedRemoteKeyList env source seenKeyIds values)
        (ReadFromEach env source seenKeyIds values)
  | [], seenKeyIds => by
    refine Yields.ok ⟨List.Forall₂.nil, List.nodup_nil, ?_⟩
    intro remoteKey mem
    cases mem
  | value :: rest, seenKeyIds => by
    refine Yields.bind (validatedRemoteKey_yields env source seenKeyIds value)
      (fun remoteKey read => ?_)
    refine Yields.bind (validatedRemoteKeyList_yields rest _) (fun remaining others => ?_)
    refine Yields.pure ⟨List.Forall₂.cons read.1 others.each, ?_, ?_⟩
    · rw [List.map_cons, List.nodup_cons]
      refine ⟨?_, others.distinct⟩
      intro repeated
      obtain ⟨other, mem, same⟩ := List.mem_map.mp repeated
      have unseen := others.unseen other mem
      rw [same] at unseen
      exact unseen (List.mem_cons_self)
    · intro other mem
      rcases List.mem_cons.mp mem with rfl | mem
      · exact read.2
      · intro seen
        exact others.unseen other mem (List.mem_cons_of_mem _ seen)

theorem exists_right_of_forall₂ {First Second : Type} {relation : First → Second → Prop}
    {firsts : List First} {seconds : List Second} (related : List.Forall₂ relation firsts seconds)
    {first : First} (mem : first ∈ firsts) :
    ∃ second ∈ seconds, relation first second := by
  induction related with
  | nil => cases mem
  | cons pair _ induction =>
    rcases List.mem_cons.mp mem with rfl | mem
    · exact ⟨_, List.mem_cons_self, pair⟩
    · obtain ⟨second, kept, held⟩ := induction mem
      exact ⟨second, List.mem_cons_of_mem _ kept, held⟩

theorem exists_left_of_forall₂ {First Second : Type} {relation : First → Second → Prop}
    {firsts : List First} {seconds : List Second} (related : List.Forall₂ relation firsts seconds)
    {second : Second} (mem : second ∈ seconds) :
    ∃ first ∈ firsts, relation first second :=
  exists_right_of_forall₂ related.flip mem

/-- What the validation of a document establishes, in either order of its
keys. -/
structure ValidKeys (payload : Json) (keys : List ValidatedRemoteKey) :
    Prop where
  complete : ∀ value ∈ payload.items "keys",
    ∃ remoteKey ∈ keys, ReadFrom env source value remoteKey
  sound : ∀ remoteKey ∈ keys,
    ∃ value ∈ payload.items "keys", ReadFrom env source value remoteKey
  length : keys.length = (payload.items "keys").length
  distinct : (keys.map ValidatedRemoteKey.keyId).Nodup
  distinctEntries : ((payload.items "keys").map
    (remoteKeyId env)).Nodup

theorem keyIds_of_each {values : List Json} {keys : List ValidatedRemoteKey}
    (each : List.Forall₂ (ReadFrom env source) values keys) :
    values.map (remoteKeyId env) = keys.map ValidatedRemoteKey.keyId := by
  induction each with
  | nil => rfl
  | cons read _ induction =>
    rw [List.map_cons, List.map_cons, induction, read.keyId]

theorem validatedRemoteKeys_yields (payload : Json) :
    Yields (validatedRemoteKeys env source payload) (ValidKeys env source payload) := by
  unfold validatedRemoteKeys
  refine Yields.check (fun _ => ?_)
  refine Yields.check (fun _ => ?_)
  refine Yields.bind (validatedRemoteKeyList_yields env source _ []) (fun keys read => ?_)
  refine Yields.pure ?_
  have permuted := List.perm_insertionSort
    (fun left right : ValidatedRemoteKey => left.keyId ≤ right.keyId) keys
  have distinctEntries := read.distinct
  rw [← keyIds_of_each env source read.each] at distinctEntries
  constructor
  · intro value mem
    obtain ⟨remoteKey, keyMem, isRead⟩ :=
      exists_right_of_forall₂ read.each mem
    exact ⟨remoteKey, permuted.mem_iff.mpr keyMem, isRead⟩
  · intro remoteKey mem
    obtain ⟨value, valueMem, isRead⟩ :=
      exists_left_of_forall₂ read.each (permuted.mem_iff.mp mem)
    exact ⟨value, valueMem, isRead⟩
  · rw [permuted.length_eq, read.each.length_eq]
  · exact (permuted.map _).nodup_iff.mpr read.distinct
  · exact distinctEntries

structure Classified (reg : TrustRegistry)
    (keys candidates unchanged : List ValidatedRemoteKey) : Prop where
  length : candidates.length + unchanged.length = keys.length
  new : ∀ remoteKey ∈ candidates, remoteKey ∈ keys ∧
    reg.registered? source.purpose source.issuer remoteKey.keyId = none
  known : ∀ remoteKey ∈ keys, remoteKey ∈ candidates ∨
    ∃ existing, reg.registered? source.purpose source.issuer
        remoteKey.keyId = some existing ∧
      existing.keyFingerprint = remoteKey.fingerprint

theorem classifyRemoteKeys_yields (reg : TrustRegistry) : ∀ keys : List ValidatedRemoteKey,
      Yields (classifyRemoteKeys reg source keys)
        (fun parts => Classified source reg keys parts.1 parts.2)
  | [] => by
    refine Yields.ok ⟨rfl, ?_, ?_⟩
    · intro remoteKey mem
      cases mem
    · intro remoteKey mem
      cases mem
  | remoteKey :: rest => by
    unfold classifyRemoteKeys
    cases registered : reg.registered? source.purpose source.issuer remoteKey.keyId with
    | none =>
      refine Yields.bind (classifyRemoteKeys_yields reg rest)
        (fun parts classified => Yields.pure ⟨?_, ?_, ?_⟩)
      · have total := classified.length
        simp only [List.length_cons]
        omega
      · intro other mem
        rcases List.mem_cons.mp mem with rfl | mem
        · exact ⟨List.mem_cons_self, registered⟩
        · obtain ⟨kept, absent⟩ := classified.new other mem
          exact ⟨List.mem_cons_of_mem _ kept, absent⟩
      · intro other mem
        rcases List.mem_cons.mp mem with rfl | mem
        · exact Or.inl List.mem_cons_self
        · exact (classified.known other mem).imp_left (List.mem_cons_of_mem _)
    | some existing =>
      by_cases collides : existing.keyFingerprint ≠ remoteKey.fingerprint
      · simp only [if_pos collides]
        exact Yields.error _
      · simp only [if_neg collides]
        refine Yields.bind (classifyRemoteKeys_yields reg rest)
          (fun parts classified => Yields.pure ⟨?_, ?_, ?_⟩)
        · have total := classified.length
          simp only [List.length_cons]
          omega
        · intro other mem
          obtain ⟨kept, absent⟩ := classified.new other mem
          exact ⟨List.mem_cons_of_mem _ kept, absent⟩
        · intro other mem
          rcases List.mem_cons.mp mem with rfl | mem
          · exact Or.inr ⟨existing, registered, not_not.mp collides⟩
          · exact classified.known other mem

structure Holds (root : EvidenceTrustRoot) (keyId fingerprint : String) :
    Prop where
  names : root.names source.purpose source.issuer keyId = true
  fingerprint : root.keyFingerprint = fingerprint

theorem rows_of_addRow {constraint : String}
    {table inserted : UniqueRows EvidenceTrustRoot sameTrustRoot}
    {row : EvidenceTrustRoot}
    (added : addRow constraint table row = .ok inserted) :
    inserted.rows = table.rows ++ [row] := by
  unfold addRow UniqueRows.insert? at added
  by_cases free : ∀ other ∈ table.rows, sameTrustRoot other row = false
  · simp only [dif_pos free] at added
    rw [← Except.ok.inj added]
  · simp only [dif_neg free] at added
    cases added

theorem reconcileExistingEvidence_roots (reg : TrustRegistry) (root : EvidenceTrustRoot) :
    (reconcileExistingEvidence reg root).roots = reg.roots := by
  unfold reconcileExistingEvidence
  cases root.purpose with
  | modelPublisher => rfl
  | productionCollector => rfl
  | transparencyLog => rfl

theorem importRemoteKeys_yields (sync : EvidenceTrustSourceSync)
    (signerIdentity : SignerIdentity) (now : Time) :
    ∀ (keys : List ValidatedRemoteKey) (reg : TrustRegistry), Yields
        (importRemoteKeys env source sync signerIdentity now keys reg)
        (fun after => ∃ imported, after.roots.rows = reg.roots.rows ++ imported ∧
          List.Forall₂ (fun remoteKey root =>
            Holds source root remoteKey.keyId remoteKey.fingerprint)
            keys imported)
  | [], reg => Yields.ok ⟨[], (List.append_nil _).symm, List.Forall₂.nil⟩
  | remoteKey :: rest, reg => by
    refine Yields.bind (Yields.self _) (fun roots added => ?_)
    refine (importRemoteKeys_yields sync signerIdentity now rest _).mono (fun after imported => ?_)
    obtain ⟨remaining, rows, held⟩ := imported
    refine ⟨importRemoteKey env source sync signerIdentity now reg.drawn remoteKey :: remaining, ?_,
      List.Forall₂.cons ⟨?_, rfl⟩ held⟩
    · rw [rows, reconcileExistingEvidence_roots, rows_of_addRow added,
        List.append_assoc, List.singleton_append]
    · simp [EvidenceTrustRoot.names, importRemoteKey]

end Passes

section Outcome

variable (env : SourceEnvironment)

structure PassedSync (reg : TrustRegistry) (call : SourceSyncCall)
    (source : EvidenceTrustSource) (fetched : FetchedJwksPayload)
    (keys candidates unchanged : List ValidatedRemoteKey) : Prop where
  found : reg.sources.find? call.trustSourceId = some source
  answered : call.fetched = .ok fetched
  valid : ValidKeys env source fetched.payload keys
  classified : Classified source reg keys candidates unchanged

structure SucceededSync (reg after : TrustRegistry)
    (call : SourceSyncCall) (sync : EvidenceTrustSourceSync)
    (source : EvidenceTrustSource)
    (keys candidates unchanged : List ValidatedRemoteKey) : Prop where
  status : sync.status = .succeeded
  keyCount : sync.keyCount = keys.length
  candidateCount : sync.candidateCount = candidates.length
  unchangedCount : sync.unchangedCount = unchanged.length
  importedCount :
    sync.importedCount = if call.mode = .apply then candidates.length else 0
  previewed : call.mode = .preview → after.roots = reg.roots
  applied : call.mode = .apply → ∃ imported,
    after.roots.rows = reg.roots.rows ++ imported ∧
    List.Forall₂ (fun remoteKey root =>
      Holds source root remoteKey.keyId remoteKey.fingerprint)
      candidates imported

structure FailedSync (reg after : TrustRegistry)
    (sync : EvidenceTrustSourceSync) : Prop where
  status : sync.status = .failed
  importedCount : sync.importedCount = 0
  roots : after.roots = reg.roots

variable (reg : TrustRegistry) (call : SourceSyncCall)

theorem recordFailedSync_yields (source : EvidenceTrustSource) (failure : SyncFailure) :
    Yields (recordFailedSync env reg source call failure)
      (fun answer => FailedSync reg answer.1 answer.2) := by
  refine Yields.bind (Yields.self _) (fun syncs _ => ?_)
  exact Yields.pure ⟨rfl, rfl, rfl⟩

theorem applySync_yields (source : EvidenceTrustSource) (keys : SyncKeys)
    (validKeys : List ValidatedRemoteKey)
    (observed : keys.observation.observedKeys = validKeys.map ValidatedRemoteKey.observed) :
    Yields (applySync env reg source call keys)
      (fun answer => SucceededSync reg answer.1 call answer.2 source
        validKeys keys.candidates keys.unchanged) := by
  refine Yields.bind (Yields.self _) (fun syncs _ => ?_)
  have counted : keys.observation.observedKeys.length = validKeys.length := by
    rw [observed, List.length_map]
  dsimp only
  cases mode : call.mode with
  | preview =>
    refine Yields.pure ⟨rfl, counted, rfl, rfl, rfl, fun _ => rfl, ?_⟩
    intro applies
    rw [mode] at applies
    cases applies
  | apply =>
    refine Yields.bind (importRemoteKeys_yields env source _ _ _ _ _) (fun imported grown => ?_)
    refine Yields.pure ⟨rfl, counted, rfl, rfl, rfl, ?_, fun _ => grown⟩
    intro previews
    rw [mode] at previews
    cases previews

theorem syncKeys_yields (source : EvidenceTrustSource)
    (found : reg.sources.find? call.trustSourceId = some source) :
    Yields (syncKeys env reg source call)
      (fun outcome => ∀ keys, outcome = .ok keys → ∃ fetched validKeys,
          keys.observation.observedKeys = validKeys.map ValidatedRemoteKey.observed ∧
          PassedSync env reg call source fetched validKeys keys.candidates keys.unchanged) := by
  intro outcome returned keys same
  subst same
  unfold syncKeys at returned
  cases answered : call.fetched with
  | error failure =>
    simp only [answered] at returned
    cases returned
  | ok fetched =>
    simp only [answered] at returned
    cases validated : validatedRemoteKeys env source fetched.payload with
    | error raised =>
      cases raised with
      | domainValidation message =>
        simp only [validated] at returned
        cases returned
      | integrity constraint =>
        simp only [validated] at returned
        cases returned
      | unexpected message =>
        simp only [validated] at returned
        cases returned
    | ok validKeys =>
      simp only [validated] at returned
      cases classified : classifyRemoteKeys reg source validKeys with
      | error raised =>
        cases raised with
        | domainValidation message =>
          simp only [classified] at returned
          cases returned
        | integrity constraint =>
          simp only [classified] at returned
          cases returned
        | unexpected message =>
          simp only [classified] at returned
          cases returned
      | ok parts =>
        simp only [classified] at returned
        have same := Except.ok.inj (Except.ok.inj returned)
        subst same
        exact ⟨fetched, validKeys, rfl, found, answered,
          validatedRemoteKeys_yields env source _ _ validated,
          classifyRemoteKeys_yields source reg validKeys _ classified⟩

/-- A sync that returns was recorded as failed and changed no root, or passed
its passes and was recorded as succeeded. -/
theorem syncEvidenceTrustSource_yields : Yields (syncEvidenceTrustSource env reg call)
      (fun answer => FailedSync reg answer.1 answer.2 ∨ ∃ source fetched keys candidates unchanged,
          PassedSync env reg call source fetched keys candidates unchanged ∧
          SucceededSync reg answer.1 call answer.2 source keys candidates unchanged) := by
  refine Yields.bind (Yields.self _) (fun _ _ => ?_)
  cases found : reg.sources.find? call.trustSourceId with
  | none => exact Yields.throw _
  | some source =>
    refine Yields.check (fun _ => ?_)
    refine Yields.bind (Yields.self _) (fun _ _ => ?_)
    refine Yields.bind (syncKeys_yields env reg call source found) (fun outcome passed => ?_)
    cases outcome with
    | error failure =>
      exact (recordFailedSync_yields env reg call source
        failure).mono (fun _ failed => Or.inl failed)
    | ok keys =>
      obtain ⟨fetched, validKeys, observed, passedSync⟩ := passed keys rfl
      have applied := applySync_yields env reg call source keys validKeys observed
      dsimp only
      split
      · exact (recordFailedSync_yields env reg call source _).mono (fun _ failed => Or.inl failed)
      · exact applied.mono (fun _ succeeded =>
          Or.inr ⟨source, fetched, validKeys, keys.candidates,
            keys.unchanged, passedSync, succeeded⟩)

end Outcome

section Atomicity

/-- An entry of the document is invalid, two have one key id, or one has the
key id of a registered root with another fingerprint. -/
def FaultyDocument (env : SourceEnvironment) (reg : TrustRegistry)
    (source : EvidenceTrustSource) (document : Json) : Prop :=
  (∃ value ∈ document.items "keys", ∃ raised,
      validatedRemoteKey env source [] value = .error raised) ∨
    ¬ ((document.items "keys").map (remoteKeyId env)).Nodup ∨
    ∃ value ∈ document.items "keys", ∃ root ∈ reg.roots,
      root.names source.purpose source.issuer (remoteKeyId env value) = true ∧
        root.keyFingerprint ≠ env.stableHash value

structure ImportedDocument (env : SourceEnvironment)
    (reg after : TrustRegistry) (source : EvidenceTrustSource)
    (document : Json) : Prop where
  rooted : ∀ value ∈ document.items "keys", ∃ root ∈ after.roots,
    Holds source root (remoteKeyId env value)
        (env.stableHash value) ∧
      ∀ other ∈ after.roots, other.names source.purpose source.issuer
        (remoteKeyId env value) = true → other = root
  kept : ∀ root ∈ reg.roots, root ∈ after.roots
  others : ∀ root ∈ after.roots, root ∈ reg.roots ∨
    ∃ value ∈ document.items "keys",
      Holds source root (remoteKeyId env value)
        (env.stableHash value)

/-- A call leaves the roots as they are, or imports its whole document. -/
structure SyncIsAtomic (env : SourceEnvironment)
    (reg : TrustRegistry) (call : SourceSyncCall) : Prop where
  untouched : ∀ after sync,
    syncEvidenceTrustSource env reg call = .ok (after, sync) →
    call.mode = .preview ∨ sync.status = .failed →
      after.roots = reg.roots
  /-- A successful apply imports the document, and its counts add up. -/
  imported : ∀ after sync,
    syncEvidenceTrustSource env reg call = .ok (after, sync) →
    call.mode = .apply → sync.status = .succeeded →
      ∃ source fetched,
        reg.sources.find? call.trustSourceId = some source ∧
        call.fetched = .ok fetched ∧
        ImportedDocument env reg after source fetched.payload ∧
        sync.keyCount = (fetched.payload.items "keys").length ∧
        sync.candidateCount + sync.unchangedCount = sync.keyCount ∧
        sync.importedCount = sync.candidateCount
  again : ∀ after sync source fetched,
    syncEvidenceTrustSource env reg call = .ok (after, sync) →
    call.mode = .apply → sync.status = .succeeded →
    reg.sources.find? call.trustSourceId = some source →
    call.fetched = .ok fetched →
    ∀ later laterSource laterFetched (laterCall : SourceSyncCall),
      Grows after later →
      later.sources.find? laterCall.trustSourceId = some laterSource →
      laterSource.purpose = source.purpose →
      laterSource.issuer = source.issuer →
      laterCall.fetched = .ok laterFetched →
      laterFetched.payload = fetched.payload →
        (committed later (syncEvidenceTrustSource env later
          laterCall)).roots.rows = later.roots.rows ∧
        ∀ last receipt, syncEvidenceTrustSource env later laterCall =
            .ok (last, receipt) → receipt.importedCount = 0
  /-- A document with a fault imports nothing. -/
  refused : ∀ source fetched,
    reg.sources.find? call.trustSourceId = some source →
    call.fetched = .ok fetched →
    FaultyDocument env reg source fetched.payload →
      (committed reg (syncEvidenceTrustSource env reg
        call)).roots = reg.roots

variable {env : SourceEnvironment} {reg after : TrustRegistry}
  {source : EvidenceTrustSource} {call : SourceSyncCall}
  {fetched : FetchedJwksPayload}
  {keys candidates unchanged : List ValidatedRemoteKey}
  {sync : EvidenceTrustSourceSync}

theorem Holds.unique {root other : EvidenceTrustRoot} {keyId fingerprint : String}
    (held : Holds source root keyId fingerprint) (mem : root ∈ reg.roots)
    (otherMem : other ∈ reg.roots) (named : other.names source.purpose source.issuer keyId = true) :
    other = root := by
  have own := held.names
  simp only [EvidenceTrustRoot.names, Bool.and_eq_true, decide_eq_true_eq] at own
  apply TrustRegistry.eq_of_names mem otherMem
  rw [own.1.1, own.1.2, own.2]
  exact named

theorem registered?_eq_some {keyId : String} {root : EvidenceTrustRoot}
    (registered : reg.registered? source.purpose source.issuer keyId = some root) :
    root ∈ reg.roots ∧ root.names source.purpose source.issuer keyId = true := by
  unfold TrustRegistry.registered? at registered
  have named := List.find?_some registered
  exact ⟨List.mem_of_find?_eq_some registered, named⟩

theorem registered?_ne_none {keyId : String} {root : EvidenceTrustRoot} (mem : root ∈ reg.roots)
    (named : root.names source.purpose source.issuer keyId = true) :
    reg.registered? source.purpose source.issuer keyId ≠ none := by
  intro absent
  have unnamed := List.find?_eq_none.mp absent root mem
  exact unnamed named

theorem importedDocument_of_succeeded (passed : PassedSync env reg call source fetched keys
      candidates unchanged)
    (succeeded : SucceededSync reg after call sync source keys candidates unchanged)
    (applies : call.mode = .apply) :
    ImportedDocument env reg after source fetched.payload := by
  obtain ⟨imported, rows, held⟩ := succeeded.applied applies
  have memberAfter : ∀ root, root ∈ after.roots ↔ root ∈ reg.roots ∨ root ∈ imported := by
    intro root
    show root ∈ after.roots.rows ↔ _
    rw [rows, List.mem_append]
    exact Iff.rfl
  constructor
  · intro value mem
    obtain ⟨remoteKey, keyMem, read⟩ := passed.valid.complete value mem
    have rooted : ∃ root ∈ after.roots, Holds source root
        (remoteKeyId env value) (env.stableHash value) := by
      rw [← read.keyId, ← read.fingerprint]
      rcases passed.classified.known remoteKey keyMem with
        new | ⟨existing, registered, same⟩
      · obtain ⟨root, rootMem, holds⟩ := exists_right_of_forall₂ held new
        exact ⟨root, (memberAfter root).mpr (Or.inr rootMem), holds⟩
      · obtain ⟨rootMem, named⟩ := registered?_eq_some registered
        exact ⟨existing, (memberAfter existing).mpr (Or.inl rootMem), named, same⟩
    obtain ⟨root, rootMem, holds⟩ := rooted
    exact ⟨root, rootMem, holds, fun other otherMem named => holds.unique rootMem otherMem named⟩
  · intro root mem
    exact (memberAfter root).mpr (Or.inl mem)
  · intro root mem
    rcases (memberAfter root).mp mem with old | new
    · exact Or.inl old
    · obtain ⟨remoteKey, isNew, holds⟩ := exists_left_of_forall₂ held new
      obtain ⟨value, valueMem, read⟩ := passed.valid.sound remoteKey
        (passed.classified.new remoteKey isNew).1
      rw [read.keyId, read.fingerprint] at holds
      exact Or.inr ⟨value, valueMem, holds⟩

theorem candidates_of_imported {before : TrustRegistry} {laterSource : EvidenceTrustSource}
    {document : Json} (imported : ImportedDocument env before after source document)
    (grown : Grows after reg) (purpose : laterSource.purpose = source.purpose)
    (issuer : laterSource.issuer = source.issuer) (same : fetched.payload = document)
    (passed : PassedSync env reg call laterSource fetched keys candidates unchanged) :
    candidates = [] := by
  rw [List.eq_nil_iff_forall_not_mem]
  intro remoteKey mem
  obtain ⟨keyMem, absent⟩ := passed.classified.new remoteKey mem
  obtain ⟨value, valueMem, read⟩ := passed.valid.sound remoteKey keyMem
  rw [same] at valueMem
  obtain ⟨root, rootMem, holds, -⟩ := imported.rooted value valueMem
  have named := holds.names
  rw [← read.keyId, ← purpose, ← issuer] at named
  exact registered?_ne_none (grown.roots root rootMem) named absent

theorem not_faulty_of_passed (passed : PassedSync env reg call source fetched keys
      candidates unchanged) :
    ¬ FaultyDocument env reg source fetched.payload := by
  rintro (⟨value, mem, raised, invalid⟩ | repeated | ⟨value, mem, root, rootMem, named, differs⟩)
  · obtain ⟨remoteKey, -, read⟩ := passed.valid.complete value mem
    rw [read.alone] at invalid
    cases invalid
  · exact repeated passed.valid.distinctEntries
  · obtain ⟨remoteKey, keyMem, read⟩ := passed.valid.complete value mem
    rw [← read.keyId] at named
    rw [← read.fingerprint] at differs
    rcases passed.classified.known remoteKey keyMem with
      new | ⟨existing, registered, same⟩
    · exact registered?_ne_none rootMem named (passed.classified.new remoteKey new).2
    · obtain ⟨existingMem, existingNamed⟩ := registered?_eq_some registered
      have holds : Holds source existing remoteKey.keyId
          remoteKey.fingerprint := ⟨existingNamed, same⟩
      rw [holds.unique existingMem rootMem named] at differs
      exact differs same

/-- Every sync leaves the roots as they are or imports its whole document, and
a document that is imported imports nothing again. -/
theorem syncEvidenceTrustSource_atomic (env : SourceEnvironment)
    (reg : TrustRegistry) (call : SourceSyncCall) :
    SyncIsAtomic env reg call := by
  constructor
  · intro after sync returned untouched
    rcases syncEvidenceTrustSource_yields env reg call _ returned
      with failed | ⟨source, fetched, keys, candidates, unchanged, -, succeeded⟩
    · exact failed.roots
    · rcases untouched with preview | failed
      · exact succeeded.previewed preview
      · rw [succeeded.status] at failed
        cases failed
  · intro after sync returned applies success
    rcases syncEvidenceTrustSource_yields env reg call _ returned
      with failed | ⟨source, fetched, keys, candidates, unchanged, passed, succeeded⟩
    · rw [failed.status] at success
      cases success
    · refine ⟨source, fetched, passed.found, passed.answered,
        importedDocument_of_succeeded passed succeeded applies, ?_, ?_, ?_⟩
      · rw [succeeded.keyCount, passed.valid.length]
      · rw [succeeded.candidateCount, succeeded.unchangedCount,
          succeeded.keyCount, passed.classified.length]
      · rw [succeeded.importedCount, if_pos applies, succeeded.candidateCount]
  · intro after sync source fetched returned applies success found answered
      later laterSource laterFetched laterCall grown laterFound purpose issuer
      laterAnswered same
    have imported : ImportedDocument env reg after source
        fetched.payload := by
      rcases syncEvidenceTrustSource_yields env reg call _
        returned with failed | ⟨other, otherFetched, keys, candidates, unchanged, passed, succeeded⟩
      · rw [failed.status] at success
        cases success
      · have imported :=
          importedDocument_of_succeeded passed succeeded applies
        rw [Option.some.inj (found.symm.trans passed.found),
          Except.ok.inj (answered.symm.trans passed.answered)]
        exact imported
    have nothing : ∀ last receipt, syncEvidenceTrustSource env later laterCall =
          .ok (last, receipt) →
        last.roots.rows = later.roots.rows ∧ receipt.importedCount = 0 := by
      intro last receipt laterReturned
      rcases syncEvidenceTrustSource_yields env later laterCall _
        laterReturned with failed | ⟨other, otherFetched, keys, candidates,
          unchanged, passed, succeeded⟩
      · exact ⟨by rw [failed.roots], failed.importedCount⟩
      · have sameSource := Option.some.inj (laterFound.symm.trans passed.found)
        have sameFetched :=
          Except.ok.inj (laterAnswered.symm.trans passed.answered)
        subst sameSource sameFetched
        have none := candidates_of_imported imported grown purpose issuer same passed
        subst none
        refine ⟨?_, ?_⟩
        · cases mode : laterCall.mode with
          | preview => rw [succeeded.previewed mode]
          | apply =>
            obtain ⟨added, rows, held⟩ := succeeded.applied mode
            cases held
            rw [rows, List.append_nil]
        · rw [succeeded.importedCount]
          exact ite_self 0
    refine ⟨?_, fun last receipt laterReturned =>
      (nothing last receipt laterReturned).2⟩
    cases laterReturned : syncEvidenceTrustSource env later laterCall with
    | error raised => rfl
    | ok answer => exact (nothing answer.1 answer.2 laterReturned).1
  · intro source fetched found answered faulty
    cases returned : syncEvidenceTrustSource env reg call with
    | error raised => rfl
    | ok answer =>
      rcases syncEvidenceTrustSource_yields env reg call _
        returned with failed | ⟨other, otherFetched, keys, candidates, unchanged, passed, -⟩
      · exact failed.roots
      · have sameSource := Option.some.inj (found.symm.trans passed.found)
        have sameFetched :=
          Except.ok.inj (answered.symm.trans passed.answered)
        subst sameSource sameFetched
        exact absurd faulty (not_faulty_of_passed passed)

end Atomicity

end ModelAtlas.Trust
