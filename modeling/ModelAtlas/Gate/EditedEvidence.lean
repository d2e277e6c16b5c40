import ModelAtlas.Foundations.JsonTexts
import ModelAtlas.Gate.LatestRevisions
import ModelAtlas.Release.Decisions

/-!
# Edited evidence

An import or a review of labels writes scores and metadata of stored results in
place and leaves their revision hashes as they are.
-/

namespace ModelAtlas.Gate

open Foundations Release

/-- `result.evidence_revision_hash or None`. -/
def ResultRevision.storedHash? (res : ResultRevision) : Option String :=
  res.evidenceRevisionHash.filter (fun hash => hash ≠ "")

/-- An update in place of columns that name and order no revision. -/
def WritesInPlace (edit : ResultRevision → ResultRevision) : Prop :=
  ∀ res, edit res = { res with
    scores := (edit res).scores
    normalizedOutput := (edit res).normalizedOutput
    metadata := (edit res).metadata }

section Edited

variable {stableHash : Json → String} {edit : ResultRevision → ResultRevision}

theorem latestResultRevisions_map (inPlace : WritesInPlace edit) (results : List ResultRevision) :
    latestResultRevisions (results.map edit) = (latestResultRevisions results).map edit := by
  have sameRoot : ∀ res, (edit res).rootId = res.rootId := fun res => by rw [inPlace res]; rfl
  have sameKey : ∀ res, (edit res).sortKey = res.sortKey := fun res => by rw [inPlace res]; rfl
  have sameListKey : ∀ res, (edit res).listKey = res.listKey := fun res => by
    rw [inPlace res]
    rfl
  rw [latestResultRevisions, latestResultRevisions, ← sortedBy_map sameListKey,
    ← foldl_keepLatestBy_map sameRoot sameKey, List.map_nil]

theorem manifestEntry_edit_iff (inPlace : WritesInPlace edit) (res : ResultRevision) :
    manifestEntry stableHash (edit res) = manifestEntry stableHash res ↔
      (res.storedHash? = none →
        resultRevisionHash stableHash (edit res) = resultRevisionHash stableHash res) := by
  have stored : (edit res).storedHash? = res.storedHash? := by rw [inPlace res]; rfl
  have entry : manifestEntry stableHash (edit res) = manifestEntry stableHash res ↔
      (res.storedHash?.getD (resultRevisionHash stableHash (edit res))) =
        res.storedHash?.getD (resultRevisionHash stableHash res) := by
    rw [← stored, manifestEntry, manifestEntry, ResultRevision.storedHash?]
    generalize resultRevisionHash stableHash (edit res) = edited
    rw [inPlace res]
    simp [ResultRevision.rootId, ResultRevision.revision]
  rw [entry]
  cases res.storedHash? with
  | none => simp
  | some hash => simp

theorem evidenceRevisionManifest_edited_iff (inPlace : WritesInPlace edit)
    (results : List ResultRevision) :
    evidenceRevisionManifest stableHash (latestResultRevisions (results.map edit)) =
        evidenceRevisionManifest stableHash (latestResultRevisions results) ↔
      ∀ selected ∈ latestResultRevisions results, selected.storedHash? = none →
        resultRevisionHash stableHash (edit selected) =
          resultRevisionHash stableHash selected := by
  rw [latestResultRevisions_map inPlace, evidenceRevisionManifest, evidenceRevisionManifest,
    List.map_map, Json.arr.injEq, List.map_inj_left]
  exact forall₂_congr fun selected _ => manifestEntry_edit_iff inPlace selected

theorem evidenceRevisionHash_edited_iff (inPlace : WritesInPlace edit)
    {results : List ResultRevision}
    (tellsApart : evidenceRevisionHash stableHash (latestResultRevisions (results.map edit)) =
        evidenceRevisionHash stableHash (latestResultRevisions results) →
      evidenceRevisionManifest stableHash (latestResultRevisions (results.map edit)) =
        evidenceRevisionManifest stableHash (latestResultRevisions results)) :
    evidenceRevisionHash stableHash (latestResultRevisions (results.map edit)) =
        evidenceRevisionHash stableHash (latestResultRevisions results) ↔
      ∀ selected ∈ latestResultRevisions results, selected.storedHash? = none →
        resultRevisionHash stableHash (edit selected) =
          resultRevisionHash stableHash selected := by
  rw [← evidenceRevisionManifest_edited_iff inPlace]
  exact ⟨tellsApart, fun same => congrArg stableHash same⟩

theorem gate?_markScopeGatesStale (store : ReleaseStore) (configurationId suiteId : Uuid)
    (currentHash reason : String) (now : Time) (gateId : Uuid) :
    (markScopeGatesStale store configurationId suiteId currentHash reason now).gate? gateId =
      (store.gate? gateId).map (fun gate =>
        if becomesStale configurationId suiteId currentHash gate then
          { gate with status := .stale } else gate) :=
  Table.find?_update store.gates _ (fun gate => by split <;> rfl) gateId

/-- After a write in place, a gate over the evidence becomes stale just if the own
hash of a selected result changes that has no stored one. -/
theorem markScopeGatesStale_edited_iff (inPlace : WritesInPlace edit)
    {results : List ResultRevision}
    (tellsApart : evidenceRevisionHash stableHash (latestResultRevisions (results.map edit)) =
        evidenceRevisionHash stableHash (latestResultRevisions results) →
      evidenceRevisionManifest stableHash (latestResultRevisions (results.map edit)) =
        evidenceRevisionManifest stableHash (latestResultRevisions results))
    {store : ReleaseStore} {gate : GateEvaluation} (isStored : store.gate? gate.id = some gate)
    (isCompleted : gate.status = .completed)
    (evaluated : gate.evidenceRevisionHash =
      evidenceRevisionHash stableHash (latestResultRevisions results)) (reason : String)
    (now : Time) :
    (markScopeGatesStale store gate.scope.deploymentConfigurationId gate.scope.evaluationSuiteId
        (evidenceRevisionHash stableHash (latestResultRevisions (results.map edit))) reason
        now).gate? gate.id = some { gate with status := .stale } ↔
      ∃ selected ∈ latestResultRevisions results, selected.storedHash? = none ∧
        resultRevisionHash stableHash (edit selected) ≠
          resultRevisionHash stableHash selected := by
  have hash_iff := evidenceRevisionHash_edited_iff inPlace tellsApart
  rw [gate?_markScopeGatesStale, isStored, Option.map_some, Option.some_inj]
  constructor
  · intro isStale
    by_contra! quiet
    have same := evaluated.trans (hash_iff.mpr quiet).symm
    have status := congrArg GateEvaluation.status isStale
    simp [becomesStale, ← same, isCompleted] at status
  · rintro ⟨selected, isSelected, unhashed, changed⟩
    have differ : gate.evidenceRevisionHash ≠
        evidenceRevisionHash stableHash (latestResultRevisions (results.map edit)) := fun same =>
      changed (hash_iff.mp (same.symm.trans evaluated) selected isSelected unhashed)
    simp [becomesStale, isCompleted, differ]

end Edited

def scored (res : ResultRevision) : ResultRevision :=
  { res with scores := .obj [("quality_score", .int 1)] }

def importedResults : List ResultRevision :=
  [revisionOf "a1" none 1 (captureTime 5 0 (by decide) (by decide))]

/-- The gate over a result before its score is imported. -/
def scoredGate : GateEvaluation :=
  ⟨0, ⟨1, 2, 3⟩, .completed,
    evidenceRevisionHash Json.canonicalText (latestResultRevisions importedResults)⟩

def gateStore : ReleaseStore :=
  ReleaseStore.empty.insertGate scoredGate.scope scoredGate.evidenceRevisionHash

theorem markScopeGatesStale_edited_iff_scored :
    (markScopeGatesStale gateStore 1 2 (evidenceRevisionHash Json.canonicalText
        (latestResultRevisions (importedResults.map scored))) "labels" 0).gate? scoredGate.id =
      some { scoredGate with status := .stale } := by
  have isStored : gateStore.gate? scoredGate.id = some scoredGate := by decide +kernel
  have inPlace : WritesInPlace scored := fun _ => rfl
  exact (markScopeGatesStale_edited_iff inPlace (by decide +kernel) isStored rfl rfl "labels"
    0).mpr (by decide +kernel)

end ModelAtlas.Gate
