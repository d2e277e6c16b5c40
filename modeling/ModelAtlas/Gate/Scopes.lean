import ModelAtlas.Release.Decisions

/-!
# Gates and baselines of a scope

The transactions of `services/deployment_gate/evaluator.py`, `staleness.py` and
`baselines.py`, which write what they have read when they commit. Gates are
selected for update, baselines are not. The scorecard, the rule results and the
baseline of an evaluation are left out.
-/

namespace ModelAtlas.Gate

open Foundations
open Release (ReleaseScope GateStatus)

structure EvidenceKey where
  (deploymentConfigurationId evaluationSuiteId : Uuid)
  deriving DecidableEq, Repr

def evidenceKey (scope : ReleaseScope) : EvidenceKey :=
  ⟨scope.deploymentConfigurationId, scope.evaluationSuiteId⟩

inductive GateVerdict where
  | approved
  | conditional
  | blocked
  | insufficientEvidence
  deriving DecidableEq, Repr

structure ScopedGate where
  id : Uuid
  scope : ReleaseScope
  status : GateStatus
  verdict : GateVerdict
  evidenceRevisionHash : String
  supersededByGateEvaluationId : Option Uuid
  deriving DecidableEq, Repr

instance : Keyed ScopedGate Uuid where
  key := ScopedGate.id

inductive BaselineStatus where
  | active
  | superseded
  | archived
  deriving DecidableEq, Repr

structure DeploymentBaseline where
  id : Uuid
  scope : ReleaseScope
  gateEvaluationId : Uuid
  status : BaselineStatus
  supersededByBaselineId : Option Uuid
  deriving DecidableEq, Repr

instance : Keyed DeploymentBaseline Uuid where
  key := DeploymentBaseline.id

/-- The committed rows, with the evidence of each scope and the source of new
ids. -/
structure ScopeStore where
  evidence : EvidenceKey → String
  gates : Table ScopedGate
  baselines : Table DeploymentBaseline
  uuids : Uuid
  gatesDrawn : ∀ gate ∈ gates, gate.id < uuids
  baselinesDrawn : ∀ baseline ∈ baselines, baseline.id < uuids

namespace ScopeStore

def initial (evidence : EvidenceKey → String) : ScopeStore where
  evidence := evidence
  gates := ∅
  baselines := ∅
  uuids := 0
  gatesDrawn gate mem := absurd mem (Table.not_mem_empty gate)
  baselinesDrawn baseline mem := absurd mem (Table.not_mem_empty baseline)

/-- The rows that `mark_scope_gates_stale` selects for update. -/
def completedGates (store : ScopeStore) (key : EvidenceKey) : List ScopedGate :=
  store.gates.rows.filter (fun gate =>
    evidenceKey gate.scope = key ∧ gate.status = .completed)

def staleGates (store : ScopeStore) (key : EvidenceKey) (resolvedHash : String) : List Uuid :=
  ((store.completedGates key).filter (fun gate =>
    gate.evidenceRevisionHash ≠ resolvedHash)).map ScopedGate.id

/-- `gate.status = "stale"`, for the gates of a list. -/
def markedGate (stale : List Uuid) (gate : ScopedGate) : ScopedGate :=
  if gate.id ∈ stale then { gate with status := .stale } else gate

/-- `supersede_stale_gates`, for one gate. -/
def supersededGate (scope : ReleaseScope) (replacementId : Uuid) (gate : ScopedGate) : ScopedGate :=
  if evidenceKey gate.scope = evidenceKey scope ∧ gate.status = .stale ∧
      gate.supersededByGateEvaluationId = none then
    { gate with supersededByGateEvaluationId := some replacementId }
  else gate

theorem markedGate_id (stale : List Uuid) (gate : ScopedGate) :
    (markedGate stale gate).id = gate.id := by
  unfold markedGate
  split
  · rfl
  · rfl

theorem supersededGate_id (scope : ReleaseScope) (replacementId : Uuid) (gate : ScopedGate) :
    (supersededGate scope replacementId gate).id = gate.id := by
  unfold supersededGate
  split
  · rfl
  · rfl

def markStale (store : ScopeStore) (stale : List Uuid) : ScopeStore :=
  { store with
    gates := store.gates.update (markedGate stale) (markedGate_id stale)
    gatesDrawn := by
      intro gate mem
      obtain ⟨old, oldMem, rfl⟩ := Table.mem_update.mp mem
      rw [markedGate_id]
      exact store.gatesDrawn old oldMem }

def evaluatedGate (store : ScopeStore) (scope : ReleaseScope)
    (verdict : GateVerdict) (evidenceRevisionHash : String) : ScopedGate where
  id := store.uuids
  scope := scope
  status := .completed
  verdict := verdict
  evidenceRevisionHash := evidenceRevisionHash
  supersededByGateEvaluationId := none

def replacedGate (store : ScopeStore) (scope : ReleaseScope)
    (stale : List Uuid) (gate : ScopedGate) : ScopedGate :=
  supersededGate scope store.uuids (markedGate stale gate)

theorem replacedGate_id (store : ScopeStore) (scope : ReleaseScope)
    (stale : List Uuid) (gate : ScopedGate) :
    (replacedGate store scope stale gate).id = gate.id := by
  rw [replacedGate, supersededGate_id, markedGate_id]

def commitGate (store : ScopeStore) (scope : ReleaseScope) (verdict : GateVerdict)
    (evidenceRevisionHash : String) (stale : List Uuid) : ScopeStore where
  evidence := store.evidence
  gates := (store.gates.update (replacedGate store scope stale)
    (replacedGate_id store scope stale)).insert
      (evaluatedGate store scope verdict evidenceRevisionHash) (by
        intro gate mem
        obtain ⟨old, oldMem, rfl⟩ := Table.mem_update.mp mem
        have drawn := store.gatesDrawn old oldMem
        rw [← replacedGate_id store scope stale] at drawn
        exact Nat.ne_of_lt drawn)
  baselines := store.baselines
  uuids := store.uuids + 1
  gatesDrawn gate mem := by
    rcases Table.mem_insert.mp mem with old | rfl
    · obtain ⟨row, rowMem, rfl⟩ := Table.mem_update.mp old
      have drawn := store.gatesDrawn row rowMem
      rw [replacedGate_id]
      exact Nat.lt_succ_of_lt drawn
    · exact Nat.lt_succ_self _
  baselinesDrawn baseline mem :=
    Nat.lt_succ_of_lt (store.baselinesDrawn baseline mem)

def activeBaselines (store : ScopeStore) (scope : ReleaseScope) : List Uuid :=
  (store.baselines.rows.filter (fun baseline =>
    baseline.scope = scope ∧ baseline.status = .active)).map DeploymentBaseline.id

/-- The loop over `previous_active`, for one baseline. -/
def supersededBaseline (previous : List Uuid) (promotedId : Uuid)
    (baseline : DeploymentBaseline) : DeploymentBaseline :=
  if baseline.id ∈ previous then
    { baseline with status := .superseded, supersededByBaselineId := some promotedId }
  else baseline

theorem supersededBaseline_id (previous : List Uuid) (promotedId : Uuid)
    (baseline : DeploymentBaseline) :
    (supersededBaseline previous promotedId baseline).id = baseline.id := by
  unfold supersededBaseline
  split
  · rfl
  · rfl

def promotedBaseline (store : ScopeStore) (scope : ReleaseScope)
    (gateId : Uuid) : DeploymentBaseline where
  id := store.uuids
  scope := scope
  gateEvaluationId := gateId
  status := .active
  supersededByBaselineId := none

def commitPromotion (store : ScopeStore) (scope : ReleaseScope)
    (gateId : Uuid) (previous : List Uuid) : ScopeStore where
  evidence := store.evidence
  gates := store.gates
  baselines := (store.baselines.update (supersededBaseline previous store.uuids)
    (supersededBaseline_id previous store.uuids)).insert (promotedBaseline store scope gateId) (by
        intro baseline mem
        obtain ⟨old, oldMem, rfl⟩ := Table.mem_update.mp mem
        have drawn := store.baselinesDrawn old oldMem
        rw [← supersededBaseline_id previous store.uuids] at drawn
        exact Nat.ne_of_lt drawn)
  uuids := store.uuids + 1
  gatesDrawn gate mem := Nat.lt_succ_of_lt (store.gatesDrawn gate mem)
  baselinesDrawn baseline mem := by
    rcases Table.mem_insert.mp mem with old | rfl
    · obtain ⟨row, rowMem, rfl⟩ := Table.mem_update.mp old
      have drawn := store.baselinesDrawn row rowMem
      rw [supersededBaseline_id]
      exact Nat.lt_succ_of_lt drawn
    · exact Nat.lt_succ_self _

end ScopeStore

/-- What a transaction has read so far, and the gates that it has marked. -/
inductive ScopePhase where
  | idle
  /-- `create_gate_evaluation` has collected the evidence, when the ids below
  `seen` were drawn. -/
  | evaluating (scope : ReleaseScope) (verdict : GateVerdict) (hash : String)
      (seen : Uuid)
  /-- It has marked the completed gates. -/
  | marked (scope : ReleaseScope) (verdict : GateVerdict) (hash : String)
      (stale : List Uuid)
  /-- `reconcile_all_gate_staleness` is between two scopes. -/
  | reconciling (pending : List EvidenceKey) (stale : List Uuid)
  /-- It has collected the evidence of a scope. -/
  | collected (pending : List EvidenceKey) (stale : List Uuid)
      (key : EvidenceKey) (hash : String) (seen : Uuid)
  /-- `promote_gate_evaluation_as_baseline` has read the gate and the active
  baselines. -/
  | promoting (scope : ReleaseScope) (gateId : Uuid) (previous : List Uuid)
  deriving DecidableEq, Repr

structure ScopeSystem where
  store : ScopeStore
  phase : Nat → ScopePhase
  /-- The transaction that a gate is locked by. -/
  locks : Uuid → Option Nat

inductive ScopeStep where
  | changeEvidence (key : EvidenceKey) (hash : String)
  | evaluate (call : Nat) (scope : ReleaseScope) (verdict : GateVerdict)
  | reconcile (call : Nat)
  | collect (call : Nat) (key : EvidenceKey)
  | mark (call : Nat)
  | promote (call : Nat) (gateId : Uuid)
  | commit (call : Nat)
  /-- The transaction is rolled back. -/
  | abort (call : Nat)

namespace ScopeSystem

def initial (evidence : EvidenceKey → String) : ScopeSystem where
  store := .initial evidence
  phase _ := .idle
  locks _ := none

def setPhase (sys : ScopeSystem) (call : Nat) (phase : ScopePhase) :
    ScopeSystem :=
  { sys with phase := Function.update sys.phase call phase }

def endCall (sys : ScopeSystem) (call : Nat) (store : ScopeStore) : ScopeSystem where
  store := store
  phase := Function.update sys.phase call .idle
  locks gateId :=
    if sys.locks gateId = some call then none else sys.locks gateId

/-- `with_for_update`, once no other transaction has a lock on the rows. -/
def lock (sys : ScopeSystem) (call : Nat) (rows : List ScopedGate) : Option ScopeSystem :=
  if rows.all (fun gate => (sys.locks gate.id).all (· = call)) then
    some { sys with
      locks := fun gateId =>
        if gateId ∈ rows.map ScopedGate.id then some call
        else sys.locks gateId }
  else none

def next (sys : ScopeSystem) : ScopeStep → Option ScopeSystem
  | .changeEvidence key hash => some { sys with
      store := { sys.store with
        evidence := Function.update sys.store.evidence key hash } }
  | .evaluate call scope verdict =>
    match sys.phase call with
    | .idle => some (sys.setPhase call (.evaluating scope verdict
        (sys.store.evidence (evidenceKey scope)) sys.store.uuids))
    | _ => none
  | .reconcile call =>
    match sys.phase call with
    | .idle => some (sys.setPhase call (.reconciling ((sys.store.gates.rows.filter (fun gate =>
          gate.status = .completed)).map (fun gate => evidenceKey gate.scope)).dedup []))
    | _ => none
  | .collect call key =>
    match sys.phase call with
    | .reconciling pending stale =>
      if key ∈ pending then some (sys.setPhase call (.collected
        (pending.erase key) stale key (sys.store.evidence key) sys.store.uuids))
      else none
    | _ => none
  | .mark call =>
    match sys.phase call with
    | .evaluating scope verdict hash _ =>
      (sys.lock call (sys.store.completedGates
        (evidenceKey scope))).map (fun locked => locked.setPhase call (.marked scope verdict hash
            (sys.store.staleGates (evidenceKey scope) hash)))
    | .collected pending stale key hash _ =>
      (sys.lock call (sys.store.completedGates key)).map
        (fun locked => locked.setPhase call (.reconciling pending
          (stale ++ sys.store.staleGates key hash)))
    | _ => none
  | .promote call gateId =>
    match sys.phase call, sys.store.gates.find? gateId with
    | .idle, some gate =>
      if gate.status = .completed ∧ gate.verdict = .approved then
        some (sys.setPhase call (.promoting gate.scope gate.id
          (sys.store.activeBaselines gate.scope)))
      else none
    | _, _ => none
  | .commit call =>
    match sys.phase call with
    | .marked scope verdict hash stale => some (sys.endCall call
        (sys.store.commitGate scope verdict hash stale))
    | .reconciling [] stale =>
      some (sys.endCall call (sys.store.markStale stale))
    | .promoting scope gateId previous => some (sys.endCall call
        (sys.store.commitPromotion scope gateId previous))
    | _ => none
  | .abort call => some (sys.endCall call sys.store)

end ScopeSystem

end ModelAtlas.Gate
