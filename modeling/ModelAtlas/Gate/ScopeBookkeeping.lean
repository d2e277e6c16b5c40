import ModelAtlas.Gate.Scopes

/-!
# The bookkeeping of a scope

Baselines form one chain where a promotion commits over the baselines that it
has read. A gate becomes stale by evidence that differs, and is superseded
within its scope.
-/

namespace ModelAtlas.Gate

open Foundations
open Release (ReleaseScope GateStatus)

variable {call : Nat} {baseline : DeploymentBaseline} {old new gate : ScopedGate}

/-! ## Statements -/

def SupersededBy (baselines : Table DeploymentBaseline) (left right : DeploymentBaseline) : Prop :=
  left ∈ baselines ∧ right ∈ baselines ∧ left.status = .superseded ∧
    left.supersededByBaselineId = some right.id

/-- Each scope has at most one active baseline; the chains reach it, and no
baseline was promoted after it. -/
structure LinearBaselines (baselines : Table DeploymentBaseline) : Prop where
  one : ∀ left ∈ baselines, ∀ right ∈ baselines, left.status = .active →
    right.status = .active → left.scope = right.scope → left = right
  reaches : ∀ baseline ∈ baselines, ∃ active ∈ baselines,
    active.status = .active ∧ active.scope = baseline.scope ∧
      Relation.ReflTransGen (SupersededBy baselines) baseline active
  last : ∀ active ∈ baselines, active.status = .active →
    ∀ other ∈ baselines, other.scope = active.scope → other.id ≤ active.id

def EvidenceDiffers (gate : ScopedGate) (sys : ScopeSystem) (_step : ScopeStep) : Prop :=
  (∃ row ∈ sys.store.gates, row.id = gate.id) ∧
    sys.store.evidence (evidenceKey gate.scope) ≠ gate.evidenceRevisionHash

def SupersededInScope (gates : Table ScopedGate) (gate : ScopedGate) : Prop :=
  ∀ replacementId, gate.supersededByGateEvaluationId = some replacementId →
    gate.status = .stale ∧ ∃ later ∈ gates, later.id = replacementId ∧
      gate.id < later.id ∧ later.scope = gate.scope

structure ScopeBookkeeping (start : ScopeSystem) (steps : List ScopeStep)
    (sys : ScopeSystem) : Prop where
  baselines : LinearBaselines sys.store.baselines
  stale : ∀ gate ∈ sys.store.gates, gate.status = .stale →
    Happened (stepsOf ScopeSystem.next) start (EvidenceDiffers gate) steps
  superseded : ∀ gate ∈ sys.store.gates,
    SupersededInScope sys.store.gates gate

/-- A gate of a later state: what it was evaluated on stays, and so do its
staleness and its replacement. -/
structure SettledGate (old new : ScopedGate) : Prop where
  id : new.id = old.id
  scope : new.scope = old.scope
  evidenceRevisionHash : new.evidenceRevisionHash = old.evidenceRevisionHash
  stale : old.status = .stale → new.status = .stale
  superseded : ∀ replacementId,
    old.supersededByGateEvaluationId = some replacementId →
      new.supersededByGateEvaluationId = some replacementId

def ScopePhase.held : ScopePhase → Option (EvidenceKey × String × Uuid)
  | .evaluating scope _ hash seen => some (evidenceKey scope, hash, seen)
  | .collected _ _ key hash seen => some (key, hash, seen)
  | .idle | .marked .. | .reconciling .. | .promoting .. => none

def ScopePhase.staleIds : ScopePhase → List Uuid
  | .marked _ _ _ stale | .reconciling _ stale
  | .collected _ stale _ _ _ => stale
  | .idle | .evaluating .. | .promoting .. => []

/-- The steps that keep the books: marked gates were there when the evidence was read,
superseded gates are of the policy, and a promotion replaces the baselines that it has read. -/
def KeepsBooks (sys : ScopeSystem) (step : ScopeStep) : Prop :=
  match step with
  | .mark call => ∀ key hash seen, (sys.phase call).held = some (key, hash, seen) →
        ∀ gate ∈ sys.store.gates, evidenceKey gate.scope = key →
          gate.status = .completed → gate.evidenceRevisionHash ≠ hash → gate.id < seen
  | .commit call =>
    match sys.phase call with
    | .marked scope _ _ stale => ∀ gate ∈ sys.store.gates,
        evidenceKey gate.scope = evidenceKey scope → gate.status = .stale ∨ gate.id ∈ stale →
            gate.supersededByGateEvaluationId = none → gate.scope = scope
    | .promoting scope _ previous => ∀ baseline ∈ sys.store.baselines,
        baseline.scope = scope → baseline.status = .active → baseline.id ∈ previous
    | _ => True
  | _ => True

inductive StoreChange (sys : ScopeSystem) (step : ScopeStep)
    (after : ScopeStore) : Prop
  | same (gates : after.gates = sys.store.gates)
      (baselines : after.baselines = sys.store.baselines)
      (uuids : after.uuids = sys.store.uuids)
  | evaluated {call : Nat} {scope : ReleaseScope} {verdict : GateVerdict}
      {hash : String} {stale : List Uuid} (isCommit : step = .commit call)
      (phase : sys.phase call = .marked scope verdict hash stale)
      (committed : after = sys.store.commitGate scope verdict hash stale)
  | reconciled {call : Nat} {stale : List Uuid}
      (phase : sys.phase call = .reconciling [] stale)
      (committed : after = sys.store.markStale stale)
  | promoted {call : Nat} {scope : ReleaseScope} {gateId : Uuid}
      {previous : List Uuid} (isCommit : step = .commit call)
      (phase : sys.phase call = .promoting scope gateId previous)
      (committed : after = sys.store.commitPromotion scope gateId previous)

inductive PhaseChange (sys : ScopeSystem) (step : ScopeStep)
    (after : ScopeSystem) (call : Nat) : Prop
  | same (phase : after.phase call = sys.phase call)
  | ended (phase : after.phase call = .idle)
  | evaluating {scope : ReleaseScope} {verdict : GateVerdict}
      (store : after.store = sys.store)
      (phase : after.phase call = .evaluating scope verdict
        (sys.store.evidence (evidenceKey scope)) sys.store.uuids)
  | reconciling {pending : List EvidenceKey}
      (phase : after.phase call = .reconciling pending [])
  | collected {before pending : List EvidenceKey} {stale : List Uuid}
      {key : EvidenceKey} (store : after.store = sys.store)
      (reconciling : sys.phase call = .reconciling before stale)
      (phase : after.phase call = .collected pending stale key
        (sys.store.evidence key) sys.store.uuids)
  | marks {key : EvidenceKey} {hash : String} {seen : Uuid}
      (isMark : step = .mark call) (store : after.store = sys.store)
      (held : (sys.phase call).held = some (key, hash, seen))
      (noLonger : (after.phase call).held = none)
      (noPrevious : ∀ scope gateId previous,
        after.phase call ≠ .promoting scope gateId previous)
      (stale : (after.phase call).staleIds =
        (sys.phase call).staleIds ++ sys.store.staleGates key hash)
  | promoting {gate : ScopedGate} (store : after.store = sys.store)
      (phase : after.phase call = .promoting gate.scope gate.id
        (sys.store.activeBaselines gate.scope))

section Steps

variable {sys after : ScopeSystem} {step : ScopeStep}

theorem lock_keeps {rows : List ScopedGate} (isLocked : sys.lock call rows = some after) :
    after.store = sys.store ∧ after.phase = sys.phase := by
  unfold ScopeSystem.lock at isLocked
  split at isLocked
  · rw [← Option.some.inj isLocked]
    exact ⟨rfl, rfl⟩
  · cases isLocked

theorem storeChange_of_step (taken : stepsOf ScopeSystem.next sys step after) :
    StoreChange sys step after.store := by
  rw [stepsOf] at taken
  cases step with
  | changeEvidence key hash =>
    rw [← Option.some.inj taken]
    exact .same rfl rfl rfl
  | evaluate call scope verdict =>
    simp only [ScopeSystem.next] at taken
    split at taken
    · rw [← Option.some.inj taken]
      exact .same rfl rfl rfl
    · cases taken
  | reconcile call =>
    simp only [ScopeSystem.next] at taken
    split at taken
    · rw [← Option.some.inj taken]
      exact .same rfl rfl rfl
    · cases taken
  | collect call key =>
    simp only [ScopeSystem.next] at taken
    split at taken
    · split at taken
      · rw [← Option.some.inj taken]
        exact .same rfl rfl rfl
      · cases taken
    · cases taken
  | mark call =>
    simp only [ScopeSystem.next] at taken
    split at taken
    · obtain ⟨middle, isLocked, rfl⟩ := Option.map_eq_some_iff.mp taken
      have sameStore := (lock_keeps isLocked).1
      exact .same (congrArg _ sameStore) (congrArg _ sameStore) (congrArg _ sameStore)
    · obtain ⟨middle, isLocked, rfl⟩ := Option.map_eq_some_iff.mp taken
      have sameStore := (lock_keeps isLocked).1
      exact .same (congrArg _ sameStore) (congrArg _ sameStore) (congrArg _ sameStore)
    · cases taken
  | promote call gateId =>
    simp only [ScopeSystem.next] at taken
    split at taken
    · split at taken
      · rw [← Option.some.inj taken]
        exact .same rfl rfl rfl
      · cases taken
    · cases taken
  | commit call =>
    simp only [ScopeSystem.next] at taken
    split at taken
    · next phase =>
        rw [← Option.some.inj taken]
        exact .evaluated rfl phase rfl
    · next phase =>
        rw [← Option.some.inj taken]
        exact .reconciled phase rfl
    · next phase =>
        rw [← Option.some.inj taken]
        exact .promoted rfl phase rfl
    · cases taken
  | abort call =>
    rw [← Option.some.inj taken]
    exact .same rfl rfl rfl

theorem PhaseChange.of_update {own : Nat} {phase : ScopePhase}
    (phases : after.phase = Function.update sys.phase own phase)
    (change : after.phase own = phase → PhaseChange sys step after own)
    (call : Nat) : PhaseChange sys step after call := by
  by_cases isOwn : call = own
  · subst isOwn
    refine change ?_
    rw [phases, Function.update_self]
  · refine .same ?_
    rw [phases, Function.update_of_ne isOwn]

theorem PhaseChange.of_endCall {own : Nat} {store : ScopeStore}
    (ended : after = sys.endCall own store) (call : Nat) :
    PhaseChange sys step after call :=
  .of_update (congrArg ScopeSystem.phase ended) (fun phase => .ended phase) call

theorem phaseChange_of_step (taken : stepsOf ScopeSystem.next sys step after) (call : Nat) :
    PhaseChange sys step after call := by
  rw [stepsOf] at taken
  cases step with
  | changeEvidence key hash =>
    rw [← Option.some.inj taken]
    exact .same rfl
  | evaluate own scope verdict =>
    simp only [ScopeSystem.next] at taken
    split at taken
    · have stepped := (Option.some.inj taken).symm
      refine .of_update (congrArg ScopeSystem.phase stepped)
        (fun phase => .evaluating ?_ phase) call
      rw [stepped, ScopeSystem.setPhase]
    · cases taken
  | reconcile own =>
    simp only [ScopeSystem.next] at taken
    split at taken
    · have stepped := (Option.some.inj taken).symm
      exact .of_update (congrArg ScopeSystem.phase stepped) (fun phase => .reconciling phase) call
    · cases taken
  | collect own key =>
    simp only [ScopeSystem.next] at taken
    split at taken
    · next reconciling =>
        split at taken
        · have stepped := (Option.some.inj taken).symm
          refine .of_update (congrArg ScopeSystem.phase stepped)
            (fun phase => .collected ?_ reconciling phase) call
          rw [stepped, ScopeSystem.setPhase]
        · cases taken
    · cases taken
  | mark own =>
    simp only [ScopeSystem.next] at taken
    split at taken
    · next scope verdict hash seen evaluating =>
        obtain ⟨middle, isLocked, stepped⟩ := Option.map_eq_some_iff.mp taken
        obtain ⟨sameStore, samePhase⟩ := lock_keeps isLocked
        have phases := congrArg ScopeSystem.phase stepped.symm
        rw [ScopeSystem.setPhase, samePhase] at phases
        refine .of_update phases (fun phase => .marks rfl ?_
          (congrArg ScopePhase.held evaluating) ?_ ?_ ?_) call
        · rw [← stepped]
          exact sameStore
        · rw [phase]
          rfl
        · intro _ _ _ same
          rw [phase] at same
          cases same
        · rw [phase, evaluating]
          rfl
    · next pending stale key hash seen collected =>
        obtain ⟨middle, isLocked, stepped⟩ := Option.map_eq_some_iff.mp taken
        obtain ⟨sameStore, samePhase⟩ := lock_keeps isLocked
        have phases := congrArg ScopeSystem.phase stepped.symm
        rw [ScopeSystem.setPhase, samePhase] at phases
        refine .of_update phases (fun phase => .marks rfl ?_
          (congrArg ScopePhase.held collected) ?_ ?_ ?_) call
        · rw [← stepped]
          exact sameStore
        · rw [phase]
          rfl
        · intro _ _ _ same
          rw [phase] at same
          cases same
        · rw [phase, collected]
          rfl
    · cases taken
  | promote own gateId =>
    simp only [ScopeSystem.next] at taken
    split at taken
    · split at taken
      · have stepped := (Option.some.inj taken).symm
        refine .of_update (congrArg ScopeSystem.phase stepped)
          (fun phase => .promoting ?_ phase) call
        rw [stepped, ScopeSystem.setPhase]
      · cases taken
    · cases taken
  | commit own =>
    simp only [ScopeSystem.next] at taken
    split at taken
    · exact .of_endCall (Option.some.inj taken).symm call
    · exact .of_endCall (Option.some.inj taken).symm call
    · exact .of_endCall (Option.some.inj taken).symm call
    · cases taken
  | abort own =>
    exact .of_endCall (Option.some.inj taken).symm call

end Steps

section Baselines

variable {sys after : ScopeSystem} {step : ScopeStep} {store : ScopeStore}
  {scope : ReleaseScope} {gateId : Uuid} {previous : List Uuid}

theorem mem_commitPromotion :
    baseline ∈ (store.commitPromotion scope gateId previous).baselines ↔ (∃ old ∈ store.baselines,
        ScopeStore.supersededBaseline previous store.uuids old = baseline) ∨
      baseline = store.promotedBaseline scope gateId := by
  rw [ScopeStore.commitPromotion, Table.mem_insert, Table.mem_update]

theorem supersededBaseline_scope (promotedId : Uuid) (baseline : DeploymentBaseline) :
    (ScopeStore.supersededBaseline previous promotedId baseline).scope =
      baseline.scope := by
  unfold ScopeStore.supersededBaseline
  split
  · rfl
  · rfl

theorem supersededBaseline_of_mem (promotedId : Uuid) (mem : baseline.id ∈ previous) :
    ScopeStore.supersededBaseline previous promotedId baseline =
      { baseline with
        status := .superseded
        supersededByBaselineId := some promotedId } :=
  if_pos mem

theorem supersededBaseline_of_not_mem (promotedId : Uuid) (missing : baseline.id ∉ previous) :
    ScopeStore.supersededBaseline previous promotedId baseline = baseline :=
  if_neg missing

theorem active_of_supersededBaseline {promotedId : Uuid}
    (active : (ScopeStore.supersededBaseline previous promotedId baseline).status = .active) :
    baseline.id ∉ previous ∧ baseline.status = .active := by
  by_cases mem : baseline.id ∈ previous
  · rw [supersededBaseline_of_mem promotedId mem] at active
    cases active
  · rw [supersededBaseline_of_not_mem promotedId mem] at active
    exact ⟨mem, active⟩

structure ReadPrevious (store : ScopeStore) (scope : ReleaseScope)
    (previous : List Uuid) : Prop where
  known : ∀ id ∈ previous, ∃ baseline ∈ store.baselines,
    baseline.id = id ∧ baseline.scope = scope
  one : ∀ left ∈ previous, ∀ right ∈ previous, left = right

theorem linearBaselines_commitPromotion (linear : LinearBaselines store.baselines)
    (read : ReadPrevious store scope previous)
    (current : ∀ baseline ∈ store.baselines, baseline.scope = scope →
      baseline.status = .active → baseline.id ∈ previous) :
    LinearBaselines (store.commitPromotion scope gateId previous).baselines := by
  -- What the promotion has read is still the active baseline of its scope.
  have stillActive : ∀ baseline ∈ store.baselines, baseline.id ∈ previous →
      baseline.status = .active ∧ baseline.scope = scope := by
    intro baseline mem isRead
    obtain ⟨row, rowMem, named, inScope⟩ := read.known _ isRead
    have sameRow : row = baseline :=
      Table.eq_of_key_eq rowMem mem named
    subst sameRow
    obtain ⟨active, activeMem, isActive, sameScope, _⟩ :=
      linear.reaches row rowMem
    have activeRead := current active activeMem (sameScope.trans inScope) isActive
    have sameActive : active = row := Table.eq_of_key_eq activeMem rowMem
      (read.one _ activeRead _ isRead)
    rw [← sameActive]
    exact ⟨isActive, sameScope.trans (sameActive ▸ inScope)⟩
  have outside : ∀ baseline ∈ store.baselines, baseline.id ∉ previous →
      baseline.status = .active → baseline.scope ≠ scope :=
    fun baseline mem missing isActive inScope =>
      missing (current baseline mem inScope isActive)
  have promotedMem : store.promotedBaseline scope gateId ∈
      (store.commitPromotion scope gateId previous).baselines :=
    mem_commitPromotion.mpr (Or.inr rfl)
  have changedMem : ∀ old ∈ store.baselines,
      ScopeStore.supersededBaseline previous store.uuids old ∈
        (store.commitPromotion scope gateId previous).baselines :=
    fun old mem => mem_commitPromotion.mpr (Or.inl ⟨old, mem, rfl⟩)
  constructor
  · intro left leftMem right rightMem leftActive rightActive sameScope
    rcases mem_commitPromotion.mp leftMem with ⟨oldLeft, mem, rfl⟩ | rfl
    · obtain ⟨leftMissing, leftWas⟩ := active_of_supersededBaseline leftActive
      rw [supersededBaseline_scope] at sameScope
      rcases mem_commitPromotion.mp rightMem with
        ⟨oldRight, otherMem, rfl⟩ | rfl
      · obtain ⟨_, rightWas⟩ := active_of_supersededBaseline rightActive
        rw [supersededBaseline_scope] at sameScope
        rw [linear.one _ mem _ otherMem leftWas rightWas sameScope]
      · exact absurd sameScope (outside _ mem leftMissing leftWas)
    · rcases mem_commitPromotion.mp rightMem with
        ⟨oldRight, otherMem, rfl⟩ | rfl
      · obtain ⟨rightMissing, rightWas⟩ :=
          active_of_supersededBaseline rightActive
        rw [supersededBaseline_scope] at sameScope
        exact absurd sameScope.symm (outside _ otherMem rightMissing rightWas)
      · rfl
  · intro baseline mem
    rcases mem_commitPromotion.mp mem with ⟨old, oldMem, rfl⟩ | rfl
    · obtain ⟨active, activeMem, isActive, sameScope, chain⟩ :=
        linear.reaches old oldMem
      -- A superseded baseline is not read by the promotion, so it keeps its
      -- link.
      have kept : Relation.ReflTransGen
          (SupersededBy (store.commitPromotion scope gateId previous).baselines)
          (ScopeStore.supersededBaseline previous store.uuids old)
          (ScopeStore.supersededBaseline previous store.uuids active) := by
        refine chain.lift _ ?_
        rintro left right ⟨leftMem, rightMem, superseded, link⟩
        have leftMissing : left.id ∉ previous := by
          intro isRead
          rw [(stillActive left leftMem isRead).1] at superseded
          cases superseded
        refine ⟨changedMem left leftMem, changedMem right rightMem, ?_, ?_⟩
        · rw [supersededBaseline_of_not_mem _ leftMissing]
          exact superseded
        · rw [supersededBaseline_of_not_mem _ leftMissing, ScopeStore.supersededBaseline_id]
          exact link
      rw [supersededBaseline_scope]
      by_cases isRead : active.id ∈ previous
      · have inScope := (stillActive active activeMem isRead).2
        refine ⟨store.promotedBaseline scope gateId, promotedMem, rfl,
          inScope.symm.trans sameScope, kept.tail ?_⟩
        refine ⟨changedMem active activeMem, promotedMem, ?_, ?_⟩
        · rw [supersededBaseline_of_mem _ isRead]
        · rw [supersededBaseline_of_mem _ isRead]
          rfl
      · rw [supersededBaseline_of_not_mem _ isRead] at kept
        have activeKept := changedMem active activeMem
        rw [supersededBaseline_of_not_mem _ isRead] at activeKept
        exact ⟨active, activeKept, isActive, sameScope, kept⟩
    · exact ⟨_, promotedMem, rfl, rfl, Relation.ReflTransGen.refl⟩
  · intro active activeMem isActive other otherMem sameScope
    rcases mem_commitPromotion.mp activeMem with ⟨old, oldMem, rfl⟩ | rfl
    · obtain ⟨missing, wasActive⟩ := active_of_supersededBaseline isActive
      rw [ScopeStore.supersededBaseline_id]
      rw [supersededBaseline_scope] at sameScope
      rcases mem_commitPromotion.mp otherMem with ⟨row, rowMem, rfl⟩ | rfl
      · rw [supersededBaseline_scope] at sameScope
        rw [ScopeStore.supersededBaseline_id]
        exact linear.last old oldMem wasActive row rowMem sameScope
      · exact absurd sameScope.symm (outside old oldMem missing wasActive)
    · rcases mem_commitPromotion.mp otherMem with ⟨row, rowMem, rfl⟩ | rfl
      · rw [ScopeStore.supersededBaseline_id]
        exact Nat.le_of_lt (store.baselinesDrawn row rowMem)
      · exact Nat.le_refl _

theorem readPrevious_activeBaselines (linear : LinearBaselines store.baselines)
    (scope : ReleaseScope) :
    ReadPrevious store scope (store.activeBaselines scope) := by
  have read : ∀ id ∈ store.activeBaselines scope,
      ∃ baseline ∈ store.baselines, baseline.id = id ∧ baseline.scope = scope ∧
        baseline.status = .active := by
    intro id mem
    obtain ⟨baseline, selected, named⟩ := List.mem_map.mp mem
    obtain ⟨rowMem, isSelected⟩ := List.mem_filter.mp selected
    obtain ⟨inScope, isActive⟩ := of_decide_eq_true isSelected
    exact ⟨baseline, rowMem, named, inScope, isActive⟩
  constructor
  · intro id mem
    obtain ⟨baseline, rowMem, named, inScope, _⟩ := read id mem
    exact ⟨baseline, rowMem, named, inScope⟩
  · intro left leftMem right rightMem
    obtain ⟨first, firstMem, firstNamed, firstScope, firstActive⟩ :=
      read left leftMem
    obtain ⟨second, secondMem, secondNamed, secondScope, secondActive⟩ :=
      read right rightMem
    have same := linear.one first firstMem second secondMem firstActive
      secondActive (firstScope.trans secondScope.symm)
    rw [← firstNamed, ← secondNamed, same]

theorem ReadPrevious.kept {later : ScopeStore} (read : ReadPrevious store scope previous)
    (rows : ∀ old ∈ store.baselines, ∃ new ∈ later.baselines,
      new.id = old.id ∧ new.scope = old.scope) :
    ReadPrevious later scope previous where
  one := read.one
  known id mem := by
    obtain ⟨old, oldMem, named, inScope⟩ := read.known id mem
    obtain ⟨new, newMem, sameId, sameScope⟩ := rows old oldMem
    exact ⟨new, newMem, sameId.trans named, sameScope.trans inScope⟩

structure BaselineBooks (sys : ScopeSystem) : Prop where
  linear : LinearBaselines sys.store.baselines
  read : ∀ call scope gateId previous,
    sys.phase call = .promoting scope gateId previous →
      ReadPrevious sys.store scope previous

theorem BaselineBooks.initial (evidence : EvidenceKey → String) :
    BaselineBooks (.initial evidence) where
  linear :=
    { one := fun left mem => absurd mem (Table.not_mem_empty left)
      reaches := fun baseline mem =>
        absurd mem (Table.not_mem_empty baseline)
      last := fun active mem => absurd mem (Table.not_mem_empty active) }
  read _ _ _ _ promoting := nomatch promoting

theorem BaselineBooks.next (books : BaselineBooks sys) (keeps : KeepsBooks sys step)
    (taken : stepsOf ScopeSystem.next sys step after) :
    BaselineBooks after := by
  have change := storeChange_of_step taken
  have linear : LinearBaselines after.store.baselines := by
    cases change with
    | same _ baselines _ =>
      rw [baselines]
      exact books.linear
    | evaluated _ _ committed =>
      rw [committed]
      exact books.linear
    | reconciled _ committed =>
      rw [committed]
      exact books.linear
    | promoted isCommit phase committed =>
      rw [committed]
      rw [isCommit, KeepsBooks, phase] at keeps
      exact linearBaselines_commitPromotion books.linear (books.read _ _ _ _ phase) keeps
  have rows : ∀ old ∈ sys.store.baselines, ∃ new ∈ after.store.baselines,
      new.id = old.id ∧ new.scope = old.scope := by
    intro old mem
    cases change with
    | same _ baselines _ =>
      rw [baselines]
      exact ⟨old, mem, rfl, rfl⟩
    | evaluated _ _ committed =>
      rw [committed]
      exact ⟨old, mem, rfl, rfl⟩
    | reconciled _ committed =>
      rw [committed]
      exact ⟨old, mem, rfl, rfl⟩
    | promoted _ _ committed =>
      rw [committed]
      exact ⟨_, mem_commitPromotion.mpr (Or.inl ⟨old, mem, rfl⟩),
        ScopeStore.supersededBaseline_id .., supersededBaseline_scope ..⟩
  refine ⟨linear, ?_⟩
  intro call scope gateId previous promoting
  cases phaseChange_of_step taken call with
  | same phase =>
    exact (books.read call scope gateId previous (phase ▸ promoting)).kept rows
  | promoting store phase =>
    rw [phase] at promoting
    obtain ⟨rfl, rfl, rfl⟩ := ScopePhase.promoting.inj promoting
    exact (readPrevious_activeBaselines books.linear _).kept rows
  | marks _ _ _ _ noPrevious _ =>
    exact absurd promoting (noPrevious scope gateId previous)
  | ended phase | evaluating _ phase | reconciling phase
  | collected _ _ phase =>
    rw [phase] at promoting
    cases promoting

end Baselines

section Gates

variable {start sys after : ScopeSystem} {step : ScopeStep}
  {steps : List ScopeStep} {store : ScopeStore} {scope : ReleaseScope}
  {verdict : GateVerdict} {hash : String} {stale : List Uuid}

theorem SettledGate.refl (gate : ScopedGate) : SettledGate gate gate :=
  ⟨rfl, rfl, rfl, fun isStale => isStale, fun _ superseded => superseded⟩

theorem SettledGate.trans {first second third : ScopedGate}
    (left : SettledGate first second) (right : SettledGate second third) :
    SettledGate first third where
  id := right.id.trans left.id
  scope := right.scope.trans left.scope
  evidenceRevisionHash :=
    right.evidenceRevisionHash.trans left.evidenceRevisionHash
  stale := right.stale ∘ left.stale
  superseded replacementId :=
    right.superseded replacementId ∘ left.superseded replacementId

theorem settledGate_marked (stale : List Uuid) (gate : ScopedGate) :
    SettledGate gate (ScopeStore.markedGate stale gate) := by
  unfold ScopeStore.markedGate
  split
  · exact ⟨rfl, rfl, rfl, fun _ => rfl, fun _ superseded => superseded⟩
  · exact SettledGate.refl gate

theorem settledGate_superseded (scope : ReleaseScope) (replacementId : Uuid) (gate : ScopedGate) :
    SettledGate gate (ScopeStore.supersededGate scope replacementId gate) := by
  unfold ScopeStore.supersededGate
  split
  · next due =>
      refine ⟨rfl, rfl, rfl, fun isStale => isStale, fun other isSuperseded => ?_⟩
      rw [due.2.2] at isSuperseded
      cases isSuperseded
  · exact SettledGate.refl gate

theorem settledGate_replaced (store : ScopeStore) (scope : ReleaseScope)
    (stale : List Uuid) (gate : ScopedGate) :
    SettledGate gate (store.replacedGate scope stale gate) :=
  (settledGate_marked stale gate).trans (settledGate_superseded scope store.uuids _)

theorem evidenceDiffers_of_settled (settled : SettledGate old new)
    (differed : Happened (stepsOf ScopeSystem.next) start (EvidenceDiffers old) steps) :
    Happened (stepsOf ScopeSystem.next) start (EvidenceDiffers new) steps := by
  refine differed.mono (fun before label => ?_)
  rintro ⟨⟨row, rowMem, named⟩, differs⟩
  refine ⟨⟨row, rowMem, named.trans settled.id.symm⟩, ?_⟩
  rw [settled.scope, settled.evidenceRevisionHash]
  exact differs

theorem mem_commitGate : gate ∈ (store.commitGate scope verdict hash stale).gates ↔
      (∃ old ∈ store.gates, store.replacedGate scope stale old = gate) ∨
        gate = store.evaluatedGate scope verdict hash := by
  rw [ScopeStore.commitGate, Table.mem_insert, Table.mem_update]

theorem mem_markStale : gate ∈ (store.markStale stale).gates ↔
      ∃ old ∈ store.gates, ScopeStore.markedGate stale old = gate := by
  rw [ScopeStore.markStale, Table.mem_update]

theorem markedGate_status : (ScopeStore.markedGate stale gate).status = .stale ↔
      gate.status = .stale ∨ gate.id ∈ stale := by
  unfold ScopeStore.markedGate
  by_cases isMarked : gate.id ∈ stale
  · simp [isMarked]
  · simp [isMarked]

theorem supersededGate_status (replacementId : Uuid) (gate : ScopedGate) :
    (ScopeStore.supersededGate scope replacementId gate).status =
      gate.status := by
  unfold ScopeStore.supersededGate
  split
  · rfl
  · rfl

theorem replacedGate_status : (store.replacedGate scope stale gate).status = .stale ↔
      gate.status = .stale ∨ gate.id ∈ stale := by
  rw [ScopeStore.replacedGate, supersededGate_status, markedGate_status]

theorem supersededGate_cases {replacementId other : Uuid}
    (superseded : (ScopeStore.supersededGate scope replacementId
      gate).supersededByGateEvaluationId = some other) :
    gate.supersededByGateEvaluationId = some other ∨
      (other = replacementId ∧ evidenceKey gate.scope = evidenceKey scope ∧
        gate.status = .stale ∧ gate.supersededByGateEvaluationId = none) := by
  unfold ScopeStore.supersededGate at superseded
  split at superseded
  · next due => exact Or.inr ⟨(Option.some.inj superseded).symm, due⟩
  · exact Or.inl superseded

theorem markedGate_superseded (stale : List Uuid) (gate : ScopedGate) :
    (ScopeStore.markedGate stale gate).supersededByGateEvaluationId =
      gate.supersededByGateEvaluationId := by
  unfold ScopeStore.markedGate
  split
  · rfl
  · rfl

structure SettledGates (before after : ScopeStore) : Prop where
  old : ∀ new ∈ after.gates,
    (∃ row ∈ before.gates, SettledGate row new) ∨ before.uuids ≤ new.id
  kept : ∀ row ∈ before.gates, ∃ new ∈ after.gates, SettledGate row new
  uuids : before.uuids ≤ after.uuids

theorem settledGates_of_step (taken : stepsOf ScopeSystem.next sys step after) :
    SettledGates sys.store after.store := by
  cases storeChange_of_step taken with
  | same gates _ uuids =>
    refine ⟨?_, ?_, Nat.le_of_eq uuids.symm⟩
    · intro new mem
      rw [gates] at mem
      exact Or.inl ⟨new, mem, SettledGate.refl new⟩
    · intro row mem
      rw [gates]
      exact ⟨row, mem, SettledGate.refl row⟩
  | evaluated _ _ committed =>
    rw [committed]
    refine ⟨?_, ?_, Nat.le_succ _⟩
    · intro new mem
      rcases mem_commitGate.mp mem with ⟨old, oldMem, rfl⟩ | rfl
      · exact Or.inl ⟨old, oldMem, settledGate_replaced ..⟩
      · exact Or.inr (Nat.le_refl _)
    · intro row mem
      exact ⟨_, mem_commitGate.mpr (Or.inl ⟨row, mem, rfl⟩), settledGate_replaced ..⟩
  | reconciled _ committed =>
    rw [committed]
    refine ⟨?_, ?_, Nat.le_refl _⟩
    · intro new mem
      obtain ⟨old, oldMem, rfl⟩ := mem_markStale.mp mem
      exact Or.inl ⟨old, oldMem, settledGate_marked ..⟩
    · intro row mem
      exact ⟨_, mem_markStale.mpr ⟨row, mem, rfl⟩, settledGate_marked ..⟩
  | promoted _ _ committed =>
    rw [committed]
    refine ⟨?_, ?_, Nat.le_succ _⟩
    · exact fun new mem => Or.inl ⟨new, mem, SettledGate.refl new⟩
    · exact fun row mem => ⟨row, mem, SettledGate.refl row⟩

/-- Evidence that a transaction holds differs from that of the older gates it would mark, and
its marked gates are known to differ. -/
structure GateBooks (start : ScopeSystem) (steps : List ScopeStep)
    (sys : ScopeSystem) : Prop where
  stale : ∀ gate ∈ sys.store.gates, gate.status = .stale →
    Happened (stepsOf ScopeSystem.next) start (EvidenceDiffers gate) steps
  held : ∀ call key hash seen,
    (sys.phase call).held = some (key, hash, seen) →
      seen ≤ sys.store.uuids ∧
        ∀ gate ∈ sys.store.gates, evidenceKey gate.scope = key →
          gate.id < seen → gate.evidenceRevisionHash ≠ hash →
            Happened (stepsOf ScopeSystem.next) start (EvidenceDiffers gate)
              steps
  marked : ∀ call, ∀ id ∈ (sys.phase call).staleIds,
    id < sys.store.uuids ∧ ∀ gate ∈ sys.store.gates, gate.id = id →
      Happened (stepsOf ScopeSystem.next) start (EvidenceDiffers gate) steps
  superseded : ∀ gate ∈ sys.store.gates,
    SupersededInScope sys.store.gates gate

theorem GateBooks.initial (evidence : EvidenceKey → String) :
    GateBooks (.initial evidence) [] (.initial evidence) where
  stale gate mem := absurd mem (Table.not_mem_empty gate)
  held _ _ _ _ held := nomatch held
  marked _ _ mem := nomatch mem
  superseded gate mem := absurd mem (Table.not_mem_empty gate)

theorem known_of_step (taken : stepsOf ScopeSystem.next sys step after)
    {bound : Uuid} (drawn : bound ≤ sys.store.uuids)
    {wanted : ScopedGate → Prop}
    (respects : ∀ old new, SettledGate old new → wanted new → wanted old)
    (known : ∀ gate ∈ sys.store.gates, wanted gate → gate.id < bound →
      Happened (stepsOf ScopeSystem.next) start (EvidenceDiffers gate) steps)
    (mem : gate ∈ after.store.gates)
    (isWanted : wanted gate) (older : gate.id < bound) :
    Happened (stepsOf ScopeSystem.next) start (EvidenceDiffers gate) (steps ++ [step]) := by
  rcases (settledGates_of_step taken).old gate mem with
    ⟨row, rowMem, settled⟩ | isNew
  · have rowOlder : row.id < bound := settled.id ▸ older
    exact evidenceDiffers_of_settled settled ((known row rowMem
      (respects row gate settled isWanted) rowOlder).later step)
  · exact absurd (Nat.lt_of_lt_of_le older drawn) (Nat.not_lt.mpr isNew)

theorem SettledGate.sameEvidence {key : EvidenceKey} (settled : SettledGate old new)
    (isNew : evidenceKey new.scope = key ∧ new.evidenceRevisionHash ≠ hash) :
    evidenceKey old.scope = key ∧ old.evidenceRevisionHash ≠ hash := by
  rw [← settled.scope, ← settled.evidenceRevisionHash]
  exact isNew

theorem GateBooks.next_held (books : GateBooks start steps sys)
    (exec : Execution (stepsOf ScopeSystem.next) start steps sys)
    (taken : stepsOf ScopeSystem.next sys step after) {key : EvidenceKey} {hash : String}
    {seen : Uuid} (held : (after.phase call).held = some (key, hash, seen)) :
    seen ≤ after.store.uuids ∧ ∀ gate ∈ after.store.gates,
      evidenceKey gate.scope = key → gate.id < seen → gate.evidenceRevisionHash ≠ hash →
          Happened (stepsOf ScopeSystem.next) start (EvidenceDiffers gate) (steps ++ [step]) := by
  have grows := (settledGates_of_step taken).uuids
  -- Evidence that is collected by this step differs now from the gates that
  -- are there.
  have collected : ∀ gate ∈ after.store.gates, after.store = sys.store →
      evidenceKey gate.scope = key → gate.evidenceRevisionHash ≠ sys.store.evidence key →
          Happened (stepsOf ScopeSystem.next) start (EvidenceDiffers gate) (steps ++ [step]) := by
    intro gate mem same isKey differs
    rw [same] at mem
    refine Happened.now exec taken ⟨⟨gate, mem, rfl⟩, ?_⟩
    rw [isKey]
    exact differs.symm
  cases phaseChange_of_step taken call with
  | same phase =>
    rw [phase] at held
    obtain ⟨drawn, known⟩ := books.held call key hash seen held
    refine ⟨Nat.le_trans drawn grows, ?_⟩
    intro gate mem isKey older differs
    exact known_of_step taken drawn (fun old new settled => settled.sameEvidence)
      (fun row rowMem isRow rowOlder =>
        known row rowMem isRow.1 rowOlder isRow.2)
      mem ⟨isKey, differs⟩ older
  | evaluating store phase =>
    rw [phase] at held
    obtain ⟨rfl, rfl, rfl⟩ : evidenceKey _ = key ∧ sys.store.evidence (evidenceKey _) = hash ∧
          sys.store.uuids = seen := by
      simpa [ScopePhase.held] using held
    exact ⟨grows, fun gate mem isKey _ differs =>
      collected gate mem store isKey differs⟩
  | collected store _ phase =>
    rw [phase] at held
    obtain ⟨rfl, rfl, rfl⟩ : _ = key ∧ sys.store.evidence _ = hash ∧ sys.store.uuids = seen := by
      simpa [ScopePhase.held] using held
    exact ⟨grows, fun gate mem isKey _ differs =>
      collected gate mem store isKey differs⟩
  | marks _ _ _ noLonger =>
    rw [noLonger] at held
    cases held
  | ended phase | reconciling phase | promoting _ phase =>
    rw [phase] at held
    cases held

theorem GateBooks.next_marked (books : GateBooks start steps sys) (keeps : KeepsBooks sys step)
    (taken : stepsOf ScopeSystem.next sys step after)
    {id : Uuid} (mem : id ∈ (after.phase call).staleIds) :
    id < after.store.uuids ∧ ∀ gate ∈ after.store.gates, gate.id = id →
      Happened (stepsOf ScopeSystem.next) start (EvidenceDiffers gate) (steps ++ [step]) := by
  have grows := (settledGates_of_step taken).uuids
  have earlier : id ∈ (sys.phase call).staleIds →
      id < after.store.uuids ∧ ∀ gate ∈ after.store.gates, gate.id = id →
        Happened (stepsOf ScopeSystem.next) start (EvidenceDiffers gate) (steps ++ [step]) := by
    intro isMarked
    obtain ⟨drawn, known⟩ := books.marked call id isMarked
    refine ⟨Nat.lt_of_lt_of_le drawn grows, ?_⟩
    intro gate gateMem named
    have respects : ∀ old new : ScopedGate, SettledGate old new → new.id = id → old.id = id :=
      fun old new settled isNew => settled.id.symm.trans isNew
    exact known_of_step taken (Nat.le_refl _)
      respects (fun row rowMem isRow _ => known row rowMem isRow) gateMem named (named ▸ drawn)
  cases phaseChange_of_step taken call with
  | same phase =>
    rw [phase] at mem
    exact earlier mem
  | collected _ reconciling phase =>
    rw [phase] at mem
    refine earlier ?_
    rw [reconciling]
    exact mem
  | marks isMark store held _ _ stale =>
    rw [stale] at mem
    rcases List.mem_append.mp mem with old | added
    · exact earlier old
    · -- The guard: the gate was there when the evidence was read.
      obtain ⟨row, selected, rfl⟩ := List.mem_map.mp added
      obtain ⟨completed, differs⟩ := List.mem_filter.mp selected
      obtain ⟨rowMem, isCompleted⟩ := List.mem_filter.mp completed
      obtain ⟨isKey, isStatus⟩ := of_decide_eq_true isCompleted
      have isDifferent := of_decide_eq_true differs
      rw [isMark] at keeps
      have older := keeps _ _ _ held row rowMem isKey isStatus isDifferent
      have known := (books.held call _ _ _ held).2 row rowMem isKey older isDifferent
      refine ⟨Nat.lt_of_lt_of_le (sys.store.gatesDrawn row rowMem) grows, ?_⟩
      intro gate gateMem named
      rw [store] at gateMem
      have sameGate : gate = row :=
        Table.eq_of_key_eq gateMem rowMem named
      rw [sameGate]
      exact known.later step
  | ended phase | evaluating _ phase | reconciling phase
  | promoting _ phase =>
    rw [phase] at mem
    cases mem

theorem GateBooks.next_stale (books : GateBooks start steps sys)
    (taken : stepsOf ScopeSystem.next sys step after)
    (mem : gate ∈ after.store.gates) (isStale : gate.status = .stale) :
    Happened (stepsOf ScopeSystem.next) start (EvidenceDiffers gate) (steps ++ [step]) := by
  have marked : ∀ (call : Nat) {old : ScopedGate}, old ∈ sys.store.gates → SettledGate old gate →
        old.status = .stale ∨ old.id ∈ (sys.phase call).staleIds →
          Happened (stepsOf ScopeSystem.next) start (EvidenceDiffers gate) (steps ++ [step]) := by
    intro call old oldMem settled isMarked
    refine evidenceDiffers_of_settled settled ?_
    rcases isMarked with was | added
    · exact (books.stale old oldMem was).later step
    · exact ((books.marked call old.id added).2 old oldMem rfl).later step
  cases storeChange_of_step taken with
  | same gates _ _ =>
    rw [gates] at mem
    exact (books.stale gate mem isStale).later step
  | @evaluated call _ _ _ _ _ phase committed =>
    rw [committed] at mem
    rcases mem_commitGate.mp mem with ⟨old, oldMem, rfl⟩ | rfl
    · refine marked call oldMem (settledGate_replaced ..) ?_
      rw [phase]
      exact replacedGate_status.mp isStale
    · cases isStale
  | @reconciled call _ phase committed =>
    rw [committed] at mem
    obtain ⟨old, oldMem, rfl⟩ := mem_markStale.mp mem
    refine marked call oldMem (settledGate_marked ..) ?_
    rw [phase]
    exact markedGate_status.mp isStale
  | promoted _ _ committed =>
    rw [committed] at mem
    exact (books.stale gate mem isStale).later step

theorem SupersededInScope.settled {before later : ScopeStore}
    (settledGates : SettledGates before later)
    (inScope : SupersededInScope before.gates old)
    (settled : SettledGate old new) {replacementId : Uuid}
    (was : old.supersededByGateEvaluationId = some replacementId) :
    new.status = .stale ∧ ∃ row ∈ later.gates, row.id = replacementId ∧
      new.id < row.id ∧ row.scope = new.scope := by
  obtain ⟨isStale, row, rowMem, named, isLater, sameScope⟩ :=
    inScope replacementId was
  obtain ⟨newRow, newRowMem, rowSettled⟩ := settledGates.kept row rowMem
  refine ⟨settled.stale isStale, newRow, newRowMem, rowSettled.id.trans named, ?_, ?_⟩
  · rw [settled.id, rowSettled.id]
    exact isLater
  · rw [rowSettled.scope, settled.scope]
    exact sameScope

theorem GateBooks.next_superseded (books : GateBooks start steps sys) (keeps : KeepsBooks sys step)
    (taken : stepsOf ScopeSystem.next sys step after) (mem : gate ∈ after.store.gates) :
    SupersededInScope after.store.gates gate := by
  have settledGates := settledGates_of_step taken
  intro replacementId superseded
  cases storeChange_of_step taken with
  | same gates _ _ =>
    have oldMem := mem
    rw [gates] at oldMem
    exact (books.superseded gate oldMem).settled settledGates (SettledGate.refl gate) superseded
  | @evaluated _ _ _ _ stale isCommit phase committed =>
    rw [committed] at mem
    rcases mem_commitGate.mp mem with ⟨old, oldMem, rfl⟩ | rfl
    · rcases supersededGate_cases superseded with was | now
      · rw [markedGate_superseded] at was
        exact (books.superseded old oldMem).settled settledGates (settledGate_replaced ..) was
      · obtain ⟨rfl, sameKey, isStale, noneYet⟩ := now
        rw [isCommit, KeepsBooks, phase] at keeps
        have settled := settledGate_marked stale old
        have inScope := keeps old oldMem ((congrArg evidenceKey settled.scope).symm.trans sameKey)
          (markedGate_status.mp isStale) ((markedGate_superseded _ old).symm.trans noneYet)
        refine ⟨replacedGate_status.mpr (markedGate_status.mp isStale), _,
          committed ▸ mem_commitGate.mpr (Or.inr rfl), rfl, ?_, ?_⟩
        · rw [ScopeStore.replacedGate_id]
          exact sys.store.gatesDrawn old oldMem
        · rw [(settledGate_replaced ..).scope, inScope]
          rfl
    · cases superseded
  | reconciled _ committed =>
    rw [committed] at mem
    obtain ⟨old, oldMem, rfl⟩ := mem_markStale.mp mem
    rw [markedGate_superseded] at superseded
    exact (books.superseded old oldMem).settled settledGates (settledGate_marked ..) superseded
  | promoted _ _ committed =>
    have oldMem := mem
    rw [committed] at oldMem
    exact (books.superseded gate oldMem).settled settledGates (SettledGate.refl gate) superseded

theorem GateBooks.next (books : GateBooks start steps sys)
    (exec : Execution (stepsOf ScopeSystem.next) start steps sys) (keeps : KeepsBooks sys step)
    (taken : stepsOf ScopeSystem.next sys step after) :
    GateBooks start (steps ++ [step]) after where
  stale _ mem isStale := books.next_stale taken mem isStale
  held _ _ _ _ held := books.next_held exec taken held
  marked _ _ mem := books.next_marked keeps taken mem
  superseded _ mem := books.next_superseded keeps taken mem

end Gates

section Runs

variable {evidence : EvidenceKey → String} {steps rest : List ScopeStep}
  {middle finish : ScopeSystem}

theorem baselineBooks_of_execution
    (reached : Execution (Guarded KeepsBooks (stepsOf ScopeSystem.next))
      (.initial evidence) steps middle) : BaselineBooks middle :=
  reached.invariant BaselineBooks (BaselineBooks.initial evidence)
    (fun _ _ _ books taken => books.next taken.1 taken.2)

theorem gateBooks_of_execution (reached : Execution (Guarded KeepsBooks (stepsOf ScopeSystem.next))
      (.initial evidence) steps middle) :
    GateBooks (.initial evidence) steps middle :=
  reached.invariant_of_past (GateBooks (.initial evidence)) (GateBooks.initial evidence)
    (fun _ _ _ _ exec books taken =>
      books.next exec.of_guarded taken.1 taken.2)

theorem settledGates_of_execution
    (goesOn : Execution (stepsOf ScopeSystem.next) middle rest finish) :
    ∀ gate ∈ middle.store.gates, ∃ new ∈ finish.store.gates, SettledGate gate new := by
  intro gate mem
  refine goesOn.invariant (fun sys => ∃ new ∈ sys.store.gates,
    SettledGate gate new) ⟨gate, mem, SettledGate.refl gate⟩ ?_
  rintro before step after ⟨new, newMem, settled⟩ taken
  obtain ⟨newer, newerMem, newerSettled⟩ :=
    (settledGates_of_step taken).kept new newMem
  exact ⟨newer, newerMem, settled.trans newerSettled⟩

/-- Where every step keeps the books, baselines are linear, gates become stale by later,
different evidence, and are superseded once, by a later gate of their scope. -/
theorem scopes_keepBooks (reached : Execution (Guarded KeepsBooks (stepsOf ScopeSystem.next))
      (.initial evidence) steps middle)
    (goesOn : Execution (Guarded KeepsBooks (stepsOf ScopeSystem.next)) middle rest finish) :
    ScopeBookkeeping (.initial evidence) steps middle ∧
      ∀ gate ∈ middle.store.gates, ∃ new ∈ finish.store.gates, SettledGate gate new := by
  have gates := gateBooks_of_execution reached
  refine ⟨⟨(baselineBooks_of_execution reached).linear, gates.stale, gates.superseded⟩, ?_⟩
  exact settledGates_of_execution goesOn.of_guarded

end Runs

/-- `KeepsBooks`, decided over the rows. -/
def keepsBooks (sys : ScopeSystem) : ScopeStep → Bool
  | .mark call => (sys.phase call).held.all (fun held =>
    decide (∀ gate ∈ sys.store.gates.rows,
      evidenceKey gate.scope = held.1 → gate.status = .completed →
        gate.evidenceRevisionHash ≠ held.2.1 → gate.id < held.2.2))
  | .commit call =>
    match sys.phase call with
    | .marked scope _ _ stale => decide (∀ gate ∈ sys.store.gates.rows,
        evidenceKey gate.scope = evidenceKey scope → gate.status = .stale ∨ gate.id ∈ stale →
            gate.supersededByGateEvaluationId = none → gate.scope = scope)
    | .promoting scope _ previous =>
      decide (∀ baseline ∈ sys.store.baselines.rows,
        baseline.scope = scope → baseline.status = .active → baseline.id ∈ previous)
    | _ => true
  | _ => true

theorem keepsBooks_sound (sys : ScopeSystem) (step : ScopeStep)
    (checked : keepsBooks sys step = true) : KeepsBooks sys step := by
  cases step with
  | mark call =>
    intro key hash seen held
    rw [keepsBooks, held, Option.all_some] at checked
    exact of_decide_eq_true checked
  | commit call =>
    rw [KeepsBooks]
    rw [keepsBooks] at checked
    split at checked
    · exact of_decide_eq_true checked
    · exact of_decide_eq_true checked
    · trivial
  | changeEvidence | evaluate | reconcile | collect | promote | abort =>
    trivial

def oneScope : ReleaseScope := ⟨1, 2, 3⟩

def promotedSteps : List ScopeStep :=
  [.evaluate 0 oneScope .approved, .mark 0, .commit 0, .promote 0 0, .commit 0]

def replacingSteps : List ScopeStep :=
  [.changeEvidence (evidenceKey oneScope) "new",
    .evaluate 0 oneScope .approved, .mark 0, .commit 0]

def afterSteps (steps : List ScopeStep) : Option ScopeSystem :=
  perform ScopeSystem.next (.initial (fun _ => "evidence")) steps

set_option maxRecDepth 8000 in
theorem scopes_keepBooks_replaced : ∃ middle finish : ScopeSystem,
      afterSteps promotedSteps = some middle ∧
        (ScopeBookkeeping (.initial (fun _ => "evidence")) promotedSteps
            middle ∧
          ∀ gate ∈ middle.store.gates, ∃ new ∈ finish.store.gates, SettledGate gate new) := by
  have performed : (afterSteps promotedSteps).any (fun middle =>
      (perform ScopeSystem.next middle replacingSteps).isSome &&
        checksAlong keepsBooks ScopeSystem.next middle replacingSteps) =
          true := by
    decide
  have checked : checksAlong keepsBooks ScopeSystem.next
      (.initial (fun _ => "evidence")) promotedSteps = true := by
    decide
  obtain ⟨middle, reached, goesOn⟩ := (Option.any_eq_true _ _).mp performed
  rw [Bool.and_eq_true] at goesOn
  obtain ⟨finish, finished⟩ := Option.isSome_iff_exists.mp goesOn.1
  refine ⟨middle, finish, reached, scopes_keepBooks (Execution.of_perform_guarded reached
      (MeetsGuard.of_checks keepsBooks keepsBooks_sound checked))
    (Execution.of_perform_guarded finished
      (MeetsGuard.of_checks keepsBooks keepsBooks_sound goesOn.2))⟩

set_option maxRecDepth 8000 in
/-- Two promotions read the active baselines before either commits: both of
their baselines stay active. -/
theorem promotions_bothActive : ¬ ∀ (steps : List ScopeStep) (finish : ScopeSystem),
      Execution (stepsOf ScopeSystem.next) (.initial (fun _ => "evidence"))
          steps finish →
        ScopeBookkeeping (.initial (fun _ => "evidence")) steps finish := by
  intro always
  let steps : List ScopeStep :=
    [.evaluate 0 oneScope .approved, .mark 0, .commit 0, .promote 1 0,
      .promote 2 0, .commit 1, .commit 2]
  have checked : (afterSteps steps).any (fun finish =>
      (finish.store.baselines.find? 1).any (fun left =>
        (finish.store.baselines.find? 2).any (fun right =>
          left.status = .active && right.status = .active &&
            left.scope = right.scope && left.id ≠ right.id))) = true := by
    decide
  obtain ⟨finish, reached, facts⟩ := (Option.any_eq_true _ _).mp checked
  obtain ⟨left, leftFound, leftFacts⟩ := (Option.any_eq_true _ _).mp facts
  obtain ⟨right, rightFound, held⟩ := (Option.any_eq_true _ _).mp leftFacts
  simp only [Bool.and_eq_true, decide_eq_true_eq] at held
  obtain ⟨⟨⟨leftActive, rightActive⟩, sameScope⟩, different⟩ := held
  have linear := (always steps finish (Execution.of_perform reached)).baselines
  have same := linear.one left (Table.find?_eq_some_iff.mp leftFound).1 right
    (Table.find?_eq_some_iff.mp rightFound).1 leftActive rightActive sameScope
  exact different (congrArg DeploymentBaseline.id same)

end ModelAtlas.Gate
