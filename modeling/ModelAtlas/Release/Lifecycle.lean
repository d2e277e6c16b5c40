import ModelAtlas.Release.Decisions

/-!
# The lifecycle of release decisions

Every step is read once, as a `Changed`; the invariants follow from it. The
times of actions are whole seconds, so a review that is requested in the second
of an acknowledgement is not seen.
-/

namespace ModelAtlas.Release

open Foundations Approval

variable {action : ReleaseDecisionAction} {identity : SignerIdentity}

section Actions

variable {actions added : List ReleaseDecisionAction}
  {actionType : ReleaseActionType}

theorem hasAction_iff : hasAction actions actionType = true ↔
      ∃ action ∈ actions, action.actionType = actionType := by
  simp [hasAction]

theorem hasAction_append : hasAction (actions ++ added) actionType =
      (hasAction actions actionType || hasAction added actionType) :=
  List.any_append

theorem latestAt_eq_of_mem {now : Time} (mem : action ∈ actions)
    (ofType : action.actionType = actionType) (atNow : action.occurredAt = now)
    (passed : ∀ other ∈ actions, other.occurredAt ≤ now) :
    latestAt actions actionType = some now := by
  rw [latestAt, List.max?_eq_some_iff]
  constructor
  · refine List.mem_map.mpr ⟨action, ?_, atNow⟩
    exact List.mem_filter.mpr ⟨mem, decide_eq_true ofType⟩
  · intro time timeMem
    obtain ⟨other, otherMem, rfl⟩ := List.mem_map.mp timeMem
    exact passed other (List.mem_filter.mp otherMem).1

theorem latestAt_eq_none_iff : latestAt actions actionType = none ↔
      ∀ action ∈ actions, action.actionType ≠ actionType := by
  simp [latestAt, List.filter_eq_nil_iff]

theorem exists_of_latestAt {time : Time} (latest : latestAt actions actionType = some time) :
    ∃ action ∈ actions, action.actionType = actionType ∧ action.occurredAt = time := by
  rw [latestAt, List.max?_eq_some_iff] at latest
  obtain ⟨action, mem, atTime⟩ := List.mem_map.mp latest.1
  have kept := List.mem_filter.mp mem
  exact ⟨action, kept.1, of_decide_eq_true kept.2, atTime⟩

theorem le_of_latestAt {time : Time} (latest : latestAt actions actionType = some time)
    (mem : action ∈ actions) (ofType : action.actionType = actionType) :
    action.occurredAt ≤ time := by
  rw [latestAt, List.max?_eq_some_iff] at latest
  refine latest.2 _ (List.mem_map.mpr ⟨action, ?_, rfl⟩)
  exact List.mem_filter.mpr ⟨mem, decide_eq_true ofType⟩

def ReviewPending (actions : List ReleaseDecisionAction) : Prop :=
  ∃ earlier req later, actions = earlier ++ req :: later ∧
      req.actionType = .reviewRequested ∧ ∀ action ∈ later, action.actionType ≠ .acknowledged

/-- A request that no acknowledgement follows was made at a later second than
every acknowledgement. -/
def RequestsLater (actions : List ReleaseDecisionAction) : Prop :=
  ∀ earlier req later, actions = earlier ++ req :: later → req.actionType = .reviewRequested →
        (∀ action ∈ later, action.actionType ≠ .acknowledged) →
          ∀ action ∈ earlier, action.actionType = .acknowledged → action.occurredAt < req.occurredAt

theorem unresolved_of_pending (later : RequestsLater actions) (pending : ReviewPending actions) :
    unresolvedReviewRequest actions = true := by
  obtain ⟨before, req, after, split, isRequest, unanswered⟩ := pending
  have requestMem : req ∈ actions := by
    rw [split]
    exact List.mem_append_right before List.mem_cons_self
  rw [unresolvedReviewRequest]
  cases requested : latestAt actions .reviewRequested with
  | none =>
    exact absurd isRequest (latestAt_eq_none_iff.mp requested req requestMem)
  | some requestedAt =>
    cases acknowledged : latestAt actions .acknowledged with
    | none =>
      rfl
    | some acknowledgedAt =>
      obtain ⟨answer, answerMem, isAnswer, atTime⟩ :=
        exists_of_latestAt acknowledged
      have answerEarlier : answer ∈ before := by
        rw [split, List.mem_append, List.mem_cons] at answerMem
        rcases answerMem with early | same | late
        · exact early
        · rw [same, isRequest] at isAnswer
          cases isAnswer
        · exact absurd isAnswer (unanswered answer late)
      have earlier := later before req after split isRequest unanswered
        answer answerEarlier isAnswer
      have atMost := le_of_latestAt requested requestMem isRequest
      rw [atTime] at earlier
      exact decide_eq_true (lt_of_lt_of_le earlier atMost)

theorem RequestsLater.append (later : RequestsLater actions)
    (after : action.actionType = .reviewRequested → ∀ answer ∈ actions,
      answer.actionType = .acknowledged → answer.occurredAt < action.occurredAt) :
    RequestsLater (actions ++ [action]) := by
  intro before req rest split isRequest unanswered answer mem isAnswer
  rcases List.eq_nil_or_concat rest with rfl | ⟨start, last, rfl⟩
  · have parts := List.append_inj' split rfl
    have same : action = req := by simpa using parts.2
    rw [← same] at isRequest ⊢
    refine after isRequest answer ?_ isAnswer
    rw [parts.1]
    exact mem
  · rw [List.concat_eq_append, ← List.cons_append, ← List.append_assoc] at split
    have parts := List.append_inj' split rfl
    refine later before req start parts.1 isRequest ?_ answer mem isAnswer
    intro between betweenMem
    refine unanswered between ?_
    rw [List.concat_eq_append]
    exact List.mem_append_left _ betweenMem

theorem RequestsLater.append_other (later : RequestsLater actions)
    (other : action.actionType ≠ .reviewRequested) : RequestsLater (actions ++ [action]) :=
  later.append fun isRequest => absurd isRequest other

theorem RequestsLater.append_others (later : RequestsLater actions)
    (others : ∀ action ∈ added, action.actionType ≠ .reviewRequested) :
    RequestsLater (actions ++ added) := by
  induction added generalizing actions with
  | nil =>
    rw [List.append_nil]
    exact later
  | cons action rest ih =>
    rw [List.append_cons]
    refine ih (later.append_other (others action List.mem_cons_self)) ?_
    exact fun other mem =>
      others other (List.mem_cons_of_mem action mem)

end Actions

theorem actionsOf_appendActions (store : ReleaseStore)
    (added : List ReleaseDecisionAction) (decisionId : Uuid) :
    (store.appendActions added).actionsOf decisionId = store.actionsOf decisionId ++
        added.filter (fun action => action.releaseDecisionId = decisionId) :=
  List.filter_append ..

section Status

variable {store : ReleaseStore} {decision : ReleaseDecision}

theorem status_eq_replaced_iff : operationalStatus store decision = .replaced ↔
      hasAction (store.actionsOf decision.id) .replaced = true := by
  rw [operationalStatus]
  constructor
  · intro isReplaced
    by_contra absent
    rw [if_neg absent] at isReplaced
    split at isReplaced
    · cases isReplaced
    · split at isReplaced
      · cases isReplaced
      · split at isReplaced
        · cases isReplaced
        · cases isReplaced
  · intro present
    rw [if_pos present]

theorem status_ne_active_of_revoked
    (revoked : hasAction (store.actionsOf decision.id) .revoked = true) :
    operationalStatus store decision ≠ .active := by
  rw [operationalStatus]
  by_cases present : hasAction (store.actionsOf decision.id) .replaced = true
  · rw [if_pos present]
    intro active
    cases active
  · rw [if_neg present, if_pos revoked]
    intro active
    cases active

theorem status_of_review (review : (decision.decision = .approveRelease ∧
        staleWarning store decision = true) ∨
      unresolvedReviewRequest (store.actionsOf decision.id) = true) :
    operationalStatus store decision = .needsReview ∨ operationalStatus store decision = .replaced ∨
        operationalStatus store decision = .revoked := by
  rw [operationalStatus]
  by_cases present : hasAction (store.actionsOf decision.id) .replaced = true
  · exact Or.inr (Or.inl (if_pos present))
  · rw [if_neg present]
    by_cases revoked : hasAction (store.actionsOf decision.id) .revoked = true
    · exact Or.inr (Or.inr (if_pos revoked))
    · exact Or.inl ((if_neg revoked).trans (if_pos review))

theorem staleWarning_of_gate {gate : GateEvaluation} (mem : gate ∈ store.gates)
    (named : gate.id = decision.gateEvaluationId) (isStale : gate.status = .stale) :
    staleWarning store decision = true := by
  have found : store.gate? decision.gateEvaluationId = some gate :=
    Table.find?_eq_some_iff.mpr ⟨mem, named⟩
  rw [staleWarning, found]
  simp [isStale]

end Status

/-! ## What a step changes -/

def KeepsGates (before after : ReleaseStore) : Prop :=
  ∀ gate ∈ before.gates, ∃ kept ∈ after.gates,
    kept.id = gate.id ∧ (gate.status = .stale → kept.status = .stale)

structure Replaces (before : ReleaseStore) (signed : ReleaseDecision)
    (replaced : ReleaseDecision) : Prop where
  mem : replaced ∈ before.decisions
  named : signed.replacesReleaseDecisionId = some replaced.id
  otherGate : replaced.gateEvaluationId ≠ signed.gateEvaluationId
  sameScope : replaced.scope = signed.scope
  notReplaced : operationalStatus before replaced ≠ .replaced

inductive Changed (before : ReleaseStore) (now : Time)
    (after : ReleaseStore) : Prop
  | recorded (decisions : after.decisions = before.decisions)
      (actions : after.actions = before.actions)
      (gates : KeepsGates before after)
  | signed (decision : ReleaseDecision)
      (new : ∀ other ∈ before.decisions, other.id ≠ decision.id)
      (members : ∀ other, other ∈ after.decisions ↔
        other ∈ before.decisions ∨ other = decision)
      (unreplaced : decision.replacesReleaseDecisionId = none)
      (actions : after.actions = before.actions)
      (gates : KeepsGates before after)
  | replacing (decision replaced : ReleaseDecision)
      (action : ReleaseDecisionAction)
      (new : ∀ other ∈ before.decisions, other.id ≠ decision.id)
      (members : ∀ other, other ∈ after.decisions ↔
        other ∈ before.decisions ∨ other = decision)
      (replaces : Replaces before decision replaced)
      (actions : after.actions = before.actions ++ [action])
      (named : action.releaseDecisionId = replaced.id)
      (isReplaced : action.actionType = .replaced)
      (atNow : action.occurredAt = now)
      (gates : KeepsGates before after)
  | acted (decision : ReleaseDecision) (action : ReleaseDecisionAction)
      (mem : decision ∈ before.decisions)
      (decisions : after.decisions = before.decisions)
      (actions : after.actions = before.actions ++ [action])
      (named : action.releaseDecisionId = decision.id)
      (atNow : action.occurredAt = now)
      (gates : KeepsGates before after)
  | reconciled (added : List ReleaseDecisionAction)
      (decisions : after.decisions = before.decisions)
      (actions : after.actions = before.actions ++ added)
      (named : ∀ action ∈ added, ∃ decision ∈ before.decisions,
        decision.id = action.releaseDecisionId)
      (atNow : ∀ action ∈ added, action.occurredAt = now)
      (gates : KeepsGates before after)

theorem KeepsGates.refl (store : ReleaseStore) : KeepsGates store store :=
  fun gate mem => ⟨gate, mem, rfl, id⟩

section Steps

variable {text : TextEnvironment} {store after : ReleaseStore}

theorem changed_of_signReleaseDecision {payload : ReleaseDecisionCreate} {gate : GateEvaluation}
    {now : Time} (replaced : ∀ replacedId, payload.replacesReleaseDecisionId =
      some replacedId → ∃ old ∈ store.decisions, old.id = replacedId ∧
        old.gateEvaluationId ≠ gate.id ∧ old.scope = gate.scope ∧
          operationalStatus store old ≠ .replaced)
    (accepted : signReleaseDecision text store payload gate identity now = .ok after) :
    Changed store now after := by
  rw [signReleaseDecision] at accepted
  split at accepted
  · cases accepted
  split at accepted
  · cases accepted
  have new : ∀ other ∈ store.decisions, other.id ≠ (signedDecision store payload gate now).id :=
    fun other mem => Nat.ne_of_lt (store.decisionsDrawn other mem)
  have members : ∀ other, other ∈ (store.insertDecision
      (signedDecision store payload gate now) rfl).decisions ↔ other ∈ store.decisions ∨
          other = signedDecision store payload gate now :=
    fun other => ReleaseStore.mem_insertDecision
  cases chosen : payload.replacesReleaseDecisionId with
  | none =>
    rw [chosen] at accepted
    have same := Except.ok.inj accepted
    subst same
    exact .signed (signedDecision store payload gate now) new
      members chosen rfl (KeepsGates.refl store)
  | some replacedId =>
    rw [chosen] at accepted
    simp only at accepted
    split at accepted
    · cases accepted
    have same := Except.ok.inj accepted
    subst same
    obtain ⟨old, mem, named, otherGate, sameScope, notReplaced⟩ :=
      replaced replacedId chosen
    subst named
    exact .replacing (signedDecision store payload gate now) old
      (replacedAction payload (signedDecision store payload gate now) identity old.id) new members
      ⟨mem, chosen, otherGate, sameScope, notReplaced⟩ rfl rfl rfl rfl
      (KeepsGates.refl store)

theorem changed_of_createReleaseDecision {payload : ReleaseDecisionCreate} {now : Time}
    (accepted : createReleaseDecision text store payload identity now = .ok after) :
    Changed store now after := by
  rw [createReleaseDecision] at accepted
  split at accepted
  · cases accepted
  next gate found =>
  split at accepted
  next unreplaced =>
    refine changed_of_signReleaseDecision ?_ accepted
    intro replacedId chosen
    rw [unreplaced] at chosen
    cases chosen
  next replacementId chosen =>
    split at accepted
    · cases accepted
    next old valid =>
    refine changed_of_signReleaseDecision ?_ accepted
    intro replacedId alsoChosen
    rw [chosen] at alsoChosen
    obtain rfl := Option.some.inj alsoChosen
    rw [validatedReplacedDecision] at valid
    split at valid
    · cases valid
    next stored lookup =>
    have row := Table.find?_eq_some_iff.mp lookup
    split at valid
    · cases valid
    next otherGate =>
    split at valid
    · cases valid
    next sameScope =>
    split at valid
    · cases valid
    next notReplaced =>
    exact ⟨stored, row.1, row.2, otherGate, not_not.mp sameScope, notReplaced⟩

theorem changed_of_createReleaseDecisionAction {decisionId : Uuid}
    {requested : RequestedAction} {reason : String} {now : Time}
    (accepted : createReleaseDecisionAction text store decisionId requested
      reason identity now = .ok after) :
    ∃ decision ∈ store.decisions, decision.id = decisionId ∧ after = store.drawn.appendActions
        [manualAction store decision requested reason identity now] := by
  rw [createReleaseDecisionAction] at accepted
  split at accepted
  · cases accepted
  next decision found =>
  split at accepted
  · cases accepted
  have row := Table.find?_eq_some_iff.mp found
  exact ⟨decision, row.1, row.2, (Except.ok.inj accepted).symm⟩

theorem keepsGates_markStale (due : GateEvaluation → Bool) :
    KeepsGates store (store.markStale due) := by
  intro gate mem
  refine ⟨if due gate then { gate with status := .stale } else gate,
    ReleaseStore.mem_markStale.mpr ⟨gate, mem, rfl⟩, ?_⟩
  by_cases isDue : due gate = true
  · rw [if_pos isDue]
    exact ⟨rfl, fun _ => rfl⟩
  · rw [if_neg isDue]
    exact ⟨rfl, id⟩

theorem changed_of_markScopeGatesStale (configurationId suiteId : Uuid)
    (currentHash reason : String) (now : Time) :
    Changed store now (markScopeGatesStale store configurationId suiteId
      currentHash reason now) := by
  refine .reconciled _ rfl rfl ?_ ?_ (keepsGates_markStale _)
  · intro action mem
    obtain ⟨gate, _, recorded⟩ := List.mem_flatMap.mp mem
    obtain ⟨decision, due, rfl⟩ := List.mem_map.mp recorded
    have approval := (List.mem_filter.mp due).1
    exact ⟨decision, (List.mem_filter.mp approval).1, rfl⟩
  · intro action mem
    obtain ⟨gate, _, recorded⟩ := List.mem_flatMap.mp mem
    obtain ⟨decision, _, rfl⟩ := List.mem_map.mp recorded
    rfl

theorem changed_of_apply {call : ReleaseCall} (accepted : store.apply text call = .ok after) :
    Changed store call.now after := by
  rw [ReleaseStore.apply] at accepted
  split at accepted
  · have same := Except.ok.inj accepted
    subst same
    exact .recorded rfl rfl (fun gate mem =>
      ⟨gate, ReleaseStore.mem_insertGate.mpr (Or.inl mem), rfl, id⟩)
  · exact changed_of_createReleaseDecision accepted
  · obtain ⟨decision, mem, _, rfl⟩ :=
      changed_of_createReleaseDecisionAction accepted
    exact .acted decision _ mem rfl rfl rfl rfl (KeepsGates.refl store)
  · have same := Except.ok.inj accepted
    subst same
    exact changed_of_markScopeGatesStale ..

theorem of_next {sys later : ReleaseSystem} {call : ReleaseCall}
    (taken : sys.next text call = some later) :
    sys.clock ≤ call.now ∧ later.clock = call.now ∧
      sys.store.apply text call = .ok later.store := by
  rw [ReleaseSystem.next] at taken
  split at taken
  · cases taken
  next notBack =>
  split at taken
  · cases taken
  next store accepted =>
  have same := Option.some.inj taken
  subst same
  exact ⟨not_lt.mp notBack, rfl, accepted⟩

end Steps

structure Recorded (sys : ReleaseSystem) : Prop where
  passed : ∀ action ∈ sys.store.actions, action.occurredAt ≤ sys.clock
  named : ∀ action ∈ sys.store.actions, ∃ decision ∈ sys.store.decisions,
    decision.id = action.releaseDecisionId
  replacement : ∀ decision ∈ sys.store.decisions, ∀ replacedId,
    decision.replacesReleaseDecisionId = some replacedId →
      (∃ replaced ∈ sys.store.decisions, replaced.id = replacedId ∧
        replaced.gateEvaluationId ≠ decision.gateEvaluationId ∧
          replaced.scope = decision.scope) ∧
        hasAction (sys.store.actionsOf replacedId) .replaced = true
  oneReplacement : ∀ left ∈ sys.store.decisions,
    ∀ right ∈ sys.store.decisions, ∀ replacedId,
      left.replacesReleaseDecisionId = some replacedId →
        right.replacesReleaseDecisionId = some replacedId → left = right

section Growth

variable {before after : ReleaseStore} {now : Time}

theorem Changed.keeps (changed : Changed before now after) :
    ∀ decision ∈ before.decisions, decision ∈ after.decisions := by
  intro decision mem
  cases changed with
  | recorded decisions _ _ =>
    rw [decisions]
    exact mem
  | signed _ _ members _ _ _ =>
    exact (members decision).mpr (Or.inl mem)
  | replacing _ _ _ _ members _ _ _ _ _ _ =>
    exact (members decision).mpr (Or.inl mem)
  | acted _ _ _ decisions _ _ _ _ =>
    rw [decisions]
    exact mem
  | reconciled _ decisions _ _ _ _ =>
    rw [decisions]
    exact mem

theorem Changed.appends (changed : Changed before now after) :
    ∃ added, after.actions = before.actions ++ added ∧ ∀ action ∈ added, action.occurredAt = now ∧
        ∃ decision ∈ before.decisions, decision.id = action.releaseDecisionId := by
  cases changed with
  | recorded _ actions _ =>
    exact ⟨[], by rw [actions, List.append_nil], by simp⟩
  | signed _ _ _ _ actions _ =>
    exact ⟨[], by rw [actions, List.append_nil], by simp⟩
  | replacing _ replaced action _ _ replaces actions named _ atNow _ =>
    refine ⟨[action], actions, fun other mem => ?_⟩
    rw [List.mem_singleton.mp mem]
    exact ⟨atNow, replaced, replaces.mem, named.symm⟩
  | acted decision action mem _ actions named atNow _ =>
    refine ⟨[action], actions, fun other otherMem => ?_⟩
    rw [List.mem_singleton.mp otherMem]
    exact ⟨atNow, decision, mem, named.symm⟩
  | reconciled added _ actions named atNow _ =>
    exact ⟨added, actions, fun action mem =>
      ⟨atNow action mem, named action mem⟩⟩

theorem Changed.gates (changed : Changed before now after) : KeepsGates before after := by
  cases changed with
  | recorded _ _ gates => exact gates
  | signed _ _ _ _ _ gates => exact gates
  | replacing _ _ _ _ _ _ _ _ _ _ gates => exact gates
  | acted _ _ _ _ _ _ _ gates => exact gates
  | reconciled _ _ _ _ _ gates => exact gates

theorem Changed.hasAction_mono (changed : Changed before now after)
    {decisionId : Uuid} {actionType : ReleaseActionType}
    (present : hasAction (before.actionsOf decisionId) actionType = true) :
    hasAction (after.actionsOf decisionId) actionType = true := by
  obtain ⟨added, actions, _⟩ := changed.appends
  rw [ReleaseStore.actionsOf, actions, List.filter_append, hasAction_append]
  rw [ReleaseStore.actionsOf] at present
  rw [present, Bool.true_or]

theorem Changed.staleWarning_mono (changed : Changed before now after) {decision : ReleaseDecision}
    (warned : staleWarning before decision = true) :
    staleWarning after decision = true := by
  rw [staleWarning, Bool.or_eq_true] at warned
  rcases warned with staleGate | detected
  · cases found : before.gate? decision.gateEvaluationId with
    | none =>
      rw [found] at staleGate
      cases staleGate
    | some gate =>
      rw [found] at staleGate
      have row := Table.find?_eq_some_iff.mp found
      have isStale : gate.status = .stale := by simpa using staleGate
      obtain ⟨kept, keptMem, same, stays⟩ := changed.gates gate row.1
      have named : kept.id = decision.gateEvaluationId :=
        same.trans row.2
      exact staleWarning_of_gate keptMem named (stays isStale)
  · rw [staleWarning, changed.hasAction_mono detected, Bool.or_true]

theorem Changed.origin (changed : Changed before now after)
    {decision : ReleaseDecision} (mem : decision ∈ after.decisions) :
    decision ∈ before.decisions ∨
      ∀ replacedId, decision.replacesReleaseDecisionId = some replacedId →
        (∃ replaced, Replaces before decision replaced ∧ replaced.id = replacedId) ∧
            hasAction (after.actionsOf replacedId) .replaced = true := by
  cases changed with
  | recorded decisions _ _ =>
    rw [decisions] at mem
    exact Or.inl mem
  | signed new _ members unreplaced _ _ =>
    rcases (members decision).mp mem with old | rfl
    · exact Or.inl old
    · refine Or.inr (fun replacedId chosen => ?_)
      rw [unreplaced] at chosen
      cases chosen
  | replacing new replaced action _ members replaces actions named isReplaced
      _ _ =>
      rcases (members decision).mp mem with old | rfl
      · exact Or.inl old
      · refine Or.inr (fun replacedId chosen => ?_)
        have same : replaced.id = replacedId :=
          Option.some.inj (replaces.named.symm.trans chosen)
        subst same
        refine ⟨⟨replaced, replaces, rfl⟩, ?_⟩
        refine hasAction_iff.mpr ⟨action, ?_, isReplaced⟩
        rw [ReleaseStore.actionsOf, actions, List.filter_append]
        refine List.mem_append_right _ (List.mem_filter.mpr ⟨?_, ?_⟩)
        · exact List.mem_singleton_self action
        · exact decide_eq_true named
  | acted _ _ _ decisions _ _ _ _ =>
    rw [decisions] at mem
    exact Or.inl mem
  | reconciled _ decisions _ _ _ _ =>
    rw [decisions] at mem
    exact Or.inl mem

theorem Changed.oneNew (changed : Changed before now after) {left right : ReleaseDecision}
    (leftMem : left ∈ after.decisions) (leftNew : left ∉ before.decisions)
    (rightMem : right ∈ after.decisions) (rightNew : right ∉ before.decisions) : left = right := by
  cases changed with
  | recorded decisions _ _ =>
    rw [decisions] at leftMem
    exact absurd leftMem leftNew
  | signed new _ members _ _ _ =>
    have leftIs := ((members left).mp leftMem).resolve_left leftNew
    have rightIs := ((members right).mp rightMem).resolve_left rightNew
    rw [leftIs, rightIs]
  | replacing new _ _ _ members _ _ _ _ _ _ =>
    have leftIs := ((members left).mp leftMem).resolve_left leftNew
    have rightIs := ((members right).mp rightMem).resolve_left rightNew
    rw [leftIs, rightIs]
  | acted _ _ _ decisions _ _ _ _ =>
    rw [decisions] at leftMem
    exact absurd leftMem leftNew
  | reconciled _ decisions _ _ _ _ =>
    rw [decisions] at leftMem
    exact absurd leftMem leftNew

end Growth

section Preserved

variable {text : TextEnvironment} {sys later : ReleaseSystem}
  {call : ReleaseCall}

theorem not_new_of_recorded (recorded : Recorded sys)
    {old new : ReleaseDecision} (oldMem : old ∈ sys.store.decisions)
    {replacedId : Uuid}
    (oldReplaces : old.replacesReleaseDecisionId = some replacedId)
    {replaced : ReleaseDecision}
    (replaces : Replaces sys.store new replaced) :
    replaced.id ≠ replacedId := by
  rintro rfl
  have present := (recorded.replacement old oldMem _ oldReplaces).2
  exact replaces.notReplaced (status_eq_replaced_iff.mpr present)

theorem Recorded.step (recorded : Recorded sys)
    (taken : sys.next text call = some later) : Recorded later := by
  obtain ⟨notBack, atNow, accepted⟩ := of_next taken
  have changed := changed_of_apply accepted
  obtain ⟨added, actions, fresh⟩ := changed.appends
  refine ⟨?_, ?_, ?_, ?_⟩
  · intro action mem
    rw [actions, List.mem_append] at mem
    rw [atNow]
    rcases mem with old | new
    · exact le_trans (recorded.passed action old) notBack
    · exact le_of_eq (fresh action new).1
  · intro action mem
    rw [actions, List.mem_append] at mem
    rcases mem with old | new
    · obtain ⟨decision, decisionMember, same⟩ := recorded.named action old
      exact ⟨decision, changed.keeps decision decisionMember, same⟩
    · obtain ⟨decision, decisionMember, same⟩ := (fresh action new).2
      exact ⟨decision, changed.keeps decision decisionMember, same⟩
  · intro decision mem replacedId chosen
    rcases changed.origin mem with old | new
    · obtain ⟨⟨replaced, replacedMem, facts⟩, present⟩ :=
        recorded.replacement decision old replacedId chosen
      exact ⟨⟨replaced, changed.keeps replaced replacedMem, facts⟩, changed.hasAction_mono present⟩
    · obtain ⟨⟨replaced, replaces, same⟩, present⟩ := new replacedId chosen
      exact ⟨⟨replaced, changed.keeps replaced replaces.mem, same,
        replaces.otherGate, replaces.sameScope⟩, present⟩
  · intro left leftMem right rightMem replacedId leftChosen rightChosen
    by_cases leftOld : left ∈ sys.store.decisions
    · by_cases rightOld : right ∈ sys.store.decisions
      · exact recorded.oneReplacement left leftOld right rightOld replacedId leftChosen rightChosen
      · obtain ⟨⟨replaced, replaces, same⟩, _⟩ :=
          ((changed.origin rightMem).resolve_left rightOld) replacedId rightChosen
        exact absurd same (not_new_of_recorded recorded leftOld leftChosen replaces)
    · by_cases rightOld : right ∈ sys.store.decisions
      · obtain ⟨⟨replaced, replaces, same⟩, _⟩ :=
          ((changed.origin leftMem).resolve_left leftOld) replacedId leftChosen
        exact absurd same (not_new_of_recorded recorded rightOld rightChosen replaces)
      · exact changed.oneNew leftMem leftOld rightMem rightOld

end Preserved

/-- The decision is past its reviews: it is revoked, or it is an approval on
stale evidence. -/
def ReviewSettled (store : ReleaseStore) (decision : ReleaseDecision) : Prop :=
  hasAction (store.actionsOf decision.id) .revoked = true ∨
    (decision.decision = .approveRelease ∧ staleWarning store decision = true)

/-- No review of a decision falls into the second of its last acknowledgement, unless the
decision is past its reviews. -/
def ReviewsAfterAcknowledgement (sys : ReleaseSystem) (call : ReleaseCall) : Prop :=
  match call.operation with
  | .createAction decisionId .reviewRequested _ _ =>
    ∀ decision ∈ sys.store.decisions, decision.id = decisionId →
      latestAt (sys.store.actionsOf decisionId) .acknowledged = some call.now →
        ReviewSettled sys.store decision
  | _ => True

def SeesReviews (store : ReleaseStore) : Prop :=
  ∀ decision ∈ store.decisions, ReviewSettled store decision ∨
      RequestsLater (store.actionsOf decision.id)

section Reviews

variable {text : TextEnvironment} {sys later : ReleaseSystem}
  {call : ReleaseCall}

theorem Changed.settled_mono {before after : ReleaseStore} {now : Time}
    (changed : Changed before now after) {decision : ReleaseDecision}
    (settled : ReviewSettled before decision) :
    ReviewSettled after decision :=
  settled.imp changed.hasAction_mono (fun stale => ⟨stale.1, changed.staleWarning_mono stale.2⟩)

theorem requestsLater_nil : RequestsLater [] := by
  intro earlier req later split
  have longer := congrArg List.length split
  simp at longer

theorem seesReviews_manualAction (recorded : Recorded sys) (notBack : sys.clock ≤ call.now)
    (guarded : ReviewsAfterAcknowledgement sys call) {decision : ReleaseDecision}
    {requested : RequestedAction} {reason : String} (mem : decision ∈ sys.store.decisions)
    (op : call.operation = .createAction decision.id requested reason identity)
    (ordered : RequestsLater (sys.store.actionsOf decision.id)) :
    ReviewSettled sys.store decision ∨ RequestsLater (sys.store.actionsOf decision.id ++
        [manualAction sys.store decision requested reason identity call.now]) := by
  cases requested with
  | acknowledged =>
    exact Or.inr (ordered.append_other
      (show ReleaseActionType.acknowledged ≠ .reviewRequested by decide))
  | revoked =>
    exact Or.inr (ordered.append_other
      (show ReleaseActionType.revoked ≠ .reviewRequested by decide))
  | reviewRequested =>
    rw [ReviewsAfterAcknowledgement, op] at guarded
    by_cases sameSecond : latestAt (sys.store.actionsOf decision.id) .acknowledged = some call.now
    · exact Or.inl (guarded decision mem rfl sameSecond)
    · refine Or.inr (ordered.append fun _ => ?_)
      intro action actionMem isAnswer
      have stored : action ∈ sys.store.actions :=
        (List.mem_filter.mp actionMem).1
      have passed : ∀ other ∈ sys.store.actionsOf decision.id,
          other.occurredAt ≤ call.now := fun other otherMem =>
        le_trans (recorded.passed other (List.mem_filter.mp otherMem).1) notBack
      refine lt_of_le_of_ne (passed action actionMem) ?_
      intro atNow
      exact sameSecond (latestAt_eq_of_mem actionMem isAnswer atNow passed)

theorem appends_of_apply {store after : ReleaseStore}
    (accepted : store.apply text call = .ok after) :
    (∃ decision ∈ store.decisions, ∃ requested reason identity,
      call.operation = .createAction decision.id requested reason identity ∧
        after = store.drawn.appendActions [manualAction store decision
          requested reason identity call.now]) ∨
      ∃ added, after.actions = store.actions ++ added ∧
        ∀ action ∈ added, action.actionType ≠ .reviewRequested := by
  rw [ReleaseStore.apply] at accepted
  split at accepted
  · have same := Except.ok.inj accepted
    subst same
    exact Or.inr ⟨[], (List.append_nil _).symm, by simp⟩
  next payload identity op =>
    refine Or.inr ?_
    rw [createReleaseDecision] at accepted
    have unsigned : ∀ gate, signReleaseDecision text store payload gate
        identity call.now = .ok after → ∃ added, after.actions = store.actions ++ added ∧
            ∀ action ∈ added, action.actionType ≠ .reviewRequested := by
      intro gate signedOk
      rw [signReleaseDecision] at signedOk
      split at signedOk
      · cases signedOk
      split at signedOk
      · cases signedOk
      simp only at signedOk
      split at signedOk
      · have same := Except.ok.inj signedOk
        subst same
        exact ⟨[], (List.append_nil _).symm, by simp⟩
      split at signedOk
      · cases signedOk
      have same := Except.ok.inj signedOk
      subst same
      refine ⟨_, rfl, ?_⟩
      intro action mem
      rw [List.mem_singleton.mp mem]
      exact (show ReleaseActionType.replaced ≠ .reviewRequested by decide)
    split at accepted
    · cases accepted
    split at accepted
    · exact unsigned _ accepted
    split at accepted
    · cases accepted
    · exact unsigned _ accepted
  next decisionId requested reason identity op =>
    obtain ⟨decision, mem, named, same⟩ :=
      changed_of_createReleaseDecisionAction accepted
    rw [← named] at op
    exact Or.inl ⟨decision, mem, requested, reason, identity, op, same⟩
  · have same := Except.ok.inj accepted
    subst same
    refine Or.inr ⟨_, rfl, ?_⟩
    intro action mem
    obtain ⟨gate, _, recorded⟩ := List.mem_flatMap.mp mem
    obtain ⟨decision, _, rfl⟩ := List.mem_map.mp recorded
    exact (show ReleaseActionType.staleDetected ≠ .reviewRequested by decide)

theorem SeesReviews.step (sees : SeesReviews sys.store) (recorded : Recorded sys)
    (guarded : ReviewsAfterAcknowledgement sys call) (taken : sys.next text call = some later) :
    SeesReviews later.store := by
  obtain ⟨notBack, _, accepted⟩ := of_next taken
  have changed := changed_of_apply accepted
  have fresh : ∀ decision ∈ later.store.decisions, decision ∉ sys.store.decisions →
        later.store.actionsOf decision.id = [] := by
    intro decision mem isNew
    refine List.filter_eq_nil_iff.mpr (fun action actionMem => ?_)
    have unnamed : action.releaseDecisionId ≠ decision.id := by
      obtain ⟨added, actions, facts⟩ := changed.appends
      have old : ∃ other ∈ sys.store.decisions, other.id = action.releaseDecisionId := by
        rw [actions, List.mem_append] at actionMem
        rcases actionMem with before | new
        · exact recorded.named action before
        · exact (facts action new).2
      obtain ⟨other, otherMem, named⟩ := old
      intro same
      have equal : other = decision := Table.eq_of_key_eq
        (changed.keeps other otherMem) mem (named.trans same)
      rw [equal] at otherMem
      exact isNew otherMem
    simpa using unnamed
  intro decision mem
  by_cases old : decision ∈ sys.store.decisions
  · rcases sees decision old with settled | ordered
    · exact Or.inl (changed.settled_mono settled)
    · rcases appends_of_apply accepted with
        ⟨target, targetMem, requested, reason, identity, op, same⟩ | ⟨added, actions, others⟩
      · by_cases own : target.id = decision.id
        · have equal : target = decision :=
            Table.eq_of_key_eq targetMem old own
          subst equal
          have res := seesReviews_manualAction recorded notBack guarded targetMem op ordered
          refine res.imp changed.settled_mono (fun extended => ?_)
          rw [same, actionsOf_appendActions]
          have kept : [manualAction sys.store target requested reason
              identity call.now].filter (fun action =>
                action.releaseDecisionId = target.id) =
                [manualAction sys.store target requested reason identity call.now] := by
            simp [manualAction]
          rw [kept]
          exact extended
        · refine Or.inr ?_
          rw [same, actionsOf_appendActions]
          have dropped : [manualAction sys.store target requested reason
              identity call.now].filter (fun action =>
                action.releaseDecisionId = decision.id) = [] := by
            simp [manualAction, own]
          rw [dropped, List.append_nil]
          exact ordered
      · refine Or.inr ?_
        rw [ReleaseStore.actionsOf, actions, List.filter_append]
        refine ordered.append_others ?_
        intro action actionMem
        exact others action (List.mem_filter.mp actionMem).1
  · refine Or.inr ?_
    rw [fresh decision mem old]
    exact requestsLater_nil

end Reviews

structure Lifecycle (store : ReleaseStore) : Prop where
  replacement : ∀ decision ∈ store.decisions, ∀ replacedId,
    decision.replacesReleaseDecisionId = some replacedId →
      ∃ replaced ∈ store.decisions, replaced.id = replacedId ∧
        replaced.gateEvaluationId ≠ decision.gateEvaluationId ∧
          replaced.scope = decision.scope
  oneReplacement : ∀ left ∈ store.decisions, ∀ right ∈ store.decisions,
    ∀ replacedId, left.replacesReleaseDecisionId = some replacedId →
      right.replacesReleaseDecisionId = some replacedId → left = right
  revoked : ∀ decision ∈ store.decisions,
    hasAction (store.actionsOf decision.id) .revoked = true →
      operationalStatus store decision ≠ .active
  stale : ∀ decision ∈ store.decisions,
    decision.decision = .approveRelease → ∀ gate ∈ store.gates,
      gate.id = decision.gateEvaluationId → gate.status = .stale →
        operationalStatus store decision ≠ .active
  /-- A review that was requested after the last acknowledgement is due. -/
  review : ∀ decision ∈ store.decisions,
    ReviewPending (store.actionsOf decision.id) →
      operationalStatus store decision = .needsReview ∨
        operationalStatus store decision = .replaced ∨
          operationalStatus store decision = .revoked

theorem lifecycle_of_invariants {sys : ReleaseSystem}
    (recorded : Recorded sys) (sees : SeesReviews sys.store) :
    Lifecycle sys.store where
  replacement decision mem replacedId chosen :=
    (recorded.replacement decision mem replacedId chosen).1
  oneReplacement := recorded.oneReplacement
  revoked _ _ isRevoked := status_ne_active_of_revoked isRevoked
  stale decision mem approves gate gateMem named isStale := by
    have warned := staleWarning_of_gate gateMem named isStale
    rcases status_of_review (Or.inl ⟨approves, warned⟩) with
      review | replaced | revoked
    · rw [review]
      decide
    · rw [replaced]
      decide
    · rw [revoked]
      decide
  review decision mem pending := by
    rcases sees decision mem with (revoked | settled) | ordered
    · rw [operationalStatus]
      by_cases replaced : hasAction (sys.store.actionsOf decision.id) .replaced = true
      · exact Or.inr (Or.inl (if_pos replaced))
      · exact Or.inr (Or.inr ((if_neg replaced).trans (if_pos revoked)))
    · exact status_of_review (Or.inl settled)
    · exact status_of_review (Or.inr (unresolved_of_pending ordered pending))

section Runs

variable {text : TextEnvironment} {calls rest : List ReleaseCall}
  {start finish later : ReleaseSystem}

theorem execution_keeps (run : Execution (stepsOf (ReleaseSystem.next text)) start calls finish)
    {decision : ReleaseDecision}
    (mem : decision ∈ start.store.decisions)
    {actionType : ReleaseActionType}
    (present : hasAction (start.store.actionsOf decision.id) actionType = true) :
    decision ∈ finish.store.decisions ∧
      hasAction (finish.store.actionsOf decision.id) actionType = true :=
  run.invariant
    (fun sys => decision ∈ sys.store.decisions ∧
      hasAction (sys.store.actionsOf decision.id) actionType = true)
    ⟨mem, present⟩
    (fun _ _ _ held taken =>
      have changed := changed_of_apply (of_next taken).2.2
      ⟨changed.keeps decision held.1, changed.hasAction_mono held.2⟩)

/-- In every run in which no review falls into the second of the last acknowledgement every
state has the lifecycle; and in every run a decision stays replaced, and is not active once it
was revoked. -/
theorem releaseDecisions_lifecycle (clock : Time)
    (run : Execution (Guarded ReviewsAfterAcknowledgement
      (stepsOf (ReleaseSystem.next text))) ⟨.empty, clock⟩ calls finish) :
    Lifecycle finish.store ∧ ∀ rest later,
        Execution (stepsOf (ReleaseSystem.next text)) finish rest later →
          ∀ decision ∈ finish.store.decisions,
            (operationalStatus finish.store decision = .replaced →
              operationalStatus later.store decision = .replaced) ∧
            (hasAction (finish.store.actionsOf decision.id) .revoked = true →
              operationalStatus later.store decision ≠ .active) := by
  have invariants : Recorded finish ∧ SeesReviews finish.store := by
    refine run.invariant (fun sys => Recorded sys ∧ SeesReviews sys.store) ?_ ?_
    · refine ⟨⟨?_, ?_, ?_, ?_⟩, ?_⟩
      · exact fun action mem => absurd mem List.not_mem_nil
      · exact fun action mem => absurd mem List.not_mem_nil
      · exact fun decision mem =>
          absurd mem (Table.not_mem_empty decision)
      · exact fun left mem => absurd mem (Table.not_mem_empty left)
      · exact fun decision mem =>
          absurd mem (Table.not_mem_empty decision)
    · rintro before call after ⟨recorded, sees⟩ ⟨guarded, taken⟩
      exact ⟨recorded.step taken, sees.step recorded guarded taken⟩
  refine ⟨lifecycle_of_invariants invariants.1 invariants.2, ?_⟩
  intro rest later continued decision mem
  constructor
  · intro isReplaced
    have present := status_eq_replaced_iff.mp isReplaced
    exact status_eq_replaced_iff.mpr (execution_keeps continued mem present).2
  · intro isRevoked
    exact status_ne_active_of_revoked (execution_keeps continued mem isRevoked).2

end Runs

def asciiText : TextEnvironment where
  lower text := String.ofList (text.toList.map Char.toLower)
  render _ := ""

def releaseOperator : SignerIdentity where
  subjectId := "operator"
  displayName := "Operator"
  role := some "Admin"
  identityProvider := "provider"
  authSource := "oidc"
  identityVerified := true
  ticketReference := none

def approvalCall : ReleaseCall :=
  ⟨.createDecision ⟨0, .approveRelease, "ready", none, "READY"⟩
    releaseOperator, 20⟩

def gateCall : ReleaseCall := ⟨.recordGate ⟨1, 2, 3⟩ "evidence", 10⟩

def reviewCall (requested : RequestedAction) (now : Time) : ReleaseCall :=
  ⟨.createAction 1 requested "review" releaseOperator, now⟩

def afterCalls (calls : List ReleaseCall) : Option ReleaseSystem :=
  perform (ReleaseSystem.next asciiText) ⟨.empty, 0⟩ calls

theorem releaseDecisions_lifecycle_review : ∃ finish : ReleaseSystem,
      afterCalls [gateCall, approvalCall, reviewCall .reviewRequested 30] =
        some finish ∧ Lifecycle finish.store := by
  set_option maxRecDepth 4000 in
  have performed : (afterCalls [gateCall, approvalCall,
      reviewCall .reviewRequested 30]).isSome = true := by decide
  obtain ⟨finish, reached⟩ := Option.isSome_iff_exists.mp performed
  refine ⟨finish, reached, ?_⟩
  have unanswered : ∀ middle, afterCalls [gateCall, approvalCall] = some middle →
        latestAt (middle.store.actionsOf 1) .acknowledged = none := by
    intro middle stored
    have checked : (afterCalls [gateCall, approvalCall]).any (fun sys =>
        latestAt (sys.store.actionsOf 1) .acknowledged = none) = true := by
      decide
    rw [stored] at checked
    exact of_decide_eq_true checked
  have guarded : MeetsGuard ReviewsAfterAcknowledgement (ReleaseSystem.next asciiText) ⟨.empty, 0⟩
        [gateCall, approvalCall, reviewCall .reviewRequested 30] := by
    refine ⟨trivial, fun first firstTaken => ⟨trivial,
      fun second secondTaken => ⟨?_, fun _ _ => trivial⟩⟩⟩
    intro decision _ _ latest
    have stored : afterCalls [gateCall, approvalCall] = some second := by
      rw [afterCalls, perform, firstTaken, Option.bind_some, perform, secondTaken]
      rfl
    have none := unanswered second stored
    rw [none] at latest
    cases latest
  exact (releaseDecisions_lifecycle 0 (Execution.of_perform_guarded reached guarded)).1

/-- Within one second a review is requested, acknowledged and requested again:
the approval is active. -/
theorem releaseDecisions_lose_review : ¬ ∀ (calls : List ReleaseCall) (finish : ReleaseSystem),
      Execution (stepsOf (ReleaseSystem.next asciiText)) ⟨.empty, 0⟩ calls finish →
        Lifecycle finish.store := by
  intro always
  let calls := [gateCall, approvalCall, reviewCall .reviewRequested 30,
    reviewCall .acknowledged 30, reviewCall .reviewRequested 30]
  set_option maxRecDepth 4000 in
  have checked : (afterCalls calls).any (fun finish =>
      (finish.store.decision? 1).any (fun decision =>
        decision.id = 1 && operationalStatus finish.store decision = .active &&
          (finish.store.actionsOf 1).map ReleaseDecisionAction.actionType =
            [.reviewRequested, .acknowledged, .reviewRequested])) = true := by
    decide
  obtain ⟨finish, reached, facts⟩ := (Option.any_eq_true _ _).mp checked
  obtain ⟨decision, found, held⟩ := (Option.any_eq_true _ _).mp facts
  simp only [Bool.and_eq_true, decide_eq_true_eq] at held
  obtain ⟨⟨named, active⟩, types⟩ := held
  have mem := (Table.find?_eq_some_iff.mp found).1
  have pending : ReviewPending (finish.store.actionsOf decision.id) := by
    rw [named]
    obtain ⟨first, rest, firstSplit, _, restTypes⟩ :=
      List.map_eq_cons_iff.mp types
    obtain ⟨second, others, secondSplit, _, otherTypes⟩ :=
      List.map_eq_cons_iff.mp restTypes
    obtain ⟨third, last, thirdSplit, isRequest, lastTypes⟩ :=
      List.map_eq_cons_iff.mp otherTypes
    refine ⟨[first, second], third, last, ?_, isRequest, ?_⟩
    · rw [firstSplit, secondSplit, thirdSplit]
      rfl
    · rw [List.map_eq_nil_iff.mp lastTypes]
      exact fun action actionMem => absurd actionMem List.not_mem_nil
  have lifecycle := always calls finish (Execution.of_perform reached)
  rcases lifecycle.review decision mem pending with
    review | replaced | revoked
  · rw [active] at review
    cases review
  · rw [active] at replaced
    cases replaced
  · rw [active] at revoked
    cases revoked

end ModelAtlas.Release
