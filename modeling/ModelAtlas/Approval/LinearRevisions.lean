import ModelAtlas.Approval.RevisionTransitions
import ModelAtlas.Evidence.Validation.EvidenceSelection

/-!
# Linear revisions

Resumes and denials overlap, and the revisions of a result are still one line,
whose last one records the decisions of the others.
-/

namespace ModelAtlas.Approval

open Foundations Agent

variable {trace : Json} {checkpointId : String}

structure SystemInvariant (env : ControlEnvironment)
    (contextOf : Uuid → RevisionContext) (sys : RevisionSystem) : Prop where
  books : RevisionBooks env contextOf sys.plane
  inFlight : ∀ transition ∈ sys.pending,
    InFlight env contextOf sys.plane transition
  locks : ∀ left ∈ sys.pending, ∀ right ∈ sys.pending,
    left.record.id = right.record.id → left = right

section Runs

variable {env : ControlEnvironment} {contextOf : Uuid → RevisionContext}
  {before after sys : RevisionSystem} {label : RevisionLabel}

theorem systemInvariant_initial : SystemInvariant env contextOf .initial where
  books := RevisionBooks.empty
  inFlight _ mem := mem.elim
  locks _ mem := mem.elim

theorem systemInvariant_of_step (contexts : PlainContexts env contextOf)
    (inv : SystemInvariant env contextOf before) (keeps : KeepsContext contextOf before label)
    (taken : RevisionStep env before label after) :
    SystemInvariant env contextOf after := by
  have books := inv.books
  cases taken with
  | call other unlocked =>
    have called := callKeeps_of_call contexts.lower books other keeps
    refine ⟨called.books, ?_, inv.locks⟩
    intro transition mem
    exact (inv.inFlight transition mem).besideCall books called (unlocked transition mem)
  | @begin runtime req denial begun started unlocked =>
    have begins := begun_of_beginRevision started
    have inFlight := inFlight_of_begun contexts books keeps begins
    have apart : ∀ other ∈ before.pending, other.record.id ≠ begun.record.id := by
      intro other mem
      rw [begins.accepted.recordId]
      exact unlocked other mem
    refine ⟨books, ?_, ?_⟩
    · rintro transition (rfl | mem)
      · exact inFlight
      · exact inv.inFlight transition mem
    · rintro left (rfl | leftMem) right (rfl | rightMem) same
      · rfl
      · exact absurd same.symm (apart right rightMem)
      · exact absurd same (apart left leftMem)
      · exact inv.locks left leftMem right rightMem same
  | @commit committed isPending =>
    have inFlight := inv.inFlight committed isPending
    have commits := commits_of_inFlight contexts.lower books inFlight
    refine ⟨commits.books, ?_, ?_⟩
    · rintro transition ⟨mem, notCommitted⟩
      have apart : transition.record.id ≠ committed.record.id := by
        intro same
        exact notCommitted (inv.locks transition mem committed isPending same)
      exact (inv.inFlight transition mem).besideCommit books inFlight apart commits
    · rintro left ⟨leftMem, _⟩ right ⟨rightMem, _⟩ same
      exact inv.locks left leftMem right rightMem same
  | rollback _ =>
    refine ⟨books, ?_, ?_⟩
    · rintro transition ⟨mem, _⟩
      exact inv.inFlight transition mem
    · rintro left ⟨leftMem, _⟩ right ⟨rightMem, _⟩ same
      exact inv.locks left leftMem right rightMem same

theorem systemInvariant_of_execution (contexts : PlainContexts env contextOf)
    {labels : List RevisionLabel}
    (exec : Execution (Guarded (KeepsContext contextOf) (RevisionStep env)) .initial labels sys) :
    SystemInvariant env contextOf sys := by
  refine exec.invariant (SystemInvariant env contextOf) systemInvariant_initial ?_
  intro before label after inv taken
  exact systemInvariant_of_step contexts inv taken.1 taken.2

end Runs

structure ReadsRevision
    (columns : BenchmarkResult → Validation.BenchmarkResult) : Prop where
  root : ∀ res, (columns res).rootId = res.rootId
  number : ∀ res, (columns res).revisionNumber = res.revisionNumber

def RecordsDecisionOf (env : ControlEnvironment)
    (record : AgentApprovalCheckpoint) (stored : Option Json) : Prop :=
  ∃ decision trace recorded, record.decision = some decision ∧ stored = some trace ∧
    CarriesDecision env.text trace record.checkpointId recorded ∧
    recorded.get? "decision" = some (.str decision.text)

/-- The revisions of each result form one line, and the revision that the gate
selects records what the earlier ones do. -/
structure LinearHistory (env : ControlEnvironment)
    (state : ControlPlane) : Prop where
  numbers : ∀ left ∈ state.results, ∀ right ∈ state.results,
    left.rootId = right.rootId → left.revisionNumber = right.revisionNumber →
      left = right
  parents : ∀ child ∈ state.results, ∀ parentId,
    child.parentBenchmarkResultId = some parentId →
      ∃ parent ∈ state.results, parent.id = parentId ∧
        parent.rootId = child.rootId ∧
        parent.revisionNumber < child.revisionNumber
  oneChild : ∀ left ∈ state.results, ∀ right ∈ state.results, ∀ parentId,
    left.parentBenchmarkResultId = some parentId →
      right.parentBenchmarkResultId = some parentId → left = right
  carried : ∀ earlier ∈ state.results, ∀ later ∈ state.results,
    earlier.rootId = later.rootId →
      earlier.revisionNumber ≤ later.revisionNumber →
        KeepsDecisions env.text earlier.trace later.trace
  decided : ∀ record ∈ state.checkpoints, HasRevision record.status →
    ∃ child ∈ state.results,
      child.parentBenchmarkResultId = some record.benchmarkResultId ∧
      ∀ later ∈ state.results, later.rootId = child.rootId →
        child.revisionNumber ≤ later.revisionNumber →
          RecordsDecisionOf env record later.trace
  selected : ∀ columns, ReadsRevision columns →
    ∀ candidates : List BenchmarkResult,
      (∀ candidate ∈ candidates, candidate ∈ state.results) →
        ∀ candidate ∈ candidates,
          (∃ row ∈ candidates, row.rootId = candidate.rootId ∧ columns row ∈
            Validation.latestResultRevisions (candidates.map columns)) ∧
          ∀ row ∈ candidates, row.rootId = candidate.rootId → columns row ∈
              Validation.latestResultRevisions (candidates.map columns) →
            KeepsDecisions env.text candidate.trace row.trace

section Histories

variable {env : ControlEnvironment} {contextOf : Uuid → RevisionContext}
  {state : ControlPlane}

theorem RevisionBooks.carried_of_le (books : RevisionBooks env contextOf state)
    {earlier later : BenchmarkResult} (earlierMem : earlier ∈ state.results)
    (laterMem : later ∈ state.results) (sameRoot : earlier.rootId = later.rootId)
    (order : earlier.revisionNumber ≤ later.revisionNumber) :
    KeepsDecisions env.text earlier.trace later.trace :=
  books.lineage.kept earlier.version (version_mem earlierMem) later.version
    (version_mem laterMem) sameRoot order

theorem eq_of_version {left right : BenchmarkResult} (leftMem : left ∈ state.results)
    (rightMem : right ∈ state.results) (same : left.version = right.version) : left = right :=
  Table.eq_of_key_eq leftMem rightMem (congrArg Version.id same)

theorem linearHistory_of_books (books : RevisionBooks env contextOf state) :
    LinearHistory env state where
  numbers left leftMem right rightMem sameRoot sameNumber :=
    eq_of_version leftMem rightMem (books.lineage.numbers left.version
      (version_mem leftMem) right.version (version_mem rightMem) sameRoot
      sameNumber)
  parents child mem parentId isParent := by
    obtain ⟨parent, ⟨row, rowMem, isRow⟩, found⟩ :=
      books.lineage.parents child.version (version_mem mem) parentId isParent
    rw [← isRow] at found
    exact ⟨row, rowMem, found⟩
  oneChild left leftMem right rightMem parentId ofLeft ofRight :=
    eq_of_version leftMem rightMem (books.lineage.oneChild left.version
      (version_mem leftMem) right.version (version_mem rightMem) parentId
      ofLeft ofRight)
  carried _ earlierMem _ laterMem sameRoot order :=
    books.carried_of_le earlierMem laterMem sameRoot order
  decided record mem revised := by
    obtain ⟨child, childMem, isChild, decision, trace, recorded, isDecision,
      stored, carries, isRecorded⟩ := books.carried record mem revised
    refine ⟨child, childMem, isChild, ?_⟩
    intro later laterMem sameRoot order
    have kept := books.carried_of_le childMem laterMem sameRoot.symm order
    obtain ⟨next, isNext, nextCarries⟩ := kept trace stored _ _ carries
    exact ⟨decision, next, recorded, isDecision, isNext, nextCarries, isRecorded⟩
  selected columns reads candidates within candidate candidateMem := by
    constructor
    · have listed : columns candidate ∈ candidates.map columns :=
        List.mem_map_of_mem candidateMem
      obtain ⟨found, foundMem, isSelected, sameRoot⟩ :=
        Validation.exists_latestResultRevisions listed
      obtain ⟨row, rowMem, isRow⟩ := List.mem_map.mp foundMem
      rw [← isRow, reads.root, reads.root] at sameRoot
      rw [← isRow] at isSelected
      exact ⟨row, rowMem, sameRoot, isSelected⟩
    · intro row rowMem sameRoot isSelected
      have ofRoot : (columns candidate).rootId = (columns row).rootId := by
        rw [reads.root, reads.root]
        exact sameRoot.symm
      have latest := Validation.le_of_mem_latestResultRevisions isSelected
        (columns candidate) (List.mem_map_of_mem candidateMem) ofRoot
      have rowPositive : 1 ≤ row.revisionNumber :=
        books.positive row.version (version_mem (within row rowMem))
      have candidatePositive : 1 ≤ candidate.revisionNumber :=
        books.positive candidate.version (version_mem (within candidate candidateMem))
      rw [reads.number, reads.number, max_eq_right rowPositive,
        max_eq_right candidatePositive] at latest
      exact books.carried_of_le (within candidate candidateMem)
        (within row rowMem) sameRoot.symm latest

/-- In every interleaving in which decisions have a reason and a name and revisions run in the
context of their root, the revisions of a result form one line and the latest records every
decision. -/
theorem linearHistory_of_execution (contexts : PlainContexts env contextOf)
    {labels : List RevisionLabel} {sys : RevisionSystem}
    (exec : Execution (Guarded (KeepsContext contextOf) (RevisionStep env)) .initial labels sys) :
    LinearHistory env sys.plane :=
  linearHistory_of_books (systemInvariant_of_execution contexts exec).books

end Histories

/-! ## A recovery with two checkpoints -/

def revisionEnvironment : ControlEnvironment :=
  { plainEnvironment with text := digestEnvironment.text }

def guardedContract : Json :=
  .obj
    [("allowed_actions", .arr [.str "memory_read", .str "approval_checkpoint",
        .str "respond"]),
      ("allowed_checkpoint_ids", .arr [.str "first", .str "second"]),
      ("allow_replanning", .bool true),
      ("allow_live_replanning", .bool true),
      ("approval_policy", .obj
        [("allowed_roles", .arr [.str "ops"]),
          ("resume_roles", .arr [.str "ops"])])]

def checkpointAnswer (checkpointIds : List String) : AgentLiveReplanCallback :=
  fun _ => .response (checkpointIds.map (fun checkpointId =>
      .obj [("action", .str "approval_checkpoint"),
        ("checkpoint_id", .str checkpointId)]))
    (.obj [])

def guardedContext (checkpointIds : List String) : RevisionContext where
  env := digestEnvironment.withDefaultTools
  evaluationCase :=
    { externalCaseId := "case"
      category := "agent"
      reference := .obj [("agent", guardedContract)] }
  payload := some recoverablePlan
  callback := some (checkpointAnswer checkpointIds)

def contextRuntime (ctx : RevisionContext) : RevisionRuntime :=
  fun _ _ decisions =>
    ((ctx.traceUnder (some (.obj decisions))).map Except.ok).getD
      (.error (.domainValidation "the case is not an agent case"))

theorem contextRuntime_eq_ok {ctx : RevisionContext} {res : BenchmarkResult}
    {evalCase : EvaluationCase} {decisions : List (String × Json)}
    (ran : contextRuntime ctx res evalCase decisions = .ok trace) :
    ctx.traceUnder (some (.obj decisions)) = some trace := by
  rw [contextRuntime] at ran
  cases executed : ctx.traceUnder (some (.obj decisions)) with
  | none =>
    rw [executed] at ran
    cases ran
  | some own =>
    rw [executed] at ran
    exact congrArg some (Except.ok.inj ran)

def guardedResult : BenchmarkResult :=
  { waitingResult with
    evaluationCase := some ⟨0, "case", guardedContract⟩
    trace := (guardedContext ["first", "second"]).traceUnder none }

def recordRequest (recordId : Uuid) (expectedVersion : Int) :
    CheckpointRequest :=
  { gateRequest expectedVersion with checkpointRecordId := recordId }

def executeGuarded : Operation :=
  .execute guardedResult (some guardedContract) (opsIdentity "requester") 0

def approveRecord (recordId : Uuid) : Operation :=
  .decide (contextRuntime (guardedContext ["first", "second"]))
    (recordRequest recordId 1) .approved "reviewed"

def executedPlane : ControlPlane :=
  (operate revisionEnvironment .empty executeGuarded).1

def firstApprovedPlane : ControlPlane :=
  (operate revisionEnvironment executedPlane (approveRecord 1)).1

def firstResume : RevisionTransition :=
  (beginRevision revisionEnvironment
    (contextRuntime (guardedContext ["first", "second"])) firstApprovedPlane
    (recordRequest 1 2) none).get (by decide +kernel)

def firstResumedPlane : ControlPlane :=
  commitRevision revisionEnvironment firstApprovedPlane firstResume

section Alone

variable {env : ControlEnvironment} {plane : ControlPlane}
  {transition : RevisionTransition}

theorem revisionStep_call {op : Operation} (other : buildsRevision op = false) :
    RevisionStep env ⟨plane, ∅⟩ (.call op) ⟨(operate env plane op).1, ∅⟩ :=
  .call other (fun _ mem => mem.elim)

theorem revisionStep_begin {runtime : RevisionRuntime}
    {req : CheckpointRequest} {denial : Option String}
    (begun : beginRevision env runtime plane req denial = some transition) :
    RevisionStep env ⟨plane, ∅⟩ (.begin runtime req denial) ⟨plane, {transition}⟩ := by
  have taken := @RevisionStep.begin env ⟨plane, ∅⟩ runtime req
    denial transition begun (fun _ mem => mem.elim)
  rw [insert_empty_eq] at taken
  exact taken

theorem revisionStep_commit : RevisionStep env ⟨plane, {transition}⟩ (.commit transition)
      ⟨commitRevision env plane transition, ∅⟩ := by
  have taken := @RevisionStep.commit env ⟨plane, {transition}⟩ transition
    (Set.mem_singleton transition)
  rw [Set.sdiff_self] at taken
  exact taken

end Alone

def resumeLabels : List RevisionLabel :=
  [.call executeGuarded, .call (approveRecord 1),
    .begin (contextRuntime (guardedContext ["first", "second"]))
      (recordRequest 1 2) none, .commit firstResume]

theorem firstResume_begun : beginRevision revisionEnvironment
      (contextRuntime (guardedContext ["first", "second"])) firstApprovedPlane
      (recordRequest 1 2) none = some firstResume :=
  (Option.some_get _).symm

theorem firstResumed_execution : Execution (Guarded
      (KeepsContext (fun _ => guardedContext ["first", "second"]))
      (RevisionStep revisionEnvironment)) .initial resumeLabels
      ⟨firstResumedPlane, ∅⟩ := by
  have approves : GivesDecision "reviewed" (opsIdentity "approver") := by
    constructor
    · decide +kernel
    · decide +kernel
  refine .snoc (.snoc (.snoc (.snoc .refl ⟨?_, revisionStep_call rfl⟩)
    ⟨approves, revisionStep_call rfl⟩) ⟨⟨?_, ?_⟩,
      revisionStep_begin firstResume_begun⟩) ⟨trivial, revisionStep_commit⟩
  · intro _ trace stored
    exact ⟨none, stored⟩
  · intro reason isDenial
    cases isDenial
  · intro res evalCase decisions trace ran
    exact contextRuntime_eq_ok ran

theorem plainContexts_guarded : PlainContexts revisionEnvironment
      (fun _ => guardedContext ["first", "second"]) where
  text _ := rfl
  plain _ :=
    { lower := plainTexts_digestEnvironment.lower, digest := plainTexts_digestEnvironment.digest }

theorem linearHistory_of_execution_resumed :
    firstResumedPlane.results.rows.map BenchmarkResult.parentBenchmarkResultId =
      [none, some 0] ∧ LinearHistory revisionEnvironment firstResumedPlane := by
  refine ⟨by decide +kernel, ?_⟩
  exact linearHistory_of_execution plainContexts_guarded firstResumed_execution

def blankDenial : RevisionTransition :=
  (beginRevision revisionEnvironment
    (contextRuntime (guardedContext ["first", "second"])) executedPlane
    (recordRequest 1 1) (some " ")).get (by decide +kernel)

def blankDeniedPlane : ControlPlane :=
  commitRevision revisionEnvironment executedPlane blankDenial

def secondApprovedPlane : ControlPlane :=
  (operate revisionEnvironment firstResumedPlane (approveRecord 3)).1

/-- The second checkpoint is resumed when the provider does not propose the first
again. -/
def secondResume : RevisionTransition :=
  (beginRevision revisionEnvironment (contextRuntime (guardedContext ["second"]))
    secondApprovedPlane (recordRequest 3 2) none).get (by decide +kernel)

def secondResumedPlane : ControlPlane :=
  commitRevision revisionEnvironment secondApprovedPlane secondResume

def hasDecision (text : TextEnvironment) (trace : Option Json) (checkpointId : String) : Bool :=
  ((trace.getD .null).items "steps").any (fun step =>
    (decisionOfStep text step).any (fun decision => decision.1 = checkpointId))

theorem hasDecision_of_carries {text : TextEnvironment} {recorded : Json}
    (carries : CarriesDecision text trace checkpointId recorded) :
    hasDecision text (some trace) checkpointId = true := by
  obtain ⟨step, mem, found⟩ := carries
  refine List.any_eq_true.mpr ⟨step, mem, ?_⟩
  rw [found]
  exact decide_eq_true rfl

theorem carries_of_hasDecision {text : TextEnvironment}
    (has : hasDecision text (some trace) checkpointId = true) :
    ∃ recorded, CarriesDecision text trace checkpointId recorded := by
  obtain ⟨step, mem, named⟩ := List.any_eq_true.mp has
  cases found : decisionOfStep text step with
  | none =>
    rw [found] at named
    cases named
  | some decision =>
    rw [found] at named
    have isNamed : decision.1 = checkpointId := of_decide_eq_true named
    refine ⟨decision.2, step, mem, ?_⟩
    rw [found, ← isNamed]

theorem not_linearHistory_of_unrecorded {env : ControlEnvironment} {state : ControlPlane}
    {record : AgentApprovalCheckpoint} (mem : record ∈ state.checkpoints)
    (revised : HasRevision record.status) (unrecorded : ∀ res ∈ state.results,
      hasDecision env.text res.trace record.checkpointId = false) :
    ¬ LinearHistory env state := by
  intro linear
  obtain ⟨child, childMem, _, later⟩ := linear.decided record mem revised
  obtain ⟨_, trace, recorded, _, stored, carries, _⟩ :=
    later child childMem rfl (le_refl _)
  have has := hasDecision_of_carries carries
  rw [← stored, unrecorded child childMem] at has
  cases has

theorem not_linearHistory_of_dropped {env : ControlEnvironment}
    {state : ControlPlane} {earlier later : BenchmarkResult}
    (earlierMem : earlier ∈ state.results)
    (laterMem : later ∈ state.results)
    (sameRoot : earlier.rootId = later.rootId)
    (order : earlier.revisionNumber ≤ later.revisionNumber)
    (stored : earlier.trace = some trace)
    (has : hasDecision env.text (some trace) checkpointId = true)
    (dropped : hasDecision env.text later.trace checkpointId = false) :
    ¬ LinearHistory env state := by
  intro linear
  obtain ⟨recorded, carries⟩ := carries_of_hasDecision has
  obtain ⟨next, isNext, kept⟩ := linear.carried earlier earlierMem later
    laterMem sameRoot order trace stored checkpointId recorded carries
  have keptHere := hasDecision_of_carries kept
  rw [← isNext, dropped] at keptHere
  cases keptHere

/-- A reason of blanks drops the denial; another answer of the provider drops the
approval that the first revision records. -/
theorem linearHistory_dropped : (Execution (RevisionStep revisionEnvironment) .initial
        [.call executeGuarded,
          .begin (contextRuntime (guardedContext ["first", "second"]))
            (recordRequest 1 1) (some " "), .commit blankDenial]
        ⟨blankDeniedPlane, ∅⟩ ∧
      ¬ LinearHistory revisionEnvironment blankDeniedPlane) ∧
    Execution (RevisionStep revisionEnvironment) .initial
        (resumeLabels ++ [.call (approveRecord 3)] ++
          [.begin (contextRuntime (guardedContext ["second"]))
            (recordRequest 3 2) none] ++ [.commit secondResume])
        ⟨secondResumedPlane, ∅⟩ ∧
      ¬ LinearHistory revisionEnvironment secondResumedPlane := by
  refine ⟨⟨?_, ?_⟩, ?_, ?_⟩
  · have begun : beginRevision revisionEnvironment
        (contextRuntime (guardedContext ["first", "second"])) executedPlane
        (recordRequest 1 1) (some " ") = some blankDenial :=
      (Option.some_get _).symm
    exact .snoc (.snoc (.snoc .refl (revisionStep_call rfl))
      (revisionStep_begin begun)) revisionStep_commit
  · have denied : blankDeniedPlane.checkpoints.rows.any (fun record =>
        record.status = .denied && record.checkpointId = "first") = true := by
      decide +kernel
    have unrecorded : blankDeniedPlane.results.rows.all (fun res =>
        !hasDecision revisionEnvironment.text res.trace "first") = true := by
      decide +kernel
    obtain ⟨record, mem, found⟩ := List.any_eq_true.mp denied
    rw [Bool.and_eq_true, decide_eq_true_eq, decide_eq_true_eq] at found
    apply not_linearHistory_of_unrecorded mem
    · rw [found.1]
      exact (by decide : HasRevision .denied)
    · intro res resultMem
      rw [found.2]
      exact Bool.not_eq_true' _ ▸ List.all_eq_true.mp unrecorded res resultMem
  · have begun : beginRevision revisionEnvironment
        (contextRuntime (guardedContext ["second"])) secondApprovedPlane
        (recordRequest 3 2) none = some secondResume :=
      (Option.some_get _).symm
    have first : Execution (RevisionStep revisionEnvironment) .initial
        resumeLabels ⟨firstResumedPlane, ∅⟩ := firstResumed_execution.of_guarded
    exact .snoc (.snoc (.snoc first (revisionStep_call rfl))
      (revisionStep_begin begun)) revisionStep_commit
  · have dropped : secondResumedPlane.results.rows.any (fun earlier =>
      earlier.trace.isSome &&
        hasDecision revisionEnvironment.text earlier.trace "first" &&
        secondResumedPlane.results.rows.any (fun later =>
          earlier.rootId = later.rootId && earlier.revisionNumber ≤ later.revisionNumber &&
            !hasDecision revisionEnvironment.text later.trace "first")) =
      true := by decide +kernel
    obtain ⟨earlier, earlierMem, found⟩ := List.any_eq_true.mp dropped
    rw [Bool.and_eq_true, Bool.and_eq_true] at found
    obtain ⟨⟨traced, has⟩, others⟩ := found
    obtain ⟨later, laterMem, after⟩ := List.any_eq_true.mp others
    rw [Bool.and_eq_true, Bool.and_eq_true, decide_eq_true_eq,
      decide_eq_true_eq, Bool.not_eq_true'] at after
    obtain ⟨⟨sameRoot, order⟩, absent⟩ := after
    obtain ⟨trace, stored⟩ := Option.isSome_iff_exists.mp traced
    rw [stored] at has
    exact not_linearHistory_of_dropped earlierMem laterMem sameRoot order stored has absent

end ModelAtlas.Approval
