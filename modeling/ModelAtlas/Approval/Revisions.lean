import ModelAtlas.Agent.CarriedDecisions
import ModelAtlas.Approval.ResumeAuthority
import ModelAtlas.Foundations.Lineage

/-!
# Overlapping revisions

A resume or a denial reads its result and the number of the last revision,
executes the plan and commits later.  It holds the row of its checkpoint, and
other calls may commit in between.
-/

namespace ModelAtlas.Approval

open Foundations Agent

/-- A resume, or the denial for a reason, between its reads and its commit. -/
structure RevisionTransition where
  request : CheckpointRequest
  denial : Option String
  record : AgentApprovalCheckpoint
  result : BenchmarkResult
  evaluation : AgentCheckpointPolicyEvaluation
  trace : Json
  number : Int

def revisionOperation (runtime : RevisionRuntime) (req : CheckpointRequest)
    (denial : Option String) : Operation :=
  match denial with
  | some reason => .decide runtime req .denied reason
  | none => .resume runtime req

def revisionKind (denial : Option String) : AgentCheckpointOperation :=
  if denial.isSome then .decide else .resume

section Transitions

variable (env : ControlEnvironment)

/-- `decision_records`: a denial hands over its own record only. -/
def decisionRecords (state : ControlPlane) (req : CheckpointRequest)
    (denial : Option String) (record : AgentApprovalCheckpoint)
    (res : BenchmarkResult) (evaluation : AgentCheckpointPolicyEvaluation) :
    List AgentApprovalCheckpoint :=
  match denial with
  | some reason =>
    [(decideChange env req .denied reason evaluation none).apply record]
  | none => state.recordsOf res.id

/-- A transition up to its writes, where it raises nothing. -/
def beginRevision (runtime : RevisionRuntime) (state : ControlPlane)
    (req : CheckpointRequest) (denial : Option String) :
    Option RevisionTransition :=
  match lockedCheckpoint state req.checkpointRecordId with
  | .error _ => none
  | .ok (record, res) =>
    match assertOperation env state record (revisionKind denial)
        req.expectedVersion req.signerIdentity req.now with
    | .error _ => none
    | .ok evaluation =>
      if denial.isNone && (state.recordsOf res.id).any blocksResume then
        none
      else
        match applyPersistedDecisions env runtime state res
            (decisionRecords env state req denial record res evaluation) with
        | .error _ => none
        | .ok revision => some
            { request := req
              denial := denial
              record := record
              result := res
              evaluation := evaluation
              trace := revision.trace
              number := revision.number }

def RevisionTransition.child (transition : RevisionTransition)
    (state : ControlPlane) : BenchmarkResult :=
  { transition.result with
    id := state.uuids
    benchmarkRunId := state.uuids
    parentBenchmarkResultId := some transition.result.id
    rootBenchmarkResultId := some (transition.result.rootBenchmarkResultId.getD
      transition.result.id)
    revisionNumber := transition.number
    trace := some transition.trace
    controlLink := some
      { transition.result.controlLink.getD ⟨[], [], 1⟩ with
        resultRevision := transition.number } }

def commitRevision (state : ControlPlane) (transition : RevisionTransition) :
    ControlPlane :=
  let child := transition.child state
  let inserted := state.insertResult child rfl
  match transition.denial with
  | some reason =>
    inserted.changeCheckpoints (decideChange env transition.request
      .denied reason transition.evaluation (some child))
  | none =>
    resumedState env transition.request transition.record transition.result transition.evaluation
      { state := inserted
        child := child
        trace := transition.trace
        number := transition.number }

end Transitions

structure RevisionSystem where
  plane : ControlPlane
  pending : Set RevisionTransition

def RevisionSystem.initial : RevisionSystem := ⟨.empty, ∅⟩

def buildsRevision : Operation → Bool
  | .decide _ _ .denied _ => true
  | .resume _ _ => true
  | _ => false

inductive RevisionLabel where
  | call (op : Operation)
  | begin (runtime : RevisionRuntime) (req : CheckpointRequest)
      (denial : Option String)
  | commit (transition : RevisionTransition)
  | rollback (transition : RevisionTransition)

/-- A call that would write a locked row waits; a resume or a denial that is
refused changes no more than a `get`. -/
inductive RevisionStep (env : ControlEnvironment) :
    RevisionSystem → RevisionLabel → RevisionSystem → Prop
  | call {sys : RevisionSystem} {op : Operation}
      (other : buildsRevision op = false)
      (unlocked : ∀ transition ∈ sys.pending,
        (operate env sys.plane op).1.checkpoint?
            transition.record.id =
          sys.plane.checkpoint? transition.record.id) :
      RevisionStep env sys (.call op)
        ⟨(operate env sys.plane op).1, sys.pending⟩
  | begin {sys : RevisionSystem} {runtime : RevisionRuntime}
      {req : CheckpointRequest} {denial : Option String}
      {transition : RevisionTransition}
      (begun : beginRevision env runtime sys.plane req denial =
        some transition)
      (unlocked : ∀ other ∈ sys.pending,
        other.record.id ≠ req.checkpointRecordId) :
      RevisionStep env sys (.begin runtime req denial)
        ⟨sys.plane, insert transition sys.pending⟩
  | commit {sys : RevisionSystem} {transition : RevisionTransition}
      (inFlight : transition ∈ sys.pending) :
      RevisionStep env sys (.commit transition)
        ⟨commitRevision env sys.plane transition,
          sys.pending \ {transition}⟩
  | rollback {sys : RevisionSystem} {transition : RevisionTransition}
      (inFlight : transition ∈ sys.pending) :
      RevisionStep env sys (.rollback transition)
        ⟨sys.plane, sys.pending \ {transition}⟩

section Begin

variable {env : ControlEnvironment} {runtime : RevisionRuntime}
  {state : ControlPlane} {req : CheckpointRequest} {denial : Option String}
  {transition : RevisionTransition}

structure Begun (env : ControlEnvironment) (runtime : RevisionRuntime)
    (state : ControlPlane) (req : CheckpointRequest)
    (denial : Option String) (transition : RevisionTransition) : Prop where
  ofRequest : transition.request = req
  ofDenial : transition.denial = denial
  accepted : Accepted env state (revisionKind denial) req
    transition.record transition.evaluation
  ofResult : transition.record.benchmarkResultId = transition.result.id
  stored : transition.result ∈ state.results
  unblocked : denial = none →
    ∀ other ∈ state.recordsOf transition.result.id, blocksResume other = false
  revised : ∃ revision, applyPersistedDecisions env runtime state
      transition.result (decisionRecords env state req denial
        transition.record transition.result transition.evaluation) =
        .ok revision ∧
    revision.trace = transition.trace ∧ revision.number = transition.number

theorem begun_of_beginRevision (begun : beginRevision env runtime state req denial =
      some transition) :
    Begun env runtime state req denial transition := by
  rw [beginRevision] at begun
  split at begun
  · cases begun
  · next record res locked =>
      obtain ⟨mem, recordId, ofResult⟩ := lockedCheckpoint_eq_ok locked
      have stored : res ∈ state.results := by
        rw [lockedCheckpoint] at locked
        split at locked
        · cases locked
        · split at locked
          · cases locked
          · next found =>
              have same := Except.ok.inj locked
              rw [Prod.mk.injEq] at same
              rw [← same.2]
              exact (Table.find?_eq_some_iff.mp found).1
      split at begun
      · cases begun
      · next evaluation asserted =>
          have accepted := assertOperation_eq_ok mem recordId asserted
          split at begun
          · cases begun
          · next unblocked =>
              split at begun
              · cases begun
              · next revision revised =>
                  rw [← Option.some.inj begun]
                  refine ⟨rfl, rfl, accepted, ofResult, stored, ?_, revision, revised, rfl, rfl⟩
                  rintro rfl other isOther
                  rw [Option.isNone_none, Bool.true_and, Bool.not_eq_true,
                    List.any_eq_false] at unblocked
                  exact Bool.eq_false_iff.mpr (unblocked other isOther)

theorem revision_eq {res : BenchmarkResult}
    {records : List AgentApprovalCheckpoint} {revision : Revision}
    (revised : applyPersistedDecisions env runtime state res records = .ok revision) :
    revision =
      { state := state.insertResult (revisionResult state res revision.trace) rfl
        child := revisionResult state res revision.trace
        trace := revision.trace
        number := nextRevision state res } := by
  rw [applyPersistedDecisions] at revised
  split at revised
  · split at revised
    · cases revised
    · split at revised
      · cases revised
      · rw [← Except.ok.inj revised]
  · cases revised

end Begin

end ModelAtlas.Approval
