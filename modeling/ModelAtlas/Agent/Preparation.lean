import Mathlib.Data.Rat.Floor
import ModelAtlas.Agent.Steps

/-!
# Preparation of an agent execution

`prepare_agent_execution` of `services/agent_execution/planning.py`: limits,
allow-lists and decisions. The retrieval settings, the versions and the input of
the adapter are left out.
-/

namespace ModelAtlas.Agent

open Foundations Approval

def maxAgentSteps : Nat := 6

def maxAgentReplans : Nat := 1

def maxAgentLiveReplanCalls : Nat := 1

def maxAgentRecoverySteps : Nat := 2

def maxAgentRecoveryBranches : Nat := 3

def maxAgentApprovalCheckpoints : Nat := 2

def maxAgentToolCalls : Nat := 3

def maxAgentRetrievals : Nat := 2

def maxAgentMemoryReads : Nat := 2

def maxAgentMemoryWrites : Nat := 1

def allowedAgentActions : List String :=
  ["approval_checkpoint", "memory_read", "retrieve", "tool", "memory_write",
    "respond"]

/-- `_bounded_int`; `int(value)` of a float drops its fraction. -/
def boundedInt (value : Option Json) (default maximum : Nat) : Nat :=
  match value with
  | some (.int stored) => (max 1 (min stored maximum)).toNat
  | some (.float stored) =>
    (max 1 (min (Int.tdiv stored.num stored.den) maximum)).toNat
  | _ => default

/-- What the agent services read of an evaluation case; `reference` is its
`reference_context_json`. -/
structure EvaluationCase where
  (externalCaseId category : String)
  reference : Json

def EvaluationCase.isAgentCase (text : TextEnvironment) (evalCase : EvaluationCase) : Bool :=
  ((evalCase.reference.get? "agent").any Json.isObject) ||
    pyContains (text.lower evalCase.category) "agent"

def agentContract (evalCase : EvaluationCase) : Json :=
  evalCase.reference.objectOr "agent"

def allowedActions (text : TextEnvironment) (contract : Json) : List String :=
  let configured :=
    Json.stringList text.render (contract.get? "allowed_actions")
  (if configured.isEmpty then ["respond"] else configured).filter
    allowedAgentActions.contains

/-! ## Supplied decisions -/

def keptDecisionMembers : List String :=
  ["decision_source", "policy_version", "decision_hash", "identity_verified",
    "approver_identity", "decided_at", "checkpoint_record_id"]

/-- `str(raw.get("decision") or "").strip().lower()`. -/
def rawDecision (text : TextEnvironment) (raw : Json) : String :=
  text.lower (pyStrip (Json.pyStrOrEmpty text.render (raw.get? "decision")))

/-- One decision of `_normalize_approval_decisions`. -/
def normalizeApprovalDecision (text : TextEnvironment) (raw : Json) : Option Json :=
  let decision := rawDecision text raw
  let decidedBy :=
    pyStrip (Json.pyStrOrEmpty text.render (raw.get? "decided_by"))
  let reason := pyStrip (Json.pyStrOrEmpty text.render (raw.get? "reason"))
  if !raw.isObject then none
  else if !(["approved", "denied"].contains decision) || decidedBy = "" ||
      reason = "" then none
  else
    some (.obj
      ([("decision", .str decision), ("decided_by", .str decidedBy),
        ("reason", .str reason)] ++
        keptDecisionMembers.filterMap (decisionMember raw)))

def normalizeApprovalDecisions (text : TextEnvironment)
    (decisions : Option Json) : List (String × Json) :=
  match decisions with
  | some (.obj members) =>
    members.filterMap (fun mem =>
      (normalizeApprovalDecision text mem.2).map (fun decision => (mem.1, decision)))
  | _ => []

structure PreparationEnvironment extends AgentEnvironment where
  registeredTool : String → Bool

/-- `context` of `prepare_agent_execution`. -/
def agentContext (env : PreparationEnvironment) (contract : Json) :
    AgentContext :=
  let bounded := fun name maximum =>
    boundedInt (contract.get? name) maximum maximum
  let texts := fun name =>
    Json.stringList env.text.render (contract.get? name)
  let stepLimit := bounded "max_steps" maxAgentSteps
  let replanLimit :=
    if contract.truthyMember "allow_replanning" then
      bounded "max_replans" maxAgentReplans
    else 0
  let recoveryStepLimit :=
    if replanLimit ≠ 0 then bounded "max_recovery_steps" maxAgentRecoverySteps
    else 0
  { stepLimit := stepLimit
    executionStepLimit := stepLimit + recoveryStepLimit
    replanLimit := replanLimit
    recoveryStepLimit := recoveryStepLimit
    recoveryBranchLimit := maxAgentRecoveryBranches
    approvalCheckpointLimit :=
      min (bounded "max_approval_checkpoints" maxAgentApprovalCheckpoints)
        stepLimit
    toolCallLimit := min (bounded "max_tool_calls" maxAgentToolCalls) stepLimit
    retrievalLimit :=
      min (bounded "max_retrievals" maxAgentRetrievals) stepLimit
    memoryReadLimit :=
      min (bounded "max_memory_reads" maxAgentMemoryReads) stepLimit
    memoryWriteLimit :=
      min (bounded "max_memory_writes" maxAgentMemoryWrites) stepLimit
    allowedActions := allowedActions env.text contract
    allowedMemoryIds := (texts "allowed_memory_ids").filter
      (fun memoryId => (env.memory memoryId).isSome)
    allowedTools :=
      (texts "allowed_tools").filter env.registeredTool
    allowedCheckpointIds := texts "allowed_checkpoint_ids"
    allowMemoryWrite := contract.truthyMember "allow_memory_write"
    allowLiveReplanning := replanLimit ≠ 0 &&
      contract.truthyMember "allow_live_replanning" }

/-- `prepare_agent_execution`; `decisions` is `approval_decisions`. -/
def prepareAgentExecution (env : PreparationEnvironment)
    (evalCase : EvaluationCase) (decisions : Option Json) :
    Option AgentPreparation :=
  if evalCase.isAgentCase env.text then
    let contract := agentContract evalCase
    some
      { contract := contract
        agentContext := agentContext env contract
        approvalDecisions :=
          normalizeApprovalDecisions env.text decisions }
  else none

section Preparation

variable {env : PreparationEnvironment}
  {evalCase : EvaluationCase} {decisions : Option Json}
  {prep : AgentPreparation}

theorem prepareAgentExecution_eq_some
    (prepared : prepareAgentExecution env evalCase decisions = some prep) :
    prep =
      { contract := agentContract evalCase
        agentContext :=
          agentContext env (agentContract evalCase)
        approvalDecisions :=
          normalizeApprovalDecisions env.text decisions } := by
  rw [prepareAgentExecution] at prepared
  by_cases agentCase : evalCase.isAgentCase env.text = true
  · rw [if_pos agentCase] at prepared
    exact (Option.some.inj prepared).symm
  · rw [if_neg agentCase] at prepared
    cases prepared

theorem boundedInt_le (value : Option Json) {maximum : Nat}
    (positive : 1 ≤ maximum) : boundedInt value maximum maximum ≤ maximum := by
  simp only [boundedInt]
  split
  · omega
  · omega
  · exact le_rfl

theorem agentContext_replanLimit_le (contract : Json) :
    (agentContext env contract).replanLimit ≤ 1 := by
  simp only [agentContext]
  split
  · exact boundedInt_le _ (by decide)
  · omega

end Preparation

theorem decisionMember_name {raw : Json} {name : String}
    {kept : String × Json} (found : decisionMember raw name = some kept) :
    kept.1 = name := by
  simp only [decisionMember] at found
  split at found
  · cases found
  · cases found
  · cases found
    rfl

theorem find?_decisionMember (raw : Json) {name : String}
    {names : List String} (mem : name ∈ names) :
    (names.filterMap (decisionMember raw)).find?
        (fun kept => kept.1 = name) = decisionMember raw name := by
  induction names with
  | nil => cases mem
  | cons first rest ih =>
    rw [List.filterMap_cons]
    by_cases same : first = name
    · subst same
      cases found : decisionMember raw first with
      | none =>
        rw [List.find?_eq_none]
        intro kept keptMem
        obtain ⟨other, _, otherFound⟩ := List.mem_filterMap.mp keptMem
        rw [decide_eq_true_eq]
        intro keptName
        rw [decisionMember_name otherFound] at keptName
        rw [keptName, found] at otherFound
        cases otherFound
      | some kept =>
        have keptName := decisionMember_name found
        simp [keptName]
    · have later : name ∈ rest :=
        (List.mem_cons.mp mem).resolve_left (Ne.symm same)
      cases found : decisionMember raw first with
      | none => exact ih later
      | some kept =>
        have otherName : kept.1 ≠ name :=
          (decisionMember_name found).trans_ne same
        simp only [List.find?_cons, otherName, decide_false]
        exact ih later

def SuppliedApproval (text : TextEnvironment) (decisions : Option Json)
    (checkpointId : String) : Prop :=
  ∃ members raw, decisions = some (.obj members) ∧
    (checkpointId, raw) ∈ members ∧ rawDecision text raw = "approved" ∧
    (normalizeApprovalDecision text raw).isSome

theorem normalizeApprovalDecision_decision {text : TextEnvironment} {raw decision : Json}
    (normalized : normalizeApprovalDecision text raw = some decision) :
    decision.get? "decision" = some (.str (rawDecision text raw)) := by
  simp only [normalizeApprovalDecision] at normalized
  split at normalized
  · cases normalized
  split at normalized
  · cases normalized
  · cases normalized
    rfl

theorem suppliedApproval_of_normalized {text : TextEnvironment} {decisions : Option Json}
    {checkpointId : String} {decision : Json}
    (mem : (checkpointId, decision) ∈ normalizeApprovalDecisions text decisions)
    (approved : Json.isText (decision.get? "decision") "approved" = true) :
    SuppliedApproval text decisions checkpointId := by
  simp only [normalizeApprovalDecisions] at mem
  split at mem
  · next members =>
      obtain ⟨⟨name, raw⟩, rawMem, normalizedMem⟩ :=
        List.mem_filterMap.mp mem
      obtain ⟨normalized, normalizedEq, pairEq⟩ :=
        Option.map_eq_some_iff.mp normalizedMem
      cases pairEq
      have decisionText := normalizeApprovalDecision_decision normalizedEq
      rw [decisionText] at approved
      have isApproved : rawDecision text raw = "approved" := by
        simpa [Json.isText] using approved
      exact ⟨members, raw, rfl, rawMem, isApproved, Option.isSome_iff_exists.mpr ⟨_, normalizedEq⟩⟩
  · cases mem

def smallEnvironment : PreparationEnvironment where
  text := ⟨id, fun _ => "value"⟩
  hashPayload _ := "hash"
  sha256 _ := "hash"
  memoryRegistryVersion := "operational-memory-registry-v1"
  corpusVersion := "corpus-v1"
  retrieverVersion := "lexical-overlap-v1"
  memory memoryId :=
    if memoryId = "runbook" then some ⟨"runbook", "v1", "roll back", "hash"⟩
    else none
  retrieve query _ := ⟨if query = "" then "empty" else "success", true, .null⟩
  executeRegisteredToolCall call :=
    if call.toolName = "lookup_policy" then
      ⟨"success", none, none, false, 0, .null⟩
    else ⟨"skipped", some "invalid_tool_selection", none, false, 0, .null⟩
  registeredTool toolName := toolName = "lookup_policy"

end ModelAtlas.Agent
