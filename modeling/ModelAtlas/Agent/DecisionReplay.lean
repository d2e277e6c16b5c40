import ModelAtlas.Agent.Replay
import ModelAtlas.Agent.RunSimulation

/-!
# Replay of the decisions

The decisions that are read back from a trace are normalized again by the replay.
Each checkpoint of the trace is decided by them as it was, and one that waited
waits again.
-/

namespace ModelAtlas.Agent

open Foundations Approval

variable {value raw : Json} {name : String} {step : AgentStep}

def isPlainText (text : String) : Bool :=
  text.toList.all (fun char => char.isLower || char.isDigit)

/-- What a replay relies on of `str.lower` and of `hashlib.sha256`. -/
structure PlainTexts (env : AgentEnvironment) : Prop where
  lower : ∀ text, isPlainText text = true → env.text.lower text = text
  digest : ∀ payload, isHexDigest (env.hashPayload payload) = true

theorem not_isPySpace_of_plain {char : Char} (plain : (char.isLower || char.isDigit) = true) :
    isPySpace char = false := by
  have range : (97 ≤ char.toNat ∧ char.toNat ≤ 122) ∨ (48 ≤ char.toNat ∧ char.toNat ≤ 57) := by
    have bounds : (decide ('a'.val ≤ char.val) && decide (char.val ≤ 'z'.val) ||
        decide ('0'.val ≤ char.val) && decide (char.val ≤ '9'.val)) = true :=
      plain
    simpa [UInt32.le_iff_toNat_le] using bounds
  simp only [isPySpace, Bool.or_eq_false_iff, Bool.and_eq_false_iff,
    decide_eq_false_iff_not, beq_eq_false_iff_ne]
  omega

theorem pyStrip_of_plain {text : String} (plain : isPlainText text = true) :
    pyStrip text = text := by
  have noSpace : ∀ char ∈ text.toList, ¬isPySpace char = true := by
    intro char mem
    have charPlain := List.all_eq_true.mp plain char mem
    rw [not_isPySpace_of_plain charPlain]
    exact Bool.false_ne_true
  have kept : ∀ chars : List Char, (∀ char ∈ chars, ¬isPySpace char = true) →
      chars.dropWhile isPySpace = chars := by
    intro chars none
    rw [List.dropWhile_eq_self_iff]
    exact fun positive => none _ (List.getElem_mem positive)
  rw [pyStrip, kept text.toList noSpace, kept text.toList.reverse,
    List.reverse_reverse, String.ofList_toList]
  intro char mem
  exact noSpace char (List.mem_reverse.mp mem)

theorem plain_of_isHexDigest {text : String} (digest : isHexDigest text = true) :
    isPlainText text = true := by
  rw [isHexDigest, Bool.and_eq_true] at digest
  refine List.all_eq_true.mpr (fun char mem => ?_)
  have hex := List.all_eq_true.mp digest.2 char mem
  have plainHex : ∀ digit ∈ "0123456789abcdef".toList,
      (digit.isLower || digit.isDigit) = true := by simp
  exact plainHex char (List.contains_iff_mem.mp hex)

/-- `value.get(name)` where it is not `None`. -/
def presentValue (value : Json) (name : String) : Option Json :=
  (decisionMember value name).map Prod.snd

theorem presentValue_eq (present : value.get? name ≠ some .null) :
    presentValue value name = value.get? name := by
  rw [presentValue, decisionMember]
  split
  · next missing => exact missing.symm
  · next isNull => exact absurd isNull present
  · next found => exact found.symm

theorem presentValue_ne_null (value : Json) (name : String) :
    presentValue value name ≠ some .null := by
  rw [presentValue, decisionMember]
  split
  · exact Option.some_ne_none _ ∘ Eq.symm
  · exact Option.some_ne_none _ ∘ Eq.symm
  · next isNull _ =>
      intro same
      exact isNull (Option.some.inj same)

theorem decisionMember_congr {left right : Json} (same : left.get? name = right.get? name) :
    decisionMember left name = decisionMember right name := by
  rw [decisionMember, decisionMember, same]

theorem get?_decisionMembers (value : Json) {names : List String} (mem : name ∈ names) :
    (Json.obj (names.filterMap (decisionMember value))).get? name = presentValue value name :=
  congrArg (Option.map Prod.snd) (find?_decisionMember value mem)

theorem find?_decisionMembers_eq_none (value : Json) {names : List String} (absent : name ∉ names) :
    (names.filterMap (decisionMember value)).find? (fun kept => kept.1 = name) = none := by
  rw [List.find?_eq_none]
  intro kept keptMem
  obtain ⟨other, otherMem, found⟩ := List.mem_filterMap.mp keptMem
  rw [decide_eq_true_eq, decisionMember_name found]
  rintro rfl
  exact absent otherMem

/-- A decision as `_normalize_approval_decisions` leaves it. -/
structure NormalDecision (decision : Json) : Prop where
  decided : ∃ outcome ∈ ["approved", "denied"],
    decision.get? "decision" = some (.str outcome)
  decidedBy : ∃ name, name ≠ "" ∧ pyStrip name = name ∧
    decision.get? "decided_by" = some (.str name)
  reason : ∃ words, words ≠ "" ∧ pyStrip words = words ∧
    decision.get? "reason" = some (.str words)
  present : ∀ name ∈ keptDecisionMembers, decision.get? name ≠ some .null

theorem get?_normalized {text : TextEnvironment} {decision : Json}
    (normalized : normalizeApprovalDecision text raw = some decision) :
    ∀ name ∈ keptDecisionMembers, decision.get? name = presentValue raw name := by
  simp only [normalizeApprovalDecision] at normalized
  split at normalized
  · cases normalized
  split at normalized
  · cases normalized
  cases normalized
  intro name mem
  rw [← get?_decisionMembers raw mem]
  have others : ∀ other ∈ keptDecisionMembers,
      "decision" ≠ other ∧ "decided_by" ≠ other ∧ "reason" ≠ other := by
    decide
  obtain ⟨notDecision, notDecidedBy, notReason⟩ := others name mem
  simp only [Json.get?, List.cons_append, List.nil_append, List.find?_cons,
    notDecision, notDecidedBy, notReason, decide_false]

theorem normalDecision_of_normalized {text : TextEnvironment} {decision : Json}
    (normalized : normalizeApprovalDecision text raw = some decision) :
    NormalDecision decision := by
  have kept := get?_normalized normalized
  simp only [normalizeApprovalDecision] at normalized
  split at normalized
  · cases normalized
  split at normalized
  · cases normalized
  next valid =>
  simp only [Bool.or_eq_true, Bool.not_eq_true', decide_eq_true_eq, not_or,
    Bool.not_eq_false] at valid
  cases normalized
  refine ⟨⟨_, List.contains_iff_mem.mp valid.1.1, rfl⟩,
    ⟨_, valid.1.2, pyStrip_pyStrip _, rfl⟩, ⟨_, valid.2, pyStrip_pyStrip _, rfl⟩,
    ?_⟩
  intro name mem
  rw [kept name mem]
  exact presentValue_ne_null raw name

theorem normalDecision_of_mem {text : TextEnvironment}
    {decisions : Option Json} {checkpointId : String} {decision : Json}
    (mem : (checkpointId, decision) ∈ normalizeApprovalDecisions text decisions) :
    NormalDecision decision := by
  simp only [normalizeApprovalDecisions] at mem
  split at mem
  · obtain ⟨raw, _, mapped⟩ := List.mem_filterMap.mp mem
    obtain ⟨normalized, found, same⟩ := Option.map_eq_some_iff.mp mapped
    cases same
    exact normalDecision_of_normalized found
  · cases mem

def checkpointOutput (env : AgentEnvironment) (checkpointId : String) (decision : Json) : Json :=
  .obj (decisionPayload checkpointId decision ++
    [("decision_hash", .str (decisionHash env decision
      (decisionPayload checkpointId decision)))])

/-- The members of a payload that may be missing. -/
def optionalDecisionMembers : List String :=
  ["identity_verified", "approver_identity", "decided_at",
    "checkpoint_record_id"]

section Outputs

variable {env : AgentEnvironment} {checkpointId : String}
  {decision : Json}

theorem checkpointOutput_optional (mem : name ∈ optionalDecisionMembers) :
    (checkpointOutput env checkpointId decision).get? name = presentValue decision name := by
  have others : ∀ other ∈ optionalDecisionMembers,
      "checkpoint_id" ≠ other ∧ "decision" ≠ other ∧ "decided_by" ≠ other ∧
        "reason" ≠ other ∧ "decision_source" ≠ other ∧
        "policy_version" ≠ other ∧ "decision_hash" ≠ other := by
    decide
  obtain ⟨notId, notDecision, notDecidedBy, notReason, notSource, notPolicy,
    notHash⟩ := others name mem
  have found := find?_decisionMember decision mem
  simp only [optionalDecisionMembers] at found
  simp only [checkpointOutput, decisionPayload, Json.get?, List.cons_append,
    List.nil_append, List.find?_cons, List.find?_append, notId, notDecision,
    notDecidedBy, notReason, notSource, notPolicy, notHash, decide_false,
    List.find?_nil, found, Option.or_none]
  rfl

theorem checkpointOutput_hash : (checkpointOutput env checkpointId decision).get?
        "decision_hash" =
      some (.str (decisionHash env decision (decisionPayload checkpointId decision))) := by
  have absent := find?_decisionMembers_eq_none decision
    (show "decision_hash" ∉ optionalDecisionMembers by decide)
  simp only [optionalDecisionMembers] at absent
  simp only [checkpointOutput, decisionPayload, Json.get?, List.cons_append,
    List.nil_append, List.find?_cons, List.find?_append, absent,
    Option.none_or]
  rfl

end Outputs

def recordedDecision (env : AgentEnvironment) (checkpointId : String) (decision : Json) : Json :=
  .obj (decisionMembers.filterMap (presentMember (checkpointOutput env checkpointId decision)))

structure SameOutcome (env : AgentEnvironment) (checkpointId : String)
    (given other : Json) : Prop where
  decision : other.get? "decision" = given.get? "decision"
  payload : decisionPayload checkpointId other =
    decisionPayload checkpointId given
  hash : decisionHash env other (decisionPayload checkpointId other) =
    decisionHash env given (decisionPayload checkpointId given)
  verified : other.get? "identity_verified" = given.get? "identity_verified"

section ReadBack

variable {env : AgentEnvironment} {checkpointId : String}
  {decision : Json}

theorem recordedDecision_get? (mem : name ∈ decisionMembers)
    (stored : (checkpointOutput env checkpointId decision).get? name =
      some value) (present : value ≠ .null) :
    (recordedDecision env checkpointId decision).get? name = some value := by
  have notNull : (checkpointOutput env checkpointId decision).get? name ≠ some .null := by
    rw [stored]
    exact fun isNull => present (Option.some.inj isNull)
  rw [← stored]
  exact (get?_decisionMembers _ mem).trans (presentValue_eq notNull)

theorem recordedDecision_decision {outcome : String}
    (stored : decision.get? "decision" = some (.str outcome)) :
    (recordedDecision env checkpointId decision).get? "decision" =
      some (.str outcome) := by
  apply recordedDecision_get? (by decide)
  · show some ((decision.get? "decision").getD .null) = _
    rw [stored]
    rfl
  · nofun

theorem recordedDecision_decidedBy
    (stored : decision.get? "decided_by" = some (.str name)) :
    (recordedDecision env checkpointId decision).get? "decided_by" =
      some (.str name) := by
  apply recordedDecision_get? (by decide)
  · show some ((decision.get? "decided_by").getD .null) = _
    rw [stored]
    rfl
  · nofun

theorem recordedDecision_reason {words : String}
    (stored : decision.get? "reason" = some (.str words)) :
    (recordedDecision env checkpointId decision).get? "reason" =
      some (.str words) := by
  apply recordedDecision_get? (by decide)
  · show some ((decision.get? "reason").getD .null) = _
    rw [stored]
    rfl
  · nofun

theorem getD_ne_null {value : Option Json} {default : String}
    (present : value ≠ some .null) : value.getD (.str default) ≠ .null := by
  cases value with
  | none => nofun
  | some stored => exact fun isNull => present (congrArg some isNull)

theorem recordedDecision_source
    (present : decision.get? "decision_source" ≠ some .null) :
    (recordedDecision env checkpointId decision).get?
        "decision_source" =
      some ((decision.get? "decision_source").getD
        (.str "benchmark_execution_request")) :=
  recordedDecision_get? (by decide) rfl (getD_ne_null present)

theorem recordedDecision_policyVersion
    (present : decision.get? "policy_version" ≠ some .null) :
    (recordedDecision env checkpointId decision).get?
        "policy_version" =
      some ((decision.get? "policy_version").getD
        (.str "human-checkpoint-policy-v1")) :=
  recordedDecision_get? (by decide) rfl (getD_ne_null present)

theorem recordedDecision_optional (mem : name ∈ optionalDecisionMembers)
    (present : decision.get? name ≠ some .null) :
    (recordedDecision env checkpointId decision).get? name = decision.get? name := by
  have isMem : name ∈ decisionMembers := by
    have all : optionalDecisionMembers ⊆ decisionMembers := by decide
    exact all mem
  have stored : (checkpointOutput env checkpointId decision).get? name = decision.get? name :=
    (checkpointOutput_optional mem).trans (presentValue_eq present)
  refine (get?_decisionMembers _ isMem).trans ?_
  rw [presentValue_eq (stored ▸ present), stored]

theorem recordedDecision_hash : (recordedDecision env checkpointId decision).get?
        "decision_hash" =
      some (.str (decisionHash env decision (decisionPayload checkpointId decision))) :=
  recordedDecision_get? (by decide) checkpointOutput_hash nofun

theorem isHexDigest_decisionHash (plain : PlainTexts env) (payload : List (String × Json)) :
    isHexDigest (decisionHash env decision payload) = true := by
  simp only [decisionHash]
  split
  · next supplied => exact supplied
  · exact plain.digest _

theorem decisionHash_of_supplied (plain : PlainTexts env)
    {other : Json} {digest : String} (isDigest : isHexDigest digest = true)
    (supplied : other.get? "decision_hash" = some (.str digest))
    (payload : List (String × Json)) :
    decisionHash env other payload = digest := by
  have plainDigest := plain_of_isHexDigest isDigest
  have kept : env.text.lower (pyStrip (Json.pyStrOrEmpty
      env.text.render (other.get? "decision_hash"))) = digest := by
    rw [supplied, Json.pyStrOrEmpty_str, pyStrip_of_plain plainDigest,
      plain.lower digest plainDigest]
  simp only [decisionHash, kept]
  exact if_pos isDigest

theorem recordedDecision_normalizes (checkpointId : String) (plain : PlainTexts env)
    (normal : NormalDecision decision) :
    ∃ other, normalizeApprovalDecision env.text
        (recordedDecision env checkpointId decision) = some other ∧
      other.get? "decision" = decision.get? "decision" ∧
      other.get? "decided_by" = decision.get? "decided_by" ∧
      other.get? "reason" = decision.get? "reason" := by
  obtain ⟨outcome, outcomeMem, outcomeEq⟩ := normal.decided
  obtain ⟨name, nameSome, nameStripped, nameEq⟩ := normal.decidedBy
  obtain ⟨words, wordsSome, wordsStripped, wordsEq⟩ := normal.reason
  have plainOutcome : isPlainText outcome = true := by
    have both : ∀ text ∈ ["approved", "denied"], isPlainText text = true := by
      decide
    exact both outcome outcomeMem
  have sameOutcome : rawDecision env.text (recordedDecision env
      checkpointId decision) = outcome := by
    rw [rawDecision, recordedDecision_decision outcomeEq, Json.pyStrOrEmpty_str,
      pyStrip_of_plain plainOutcome, plain.lower outcome plainOutcome]
  have sameName : pyStrip (Json.pyStrOrEmpty env.text.render
      ((recordedDecision env checkpointId decision).get?
        "decided_by")) = name := by
    rw [recordedDecision_decidedBy nameEq, Json.pyStrOrEmpty_str, nameStripped]
  have sameWords : pyStrip (Json.pyStrOrEmpty env.text.render
      ((recordedDecision env checkpointId decision).get? "reason")) =
        words := by
    rw [recordedDecision_reason wordsEq, Json.pyStrOrEmpty_str, wordsStripped]
  have known : ["approved", "denied"].contains outcome = true :=
    List.contains_iff_mem.mpr outcomeMem
  refine ⟨.obj ([("decision", .str outcome), ("decided_by", .str name),
    ("reason", .str words)] ++ keptDecisionMembers.filterMap (decisionMember
      (recordedDecision env checkpointId decision))), ?_, ?_, ?_, ?_⟩
  · simp only [normalizeApprovalDecision, sameOutcome, sameName, sameWords,
      known, nameSome, wordsSome, decide_false, Bool.not_true, Bool.or_false]
    rfl
  · rw [outcomeEq]
    rfl
  · rw [nameEq]
    rfl
  · rw [wordsEq]
    rfl

theorem recordedDecision_sameOutcome (checkpointId : String) (plain : PlainTexts env)
    (normal : NormalDecision decision) :
    ∃ other, normalizeApprovalDecision env.text
        (recordedDecision env checkpointId decision) = some other ∧
      SameOutcome env checkpointId decision other := by
  obtain ⟨other, normalized, sameDecision, sameName, sameWords⟩ :=
    recordedDecision_normalizes checkpointId plain normal
  have kept : ∀ name ∈ keptDecisionMembers, ∀ value,
      (recordedDecision env checkpointId decision).get? name = value →
      value ≠ some .null → other.get? name = value := by
    intro name mem value stored present
    rw [get?_normalized normalized name mem, presentValue_eq (stored ▸ present), stored]
  have source := kept "decision_source" (by decide) _
    (recordedDecision_source (normal.present _ (by decide)))
    (fun isNull => getD_ne_null (normal.present "decision_source" (by decide))
      (Option.some.inj isNull))
  have policyVersion := kept "policy_version" (by decide) _
    (recordedDecision_policyVersion (normal.present _ (by decide)))
    (fun isNull => getD_ne_null (normal.present "policy_version" (by decide))
      (Option.some.inj isNull))
  have hash := kept "decision_hash" (by decide) _ recordedDecision_hash nofun
  have optional : ∀ name ∈ optionalDecisionMembers, other.get? name = decision.get? name := by
    intro name mem
    have isKept : name ∈ keptDecisionMembers := by
      have all : optionalDecisionMembers ⊆ keptDecisionMembers := by decide
      exact all mem
    have present := normal.present name isKept
    exact kept name isKept _ (recordedDecision_optional mem present) present
  have payload : decisionPayload checkpointId other = decisionPayload checkpointId decision := by
    have optionalMembers : optionalDecisionMembers.filterMap (decisionMember other) =
          optionalDecisionMembers.filterMap (decisionMember decision) := by
      apply List.filterMap_congr
      intro name mem
      exact decisionMember_congr (optional name mem)
    simp only [decisionPayload, sameDecision, sameName, sameWords, source,
      policyVersion, Option.getD_some]
    exact congrArg (_ ++ ·) optionalMembers
  refine ⟨other, normalized, sameDecision, payload, ?_, optional _ (by decide)⟩
  rw [decisionHash_of_supplied plain (isHexDigest_decisionHash plain _) hash]

end ReadBack

def AgentPreparation.decisionFor (prep : AgentPreparation) (checkpointId : String) : Option Json :=
  (prep.approvalDecisions.lookup checkpointId).or
    (prep.approvalDecisions.lookup "*")

def checkpointStep (env : AgentEnvironment) (call : StepCall)
    (checkpointId : String) (decision : Option Json) : AgentStep :=
  match decision with
  | none =>
    failedStep env call "approval_checkpoint" "pending"
      "approval_pending"
      ("Checkpoint " ++ checkpointId ++ " requires a human decision.")
      (some (.obj
        [("checkpoint_id", .str checkpointId),
          ("decision", .str "pending"),
          ("decision_source", .str "external_request_only"),
          ("decision_hash", .null)])) []
  | some decision =>
    let payload := decisionPayload checkpointId decision
    let hash := decisionHash env decision payload
    let output := .obj (payload ++ [("decision_hash", .str hash)])
    let provenance := hash ≠ "" &&
      ((decision.get? "identity_verified").getD (.bool true)).truthy
    if Json.isText (decision.get? "decision") "approved" then
      { succeededStep env call "approval_checkpoint" "approved"
          output with
        approvalProvenanceValid := provenance }
    else
      { failedStep env call "approval_checkpoint" "denied"
          "approval_denied"
          ("Checkpoint " ++ checkpointId ++
            " was denied by the human approver.") (some output) [] with
        approvalProvenanceValid := provenance }

section Checkpoints

variable {env : AgentEnvironment} {externalCaseId : String}
  {prep : AgentPreparation} {call : StepCall} {checkpointId : String}

theorem executeApprovalCheckpoint_violated (violated : checkpointViolations env prep call
      (pyStrip (call.plannedText env "checkpoint_id")) ≠ []) :
    executeApprovalCheckpoint env prep call =
      policyViolationStep env call "approval_checkpoint"
        (checkpointViolations env prep call
          (pyStrip (call.plannedText env "checkpoint_id"))) := by
  simp only [executeApprovalCheckpoint]
  rw [if_pos]
  simpa using violated

theorem executeApprovalCheckpoint_valid (valid : checkpointViolations env prep call
      (pyStrip (call.plannedText env "checkpoint_id")) = []) :
    executeApprovalCheckpoint env prep call = checkpointStep env call
        (pyStrip (call.plannedText env "checkpoint_id"))
        (prep.decisionFor
          (pyStrip (call.plannedText env "checkpoint_id"))) := by
  simp only [executeApprovalCheckpoint, valid]
  rfl

theorem checkpointStep_sameOutcome {given other : Json}
    (same : SameOutcome env checkpointId given other) :
    checkpointStep env call checkpointId (some other) =
      checkpointStep env call checkpointId (some given) := by
  have hash := same.hash
  rw [same.payload] at hash
  simp only [checkpointStep, same.decision, same.payload, hash, same.verified]

theorem checkpointId_ne_empty (valid : checkpointViolations env prep call checkpointId =
      []) : checkpointId ≠ "" := by
  rintro rfl
  rw [checkpointViolations, if_pos rfl] at valid
  cases valid

theorem checkpointStep_action (env : AgentEnvironment)
    (call : StepCall) (checkpointId : String) (decision : Option Json) :
    (checkpointStep env call checkpointId decision).action =
      "approval_checkpoint" := by
  cases decision with
  | none => rfl
  | some given =>
    simp only [checkpointStep]
    split
    · rfl
    · rfl

theorem checkpointStep_output (given : Json) :
    (checkpointStep env call checkpointId (some given)).output =
      some (checkpointOutput env checkpointId given) := by
  simp only [checkpointStep]
  split
  · rfl
  · rfl

theorem decisionOfStep_toJson {text : TextEnvironment} {other : AgentStep}
    (action : step.action = other.action) (output : step.output = other.output) :
    decisionOfStep text (step.toJson env) = decisionOfStep text (other.toJson env) := by
  have actionEq : (step.toJson env).get? "action" =
      (other.toJson env).get? "action" := by
    show some (Json.str step.action) = some (Json.str other.action)
    rw [action]
  have outputEq : (step.toJson env).get? "output" =
      (other.toJson env).get? "output" := by
    show some (step.output.getD .null) = some (other.output.getD .null)
    rw [output]
  rw [decisionOfStep, decisionOfStep, actionEq, outputEq]

theorem decisionOfStep_of_action {text : TextEnvironment}
    (other : step.action ≠ "approval_checkpoint") :
    decisionOfStep text (step.toJson env) = none := by
  have notCheckpoint : Json.isText ((step.toJson env).get? "action")
      "approval_checkpoint" = false := decide_eq_false other
  rw [decisionOfStep, notCheckpoint]
  rfl

theorem decisionOfStep_of_no_output {text : TextEnvironment} (noOutput : step.output = none) :
    decisionOfStep text (step.toJson env) = none := by
  have isNull : (step.toJson env).get? "output" = some .null := by
    show some (step.output.getD .null) = _
    rw [noOutput]
    rfl
  rw [decisionOfStep, isNull]
  split
  · rfl
  · rfl

theorem decisionOfStep_decided (plain : PlainTexts env) {decision : Json}
    (normal : NormalDecision decision) (stripped : pyStrip checkpointId = checkpointId)
    (named : checkpointId ≠ "")
    (action : step.action = "approval_checkpoint")
    (output : step.output = some (checkpointOutput env checkpointId decision)) :
    decisionOfStep env.text (step.toJson env) = some (checkpointId,
        recordedDecision env checkpointId decision) := by
  obtain ⟨outcome, outcomeMem, outcomeEq⟩ := normal.decided
  obtain ⟨name, nameSome, nameStripped, nameEq⟩ := normal.decidedBy
  obtain ⟨words, wordsSome, wordsStripped, wordsEq⟩ := normal.reason
  have plainOutcome : isPlainText outcome = true := by
    have both : ∀ text ∈ ["approved", "denied"], isPlainText text = true := by
      decide
    exact both outcome outcomeMem
  have isCheckpoint : Json.isText ((step.toJson env).get? "action")
      "approval_checkpoint" = true := decide_eq_true action
  have outputEq : (step.toJson env).get? "output" =
      some (checkpointOutput env checkpointId decision) := by
    show some (step.output.getD .null) = _
    rw [output]
    rfl
  have idEq : strippedMember env.text
      (checkpointOutput env checkpointId decision) "checkpoint_id" =
        checkpointId := by
    show pyStrip (Json.pyStrOrEmpty _ (some (.str checkpointId))) = _
    rw [Json.pyStrOrEmpty_str, stripped]
  have decisionEq : env.text.lower (strippedMember env.text
      (checkpointOutput env checkpointId decision) "decision") =
        outcome := by
    show env.text.lower (pyStrip (Json.pyStrOrEmpty _
      (some ((decision.get? "decision").getD .null)))) = _
    rw [outcomeEq, Option.getD_some, Json.pyStrOrEmpty_str,
      pyStrip_of_plain plainOutcome, plain.lower outcome plainOutcome]
  have decidedByEq : strippedMember env.text
      (checkpointOutput env checkpointId decision) "decided_by" =
        name := by
    show pyStrip (Json.pyStrOrEmpty _
      (some ((decision.get? "decided_by").getD .null))) = _
    rw [nameEq, Option.getD_some, Json.pyStrOrEmpty_str, nameStripped]
  have reasonEq : strippedMember env.text
      (checkpointOutput env checkpointId decision) "reason" =
        words := by
    show pyStrip (Json.pyStrOrEmpty _
      (some ((decision.get? "reason").getD .null))) = _
    rw [wordsEq, Option.getD_some, Json.pyStrOrEmpty_str, wordsStripped]
  have known : ["approved", "denied"].contains outcome = true :=
    List.contains_iff_mem.mpr outcomeMem
  rw [checkpointOutput] at idEq decisionEq decidedByEq reasonEq outputEq
  simp only [decisionOfStep, isCheckpoint, outputEq, idEq, decisionEq,
    decidedByEq, reasonEq, named, known, nameSome, wordsSome, decide_false,
    Bool.not_true, Bool.or_false]
  rfl

theorem decisionOfStep_pending (plain : PlainTexts env) : decisionOfStep env.text
      ((checkpointStep env call checkpointId none).toJson env) = none := by
  have waits : env.text.lower (strippedMember env.text
      (.obj [("checkpoint_id", .str checkpointId),
        ("decision", .str "pending"),
        ("decision_source", .str "external_request_only"),
        ("decision_hash", .null)]) "decision") = "pending" := by
    show env.text.lower (pyStrip (Json.pyStrOrEmpty _
      (some (.str "pending")))) = _
    rw [Json.pyStrOrEmpty_str, pyStrip_of_plain (by decide), plain.lower _ (by decide)]
  have outputEq : ((checkpointStep env call checkpointId none).toJson
      env).get? "output" = some (.obj
        [("checkpoint_id", .str checkpointId), ("decision", .str "pending"),
          ("decision_source", .str "external_request_only"),
          ("decision_hash", .null)]) := rfl
  have isCheckpoint : Json.isText ((checkpointStep env call checkpointId
      none).toJson env |>.get? "action") "approval_checkpoint" =
        true := rfl
  simp only [decisionOfStep, isCheckpoint, outputEq, waits]
  rw [if_neg (by decide), if_pos]
  simp

theorem decision_of_executed (plain : PlainTexts env) (normal : ∀ checkpointId decision,
      prep.decisionFor checkpointId = some decision →
      NormalDecision decision)
    (found : decisionOfStep env.text ((executeAgentStep env
      externalCaseId prep call).toJson env) = some (checkpointId, raw)) :
    ∃ decision, prep.decisionFor checkpointId = some decision ∧
      raw = recordedDecision env checkpointId decision := by
  revert found
  refine executeAgentStep_cases (fun step => decisionOfStep env.text
    (step.toJson env) = some (checkpointId, raw) →
      ∃ decision, prep.decisionFor checkpointId = some decision ∧
        raw = recordedDecision env checkpointId decision)
    ?refused ?approvalCheckpoint ?memoryRead ?memoryWrite ?retrieve ?tool
    ?respond ?unsupported
  case refused =>
    intro _ found
    rw [decisionOfStep_of_no_output rfl] at found
    cases found
  case approvalCheckpoint =>
    intro _ _ found
    by_cases valid : checkpointViolations env prep call
        (pyStrip (call.plannedText env "checkpoint_id")) = []
    · rw [executeApprovalCheckpoint_valid valid] at found
      cases given : prep.decisionFor
          (pyStrip (call.plannedText env "checkpoint_id")) with
      | none =>
        rw [given, decisionOfStep_pending plain] at found
        cases found
      | some decision =>
        rw [given, decisionOfStep_decided plain (normal _ _ given)
          (pyStrip_pyStrip _) (checkpointId_ne_empty valid)
          (checkpointStep_action _ _ _ _) (checkpointStep_output decision)] at found
        cases found
        exact ⟨decision, given, rfl⟩
    · rw [executeApprovalCheckpoint_violated valid, decisionOfStep_of_no_output rfl] at found
      cases found
  case memoryRead =>
    intro _ _ found
    rw [decisionOfStep_of_action (by rw [executeMemoryRead_action]; decide)] at found
    cases found
  case memoryWrite =>
    intro _ _ found
    rw [decisionOfStep_of_action (by rw [executeMemoryWrite_action]; decide)] at found
    cases found
  case retrieve =>
    intro _ _ found
    rw [decisionOfStep_of_action (by rw [executeRetrieval_action]; decide)] at found
    cases found
  case tool =>
    intro _ _ found
    rw [decisionOfStep_of_action (by rw [executeToolAction_action]; decide)] at found
    cases found
  case respond =>
    intro _ _ found
    rw [decisionOfStep_of_action (by rw [executeResponse_action]; decide)] at found
    cases found
  case unsupported =>
    intro _ found
    rw [decisionOfStep_of_no_output rfl] at found
    cases found

end Checkpoints

section Extraction

variable {text : TextEnvironment}

/-- One step of `_approval_decisions_from_trace`. -/
def recordDecision (text : TextEnvironment) (decisions : List (String × Json))
    (step : Json) : List (String × Json) :=
  match decisionOfStep text step with
  | none => decisions
  | some (checkpointId, decision) =>
    Json.setMember decisions checkpointId decision

theorem mem_setMember {members : List (String × Json)} {mem : String × Json} :
    mem ∈ Json.setMember members name value ↔
      (mem ∈ members ∧ mem.1 ≠ name) ∨ mem = (name, value) := by
  simp [Json.setMember]

theorem mem_recordDecision {decisions : List (String × Json)} {step : Json} {mem : String × Json}
    (kept : mem ∈ recordDecision text decisions step) :
    mem ∈ decisions ∨ decisionOfStep text step = some mem := by
  rw [recordDecision] at kept
  split at kept
  · exact Or.inl kept
  · next found =>
      rcases mem_setMember.mp kept with earlier | rfl
      · exact Or.inl earlier.1
      · exact Or.inr found

theorem recordDecision_named {decisions : List (String × Json)} {step : Json}
    {checkpointId : String} (named : (∃ raw, (checkpointId, raw) ∈ decisions) ∨
      ∃ raw, decisionOfStep text step = some (checkpointId, raw)) :
    ∃ raw, (checkpointId, raw) ∈ recordDecision text decisions step := by
  rw [recordDecision]
  rcases named with ⟨raw, mem⟩ | ⟨raw, found⟩
  · split
    · exact ⟨raw, mem⟩
    · next other decision _ =>
        by_cases same : checkpointId = other
        · exact ⟨decision, mem_setMember.mpr (Or.inr (congrArg (·, decision) same))⟩
        · exact ⟨raw, mem_setMember.mpr (Or.inl ⟨mem, same⟩)⟩
  · rw [found]
    exact ⟨raw, mem_setMember.mpr (Or.inr rfl)⟩

theorem mem_foldl_recordDecision (steps : List Json) (decisions : List (String × Json))
    {mem : String × Json} (kept : mem ∈ steps.foldl (recordDecision text) decisions) :
    mem ∈ decisions ∨ ∃ step ∈ steps, decisionOfStep text step = some mem := by
  induction steps generalizing decisions with
  | nil => exact Or.inl kept
  | cons step rest ih =>
    rcases ih _ kept with earlier | ⟨later, laterMem, found⟩
    · rcases mem_recordDecision earlier with before | found
      · exact Or.inl before
      · exact Or.inr ⟨step, List.mem_cons_self .., found⟩
    · exact Or.inr ⟨later, List.mem_cons_of_mem _ laterMem, found⟩

theorem foldl_recordDecision_named (steps : List Json)
    (decisions : List (String × Json)) {checkpointId : String}
    (named : (∃ raw, (checkpointId, raw) ∈ decisions) ∨ ∃ step ∈ steps, ∃ raw,
        decisionOfStep text step = some (checkpointId, raw)) :
    ∃ raw, (checkpointId, raw) ∈ steps.foldl (recordDecision text)
      decisions := by
  induction steps generalizing decisions with
  | nil =>
    rcases named with earlier | ⟨step, mem, _⟩
    · exact earlier
    · cases mem
  | cons step rest ih =>
    apply ih
    rcases named with earlier | ⟨later, laterMem, raw, found⟩
    · exact Or.inl (recordDecision_named (Or.inl earlier))
    · rcases List.mem_cons.mp laterMem with rfl | inRest
      · exact Or.inl (recordDecision_named (Or.inr ⟨raw, found⟩))
      · exact Or.inr ⟨later, inRest, raw, found⟩

theorem mem_approvalDecisions {trace : Json} {mem : String × Json}
    (kept : mem ∈ approvalDecisionsFromAgentTrace text trace) :
    ∃ step ∈ trace.items "steps", decisionOfStep text step = some mem := by
  rcases mem_foldl_recordDecision _ [] kept with none | found
  · cases none
  · exact found

theorem approvalDecisions_named {trace step : Json} {checkpointId : String}
    (mem : step ∈ trace.items "steps")
    (found : decisionOfStep text step = some (checkpointId, raw)) :
    ∃ kept, (checkpointId, kept) ∈ approvalDecisionsFromAgentTrace text trace :=
  foldl_recordDecision_named _ [] (Or.inr ⟨step, mem, raw, found⟩)

end Extraction

theorem lookup_eq_of_unique {decisions : List (String × Json)} {checkpointId : String}
    {decision : Json} (mem : (checkpointId, decision) ∈ decisions)
    (unique : ∀ other, (checkpointId, other) ∈ decisions → other = decision) :
    decisions.lookup checkpointId = some decision := by
  cases found : decisions.lookup checkpointId with
  | none =>
    have absent := List.lookup_eq_none_iff.mp found _ mem
    simp at absent
  | some other => rw [unique other (mem_of_lookup_eq_some found)]

theorem mem_normalizeApprovalDecisions {text : TextEnvironment}
    {members : List (String × Json)} {checkpointId : String} {decision : Json} :
    (checkpointId, decision) ∈ normalizeApprovalDecisions text (some (.obj members)) ↔
      ∃ raw, (checkpointId, raw) ∈ members ∧
        normalizeApprovalDecision text raw = some decision := by
  simp only [normalizeApprovalDecisions, List.mem_filterMap]
  constructor
  · rintro ⟨⟨name, raw⟩, mem, mapped⟩
    obtain ⟨normalized, found, same⟩ := Option.map_eq_some_iff.mp mapped
    cases same
    exact ⟨raw, mem, found⟩
  · rintro ⟨raw, mem, normalized⟩
    exact ⟨(checkpointId, raw), mem, by rw [normalized]; rfl⟩

section Agreement

variable {env : AgentEnvironment} {externalCaseId : String}
  {prep : AgentPreparation} {steps : List AgentStep} {trace : Json}

structure RecordsRun (env : AgentEnvironment) (externalCaseId : String)
    (prep : AgentPreparation) (steps : List AgentStep) (trace : Json) :
    Prop where
  items : trace.items "steps" = steps.map (AgentStep.toJson env)
  executed : ∀ step ∈ steps, ∃ call, step.unmarked =
    executeAgentStep env externalCaseId prep call
  normal : ∀ checkpointId decision,
    prep.decisionFor checkpointId = some decision →
    NormalDecision decision

theorem RecordsRun.readBack (records : RecordsRun env externalCaseId prep steps trace)
    (plain : PlainTexts env) {checkpointId : String}
    (mem : (checkpointId, raw) ∈ approvalDecisionsFromAgentTrace env.text trace) :
    ∃ decision, prep.decisionFor checkpointId = some decision ∧
      raw = recordedDecision env checkpointId decision := by
  obtain ⟨item, itemMem, found⟩ := mem_approvalDecisions mem
  rw [records.items] at itemMem
  obtain ⟨step, stepMem, rfl⟩ := List.mem_map.mp itemMem
  obtain ⟨call, executed⟩ := records.executed step stepMem
  have sameStep : decisionOfStep env.text (step.toJson env) =
      decisionOfStep env.text (step.unmarked.toJson env) :=
    decisionOfStep_toJson rfl rfl
  rw [sameStep, executed] at found
  exact decision_of_executed plain records.normal found

theorem RecordsRun.lookup_eq_none (records : RecordsRun env externalCaseId prep steps trace)
    (plain : PlainTexts env) {checkpointId : String}
    (undecided : prep.decisionFor checkpointId = none) :
    (normalizeApprovalDecisions env.text (some (.obj
      (approvalDecisionsFromAgentTrace env.text trace)))).lookup checkpointId = none := by
  rw [List.lookup_eq_none_iff]
  rintro ⟨name, other⟩ mem
  obtain ⟨raw, rawMem, _⟩ := mem_normalizeApprovalDecisions.mp mem
  obtain ⟨decision, decided, _⟩ := records.readBack plain rawMem
  rw [bne_iff_ne]
  rintro rfl
  rw [undecided] at decided
  cases decided

theorem RecordsRun.lookup_sameOutcome (records : RecordsRun env externalCaseId prep steps trace)
    (plain : PlainTexts env) {checkpointId : String} {decision : Json}
    (decided : prep.decisionFor checkpointId = some decision) (mem : step ∈ steps)
    (found : decisionOfStep env.text (step.toJson env) = some (checkpointId,
        recordedDecision env checkpointId decision)) :
    ∃ other, (normalizeApprovalDecisions env.text (some (.obj
        (approvalDecisionsFromAgentTrace env.text trace)))).lookup checkpointId = some other ∧
      SameOutcome env checkpointId decision other := by
  have onlyRecorded : ∀ raw, (checkpointId, raw) ∈ approvalDecisionsFromAgentTrace env.text trace →
      raw = recordedDecision env checkpointId decision := by
    intro raw rawMem
    obtain ⟨given, givenFor, rfl⟩ := records.readBack plain rawMem
    rw [decided] at givenFor
    rw [Option.some.inj givenFor]
  have inTrace : step.toJson env ∈ trace.items "steps" := by
    rw [records.items]
    exact List.mem_map_of_mem mem
  obtain ⟨raw, rawMem⟩ := approvalDecisions_named inTrace found
  rw [onlyRecorded raw rawMem] at rawMem
  obtain ⟨other, normalized, same⟩ := recordedDecision_sameOutcome
    checkpointId plain (records.normal _ _ decided)
  refine ⟨other, lookup_eq_of_unique ?_ ?_, same⟩
  · exact mem_normalizeApprovalDecisions.mpr ⟨_, rawMem, normalized⟩
  · intro given givenMem
    obtain ⟨givenRaw, givenRawMem, givenNormalized⟩ :=
      mem_normalizeApprovalDecisions.mp givenMem
    rw [onlyRecorded givenRaw givenRawMem, normalized] at givenNormalized
    exact (Option.some.inj givenNormalized).symm

theorem RecordsRun.executeApprovalCheckpoint_eq
    (records : RecordsRun env externalCaseId prep steps trace)
    (plain : PlainTexts env) {decisions : List (String × Json)}
    (readBack : decisions = normalizeApprovalDecisions env.text
      (some (.obj (approvalDecisionsFromAgentTrace env.text trace))))
    {call : StepCall} (mem : step ∈ steps)
    (answered : executeApprovalCheckpoint env prep call = step.unmarked) :
    executeApprovalCheckpoint env
        { prep with approvalDecisions := decisions } call =
      executeApprovalCheckpoint env prep call := by
  by_cases valid : checkpointViolations env prep call
      (pyStrip (call.plannedText env "checkpoint_id")) = []
  · have own := executeApprovalCheckpoint_valid valid
    have validAfter : checkpointViolations env
        { prep with approvalDecisions := decisions } call
        (pyStrip (call.plannedText env "checkpoint_id")) = [] := valid
    rw [own] at answered
    refine (executeApprovalCheckpoint_valid validAfter).trans (Eq.trans ?_ own.symm)
    cases decided : prep.decisionFor
        (pyStrip (call.plannedText env "checkpoint_id")) with
    | none =>
      have anyUndecided : prep.decisionFor "*" = none := by
        rw [AgentPreparation.decisionFor, Option.or_eq_none_iff] at decided
        rw [AgentPreparation.decisionFor, decided.2]
        rfl
      rw [AgentPreparation.decisionFor, readBack, records.lookup_eq_none plain decided,
        records.lookup_eq_none plain anyUndecided]
      rfl
    | some decision =>
      rw [decided] at answered
      have sameStep : decisionOfStep env.text (step.toJson env) = decisionOfStep env.text
            (step.unmarked.toJson env) :=
        decisionOfStep_toJson rfl rfl
      have found := decisionOfStep_decided plain (records.normal _ _ decided) (pyStrip_pyStrip _)
        (checkpointId_ne_empty valid) (checkpointStep_action env call _ (some decision))
        (checkpointStep_output decision)
      rw [answered, ← sameStep] at found
      obtain ⟨other, lookedUp, same⟩ :=
        records.lookup_sameOutcome plain decided mem found
      rw [AgentPreparation.decisionFor, readBack, lookedUp]
      exact checkpointStep_sameOutcome same
  · have violatedAfter : checkpointViolations env
        { prep with approvalDecisions := decisions } call
        (pyStrip (call.plannedText env "checkpoint_id")) ≠ [] := valid
    exact (executeApprovalCheckpoint_violated violatedAfter).trans
      (executeApprovalCheckpoint_violated valid).symm

theorem RecordsRun.executeAgentStep_eq (records : RecordsRun env externalCaseId prep steps trace)
    (plain : PlainTexts env) {decisions : List (String × Json)}
    (readBack : decisions = normalizeApprovalDecisions env.text
      (some (.obj (approvalDecisionsFromAgentTrace env.text trace))))
    {call : StepCall} (mem : step ∈ steps)
    (answered : executeAgentStep env externalCaseId prep call = step.unmarked) :
    executeAgentStep env externalCaseId
        { prep with approvalDecisions := decisions } call =
      executeAgentStep env externalCaseId prep call := by
  by_cases refused : (!(stepViolations env prep call).isEmpty) = true
  · exact (if_pos refused).trans (if_pos refused).symm
  by_cases checkpoint :
      call.plannedText env "action" = "approval_checkpoint"
  · have own : executeAgentStep env externalCaseId prep call =
        executeApprovalCheckpoint env prep call :=
      (if_neg refused).trans (if_pos checkpoint)
    rw [own] at answered
    exact ((if_neg refused).trans (if_pos checkpoint)).trans
      ((records.executeApprovalCheckpoint_eq plain readBack mem answered).trans own.symm)
  · exact ((if_neg refused).trans (if_neg checkpoint)).trans
      ((if_neg refused).trans (if_neg checkpoint)).symm

end Agreement

end ModelAtlas.Agent
