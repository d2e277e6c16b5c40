import Mathlib.Data.List.Dedup
import ModelAtlas.Foundations.Outcomes
import ModelAtlas.Rag.Outputs

/-!
# Successful outputs are grounded

What a successful trace of `evaluate_rag_output` says of its output: the claims,
the citations and the contracts of a retrieval that `retrieve` made.
-/

namespace ModelAtlas.Rag

open Foundations CasePacks

variable {env : RagEnvironment}

section Evidence

variable {groups : List (List String)} {observed chunkIds : List String}

theorem evidenceSatisfied_iff : evidenceSatisfied groups observed = true →
    ∃ group ∈ groups, ∀ chunkId ∈ group, chunkId ∈ observed := by
  intro satisfied
  rw [evidenceSatisfied, Option.any_eq_true] at satisfied
  obtain ⟨best, found, isOne⟩ := satisfied
  obtain ⟨mem, isCoverage, _⟩ := bestOf_spec found
  rw [decide_eq_true_iff, isCoverage] at isOne
  refine ⟨best.1.1, List.fst_mem_of_mem_zipIdx mem, fun chunkId isMem => ?_⟩
  have nonzero : (best.1.1.length : Rat) ≠ 0 := by
    exact_mod_cast (List.length_pos_of_mem isMem).ne'
  rw [div_eq_one_iff_eq nonzero] at isOne
  have all := List.countP_eq_length.mp (by exact_mod_cast isOne) chunkId isMem
  simpa using all

theorem chunkIdList_textArray {value : Option Json} {name : String}
    (parsed : chunkIdList value name = .ok chunkIds) (other : String) :
    chunkIdList (some (textArray chunkIds)) other = .ok chunkIds := by
  have again : ∀ {items : List Json} {texts : List String}, strippedTexts items = some texts →
      strippedTexts (texts.map .str) = some texts := by
    intro items
    induction items with
    | nil =>
      intro texts stripped
      cases stripped
      rfl
    | cons item rest ih =>
      intro texts stripped
      rw [strippedTexts, List.mapM_cons] at stripped
      obtain ⟨text, isText, stripped⟩ := Option.bind_eq_some_iff.mp stripped
      obtain ⟨others, isOthers, same⟩ := Option.bind_eq_some_iff.mp stripped
      cases same
      have below := ih isOthers
      cases item with
      | str written =>
        dsimp only at isText
        split at isText
        · cases isText
        · next present =>
          cases isText
          rw [List.map_cons, strippedTexts, List.mapM_cons]
          dsimp only
          rw [pyStrip_pyStrip, if_neg present]
          rw [strippedTexts] at below
          rw [below]
          rfl
      | _ => cases isText
  cases value with
  | none => cases parsed
  | some found =>
    cases found with
    | arr items =>
      rw [chunkIdList] at parsed
      cases stripped : strippedTexts items with
      | none => rw [stripped] at parsed; cases parsed
      | some texts =>
        rw [stripped] at parsed
        dsimp only at parsed
        split at parsed
        · next distinct =>
          cases parsed
          rw [textArray, chunkIdList, again stripped]
          exact if_pos distinct
        · cases parsed
    | _ => cases parsed

structure ReadEvidence (contract : Json) (expectation : RagEvidenceExpectation) : Prop where
  primary : chunkIdList (contract.get? "relevant_chunk_ids") "relevant_chunk_ids" =
    .ok expectation.primaryChunkIds
  groups : (∃ groups, contract.get? "acceptable_evidence_groups" = some (.arr groups) ∧
      expectation.contractVersion = anyOfEvidenceVersion ∧
      groups.zipIdx.mapM (fun group => chunkIdList (some group.1)
        ("acceptable_evidence_groups[" ++ toString group.2 ++ "]")) =
          .ok expectation.acceptableGroups) ∨
    ((∀ groups, contract.get? "acceptable_evidence_groups" ≠ some (.arr groups)) ∧
      expectation.contractVersion = legacyEvidenceVersion ∧
      expectation.acceptableGroups = [expectation.primaryChunkIds])

theorem parseRagEvidenceExpectation_yields (contract : Json) :
    Yields (parseRagEvidenceExpectation contract) (ReadEvidence contract) := by
  rw [parseRagEvidenceExpectation]
  refine Yields.bind (Yields.self _) (fun primary readPrimary => ?_)
  refine Yields.check (fun _ => ?_)
  dsimp only
  cases found : contract.get? "acceptable_evidence_groups" with
  | none =>
    dsimp only
    rw [isAbsent, if_pos rfl]
    refine Yields.check (fun _ => ?_)
    exact Yields.pure ⟨readPrimary, Or.inr ⟨by simp [found], rfl, rfl⟩⟩
  | some value =>
    cases value with
    | arr groups =>
      dsimp only
      refine Yields.check (fun _ => ?_)
      refine Yields.check (fun _ => ?_)
      refine Yields.bind (Yields.self _) (fun parsed readGroups => ?_)
      refine Yields.check (fun _ => ?_)
      refine Yields.check (fun _ => ?_)
      refine Yields.check (fun _ => ?_)
      exact Yields.pure ⟨readPrimary, Or.inl ⟨groups, found, rfl, readGroups⟩⟩
    | null =>
      dsimp only
      rw [isAbsent, if_pos rfl]
      refine Yields.check (fun _ => ?_)
      exact Yields.pure ⟨readPrimary, Or.inr ⟨by simp [found], rfl, rfl⟩⟩
    | _ =>
      dsimp only
      rw [if_neg (by simp [isAbsent])]
      refine Yields.check (fun _ => ?_)
      exact Yields.throw _

theorem mapM_textArray : ∀ (groups : List (List String)) (start : Nat),
    (∀ group ∈ groups, ∀ name, chunkIdList (some (textArray group)) name = .ok group) →
    ((groups.map textArray).zipIdx start).mapM (fun group => chunkIdList (some group.1)
      ("acceptable_evidence_groups[" ++ toString group.2 ++ "]")) = .ok groups
  | [], _, _ => rfl
  | group :: rest, start, read => by
    rw [List.map_cons, List.zipIdx_cons, List.mapM_cons, read group List.mem_cons_self,
      mapM_textArray rest (start + 1) (fun other mem => read other (List.mem_cons_of_mem _ mem))]
    rfl

theorem acceptableGroups_of_retrieve {corpus : Agent.RagCorpus} {req : RetrievalRequest}
    {trace : RagRetrievalTrace} {expectation : RagEvidenceExpectation}
    (retrieved : retrieve env corpus req = .ok trace)
    (parsed : parseRagEvidenceExpectation trace.payload = .ok expectation) :
    expectation.acceptableGroups = trace.acceptableEvidenceGroups := by
  obtain ⟨requested, parsedRequest, isTrace⟩ := bind_eq_ok_iff.mp retrieved
  obtain rfl := Except.ok.inj isTrace
  have first := parseRagEvidenceExpectation_yields _ requested parsedRequest
  have second := parseRagEvidenceExpectation_yields _ expectation parsed
  have samePrimary : expectation.primaryChunkIds = requested.primaryChunkIds := by
    have primary := second.primary
    have given : req.payload.get? "relevant_chunk_ids" =
        some (textArray req.relevantChunkIds) := rfl
    have again : ∀ trace : RagRetrievalTrace, trace.payload.get? "relevant_chunk_ids" =
        some (textArray trace.expectedRelevantChunkIds) := fun _ => rfl
    rw [again] at primary
    have requestedPrimary := first.primary
    rw [given] at requestedPrimary
    exact Except.ok.inj (primary.symm.trans requestedPrimary)
  rcases first.groups with ⟨groups, _, version, read⟩ | ⟨_, version, isPrimary⟩
  · have isGiven : ∀ trace : RagRetrievalTrace,
        trace.evidenceContractVersion = anyOfEvidenceVersion →
        trace.payload.get? "acceptable_evidence_groups" =
          some (groupArray trace.acceptableEvidenceGroups) := by
      intro trace isVersion
      rw [RagRetrievalTrace.payload, if_pos isVersion]
      rfl
    rcases second.groups with ⟨given, found, _, readAgain⟩ | ⟨none, _, _⟩
    · rw [isGiven _ version] at found
      cases found
      refine Except.ok.inj (readAgain.symm.trans (mapM_textArray _ 0 fun group mem name => ?_))
      obtain ⟨_, _, isGroup⟩ := exists_of_mapM_eq_ok read group mem
      exact chunkIdList_textArray isGroup name
    · exact absurd (isGiven _ version) (none _)
  · have notGiven : ∀ trace : RagRetrievalTrace,
        trace.evidenceContractVersion = legacyEvidenceVersion →
        trace.payload.get? "acceptable_evidence_groups" = none := by
      intro trace isVersion
      rw [RagRetrievalTrace.payload, isVersion, if_neg (by decide)]
      rfl
    rcases second.groups with ⟨given, found, _⟩ | ⟨_, _, isPrimaryAgain⟩
    · rw [notGiven _ version] at found
      cases found
    · rw [isPrimaryAgain, samePrimary]
      exact isPrimary.symm

end Evidence

/-- A cited text supports a claim: one contains the other, up to case, or the text has 60
percent of its tokens. -/
def Supports (env : RagEnvironment) (claim text : String) : Prop :=
  tokens env.toRagTextEnvironment claim ≠ [] ∧
    (pyContains (env.lower text) (env.lower claim) = true ∨
      pyContains (env.lower claim) (env.lower text) = true ∨
      3 / 5 ≤ coverage (tokens env.toRagTextEnvironment claim)
        (tokens env.toRagTextEnvironment text))

theorem supports_iff {claim text : String} :
    3 / 5 ≤ supportScore env claim text ↔ Supports env claim text := by
  rw [supportScore, Supports]
  by_cases empty : tokens env.toRagTextEnvironment claim = []
  · rw [if_pos empty]
    exact iff_of_false (by decide +kernel) (fun supports => supports.1 empty)
  · rw [if_neg empty, and_iff_right empty, ← or_assoc, ← Bool.or_eq_true]
    cases contained : pyContains (env.lower text) (env.lower claim) ||
        pyContains (env.lower claim) (env.lower text) with
    | true =>
      rw [if_pos rfl]
      exact iff_of_true (by decide +kernel) (Or.inl rfl)
    | false => rw [if_neg Bool.false_ne_true, or_iff_right Bool.false_ne_true]

theorem exists_supports {claim : String} {citedTexts : List String}
    (supported : 3 / 5 ≤ claimSupportScore env claim citedTexts) :
    ∃ text ∈ citedTexts, Supports env claim text := by
  have highest : ∀ (scores : List Rat) (start : Rat),
      scores.foldl max start = start ∨ scores.foldl max start ∈ scores := by
    intro scores
    induction scores with
    | nil => exact fun _ => Or.inl rfl
    | cons score rest ih =>
      intro start
      rw [List.foldl_cons]
      rcases ih (max start score) with same | mem
      · rw [same]
        rcases max_choice start score with isStart | isScore
        · exact Or.inl isStart
        · refine Or.inr ?_
          rw [isScore]
          exact List.mem_cons_self
      · exact Or.inr (List.mem_cons_of_mem _ mem)
  rw [claimSupportScore] at supported
  rcases highest (citedTexts.map (supportScore env claim)) 0 with none | mem
  · rw [none] at supported
    exact absurd supported (by decide +kernel)
  · obtain ⟨text, isCited, isScore⟩ := List.mem_map.mp mem
    exact ⟨text, isCited, supports_iff.mp (isScore ▸ supported)⟩

theorem forall_of_dedup_filter {Item : Type} [DecidableEq Item] {keeps : Item → Bool}
    {items : List Item}
    (full : 1 ≤ ((items.filter keeps).dedup.length : Rat) / items.dedup.length) :
    ∀ item ∈ items, keeps item = true := by
  intro item mem
  have positive : (0 : Rat) < (items.dedup.length : Rat) := by
    exact_mod_cast List.length_pos_of_mem (List.mem_dedup.mpr mem)
  rw [one_le_div positive, Nat.cast_le] at full
  have subset : (items.filter keeps).dedup ⊆ items.dedup := by
    intro other isOther
    rw [List.mem_dedup] at isOther ⊢
    exact List.mem_of_mem_filter isOther
  have perm := (List.subperm_of_subset (List.nodup_dedup _) subset).perm_of_length_le full
  have kept := perm.mem_iff.mpr (List.mem_dedup.mpr mem)
  exact (List.mem_filter.mp (List.mem_dedup.mp kept)).2

/-- What an output says is cited, is in the evidence and meets its contracts. -/
structure Grounded (env : RagEnvironment) (trace : RagRetrievalTrace) (normalizedOutput : String)
    (evaluation : RagEvaluationTrace) : Prop where
  object : ∃ members, env.loads normalizedOutput = some (.obj members) ∧
    evaluation.answer = answerOf env (.obj members)
  answer : evaluation.answer ≠ ""
  citations : ∀ citation ∈ evaluation.citations,
    (∃ chunk, trace.chunk? citation = some chunk) ∧
      ∃ group ∈ trace.acceptableEvidenceGroups, citation ∈ group
  group : ∃ group ∈ trace.acceptableEvidenceGroups, ∀ chunkId ∈ group,
    chunkId ∈ evaluation.citations ∧ ∃ chunk, trace.chunk? chunkId = some chunk
  claims : ∀ claim ∈ evaluation.claims, ∃ citation ∈ evaluation.citations, ∃ chunk,
    trace.chunk? citation = some chunk ∧ Supports env claim chunk.text
  refusal : evaluation.semantic.refusalSatisfied = true
  required : evaluation.semantic.requiredFactContractSatisfied = true
  forbidden : evaluation.semantic.forbiddenClaimViolationCount = 0
  answerContract : evaluation.answerContractSatisfied = true

theorem evaluateRagOutput_grounded {corpus : Agent.RagCorpus} {req : RetrievalRequest}
    {trace : RagRetrievalTrace} (retrieved : retrieve env corpus req = .ok trace)
    (expectedOutput answerContract : Option Json) {normalizedOutput : String}
    {evaluation : RagEvaluationTrace}
    (evaluated : evaluateRagOutput env normalizedOutput trace expectedOutput answerContract =
      .ok evaluation) :
    (evaluation.successful = true → Grounded env trace normalizedOutput evaluation) ∧
      ((∃ claim ∈ evaluation.claims, ∀ citation ∈ evaluation.citations, ∀ chunk,
          trace.chunk? citation = some chunk → ¬ Supports env claim chunk.text) →
        evaluation.successful = false) := by
  have grounded : evaluation.successful = true →
      Grounded env trace normalizedOutput evaluation := by
    rw [evaluateRagOutput] at evaluated
    obtain ⟨expectation, parsed, evaluated⟩ := bind_eq_ok_iff.mp evaluated
    obtain ⟨semanticExpectation, _, evaluated⟩ := bind_eq_ok_iff.mp evaluated
    obtain rfl := Except.ok.inj evaluated
    intro successful
    simp only [Bool.and_eq_true, decide_eq_true_iff, Bool.not_eq_true', List.isEmpty_eq_false_iff,
      List.isEmpty_iff] at successful
    obtain ⟨⟨⟨⟨⟨⟨⟨⟨⟨⟨⟨present, someCitations⟩, someClaims⟩, _⟩, _⟩, precise⟩, satisfied⟩, _⟩,
      supported⟩, noInvalid⟩, semantic⟩, answered⟩ := successful
    have groups := acceptableGroups_of_retrieve retrieved parsed
    have contracts := satisfied_contracts_iff.mp semantic
    rw [if_neg someClaims] at supported
    rw [if_neg someCitations] at precise
    refine ⟨?_, present, ?_, ?_, ?_, contracts.1, contracts.2.1, contracts.2.2, answered⟩
    · cases loaded : env.loads normalizedOutput with
      | none =>
        rw [loaded] at someClaims
        exact absurd rfl someClaims
      | some value =>
        cases value with
        | obj members => exact ⟨members, rfl, rfl⟩
        | _ =>
          rw [loaded] at someClaims
          exact absurd rfl someClaims
    · intro citation mem
      have isCorrect := forall_of_dedup_filter precise citation mem
      rw [Bool.and_eq_true, Option.isSome_iff_exists, List.contains_iff_mem, List.mem_flatten,
        groups] at isCorrect
      exact isCorrect
    · obtain ⟨group, isGroup, all⟩ := evidenceSatisfied_iff satisfied
      refine ⟨group, groups ▸ isGroup, fun chunkId isMem => ?_⟩
      have isCorrect := List.mem_filter.mp (all chunkId isMem)
      rw [Bool.and_eq_true, Option.isSome_iff_exists] at isCorrect
      exact ⟨isCorrect.1, isCorrect.2.1⟩
    · intro claim mem
      have noneUnsupported := (div_eq_zero_iff.mp supported).resolve_right
        (by exact_mod_cast (List.length_pos_of_mem mem).ne')
      rw [Nat.cast_eq_zero, List.countP_eq_zero] at noneUnsupported
      have reaches := noneUnsupported _ (List.mem_map_of_mem mem)
      rw [decide_eq_true_iff, not_lt] at reaches
      obtain ⟨text, isCited, supports⟩ := exists_supports reaches
      obtain ⟨citation, isCitation, isText⟩ := List.mem_filterMap.mp isCited
      obtain ⟨chunk, found, rfl⟩ := Option.map_eq_some_iff.mp isText
      exact ⟨citation, isCitation, chunk, found, supports⟩
  refine ⟨grounded, ?_⟩
  rintro ⟨claim, mem, unsupported⟩
  rw [← Bool.not_eq_true]
  intro successful
  obtain ⟨citation, isCited, chunk, found, supports⟩ := (grounded successful).claims claim mem
  exact unsupported citation isCited chunk found supports

/-! A claim that is a part of a longer word of its chunk. -/

def partEnvironment : RagEnvironment where
  lower := id
  render _ := ""
  isWord := Char.isAlphanum
  roundScore := id
  loads _ := some (.obj [("answer", .str "gate"), ("citations", .arr [.str "KO-1"]),
    ("claims", .arr [.str "gate"])])

def partCorpus : Agent.RagCorpus := ⟨"ko", "1", "hash", [⟨"KO-1", "doc", "title", "aggregated"⟩]⟩

def partRequest : RetrievalRequest := ⟨"aggregated", ["KO-1"], none, none, 3, 1 / 20⟩

theorem part_evaluated : ∃ trace evaluation,
    retrieve partEnvironment partCorpus partRequest = .ok trace ∧
      evaluateRagOutput partEnvironment "{}" trace none none = .ok evaluation ∧
      (evaluation.successful && evaluation.claims.all (fun claim =>
        evaluation.citations.all (fun citation => (trace.chunk? citation).all (fun chunk =>
          decide (coverage (tokens partEnvironment.toRagTextEnvironment claim)
            (tokens partEnvironment.toRagTextEnvironment chunk.text) < 3 / 5)))) &&
        !evaluation.claims.isEmpty) = true := by
  have computed : (do
      let trace ← retrieve partEnvironment partCorpus partRequest
      let evaluation ← evaluateRagOutput partEnvironment "{}" trace none none
      Except.ok (evaluation.successful && evaluation.claims.all (fun claim =>
        evaluation.citations.all (fun citation => (trace.chunk? citation).all (fun chunk =>
          decide (coverage (tokens partEnvironment.toRagTextEnvironment claim)
            (tokens partEnvironment.toRagTextEnvironment chunk.text) < 3 / 5)))) &&
        !evaluation.claims.isEmpty)) = (.ok true : Except String Bool) := by
    decide +kernel
  obtain ⟨trace, retrieved, computed⟩ := bind_eq_ok_iff.mp computed
  obtain ⟨evaluation, evaluated, computed⟩ := bind_eq_ok_iff.mp computed
  exact ⟨trace, evaluation, retrieved, evaluated, Except.ok.inj computed⟩

theorem evaluateRagOutput_grounded_part : ∃ trace evaluation,
    retrieve partEnvironment partCorpus partRequest = .ok trace ∧
      evaluateRagOutput partEnvironment "{}" trace none none = .ok evaluation ∧
      Grounded partEnvironment trace "{}" evaluation := by
  obtain ⟨trace, evaluation, retrieved, evaluated, computed⟩ := part_evaluated
  rw [Bool.and_eq_true, Bool.and_eq_true] at computed
  exact ⟨trace, evaluation, retrieved, evaluated,
    (evaluateRagOutput_grounded retrieved none none evaluated).1 computed.1.1⟩

/-- The claim has no token of its cited chunk, and its trace is successful. -/
theorem evaluateRagOutput_part_ungrounded : ∃ trace evaluation,
    retrieve partEnvironment partCorpus partRequest = .ok trace ∧
      evaluateRagOutput partEnvironment "{}" trace none none = .ok evaluation ∧
      evaluation.successful = true ∧
      ∃ claim ∈ evaluation.claims, ∀ citation ∈ evaluation.citations, ∀ chunk,
        trace.chunk? citation = some chunk →
          coverage (tokens partEnvironment.toRagTextEnvironment claim)
            (tokens partEnvironment.toRagTextEnvironment chunk.text) < 3 / 5 := by
  obtain ⟨trace, evaluation, retrieved, evaluated, computed⟩ := part_evaluated
  rw [Bool.and_eq_true, Bool.and_eq_true, List.all_eq_true, Bool.not_eq_true',
    List.isEmpty_eq_false_iff] at computed
  obtain ⟨claim, isClaim⟩ := List.exists_mem_of_ne_nil _ computed.2
  refine ⟨trace, evaluation, retrieved, evaluated, computed.1.1, claim, isClaim, ?_⟩
  intro citation isCited chunk found
  have low := List.all_eq_true.mp (computed.1.2 claim isClaim) citation isCited
  rw [found] at low
  exact of_decide_eq_true low

end ModelAtlas.Rag
