import Mathlib.Algebra.Order.Field.Basic
import Mathlib.Algebra.Order.Field.Rat
import ModelAtlas.CasePacks.Contracts
import ModelAtlas.Rag.Texts

/-!
# Semantic contracts of answers

`rag_semantic_contract.py` and `_evaluate_semantic_contract` of
`rag_pipeline/scoring.py`.  A score is the quotient of two counts, and is not
rounded here.
-/

namespace ModelAtlas.Rag

open Foundations
open CasePacks (stringTuple isAbsent legacySemanticVersion anyOfSemanticVersion)

structure RagSemanticExpectation where
  contractVersion : String
  mustRefuse : Option Bool
  primaryRequiredFacts : List String
  acceptableRequiredFactGroups : List (List String)
  forbiddenClaims : List String
  groupsNonempty : [] ∉ acceptableRequiredFactGroups

def parseRagSemanticExpectation (payload : Json) : Except String RagSemanticExpectation := do
  let requiredFacts ← stringTuple (payload.get? "required_facts") "required_facts"
  let forbiddenClaims ← stringTuple (payload.get? "forbidden_claims") "forbidden_claims"
  let mustRefuse := match payload.get? "must_refuse" with
    | some (.bool value) => some value
    | _ => none
  let declared := payload.get? "semantic_contract_version"
  let groupsPayload := payload.get? "acceptable_required_fact_groups"
  if isAbsent groupsPayload then
    if isAbsent declared || Json.isText declared legacySemanticVersion then
      .ok ⟨legacySemanticVersion, mustRefuse, requiredFacts,
        if requiredFacts = [] then [] else [requiredFacts], forbiddenClaims, by
          split
          · exact List.not_mem_nil
          · next present => simpa using Ne.symm present⟩
    else .error "acceptable_required_fact_groups are required for rag-semantic-contract-v2"
  else if !Json.isText declared anyOfSemanticVersion then
    .error ("acceptable_required_fact_groups require semantic_contract_version " ++
      "rag-semantic-contract-v2")
  else if requiredFacts.isEmpty then
    .error "rag-semantic-contract-v2 requires primary required_facts"
  else match groupsPayload with
    | some (.arr (first :: rest)) => do
      let groups ← (first :: rest).mapM (fun group =>
        stringTuple (some group) "acceptable_required_fact_groups item")
      if nonempty : [] ∈ groups then
        .error "acceptable required-fact groups may not be empty"
      else if groups.head? ≠ some requiredFacts then
        .error "the first acceptable required-fact group must equal required_facts"
      else if ¬ groups.Nodup then .error "acceptable required-fact groups must be unique"
      else .ok ⟨anyOfSemanticVersion, mustRefuse, requiredFacts, groups, forbiddenClaims, nonempty⟩
    | _ => .error "acceptable_required_fact_groups must be a non-empty list"

def semanticFactMatchThreshold : Rat := 1 / 2

def forbiddenClaimMatchThreshold : Rat := 3 / 4

/-- `len(wanted & found) / len(wanted)` of sets, and `0` where one is empty. -/
def coverage (wanted found : List String) : Rat :=
  if wanted = [] ∨ found = [] then 0
  else (wanted.dedup.countP (fun token => found.contains token) : Rat) / wanted.dedup.length

structure SemanticMatch where
  expectation : String
  matched : Bool
  score : Rat
  matchedText : String
  negated : Bool
  threshold : Rat

structure SemanticEvaluation where
  (declared satisfied : Bool)
  (refusalDetected refusalSatisfied : Bool)
  requiredFactGroupResults : List (List SemanticMatch)
  requiredFactResults : List SemanticMatch
  requiredFactCoverage : Rat
  requiredFactContractSatisfied : Bool
  satisfiedRequiredFactGroupIndex : Option Nat
  forbiddenClaimResults : List SemanticMatch
  forbiddenClaimViolationCount : Nat

section Evaluation

variable (env : RagTextEnvironment)

def semanticMatchScore (expectation candidate : String) : Rat :=
  coverage (semanticTokens env expectation) (semanticTokens env candidate)

def semanticMatchResult (expectation : String) (candidateTexts : List String) (threshold : Rat)
    (rejectNegated : Bool) : SemanticMatch :=
  let best := firstBest (semanticMatchScore env expectation) candidateTexts ("", 0)
  let negated := best.1 ≠ "" && containsNegation env best.1
  ⟨expectation, threshold ≤ best.2 && !(rejectNegated && negated), best.2, best.1, negated,
    threshold⟩

def groupCoverage (results : List SemanticMatch) : Rat :=
  (results.countP SemanticMatch.matched : Rat) / results.length

/-- `max` of the groups, with their positions, by coverage; the first of the
best. -/
def bestGroup (groups : List (List SemanticMatch)) : Option ((List SemanticMatch × Nat) × Rat) :=
  bestOf (fun group : List SemanticMatch × Nat => groupCoverage group.1) groups.zipIdx

def candidateTexts (answer : String) (claims : List String) : List String :=
  (answer :: claims).filter (fun text => text ≠ "")

/-- `_evaluate_semantic_contract`, of an expectation that was parsed. -/
def evaluateSemanticContract (expectation : RagSemanticExpectation) (answer : String)
    (claims : List String) : SemanticEvaluation :=
  let texts := candidateTexts answer claims
  let detected := detectRefusal env texts
  let refusalSatisfied := expectation.mustRefuse.all (fun mustRefuse => detected = mustRefuse)
  let groupResults := expectation.acceptableRequiredFactGroups.map (fun group =>
    group.map (fun fact =>
      semanticMatchResult env fact texts semanticFactMatchThreshold false))
  let best := bestGroup groupResults
  let requiredCoverage := (best.map Prod.snd).getD 1
  let requiredSatisfied : Bool := requiredCoverage = 1
  let forbidden := expectation.forbiddenClaims.map (fun claim =>
    semanticMatchResult env claim texts forbiddenClaimMatchThreshold true)
  let violations := forbidden.countP SemanticMatch.matched
  let declared := expectation.mustRefuse.isSome || !groupResults.isEmpty || !forbidden.isEmpty
  { declared := declared
    satisfied := !declared || (refusalSatisfied && requiredSatisfied && violations = 0)
    refusalDetected := detected
    refusalSatisfied := refusalSatisfied
    requiredFactGroupResults := groupResults
    requiredFactResults := (best.map (fun best => best.1.1)).getD []
    requiredFactCoverage := requiredCoverage
    requiredFactContractSatisfied := requiredSatisfied
    satisfiedRequiredFactGroupIndex :=
      if requiredSatisfied then best.map (fun best => best.1.2) else none
    forbiddenClaimResults := forbidden
    forbiddenClaimViolationCount := violations }

end Evaluation

section Required

variable {env : RagTextEnvironment}

theorem groupCoverage_le_one (results : List SemanticMatch) : groupCoverage results ≤ 1 := by
  rw [groupCoverage]
  refine div_le_one_of_le₀ ?_ (Nat.cast_nonneg _)
  exact_mod_cast List.countP_le_length

theorem groupCoverage_eq_one_iff {results : List SemanticMatch} :
    groupCoverage results = 1 ↔ results ≠ [] ∧ ∀ res ∈ results, res.matched = true := by
  rw [groupCoverage, ← List.length_pos_iff, ← List.countP_eq_length]
  rcases Nat.eq_zero_or_pos results.length with empty | positive
  · simp [empty]
  · have nonzero : (results.length : Rat) ≠ 0 := by exact_mod_cast positive.ne'
    rw [div_eq_one_iff_eq nonzero]
    exact ⟨fun same => ⟨positive, by exact_mod_cast same⟩, fun same => by exact_mod_cast same.2⟩

theorem bestGroup_eq_one_iff (groups : List (List SemanticMatch)) :
    ((bestGroup groups).map Prod.snd).getD 1 = 1 ↔
      groups = [] ∨ ∃ group ∈ groups, groupCoverage group = 1 := by
  have positions : ∀ group, group ∈ groups ↔ ∃ index, (group, index) ∈ groups.zipIdx := by
    intro group
    rw [List.mem_iff_getElem?]
    simp only [List.mem_zipIdx_iff_getElem?]
  rw [bestGroup]
  cases found : bestOf (fun group : List SemanticMatch × Nat => groupCoverage group.1)
      groups.zipIdx with
  | none =>
    refine iff_of_true rfl (Or.inl ?_)
    cases groups with
    | nil => rfl
    | cons first rest => cases found
  | some best =>
    obtain ⟨mem, isScore, highest⟩ := bestOf_spec found
    have isGroup := (positions best.1.1).mpr ⟨best.1.2, mem⟩
    rw [Option.map_some, Option.getD_some, or_iff_right (List.ne_nil_of_mem isGroup)]
    constructor
    · intro isOne
      exact ⟨best.1.1, isGroup, isScore.symm.trans isOne⟩
    · rintro ⟨group, mem, isOne⟩
      obtain ⟨index, mem⟩ := (positions group).mp mem
      refine le_antisymm (isScore.le.trans (groupCoverage_le_one best.1.1)) ?_
      exact isOne.symm.le.trans (highest _ mem)

end Required

section Forbidden

variable {env : RagTextEnvironment}

def Affirms (env : RagTextEnvironment) (claim text : String) : Prop :=
  forbiddenClaimMatchThreshold ≤ semanticMatchScore env claim text ∧
    containsNegation env text = false

def Unmasked (env : RagTextEnvironment) (claim : String) (texts : List String) : Prop :=
  (∃ text ∈ texts, Affirms env claim text) →
    ∃ text, IsFirstBest (semanticMatchScore env claim) texts text ∧
      containsNegation env text = false

theorem matched_iff {expectation : String} {texts : List String} {threshold : Rat}
    {rejectNegated : Bool} (positive : 0 < threshold) (nonempty : "" ∉ texts) :
    (semanticMatchResult env expectation texts threshold rejectNegated).matched = true ↔
      ∃ text, IsFirstBest (semanticMatchScore env expectation) texts text ∧
        threshold ≤ semanticMatchScore env expectation text ∧
        (rejectNegated = true → containsNegation env text = false) := by
  rw [semanticMatchResult]
  dsimp only
  rw [Bool.and_eq_true, decide_eq_true_iff]
  rcases firstBest_spec (semanticMatchScore env expectation) texts ("", 0) with
    ⟨same, lower⟩ | ⟨text, isBest, _, same⟩
  · rw [same]
    refine iff_of_false (fun matched => absurd matched.1 positive.not_ge) ?_
    rintro ⟨text, isBest, reaches, _⟩
    exact absurd (reaches.trans (lower text isBest.mem)) positive.not_ge
  · rw [same]
    have notEmpty : text ≠ "" := fun empty => nonempty (empty ▸ isBest.mem)
    constructor
    · rintro ⟨reaches, accepted⟩
      exact ⟨text, isBest, reaches, by
        simpa [notEmpty, imp_iff_not_or] using accepted⟩
    · rintro ⟨other, otherBest, reaches, accepted⟩
      have above : (0 : Rat) < semanticMatchScore env expectation other :=
        positive.trans_le reaches
      have isOther := (firstBest_of_isFirstBest ("", 0) otherBest above).symm.trans same
      rw [Prod.mk.injEq] at isOther
      rw [← isOther.1]
      refine ⟨reaches, ?_⟩
      rw [isOther.1] at accepted ⊢
      simpa [notEmpty, imp_iff_not_or] using accepted

theorem candidateTexts_nonempty (answer : String) (claims : List String) :
    "" ∉ candidateTexts answer claims := by
  simp [candidateTexts]

theorem fact_matched_iff {fact answer : String} {claims : List String} :
    (semanticMatchResult env fact (candidateTexts answer claims) semanticFactMatchThreshold
        false).matched = true ↔
      ∃ text ∈ candidateTexts answer claims,
        semanticFactMatchThreshold ≤ semanticMatchScore env fact text := by
  rw [matched_iff (by decide +kernel) (candidateTexts_nonempty answer claims)]
  constructor
  · rintro ⟨text, isBest, reaches, _⟩
    exact ⟨text, isBest.mem, reaches⟩
  · rintro ⟨text, mem, reaches⟩
    have positive : (0 : Rat) < semanticMatchScore env fact text :=
      lt_of_lt_of_le (by decide +kernel) reaches
    rcases firstBest_spec (semanticMatchScore env fact) (candidateTexts answer claims)
      ("", 0) with ⟨_, lower⟩ | ⟨best, isBest, _, _⟩
    · exact absurd positive (lower text mem).not_gt
    · exact ⟨best, isBest, reaches.trans (isBest.le mem), nofun⟩

def ViolatesClaim (env : RagTextEnvironment) (answer : String) (claims : List String)
    (claim : String) : Prop :=
  (semanticMatchResult env claim (candidateTexts answer claims) forbiddenClaimMatchThreshold
    true).matched = true

theorem violatesClaim_iff {answer claim : String} {claims : List String} :
    ViolatesClaim env answer claims claim ↔
      ∃ text, IsFirstBest (semanticMatchScore env claim) (candidateTexts answer claims) text ∧
        Affirms env claim text := by
  rw [ViolatesClaim, matched_iff (by decide +kernel) (candidateTexts_nonempty answer claims)]
  simp [Affirms]

theorem violatesClaim_iff_affirms_iff {answer claim : String} {claims : List String} :
    (ViolatesClaim env answer claims claim ↔
        ∃ text ∈ candidateTexts answer claims, Affirms env claim text) ↔
      Unmasked env claim (candidateTexts answer claims) := by
  rw [violatesClaim_iff]
  constructor
  · intro iff affirmed
    obtain ⟨text, isBest, affirms⟩ := iff.mpr affirmed
    exact ⟨text, isBest, affirms.2⟩
  · intro unmasked
    constructor
    · rintro ⟨text, isBest, affirms⟩
      exact ⟨text, isBest.mem, affirms⟩
    · rintro ⟨text, mem, affirms⟩
      obtain ⟨best, isBest, affirming⟩ := unmasked ⟨text, mem, affirms⟩
      exact ⟨best, isBest, affirms.1.trans (isBest.le mem), affirming⟩

end Forbidden

section Outputs

variable {env : RagTextEnvironment} {expectation : RagSemanticExpectation} {answer : String}
  {claims more : List String}

theorem requiredFactContractSatisfied_iff :
    (evaluateSemanticContract env expectation answer claims).requiredFactContractSatisfied = true ↔
      expectation.acceptableRequiredFactGroups = [] ∨
        ∃ group ∈ expectation.acceptableRequiredFactGroups, ∀ fact ∈ group,
          ∃ text ∈ candidateTexts answer claims,
            semanticFactMatchThreshold ≤ semanticMatchScore env fact text := by
  simp only [evaluateSemanticContract]
  rw [decide_eq_true_iff, bestGroup_eq_one_iff, List.map_eq_nil_iff]
  refine or_congr Iff.rfl ?_
  simp only [List.mem_map, exists_exists_and_eq_and, groupCoverage_eq_one_iff]
  refine exists_congr fun group => and_congr_right fun mem => ?_
  have nonempty : group ≠ [] := fun empty => expectation.groupsNonempty (empty ▸ mem)
  rw [ne_eq, List.map_eq_nil_iff, and_iff_right nonempty]
  simp only [forall_exists_index, and_imp, forall_apply_eq_imp_iff₂]
  exact forall₂_congr fun fact _ => fact_matched_iff

theorem noViolations_iff :
    (evaluateSemanticContract env expectation answer claims).forbiddenClaimViolationCount = 0 ↔
      ∀ claim ∈ expectation.forbiddenClaims, ¬ ViolatesClaim env answer claims claim := by
  simp only [evaluateSemanticContract, List.countP_eq_zero, List.forall_mem_map, ViolatesClaim]

theorem satisfied_contracts_iff :
    (evaluateSemanticContract env expectation answer claims).satisfied = true ↔
      (evaluateSemanticContract env expectation answer claims).refusalSatisfied = true ∧
      (evaluateSemanticContract env expectation answer claims).requiredFactContractSatisfied =
        true ∧
      (evaluateSemanticContract env expectation answer claims).forbiddenClaimViolationCount =
        0 := by
  simp only [evaluateSemanticContract]
  rw [Bool.or_eq_true, Bool.and_eq_true, Bool.and_eq_true, and_assoc, decide_eq_true_iff,
    decide_eq_true_iff]
  constructor
  · rintro (undeclared | satisfied)
    · rw [Bool.not_eq_true', Bool.or_eq_false_iff, Bool.or_eq_false_iff, Bool.not_eq_false',
        Bool.not_eq_false', List.isEmpty_iff, List.isEmpty_iff, Option.isSome_eq_false_iff,
        Option.isNone_iff_eq_none] at undeclared
      rw [undeclared.1.1, undeclared.1.2, undeclared.2]
      exact ⟨rfl, rfl, rfl⟩
    · exact satisfied
  · exact Or.inr

theorem satisfied_iff (noRefusal : expectation.mustRefuse = none) :
    (evaluateSemanticContract env expectation answer claims).satisfied = true ↔
      (evaluateSemanticContract env expectation answer claims).requiredFactContractSatisfied =
        true ∧
      ∀ claim ∈ expectation.forbiddenClaims, ¬ ViolatesClaim env answer claims claim := by
  rw [satisfied_contracts_iff, noViolations_iff, and_iff_right]
  simp only [evaluateSemanticContract, noRefusal, Option.all_none]

structure CannotBeMasked (env : RagTextEnvironment) (expectation : RagSemanticExpectation)
    (answer : String) (claims more : List String) : Prop where
  violated : ∀ claim ∈ expectation.forbiddenClaims, (ViolatesClaim env answer claims claim ↔
    ∃ text ∈ candidateTexts answer claims, Affirms env claim text)
  violatedMore : ∀ claim ∈ expectation.forbiddenClaims,
    (ViolatesClaim env answer (claims ++ more) claim ↔
      ∃ text ∈ candidateTexts answer (claims ++ more), Affirms env claim text)
  kept : ∀ claim ∈ expectation.forbiddenClaims, ViolatesClaim env answer claims claim →
    ViolatesClaim env answer (claims ++ more) claim
  satisfied : expectation.mustRefuse = none →
    (evaluateSemanticContract env expectation answer claims).satisfied = false →
    (evaluateSemanticContract env expectation answer (claims ++ more)).satisfied = true →
    ∃ group ∈ expectation.acceptableRequiredFactGroups, ∃ fact ∈ group,
      (∃ text ∈ candidateTexts answer (claims ++ more),
        semanticFactMatchThreshold ≤ semanticMatchScore env fact text) ∧
      ∀ text ∈ candidateTexts answer claims,
        ¬ semanticFactMatchThreshold ≤ semanticMatchScore env fact text
  required : expectation.acceptableRequiredFactGroups ≠ [] →
    ((evaluateSemanticContract env expectation answer claims).requiredFactContractSatisfied =
        true ↔
      ∃ group ∈ expectation.acceptableRequiredFactGroups, ∀ fact ∈ group,
        ∃ text ∈ candidateTexts answer claims,
          semanticFactMatchThreshold ≤ semanticMatchScore env fact text)

theorem cannotBeMasked_iff (env : RagTextEnvironment) (expectation : RagSemanticExpectation)
    (answer : String) (claims more : List String) :
    CannotBeMasked env expectation answer claims more ↔
      ∀ claim ∈ expectation.forbiddenClaims, Unmasked env claim (candidateTexts answer claims) ∧
        Unmasked env claim (candidateTexts answer (claims ++ more)) := by
  constructor
  · intro cannot claim mem
    exact ⟨violatesClaim_iff_affirms_iff.mp (cannot.violated claim mem),
      violatesClaim_iff_affirms_iff.mp (cannot.violatedMore claim mem)⟩
  · intro unmasked
    have violated := fun claim mem => violatesClaim_iff_affirms_iff.mpr (unmasked claim mem).1
    have violatedMore := fun claim mem =>
      violatesClaim_iff_affirms_iff.mpr (unmasked claim mem).2
    have subset : candidateTexts answer claims ⊆ candidateTexts answer (claims ++ more) := by
      intro text mem
      simp only [candidateTexts, List.mem_filter, List.mem_cons, List.mem_append] at mem ⊢
      exact ⟨mem.1.imp_right Or.inl, mem.2⟩
    have kept : ∀ claim ∈ expectation.forbiddenClaims, ViolatesClaim env answer claims claim →
        ViolatesClaim env answer (claims ++ more) claim := by
      intro claim mem violates
      obtain ⟨text, isText, affirms⟩ := (violated claim mem).mp violates
      exact (violatedMore claim mem).mpr ⟨text, subset isText, affirms⟩
    refine ⟨violated, violatedMore, kept, ?_, ?_⟩
    · intro noRefusal unsatisfied satisfied
      obtain ⟨required, noViolation⟩ := (satisfied_iff noRefusal).mp satisfied
      have notRequired : ¬ (evaluateSemanticContract env expectation answer
          claims).requiredFactContractSatisfied = true := by
        intro already
        refine Bool.false_ne_true (unsatisfied.symm.trans ((satisfied_iff noRefusal).mpr
          ⟨already, fun claim mem violates => noViolation claim mem (kept claim mem violates)⟩))
      rw [requiredFactContractSatisfied_iff, not_or] at notRequired
      obtain ⟨group, isGroup, matched⟩ :=
        (requiredFactContractSatisfied_iff.mp required).resolve_left notRequired.1
      by_contra none
      refine notRequired.2 ⟨group, isGroup, fun fact isFact => ?_⟩
      by_contra unmatched
      exact none ⟨group, isGroup, fact, isFact, matched fact isFact,
        fun text mem reaches => unmatched ⟨text, mem, reaches⟩⟩
    · intro declared
      rw [requiredFactContractSatisfied_iff, or_iff_right declared]

/-- A claim that negates more of the words hides the answer that affirms them. -/
theorem forbiddenClaim_masked :
    ¬ CannotBeMasked ⟨⟨id, fun _ => ""⟩, Char.isAlphanum⟩
      ⟨"rag-semantic-contract-v1", none, [], [], ["release can skip gate"], List.not_mem_nil⟩
      "release can skip" ["release can not skip gate"] [] := by
  intro cannot
  have violated := (cannot.violated _ List.mem_cons_self).mpr
    ⟨"release can skip", by decide +kernel, by decide +kernel, by decide +kernel⟩
  revert violated
  unfold ViolatesClaim
  decide +kernel

end Outputs

end ModelAtlas.Rag
