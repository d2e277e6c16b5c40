import Mathlib.Algebra.Ring.Nat
import Mathlib.Data.Set.Finite.List
import Mathlib.Order.Preorder.Finite

/-!
# The Pareto frontier of a recommendation

`is_dominated` and `with_pareto_flags` of `services/recommendation_scoring.py`.
`x or float("inf")` takes a measured zero for a missing measurement.
-/

namespace ModelAtlas.Recommendations

open OrderDual

/-- `RecommendationCandidate`, with what the flags and the order are made of. -/
structure RecommendationCandidate (Id Value : Type) where
  artifactId : Id
  averageQualityScore : Option Value
  averageTokensPerSecond : Option Value
  averageEndToEndLatencyMs : Option Value
  averageVramUsageMb : Option Value
  recommendationScore : Value
  paretoOptimal : Bool

variable {Id Value : Type} [LinearOrder Value] [Zero Value]

/-- `value or float("inf")`. -/
def orInfinity : Option Value → WithTop Value
  | none => ⊤
  | some value => if value = 0 then ⊤ else value

def isDominated (candidate other : RecommendationCandidate Id Value) : Bool :=
  let quality := fun item : RecommendationCandidate Id Value => item.averageQualityScore.getD 0
  let throughput := fun item : RecommendationCandidate Id Value =>
    item.averageTokensPerSecond.getD 0
  let latency := fun item : RecommendationCandidate Id Value =>
    orInfinity item.averageEndToEndLatencyMs
  let vram := fun item : RecommendationCandidate Id Value => orInfinity item.averageVramUsageMb
  let atLeastAsGood := quality candidate ≤ quality other ∧ throughput candidate ≤ throughput other ∧
    latency other ≤ latency candidate ∧ vram other ≤ vram candidate
  let strictlyBetter := quality candidate < quality other ∨ throughput candidate < throughput other ∨
    latency other < latency candidate ∨ vram other < vram candidate
  atLeastAsGood ∧ strictlyBetter

def withParetoFlags [DecidableEq Id] (candidates : List (RecommendationCandidate Id Value)) :
    List (RecommendationCandidate Id Value) :=
  candidates.map (fun candidate => { candidate with
    paretoOptimal := !candidates.any (fun other =>
      other.artifactId ≠ candidate.artifactId && isDominated candidate other) })

/-- The place of a candidate under some reading of costs. No column is negative, so a missing
score or throughput is the worst one. -/
def placed (cost : Option Value → WithTop Value) (candidate : RecommendationCandidate Id Value) :
    Value × Value × (WithTop Value)ᵒᵈ × (WithTop Value)ᵒᵈ :=
  (candidate.averageQualityScore.getD 0, candidate.averageTokensPerSecond.getD 0,
    toDual (cost candidate.averageEndToEndLatencyMs), toDual (cost candidate.averageVramUsageMb))

/-- A missing cost is the worst one, and a measured cost is itself. -/
def orWorst : Option Value → WithTop Value
  | none => ⊤
  | some value => value

def HasZeroCost (candidate : RecommendationCandidate Id Value) : Prop :=
  candidate.averageEndToEndLatencyMs = some 0 ∨ candidate.averageVramUsageMb = some 0

def Dominated (cost : Option Value → WithTop Value)
    (candidates : List (RecommendationCandidate Id Value))
    (candidate : RecommendationCandidate Id Value) : Prop :=
  ∃ other ∈ candidates, placed cost candidate < placed cost other

section Costs

variable {candidate other : RecommendationCandidate Id Value}

theorem isDominated_iff : isDominated candidate other = true ↔
    placed orInfinity candidate < placed orInfinity other := by
  simp only [isDominated, placed, lt_iff_le_not_ge, Prod.le_def, toDual_le_toDual,
    decide_eq_true_eq]
  tauto

theorem orWorst_le (cost : Option Value) : orWorst cost ≤ orInfinity cost := by
  cases cost with
  | none => exact le_rfl
  | some value =>
    rw [orInfinity]
    split
    · exact le_top
    · exact le_rfl

theorem orInfinity_eq {cost : Option Value} (positive : cost ≠ some 0) :
    orInfinity cost = orWorst cost := by
  cases cost with
  | none => rfl
  | some value => exact if_neg fun zero => positive (congrArg some zero)

theorem placed_le (candidate : RecommendationCandidate Id Value) :
    placed orInfinity candidate ≤ placed orWorst candidate :=
  ⟨le_rfl, le_rfl, toDual_le_toDual.mpr (orWorst_le _), toDual_le_toDual.mpr (orWorst_le _)⟩

theorem placed_eq (positive : ¬ HasZeroCost candidate) :
    placed orInfinity candidate = placed orWorst candidate := by
  rw [placed, placed, orInfinity_eq fun zero => positive (Or.inl zero),
    orInfinity_eq fun zero => positive (Or.inr zero)]

end Costs

variable {candidates : List (RecommendationCandidate Id Value)}

theorem mem_withParetoFlags_iff [DecidableEq Id] (distinct : (candidates.map (·.artifactId)).Nodup)
    {flagged : RecommendationCandidate Id Value} : flagged ∈ withParetoFlags candidates ↔
      ∃ candidate ∈ candidates, ∃ optimal, flagged = { candidate with paretoOptimal := optimal } ∧
        (optimal = true ↔ ¬ Dominated orInfinity candidates candidate) := by
  rw [withParetoFlags, List.mem_map]
  refine exists_congr fun candidate => and_congr_right fun mem => ?_
  have flagEq : (!candidates.any fun other => other.artifactId ≠ candidate.artifactId &&
      isDominated candidate other) = true ↔ ¬ Dominated orInfinity candidates candidate := by
    rw [Bool.not_eq_true', List.any_eq_false, Dominated, not_exists]
    refine forall_congr' fun other => ?_
    rw [not_and]
    refine forall_congr' fun isOther => ?_
    rw [Bool.and_eq_true, isDominated_iff, decide_eq_true_eq, not_and]
    refine ⟨fun kept better => kept (fun same => ?_) better, fun kept _ => kept⟩
    rw [List.inj_on_of_nodup_map distinct isOther mem same] at better
    exact lt_irrefl _ better
  constructor
  · rintro rfl
    exact ⟨_, rfl, flagEq⟩
  · rintro ⟨optimal, rfl, isOptimal⟩
    rw [Bool.eq_iff_iff.mpr (flagEq.trans isOptimal.symm)]

theorem exists_undominated (cost : Option Value → WithTop Value)
    {candidate : RecommendationCandidate Id Value} (mem : candidate ∈ candidates) :
    ∃ best ∈ candidates, placed cost candidate ≤ placed cost best ∧
      ¬ Dominated cost candidates best := by
  obtain ⟨place, above, ⟨best, isBest, rfl⟩, maximal⟩ :=
    ((List.finite_toSet candidates).image (placed cost)).exists_le_maximal
      (Set.mem_image_of_mem _ mem)
  refine ⟨best, isBest, above, fun ⟨other, isOther, better⟩ => ?_⟩
  exact better.not_ge (maximal (Set.mem_image_of_mem _ isOther) better.le)

structure ParetoExact [DecidableEq Id] (candidates : List (RecommendationCandidate Id Value)) : Prop where
  optimal : ∀ candidate ∈ withParetoFlags candidates, candidate.paretoOptimal = true ↔
    ¬ Dominated orWorst candidates candidate
  frontier : candidates ≠ [] → ∃ candidate ∈ withParetoFlags candidates,
    candidate.paretoOptimal = true
  dominated : ∀ candidate ∈ withParetoFlags candidates, candidate.paretoOptimal = false →
    ∃ other ∈ withParetoFlags candidates, other.paretoOptimal = true ∧
      placed orWorst candidate < placed orWorst other
  anyOrder : ∀ permuted, candidates.Perm permuted →
    (withParetoFlags candidates).Perm (withParetoFlags permuted)

/-- Zeros that count as missing hide no dominance and add none. -/
structure ZerosHidden (candidates : List (RecommendationCandidate Id Value)) : Prop where
  found : ∀ candidate ∈ candidates, Dominated orWorst candidates candidate →
    (∀ other ∈ candidates, placed orWorst candidate < placed orWorst other → HasZeroCost other) →
    Dominated orInfinity candidates candidate
  genuine : ∀ candidate ∈ candidates, HasZeroCost candidate →
    Dominated orInfinity candidates candidate → Dominated orWorst candidates candidate

theorem zerosHidden_iff : ZerosHidden candidates ↔ ∀ candidate ∈ candidates,
    (Dominated orInfinity candidates candidate ↔ Dominated orWorst candidates candidate) := by
  constructor
  · intro hidden candidate mem
    constructor
    · intro dominated
      by_cases zero : HasZeroCost candidate
      · exact hidden.genuine candidate mem zero dominated
      · obtain ⟨other, isOther, better⟩ := dominated
        rw [placed_eq zero] at better
        exact ⟨other, isOther, better.trans_le (placed_le other)⟩
    · intro dominated
      by_contra undominated
      refine undominated (hidden.found candidate mem dominated fun other isOther better => ?_)
      by_contra positive
      refine undominated ⟨other, isOther, (placed_le candidate).trans_lt ?_⟩
      rw [placed_eq positive]
      exact better
  · intro same
    exact ⟨fun candidate mem dominated _ => (same candidate mem).mpr dominated,
      fun candidate mem _ => (same candidate mem).mp⟩

theorem zerosHidden_of_positive (positive : ∀ candidate ∈ candidates, ¬ HasZeroCost candidate) :
    ZerosHidden candidates := by
  refine zerosHidden_iff.mpr fun candidate mem => exists_congr fun other => ?_
  refine and_congr_right fun isOther => ?_
  rw [placed_eq (positive candidate mem), placed_eq (positive other isOther)]

theorem withParetoFlags_perm [DecidableEq Id] {permuted : List (RecommendationCandidate Id Value)}
    (perm : candidates.Perm permuted) :
    (withParetoFlags candidates).Perm (withParetoFlags permuted) := by
  have sameFlags : withParetoFlags permuted = permuted.map (fun candidate => { candidate with
      paretoOptimal := !candidates.any (fun other =>
        other.artifactId ≠ candidate.artifactId && isDominated candidate other) }) := by
    refine List.map_congr_left fun candidate _ => ?_
    rw [perm.any_eq]
  rw [sameFlags]
  exact perm.map _

theorem paretoExact_iff [DecidableEq Id] (distinct : (candidates.map (·.artifactId)).Nodup) :
    ParetoExact candidates ↔ ZerosHidden candidates := by
  rw [zerosHidden_iff]
  have flagged : ∀ candidate ∈ candidates, ∀ optimal,
      (optimal = true ↔ ¬ Dominated orInfinity candidates candidate) →
        { candidate with paretoOptimal := optimal } ∈ withParetoFlags candidates :=
    fun candidate mem optimal isOptimal =>
      (mem_withParetoFlags_iff distinct).mpr ⟨candidate, mem, optimal, rfl, isOptimal⟩
  constructor
  · intro exact candidate mem
    by_cases dominated : Dominated orInfinity candidates candidate
    · have isFlagged := flagged candidate mem false (by simp [dominated])
      have measured := (exact.optimal _ isFlagged).not.mp Bool.false_ne_true
      exact iff_of_true dominated (not_not.mp measured)
    · have isFlagged := flagged candidate mem true (by simp [dominated])
      exact iff_of_false dominated ((exact.optimal _ isFlagged).mp rfl)
  · intro same
    have optimal : ∀ candidate ∈ withParetoFlags candidates, candidate.paretoOptimal = true ↔
        ¬ Dominated orWorst candidates candidate := by
      intro candidate mem
      obtain ⟨source, isSource, _, rfl, isOptimal⟩ := (mem_withParetoFlags_iff distinct).mp mem
      exact isOptimal.trans (same source isSource).not
    have best : ∀ candidate ∈ candidates, ∃ other ∈ withParetoFlags candidates,
        other.paretoOptimal = true ∧ placed orWorst candidate ≤ placed orWorst other := by
      intro candidate mem
      obtain ⟨other, isOther, above, undominated⟩ := exists_undominated orWorst mem
      exact ⟨_, flagged other isOther true (by simp [same other isOther, undominated]), rfl, above⟩
    refine ⟨optimal, fun nonempty => ?_, fun candidate mem isDominated => ?_,
      fun _ => withParetoFlags_perm⟩
    · obtain ⟨candidate, mem⟩ := List.exists_mem_of_ne_nil _ nonempty
      obtain ⟨other, isOther, isOptimal, _⟩ := best candidate mem
      exact ⟨other, isOther, isOptimal⟩
    · have dominated := (optimal candidate mem).not.mp (by simp [isDominated])
      obtain ⟨better, isBetter, above⟩ := not_not.mp dominated
      obtain ⟨other, isOther, isOptimal, higher⟩ := best better isBetter
      exact ⟨other, isOther, isOptimal, above.trans_le higher⟩

def fastCandidate (artifactId : Nat) (latency : Nat) : RecommendationCandidate Nat Nat :=
  ⟨artifactId, some 1, some 1, some latency, some 1, 0, false⟩

theorem paretoExact_fast : ParetoExact [fastCandidate 0 1, fastCandidate 1 2] := by
  refine (paretoExact_iff (by decide)).mpr (zerosHidden_of_positive ?_)
  simp [HasZeroCost, fastCandidate]

/-- A latency of zero is the best one, and the slower candidate is flagged. -/
theorem not_paretoExact_zero : ¬ ParetoExact [fastCandidate 0 0, fastCandidate 1 2] := by
  intro exact
  have isFlagged : { fastCandidate 1 2 with paretoOptimal := true } ∈
      withParetoFlags [fastCandidate 0 0, fastCandidate 1 2] := by
    refine List.mem_map.mpr ⟨fastCandidate 1 2, by simp, ?_⟩
    rfl
  refine (exact.optimal _ isFlagged).mp rfl ⟨fastCandidate 0 0, by simp, ?_⟩
  have faster : orWorst (some 0) < orWorst (some 2) := WithTop.coe_lt_coe.mpr (by decide : 0 < 2)
  exact lt_of_le_not_ge ⟨le_rfl, le_rfl, toDual_le_toDual.mpr faster.le, le_rfl⟩
    fun reversed => faster.not_ge (toDual_le_toDual.mp reversed.2.2.1)

end ModelAtlas.Recommendations
