import Mathlib.Algebra.Order.Field.Basic
import Mathlib.Data.Prod.Lex
import Mathlib.Tactic.Linarith
import ModelAtlas.Recommendations.ParetoFrontier

/-!
# The scores of a recommendation

`rank_candidates` of `services/recommendation_scoring.py`, in exact arithmetic
and with scores that are not rounded.
-/

namespace ModelAtlas.Recommendations

open scoped List

variable {Id Value : Type} [Field Value] [LinearOrder Value]

/-- An artifact with its `EvidenceMetrics`. -/
structure EligibleArtifactEvidence (Id Value : Type) where
  artifactId : Id
  recommendedVramGb : Option Value
  minimumVramGb : Option Value
  quality : Option Value
  latency : Option Value
  throughput : Option Value
  vram : Option Value
  coverage : Nat

structure RecommendationWeights (Value : Type) [Field Value] [LinearOrder Value] where
  quality : Value
  latency : Value
  throughput : Value
  vramEfficiency : Value
  nonneg : 0 ≤ quality ∧ 0 ≤ latency ∧ 0 ≤ throughput ∧ 0 ≤ vramEfficiency
  positive : 0 < quality + latency + throughput + vramEfficiency

/-- A request, with the memory of its hardware and the power of one half. -/
structure RecommendationRequest (Value : Type) [Field Value] [LinearOrder Value] where
  gpuVramGb : Nat
  weights : RecommendationWeights Value
  squareRoot : Value → Value

def normalizeHigher (value : Option Value) (values : List Value) : Value :=
  match value, values.min?, values.max? with
  | some value, some low, some high => if high = low then 1 else (value - low) / (high - low)
  | _, _, _ => 0

def normalizeLower (value : Option Value) (values : List Value) : Value :=
  if value = none then 0 else 1 - normalizeHigher value values

def bounded (value : Value) : Value := max 0 (min 1 value)

def evidenceConfidence (request : RecommendationRequest Value) (coverage : Nat) : Value :=
  if coverage ≤ 0 then 0 else bounded (request.squareRoot (coverage / 3))

structure ScoreRanges (Value : Type) where
  quality : List Value
  latency : List Value
  throughput : List Value

def scoreRanges (eligible : List (EligibleArtifactEvidence Id Value)) : ScoreRanges Value where
  quality := eligible.filterMap (·.quality)
  latency := eligible.filterMap (·.latency)
  throughput := eligible.filterMap (·.throughput)

structure ScoreComponents (Value : Type) where
  quality : Value
  latency : Value
  throughput : Value
  vramEfficiency : Value

/-- `recommended_vram_gb or minimum_vram_gb or 0`. -/
def vramSource (item : EligibleArtifactEvidence Id Value) : Value :=
  match item.recommendedVramGb with
  | some recommended => if recommended = 0 then item.minimumVramGb.getD 0 else recommended
  | none => item.minimumVramGb.getD 0

def scoreComponents (request : RecommendationRequest Value) (ranges : ScoreRanges Value)
    (item : EligibleArtifactEvidence Id Value) : ScoreComponents Value where
  quality := normalizeHigher item.quality ranges.quality
  latency := normalizeLower item.latency ranges.latency
  throughput := normalizeHigher item.throughput ranges.throughput
  vramEfficiency := bounded (1 - vramSource item / (max request.gpuVramGb 1 : Nat))

def recommendationScore (request : RecommendationRequest Value)
    (components : ScoreComponents Value) (coverage : Nat) : Value :=
  let weights := request.weights
  100 * (weights.quality * components.quality + weights.latency * components.latency +
    weights.throughput * components.throughput +
      weights.vramEfficiency * components.vramEfficiency) /
    (weights.quality + weights.latency + weights.throughput + weights.vramEfficiency) *
      evidenceConfidence request coverage

def candidateFromEvidence (request : RecommendationRequest Value) (ranges : ScoreRanges Value)
    (item : EligibleArtifactEvidence Id Value) : RecommendationCandidate Id Value where
  artifactId := item.artifactId
  averageQualityScore := item.quality
  averageTokensPerSecond := item.throughput
  averageEndToEndLatencyMs := item.latency
  averageVramUsageMb := item.vram
  recommendationScore := recommendationScore request (scoreComponents request ranges item)
    item.coverage
  paretoOptimal := false

def RecommendationCandidate.sortKey (candidate : RecommendationCandidate Id Value) :
    Value ×ₗ Value ×ₗ Value :=
  toLex (candidate.recommendationScore,
    toLex (candidate.averageQualityScore.getD 0, candidate.averageTokensPerSecond.getD 0))

def rankCandidates [DecidableEq Id] (request : RecommendationRequest Value)
    (eligible : List (EligibleArtifactEvidence Id Value)) :
    List (RecommendationCandidate Id Value) :=
  (withParetoFlags (eligible.map (candidateFromEvidence request (scoreRanges eligible)))).mergeSort
    (fun left right => right.sortKey ≤ left.sortKey)

/-! ## What the scores promise -/

def RankedAbove [DecidableEq Id] (request : RecommendationRequest Value)
    (eligible : List (EligibleArtifactEvidence Id Value)) (upper lower : Id) : Prop :=
  [upper, lower] <+ (rankCandidates request eligible).map (·.artifactId)

/-- One measured value becomes better. -/
inductive Improves (item : EligibleArtifactEvidence Id Value) :
    EligibleArtifactEvidence Id Value → Prop where
  | quality {value raised : Value} (measured : item.quality = some value)
      (better : value ≤ raised) : Improves item { item with quality := some raised }
  | throughput {value raised : Value} (measured : item.throughput = some value)
      (better : value ≤ raised) : Improves item { item with throughput := some raised }
  | latency {value lowered : Value} (measured : item.latency = some value)
      (better : lowered ≤ value) : Improves item { item with latency := some lowered }

/-- The component that a measurement gets among the measured values. -/
structure FairComponent (worse : Value → Value → Prop) (value : Option Value)
    (values : List Value) (component : Value) : Prop where
  within : 0 ≤ component ∧ component ≤ 1
  best : ∀ best, value = some best → (∀ other ∈ values, worse other best) → component = 1
  missing : value = none → component = 0

structure FairScores [DecidableEq Id] (request : RecommendationRequest Value)
    (eligible : List (EligibleArtifactEvidence Id Value)) : Prop where
  undemoted : ∀ before item after improved, eligible = before ++ item :: after →
    Improves item improved → ∀ other, RankedAbove request eligible item.artifactId other →
      ¬ RankedAbove request (before ++ improved :: after) other item.artifactId
  quality : ∀ item ∈ eligible, FairComponent (· ≤ ·) item.quality (scoreRanges eligible).quality
    (scoreComponents request (scoreRanges eligible) item).quality
  throughput : ∀ item ∈ eligible,
    FairComponent (· ≤ ·) item.throughput (scoreRanges eligible).throughput
      (scoreComponents request (scoreRanges eligible) item).throughput
  latency : ∀ item ∈ eligible, FairComponent (· ≥ ·) item.latency (scoreRanges eligible).latency
    (scoreComponents request (scoreRanges eligible) item).latency
  vram : ∀ item ∈ eligible,
    0 ≤ (scoreComponents request (scoreRanges eligible) item).vramEfficiency ∧
      (scoreComponents request (scoreRanges eligible) item).vramEfficiency ≤ 1

/-! ## Normalized values -/

section Normalized

theorem exists_range {Value : Type} [LinearOrder Value] {values : List Value}
    (nonempty : values ≠ []) :
    ∃ low high, (low ∈ values ∧ ∀ other ∈ values, low ≤ other) ∧
      high ∈ values ∧ ∀ other ∈ values, other ≤ high := by
  obtain ⟨low, isLow⟩ := Option.isSome_iff_exists.mp (List.isSome_min?_of_ne_nil nonempty)
  obtain ⟨high, isHigh⟩ := Option.isSome_iff_exists.mp (List.isSome_max?_of_ne_nil nonempty)
  exact ⟨low, high, List.min?_eq_some_iff.mp isLow, List.max?_eq_some_iff.mp isHigh⟩

def share (low high value : Value) : Value := if high = low then 1 else (value - low) / (high - low)

theorem share_top (low high : Value) : share low high high = 1 := by
  rw [share]
  split
  · rfl
  · next differ => exact div_self (sub_ne_zero.mpr differ)

variable {low high low' high' value raised : Value} {before after values : List Value}

theorem normalizeHigher_eq (isLow : low ∈ values ∧ ∀ other ∈ values, low ≤ other)
    (isHigh : high ∈ values ∧ ∀ other ∈ values, other ≤ high) (value : Value) :
    normalizeHigher (some value) values = share low high value := by
  simp only [normalizeHigher, List.min?_eq_some_iff.mpr isLow, List.max?_eq_some_iff.mpr isHigh,
    share]

theorem exists_normalizeHigher (nonempty : before ++ after ≠ []) :
    ∃ low high, low ≤ high ∧ (∀ other ∈ before ++ after, low ≤ other ∧ other ≤ high) ∧
      ∀ value other, normalizeHigher (some other) (before ++ value :: after) =
        share (min value low) (max value high) other := by
  obtain ⟨low, high, ⟨isLow, lowest⟩, isHigh, highest⟩ := exists_range nonempty
  have mem : ∀ value other, other ∈ before ++ value :: after ↔
      other = value ∨ other ∈ before ++ after := fun value other => by
    rw [List.perm_middle.mem_iff, List.mem_cons]
  refine ⟨low, high, lowest _ isHigh, fun other mem => ⟨lowest _ mem, highest _ mem⟩, ?_⟩
  refine fun value other => normalizeHigher_eq ⟨?_, ?_⟩ ⟨?_, ?_⟩ other
  · exact (mem _ _).mpr ((min_choice value low).imp_right fun eq => by rwa [eq])
  · intro other isOther
    rcases (mem _ _).mp isOther with rfl | among
    · exact min_le_left _ _
    · exact (min_le_right _ _).trans (lowest _ among)
  · exact (mem _ _).mpr ((max_choice value high).imp_right fun eq => by rwa [eq])
  · intro other isOther
    rcases (mem _ _).mp isOther with rfl | among
    · exact le_max_left _ _
    · exact (highest _ among).trans (le_max_right _ _)

variable [IsStrictOrderedRing Value]

theorem share_mem (lower : low ≤ value) (upper : value ≤ high) :
    0 ≤ share low high value ∧ share low high value ≤ 1 := by
  rw [share]
  split
  · exact ⟨zero_le_one, le_rfl⟩
  · exact ⟨div_nonneg (sub_nonneg.mpr lower) (sub_nonneg.mpr (lower.trans upper)),
      div_le_one_of_le₀ (sub_le_sub_right upper low) (sub_nonneg.mpr (lower.trans upper))⟩

theorem share_anti (lowLe : low ≤ low') (highLe : high ≤ high') (lower : low' ≤ value)
    (upper : value ≤ high) : share low' high' value ≤ share low high value := by
  by_cases flat : high = low
  · rw [share, share, if_pos flat]
    exact (share_mem lower (upper.trans highLe)).2
  · by_cases flat' : high' = low'
    · obtain rfl : value = high := upper.antisymm (highLe.trans (flat'.le.trans lower))
      rw [share_top]
      exact (share_mem lower highLe).2
    · have below : low < high := lt_of_le_of_ne ((lowLe.trans lower).trans upper) (Ne.symm flat)
      have below' : low' < high' :=
        lt_of_le_of_ne (lower.trans (upper.trans highLe)) (Ne.symm flat')
      rw [share, share, if_neg flat, if_neg flat', div_le_div_iff₀ (sub_pos.mpr below')
        (sub_pos.mpr below)]
      nlinarith [mul_nonneg (sub_nonneg.mpr lower) (sub_nonneg.mpr highLe),
        mul_nonneg (sub_nonneg.mpr lowLe) (sub_nonneg.mpr (upper.trans highLe))]

theorem share_mono (others : low ≤ high) (better : value ≤ raised) :
    share (min value low) (max value high) value ≤ share (min raised low) (max raised high) raised := by
  have mem := share_mem (min_le_left value low) (le_max_left value high)
  have mem' := share_mem (min_le_left raised low) (le_max_left raised high)
  rcases le_total high raised with top | inside
  · rw [max_eq_left top, share_top]
    exact mem.2
  · rw [max_eq_right inside, max_eq_right (better.trans inside)] at *
    rcases le_total value low with bottom | above
    · rw [min_eq_left bottom]
      by_cases flat : high = value
      · obtain rfl := flat
        rw [inside.antisymm better, share_top, share_top]
      · rw [share, if_neg flat, sub_self, zero_div]
        exact mem'.1
    · rw [min_eq_right above, min_eq_right (above.trans better), share, share]
      split
      · exact le_rfl
      · gcongr

theorem normalizeHigher_anti (better : value ≤ raised) {other : Option Value}
    (mem : ∀ measured, other = some measured → measured ∈ before ++ after) :
    normalizeHigher other (before ++ raised :: after) ≤
      normalizeHigher other (before ++ value :: after) := by
  cases other with
  | none => exact le_rfl
  | some measured =>
    obtain ⟨low, high, _, inside, eq⟩ :=
      exists_normalizeHigher (List.ne_nil_of_mem (mem measured rfl))
    obtain ⟨lower, upper⟩ := inside _ (mem measured rfl)
    rw [eq, eq]
    exact share_anti (min_le_min_right low better) (max_le_max_right high better)
      ((min_le_right _ _).trans lower) (upper.trans (le_max_right _ _))

theorem normalizeHigher_mono (better : value ≤ raised) :
    normalizeHigher (some value) (before ++ value :: after) ≤
      normalizeHigher (some raised) (before ++ raised :: after) := by
  by_cases alone : before ++ after = []
  · obtain ⟨rfl, rfl⟩ := List.append_eq_nil_iff.mp alone
    simp [normalizeHigher]
  · obtain ⟨low, high, others, _, eq⟩ := exists_normalizeHigher alone
    rw [eq, eq]
    exact share_mono others better

theorem normalizeLower_anti (better : value ≤ raised) {other : Option Value}
    (mem : ∀ measured, other = some measured → measured ∈ before ++ after) :
    normalizeLower other (before ++ value :: after) ≤
      normalizeLower other (before ++ raised :: after) := by
  rw [normalizeLower, normalizeLower]
  split
  · exact le_rfl
  · exact sub_le_sub_left (normalizeHigher_anti better mem) 1

theorem normalizeHigher_mem {value : Option Value}
    (mem : ∀ measured, value = some measured → measured ∈ values) :
    0 ≤ normalizeHigher value values ∧ normalizeHigher value values ≤ 1 := by
  cases value with
  | none => exact ⟨le_rfl, zero_le_one⟩
  | some measured =>
    have isMeasured := mem measured rfl
    obtain ⟨low, high, isLow, isHigh⟩ := exists_range (List.ne_nil_of_mem isMeasured)
    rw [normalizeHigher_eq isLow isHigh]
    exact share_mem (isLow.2 _ isMeasured) (isHigh.2 _ isMeasured)

theorem normalizeHigher_fair {value : Option Value}
    (mem : ∀ measured, value = some measured → measured ∈ values) :
    FairComponent (· ≤ ·) value values (normalizeHigher value values) where
  within := normalizeHigher_mem mem
  best := by
    rintro best rfl isBest
    obtain ⟨low, _, isLow, _⟩ := exists_range (List.ne_nil_of_mem (mem best rfl))
    rw [normalizeHigher_eq isLow ⟨mem best rfl, isBest⟩, share_top]
  missing := by
    rintro rfl
    rfl

theorem normalizeLower_fair_iff {value : Option Value}
    (mem : ∀ measured, value = some measured → measured ∈ values) :
    FairComponent (· ≥ ·) value values (normalizeLower value values) ↔
      ∀ best, value = some best → ∃ other ∈ values, other ≠ best := by
  have best_iff : ∀ best, value = some best → (∀ other ∈ values, other ≥ best) →
      (normalizeLower value values = 1 ↔ ∃ other ∈ values, other ≠ best) := by
    rintro best rfl isBest
    obtain ⟨_, high, _, isHigh⟩ := exists_range (List.ne_nil_of_mem (mem best rfl))
    rw [normalizeLower, if_neg (by simp), normalizeHigher_eq ⟨mem best rfl, isBest⟩ isHigh, share]
    by_cases flat : high = best
    · rw [if_pos flat, sub_self, iff_false_left zero_ne_one]
      rintro ⟨other, isOther, differ⟩
      exact differ (((isHigh.2 _ isOther).trans flat.le).antisymm (isBest _ isOther))
    · rw [if_neg flat, sub_self, zero_div, sub_zero]
      exact iff_of_true rfl ⟨high, isHigh.1, flat⟩
  constructor
  · intro fair best isValue
    by_contra! alone
    have isBest : ∀ other ∈ values, other ≥ best := fun other isOther => (alone _ isOther).ge
    obtain ⟨other, isOther, differ⟩ := (best_iff best isValue isBest).mp
      (fair.best best isValue isBest)
    exact differ (alone other isOther)
  · intro differ
    refine ⟨?_, fun best isValue isBest => (best_iff best isValue isBest).mpr (differ _ isValue),
      fun missing => if_pos missing⟩
    obtain ⟨lower, upper⟩ := normalizeHigher_mem mem
    rw [normalizeLower]
    split
    · exact ⟨le_rfl, zero_le_one⟩
    · exact ⟨sub_nonneg.mpr upper, sub_le_self 1 lower⟩

theorem bounded_mem (value : Value) : 0 ≤ bounded value ∧ bounded value ≤ 1 :=
  ⟨le_max_left _ _, max_le zero_le_one (min_le_left _ _)⟩

end Normalized

/-- What a stable sort with distinct items says of two of them. -/
theorem of_sublist_mergeSort {α κ : Type} [LinearOrder κ] {items : List α} {identify : α → Id}
    {key : α → κ} (distinct : (items.map identify).Nodup) {upper lower : α}
    (isUpper : upper ∈ items) (isLower : lower ∈ items)
    (above : [identify upper, identify lower] <+
      (items.mergeSort fun left right => key right ≤ key left).map identify) :
    key lower ≤ key upper ∧
      (key upper = key lower → [identify upper, identify lower] <+ items.map identify) := by
  have trans : ∀ first second third : α, decide (key second ≤ key first) = true →
      decide (key third ≤ key second) = true → decide (key third ≤ key first) = true := by
    simp only [decide_eq_true_eq]
    exact fun _ _ _ second third => third.trans second
  have total : ∀ left right : α,
      (decide (key right ≤ key left) || decide (key left ≤ key right)) = true := by
    simp [le_total]
  have perm := List.mergeSort_perm items (fun left right => decide (key right ≤ key left))
  have same : ∀ item ∈ items, ∀ other ∈ items, identify item = identify other → item = other :=
    fun item mem other isOther => List.inj_on_of_nodup_map distinct mem isOther
  obtain ⟨pair, sub, pairEq⟩ := List.sublist_map_iff.mp above
  obtain rfl : pair = [upper, lower] := by
    have mem := fun item isIn => perm.mem_iff.mp (sub.subset (a := item) isIn)
    rcases pair with _ | ⟨first, _ | ⟨second, _ | ⟨third, rest⟩⟩⟩ <;> simp at pairEq
    rw [same upper isUpper first (mem first (by simp)) pairEq.1,
      same lower isLower second (mem second (by simp)) pairEq.2]
  have sorted := (List.pairwise_mergeSort trans total items).forall_sublist sub
  refine ⟨by simpa using sorted, fun tied => ?_⟩
  obtain ⟨pair, samePair, isSub⟩ := sub.subperm.trans perm.subperm
  have tiedPair : pair.Pairwise fun left right => decide (key right ≤ key left) = true := by
    refine List.pairwise_of_forall_mem_list fun left isLeft right isRight => ?_
    have keyEq : ∀ item ∈ pair, key item = key lower := fun item mem => by
      rcases List.mem_pair.mp (samePair.subset mem) with rfl | rfl
      · exact tied
      · rfl
    rw [keyEq left isLeft, keyEq right isRight, decide_eq_true_eq]
  have again := List.sublist_mergeSort trans total tiedPair isSub
  have nodup := perm.nodup_iff.mpr distinct.of_map
  rw [(nodup.perm_iff_eq_of_sublist again sub).mp samePair] at isSub
  exact isSub.map identify

/-- What `rank_candidates` sorts an item by. -/
def itemKey (request : RecommendationRequest Value)
    (eligible : List (EligibleArtifactEvidence Id Value)) (item : EligibleArtifactEvidence Id Value) :
    Value ×ₗ Value ×ₗ Value :=
  (candidateFromEvidence request (scoreRanges eligible) item).sortKey

variable {request : RecommendationRequest Value}
  {eligible before after : List (EligibleArtifactEvidence Id Value)}

theorem of_rankedAbove [DecidableEq Id] (distinct : (eligible.map (·.artifactId)).Nodup)
    {upper lower : EligibleArtifactEvidence Id Value} (isUpper : upper ∈ eligible)
    (isLower : lower ∈ eligible)
    (above : RankedAbove request eligible upper.artifactId lower.artifactId) :
    itemKey request eligible lower ≤ itemKey request eligible upper ∧
      (itemKey request eligible upper = itemKey request eligible lower →
        [upper.artifactId, lower.artifactId] <+ eligible.map (·.artifactId)) := by
  refine of_sublist_mergeSort distinct isUpper isLower ?_
  rw [RankedAbove, rankCandidates, withParetoFlags, List.map_map, ← List.map_mergeSort
    (r := fun left right => itemKey request eligible right ≤ itemKey request eligible left),
    List.map_map] at above
  · exact above
  · exact fun _ _ _ _ => rfl

theorem rankCandidates_perm [DecidableEq Id] (request : RecommendationRequest Value)
    (eligible : List (EligibleArtifactEvidence Id Value)) :
    (rankCandidates request eligible).map (·.artifactId) ~ eligible.map (·.artifactId) := by
  refine ((List.mergeSort_perm _ _).map _).trans (List.Perm.of_eq ?_)
  simp [withParetoFlags, candidateFromEvidence]

variable [IsStrictOrderedRing Value]

theorem recommendationScore_mono {components better : ScoreComponents Value} (coverage : Nat)
    (quality : components.quality ≤ better.quality) (latency : components.latency ≤ better.latency)
    (throughput : components.throughput ≤ better.throughput)
    (vram : components.vramEfficiency ≤ better.vramEfficiency) :
    recommendationScore request components coverage ≤
      recommendationScore request better coverage := by
  have confidence : 0 ≤ evidenceConfidence request coverage := by
    rw [evidenceConfidence]
    split
    · exact le_rfl
    · exact (bounded_mem _).1
  obtain ⟨qualityNonneg, latencyNonneg, throughputNonneg, vramNonneg⟩ := request.weights.nonneg
  have total := request.weights.positive
  rw [recommendationScore, recommendationScore]
  gcongr

theorem Improves.itemKey_le {item improved : EligibleArtifactEvidence Id Value}
    (improves : Improves item improved) (request : RecommendationRequest Value)
    (before after : List (EligibleArtifactEvidence Id Value)) :
    itemKey request (before ++ item :: after) item ≤
        itemKey request (before ++ improved :: after) improved ∧
      ∀ other ∈ before ++ after, itemKey request (before ++ improved :: after) other ≤
        itemKey request (before ++ item :: after) other := by
  have insert : ∀ (measure : EligibleArtifactEvidence Id Value → Option Value) item,
      (before ++ item :: after).filterMap measure =
        before.filterMap measure ++ ((measure item).toList ++ after.filterMap measure) := by
    intro measure item
    cases measured : measure item <;> simp [measured]
  have among : ∀ (measure : EligibleArtifactEvidence Id Value → Option Value),
      ∀ other ∈ before ++ after, ∀ measured, measure other = some measured →
        measured ∈ before.filterMap measure ++ after.filterMap measure := by
    intro measure other mem measured isMeasured
    rw [← List.filterMap_append]
    exact List.mem_filterMap.mpr ⟨other, mem, isMeasured⟩
  cases improves with
  | quality measured better =>
    simp only [itemKey, candidateFromEvidence, scoreComponents, scoreRanges, insert, measured]
    constructor
    · exact Prod.Lex.toLex_mono ⟨recommendationScore_mono _ (normalizeHigher_mono better) le_rfl
        le_rfl le_rfl, Prod.Lex.toLex_mono ⟨better, le_rfl⟩⟩
    · intro other mem
      exact Prod.Lex.toLex_mono ⟨recommendationScore_mono _ (normalizeHigher_anti better
        (among _ other mem)) le_rfl le_rfl le_rfl, le_rfl⟩
  | throughput measured better =>
    simp only [itemKey, candidateFromEvidence, scoreComponents, scoreRanges, insert, measured]
    constructor
    · exact Prod.Lex.toLex_mono ⟨recommendationScore_mono _ le_rfl le_rfl
        (normalizeHigher_mono better) le_rfl, Prod.Lex.toLex_mono ⟨le_rfl, better⟩⟩
    · intro other mem
      exact Prod.Lex.toLex_mono ⟨recommendationScore_mono _ le_rfl le_rfl
        (normalizeHigher_anti better (among _ other mem)) le_rfl, le_rfl⟩
  | latency measured better =>
    simp only [itemKey, candidateFromEvidence, scoreComponents, scoreRanges, insert, measured]
    constructor
    · exact Prod.Lex.toLex_mono ⟨recommendationScore_mono _ le_rfl
        (sub_le_sub_left (normalizeHigher_mono better) 1) le_rfl le_rfl, le_rfl⟩
    · intro other mem
      exact Prod.Lex.toLex_mono ⟨recommendationScore_mono _ le_rfl
        (normalizeLower_anti better (among _ other mem)) le_rfl le_rfl, le_rfl⟩

theorem Improves.not_demoted [DecidableEq Id] {item improved : EligibleArtifactEvidence Id Value}
    (improves : Improves item improved)
    (distinct : ((before ++ item :: after).map (·.artifactId)).Nodup) {other : Id}
    (above : RankedAbove request (before ++ item :: after) item.artifactId other) :
    ¬ RankedAbove request (before ++ improved :: after) other item.artifactId := by
  intro demoted
  have perm := rankCandidates_perm request (before ++ item :: after)
  have differ : item.artifactId ≠ other := by
    rintro rfl
    exact List.nodup_iff_sublist.mp (perm.nodup_iff.mpr distinct) _ above
  have sameId : improved.artifactId = item.artifactId := by cases improves <;> rfl
  have sameIds : (before ++ improved :: after).map (·.artifactId) =
      (before ++ item :: after).map (·.artifactId) := by simp [sameId]
  have isRanked : other ∈ (before ++ item :: after).map (·.artifactId) :=
    perm.subset (above.subset (by simp))
  obtain ⟨lower, isIn, rfl⟩ := List.mem_map.mp isRanked
  have isLower : lower ∈ before ++ after := by
    refine (List.mem_cons.mp (List.perm_middle.mem_iff.mp isIn)).resolve_left ?_
    rintro rfl
    exact differ rfl
  obtain ⟨keyAbove, aboveTie⟩ := of_rankedAbove distinct (by simp) isIn above
  rw [← sameId] at demoted
  obtain ⟨keyBelow, belowTie⟩ := of_rankedAbove (sameIds ▸ distinct)
    (List.perm_middle.mem_iff.mpr (List.mem_cons_of_mem _ isLower)) (by simp) demoted
  obtain ⟨raised, others⟩ := improves.itemKey_le request before after
  have lowered := others lower isLower
  have first := aboveTie (le_antisymm (raised.trans (keyBelow.trans lowered)) keyAbove)
  have second := belowTie (le_antisymm (lowered.trans (keyAbove.trans raised)) keyBelow)
  rw [sameIds, sameId] at second
  have sameOrder := (distinct.perm_iff_eq_of_sublist first second).mp (List.Perm.swap _ _ _)
  exact differ (List.cons.inj sameOrder).1

theorem fairScores_iff [DecidableEq Id] (distinct : (eligible.map (·.artifactId)).Nodup) :
    FairScores request eligible ↔ ∀ value ∈ (scoreRanges eligible).latency,
      ∃ other ∈ (scoreRanges eligible).latency, other ≠ value := by
  have mem : ∀ (measure : EligibleArtifactEvidence Id Value → Option Value),
      ∀ item ∈ eligible, ∀ value, measure item = some value →
        value ∈ eligible.filterMap measure :=
    fun measure item isItem value measured => List.mem_filterMap.mpr ⟨item, isItem, measured⟩
  constructor
  · intro fair value isValue
    obtain ⟨item, isItem, measured⟩ := List.mem_filterMap.mp isValue
    exact (normalizeLower_fair_iff (mem _ item isItem)).mp (fair.latency item isItem) value measured
  · intro differ
    refine ⟨?_, fun item isItem => normalizeHigher_fair (mem _ item isItem),
      fun item isItem => normalizeHigher_fair (mem _ item isItem), fun item isItem =>
        (normalizeLower_fair_iff (mem _ item isItem)).mpr fun best measured =>
          differ best (mem _ item isItem best measured), fun item isItem => bounded_mem _⟩
    rintro before item after improved rfl improves other above
    exact improves.not_demoted distinct above

def evenRequest : RecommendationRequest Rat where
  gpuVramGb := 8
  weights := ⟨1, 1, 1, 1, by decide +kernel, by decide +kernel⟩
  squareRoot := id

def measuredItem (artifactId : Nat) (latency : Rat) : EligibleArtifactEvidence Nat Rat :=
  ⟨artifactId, none, none, some 1, some latency, some 1, none, 3⟩

theorem fairScores_measured : FairScores evenRequest [measuredItem 0 1, measuredItem 1 2] :=
  (fairScores_iff (by decide)).mpr (by decide +kernel)

/-- The only measured latency counts for nothing. -/
theorem not_fairScores_single : ¬ FairScores evenRequest [measuredItem 0 1] := by
  intro fair
  have component := (fair.latency (measuredItem 0 1) (by simp)).best 1 rfl (by decide +kernel)
  exact absurd component (by decide +kernel)

end ModelAtlas.Recommendations
