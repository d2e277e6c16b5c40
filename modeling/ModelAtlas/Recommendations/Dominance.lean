import ModelAtlas.Recommendations.Scoring

/-!
# Dominance in a ranking

`rank_candidates` on an artifact that is at least as good as another one in all that it
scores, for any weights.
-/

namespace ModelAtlas.Recommendations

open scoped List

variable {Id Value : Type} [Field Value] [LinearOrder Value]

/-- At least as good in what is measured of the lower one, in memory and in coverage. -/
structure AtLeastAsGood (upper lower : EligibleArtifactEvidence Id Value) : Prop where
  quality : ∀ value ∈ lower.quality, ∃ better ∈ upper.quality, value ≤ better
  latency : ∀ value ∈ lower.latency, ∃ better ∈ upper.latency, better ≤ value
  throughput : ∀ value ∈ lower.throughput, ∃ better ∈ upper.throughput, value ≤ better
  vram : vramSource upper ≤ vramSource lower
  coverage : lower.coverage ≤ upper.coverage

/-- A candidate with its score rounded, `round(score, 2)`. -/
def roundedCandidate (round : Value → Value) (request : RecommendationRequest Value)
    (eligible : List (EligibleArtifactEvidence Id Value))
    (item : EligibleArtifactEvidence Id Value) : RecommendationCandidate Id Value :=
  let candidate := candidateFromEvidence request (scoreRanges eligible) item
  { candidate with recommendationScore := round candidate.recommendationScore }

/-- `rank_candidates` with these scores. -/
def rankRounded [DecidableEq Id] (round : Value → Value) (request : RecommendationRequest Value)
    (eligible : List (EligibleArtifactEvidence Id Value)) :
    List (RecommendationCandidate Id Value) :=
  (withParetoFlags (eligible.map (roundedCandidate round request eligible))).mergeSort
    (fun left right => right.sortKey ≤ left.sortKey)

variable [IsStrictOrderedRing Value] {request : RecommendationRequest Value}
  {values : List Value} {worse other : Option Value}

theorem normalizeHigher_le (measured : ∀ better, other = some better → better ∈ values)
    (better : ∀ value ∈ worse, ∃ better ∈ other, value ≤ better) :
    normalizeHigher worse values ≤ normalizeHigher other values := by
  cases worse with
  | none => exact (normalizeHigher_mem measured).1
  | some value =>
    obtain ⟨raised, isRaised, le⟩ := better value rfl
    obtain rfl : other = some raised := isRaised
    obtain ⟨low, high, isLow, isHigh⟩ := exists_range (List.ne_nil_of_mem (measured raised rfl))
    rw [normalizeHigher_eq isLow isHigh, normalizeHigher_eq isLow isHigh, share, share]
    split
    · exact le_rfl
    · have range : 0 ≤ high - low := sub_nonneg.mpr (isLow.2 high isHigh.1)
      gcongr

theorem normalizeLower_nonneg (measured : ∀ better, other = some better → better ∈ values) :
    0 ≤ normalizeLower other values := by
  rw [normalizeLower]
  split
  · exact le_rfl
  · exact sub_nonneg.mpr (normalizeHigher_mem measured).2

theorem normalizeLower_le (within : ∀ value, worse = some value → value ∈ values)
    (measured : ∀ better, other = some better → better ∈ values)
    (better : ∀ value ∈ worse, ∃ better ∈ other, better ≤ value) :
    normalizeLower worse values ≤ normalizeLower other values := by
  cases worse with
  | none => exact normalizeLower_nonneg measured
  | some value =>
    obtain ⟨lowered, isLowered, le⟩ := better value rfl
    obtain rfl : other = some lowered := isLowered
    rw [normalizeLower, normalizeLower, if_neg (by simp), if_neg (by simp)]
    refine sub_le_sub_left (normalizeHigher_le within ?_) 1
    rintro _ ⟨rfl⟩
    exact ⟨value, rfl, le⟩

theorem evidenceConfidence_mono
    (isMonotone : ∀ left right, 0 ≤ left → left ≤ right →
      request.squareRoot left ≤ request.squareRoot right)
    {fewer more : Nat} (covered : fewer ≤ more) :
    evidenceConfidence request fewer ≤ evidenceConfidence request more := by
  rw [evidenceConfidence, evidenceConfidence]
  split
  · split
    · exact le_rfl
    · exact (bounded_mem _).1
  · rw [if_neg (by omega)]
    refine max_le_max_left 0 (min_le_min_left 1 (isMonotone _ _ (by positivity) ?_))
    gcongr

variable {eligible : List (EligibleArtifactEvidence Id Value)}
  {upper lower : EligibleArtifactEvidence Id Value}

theorem AtLeastAsGood.score_le (asGood : AtLeastAsGood upper lower)
    (isMonotone : ∀ left right, 0 ≤ left → left ≤ right →
      request.squareRoot left ≤ request.squareRoot right)
    (isUpper : upper ∈ eligible) (isLower : lower ∈ eligible) :
    (candidateFromEvidence request (scoreRanges eligible) lower).recommendationScore ≤
      (candidateFromEvidence request (scoreRanges eligible) upper).recommendationScore := by
  have mem : ∀ (measure : EligibleArtifactEvidence Id Value → Option Value),
      ∀ item ∈ eligible, ∀ value, measure item = some value →
        value ∈ eligible.filterMap measure :=
    fun measure item isItem value measured => List.mem_filterMap.mpr ⟨item, isItem, measured⟩
  have components : recommendationScore request
      (scoreComponents request (scoreRanges eligible) lower) lower.coverage ≤
      recommendationScore request (scoreComponents request (scoreRanges eligible) upper)
        lower.coverage := by
    refine recommendationScore_mono _ (normalizeHigher_le (mem _ upper isUpper) asGood.quality)
      (normalizeLower_le (mem _ lower isLower) (mem _ upper isUpper) asGood.latency)
      (normalizeHigher_le (mem _ upper isUpper) asGood.throughput) ?_
    refine max_le_max_left 0 (min_le_min_left 1 (sub_le_sub_left ?_ 1))
    exact div_le_div_of_nonneg_right asGood.vram (Nat.cast_nonneg _)
  refine components.trans ?_
  obtain ⟨quality, latency, throughput, vram⟩ := request.weights.nonneg
  refine mul_le_mul_of_nonneg_left (evidenceConfidence_mono isMonotone asGood.coverage)
    (div_nonneg (mul_nonneg (by norm_num) ?_) request.weights.positive.le)
  have byQuality := mul_nonneg quality (normalizeHigher_mem (mem (·.quality) upper isUpper)).1
  have byLatency := mul_nonneg latency (normalizeLower_nonneg (mem (·.latency) upper isUpper))
  have byThroughput :=
    mul_nonneg throughput (normalizeHigher_mem (mem (·.throughput) upper isUpper)).1
  have byVram := mul_nonneg vram
    (bounded_mem (1 - vramSource upper / (max request.gpuVramGb 1 : Nat))).1
  exact add_nonneg (add_nonneg (add_nonneg byQuality byLatency) byThroughput) byVram

/-- An artifact is above one that is at least as good only where both have one score. -/
theorem rankRounded_keepsDominance [DecidableEq Id] {round : Value → Value}
    (isRounding : Monotone round)
    (isMonotone : ∀ left right, 0 ≤ left → left ≤ right →
      request.squareRoot left ≤ request.squareRoot right)
    (distinct : (eligible.map (·.artifactId)).Nodup) (isUpper : upper ∈ eligible)
    (isLower : lower ∈ eligible) (asGood : AtLeastAsGood upper lower)
    (above : [lower.artifactId, upper.artifactId] <+
      (rankRounded round request eligible).map (·.artifactId)) :
    (roundedCandidate round request eligible lower).recommendationScore =
      (roundedCandidate round request eligible upper).recommendationScore := by
  have key := (of_sublist_mergeSort distinct isLower isUpper (by
    rw [rankRounded, withParetoFlags, List.map_map, ← List.map_mergeSort (r := fun left right =>
      (roundedCandidate round request eligible right).sortKey ≤
        (roundedCandidate round request eligible left).sortKey), List.map_map] at above
    · exact above
    · exact fun _ _ _ _ => rfl)).1
  refine le_antisymm (isRounding (asGood.score_le isMonotone isUpper isLower)) ?_
  rcases Prod.Lex.toLex_le_toLex.mp key with less | ⟨same, _⟩
  · exact less.le
  · exact same.le

theorem rankRounded_keepsDominance_tied :
    (roundedCandidate id evenRequest [measuredItem 0 2, measuredItem 1 2]
        (measuredItem 0 2)).recommendationScore =
      (roundedCandidate id evenRequest [measuredItem 0 2, measuredItem 1 2]
        (measuredItem 1 2)).recommendationScore := by
  have asGood : AtLeastAsGood (measuredItem 1 2) (measuredItem 0 2) :=
    ⟨fun value held => ⟨value, held, le_rfl⟩, fun value held => ⟨value, held, le_rfl⟩,
      fun value held => ⟨value, held, le_rfl⟩, le_rfl, le_rfl⟩
  refine rankRounded_keepsDominance monotone_id (fun _ _ _ less => less) (by decide) (by simp)
    (by simp) asGood ?_
  rw [rankRounded, List.mergeSort_of_pairwise (by decide +kernel)]
  exact List.Sublist.refl _

end ModelAtlas.Recommendations
