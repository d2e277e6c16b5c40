import ModelAtlas.Approval.Policy

/-!
# Score tiers

`classify_score_tier` of `services/evidence_trust.py` and `_score_source` of
`services/judge_label_review.py`: two readings of the provenance of a score, of
the metadata of a result and the candidate labels of its case.
-/

namespace ModelAtlas.Labels

open Foundations
open Approval (TextEnvironment)

/-- `metadata_json` of a result. -/
abbrev Metadata := String → Option Json

def mappingOf (value : Option Json) : Json :=
  match value with
  | some (.obj members) => .obj members
  | _ => .obj []

/-- `value.get(name) is True`. -/
def isTrue (value : Json) (name : String) : Bool :=
  match value.get? name with
  | some (.bool flag) => flag
  | _ => false

structure EvaluationCase where
  referenceContext : Json
  criticality : Option String

inductive ScoreTier where
  | heuristic
  | candidateJudgeLabel
  | appliedJudgeLabel
  | humanReviewed
  | unknown
  deriving DecidableEq, Repr

section Tiers

variable (text : TextEnvironment) (metadata : Metadata)

/-- The sources that `_has_explicit_human_review` takes for a human. -/
def humanSources : List String :=
  ["human", "human_review", "human_reviewer", "manual_review"]

def isHumanSource (source : Option Json) : Bool :=
  humanSources.contains (text.lower (pyStrip (Json.pyStrOrEmpty text.render source)))

def hasReviewMarks : Bool :=
  let humanReview := mappingOf (metadata "human_review")
  let review := mappingOf (metadata "review")
  (match metadata "human_reviewed" with
    | some (.bool flag) => flag
    | _ => false) ||
  isTrue humanReview "reviewed" || isTrue humanReview "applied" ||
  isTrue review "human_reviewed" ||
  Json.isText (review.get? "reviewer_type") "human"

def isReviewedLabel (label : Json) : Bool :=
  isTrue label "applied" && (isTrue label "human_reviewed" ||
    Json.isText (label.get? "reviewer_type") "human")

def hasExplicitHumanReview : Bool :=
  let label := mappingOf (metadata "judge_label")
  hasReviewMarks metadata ||
    (isTrue label "applied" && (isTrue label "human_reviewed" ||
      Json.isText (label.get? "reviewer_type") "human" ||
      isHumanSource text (label.get? "source")))

def candidateJudgeLabels (evalCase : Option EvaluationCase) : Json :=
  match evalCase with
  | none => .obj []
  | some stored =>
    mappingOf ((mappingOf (some stored.referenceContext)).get? "judge_labels")

def classifyScoreTier (evalCase : Option EvaluationCase) : ScoreTier :=
  let label := mappingOf (metadata "judge_label")
  let scorer := mappingOf (metadata "scorer")
  if hasExplicitHumanReview text metadata then .humanReviewed
  else if isTrue label "applied" then .appliedJudgeLabel
  else if (candidateJudgeLabels evalCase).truthy then .candidateJudgeLabel
  else if [scorer.get? "scorer_id", scorer.get? "scorer_version",
      scorer.get? "version", metadata "scorer_id",
      metadata "scorer_version"].any (·.any Json.truthy) then .heuristic
  else .unknown

inductive ScoreSource where
  | humanReviewed
  | appliedJudgeLabel
  | candidateJudgeLabel
  | heuristic
  | rawLabel
  | unlabeled
  deriving DecidableEq, Repr

/-- `_score_source` of `_review_row`: an empty mapping is none. -/
def scoreSource (humanLabel : Option String) (evalCase : Option EvaluationCase) : ScoreSource :=
  let label := mappingOf (metadata "judge_label")
  if isReviewedLabel label then .humanReviewed
  else if isTrue label "applied" then .appliedJudgeLabel
  else if (candidateJudgeLabels evalCase).truthy then .candidateJudgeLabel
  else if (mappingOf (metadata "scorer")).truthy then .heuristic
  else if humanLabel.any (· ≠ "") then .rawLabel
  else .unlabeled

variable {text metadata} {evalCase : Option EvaluationCase}
  {humanLabel : Option String}

theorem classifyScoreTier_eq_humanReviewed :
    classifyScoreTier text metadata evalCase = .humanReviewed ↔
      hasExplicitHumanReview text metadata = true := by
  rw [classifyScoreTier]
  by_cases reviewed : hasExplicitHumanReview text metadata = true
  · simp [reviewed]
  · simp only [reviewed, Bool.false_eq_true, if_false, iff_false]
    split_ifs <;> intro equal <;> cases equal

theorem classifyScoreTier_eq_appliedJudgeLabel :
    classifyScoreTier text metadata evalCase = .appliedJudgeLabel ↔
      hasExplicitHumanReview text metadata = false ∧
        isTrue (mappingOf (metadata "judge_label")) "applied" = true := by
  rw [classifyScoreTier]
  by_cases reviewed : hasExplicitHumanReview text metadata = true
  · simp [reviewed]
  · by_cases applied :
      isTrue (mappingOf (metadata "judge_label")) "applied" = true
    · simp [reviewed, applied]
    · simp only [reviewed, applied, Bool.false_eq_true, if_false, and_false, iff_false]
      split_ifs <;> intro equal <;> cases equal

theorem scoreSource_eq_humanReviewed : scoreSource metadata humanLabel evalCase = .humanReviewed ↔
      isReviewedLabel (mappingOf (metadata "judge_label")) = true := by
  rw [scoreSource]
  by_cases reviewed :
    isReviewedLabel (mappingOf (metadata "judge_label")) = true
  · simp [reviewed]
  · simp only [reviewed, Bool.false_eq_true, if_false, iff_false]
    split_ifs <;> intro equal <;> cases equal

theorem scoreSource_eq_appliedJudgeLabel :
    scoreSource metadata humanLabel evalCase = .appliedJudgeLabel ↔
      isReviewedLabel (mappingOf (metadata "judge_label")) = false ∧
        isTrue (mappingOf (metadata "judge_label")) "applied" = true := by
  rw [scoreSource]
  by_cases reviewed :
    isReviewedLabel (mappingOf (metadata "judge_label")) = true
  · simp [reviewed]
  · by_cases applied :
      isTrue (mappingOf (metadata "judge_label")) "applied" = true
    · simp [reviewed, applied]
    · simp only [reviewed, applied, Bool.false_eq_true, if_false, and_false, iff_false]
      split_ifs <;> intro equal <;> cases equal

theorem hasExplicitHumanReview_of_isReviewedLabel
    (reviewed : isReviewedLabel (mappingOf (metadata "judge_label")) = true) :
    hasExplicitHumanReview text metadata = true := by
  rw [isReviewedLabel, Bool.and_eq_true, Bool.or_eq_true] at reviewed
  obtain ⟨applied, flag | role⟩ := reviewed
  · simp [hasExplicitHumanReview, applied, flag]
  · simp [hasExplicitHumanReview, applied, role]

end Tiers

end ModelAtlas.Labels
